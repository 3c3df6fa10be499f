import CosmeticRules.Proofs.Css.ReadPrinted
import CosmeticRules.Proofs.XPath.Printing

/-!
The expression text of a path is read as the expression of that path: first its tokens, then its steps.
-/

namespace CosmeticRules

open PlainText Text

/-! The tokens of a path. -/

/-- The tokens of a condition between its brackets. -/
def AttributeCondition.innerTokens (condition : AttributeCondition) : List XPath.Token :=
  match condition.value with
  | none => [.atSign, .name condition.name]
  | some value => [.atSign, .name condition.name, .comparison .equal, .literal value]

def AttributeCondition.tokens (condition : AttributeCondition) : List XPath.Token :=
  .openBracket :: (condition.innerTokens ++ [.closeBracket])

def ElementTest.tokens (test : ElementTest) : List XPath.Token :=
  (test.tag.map .name).getD .star :: test.conditions.flatMap (·.tokens)

def Hop.token : Hop → XPath.Token
  | child => .slash
  | below => .doubleSlash

def PathStep.tokens (step : PathStep) : List XPath.Token := step.hop.token :: step.test.tokens

/-! Names. -/

/-- Plain characters go on with a name, and letters in lower case and underscores begin one and nothing else. -/
theorem classes_of_isPlainChar {c : Char} (plain : isPlainChar c = true) :
    XPath.Token.isNameChar c = true ∧ (c.isUpper = false → c.toLower = c) ∧
      ((c.isLower || c.isDigit || c == '-' || c == '_') = true → c.isUpper = false) ∧
      ((c.isLower || c == '_') = true → XPath.Token.isNameStart c = true ∧ c.isDigit = false ∧
        c ∉ ['.', '"', '\'', '/', '=']) := by
  apply of_decide_eq_true
  apply forall_isPlainChar _ plain
  decide +kernel

theorem isPlainChar_of_named {c : Char} (named : (c.isLower || c.isDigit || c == '-' || c == '_') = true) :
    isPlainChar c = true ∧ c.isUpper = false := by
  have plain : (c.isUpper || c.isLower || c.isDigit || c == '-' || c == '_') = true := by
    simp only [Bool.or_assoc] at named ⊢
    rw [named, Bool.or_true]
  exact ⟨plain, (classes_of_isPlainChar plain).2.2.1 named⟩

/-- The characters of a name: plain ones of which none is in upper case, and first a letter or an underscore. -/
theorem isAttributeName_iff {name : String} : isAttributeName name = true ↔
    ∃ c rest, name.toList = c :: rest ∧ (c.isLower || c == '_') = true ∧
      ∀ d ∈ rest, (d.isLower || d.isDigit || d == '-' || d == '_') = true := by
  unfold isAttributeName
  split
  · rename_i empty
    simp [empty]
  · rename_i c rest split
    simp [split]

/-- All characters of a name are plain, and none is in upper case. -/
theorem plain_of_isAttributeName {name : String} (named : isAttributeName name = true) :
    ∀ c ∈ name.toList, isPlainChar c = true ∧ c.isUpper = false := by
  obtain ⟨c, rest, split, first, later⟩ := isAttributeName_iff.mp named
  intro d member
  rw [split] at member
  rcases List.mem_cons.mp member with rfl | inRest
  · refine isPlainChar_of_named ?_
    simp only [Bool.or_eq_true] at first ⊢
    exact first.elim (fun lower => .inl (.inl (.inl lower))) .inr
  · exact isPlainChar_of_named (later d inRest)

theorem isAttributeName_of_isTagName {name : String} (named : isTagName name = true) :
    isAttributeName name = true := by
  unfold isTagName at named
  unfold isAttributeName
  split at named
  · exact absurd named Bool.false_ne_true
  · rename_i c rest split
    obtain ⟨first, later⟩ := Bool.and_eq_true_iff.mp named
    simp only [first, Bool.true_or, Bool.true_and, List.all_eq_true] at later ⊢
    exact fun d member => by rw [later d member, Bool.true_or]

theorem lowerName_of_isAttributeName {name : String} (named : isAttributeName name = true) :
    lowerName name = name := by
  have same : asciiLower name.toList = name.toList := by
    refine (List.map_congr_left fun c member => ?_).trans (List.map_id _)
    obtain ⟨plain, small⟩ := plain_of_isAttributeName named c member
    exact (classes_of_isPlainChar plain).2.1 small
  rw [lowerName, same, String.ofList_toList]

namespace XPath

/-! Tokens. -/

namespace Token

variable {rest after : List Char} {tokens : List Token}

theorem read_nil : read [] = .ok [] := read.eq_def []

theorem read_blank {c : Char} (blank : isBlank c = true) (rest : List Char) : read (c :: rest) = read rest := by
  rw [read.eq_def]
  simp only [blank, if_true]

theorem read_next {c : Char} {token : Token} (dark : isBlank c = false) (found : next c rest = .ok (token, after))
    (more : read after = .ok tokens) : read (c :: rest) = .ok (token :: tokens) := by
  rw [read.eq_def]
  simp only [dark, Bool.false_eq_true, if_false]
  split
  · rename_i e failed
    rw [found] at failed
    cases failed
  · rename_i other rest same
    rw [found] at same
    obtain ⟨rfl, rfl⟩ := Prod.mk.inj (Except.ok.inj same)
    rw [more]
    rfl

/-- No name goes on with the text. -/
def EndsName (rest : List Char) : Prop := ∀ c, rest.head? = some c → isNameChar c = false

theorem read_name {name : String} (named : isAttributeName name = true) (ends : EndsName rest)
    (more : read rest = .ok tokens) : read (name.toList ++ rest) = .ok (.name name :: tokens) := by
  obtain ⟨c, tail, split, first, _⟩ := isAttributeName_iff.mp named
  have plain := plain_of_isAttributeName named
  rw [split] at plain ⊢
  have dark := isBlank_of_isPlainChar (plain c List.mem_cons_self).1
  obtain ⟨start, digit, others⟩ := (classes_of_isPlainChar (plain c List.mem_cons_self).1).2.2.2 first
  simp only [List.mem_cons, not_or] at others
  obtain ⟨point, double, single, _⟩ := others
  have inside : ∀ d ∈ tail, isNameChar d = true := fun d member =>
    (classes_of_isPlainChar (plain d (.tail _ member)).1).1
  have other : startsNumber (c :: (tail ++ rest)) = false := by
    rw [startsNumber.eq_2 _ _ fun _ _ same => absurd same point, digit]
  have taken : (tail ++ rest).takeWhile isNameChar = tail ∧ (tail ++ rest).dropWhile isNameChar = rest := by
    rw [List.takeWhile_append_of_pos inside, List.dropWhile_append_of_pos inside]
    cases rest with
    | nil => simp
    | cons d rest => simp [ends d rfl]
  have found : next c (tail ++ rest) = .ok (.name name, rest) := by
    rw [next, if_neg (by simp [other]), if_neg (by simp [double, single]), if_pos start, taken.1, taken.2, ← split,
      String.ofList_toList]
  exact read_next dark found more

/-- The characters of signs, but for the point, which may start a number. -/
def signChars : List Char := ['/', '[', ']', '(', ')', ',', '|', ':', '@', '*', '=', '!', '<', '>']

/-- Spaces, quotes and signs are in no name. -/
theorem no_name_of_sign : ∀ c ∈ ' ' :: '"' :: signChars, isNameStart c = false ∧ isNameChar c = false := by
  decide +kernel

theorem read_sign {c : Char} (signs : c ∈ signChars) {token : Token}
    (found : sign? (c :: rest) = some (token, after)) (more : read after = .ok tokens) :
    read (c :: rest) = .ok (token :: tokens) := by
  have facts : ∀ c ∈ signChars, isBlank c = false ∧ c.isDigit = false ∧ c ≠ '.' ∧ c ≠ '"' ∧ c ≠ '\'' := by decide
  obtain ⟨dark, digit, point, double, single⟩ := facts c signs
  have other := (no_name_of_sign c (.tail _ (.tail _ signs))).1
  have number : startsNumber (c :: rest) = false := by
    rw [startsNumber.eq_2 _ _ fun _ _ same => absurd same point, digit]
  refine read_next dark ?_ more
  rw [next, if_neg (by simp [number]), if_neg (by simp [double, single]), if_neg (by simp [other]), found]

theorem read_literal {value : List Char} (unquoted : '"' ∉ value) (more : read rest = .ok tokens) :
    read ('"' :: (value ++ '"' :: rest)) = .ok (.literal (String.ofList value) :: tokens) := by
  refine read_next (by decide) ?_ more
  rw [next, if_neg (by simp [startsNumber]), if_pos (.inl rfl), splitFirst?_append unquoted]

/-! The tokens of a path. -/

theorem endsName_nil : EndsName [] := by
  rintro c same
  cases same

theorem endsName_sign {c : Char} (signs : c ∈ signChars) : EndsName (c :: rest) := by
  rintro d same
  exact Option.some.inj same ▸ (no_name_of_sign c (.tail _ (.tail _ signs))).2

theorem read_condition {condition : AttributeCondition} (plain : condition.isPlain = true)
    (more : read rest = .ok tokens) :
    read (condition.print ['@'] ++ rest) = .ok (condition.tokens ++ tokens) := by
  obtain ⟨name, value⟩ := condition
  simp only [AttributeCondition.isPlain, Bool.and_eq_true] at plain
  obtain ⟨⟨named, _⟩, unquoted⟩ := plain
  have closed : read (']' :: rest) = .ok (.closeBracket :: tokens) := read_sign (by decide) rfl more
  cases value with
  | none =>
    have ends : EndsName (']' :: rest) := endsName_sign (by decide)
    have text : AttributeCondition.print ['@'] ⟨name, none⟩ ++ rest =
        '[' :: '@' :: (name.toList ++ ']' :: rest) := by
      simp [AttributeCondition.print, AttributeCondition.inner]
    rw [text]
    exact read_sign (by decide) rfl (read_sign (by decide) rfl (read_name named ends closed))
  | some value =>
    have fresh : '"' ∉ value.toList := by
      intro member
      have other := List.all_eq_true.mp unquoted '"' member
      simp at other
    have ends : EndsName ('=' :: '"' :: (value.toList ++ '"' :: ']' :: rest)) := endsName_sign (by decide)
    have text : AttributeCondition.print ['@'] ⟨name, some value⟩ ++ rest =
        '[' :: '@' :: (name.toList ++ '=' :: '"' :: (value.toList ++ '"' :: ']' :: rest)) := by
      simp [AttributeCondition.print, AttributeCondition.inner]
    have compared := read_literal fresh closed
    rw [String.ofList_toList] at compared
    rw [text]
    exact read_sign (by decide) rfl (read_sign (by decide) rfl (read_name named ends
      (read_sign (by decide) rfl compared)))

theorem read_conditions {conditions : List AttributeCondition} (plain : conditions.all (·.isPlain) = true)
    (more : read rest = .ok tokens) :
    read (conditions.flatMap (·.print ['@']) ++ rest) = .ok (conditions.flatMap (·.tokens) ++ tokens) := by
  induction conditions with
  | nil => exact more
  | cons condition others ih =>
    obtain ⟨first, later⟩ := Bool.and_eq_true_iff.mp plain
    rw [List.flatMap_cons, List.flatMap_cons, List.append_assoc, List.append_assoc]
    exact read_condition first (ih later)

theorem endsName_conditions (conditions : List AttributeCondition) (ends : EndsName rest) :
    EndsName (conditions.flatMap (·.print ['@']) ++ rest) := by
  cases conditions with
  | nil => exact ends
  | cons condition others => exact endsName_sign (by decide)

theorem read_test {test : ElementTest} (plain : test.isPlain = true) (ends : EndsName rest)
    (more : read rest = .ok tokens) : read (test.print ['@'] ++ rest) = .ok (test.tokens ++ tokens) := by
  obtain ⟨tag, conditions⟩ := test
  obtain ⟨named, later⟩ := Bool.and_eq_true_iff.mp plain
  have others := read_conditions later more
  rw [ElementTest.print, List.append_assoc]
  cases tag with
  | none => exact read_sign (by decide) rfl others
  | some tag =>
    have named := isAttributeName_of_isTagName (Bool.and_eq_true_iff.mp named).1
    exact read_name named (endsName_conditions conditions ends) others

/-- No test starts with a slash. -/
theorem exists_print_eq_cons {test : ElementTest} (plain : test.isPlain = true) (mark : List Char) :
    ∃ c more, test.print mark = c :: more ∧ c ≠ '/' := by
  obtain ⟨tag, conditions⟩ := test
  obtain ⟨named, _⟩ := Bool.and_eq_true_iff.mp plain
  cases tag with
  | none => exact ⟨'*', _, rfl, by decide⟩
  | some tag =>
    have named := isAttributeName_of_isTagName (Bool.and_eq_true_iff.mp named).1
    obtain ⟨c, tail, split, first, _⟩ := isAttributeName_iff.mp named
    refine ⟨c, tail ++ conditions.flatMap (·.print mark), by simp [ElementTest.print, split], ?_⟩
    rintro rfl
    exact absurd first (by decide)

theorem read_step {step : PathStep} (plain : step.test.isPlain = true) (ends : EndsName rest)
    (more : read rest = .ok tokens) :
    read (step.hop.slashes ++ step.test.print ['@'] ++ rest) = .ok (step.tokens ++ tokens) := by
  obtain ⟨hop, test⟩ := step
  have tested := read_test plain ends more
  cases hop with
  | below => exact read_sign (by decide) rfl tested
  | child =>
    -- A single slash is one only because no second slash follows.
    obtain ⟨c, text, split, other⟩ := exists_print_eq_cons plain ['@']
    rw [split] at tested
    have slash : sign? ('/' :: c :: (text ++ rest)) = some (.slash, c :: (text ++ rest)) := by
      simp [sign?, other]
    have text : Hop.child.slashes ++ test.print ['@'] ++ rest = '/' :: c :: (text ++ rest) := by
      rw [split]
      rfl
    rw [text]
    exact read_sign (by decide) slash tested

/-- The tokens of the text of a path. -/
theorem read_path {steps : List PathStep} (plain : steps.all (·.test.isPlain) = true) :
    read (steps.flatMap fun step => step.hop.slashes ++ step.test.print ['@']) =
      .ok (steps.flatMap (·.tokens)) := by
  induction steps with
  | nil => rw [List.flatMap_nil, List.flatMap_nil, read_nil]
  | cons step others ih =>
    obtain ⟨first, later⟩ := Bool.and_eq_true_iff.mp plain
    have ends : EndsName (others.flatMap fun step => step.hop.slashes ++ step.test.print ['@']) := by
      cases others with
      | nil => exact endsName_nil
      | cons next _ =>
        obtain ⟨hop, test⟩ := next
        cases hop <;> exact endsName_sign (by decide)
    exact read_step first ends (ih later)

end Token

/-! The expression of a path. -/

section joined

variable {operand : TokenReader Expr} {joint? : Token → Option (Expr → Expr → Expr)} {tokens rest : List Token}
  {left right : Expr}

theorem joinFrom_stop (count : Nat) (stop : ∀ token, rest.head? = some token → joint? token = none) :
    joinFrom operand joint? count left rest = .ok (left, rest) := by
  cases rest with
  | nil => cases count <;> rfl
  | cons token rest =>
    cases count with
    | zero => rfl
    | succ count => rw [joinFrom, stop token rfl]

theorem joined_stop (read : operand tokens = .ok (left, rest))
    (stop : ∀ token, rest.head? = some token → joint? token = none) :
    joined operand joint? tokens = .ok (left, rest) := by
  rw [joined, read]
  exact joinFrom_stop rest.length stop

theorem joined_once {token : Token} {join : Expr → Expr → Expr} {after : List Token}
    (read : operand tokens = .ok (left, token :: after)) (joins : joint? token = some join)
    (next : operand after = .ok (right, rest)) (stop : ∀ token, rest.head? = some token → joint? token = none) :
    joined operand joint? tokens = .ok (join left right, rest) := by
  rw [joined, read]
  simp only [bind, Except.bind, List.length_cons, joinFrom, joins, next]
  exact joinFrom_stop _ stop

end joined

/-- A list of tokens that begins with one of the given tokens, if it is not empty. -/
def Follows (allowed rest : List Token) : Prop := ∀ token, rest.head? = some token → token ∈ allowed

section follows

variable {allowed wider rest : List Token} {token : Token}

theorem follows_nil : Follows allowed [] := by
  rintro token same
  cases same

theorem follows_cons (member : token ∈ allowed) : Follows allowed (token :: rest) :=
  fun _ same => Option.some.inj same ▸ member

theorem Follows.mono (follows : Follows allowed rest) (subset : allowed ⊆ wider) : Follows wider rest :=
  fun token same => subset (follows token same)

theorem Follows.head?_ne (follows : Follows allowed rest) (other : token ∉ allowed) : rest.head? ≠ some token :=
  fun same => other (follows token same)

/-- No operator of a level follows. -/
theorem Follows.stop (follows : Follows allowed rest) {joint? : Token → Option (Expr → Expr → Expr)}
    (none : allowed.all fun token => (joint? token).isNone) :
    ∀ token, rest.head? = some token → joint? token = Option.none :=
  fun token same => Option.isNone_iff_eq_none.mp (List.all_eq_true.mp none token (follows token same))

end follows

/-- The tokens after which an expression in brackets or parentheses is over. -/
def closers : List Token := [.closeBracket, .closeParenthesis, .comma]

section nested

variable {depth : Nat} {tokens rest after : List Token} {e right : Expr}

theorem readNested_operand (ends : Follows closers rest)
    (read : Expr.operand (Expr.readNested depth) tokens = .ok (e, rest)) :
    Expr.readNested (depth + 1) tokens = .ok (e, rest) := by
  rw [Expr.readNested]
  refine joined_stop (joined_stop (joined_stop (joined_stop read ?_) ?_) ?_) ?_
  all_goals exact ends.stop rfl

theorem readNested_compare {c : Comparison} (ends : Follows closers rest)
    (read : Expr.operand (Expr.readNested depth) tokens = .ok (e, .comparison c :: after))
    (next : Expr.operand (Expr.readNested depth) after = .ok (right, rest)) :
    Expr.readNested (depth + 1) tokens = .ok (.compare e c right, rest) := by
  have comparison : Follows [.comparison c] (.comparison c :: after) := follows_cons List.mem_cons_self
  have joins : Expr.comparisonOperator? (.comparison c) = some fun left right => .compare left c right := rfl
  rw [Expr.readNested]
  refine joined_stop (joined_stop (joined_once (joined_stop read ?_) joins (joined_stop next ?_) ?_) ?_) ?_
  · exact comparison.stop rfl
  all_goals exact ends.stop rfl

/-- A name in lower case that is not a type of nodes. -/
theorem nodeTest_name {name : String} (lower : lowerName name = name) (other : NodeTest.isType name = false)
    (rest : List Token) :
    NodeTest.read (.name name :: rest) = .ok (.name name, rest) := by
  rw [lowerName] at lower
  rw [NodeTest.read, other, if_neg Bool.false_ne_true, lower]

/-- The path to an attribute. -/
theorem operand_attribute {condition : AttributeCondition} (plain : condition.isPlain = true) {token : Token}
    (ends : token = .closeBracket ∨ token = .comparison .equal) (nested : TokenReader Expr) :
    Expr.operand nested (.atSign :: .name condition.name :: token :: rest) =
      .ok (.path false [condition.attributeStep], token :: rest) := by
  simp only [AttributeCondition.isPlain, Bool.and_eq_true, Bool.not_eq_true'] at plain
  obtain ⟨⟨named, other⟩, _⟩ := plain
  have tested := nodeTest_name (lowerName_of_isAttributeName named) other (token :: rest)
  have step : Step.read nested (.atSign :: .name condition.name :: token :: rest) =
      .ok (condition.attributeStep, token :: rest) := by
    simp only [Step.read, Axis.read, bind, Except.bind, tested]
    rcases ends with rfl | rfl <;> rfl
  simp only [Expr.operand, locationPath, steps, bind, Except.bind, step]
  rcases ends with rfl | rfl <;> rfl

theorem readNested_condition (depth : Nat) {condition : AttributeCondition} (plain : condition.isPlain = true)
    (rest : List Token) :
    Expr.readNested (depth + 1) (condition.innerTokens ++ .closeBracket :: rest) =
      .ok (condition.expr, .closeBracket :: rest) := by
  have ends : Follows closers (.closeBracket :: rest) := follows_cons (by decide)
  cases value : condition.value with
  | none =>
    rw [AttributeCondition.innerTokens, AttributeCondition.expr, value]
    exact readNested_operand ends (operand_attribute plain (.inl rfl) _)
  | some expected =>
    rw [AttributeCondition.innerTokens, AttributeCondition.expr, value]
    exact readNested_compare ends (operand_attribute plain (.inr rfl) _) rfl

section predicates

variable {α : Type} {nested : TokenReader Expr} {inner : α → List Token} {expr : α → Expr} {predicates : List α}
  (each : ∀ p ∈ predicates, ∀ rest, nested (inner p ++ .closeBracket :: rest) = .ok (expr p, .closeBracket :: rest))
  (ends : rest.head? ≠ some .openBracket)

include each ends

theorem predicatesFrom_bracketed {count : Nat} (enough : predicates.length ≤ count) :
    predicatesFrom nested count ((predicates.flatMap fun p => bracketed (inner p)) ++ rest) =
      .ok (predicates.map expr, rest) := by
  induction predicates generalizing count with
  | nil =>
    rw [List.flatMap_nil, List.nil_append]
    unfold predicatesFrom
    split
    · exact absurd rfl ends
    · rfl
  | cons predicate others ih =>
    obtain ⟨first, later⟩ := List.forall_mem_cons.mp each
    obtain ⟨count, rfl⟩ := Nat.exists_eq_succ_of_ne_zero (Nat.ne_of_gt (Nat.zero_lt_of_lt enough))
    have more := ih later (Nat.le_of_succ_le_succ enough)
    have text : ((predicate :: others).flatMap fun p => bracketed (inner p)) ++ rest = .openBracket ::
        (inner predicate ++ .closeBracket :: ((others.flatMap fun p => bracketed (inner p)) ++ rest)) := by
      simp [bracketed]
    rw [text, predicatesFrom, first]
    simp only [bind, Except.bind, Token.expect, if_true, more]
    rfl

/-- Predicates are read one after the other where each is read up to its closing bracket. -/
theorem predicates_bracketed {tokens : List Token}
    (is : tokens = (predicates.flatMap fun p => bracketed (inner p)) ++ rest) :
    predicatesFrom nested tokens.length tokens = .ok (predicates.map expr, rest) := by
  subst is
  refine predicatesFrom_bracketed each ends ?_
  rw [List.length_append]
  exact Nat.le_add_right_of_le (length_le_flatMap (fun _ => List.cons_ne_nil _ _) predicates)

end predicates

/-- The tokens that may stand between two steps. -/
def stepMarks : List Token := [.slash, .doubleSlash]

theorem axis_name {word : String} (ends : rest.head? ≠ some .doubleColon) :
    Axis.read (.name word :: rest) = .ok (.child, .name word :: rest) := by
  unfold Axis.read
  split
  · rename_i same
    cases same
  · rename_i same
    obtain ⟨_, rfl⟩ := List.cons.inj same
    exact absurd rfl ends
  · rfl

theorem step_test (depth : Nat) {test : ElementTest} (plain : test.isPlain = true) (ends : Follows stepMarks rest) :
    Step.read (Expr.readNested (depth + 1)) (test.tokens ++ rest) = .ok (test.step, rest) := by
  obtain ⟨tag, conditions⟩ := test
  obtain ⟨named, plain⟩ := Bool.and_eq_true_iff.mp plain
  have each : ∀ condition ∈ conditions, ∀ rest, Expr.readNested (depth + 1)
      (condition.innerTokens ++ .closeBracket :: rest) = .ok (condition.expr, .closeBracket :: rest) :=
    fun condition member => readNested_condition depth (List.all_eq_true.mp plain condition member)
  have tokens : conditions.flatMap (·.tokens) ++ rest =
      (conditions.flatMap fun condition => bracketed condition.innerTokens) ++ rest := rfl
  have predicates := predicates_bracketed each (ends.head?_ne (by decide)) tokens
  cases tag with
  | none =>
    simp only [ElementTest.tokens, Option.map_none, Option.getD_none, List.cons_append, Step.read, Axis.read,
      NodeTest.read, bind, Except.bind, predicates]
    rfl
  | some tag =>
    obtain ⟨named, other⟩ := Bool.and_eq_true_iff.mp named
    have other : NodeTest.isType tag = false := by simpa using other
    have tested := nodeTest_name (lowerName_of_isAttributeName (isAttributeName_of_isTagName named)) other
      (conditions.flatMap (·.tokens) ++ rest)
    have axis : Axis.read (.name tag :: (conditions.flatMap (·.tokens) ++ rest)) =
        .ok (.child, .name tag :: (conditions.flatMap (·.tokens) ++ rest)) := by
      refine axis_name ?_
      cases conditions with
      | nil => exact ends.head?_ne (by decide)
      | cons condition others => simp [AttributeCondition.tokens]
    simp only [ElementTest.tokens, Option.map_some, Option.getD_some, List.cons_append, Step.read, axis,
      tested, bind, Except.bind, predicates]
    rfl

theorem follows_steps (steps : List PathStep) : Follows stepMarks (steps.flatMap (·.tokens)) := by
  cases steps with
  | nil => exact follows_nil
  | cons step others =>
    obtain ⟨hop, test⟩ := step
    cases hop with
    | child => exact follows_cons List.mem_cons_self
    | below => exact follows_cons (.tail _ List.mem_cons_self)

theorem stepsFrom_steps (depth : Nat) {steps : List PathStep} (plain : steps.all (·.test.isPlain) = true)
    {count : Nat} (enough : steps.length ≤ count) :
    stepsFrom (Expr.readNested (depth + 1)) count (steps.flatMap (·.tokens)) =
      .ok (steps.flatMap (·.steps), []) := by
  induction steps generalizing count with
  | nil => cases count <;> rfl
  | cons step others ih =>
    obtain ⟨first, later⟩ := Bool.and_eq_true_iff.mp plain
    obtain ⟨count, rfl⟩ := Nat.exists_eq_succ_of_ne_zero (Nat.ne_of_gt (Nat.zero_lt_of_lt enough))
    have more := ih later (Nat.le_of_succ_le_succ enough)
    have tested := step_test depth first (follows_steps others)
    obtain ⟨hop, test⟩ := step
    cases hop with
    | child =>
      have text : PathStep.tokens ⟨.child, test⟩ ++ others.flatMap (·.tokens) =
          .slash :: (test.tokens ++ others.flatMap (·.tokens)) := rfl
      rw [List.flatMap_cons, text, stepsFrom]
      simp only [bind, Except.bind, tested, more]
      rfl
    | below =>
      have text : PathStep.tokens ⟨.below, test⟩ ++ others.flatMap (·.tokens) =
          .doubleSlash :: (test.tokens ++ others.flatMap (·.tokens)) := rfl
      rw [List.flatMap_cons, text, stepsFrom]
      simp only [bind, Except.bind, tested, more]
      rfl

end nested

/-- The tokens of a path are read as its expression, at any depth of nesting at which predicates are read. -/
theorem readNested_path {path : ElementPath} (plain : path.isPlain = true) (depth : Nat) :
    Expr.readNested (depth + 2) (path.steps.flatMap (·.tokens)) = .ok (path.expr, []) := by
  obtain ⟨first, later⟩ := Bool.and_eq_true_iff.mp plain
  have started := step_test depth first (follows_steps path.rest)
  have enough : path.rest.length ≤ (path.rest.flatMap (·.tokens)).length :=
    length_le_flatMap (fun _ => List.cons_ne_nil _ _) path.rest
  have further := stepsFrom_steps depth later enough
  have text : path.steps.flatMap (·.tokens) = .doubleSlash :: (path.first.tokens ++ path.rest.flatMap (·.tokens)) :=
    rfl
  refine readNested_operand follows_nil ?_
  rw [text]
  simp only [Expr.operand, locationPath, steps, bind, Except.bind, started, further]
  rfl

/-- The text of a path is read as its expression. -/
theorem read_xpath {path : ElementPath} (plain : path.isPlain = true) : Expr.read path.xpath = .ok path.expr := by
  have tokens := Token.read_path plain
  have expression := readNested_path plain (path.first.tokens ++ path.rest.flatMap (·.tokens)).length
  rw [Expr.read, ElementPath.xpath, String.toList_ofList, tokens]
  have length : (path.steps.flatMap (·.tokens)).length =
      (path.first.tokens ++ path.rest.flatMap (·.tokens)).length + 1 := rfl
  simp only [bind, Except.bind, length, expression]
  rfl

end XPath

end CosmeticRules
