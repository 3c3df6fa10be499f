import CosmeticRules.Proofs.XPath.ReadTokens

/-!
The printed text of an expression is read as this expression.
-/

namespace CosmeticRules.XPath

theorem intercalate_singleton_cons {α : Type} (mark : α) (first : List α) (others : List (List α)) :
    [mark].intercalate (first :: others) = first ++ others.flatMap (mark :: ·) := by
  induction others generalizing first with
  | nil => simp
  | cons next others ih => rw [List.intercalate_cons_cons, ih, List.flatMap_cons]; simp

theorem isAttributeName_axis (axis : Axis) : isAttributeName axis.name = true := by
  cases axis <;> decide

theorem ofName?_name (axis : Axis) : Axis.ofName? axis.name = some axis := by
  cases axis <;> decide

theorem isWord_iff {name : String} :
    isWord name = true ↔ isAttributeName name = true ∧ NodeTest.isType name = false := by
  rw [isWord, Bool.and_eq_true, Bool.not_eq_true']

/-! Printed tokens are legible. -/

section legible

open XPath.Token

variable {allowed inner rest : List Token} {token next : Token}

theorem legible_cons (printable : token.isPrintable = true) (follows : Follows allowed rest)
    (apart : allowed.all fun next => !token.merges next) (later : Legible rest) : Legible (token :: rest) := by
  refine ⟨printable, fun next same => ?_, later⟩
  simpa using List.all_eq_true.mp apart next (follows next same)

theorem legible_cons_cons (printable : token.isPrintable = true) (apart : token.merges next = false)
    (later : Legible (next :: rest)) : Legible (token :: next :: rest) :=
  ⟨printable, fun _ same => Option.some.inj same ▸ apart, later⟩

theorem legible_sign (printable : token.isPrintable = true) (apart : ∀ next, token.merges next = false)
    (later : Legible rest) : Legible (token :: rest) :=
  ⟨printable, fun next _ => apart next, later⟩

/-- Tokens that are legible wherever an expression may end. -/
def Fits (inner : List Token) : Prop := ∀ rest, Follows closers rest → Legible rest → Legible (inner ++ rest)

theorem parenthesized_append : parenthesized inner ++ rest = .openParenthesis :: (inner ++ .closeParenthesis :: rest) := by
  simp [parenthesized]

theorem bracketed_append : bracketed inner ++ rest = .openBracket :: (inner ++ .closeBracket :: rest) := by
  simp [bracketed]

theorem legible_parenthesized (fits : Fits inner) (later : Legible rest) : Legible (parenthesized inner ++ rest) := by
  have closed : Legible (.closeParenthesis :: rest) := legible_sign rfl (fun _ => rfl) later
  rw [parenthesized_append]
  exact legible_sign rfl (fun _ => rfl) (fits _ (follows_cons (by decide)) closed)

theorem legible_bracketed (fits : Fits inner) (later : Legible rest) : Legible (bracketed inner ++ rest) := by
  have closed : Legible (.closeBracket :: rest) := legible_sign rfl (fun _ => rfl) later
  rw [bracketed_append]
  exact legible_sign rfl (fun _ => rfl) (fits _ (follows_cons (by decide)) closed)

theorem legible_predicates {inners : List (List Token)} (fits : ∀ inner ∈ inners, Fits inner) (later : Legible rest) :
    Legible (inners.flatMap bracketed ++ rest) := by
  induction inners with
  | nil => exact later
  | cons inner others ih =>
    obtain ⟨first, fits⟩ := List.forall_mem_cons.mp fits
    rw [List.flatMap_cons, List.append_assoc]
    exact legible_bracketed first (ih fits)

theorem follows_predicates (inners : List (List Token)) (ends : Follows allowed rest) :
    Follows (.openBracket :: allowed) (inners.flatMap bracketed ++ rest) := by
  cases inners with
  | nil => exact ends.mono (List.subset_cons_self _ _)
  | cons inner others => exact follows_cons List.mem_cons_self

/-- What stands after a step of a printed path. -/
def stepEnds : List Token := .slash :: closers

theorem legible_test {test : NodeTest} (printable : test.isPrintable = true)
    (follows : Follows (.openBracket :: stepEnds) rest) (later : Legible rest) : Legible (test.tokens ++ rest) := by
  cases test with
  | name word => exact legible_cons (isWord_iff.mp printable).1 follows rfl later
  | any => exact legible_sign rfl (fun _ => rfl) later
  | text | node =>
    have fits : Fits [] := fun _ _ later => later
    exact legible_cons_cons (by decide) rfl (legible_parenthesized fits later)

theorem legible_step {step : Step} (printable : step.isPrintable = true)
    (fits : ∀ e ∈ step.predicates, Fits e.tokens) (ends : Follows stepEnds rest) (later : Legible rest) :
    Legible (step.tokens ++ rest) := by
  obtain ⟨axis, test, predicates⟩ := step
  obtain ⟨named, _⟩ := Bool.and_eq_true_iff.mp printable
  have fits : ∀ inner ∈ exprTokens predicates, Fits inner := by
    rw [exprTokens_eq_map]
    exact List.forall_mem_map.mpr fits
  have tested := legible_test named (follows_predicates (exprTokens predicates) ends) (legible_predicates fits later)
  have text : (Step.mk axis test predicates).tokens ++ rest =
      .name axis.name :: .doubleColon :: (test.tokens ++ ((exprTokens predicates).flatMap bracketed ++ rest)) := by
    rw [Step.tokens, List.cons_append, List.cons_append, List.append_assoc]
  rw [text]
  exact legible_cons_cons (isAttributeName_axis axis) rfl (legible_sign rfl (fun _ => rfl) tested)

/-- The steps of a path from the document, each after a slash. -/
def slashed (steps : List Step) : List Token := steps.flatMap fun step => .slash :: step.tokens

theorem slashed_cons_append (step : Step) (steps : List Step) (rest : List Token) :
    slashed (step :: steps) ++ rest = .slash :: (step.tokens ++ (slashed steps ++ rest)) := by
  rw [slashed, List.flatMap_cons, List.append_assoc, List.cons_append, slashed]

theorem follows_slashed (steps : List Step) (ends : Follows closers rest) : Follows stepEnds (slashed steps ++ rest) := by
  cases steps with
  | nil => exact ends.mono (List.subset_cons_self _ _)
  | cons step others => exact follows_cons List.mem_cons_self

theorem exists_step_tokens_eq_cons (step : Step) :
    ∃ word later, step.tokens = .name word :: .doubleColon :: later := by
  obtain ⟨axis, test, predicates⟩ := step
  exact ⟨_, _, rfl⟩

theorem legible_slashed {steps : List Step} (printable : ∀ step ∈ steps, step.isPrintable = true)
    (fits : ∀ step ∈ steps, ∀ e ∈ step.predicates, Fits e.tokens) (ends : Follows closers rest) (later : Legible rest) :
    Legible (slashed steps ++ rest) := by
  induction steps with
  | nil => exact later
  | cons step others ih =>
    obtain ⟨first, printable⟩ := List.forall_mem_cons.mp printable
    obtain ⟨firstFits, fits⟩ := List.forall_mem_cons.mp fits
    have further := legible_step first firstFits (follows_slashed others ends) (ih printable fits)
    obtain ⟨word, more, split⟩ := exists_step_tokens_eq_cons step
    rw [slashed_cons_append]
    rw [split] at further ⊢
    exact legible_cons_cons rfl rfl further

/-- The arguments of a call that follow a first one. -/
def commaed (arguments : List Expr) : List Token := arguments.flatMap fun e => .comma :: e.tokens

theorem commaed_cons_append (e : Expr) (arguments : List Expr) (rest : List Token) :
    commaed (e :: arguments) ++ rest = .comma :: (e.tokens ++ (commaed arguments ++ rest)) := by
  rw [commaed, List.flatMap_cons, List.append_assoc, List.cons_append, commaed]

theorem follows_commaed (arguments : List Expr) (ends : Follows closers rest) :
    Follows closers (commaed arguments ++ rest) := by
  cases arguments with
  | nil => exact ends
  | cons e others => exact follows_cons (by decide)

theorem intercalate_arguments (e : Expr) (arguments : List Expr) :
    [Token.comma].intercalate (exprTokens (e :: arguments)) = e.tokens ++ commaed arguments := by
  rw [exprTokens_eq_map, List.map_cons, intercalate_singleton_cons, List.flatMap_map, commaed]

theorem legible_commaed {arguments : List Expr} (fits : ∀ e ∈ arguments, Fits e.tokens) (ends : Follows closers rest)
    (later : Legible rest) : Legible (commaed arguments ++ rest) := by
  induction arguments with
  | nil => exact later
  | cons e others ih =>
    obtain ⟨first, fits⟩ := List.forall_mem_cons.mp fits
    rw [commaed_cons_append]
    exact legible_sign rfl (fun _ => rfl) (first _ (follows_commaed others ends) (ih fits))

theorem fits_arguments {arguments : List Expr} (fits : ∀ e ∈ arguments, Fits e.tokens) :
    Fits ([Token.comma].intercalate (exprTokens arguments)) := by
  intro rest ends later
  cases arguments with
  | nil => exact later
  | cons e others =>
    obtain ⟨first, fits⟩ := List.forall_mem_cons.mp fits
    rw [intercalate_arguments, List.append_assoc]
    exact first _ (follows_commaed others ends) (legible_commaed fits ends later)

theorem tokens_absolute_cons (step : Step) (steps : List Step) :
    (Expr.path true (step :: steps)).tokens = slashed (step :: steps) := by
  rw [Expr.tokens, stepTokens_eq_map, List.map_cons, intercalate_singleton_cons, List.flatMap_map]
  rfl

theorem tokens_relative_cons (step : Step) (steps : List Step) :
    (Expr.path false (step :: steps)).tokens = step.tokens ++ slashed steps := by
  rw [Expr.tokens, stepTokens_eq_map, List.map_cons, intercalate_singleton_cons, List.flatMap_map]
  rfl

/-- The steps of a path that can be read again; without steps, it is the path to the document. -/
theorem isPrintable_path {absolute : Bool} {steps : List Step} (printable : (Expr.path absolute steps).isPrintable = true) :
    (absolute = true ∨ steps ≠ []) ∧ ∀ step ∈ steps, step.isPrintable = true := by
  rw [Expr.isPrintable, Bool.and_eq_true, areStepsPrintable_iff] at printable
  exact ⟨by simpa using printable.1, printable.2⟩

theorem Step.isPrintable_predicates {step : Step} (printable : step.isPrintable = true) :
    ∀ e ∈ step.predicates, e.isPrintable = true := by
  obtain ⟨axis, test, predicates⟩ := step
  exact areExprsPrintable_iff.mp (Bool.and_eq_true_iff.mp printable).2

/-- Printed tokens are legible. -/
theorem fits_tokens {e : Expr} (printable : e.isPrintable = true) : Fits e.tokens := by
  have operator {left right : List Token} {token : Token} (first : Fits left) (second : Fits right)
      (sign : token.isPrintable = true ∧ token.merges .openParenthesis = false) :
      Fits (parenthesized left ++ token :: parenthesized right) := by
    intro rest ends later
    rw [List.append_assoc, List.cons_append]
    exact legible_parenthesized first (legible_cons_cons sign.1 sign.2 (legible_parenthesized second later))
  induction e using Expr.induction with
  | or left right first second =>
    obtain ⟨firstPrintable, secondPrintable⟩ := Bool.and_eq_true_iff.mp printable
    exact operator (first firstPrintable) (second secondPrintable) ⟨by decide, rfl⟩
  | and left right first second =>
    obtain ⟨firstPrintable, secondPrintable⟩ := Bool.and_eq_true_iff.mp printable
    exact operator (first firstPrintable) (second secondPrintable) ⟨by decide, rfl⟩
  | compare left c right first second =>
    obtain ⟨firstPrintable, secondPrintable⟩ := Bool.and_eq_true_iff.mp printable
    exact operator (first firstPrintable) (second secondPrintable) ⟨rfl, rfl⟩
  | union left right first second =>
    obtain ⟨firstPrintable, secondPrintable⟩ := Bool.and_eq_true_iff.mp printable
    exact operator (first firstPrintable) (second secondPrintable) ⟨rfl, rfl⟩
  | path absolute steps each =>
    obtain ⟨some, all⟩ := isPrintable_path printable
    have fits : ∀ step ∈ steps, ∀ e ∈ step.predicates, Fits e.tokens := fun step inSteps e member =>
      each step inSteps e member (Step.isPrintable_predicates (all step inSteps) e member)
    intro rest ends later
    cases steps with
    | nil =>
      obtain rfl := some.resolve_right fun other => other rfl
      exact legible_cons rfl ends rfl later
    | cons step others =>
      cases absolute with
      | true =>
        rw [tokens_absolute_cons]
        exact legible_slashed all fits ends later
      | false =>
        obtain ⟨first, all⟩ := List.forall_mem_cons.mp all
        obtain ⟨firstFits, fits⟩ := List.forall_mem_cons.mp fits
        rw [tokens_relative_cons, List.append_assoc]
        exact legible_step first firstFits (follows_slashed others ends) (legible_slashed all fits ends later)
  | literal text => exact fun rest ends later => legible_sign printable (fun _ => rfl) later
  | number value => exact fun rest ends later => legible_cons printable ends rfl later
  | call function arguments each =>
    obtain ⟨named, printable⟩ := Bool.and_eq_true_iff.mp printable
    have fits := fits_arguments fun e member => each e member (areExprsPrintable_iff.mp printable e member)
    exact fun rest ends later => legible_cons_cons (isWord_iff.mp named).1 rfl (legible_parenthesized fits later)

end legible

/-! Printed tokens are read. -/

section reading

variable {nested : TokenReader Expr} {rest : List Token} {count depth : Nat}

/-- Whether the printed tokens of an expression are read as it, wherever an expression may end. -/
def Reads (nested : TokenReader Expr) (e : Expr) : Prop :=
  ∀ rest, Follows closers rest → nested (e.tokens ++ rest) = .ok (e, rest)

theorem read_test {test : NodeTest} (printable : test.isPrintable = true) :
    NodeTest.read (test.tokens ++ rest) = .ok (test, rest) := by
  cases test with
  | name word =>
    obtain ⟨named, other⟩ := isWord_iff.mp printable
    exact nodeTest_name (lowerName_of_isAttributeName named) other rest
  | any => rfl
  | text | node => rfl

theorem read_step {step : Step} (printable : step.isPrintable = true) (each : ∀ e ∈ step.predicates, Reads nested e)
    (ends : Follows stepEnds rest) : Step.read nested (step.tokens ++ rest) = .ok (step, rest) := by
  obtain ⟨axis, test, predicates⟩ := step
  obtain ⟨named, _⟩ := Bool.and_eq_true_iff.mp printable
  have each : ∀ e ∈ predicates, ∀ rest, nested (e.tokens ++ .closeBracket :: rest) = .ok (id e, .closeBracket :: rest) :=
    fun e member rest => each e member _ (follows_cons (by decide))
  have inBrackets := predicates_bracketed each (ends.head?_ne (by decide)) rfl
  rw [List.map_id] at inBrackets
  have text : (Step.mk axis test predicates).tokens ++ rest = .name axis.name :: .doubleColon ::
      (test.tokens ++ ((predicates.flatMap fun e => bracketed e.tokens) ++ rest)) := by
    rw [Step.tokens, exprTokens_eq_map, List.flatMap_map, List.cons_append, List.cons_append, List.append_assoc]
  rw [text]
  simp only [Step.read, Axis.read, ofName?_name, bind, Except.bind, read_test named, inBrackets]
  rfl

theorem stepsFrom_slashed {steps : List Step} (printable : ∀ step ∈ steps, step.isPrintable = true)
    (each : ∀ step ∈ steps, ∀ e ∈ step.predicates, Reads nested e) (ends : Follows closers rest)
    (enough : steps.length ≤ count) : stepsFrom nested count (slashed steps ++ rest) = .ok (steps, rest) := by
  induction steps generalizing count with
  | nil =>
    have noSlash : rest.head? ≠ some .slash := ends.head?_ne (by decide)
    have noSlashes : rest.head? ≠ some .doubleSlash := ends.head?_ne (by decide)
    change stepsFrom nested count rest = _
    unfold stepsFrom
    split
    · exact absurd rfl noSlash
    · exact absurd rfl noSlashes
    · rfl
  | cons step others ih =>
    obtain ⟨first, printable⟩ := List.forall_mem_cons.mp printable
    obtain ⟨firstReads, each⟩ := List.forall_mem_cons.mp each
    obtain ⟨count, rfl⟩ := Nat.exists_eq_succ_of_ne_zero (Nat.ne_of_gt (Nat.zero_lt_of_lt enough))
    have more := ih printable each (Nat.le_of_succ_le_succ enough)
    rw [slashed_cons_append, stepsFrom, read_step first firstReads (follows_slashed others ends)]
    simp only [bind, Except.bind, more]
    rfl

theorem steps_slashed {step : Step} {steps : List Step} (printable : ∀ other ∈ step :: steps, other.isPrintable = true)
    (each : ∀ other ∈ step :: steps, ∀ e ∈ other.predicates, Reads nested e) (ends : Follows closers rest) :
    XPath.steps nested (step.tokens ++ (slashed steps ++ rest)) = .ok (step :: steps, rest) := by
  obtain ⟨first, printable⟩ := List.forall_mem_cons.mp printable
  obtain ⟨firstReads, each⟩ := List.forall_mem_cons.mp each
  have enough : steps.length ≤ (slashed steps ++ rest).length := by
    rw [List.length_append]
    exact Nat.le_add_right_of_le (Text.length_le_flatMap (fun _ => List.cons_ne_nil _ _) steps)
  rw [XPath.steps, read_step first firstReads (follows_slashed steps ends)]
  simp only [bind, Except.bind, stepsFrom_slashed printable each ends enough]
  rfl

theorem operand_path {absolute : Bool} {steps : List Step} (printable : (Expr.path absolute steps).isPrintable = true)
    (each : ∀ step ∈ steps, ∀ e ∈ step.predicates, Reads nested e) (ends : Follows closers rest) :
    Expr.operand nested ((Expr.path absolute steps).tokens ++ rest) = .ok (.path absolute steps, rest) := by
  obtain ⟨some, printable⟩ := isPrintable_path printable
  cases steps with
  | nil =>
    obtain rfl := some.resolve_right fun other => other rfl
    have stops : rest.head?.any Step.canStart = false := by
      rw [Option.any_eq_false]
      have facts : ∀ token ∈ closers, Step.canStart token = false := by decide
      exact fun token same => by simp [facts token (ends token same)]
    change (if rest.head?.any Step.canStart then _ else _) = _
    rw [stops]
    rfl
  | cons step others =>
    have read := steps_slashed printable each ends
    obtain ⟨word, later, split⟩ := exists_step_tokens_eq_cons step
    cases absolute with
    | true =>
      rw [tokens_absolute_cons, slashed_cons_append]
      rw [split] at read ⊢
      change (XPath.steps nested _ >>= _) = _
      rw [read]
      rfl
    | false =>
      rw [tokens_relative_cons, List.append_assoc]
      rw [split, List.cons_append, List.cons_append] at read ⊢
      change (XPath.steps nested _ >>= _) = _
      rw [read]
      rfl

theorem operand_parenthesized {e : Expr} (reads : Reads nested e) :
    Expr.operand nested (parenthesized e.tokens ++ rest) = .ok (e, rest) := by
  have inner := reads (.closeParenthesis :: rest) (follows_cons (by decide))
  rw [parenthesized_append, Expr.operand, inner]
  rfl

theorem argumentsFrom_commaed {arguments : List Expr} (each : ∀ e ∈ arguments, Reads nested e)
    (enough : arguments.length ≤ count) :
    argumentsFrom nested count (commaed arguments ++ .closeParenthesis :: rest) =
      .ok (arguments, .closeParenthesis :: rest) := by
  induction arguments generalizing count with
  | nil => cases count <;> rfl
  | cons e others ih =>
    obtain ⟨first, each⟩ := List.forall_mem_cons.mp each
    obtain ⟨count, rfl⟩ := Nat.exists_eq_succ_of_ne_zero (Nat.ne_of_gt (Nat.zero_lt_of_lt enough))
    have more := ih each (Nat.le_of_succ_le_succ enough)
    have ends : Follows closers (.closeParenthesis :: rest) := follows_cons (by decide)
    rw [commaed_cons_append, argumentsFrom, first _ (follows_commaed others ends)]
    simp only [bind, Except.bind, more]
    rfl

theorem tokens_ne_closeParenthesis {e : Expr} (printable : e.isPrintable = true) (later : List Token) :
    e.tokens ++ rest ≠ .closeParenthesis :: later := by
  cases e with
  | or | and | compare | union | literal | number | call => simp [Expr.tokens, parenthesized]
  | path absolute steps =>
    obtain ⟨some, _⟩ := isPrintable_path printable
    cases steps with
    | nil =>
      obtain rfl := some.resolve_right fun other => other rfl
      simp [Expr.tokens]
    | cons step others =>
      obtain ⟨word, more, split⟩ := exists_step_tokens_eq_cons step
      cases absolute with
      | true => simp [tokens_absolute_cons, slashed]
      | false => simp [tokens_relative_cons, split]

theorem callArguments_tokens {arguments : List Expr} (printable : ∀ e ∈ arguments, e.isPrintable = true)
    (each : ∀ e ∈ arguments, Reads nested e) :
    callArguments nested ([Token.comma].intercalate (exprTokens arguments) ++ .closeParenthesis :: rest) =
      .ok (arguments, rest) := by
  cases arguments with
  | nil => rfl
  | cons e others =>
    obtain ⟨first, each⟩ := List.forall_mem_cons.mp each
    have other : ∀ later, e.tokens ++ (commaed others ++ .closeParenthesis :: rest) ≠ .closeParenthesis :: later :=
      tokens_ne_closeParenthesis (printable e List.mem_cons_self)
    have ends : Follows closers (.closeParenthesis :: rest) := follows_cons (by decide)
    have enough : others.length ≤ (commaed others ++ Token.closeParenthesis :: rest).length := by
      rw [List.length_append]
      exact Nat.le_add_right_of_le (Text.length_le_flatMap (fun _ => List.cons_ne_nil _ _) others)
    rw [intercalate_arguments, List.append_assoc, callArguments.eq_2 _ _ other, first _ (follows_commaed others ends)]
    simp only [bind, Except.bind, argumentsFrom_commaed each enough]
    rfl

theorem operand_call {function : String} {arguments : List Expr} (other : NodeTest.isType function = false)
    (printable : ∀ e ∈ arguments, e.isPrintable = true) (each : ∀ e ∈ arguments, Reads nested e) :
    Expr.operand nested ((Expr.call function arguments).tokens ++ rest) = .ok (.call function arguments, rest) := by
  rw [Expr.tokens, List.cons_append, parenthesized_append, Expr.operand, if_neg (Bool.eq_false_iff.mp other),
    callArguments_tokens printable each]
  rfl

/-! The operators. -/

variable {left right e : Expr} {tokens after : List Token}

theorem readNested_union (ends : Follows closers rest)
    (first : Expr.operand (Expr.readNested depth) tokens = .ok (left, .bar :: after))
    (second : Expr.operand (Expr.readNested depth) after = .ok (right, rest)) :
    Expr.readNested (depth + 1) tokens = .ok (.union left right, rest) := by
  rw [Expr.readNested]
  refine joined_stop (joined_stop (joined_stop (joined_once first rfl second ?_) ?_) ?_) ?_
  all_goals exact ends.stop rfl

theorem readNested_and (ends : Follows closers rest)
    (first : Expr.operand (Expr.readNested depth) tokens = .ok (left, .name "and" :: after))
    (second : Expr.operand (Expr.readNested depth) after = .ok (right, rest)) :
    Expr.readNested (depth + 1) tokens = .ok (.and left right, rest) := by
  have follows : Follows [.name "and"] (.name "and" :: after) := follows_cons List.mem_cons_self
  rw [Expr.readNested]
  refine joined_stop (joined_once (joined_stop (joined_stop first ?_) ?_) rfl (joined_stop (joined_stop second ?_) ?_) ?_) ?_
  · exact follows.stop rfl
  · exact follows.stop rfl
  all_goals exact ends.stop rfl

theorem readNested_or (ends : Follows closers rest)
    (first : Expr.operand (Expr.readNested depth) tokens = .ok (left, .name "or" :: after))
    (second : Expr.operand (Expr.readNested depth) after = .ok (right, rest)) :
    Expr.readNested (depth + 1) tokens = .ok (.or left right, rest) := by
  have follows : Follows [.name "or"] (.name "or" :: after) := follows_cons List.mem_cons_self
  rw [Expr.readNested]
  refine joined_once (joined_stop (joined_stop (joined_stop first ?_) ?_) ?_) rfl
    (joined_stop (joined_stop (joined_stop second ?_) ?_) ?_) ?_
  · exact follows.stop rfl
  · exact follows.stop rfl
  · exact follows.stop rfl
  all_goals exact ends.stop rfl

/-! Parts of an expression have fewer tokens. -/

theorem length_le_flatMap_of_mem {α β : Type} {f : α → List β} {items : List α} {a : α} (member : a ∈ items) :
    (f a).length ≤ (items.flatMap f).length := by
  rw [List.flatMap_def]
  exact (List.sublist_flatten_of_mem (List.mem_map_of_mem member)).length_le

theorem length_le_intercalate {α : Type} (mark : α) {lists : List (List α)} {list : List α} (member : list ∈ lists) :
    list.length ≤ ([mark].intercalate lists).length := by
  cases lists with
  | nil => cases member
  | cons first others =>
    rw [intercalate_singleton_cons, List.length_append]
    rcases List.mem_cons.mp member with rfl | member
    · exact Nat.le_add_right _ _
    · have shorter := length_le_flatMap_of_mem (f := (mark :: ·)) member
      rw [List.length_cons] at shorter
      omega

theorem length_parenthesized (inner : List Token) : (parenthesized inner).length = inner.length + 2 := by
  simp [parenthesized]

theorem length_lt_path {absolute : Bool} {steps : List Step} {step : Step} (inSteps : step ∈ steps) {e : Expr}
    (member : e ∈ step.predicates) : e.tokens.length < (Expr.path absolute steps).tokens.length := by
  have ofStep : e.tokens.length < step.tokens.length := by
    obtain ⟨axis, test, predicates⟩ := step
    have member : e.tokens ∈ exprTokens predicates := by
      rw [exprTokens_eq_map]
      exact List.mem_map_of_mem member
    have shorter := length_le_flatMap_of_mem (f := bracketed) member
    simp only [bracketed, List.length_cons, List.length_append] at shorter
    simp only [Step.tokens, List.length_cons, List.length_append]
    omega
  have ofPath : step.tokens.length ≤ ([Token.slash].intercalate (stepTokens steps)).length := by
    refine length_le_intercalate _ ?_
    rw [stepTokens_eq_map]
    exact List.mem_map_of_mem inSteps
  rw [Expr.tokens, List.length_append]
  omega

theorem length_lt_call {function : String} {arguments : List Expr} {e : Expr} (member : e ∈ arguments) :
    e.tokens.length < (Expr.call function arguments).tokens.length := by
  have inside : e.tokens.length ≤ ([Token.comma].intercalate (exprTokens arguments)).length := by
    refine length_le_intercalate _ ?_
    rw [exprTokens_eq_map]
    exact List.mem_map_of_mem member
  rw [Expr.tokens, List.length_cons, length_parenthesized]
  omega

/-- Whether the printed tokens of an expression are read as it with more levels of nesting than there are tokens. -/
def ReadsNested (e : Expr) : Prop := ∀ depth, e.tokens.length ≤ depth → Reads (Expr.readNested (depth + 1)) e

theorem ReadsNested.inside {e : Expr} (reads : ReadsNested e) (shorter : e.tokens.length < depth) :
    Reads (Expr.readNested depth) e := by
  obtain ⟨inner, rfl⟩ : ∃ inner, depth = inner + 1 := ⟨depth - 1, by omega⟩
  exact reads inner (Nat.le_of_lt_succ shorter)

theorem operands_tokens {token : Token} (first : ReadsNested left) (second : ReadsNested right)
    (deep : (parenthesized left.tokens ++ token :: parenthesized right.tokens).length ≤ depth) :
    (∀ rest, Expr.operand (Expr.readNested depth) (parenthesized left.tokens ++ rest) = .ok (left, rest)) ∧
      ∀ rest, Expr.operand (Expr.readNested depth) (parenthesized right.tokens ++ rest) = .ok (right, rest) := by
  rw [List.length_append, List.length_cons, length_parenthesized, length_parenthesized] at deep
  exact ⟨fun rest => operand_parenthesized (first.inside (by omega)),
    fun rest => operand_parenthesized (second.inside (by omega))⟩

/-- The tokens of a printed expression are read as it. -/
theorem reads_tokens {e : Expr} (printable : e.isPrintable = true) : ReadsNested e := by
  intro depth deep rest ends
  induction e using Expr.induction generalizing depth rest with
  | or left right first second =>
    obtain ⟨firstPrintable, secondPrintable⟩ := Bool.and_eq_true_iff.mp printable
    obtain ⟨first, second⟩ := operands_tokens (first firstPrintable) (second secondPrintable) deep
    rw [Expr.tokens, List.append_assoc]
    exact readNested_or ends (first _) (second _)
  | and left right first second =>
    obtain ⟨firstPrintable, secondPrintable⟩ := Bool.and_eq_true_iff.mp printable
    obtain ⟨first, second⟩ := operands_tokens (first firstPrintable) (second secondPrintable) deep
    rw [Expr.tokens, List.append_assoc]
    exact readNested_and ends (first _) (second _)
  | compare left c right first second =>
    obtain ⟨firstPrintable, secondPrintable⟩ := Bool.and_eq_true_iff.mp printable
    obtain ⟨first, second⟩ := operands_tokens (first firstPrintable) (second secondPrintable) deep
    rw [Expr.tokens, List.append_assoc]
    exact readNested_compare ends (first _) (second _)
  | union left right first second =>
    obtain ⟨firstPrintable, secondPrintable⟩ := Bool.and_eq_true_iff.mp printable
    obtain ⟨first, second⟩ := operands_tokens (first firstPrintable) (second secondPrintable) deep
    rw [Expr.tokens, List.append_assoc]
    exact readNested_union ends (first _) (second _)
  | path absolute steps each =>
    have reads : ∀ step ∈ steps, ∀ e ∈ step.predicates, Reads (Expr.readNested depth) e := by
      intro step inSteps e member
      have predicate := Step.isPrintable_predicates ((isPrintable_path printable).2 step inSteps) e member
      have nested : ReadsNested e := each step inSteps e member predicate
      exact nested.inside (Nat.lt_of_lt_of_le (length_lt_path inSteps member) deep)
    exact readNested_operand ends (operand_path printable reads ends)
  | literal text => exact readNested_operand ends rfl
  | number value => exact readNested_operand ends rfl
  | call function arguments each =>
    obtain ⟨named, printable⟩ := Bool.and_eq_true_iff.mp printable
    have printable := areExprsPrintable_iff.mp printable
    have reads : ∀ e ∈ arguments, Reads (Expr.readNested depth) e := by
      intro e member
      have nested : ReadsNested e := each e member (printable e member)
      exact nested.inside (Nat.lt_of_lt_of_le (length_lt_call member) deep)
    exact readNested_operand ends (operand_call (isWord_iff.mp named).2 printable reads)

/-- The tokens of an expression with spaces beside them are read as this expression. -/
theorem Expr.read_spaced (margin : Token → Nat) {e : Expr} (printable : e.isPrintable = true) :
    Expr.read (String.ofList (spaced margin e.tokens)) = .ok e := by
  have legible := fits_tokens printable [] follows_nil trivial
  have reads := reads_tokens printable _ (Nat.le_refl _) [] follows_nil
  rw [List.append_nil] at legible reads
  rw [Expr.read, String.toList_ofList, Token.read_spaced margin legible]
  simp only [bind, Except.bind, reads]
  rfl

/-- The printed text of an expression is read as this expression, whatever spaces stand beside the tokens. -/
theorem read_expr_print (margin : Token → Nat) {e : Expr} (printable : e.isPrintable = true) :
    Expr.read (e.print margin) = .ok e := by
  rw [Expr.print]
  exact Expr.read_spaced margin printable

/-- An expression in which the words of operators are also a tag and a function. -/
def wordy : Expr :=
  .or (.compare (.path false [.mk .child (.name "or") [.number ⟨1, 0⟩, .literal "x y"]]) .lessEqual (.number ⟨25, 0⟩))
    (.call "and" [.union (.path true []) (.path true [.mk .ancestorOrSelf .any [], .mk .child .text []]), .path false
      [.mk .attributes .node []]])

theorem read_expr_print_wordy : wordy.isPrintable = true ∧
    Expr.read "((child::or[1][\"x y\"])<=(25))or(and((/)|(/ancestor-or-self::*/child::text()),attribute::node()))" =
      .ok wordy := by
  have printable : wordy.isPrintable = true := by decide +kernel
  have text : wordy.print (fun _ => 0) =
      "((child::or[1][\"x y\"])<=(25))or(and((/)|(/ancestor-or-self::*/child::text()),attribute::node()))" := by
    decide +kernel
  exact ⟨printable, text ▸ read_expr_print (fun _ => 0) printable⟩

end reading

end CosmeticRules.XPath
