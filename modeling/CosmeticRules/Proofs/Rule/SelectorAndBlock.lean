import CosmeticRules.Proofs.Rule.Composition
import CosmeticRules.Proofs.Selector.BraceBehind

/-!
A rule is its selector and its block. The reader tries the braces of a rule from the last to the first, so a brace in
the block must not pass for the one in front of it: with the beginning of the block behind it the selector must not be
a selector any more. Where it ends in a regular part it never is.
-/

namespace CosmeticRules

open Text

theorem Block.declarations_congr {s t : String} (same : trim s.toList = trim t.toList) :
    Block.declarations s = Block.declarations t := by rw [Block.declarations, Block.declarations, same]

/-- A text without marker that is no at-rule is read as a head that declares nothing. -/
theorem RuleHead.result_read {text : List Char} (selector : (trim text).head? ≠ some '@')
    (unmarked : ¬MarkedSelector.markerStart <:+: text) :
    (RuleHead.read text).result =
      .ok ⟨String.ofList (trim text), (SelectorTree.parse (String.ofList (trim text))).toOption, []⟩ := by
  have absent : ¬MarkedSelector.markerStart <:+: trim text := fun inside => unmarked (inside.trans (trim_isInfix text))
  have whole : splitAround? MarkedSelector.marker (trim text) = none := by
    cases found : splitAround? MarkedSelector.marker (trim text) with
    | none => rfl
    | some parts =>
      have starts : MarkedSelector.markerStart <+: MarkedSelector.marker := ⟨[')'], rfl⟩
      refine absurd (starts.isInfix.trans ?_) absent
      exact ⟨parts.1, parts.2, (eq_append_of_splitAround? found).symm⟩
  have marked : MarkedSelector.read (String.ofList (trim text)) = .ok ⟨String.ofList (trim text), false⟩ := by
    rw [MarkedSelector.read, String.toList_ofList, whole]
    exact if_neg fun inside => absent (occursIn_iff.mp inside)
  unfold RuleHead.read
  simp only [beq_eq_false_iff_ne.mpr selector, Bool.false_eq_true, if_false]
  rw [Logged.result_bind, Logged.result_reportAs, Logged.result_ofExcept, marked]
  rfl

namespace Rule

/-! The cuts of a text. -/

theorem braceCuts_append (s t : List Char) :
    braceCuts (s ++ t) = (braceCuts t).map (fun cut => (s ++ cut.1, cut.2)) ++
      (braceCuts s).map fun cut => (cut.1, cut.2 ++ t) := by
  induction s with
  | nil => simp [braceCuts]
  | cons c rest ih =>
    rw [List.cons_append, braceCuts, braceCuts, ih]
    by_cases brace : c = '\x7b' <;> simp [brace, Function.comp_def]

theorem braceCuts_of_fresh {s : List Char} (fresh : '\x7b' ∉ s) : braceCuts s = [] := by
  induction s with
  | nil => rfl
  | cons c rest ih =>
    obtain ⟨other, fresh⟩ := not_or.mp (mt List.mem_cons.mpr fresh)
    rw [braceCuts, ih fresh, if_neg (Ne.symm other)]
    rfl

theorem eq_append_of_mem_braceCuts {s : List Char} {cut : List Char × List Char} (member : cut ∈ braceCuts s) :
    s = cut.1 ++ '\x7b' :: cut.2 := by
  induction s generalizing cut with
  | nil => simp [braceCuts] at member
  | cons c rest ih =>
    have later {cut : List Char × List Char}
        (member : cut ∈ (braceCuts rest).map (Prod.map (c :: ·) id)) :
        c :: rest = cut.1 ++ '\x7b' :: cut.2 := by
      obtain ⟨inner, inside, rfl⟩ := List.mem_map.mp member
      exact congrArg (c :: ·) (ih inside)
    rw [braceCuts] at member
    simp only [] at member
    split at member
    · rename_i brace
      rcases List.mem_append.mp member with member | single
      · exact later member
      · obtain rfl := List.mem_singleton.mp single
        rw [brace]
        rfl
    · exact later member

/-- Cuts before which no selector stands are passed over. -/
theorem result_readCuts_append {cuts : List (List Char × List Char)}
    (unparsed : ∀ cut ∈ cuts, ∃ head, (RuleHead.read cut.1).result = .ok head ∧ head.tree = none)
    (rest : List (List Char × List Char)) : (readCuts (cuts ++ rest)).result = (readCuts rest).result := by
  induction cuts with
  | nil => rfl
  | cons cut more ih =>
    obtain ⟨⟨head, read, none⟩, others⟩ := List.forall_mem_cons.mp unparsed
    rw [List.cons_append, readCuts, Logged.result_bind, read]
    simp only [bind, Except.bind, none]
    exact ih others

/-- The first cut with a selector before it is taken. -/
theorem result_readCuts_cons {before after : List Char} {head : RuleHead} {tree : SelectorTree}
    {declarations : List Declaration} (selector : (RuleHead.read before).result = .ok head)
    (parsed : head.tree = some tree) (block : Block.declarations (String.ofList after.dropLast) = .ok declarations)
    (rest : List (List Char × List Char)) :
    (readCuts ((before, after) :: rest)).result = .ok (head.toRaw tree declarations) := by
  rw [readCuts, Logged.result_bind, selector]
  simp only [bind, Except.bind, parsed, block, Logged.ofExcept]
  rfl

theorem result_readRaw_of_cuts {text : String} (uncommented : hasComment (trim text.toList) = false)
    (named : (trim text.toList).head? ≠ some '\x7b') (braced : braceCuts (trim text.toList) ≠ [])
    (closed : '\x7d' ∈ trim text.toList) :
    (readRaw text).result = (readCuts (braceCuts (trim text.toList))).result := by
  obtain ⟨cut, rest, cuts⟩ := List.exists_cons_of_ne_nil braced
  unfold readRaw
  simp only [uncommented, beq_eq_false_iff_ne.mpr named, List.contains_iff_mem.mpr closed, cuts, Bool.false_eq_true,
    if_false, if_true]

/-! The text of a rule. -/

/-- What stands in a selector and the beginning of its block together stands in one of them. -/
theorem infix_of_infix_opened {needle s t : List Char} (space : ' ' ∉ needle) (brace : '\x7b' ∉ needle)
    (inside : needle <:+: s ++ ' ' :: '\x7b' :: ' ' :: t) : needle <:+: s ∨ needle <:+: t := by
  rcases infix_of_infix_append_cons space inside with here | inside
  · exact .inl here
  · rcases infix_of_infix_append_cons (s := []) brace inside with nothing | inside
    · exact .inl (nothing.trans List.nil_infix)
    · rcases infix_of_infix_append_cons (s := []) space inside with nothing | here
      · exact .inl (nothing.trans List.nil_infix)
      · exact .inr here

variable {selector block : List Char}

/-- A rule from its selector on. -/
def textOf (selector block : List Char) : List Char :=
  selector ++ ' ' :: '\x7b' :: ' ' :: (block ++ [' ', '\x7d'])

theorem trim_textOf (some : trimStart selector ≠ []) :
    trim (textOf selector block) = textOf (trimStart selector) block := by
  have whole : textOf (trimStart selector) block =
      (trimStart selector ++ ' ' :: '\x7b' :: ' ' :: (block ++ [' '])) ++ '\x7d' :: [] := by simp [textOf]
  rw [trim, textOf, trimStart_append some]
  show trimEnd (textOf (trimStart selector) block) = _
  rw [whole, trimEnd_append_cons rfl]
  rfl

/-- The cuts of a rule: those at the braces of its block, the one in front of the block, and those at braces of the
selector. -/
theorem braceCuts_textOf (selector block : List Char) : ∃ rest, braceCuts (textOf selector block) =
    (braceCuts block).map (fun cut => (selector ++ ' ' :: '\x7b' :: ' ' :: cut.1, cut.2 ++ [' ', '\x7d'])) ++
      (selector ++ [' '], ' ' :: (block ++ [' ', '\x7d'])) :: rest := by
  have whole : textOf selector block =
      (selector ++ [' ']) ++ '\x7b' :: ([' '] ++ (block ++ [' ', '\x7d'])) := by simp [textOf]
  have opened (y : List Char) :
      braceCuts ('\x7b' :: y) = (braceCuts y).map (fun cut => ('\x7b' :: cut.1, cut.2)) ++ [([], y)] := by
    rw [braceCuts]
    simp
  have inner : braceCuts ([' '] ++ (block ++ [' ', '\x7d'])) =
      (braceCuts block).map fun cut => (' ' :: cut.1, cut.2 ++ [' ', '\x7d']) := by
    rw [braceCuts_append, braceCuts_append, braceCuts_of_fresh (s := [' ', '\x7d']) (by decide),
      braceCuts_of_fresh (s := [' ']) (by decide)]
    simp [Function.comp_def]
  rw [whole, braceCuts_append, opened, inner]
  refine ⟨(braceCuts (selector ++ [' '])).map fun cut =>
    (cut.1, cut.2 ++ '\x7b' :: ([' '] ++ (block ++ [' ', '\x7d']))), ?_⟩
  simp [Function.comp_def]

/-- Both marks of a comment are looked for by themselves. -/
theorem hasComment_of_forall {s t : List Char}
    (each : ∀ mark ∈ [['/', '*'], ['*', '/']], mark <:+: s → mark <:+: t) (uncommented : hasComment t = false) :
    hasComment s = false := by
  by_contra commented
  rw [Bool.not_eq_false, hasComment, Bool.and_eq_true, occursIn_iff, occursIn_iff] at commented
  have opened := each ['/', '*'] (by simp) commented.1
  have closed := each ['*', '/'] (by simp) commented.2
  rw [hasComment, occursIn_iff.mpr opened, occursIn_iff.mpr closed] at uncommented
  cases uncommented

theorem hasComment_of_infix {s t : List Char} (inside : s <:+: t) (uncommented : hasComment t = false) :
    hasComment s = false :=
  hasComment_of_forall (fun _ _ occurs => occurs.trans inside) uncommented

theorem hasComment_textOf (selector block : List Char) (uncommented : hasComment (selector ++ ' ' :: block) = false) :
    hasComment (textOf selector block) = false := by
  refine hasComment_of_forall (fun mark listed occurs => ?_) uncommented
  have apart : ∀ mark ∈ [['/', '*'], ['*', '/']], ' ' ∉ mark ∧ '\x7b' ∉ mark ∧ '\x7d' ∉ mark ∧ ¬mark <:+: [] := by
    decide
  obtain ⟨space, brace, closing, filled⟩ := apart mark listed
  rcases infix_of_infix_opened space brace occurs with here | later
  · exact here.trans (List.prefix_append _ _).isInfix
  · rcases infix_of_infix_append_cons space later with here | later
    · exact here.trans (List.suffix_append_of_suffix (List.suffix_cons _ _)).isInfix
    · rcases infix_of_infix_append_cons (s := []) closing later with nothing | nothing <;>
        exact absurd nothing filled

/-- A selector that is read has a first character that is no blank. -/
theorem exists_trimStart_eq {selector : String} {tree : SelectorTree}
    (parsed : SelectorTree.parse selector = .ok tree) :
    ∃ c after, trimStart selector.toList = c :: after ∧ isBlank c = false ∧
      trim selector.toList = c :: trimEnd after := by
  rcases blank_or_split selector.toList with blank | ⟨before, c, after, same, blanks, dark⟩
  · have nothing : SelectorTree.parse "" = .ok tree :=
      (SelectorTree.alike_parse (trim_of_blank blank)).of_ok parsed
    have refused : (SelectorTree.parse "").toOption = none := by decide +kernel
    rw [nothing] at refused
    cases refused
  · exact ⟨c, after, by rw [same, trimStart_append_cons blanks dark], dark, by rw [same, trim_append_cons blanks dark]⟩

/-! The heads of a rule. -/

section

variable {selector : String} {tree : SelectorTree} (parsed : SelectorTree.parse selector = .ok tree)

include parsed

/-- What stands behind a selector does not change how it begins. -/
theorem head?_trim_trimStart_append (t : List Char) :
    (trim (trimStart selector.toList ++ t)).head? = (trim selector.toList).head? := by
  obtain ⟨c, after, start, dark, short⟩ := exists_trimStart_eq parsed
  rw [start, short, ← List.nil_append (c :: after), List.append_assoc, List.cons_append, trim_append_cons (by simp) dark]
  rfl

/-- A selector that ends in a regular part is none any more with the beginning of its block behind it. -/
theorem parse_opened_ne (ends : SelectorReader.EndsRegular selector) (before : List Char) (other : SelectorTree) :
    SelectorTree.parse (String.ofList (trimStart selector.toList ++ ' ' :: '\x7b' :: ' ' :: before)) ≠ .ok other := by
  obtain ⟨c, _, start, _, _⟩ := exists_trimStart_eq parsed
  have some : trimStart selector.toList ≠ [] := by
    rw [start]
    exact List.cons_ne_nil c _
  have text : trimStart selector.toList ++ ' ' :: '\x7b' :: ' ' :: before =
      (trimStart selector.toList ++ [' ']) ++ '\x7b' :: ' ' :: before := by simp
  have braced : trim (String.ofList (trimStart selector.toList ++ ' ' :: '\x7b' :: ' ' :: before)).toList =
      trim selector.toList ++ ' ' :: '\x7b' :: trimEnd (' ' :: before) := by
    rw [String.toList_ofList, trim_trimStart_append, trim_of_trimEnd ends.trimmed, trim, trimStart_append some,
      text, trimEnd_append_cons rfl]
    simp
  exact SelectorTree.parse_ne_of_brace parsed ends braced other

variable (begins : (trim selector.toList).head? ≠ some '@') (unmarked : ¬MarkedSelector.markerStart <:+: selector.toList)

include begins unmarked

/-- A selector with the beginning of its block behind it is a head without a selector, if it is no selector any
more. -/
theorem result_read_opened {before : List Char} (plain : ¬MarkedSelector.markerStart <:+: before)
    (other : ∀ tree, SelectorTree.parse
      (String.ofList (trimStart selector.toList ++ ' ' :: '\x7b' :: ' ' :: before)) ≠ .ok tree) :
    ∃ head, (RuleHead.read (trimStart selector.toList ++ ' ' :: '\x7b' :: ' ' :: before)).result = .ok head ∧
      head.tree = none := by
  have bare : ¬MarkedSelector.markerStart <:+: trimStart selector.toList := fun inside =>
    unmarked (inside.trans (List.dropWhile_suffix isBlank).isInfix)
  have absent : ¬MarkedSelector.markerStart <:+: trimStart selector.toList ++ ' ' :: '\x7b' :: ' ' :: before :=
    fun inside => (infix_of_infix_opened (by decide) (by decide) inside).elim bare plain
  refine ⟨_, RuleHead.result_read (by rwa [head?_trim_trimStart_append parsed]) absent, ?_⟩
  cases again : SelectorTree.parse
      (String.ofList (trim (trimStart selector.toList ++ ' ' :: '\x7b' :: ' ' :: before))) with
  | error e => rfl
  | ok tree => exact absurd ((SelectorTree.alike_parse (by simp [trim_trim])).of_ok again) (other tree)

/-- The head in front of the block is the selector. -/
theorem result_read_selector :
    (RuleHead.read (trimStart selector.toList ++ [' '])).result = .ok ⟨trimText selector, some tree, []⟩ := by
  have absent : ¬MarkedSelector.markerStart <:+: trimStart selector.toList ++ [' '] := by
    intro inside
    rcases infix_of_infix_append_cons (by decide) inside with here | nothing
    · exact unmarked (here.trans (List.dropWhile_suffix isBlank).isInfix)
    · exact absurd nothing (by decide)
  have trimmed : trim (trimStart selector.toList ++ [' ']) = trim selector.toList := by
    rw [trim_trimStart_append, trim_append_of_blank (by decide)]
  have shortened : SelectorTree.parse (trimText selector) = .ok tree := SelectorTree.parse_trimText parsed
  rw [RuleHead.result_read (by rwa [head?_trim_trimStart_append parsed]) absent, trimmed]
  rw [trimText] at shortened ⊢
  rw [shortened]
  rfl

end

/-- What a rule holds between its brace and its last character is the block. -/
theorem declarations_inner (block : String) :
    Block.declarations (String.ofList (' ' :: (block.toList ++ [' ', '\x7d'])).dropLast) =
      Block.declarations block := by
  refine Block.declarations_congr ?_
  have parts : ' ' :: (block.toList ++ [' ', '\x7d']) = (' ' :: (block.toList ++ [' '])) ++ ['\x7d'] := by simp
  rw [String.toList_ofList, parts, List.dropLast_concat, trim_blank_cons rfl, trim_append_of_blank (by decide)]

/-- The reader takes the brace in front of the block, if no brace of the block stands behind a selector. -/
theorem result_readRaw_textOf {text selector block : String} {tree : SelectorTree}
    {declarations : List Declaration} (whole : text.toList = textOf selector.toList block.toList)
    (parsed : SelectorTree.parse selector = .ok tree) (begins : (trim selector.toList).head? ≠ some '@')
    (braceless : (trim selector.toList).head? ≠ some '\x7b')
    (unmarked : ¬MarkedSelector.markerStart <:+: selector.toList)
    (read : Block.declarations block = .ok declarations)
    (uncommented : hasComment (trimStart selector.toList ++ ' ' :: block.toList) = false)
    (braces : ∀ cut ∈ braceCuts block.toList, ¬MarkedSelector.markerStart <:+: cut.1 ∧
      ∀ other, SelectorTree.parse
        (String.ofList (trimStart selector.toList ++ ' ' :: '\x7b' :: ' ' :: cut.1)) ≠ .ok other) :
    (readRaw text).result = .ok ⟨trimText selector, tree, declarations⟩ := by
  obtain ⟨c, after, start, _, short⟩ := exists_trimStart_eq parsed
  obtain ⟨rest, cuts⟩ := braceCuts_textOf (trimStart selector.toList) block.toList
  have passed : ∀ cut ∈ (braceCuts block.toList).map
      (fun cut => (trimStart selector.toList ++ ' ' :: '\x7b' :: ' ' :: cut.1, cut.2 ++ [' ', '\x7d'])),
      ∃ head, (RuleHead.read cut.1).result = .ok head ∧ head.tree = none := by
    intro cut member
    obtain ⟨inner, inside, rfl⟩ := List.mem_map.mp member
    obtain ⟨plain, other⟩ := braces inner inside
    exact result_read_opened parsed begins unmarked plain other
  have taken : (readCuts (braceCuts (textOf (trimStart selector.toList) block.toList))).result =
      .ok ⟨trimText selector, tree, declarations⟩ := by
    have head := result_read_selector parsed begins unmarked
    have raw := result_readCuts_cons head rfl ((declarations_inner block).trans read) rest
    rw [cuts, result_readCuts_append passed, raw, RuleHead.toRaw, trimText_trimText, List.nil_append]
  have trimmed : trim text.toList = textOf (trimStart selector.toList) block.toList := by
    rw [whole, trim_textOf (start ▸ List.cons_ne_nil c after)]
  rw [result_readRaw_of_cuts, trimmed, taken]
  · rw [trimmed, hasComment_textOf _ _ uncommented]
  · rw [trimmed, textOf, start]
    rwa [short] at braceless
  · rw [trimmed, cuts]
    simp
  · rw [trimmed]
    simp [textOf]

/-- A rule is its selector and its block. It is read as the selector text with its tree, and as what the declarations
of the block make of it, where no brace of the block passes for the one in front of it: before such a brace no marker
stands in the block, and the selector ends in a regular part, or is none any more with the block up to the brace behind
it. -/
theorem read_selector_block {selector block : String} {tree : SelectorTree} {declarations : List Declaration}
    (parsed : SelectorTree.parse selector = .ok tree) (begins : (trim selector.toList).head? ≠ some '@')
    (braceless : (trim selector.toList).head? ≠ some '\x7b')
    (unmarked : ¬MarkedSelector.markerStart <:+: selector.toList)
    (read : Block.declarations block = .ok declarations)
    (uncommented : hasComment (selector.toList ++ ' ' :: block.toList) = false)
    (braces : ∀ before after, block.toList = before ++ '\x7b' :: after →
      ¬MarkedSelector.markerStart <:+: before ∧ (SelectorReader.EndsRegular selector ∨
        ∀ other, SelectorTree.parse (selector ++ " \x7b " ++ String.ofList before) ≠ .ok other)) :
    (Rule.read (selector ++ " \x7b " ++ block ++ " \x7d")).result =
      .ok (ofRaw ⟨trimText selector, tree, declarations⟩) := by
  have raw : (readRaw (selector ++ " \x7b " ++ block ++ " \x7d")).result =
      .ok ⟨trimText selector, tree, declarations⟩ := by
    refine result_readRaw_textOf (by simp [textOf]) parsed begins braceless unmarked read ?_ ?_
    · refine hasComment_of_infix ?_ uncommented
      obtain ⟨front, split⟩ : trimStart selector.toList <:+ selector.toList := List.dropWhile_suffix isBlank
      exact ⟨front, [], by rw [List.append_nil, ← List.append_assoc, split]⟩
    · intro cut member
      obtain ⟨plain, apart⟩ := braces cut.1 cut.2 (eq_append_of_mem_braceCuts member)
      refine ⟨plain, fun other again => ?_⟩
      rcases apart with ends | unread
      · exact parse_opened_ne parsed ends cut.1 other again
      · refine unread other ((SelectorTree.alike_parse ?_).of_ok again)
        rw [String.toList_ofList, trim_trimStart_append]
        simp
  unfold Rule.read
  rw [map_eq_pure_bind, Logged.result_bind, raw]
  rfl

/-- Braces between quotes behind a selector that ends in a regular part. -/
theorem read_selector_block_quoted : ∃ tree, SelectorTree.parse "div:has(a) > p" = .ok tree ∧
    (Rule.read ("div:has(a) > p" ++ " \x7b " ++ "content: \"\x7b;\x7d\"; top: 0" ++ " \x7d")).result =
      .ok (ofRaw ⟨"div:has(a) > p", tree, [⟨"content", "\"\x7b;\x7d\""⟩, ⟨"top", "0"⟩]⟩) := by
  have readable : (SelectorTree.parse "div:has(a) > p").toOption.isSome = true := by decide +kernel
  obtain ⟨tree, some⟩ := Option.isSome_iff_exists.mp readable
  have parsed := toOption_eq_some_iff.mp some
  have ends : SelectorReader.EndsRegular "div:has(a) > p" := ⟨by decide +kernel, by decide +kernel⟩
  have selector : trimText "div:has(a) > p" = "div:has(a) > p" := by decide +kernel
  have unmarked : ¬MarkedSelector.markerStart <:+: "content: \"\x7b;\x7d\"; top: 0".toList :=
    fun inside => absurd (occursIn_iff.mpr inside) (by decide +kernel)
  have read : Block.declarations "content: \"\x7b;\x7d\"; top: 0" =
      .ok [⟨"content", "\"\x7b;\x7d\""⟩, ⟨"top", "0"⟩] := by decide +kernel
  refine ⟨tree, parsed, ?_⟩
  rw [read_selector_block parsed (by decide +kernel) (by decide +kernel)
    (fun inside => absurd (occursIn_iff.mpr inside) (by decide +kernel)) read (by decide +kernel)
    fun before after split => ⟨fun inside => unmarked (inside.trans ?_), .inl ends⟩, selector]
  exact ⟨[], '\x7b' :: after, split.symm⟩

/-- Behind a pseudo-class that has been closed the brace is not refused: the beginning of the block is taken for a part
of the selector, and the rest of it cannot be read. -/
theorem read_brace_behind_pseudo :
    (SelectorTree.parse "div:has(a)").isOk = true ∧
      Block.declarations "content: \"\x7b\"" = .ok [⟨"content", "\"\x7b\""⟩] ∧
      (SelectorTree.parse "div:has(a) \x7b content: \"").isOk = true ∧
      (Rule.read ("div:has(a)" ++ " \x7b " ++ "content: \"\x7b\"" ++ " \x7d")).result.isOk = false := by
  decide +kernel

end Rule

end CosmeticRules
