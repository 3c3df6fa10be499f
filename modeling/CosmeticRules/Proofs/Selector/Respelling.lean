import CosmeticRules.Proofs.Selector.Outcome
import CosmeticRules.Proofs.Selector.PrintedText

/-!
The current spelling of a selector is final. Nothing that replaces an older spelling makes another one occur around it,
and no blanks come to the ends of the text, so that a selector in the current spelling is its own normal form and is
read as the selector that was respelled.
-/

namespace CosmeticRules

open Text

namespace LegacyForm

/-! The ends of a text in which old attribute forms have been replaced. -/

theorem suffix_argument? {quote : Char} {s value after : List Char} (found : argument? quote s = some (value, after)) :
    after <:+ s := by
  fun_induction argument? quote s generalizing value with
  | case1 => simp at found
  | case2 => simp at found
  | case3 c d rest closed =>
    obtain ⟨_, rfl⟩ := Prod.mk.inj (Option.some.inj found)
    exact List.suffix_append [c, d] rest
  | case4 => simp at found
  | case5 => simp at found
  | case6 d rest _ _ _ ih =>
    obtain ⟨⟨_, _⟩, inner, pair⟩ := Option.map_eq_some_iff.mp found
    obtain ⟨_, rfl⟩ := Prod.mk.inj pair
    exact (ih inner).trans (List.suffix_append ['\\', _] _)
  | case7 c d rest _ _ _ ih =>
    obtain ⟨⟨_, _⟩, inner, pair⟩ := Option.map_eq_some_iff.mp found
    obtain ⟨_, rfl⟩ := Prod.mk.inj pair
    exact (ih inner).trans (List.suffix_cons c _)

/-- What an old attribute form stands for is a pseudo-class with its parentheses, and the text behind it goes on. -/
theorem condition?_shape {s form after : List Char} (found : condition? s = some (form, after)) :
    (∃ inner, form = ':' :: (inner ++ [')'])) ∧ after <:+ s := by
  unfold condition? quotedArgument? at found
  split at found
  · simp at found
  · rename_i rest start
    split at found
    · simp at found
    · obtain ⟨⟨value, _⟩, quoted, pair⟩ := Option.map_eq_some_iff.mp found
      obtain ⟨rfl, rfl⟩ := Prod.mk.inj pair
      refine ⟨⟨rest.takeWhile isNameChar ++ '(' :: value, by simp⟩, ?_⟩
      split at quoted
      · rename_i quote more split
        split at quoted
        · obtain ⟨⟨_, _⟩, inner, pair⟩ := Option.map_eq_some_iff.mp quoted
          obtain ⟨_, rfl⟩ := Prod.mk.inj pair
          have later : more <:+ rest := by
            have named : rest.dropWhile isNameChar <:+ rest := List.dropWhile_suffix isNameChar
            rw [split] at named
            exact (List.suffix_append ['=', quote] more).trans named
          rw [afterStart?_eq_some_iff.mp start]
          exact ((suffix_argument? inner).trans later).trans (List.suffix_append opening rest)
        · simp at quoted
      · simp at quoted

theorem head?_replaceConditions {s : List Char} {c : Char} (head : (replaceConditions s).head? = some c) :
    s.head? = some c ∨ c = ':' := by
  rw [replaceConditions] at head
  split at head
  · rename_i found
    obtain ⟨⟨inner, rfl⟩, _⟩ := condition?_shape found
    exact .inr (Option.some.inj head).symm
  · split at head
    · exact .inl head
    · exact .inl head

theorem replaceConditions_eq_nil {s : List Char} (nothing : replaceConditions s = []) : s = [] := by
  rw [replaceConditions] at nothing
  split at nothing
  · rename_i found
    obtain ⟨⟨inner, rfl⟩, _⟩ := condition?_shape found
    cases nothing
  · split at nothing
    · rfl
    · cases nothing

theorem getLast?_replaceConditions {s : List Char} {c : Char} (last : (replaceConditions s).getLast? = some c) :
    s.getLast? = some c ∨ c = ')' := by
  fun_induction replaceConditions s with
  | case1 s form after found shorter ih =>
    obtain ⟨⟨inner, rfl⟩, suffix⟩ := condition?_shape found
    by_cases nothing : replaceConditions after = []
    · rw [nothing, List.append_nil, ← List.cons_append, List.getLast?_concat] at last
      exact .inr (Option.some.inj last).symm
    · rw [List.getLast?_append_of_ne_nil _ nothing] at last
      refine (ih last).imp_left fun ends => ?_
      obtain ⟨front, rfl⟩ := suffix
      rw [List.getLast?_append, ends]
      rfl
  | case2 => exact .inl last
  | case3 d rest found ih =>
    by_cases nothing : replaceConditions rest = []
    · have alone : rest = [] := replaceConditions_eq_nil nothing
      rw [nothing] at last
      exact .inl (alone ▸ last)
    · obtain ⟨e, more, same⟩ := List.exists_cons_of_ne_nil nothing
      rw [same, List.getLast?_cons_cons, ← same] at last
      exact (ih last).imp_left fun ends => by rw [List.getLast?_cons, ends]; rfl

/-! The four older spellings. -/

theorem shorthands_filled : ∀ pair ∈ shorthands, pair.1.toList ≠ [] ∧ pair.2.toList ≠ [] := by decide

/-- What replaces a longer spelling keeps apart from it and from those that have been replaced before. -/
theorem shorthands_pairwise_apart : (∀ pair ∈ shorthands, Apart pair.1.toList pair.2.toList) ∧
    shorthands.Pairwise fun pair later => Apart pair.1.toList later.2.toList := by
  decide

theorem shorthands_dark : ∀ pair ∈ shorthands,
    (∀ c ∈ pair.2.toList.head?, isBlank c = false) ∧ ∀ c ∈ pair.2.toList.getLast?, isBlank c = false := by
  decide

theorem foldl_replaceAll_keeps_absent {pairs : List (String × String)} (filled : ∀ pair ∈ pairs, pair.1.toList ≠ [])
    {needle : List Char} (apart : ∀ pair ∈ pairs, Apart needle pair.2.toList) {s : List Char}
    (absent : ¬needle <:+: s) :
    ¬needle <:+: pairs.foldl (fun text pair => replaceAll pair.1.toList pair.2.toList text) s := by
  induction pairs generalizing s with
  | nil => exact absent
  | cons pair rest ih =>
    obtain ⟨some, filled⟩ := List.forall_mem_cons.mp filled
    obtain ⟨here, apart⟩ := List.forall_mem_cons.mp apart
    exact ih filled apart (not_infix_replaceAll some here absent)

/-- After all replacements none of the longer spellings is left. -/
theorem foldl_replaceAll_absent {pairs : List (String × String)} (filled : ∀ pair ∈ pairs, pair.1.toList ≠ [])
    (own : ∀ pair ∈ pairs, Apart pair.1.toList pair.2.toList)
    (later : pairs.Pairwise fun pair later => Apart pair.1.toList later.2.toList) (s : List Char) :
    ∀ pair ∈ pairs,
      ¬pair.1.toList <:+: pairs.foldl (fun text pair => replaceAll pair.1.toList pair.2.toList text) s := by
  induction pairs generalizing s with
  | nil => simp
  | cons pair rest ih =>
    obtain ⟨some, filled⟩ := List.forall_mem_cons.mp filled
    obtain ⟨here, own⟩ := List.forall_mem_cons.mp own
    obtain ⟨first, later⟩ := List.pairwise_cons.mp later
    refine List.forall_mem_cons.mpr ⟨?_, ih filled own later _⟩
    exact foldl_replaceAll_keeps_absent filled first (needle_not_infix_replaceAll some here s)

theorem not_infix_replaceShorthands (s : List Char) : ∀ pair ∈ shorthands, ¬pair.1.toList <:+: replaceShorthands s :=
  foldl_replaceAll_absent (fun pair member => (shorthands_filled pair member).1) shorthands_pairwise_apart.1
    shorthands_pairwise_apart.2 s

/-- A text that begins and ends with something else than a blank, or is empty. -/
def IsTight (s : List Char) : Prop :=
  (∀ c, s.head? = some c → isBlank c = false) ∧ ∀ c, s.getLast? = some c → isBlank c = false

theorem isTight_trim (s : List Char) : IsTight (trim s) := by
  refine ⟨fun c head => ?_, fun c last => dark_of_getLast?_trim last⟩
  rcases eq_nil_or_dark_of_trim (trim_trim s) with empty | ⟨d, rest, same, dark, _⟩
  · rw [empty] at head
    cases head
  · rw [same] at head
    exact Option.some.inj head ▸ dark

theorem IsTight.replaceConditions {s : List Char} (tight : IsTight s) : IsTight (replaceConditions s) := by
  refine ⟨fun c head => ?_, fun c last => ?_⟩
  · rcases head?_replaceConditions head with head | rfl
    · exact tight.1 c head
    · decide
  · rcases getLast?_replaceConditions last with last | rfl
    · exact tight.2 c last
    · decide

theorem IsTight.replaceShorthands {s : List Char} (tight : IsTight s) : IsTight (replaceShorthands s) := by
  have run (pairs : List (String × String)) (known : ∀ pair ∈ pairs, pair ∈ shorthands) {s : List Char}
      (tight : IsTight s) : IsTight (pairs.foldl (fun text pair => replaceAll pair.1.toList pair.2.toList text) s) := by
    induction pairs generalizing s with
    | nil => exact tight
    | cons pair rest ih =>
      obtain ⟨member, others⟩ := List.forall_mem_cons.mp known
      obtain ⟨filled, some⟩ := shorthands_filled pair member
      obtain ⟨first, last⟩ := shorthands_dark pair member
      exact ih others ⟨fun c head => (head?_replaceAll filled some head).elim (tight.1 c) (first c),
        fun c ends => (getLast?_replaceAll filled some ends).elim (tight.2 c) (last c)⟩
  exact run shorthands (fun _ member => member) tight

/-- A selector in the current spelling has none of the older ones, so that it stays as it is. -/
theorem normalize_current {selector : String} {current : List Char} (normal : normalize selector = .ok current) :
    ¬opening <:+: current ∧ (∀ pair ∈ shorthands, ¬pair.1.toList <:+: current) ∧
      normalize (String.ofList current) = .ok current := by
  simp only [normalize] at normal
  split at normal
  · cases normal
  · rename_i absent
    obtain rfl := Except.ok.inj normal
    have unopened := mt occursIn_iff.mpr absent
    have longer := not_infix_replaceShorthands (replaceConditions (trim selector.toList))
    have tight := (isTight_trim selector.toList).replaceConditions.replaceShorthands
    exact ⟨unopened, longer, normalize_of_absent unopened longer (trim_of_ends tight.1 tight.2)⟩

end LegacyForm

/-- Whatever a selector is normalized to holds neither old attribute forms nor longer spellings, normalizing it again
changes nothing, and it is read as the selector itself, or as little. -/
theorem SelectorTree.parse_normalized {selector : String} {current : List Char}
    (normal : LegacyForm.normalize selector = .ok current) :
    (∀ older ∈ ["[-ext-", "(:scope >", ":matches-css-before(", ":matches-css-after("], ¬older.toList <:+: current) ∧
      LegacyForm.normalize (String.ofList current) = .ok current ∧
      ∀ tree, parse selector = .ok tree ↔ parse (String.ofList current) = .ok tree := by
  obtain ⟨unopened, longer, again⟩ := LegacyForm.normalize_current normal
  have same : SelectorReader.tokens selector = SelectorReader.tokens (String.ofList current) := by
    rw [SelectorReader.tokens, SelectorReader.tokens, normal, again]
  refine ⟨?_, again, fun tree => ⟨(alike_parse_of_tokens same).of_ok, (alike_parse_of_tokens same.symm).of_ok⟩⟩
  rw [List.forall_mem_cons]
  exact ⟨unopened, by simpa [LegacyForm.shorthands] using longer⟩

/-- An old attribute form with escaped quotes. Two longer spellings come up only with the pseudo-class that it stands
for, one of them across its parenthesis. -/
theorem SelectorTree.parse_normalized_nested :
    LegacyForm.normalize " div[-ext-has=\":scope > a:matches-css-before(content: \\\"x\\\")\"] " =
        .ok "div:has(> a:matches-css(before,content: \"x\"))".toList ∧
      ∃ tree, parse " div[-ext-has=\":scope > a:matches-css-before(content: \\\"x\\\")\"] " = .ok tree ∧
        parse "div:has(> a:matches-css(before,content: \"x\"))" = .ok tree := by
  have normal : LegacyForm.normalize " div[-ext-has=\":scope > a:matches-css-before(content: \\\"x\\\")\"] " =
      .ok "div:has(> a:matches-css(before,content: \"x\"))".toList := by decide +kernel
  have right : (parse " div[-ext-has=\":scope > a:matches-css-before(content: \\\"x\\\")\"] ").isOk = true := by
    decide +kernel
  obtain ⟨tree, read⟩ := exists_of_isOk right
  exact ⟨normal, tree, read, ((parse_normalized normal).2.2 tree).mp read⟩

end CosmeticRules
