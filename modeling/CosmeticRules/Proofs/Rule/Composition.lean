import CosmeticRules.Proofs.Rule.Gathering
import CosmeticRules.Proofs.Text.Split
import CosmeticRules.Proofs.Text.Search
import CosmeticRules.Proofs.Text.Trim
import CosmeticRules.Rule.Sheet

/-!
Style sheets compose: where one ends with a closed block, what follows it is read as a sheet of its own, and the
rules of both are gathered.
-/

namespace CosmeticRules

open Text

/-! The head of a rule that has no block. -/

/-- A marker is found at the end of the text only. -/
theorem MarkedSelector.eq_of_removes {selector : String} {marked : MarkedSelector}
    (read : MarkedSelector.read selector = .ok marked) (removes : marked.removes = true) :
    ∃ before, selector.toList = before ++ marker := by
  unfold MarkedSelector.read at read
  split at read
  · split at read
    · simp at read
    · obtain rfl := Except.ok.inj read
      exact absurd removes Bool.false_ne_true
  · rename_i before after split
    split at read
    · simp at read
    · split at read
      · simp at read
      · split at read
        · simp at read
        · rename_i last
          have nothing : after = [] := by simpa using last
          refine ⟨before, ?_⟩
          rw [eq_append_of_splitAround? split, nothing, List.append_nil]

namespace Sheet

theorem readHead_ok {text : List Char} {part : RuleHead} (read : (RuleHead.read text).result = .ok part) :
    ∃ marked, MarkedSelector.read (String.ofList (trim text)) = .ok marked ∧
      part = ⟨marked.selector, (SelectorTree.parse marked.selector).toOption, marked.declarations⟩ := by
  unfold RuleHead.read at read
  simp only [] at read
  split at read
  · simp at read
  · rw [Logged.result_bind, Logged.result_reportAs, Logged.result_ofExcept] at read
    obtain ⟨marked, found, made⟩ := exists_of_bind_eq_ok read
    exact ⟨marked, eq_ok_of_mapError found, (Except.ok.inj made).symm⟩

theorem readLast_ok {head rest : List Char} {raw : RawRule} (read : (readLast head rest).result = .ok raw) :
    ∃ part, (RuleHead.read (head ++ rest)).result = .ok part ∧ part.marked ≠ [] := by
  unfold readLast at read
  rw [Logged.result_bind] at read
  obtain ⟨part, found, made⟩ := exists_of_bind_eq_ok read
  refine ⟨part, found, ?_⟩
  intro none
  rw [none] at made
  simp at made

/-- A last rule without block does not end with a brace. -/
theorem readLast_not_closed {head rest : List Char} {raw : RawRule}
    (read : (readLast head rest).result = .ok raw) : rest.getLast? ≠ some '\x7d' := by
  intro last
  obtain ⟨part, found, marked⟩ := readLast_ok read
  obtain ⟨cut, selector, rfl⟩ := readHead_ok found
  have removes : cut.removes = true := by
    by_contra stays
    exact marked (if_neg stays)
  obtain ⟨before, whole⟩ := MarkedSelector.eq_of_removes selector removes
  rw [String.toList_ofList] at whole
  have filled : rest ≠ [] := by
    rintro rfl
    simp at last
  have ends : (trim (head ++ rest)).getLast? = some '\x7d' :=
    getLast?_trim ((List.getLast?_append_of_ne_nil _ filled).trans last) (by decide)
  have marker : (before ++ MarkedSelector.marker).getLast? = some ')' := by
    rw [List.getLast?_append_of_ne_nil _ (by decide)]
    decide
  rw [whole, marker] at ends
  exact absurd ends (by decide)

/-! Blocks: what follows one does not change how it is read. -/

theorem valueEnd?_more {quote : Option Char} {escaped : Bool} {s : List Char} {e : ValueEnd}
    (found : valueEnd? quote escaped s = some e) (t : List Char) :
    valueEnd? quote escaped (s ++ t) = some { e with rest := e.rest ++ t } := by
  induction s generalizing quote escaped e with
  | nil => simp [valueEnd?] at found
  | cons c rest ih =>
    rw [valueEnd?] at found
    rw [List.cons_append, valueEnd?]
    split at found
    · rename_i ends
      obtain rfl := Option.some.inj found
      rw [if_pos ends]
    · rename_i goes
      obtain ⟨inner, deeper, rfl⟩ := Option.map_eq_some_iff.mp found
      rw [if_neg goes, ih deeper]
      rfl

theorem suffix_valueEnd? {quote : Option Char} {escaped : Bool} {s : List Char} {e : ValueEnd}
    (found : valueEnd? quote escaped s = some e) : e.rest <:+ s := by
  induction s generalizing quote escaped e with
  | nil => simp [valueEnd?] at found
  | cons c rest ih =>
    rw [valueEnd?] at found
    split at found
    · obtain rfl := Option.some.inj found
      exact List.suffix_cons c rest
    · obtain ⟨inner, deeper, rfl⟩ := Option.map_eq_some_iff.mp found
      exact (ih deeper).trans (List.suffix_cons c rest)

theorem readDeclaration_more {s before rest : List Char} {d : Declaration} {e : ValueEnd}
    (read : readDeclaration s before rest = .ok (d, e)) (longer t : List Char) :
    e.rest <:+ rest ∧
      readDeclaration longer before (rest ++ t) = .ok (d, { e with rest := e.rest ++ t }) := by
  unfold readDeclaration at read ⊢
  split at read
  · simp at read
  · rename_i ended found
    rw [valueEnd?_more found t]
    simp only [] at read ⊢
    split at read
    · simp at read
    · rename_i property
      split at read
      · simp at read
      · rename_i value
        obtain ⟨rfl, rfl⟩ := Prod.mk.inj (Except.ok.inj read)
        rw [if_neg property, if_neg value]
        exact ⟨suffix_valueEnd? found, rfl⟩

/-- A step of reading a block, by its first divider. -/
theorem readBlock_of_cut {done : List Declaration} {s before rest : List Char} {c : Char}
    (cut : splitWhere? isDivider s = some (before, c, rest)) :
    readBlock done s =
      if c = ';' then readBlock done rest
      else if c = ':' then
        readDeclaration s before rest >>= fun (d, e) =>
          if e.closes then .ok (done ++ [d], trimStart e.rest) else readBlock (done ++ [d]) e.rest
      else if !(trim before).isEmpty then .error (.invalidDeclaration (String.ofList s))
      else if done.isEmpty then .error (.noDeclaration (String.ofList s))
      else .ok (done, trimStart rest) := by
  conv_lhs => rw [readBlock]
  split
  · rename_i none
    simp [cut] at none
  · rename_i same
    simp only [cut, Option.some.injEq, Prod.mk.injEq] at same
    obtain ⟨rfl, rfl, rfl⟩ := same
    split
    · rfl
    · split
      · split <;> rename_i read <;> rw [read] <;> rfl
      · rfl

/-- A block ends inside the text, and what follows the text follows the block. -/
theorem readBlock_more {done declarations : List Declaration} {s remaining : List Char}
    (read : readBlock done s = .ok (declarations, remaining)) :
    ∃ rest, rest <:+ s ∧ remaining = trimStart rest ∧
      ∀ t, readBlock done (s ++ t) = .ok (declarations, trimStart (rest ++ t)) := by
  have tail {s before rest : List Char} {c : Char} (cut : splitWhere? isDivider s = some (before, c, rest)) :
      rest <:+ s := ⟨before ++ [c], by rw [(eq_append_of_splitWhere? cut).1]; simp⟩
  fun_induction readBlock done s with
  | case1 | case3 | case6 | case7 => simp at read
  | case2 done s before after cut ih =>
    obtain ⟨rest, inside, ends, more⟩ := ih read
    refine ⟨rest, inside.trans (tail cut), ends, fun t => ?_⟩
    rw [readBlock_of_cut (splitWhere?_more cut t), if_pos rfl, more]
  | case4 done s before after d e inner closes cut other =>
    obtain ⟨rfl, rfl⟩ := Prod.mk.inj (Except.ok.inj read)
    refine ⟨e.rest, (readDeclaration_more inner s []).1.trans (tail cut), rfl, fun t => ?_⟩
    rw [readBlock_of_cut (splitWhere?_more cut t), if_neg other, if_pos rfl,
      (readDeclaration_more inner (s ++ t) t).2]
    exact if_pos closes
  | case5 done s before after d e inner goes cut other ih =>
    obtain ⟨rest, inside, ends, more⟩ := ih read
    refine ⟨rest, (inside.trans (readDeclaration_more inner s []).1).trans (tail cut), ends, fun t => ?_⟩
    rw [readBlock_of_cut (splitWhere?_more cut t), if_neg other, if_pos rfl,
      (readDeclaration_more inner (s ++ t) t).2]
    exact (if_neg goes).trans (more t)
  | case8 done s before divider after cut semicolon colon named some =>
    obtain ⟨rfl, rfl⟩ := Prod.mk.inj (Except.ok.inj read)
    refine ⟨after, tail cut, rfl, fun t => ?_⟩
    rw [readBlock_of_cut (splitWhere?_more cut t), if_neg semicolon, if_neg colon, if_neg named, if_neg some]

/-! Sheets. -/

/-- The rules that are read from a text in turn, where a selector has been begun that reaches into it. -/
inductive Reads : List Char → List Char → List RawRule → Prop
  | done {head} : Reads head [] []
  | last {head s raw} (some : s ≠ []) (unbraced : splitFirst? '\x7b' s = none)
      (read : (readLast head s).result = .ok raw) : Reads head s [raw]
  /-- The brace belongs to the selector. -/
  | brace {head s before rest part raws} (named : head ≠ [] ∨ before ≠ [])
      (cut : splitFirst? '\x7b' s = some (before, rest))
      (read : (RuleHead.read (head ++ before)).result = .ok part) (unparsed : part.tree = none)
      (further : Reads (head ++ before ++ ['\x7b']) rest raws) : Reads head s raws
  | block {head s before rest part tree declarations remaining raws} (named : head ≠ [] ∨ before ≠ [])
      (cut : splitFirst? '\x7b' s = some (before, rest))
      (read : (RuleHead.read (head ++ before)).result = .ok part) (parsed : part.tree = some tree)
      (block : readBlock [] rest = .ok (declarations, remaining)) (further : Reads [] remaining raws) :
      Reads head s (part.toRaw tree declarations :: raws)

/-- A step of reading a sheet, by its first brace. -/
theorem readRules_of_cut {rules : List RawRule} {head s before rest : List Char}
    (named : head ≠ [] ∨ before ≠ []) (cut : splitFirst? '\x7b' s = some (before, rest)) :
    readRules rules head s = (RuleHead.read (head ++ before) >>= fun part =>
      match part.tree with
      | none => readRules rules (head ++ before ++ ['\x7b']) rest
      | some tree =>
        match readBlock [] rest with
        | .error e => throw e
        | .ok (declarations, remaining) =>
          readRules (RawRule.gather rules (part.toRaw tree declarations)) [] remaining) := by
  obtain ⟨rfl, fresh⟩ := eq_append_of_splitFirst? cut
  have begins : ¬(head.isEmpty && (before ++ '\x7b' :: rest).head? == some '\x7b') = true := by
    rcases named with some | some
    · simp [some]
    · obtain ⟨c, more, rfl⟩ := List.exists_cons_of_ne_nil some
      have other : c ≠ '\x7b' := fun same => fresh (same ▸ List.mem_cons_self)
      simp [other]
  conv_lhs => rw [readRules]
  rw [if_neg (by simp), if_neg begins]
  split
  · rename_i none
    simp [cut] at none
  · rename_i same
    simp only [cut, Option.some.injEq, Prod.mk.injEq] at same
    obtain ⟨rfl, rfl⟩ := same
    refine congrArg (RuleHead.read (head ++ before) >>= ·) (funext fun part => ?_)
    cases part.tree with
    | none => rfl
    | some tree => cases readBlock [] rest <;> rfl

theorem readRules_of_unbraced {rules : List RawRule} {head s : List Char} (some : s ≠ [])
    (unbraced : splitFirst? '\x7b' s = none) :
    readRules rules head s = return RawRule.gather rules (← readLast head s) := by
  obtain ⟨c, rest, rfl⟩ := List.exists_cons_of_ne_nil some
  have other : c ≠ '\x7b' := by
    rintro rfl
    simp [splitFirst?] at unbraced
  conv_lhs => rw [readRules]
  rw [if_neg (by simp), if_neg (by simp [other])]
  split
  · rfl
  · rename_i same
    simp [unbraced] at same

theorem readRules_of_reads {head s : List Char} {raws : List RawRule} (reads : Reads head s raws)
    (rules : List RawRule) : (readRules rules head s).result = .ok (raws.foldl RawRule.gather rules) := by
  induction reads generalizing rules with
  | done =>
    rw [readRules]
    rfl
  | last some unbraced read =>
    rw [readRules_of_unbraced some unbraced, Logged.result_bind, read]
    rfl
  | brace named cut read unparsed _ ih =>
    rw [readRules_of_cut named cut, Logged.result_bind, read]
    simp only [bind, Except.bind, unparsed]
    exact ih rules
  | block named cut read parsed block _ ih =>
    rw [readRules_of_cut named cut, Logged.result_bind, read]
    simp only [bind, Except.bind, parsed, block]
    exact ih _

theorem reads_of_readRules {rules out : List RawRule} {head s : List Char}
    (read : (readRules rules head s).result = .ok out) : ∃ raws, Reads head s raws := by
  fun_induction readRules rules head s with
  | case1 rules head s none =>
    obtain rfl := List.isEmpty_iff.mp none
    exact ⟨[], .done⟩
  | case2 => simp at read
  | case3 rules head s some begins unbraced =>
    rw [Logged.result_bind] at read
    obtain ⟨raw, last, _⟩ := exists_of_bind_eq_ok read
    exact ⟨[raw], .last (by simpa using some) unbraced last⟩
  | case4 rules head s some begins before rest cut further next =>
    have named : head ≠ [] ∨ before ≠ [] := by
      by_contra neither
      obtain ⟨rfl, rfl⟩ : head = [] ∧ before = [] := by simpa using neither
      rw [(eq_append_of_splitFirst? cut).1] at begins
      simp at begins
    rw [Logged.result_bind] at read
    obtain ⟨part, headed, read⟩ := exists_of_bind_eq_ok read
    split at read
    · rename_i unparsed
      obtain ⟨raws, reads⟩ := further read
      exact ⟨raws, .brace named cut headed unparsed reads⟩
    · rename_i tree parsed
      split at read
      · simp at read
      · rename_i declarations remaining block
        obtain ⟨raws, reads⟩ := next part tree declarations remaining block read
        exact ⟨_, .block named cut headed parsed block reads⟩

theorem reads_nil {head : List Char} {raws : List RawRule} (reads : Reads head [] raws) : raws = [] := by
  cases reads with
  | done => rfl
  | last some => exact absurd rfl some
  | brace _ cut => simp [splitFirst?] at cut
  | block _ cut => simp [splitFirst?] at cut

theorem getLast?_of_suffix {s rest : List Char} {c : Char} (inside : rest <:+ s) (filled : rest ≠ [])
    (last : s.getLast? = some c) : rest.getLast? = some c := by
  obtain ⟨front, rfl⟩ := inside
  rwa [List.getLast?_append_of_ne_nil _ filled] at last

/-- Where a text ends with a closing brace, the rules of what follows come after its rules. -/
theorem Reads.append {head s t : List Char} {raws more : List RawRule} (reads : Reads head s raws)
    (closed : s.getLast? = some '\x7d') (next : Reads [] (trimStart t) more) :
    Reads head (s ++ t) (raws ++ more) := by
  induction reads with
  | done => simp at closed
  | last _ _ read => exact absurd closed (readLast_not_closed read)
  | @brace head s before rest part raws named cut read unparsed _ ih =>
    obtain ⟨rfl, _⟩ := eq_append_of_splitFirst? cut
    have some : rest ≠ [] := by
      rintro rfl
      simp at closed
    have inside : rest <:+ before ++ '\x7b' :: rest := ⟨before ++ ['\x7b'], by simp⟩
    exact .brace named (splitFirst?_more cut t) read unparsed (ih (getLast?_of_suffix inside some closed))
  | @block head s before rest part tree declarations remaining raws named cut read parsed block further ih =>
    obtain ⟨left, within, rfl, followed⟩ := readBlock_more block
    refine .block named (splitFirst?_more cut t) read parsed (followed t) ?_
    by_cases some : trimStart left = []
    · have blank : ∀ c ∈ left, isBlank c = true := List.dropWhile_eq_nil_iff.mp some
      rw [some] at further
      obtain rfl := reads_nil further
      rwa [trimStart_of_blank blank]
    · obtain ⟨rfl, _⟩ := eq_append_of_splitFirst? cut
      have inside : trimStart left <:+ before ++ '\x7b' :: rest :=
        ((List.dropWhile_suffix isBlank).trans within).trans ⟨before ++ ['\x7b'], by simp⟩
      rw [trimStart_append some]
      exact ih (getLast?_of_suffix inside some closed)

/-! Two sheets in a row. -/

/-- The rules of a sheet with all that it declares for each selector, not yet prepared; none where the text is
not a sheet. -/
def raws (text : String) : List RawRule := (readRules [] [] (trim text.toList)).result.toOption.getD []

theorem raws_of_reads {text : String} {inTurn : List RawRule} (reads : Reads [] (trim text.toList) inTurn) :
    raws text = inTurn.foldl RawRule.gather [] := by
  rw [raws, readRules_of_reads reads]
  rfl

theorem reads_of_read {text : String} {rules : List Rule} (read : (read text).result = .ok rules) :
    rules = (raws text).map Rule.ofRaw ∧ ∃ inTurn, Reads [] (trim text.toList) inTurn := by
  unfold Sheet.read at read
  simp only [] at read
  split at read
  · simp at read
  · rw [Logged.result_bind] at read
    obtain ⟨gathered, found, made⟩ := exists_of_bind_eq_ok read
    refine ⟨?_, reads_of_readRules found⟩
    rw [raws, found]
    exact (Except.ok.inj made).symm

theorem read_of_reads {text : String} {inTurn : List RawRule}
    (uncommented : Rule.hasComment text.toList = false) (reads : Reads [] (trim text.toList) inTurn) :
    (read text).result = .ok ((raws text).map Rule.ofRaw) := by
  have none : ¬Rule.hasComment (trim text.toList) = true := by
    intro comment
    obtain ⟨start, ends⟩ := Bool.and_eq_true_iff.mp comment
    refine Bool.false_ne_true (uncommented.symm.trans (Bool.and_eq_true_iff.mpr ⟨?_, ?_⟩))
    · exact occursIn_iff.mpr ((occursIn_iff.mp start).trans (trim_isInfix _))
    · exact occursIn_iff.mpr ((occursIn_iff.mp ends).trans (trim_isInfix _))
  unfold Sheet.read
  simp only []
  rw [if_neg none, Logged.result_bind, readRules_of_reads reads, raws_of_reads reads]
  rfl

theorem reads_append {first second : String} {before after : List RawRule}
    (readsFirst : Reads [] (trim first.toList) before) (readsSecond : Reads [] (trim second.toList) after)
    (closed : (trim first.toList).getLast? = some '\x7d') :
    Reads [] (trim (first ++ second).toList) (before ++ after) := by
  have filled : trim first.toList ≠ [] := by
    intro empty
    simp [empty] at closed
  obtain ⟨rest, whole, left⟩ := exists_trim_append filled second.toList
  rw [String.toList_append, whole]
  refine readsFirst.append closed ?_
  rwa [left]

theorem map_selector_ofRaw (raws : List RawRule) :
    (raws.map Rule.ofRaw).map (·.selector) = RawRule.selectors raws := by
  rw [List.map_map]
  rfl

/-- Where a sheet ends with a closed block and no comment comes of the two texts, a second sheet can follow it:
the two are read together as a sheet with the selectors of the first in front and those that only the second
has after them. What one of the sheets alone has for a selector stays as it is, and what both have is prepared
from what the first declares followed by what the second declares. -/
theorem read_append {first second : String} {rules more : List Rule} (readFirst : (read first).result = .ok rules)
    (readSecond : (read second).result = .ok more) (closed : (trim first.toList).getLast? = some '\x7d')
    (uncommented : Rule.hasComment (first ++ second).toList = false) :
    rules = (raws first).map Rule.ofRaw ∧ more = (raws second).map Rule.ofRaw ∧
      ∃ both, (read (first ++ second)).result = .ok both ∧ (both.map (·.selector)).Nodup ∧
        both.map (·.selector) =
          rules.map (·.selector) ++ (more.map (·.selector)).filter (!(rules.map (·.selector)).contains ·) ∧
        ∀ rule ∈ both,
          (rule ∈ rules ∧ rule.selector ∉ more.map (·.selector)) ∨
          (rule ∈ more ∧ rule.selector ∉ rules.map (·.selector)) ∨
          ∃ a ∈ raws first, ∃ b ∈ raws second,
            a.selector = rule.selector ∧ b.selector = rule.selector ∧ rule = Rule.ofRaw (a.followedBy b) := by
  obtain ⟨rfl, before, readsFirst⟩ := reads_of_read readFirst
  obtain ⟨rfl, after, readsSecond⟩ := reads_of_read readSecond
  have reads := reads_append readsFirst readsSecond closed
  have gathered : raws (first ++ second) = after.foldl RawRule.gather (raws first) := by
    rw [raws_of_reads reads, raws_of_reads readsFirst, List.foldl_append]
  have distinct : (RawRule.selectors (raws first)).Nodup := by
    rw [raws_of_reads readsFirst]
    exact RawRule.nodup_selectors_foldl _ List.nodup_nil
  refine ⟨rfl, rfl, _, read_of_reads uncommented reads, ?_, ?_, ?_⟩
  · rw [map_selector_ofRaw, gathered]
    exact RawRule.nodup_selectors_foldl _ distinct
  · rw [map_selector_ofRaw, map_selector_ofRaw, map_selector_ofRaw, gathered, RawRule.selectors_foldl,
      raws_of_reads readsSecond]
  · intro rule member
    obtain ⟨raw, listed, rfl⟩ := List.mem_map.mp member
    rw [gathered] at listed
    rw [map_selector_ofRaw, map_selector_ofRaw, raws_of_reads readsSecond]
    rcases RawRule.mem_foldl_gather distinct listed with
      ⟨there, only⟩ | ⟨there, only⟩ | ⟨a, inFirst, b, inSecond, same, again, rfl⟩
    · exact .inl ⟨List.mem_map_of_mem there, only⟩
    · exact .inr (.inl ⟨List.mem_map_of_mem there, only⟩)
    · exact .inr (.inr ⟨a, inFirst, b, inSecond, same, again, rfl⟩)

theorem read_append_overlapping :
    let first := "p \x7b color: red \x7d q \x7b a: b \x7d "
    let second := " i \x7b c: d \x7d p \x7b color: blue \x7d"
    ∃ both, (read (first ++ second)).result = .ok both ∧ both.map (·.selector) = ["p", "q", "i"] := by
  intro first second
  have readFirst : (read first).result = .ok ((read first).result.toOption.getD []) := by decide +kernel
  have readSecond : (read second).result = .ok ((read second).result.toOption.getD []) := by decide +kernel
  obtain ⟨_, _, both, whole, _, named, _⟩ :=
    read_append readFirst readSecond (by decide +kernel) (by decide +kernel)
  refine ⟨both, whole, named.trans ?_⟩
  decide +kernel

end Sheet

end CosmeticRules
