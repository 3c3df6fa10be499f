import CosmeticRules.Proofs.Matching.Elements
import CosmeticRules.Proofs.Rule.Composition
import CosmeticRules.Proofs.Selector.Outcome

/-!
Lists of rules. Every text is read by itself: one that cannot be read, or that has been there before, leaves no
trace. The rules that remain are gathered by selector, which is another key than the text.
-/

namespace CosmeticRules

open Text Logged

namespace RawRule

/-- The rules that are gathered have the selectors of what they are made of, each at its first occurrence. -/
theorem selectors_foldl_gather (raws : List RawRule) :
    selectors (raws.foldl gather []) = (selectors raws).eraseDups := by
  induction raws using List.reverseRecOn with
  | nil => rfl
  | append_singleton raws raw ih =>
    have split : selectors (raws ++ [raw]) = selectors raws ++ [raw.selector] := List.map_append
    rw [List.foldl_append, List.foldl_cons, List.foldl_nil, selectors_gather, ih, split, List.eraseDups_append]
    by_cases known : raw.selector ∈ selectors raws <;> simp [known, List.removeAll, List.eraseDups_cons]

/-- What is declared for a selector, in order. -/
def declaredFor (selector : String) (raws : List RawRule) : List Declaration :=
  (raws.filter (·.selector == selector)).flatMap (·.declarations)

theorem declaredFor_append (selector : String) (raws : List RawRule) (raw : RawRule) :
    declaredFor selector (raws ++ [raw]) =
      declaredFor selector raws ++ if raw.selector = selector then raw.declarations else [] := by
  by_cases same : raw.selector = selector <;> simp [declaredFor, List.filter_append, same]

theorem declaredFor_of_fresh {selector : String} {raws : List RawRule} (fresh : selector ∉ selectors raws) :
    declaredFor selector raws = [] := by
  have none : raws.filter (·.selector == selector) = [] := by
    refine List.filter_eq_nil_iff.mpr fun raw member same => fresh ?_
    exact List.mem_map.mpr ⟨raw, member, eq_of_beq same⟩
  rw [declaredFor, none, List.flatMap_nil]

/-- A rule that is gathered has the tree of the first of its selector, and the declarations of all of them. -/
theorem find?_foldl_gather_spec {selector : String} {raws : List RawRule} {rule : RawRule}
    (found : find? selector (raws.foldl gather []) = some rule) :
    rule.declarations = declaredFor selector raws ∧
      ∃ raw ∈ raws, raw.selector = selector ∧ raw.tree = rule.tree := by
  induction raws using List.reverseRecOn generalizing rule with
  | nil => simp [find?] at found
  | append_singleton raws raw ih =>
    rw [List.foldl_append, List.foldl_cons, List.foldl_nil, find?_gather] at found
    rw [declaredFor_append]
    by_cases here : raw.selector = selector
    · rw [find?_cons, if_pos here] at found
      rw [if_pos here]
      cases first : find? selector (raws.foldl gather []) with
      | none =>
        rw [first] at found
        obtain rfl := Option.some.inj found
        refine ⟨?_, raw, by simp, here, rfl⟩
        have fresh : selector ∉ selectors raws := by
          rw [← List.mem_eraseDups, ← selectors_foldl_gather]
          exact find?_eq_none.mp first
        rw [declaredFor_of_fresh fresh, List.nil_append]
      | some held =>
        rw [first] at found
        obtain rfl := Option.some.inj found
        obtain ⟨declared, member⟩ := ih first
        obtain ⟨origin, inside, same, tree⟩ := member
        refine ⟨?_, origin, List.mem_append_left _ inside, same, tree⟩
        rw [← declared]
        rfl
    · rw [find?_cons, if_neg here] at found
      have held : find? selector (raws.foldl gather []) = some rule := by
        cases first : find? selector (raws.foldl gather []) <;> rw [first] at found <;> exact found
      obtain ⟨declared, origin, inside, same, tree⟩ := ih held
      rw [if_neg here, List.append_nil]
      exact ⟨declared, origin, List.mem_append_left _ inside, same, tree⟩

end RawRule

/-! One rule. -/

namespace Block

theorem finish_ne_nil {block : String} {s : State} {declarations : List Declaration}
    (read : finish block s = .ok declarations) : declarations ≠ [] := by
  unfold finish at read
  split at read
  · simp at read
  · split at read
    · simp at read
    · simp only [] at read
      split at read <;> split at read <;> simp_all

theorem declarations_ne_nil {block : String} {declarations : List Declaration}
    (read : Block.declarations block = .ok declarations) : declarations ≠ [] := by
  obtain ⟨_, _, finished⟩ := exists_of_bind_eq_ok read
  exact finish_ne_nil finished

end Block

/-- A rule made of a head that was read, and of declarations of which there are some. -/
inductive RawRule.Made : RawRule → Prop
  | intro {text : List Char} {head : RuleHead} {tree : SelectorTree} {declarations : List Declaration}
      (read : (RuleHead.read text).result = .ok head) (parsed : head.tree = some tree)
      (declares : head.marked ≠ [] ∨ declarations ≠ []) : Made (head.toRaw tree declarations)

/-- The tree of a rule is that of its selector text. -/
theorem RawRule.Made.parse_selector {raw : RawRule} (made : raw.Made) :
    SelectorTree.parse raw.selector = .ok raw.tree := by
  obtain ⟨read, parsed, _⟩ := made
  obtain ⟨marked, _, rfl⟩ := Sheet.readHead_ok read
  exact SelectorTree.parse_trimText (toOption_eq_some_iff.mp parsed)

namespace Rule

theorem readCuts_gives (cuts : List (List Char × List Char)) : (readCuts cuts).Gives RawRule.Made := by
  induction cuts with
  | nil => exact gives_throw
  | cons cut rest ih =>
    obtain ⟨before, after⟩ := cut
    have first : (RuleHead.read before).Gives fun head => (RuleHead.read before).result = .ok head :=
      fun head read => read
    refine first.bind fun head read => ?_
    split
    · exact ih
    · rename_i tree parsed
      refine (gives_ofExcept fun declarations block => Block.declarations_ne_nil block).bind ?_
      exact fun declarations some => gives_pure (.intro read parsed (.inr some))

theorem readMarked_gives (text : List Char) : (readMarked text).Gives RawRule.Made := by
  have first : (RuleHead.read text).Gives fun head => (RuleHead.read text).result = .ok head :=
    fun head read => read
  refine first.bind fun head read => ?_
  split
  · exact gives_throw
  · rename_i tree parsed
    split
    · exact gives_throw
    · rename_i marked
      exact gives_pure (.intro read parsed (.inl (by simpa using marked)))

theorem readRaw_gives (text : String) : (readRaw text).Gives RawRule.Made := by
  unfold readRaw
  simp only []
  split
  · exact gives_throw
  · split
    · exact gives_throw
    · split
      · exact readMarked_gives _
      · split
        · exact readCuts_gives _
        · exact gives_throw

theorem readRaw_trimText (text : String) : readRaw (trimText text) = readRaw text := by
  unfold readRaw
  rw [trimText, String.toList_ofList, trim_trim]

/-- The raw rule that a text is read as. -/
def raw? (text : String) : Option RawRule := (readRaw text).result.toOption

/-- Whether a text is read as a rule. -/
def isReadable (text : String) : Bool := (read text).result.toOption.isSome

theorem isReadable_eq (text : String) : isReadable text = (raw? text).isSome := by
  unfold isReadable raw? read
  rw [map_eq_pure_bind, result_bind]
  cases (readRaw text).result <;> rfl

@[simp] theorem raw?_trimText (text : String) : raw? (trimText text) = raw? text := by
  rw [raw?, readRaw_trimText, raw?]

@[simp] theorem isReadable_trimText (text : String) : isReadable (trimText text) = isReadable text := by
  rw [isReadable_eq, raw?_trimText, isReadable_eq]

/-! Lists of rules. -/

/-- The texts that are read as rules, without those that are like an earlier one up to blanks around them. -/
def remaining (texts : List String) : List String :=
  (texts.eraseDupsBy fun text earlier => trimText text == trimText earlier).filter isReadable

/-- The raw rules of a list, one for each text that remains. -/
def raws (texts : List String) : List RawRule := (remaining texts).filterMap raw?

theorem result_readTexts {ε : Type} (rules : List RawRule) (warnings texts : List String) :
    ∃ more, (readTexts rules warnings texts : Logged ε (List RawRule × List String)).result =
      .ok ((texts.filterMap raw?).foldl RawRule.gather rules, more) := by
  induction texts generalizing rules warnings with
  | nil => exact ⟨warnings, rfl⟩
  | cons text rest ih =>
    rw [readTexts, result_bind, result_attempt]
    cases read : (readRaw text).result with
    | ok raw =>
      have is : raw? text = some raw := by rw [raw?, read]; rfl
      rw [List.filterMap_cons_some is]
      exact ih _ _
    | error e =>
      have is : raw? text = none := by rw [raw?, read]; rfl
      rw [List.filterMap_cons_none is]
      exact ih _ _

/-- A list of rules is always read: its rules are gathered from the texts that can be read. -/
theorem result_readAll {ε : Type} (texts : List String) :
    (readAll texts : Logged ε (List Rule)).result =
      .ok ((((distinctTexts texts).filterMap raw?).foldl RawRule.gather []).map ofRaw) := by
  obtain ⟨warnings, read⟩ := result_readTexts (ε := ε) [] [] (distinctTexts texts)
  rw [readAll, result_bind, read]
  simp only [Bind.bind, Except.bind]
  split <;> rfl

theorem raw?_comp_trimText : raw? ∘ trimText = raw? := by
  funext text
  rw [Function.comp_apply, raw?_trimText]

theorem isReadable_comp_trimText : isReadable ∘ trimText = isReadable := by
  funext text
  rw [Function.comp_apply, isReadable_trimText]

theorem map_trimText_remaining (texts : List String) :
    (remaining texts).map trimText = (distinctTexts texts).filter isReadable := by
  rw [remaining, distinctTexts, ← map_eraseDupsBy, List.filter_map, isReadable_comp_trimText]

theorem distinctTexts_remaining (texts : List String) :
    distinctTexts (remaining texts) = (distinctTexts texts).filter isReadable := by
  rw [distinctTexts, map_trimText_remaining]
  exact eraseDups_of_nodup ((nodup_eraseDups _).filter _)

theorem filterMap_filter_isReadable (texts : List String) :
    (texts.filter isReadable).filterMap raw? = texts.filterMap raw? := by
  rw [List.filterMap_filter]
  refine List.filterMap_congr fun text _ => ?_
  rw [isReadable_eq]
  cases raw? text <;> rfl

theorem filterMap_distinctTexts (texts : List String) : (distinctTexts texts).filterMap raw? = raws texts := by
  conv_rhs => rw [raws, ← raw?_comp_trimText, ← List.filterMap_map, map_trimText_remaining]
  exact (filterMap_filter_isReadable _).symm

/-- Texts that cannot be read or are there already add nothing. -/
theorem filterMap_distinctTexts_append {texts more : List String}
    (idle : ∀ text ∈ more, isReadable text = false ∨ trimText text ∈ texts.map trimText) :
    (distinctTexts (texts ++ more)).filterMap raw? = (distinctTexts texts).filterMap raw? := by
  have nothing : ((more.map trimText).removeAll (texts.map trimText)).eraseDups.filterMap raw? = [] := by
    refine List.filterMap_eq_nil_iff.mpr fun trimmed member => ?_
    rw [List.mem_eraseDups, List.removeAll, List.mem_filter] at member
    obtain ⟨inMore, fresh⟩ := member
    obtain ⟨text, within, rfl⟩ := List.mem_map.mp inMore
    rcases idle text within with unread | known
    · rw [raw?_trimText]
      rw [isReadable_eq] at unread
      exact Option.not_isSome_iff_eq_none.mp (by simp [unread])
    · simp [known] at fresh
  rw [distinctTexts, List.map_append, List.eraseDups_append, List.filterMap_append, nothing, List.append_nil]
  rfl

theorem parse_of_mem_raws {texts : List String} {raw : RawRule} (member : raw ∈ raws texts) :
    SelectorTree.parse raw.selector = .ok raw.tree := by
  obtain ⟨text, _, read⟩ := List.mem_filterMap.mp member
  exact (readRaw_gives text raw (toOption_eq_some_iff.mp read)).parse_selector

/-- A rule of a list has the tree of its selector text, and all that is declared for the selector by the texts
that remain. -/
theorem of_mem_gathered {texts : List String} {rule : Rule}
    (member : rule ∈ ((raws texts).foldl RawRule.gather []).map ofRaw) :
    SelectorTree.parse rule.selector = .ok rule.tree ∧
      rule = ofRaw ⟨rule.selector, rule.tree, RawRule.declaredFor rule.selector (raws texts)⟩ := by
  obtain ⟨gathered, inside, rfl⟩ := List.mem_map.mp member
  have distinct : (RawRule.selectors ((raws texts).foldl RawRule.gather [])).Nodup :=
    RawRule.nodup_selectors_foldl (raws texts) List.nodup_nil
  have found := RawRule.find?_eq_some_of_mem distinct inside
  obtain ⟨declared, raw, origin, same, tree⟩ := RawRule.find?_foldl_gather_spec found
  have parsed := parse_of_mem_raws origin
  rw [same, tree] at parsed
  have whole : gathered =
      ⟨gathered.selector, gathered.tree, RawRule.declaredFor gathered.selector (raws texts)⟩ := by rw [← declared]
  exact ⟨parsed, congrArg ofRaw whole⟩

/-- A list of rules is read as what remains of it: its rules have different selectors, in the order in which those
first occur among the texts that remain, and each is made of all that is declared for its selector. More texts that
cannot be read or are there already change nothing. -/
theorem readAll_remaining {ε : Type} (texts : List String) :
    ∃ rules, (readAll texts : Logged ε (List Rule)).result = .ok rules ∧
      (readAll (remaining texts) : Logged ε (List Rule)).result = .ok rules ∧
      rules.map (·.selector) = ((raws texts).map (·.selector)).eraseDups ∧
      (rules.map (·.selector)).Nodup ∧
      (∀ rule ∈ rules, SelectorTree.parse rule.selector = .ok rule.tree ∧
        rule = ofRaw ⟨rule.selector, rule.tree, RawRule.declaredFor rule.selector (raws texts)⟩) ∧
      ∀ more, (∀ text ∈ more, isReadable text = false ∨ trimText text ∈ texts.map trimText) →
        (readAll (texts ++ more) : Logged ε (List Rule)).result = .ok rules := by
  have selectors : (((raws texts).foldl RawRule.gather []).map ofRaw).map (·.selector) =
      ((raws texts).map (·.selector)).eraseDups := by
    rw [List.map_map]
    exact RawRule.selectors_foldl_gather (raws texts)
  refine ⟨((raws texts).foldl RawRule.gather []).map ofRaw, ?_, ?_, selectors, ?_, ?_, ?_⟩
  · rw [result_readAll, filterMap_distinctTexts]
  · rw [result_readAll, distinctTexts_remaining, filterMap_filter_isReadable, filterMap_distinctTexts]
  · exact selectors ▸ nodup_eraseDups _
  · exact fun rule member => of_mem_gathered member
  · intro more idle
    rw [result_readAll, filterMap_distinctTexts_append idle, filterMap_distinctTexts]

/-- A text without selector and a rule that is there already, with other blanks around it. -/
theorem readAll_with_idle_texts :
    (readAll (["a { color: red }", "{ color: red }", "b { top: 0 }"] ++ [" a { color: red }", "{ color: red }"]) :
      Logged StyleError (List Rule)).result =
    (readAll ["a { color: red }", "{ color: red }", "b { top: 0 }"] : Logged StyleError (List Rule)).result := by
  obtain ⟨rules, read, _, _, _, _, more⟩ :=
    readAll_remaining (ε := StyleError) ["a { color: red }", "{ color: red }", "b { top: 0 }"]
  rw [read]
  exact more _ (by decide +kernel)

end Rule

end CosmeticRules
