import CosmeticRules.Engine.Configuration
import CosmeticRules.Proofs.Rule.RuleList

/-!
Whatever a rule is read from, it declares something: a block has a declaration, and a rule without block has its
marker. So a rule has neither a style nor a debug mode only if all it declares is `debug`, first with a value that
names no mode.
-/

namespace CosmeticRules

open Logged

namespace RawRule

/-- A raw rule that declares something. -/
def Declares (raw : RawRule) : Prop := raw.declarations ≠ []

theorem declares_gather {rules : List RawRule} (all : ∀ raw ∈ rules, raw.Declares) {raw : RawRule}
    (declares : raw.Declares) : ∀ other ∈ gather rules raw, other.Declares := by
  induction rules with
  | nil =>
    intro other member
    rw [gather, List.mem_singleton] at member
    exact member ▸ declares
  | cons first rest ih =>
    obtain ⟨here, others⟩ := List.forall_mem_cons.mp all
    rw [gather]
    split
    · refine List.forall_mem_cons.mpr ⟨?_, others⟩
      exact List.append_ne_nil_of_left_ne_nil here _
    · exact List.forall_mem_cons.mpr ⟨here, ih others⟩

theorem declares_foldl {rules raws : List RawRule} (all : ∀ raw ∈ rules, raw.Declares)
    (more : ∀ raw ∈ raws, raw.Declares) : ∀ other ∈ raws.foldl gather rules, other.Declares := by
  induction raws generalizing rules with
  | nil => exact all
  | cons raw rest ih =>
    obtain ⟨here, others⟩ := List.forall_mem_cons.mp more
    exact ih (declares_gather all here) others

end RawRule

theorem RuleHead.declares_toRaw {head : RuleHead} {tree : SelectorTree} {declarations : List Declaration}
    (some : head.marked ≠ [] ∨ declarations ≠ []) : (head.toRaw tree declarations).Declares := by
  rcases some with marked | block
  · exact List.append_ne_nil_of_left_ne_nil marked _
  · exact List.append_ne_nil_of_right_ne_nil _ block

namespace Rule

theorem declares_of_raw? {text : String} {raw : RawRule} (read : raw? text = some raw) : raw.Declares := by
  obtain ⟨_, _, some⟩ := readRaw_gives text raw (toOption_eq_some_iff.mp read)
  exact RuleHead.declares_toRaw some

theorem readTexts_gives {ε : Type} (warnings texts : List String) :
    (readTexts [] warnings texts : Logged ε (List RawRule × List String)).Gives
      fun read => ∀ raw ∈ read.1, raw.Declares := by
  intro read same
  obtain ⟨more, whole⟩ := result_readTexts (ε := ε) [] warnings texts
  obtain rfl := Except.ok.inj (whole.symm.trans same)
  refine RawRule.declares_foldl (by simp) fun raw member => ?_
  obtain ⟨text, _, found⟩ := List.mem_filterMap.mp member
  exact declares_of_raw? found

end Rule

namespace Sheet

theorem readBlock_ne_nil {done declarations : List Declaration} {s rest : List Char}
    (read : readBlock done s = .ok (declarations, rest)) : declarations ≠ [] := by
  fun_induction readBlock done s with
  | case1 | case3 | case6 => simp at read
  | case2 done s before tail cut ih => exact ih read
  | case4 done s before tail d e =>
    obtain ⟨rfl, _⟩ := Prod.mk.inj (Except.ok.inj read)
    exact List.append_ne_nil_of_right_ne_nil _ (List.cons_ne_nil _ _)
  | case5 done s before tail d e _ _ _ _ ih => exact ih read
  | case7 => simp at read
  | case8 done s before divider tail cut _ _ _ some =>
    obtain ⟨rfl, _⟩ := Prod.mk.inj (Except.ok.inj read)
    simpa using some

theorem readLast_gives (head rest : List Char) : (readLast head rest).Gives RawRule.Declares := by
  refine gives_bind fun part => ?_
  split
  · exact gives_throw
  · rename_i marked
    split
    · exact gives_throw
    · exact gives_pure (RuleHead.declares_toRaw (Or.inl (by simpa using marked)))

theorem readRules_gives {rules : List RawRule} (all : ∀ raw ∈ rules, raw.Declares) (head s : List Char) :
    (readRules rules head s).Gives fun read => ∀ raw ∈ read, raw.Declares := by
  fun_induction readRules rules head s with
  | case1 => exact gives_pure all
  | case2 => exact gives_throw
  | case3 rules head s =>
    exact (readLast_gives head s).bind fun raw declares => gives_pure (RawRule.declares_gather all declares)
  | case4 rules head s _ _ before rest _ further next =>
    refine gives_bind fun part => ?_
    split
    · exact further all
    · rename_i tree _
      split
      · exact gives_throw
      · rename_i declarations remaining read
        have some : declarations ≠ [] := readBlock_ne_nil read
        have declares : (part.toRaw tree declarations).Declares := RuleHead.declares_toRaw (Or.inr some)
        exact next part tree declarations remaining read (RawRule.declares_gather all declares)

end Sheet

namespace Configuration

variable {σ : Type} (configuration : Configuration σ)

/-- The raw rules of the style sheet. -/
def sheetRules : List RawRule :=
  match configuration.styleSheet.filter (!·.isEmpty) with
  | some text => (Sheet.readRules [] [] (Text.trim text.toList)).result.toOption.getD []
  | none => []

/-- The raw rules of the list, apart from those that cannot be read. -/
def listedRules : List RawRule :=
  match configuration.rules with
  | some texts =>
    ((Rule.readTexts [] [] (Rule.distinctTexts texts) :
      Logged ConfigurationError (List RawRule × List String)).result.toOption.getD ([], [])).1
  | none => []

/-- The raw rules that the rules of a configuration are made of. -/
def rawRules : List RawRule := configuration.sheetRules ++ configuration.listedRules

theorem declares_of_mem_rawRules : ∀ raw ∈ configuration.rawRules, raw.Declares := by
  refine List.forall_mem_append.mpr ⟨?_, ?_⟩
  · unfold sheetRules
    split
    · rename_i text _
      cases read : (Sheet.readRules [] [] (Text.trim text.toList)).result with
      | error e => simp [Except.toOption]
      | ok raws => exact Sheet.readRules_gives (by simp) [] _ raws read
    · simp
  · unfold listedRules
    split
    · rename_i texts _
      cases read : (Rule.readTexts [] [] (Rule.distinctTexts texts) :
          Logged ConfigurationError (List RawRule × List String)).result with
      | error e => simp [Except.toOption]
      | ok raws => exact Rule.readTexts_gives [] _ raws read
    · simp

theorem read_sheet (text : String) :
    ((Sheet.read text).mapError ConfigurationError.badSheet).Gives fun rules => rules =
      ((Sheet.readRules [] [] (Text.trim text.toList)).result.toOption.getD []).map Rule.ofRaw :=
  fun _ same => (Sheet.reads_of_read (eq_ok_of_mapError same)).1

theorem read_list (texts : List String) :
    (Rule.readAll texts : Logged ConfigurationError (List Rule)).Gives fun rules => rules =
      (((Rule.readTexts [] [] (Rule.distinctTexts texts) :
        Logged ConfigurationError (List RawRule × List String)).result.toOption.getD ([], [])).1).map
          Rule.ofRaw := by
  intro rules same
  obtain ⟨warnings, read⟩ :=
    Rule.result_readTexts (ε := ConfigurationError) [] [] (Rule.distinctTexts texts)
  rw [read]
  exact Except.ok.inj (same.symm.trans (Rule.result_readAll texts))

/-- The rules of a configuration are its raw rules, each made into a rule. -/
theorem readRules_gives : configuration.readRules.Gives fun rules =>
    rules = configuration.rawRules.map Rule.ofRaw := by
  have nothing : (Pure.pure [] : Logged ConfigurationError (List Rule)).Gives (· = []) := gives_pure rfl
  have listed : ∀ {ofSheet : List Rule}, ofSheet = configuration.sheetRules.map Rule.ofRaw →
      (match configuration.rules with
        | some texts => do return ofSheet ++ (← Rule.readAll texts)
        | none => do return ofSheet ++ (← Pure.pure []) :
          Logged ConfigurationError (List Rule)).Gives
        (· = configuration.rawRules.map Rule.ofRaw) := by
    rintro _ rfl
    rw [rawRules, List.map_append, listedRules]
    split
    · rename_i texts _
      exact (read_list texts).bind fun ofList second => gives_pure (congrArg _ second)
    · exact nothing.bind fun ofList second => gives_pure (congrArg _ second)
  unfold readRules
  simp only []
  split
  · intro rules same
    rw [result_bind, result_throw] at same
    cases same
  · split
    · rename_i text is
      refine (read_sheet text).bind fun ofSheet first => listed ?_
      rw [first, sheetRules, is]
    · rename_i is
      refine nothing.bind fun ofSheet first => listed ?_
      rw [first, sheetRules, is]
      rfl

end Configuration

/-! Rules that apply nothing. -/

/-- Whether all that is declared is `debug`, first with a value that names no mode. -/
def RawRule.IsVoid (raw : RawRule) : Prop :=
  ∃ first rest, raw.declarations = first :: rest ∧ Rule.debugMode? first.value = none ∧
    ∀ d ∈ raw.declarations, d.property = Rule.debugProperty

/-- A rule with neither a style nor a debug mode. -/
theorem RawRule.isVoid_of_none {raw : RawRule} (declares : raw.Declares)
    (styleless : (Rule.ofRaw raw).style = none) (modeless : (Rule.ofRaw raw).debug = none) : raw.IsVoid := by
  have others : raw.declarations.filter (·.property != Rule.debugProperty) = [] := by
    unfold Rule.ofRaw at styleless
    simp only [] at styleless
    split at styleless
    · simp at styleless
    · split at styleless
      · rename_i none
        exact List.isEmpty_iff.mp none
      · simp at styleless
  have all : ∀ d ∈ raw.declarations, d.property = Rule.debugProperty := by
    intro d member
    have kept := List.filter_eq_nil_iff.mp others d member
    simpa using kept
  obtain ⟨first, rest, same⟩ := List.exists_cons_of_ne_nil declares
  have mode : (raw.declarations.find? (·.property == Rule.debugProperty)).bind
      (Rule.debugMode? ·.value) = none := modeless
  have here : (first.property == Rule.debugProperty) = true :=
    beq_iff_eq.mpr (all first (same ▸ List.mem_cons_self))
  rw [same, List.find?_cons, here] at mode
  exact ⟨first, rest, same, mode, all⟩

end CosmeticRules
