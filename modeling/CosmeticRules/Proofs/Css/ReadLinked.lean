import CosmeticRules.Proofs.Css.ReadPrinted
import CosmeticRules.Proofs.Css.ReadUsed

/-!
Reading a longer chain: where a chain and a compound selector are read on their own, the text with a combinator
sign between them is read as the chain that links them.
-/

namespace CosmeticRules.Css

open Text

/-! Lengths of the texts that a text is split into. -/

section lengths

variable {a : Nesting} {s first : List Char}

theorem length_trim_le (s : List Char) : (trim s).length ≤ s.length := (trim_isInfix s).length_le

theorem length_le_of_groupsFrom {more : List (List Char)} (split : groupsFrom a s = some (first, more)) :
    ∀ group ∈ first :: more, group.length ≤ s.length := by
  induction s generalizing a first more with
  | nil =>
    rw [groupsFrom] at split
    split at split
    · obtain ⟨rfl, rfl⟩ := Prod.mk.inj (Option.some.inj split)
      simp
    · simp at split
  | cons c rest ih =>
    rw [groupsFrom] at split
    split at split
    · simp at split
    · obtain ⟨⟨begun, others⟩, later, pair⟩ := Option.map_eq_some_iff.mp split
      obtain ⟨begins, shorter⟩ := List.forall_mem_cons.mp (ih later)
      have others (group : List Char) (member : group ∈ others) : group.length ≤ (c :: rest).length :=
        (shorter group member).trans (Nat.le_succ _)
      simp only [] at pair
      split at pair
      · obtain ⟨rfl, rfl⟩ := Prod.mk.inj pair
        exact List.forall_mem_cons.mpr ⟨Nat.zero_le _, List.forall_mem_cons.mpr ⟨begins.trans (Nat.le_succ _), others⟩⟩
      · obtain ⟨rfl, rfl⟩ := Prod.mk.inj pair
        exact List.forall_mem_cons.mpr ⟨Nat.succ_le_succ begins, others⟩

theorem length_le_of_groups? {groups : List (List Char)} (split : groups? s = some groups) :
    ∀ group ∈ groups, group.length ≤ s.length := by
  unfold groups? at split
  split at split
  · simp at split
  · rename_i found
    simp only [] at split
    split at split
    · simp at split
    · obtain rfl := Option.some.inj split
      intro group member
      obtain ⟨text, isIn, rfl⟩ := List.mem_map.mp member
      exact (length_trim_le text).trans (length_le_of_groupsFrom found text isIn)

theorem eq_or_mem_of_mem_consCompound {part : ChainPart} {parts : List ChainPart}
    (member : part ∈ consCompound first parts) : part = .compound (trim first) ∨ part ∈ parts := by
  unfold consCompound at member
  split at member
  · exact .inr member
  · exact List.mem_cons.mp member

theorem length_le_of_partsFrom {more : List ChainPart} (split : partsFrom a s = some (first, more)) :
    first.length ≤ s.length ∧ ∀ text, .compound text ∈ more → text.length ≤ s.length := by
  induction s generalizing a first more with
  | nil =>
    rw [partsFrom] at split
    split at split
    · obtain ⟨rfl, rfl⟩ := Prod.mk.inj (Option.some.inj split)
      simp
    · simp at split
  | cons c rest ih =>
    rw [partsFrom] at split
    split at split
    · simp at split
    · obtain ⟨⟨begun, others⟩, later, pair⟩ := Option.map_eq_some_iff.mp split
      obtain ⟨begins, shorter⟩ := ih later
      have compounds (text : List Char) (member : .compound text ∈ consCompound begun others) :
          text.length ≤ (c :: rest).length := by
        refine Nat.le_succ_of_le ?_
        rcases eq_or_mem_of_mem_consCompound member with same | member
        · exact ChainPart.compound.inj same ▸ (length_trim_le begun).trans begins
        · exact shorter text member
      simp only [] at pair
      split_ifs at pair
      · obtain ⟨rfl, rfl⟩ := Prod.mk.inj pair
        exact ⟨Nat.zero_le _, by simpa using compounds⟩
      · obtain ⟨rfl, rfl⟩ := Prod.mk.inj pair
        exact ⟨Nat.zero_le _, compounds⟩
      · obtain ⟨rfl, rfl⟩ := Prod.mk.inj pair
        exact ⟨Nat.succ_le_succ begins, fun text member => (shorter text member).trans (Nat.le_succ _)⟩

theorem length_le_of_parts? {parts : List ChainPart} (split : parts? s = some parts) {text : List Char}
    (member : .compound text ∈ parts) : text.length ≤ s.length := by
  obtain ⟨⟨first, more⟩, found, rfl⟩ := Option.map_eq_some_iff.mp split
  obtain ⟨begins, shorter⟩ := length_le_of_partsFrom found
  rcases eq_or_mem_of_mem_consCompound member with same | member
  · exact ChainPart.compound.inj same ▸ (length_trim_le first).trans begins
  · exact shorter text member

end lengths

/-! More depth than a text is long does not change what is read. -/

/-- What the first reads of a text shorter than a bound, the second reads as well, and as the same. -/
def Extends (bound : Nat) (readGroups further : List Char → Except Unsupported (List Chain)) : Prop :=
  ∀ s chains, s.length < bound → readGroups s = .ok chains → further s = .ok chains

section mono

variable {bound : Nat} {readGroups further : List Char → Except Unsupported (List Chain)}
  (more : Extends bound readGroups further) {whole s : List Char}

include more

theorem functional_mono {name : String} {simple : Simple} (short : s.length < bound)
    (read : functional readGroups whole name s = .ok simple) : functional further whole name s = .ok simple := by
  have same {make : List Chain → Simple} (read : (readGroups s).map make = .ok simple) :
      (further s).map make = .ok simple := by
    obtain ⟨chains, inner, made⟩ := exists_of_map_eq_ok read
    rw [more s chains short inner, ← made]
    rfl
  unfold functional at read ⊢
  split_ifs at read ⊢
  · exact same read
  · exact same read
  · exact same read
  · exact read

theorem pseudo_mono {found : Simple × List Char} (short : s.length ≤ bound)
    (read : pseudo readGroups whole s = .ok found) : pseudo further whole s = .ok found := by
  unfold pseudo at read ⊢
  split at read
  · simp [unsupported] at read
  · rename_i name rest named
    simp only [] at read ⊢
    split_ifs at read ⊢ with opens
    · split at read
      · simp [unsupported] at read
      · rename_i body after argument
        split_ifs at read ⊢
        · simp [unsupported] at read
        · obtain ⟨simple, inner, made⟩ := exists_of_map_eq_ok read
          have inside : (trim body).length < bound := by
            have left := (leaves_name? named).length_le
            have closed := congrArg List.length (split_argumentFrom argument).1
            have trimmed := length_trim_le body
            rw [List.length_append, List.length_cons, List.length_drop] at closed
            omega
          rw [functional_mono more inside inner, ← made]
          rfl
    · exact read

theorem simple_mono {done : List Simple} {c : Char} {found : Simple × List Char} (short : s.length ≤ bound)
    (read : simple readGroups whole done c s = .ok found) : simple further whole done c s = .ok found := by
  unfold simple at read ⊢
  simp only [] at read ⊢
  split_ifs at read ⊢
  all_goals first
    | exact read
    | exact pseudo_mono more short read

theorem simplesFrom_mono {count : Nat} {done simples : List Simple} (short : s.length ≤ bound)
    (read : simplesFrom readGroups whole count done s = .ok simples) :
    simplesFrom further whole count done s = .ok simples := by
  induction count generalizing done s with
  | zero =>
    cases s with
    | nil => exact read
    | cons c rest => exact read
  | succ count ih =>
    cases s with
    | nil => exact read
    | cons c rest =>
      obtain ⟨⟨next, after⟩, first, later⟩ := exists_of_bind_eq_ok read
      rw [simplesFrom, simple_mono more ((Nat.le_succ _).trans short) first]
      exact ih ((leaves_simple first).length_le.trans short) later

theorem compound_mono {simples : List Simple} (short : s.length ≤ bound)
    (read : compound readGroups s = .ok simples) : compound further s = .ok simples := simplesFrom_mono more short read

theorem chainFrom_mono {before : Option Chain} {sign : Option Combinator} {parts : List ChainPart} {chain : Chain}
    (short : ∀ text, .compound text ∈ parts → text.length ≤ bound)
    (read : chainFrom readGroups whole before sign parts = .ok chain) :
    chainFrom further whole before sign parts = .ok chain := by
  fun_induction chainFrom readGroups whole before sign parts with
  | case1 => exact read
  | case2 => simp [unsupported] at read
  | case3 _ _ _ ih => exact ih (fun text member => short text (List.mem_cons_of_mem _ member)) read
  | case4 => simp [unsupported] at read
  | case5 _ part _ ih =>
    obtain ⟨simples, first, later⟩ := exists_of_bind_eq_ok read
    rw [chainFrom, compound_mono more (short part List.mem_cons_self) first]
    exact ih simples (fun text member => short text (List.mem_cons_of_mem _ member)) later
  | case6 _ _ part _ ih =>
    obtain ⟨simples, first, later⟩ := exists_of_bind_eq_ok read
    rw [chainFrom, compound_mono more (short part List.mem_cons_self) first]
    exact ih simples (fun text member => short text (List.mem_cons_of_mem _ member)) later

theorem chain_mono {chain : Chain} (short : s.length ≤ bound) (read : Css.chain readGroups s = .ok chain) :
    Css.chain further s = .ok chain := by
  unfold Css.chain at read ⊢
  split at read
  · simp [unsupported] at read
  · rename_i split
    exact chainFrom_mono more (fun text member => (length_le_of_parts? split member).trans short) read

end mono

theorem mapM_mono {ε α β : Type} {f g : α → Except ε β} {items : List α}
    (more : ∀ a ∈ items, ∀ b, f a = .ok b → g a = .ok b) {found : List β} (read : items.mapM f = .ok found) :
    items.mapM g = .ok found := by
  induction items generalizing found with
  | nil => exact read
  | cons item rest ih =>
    rw [List.mapM_cons] at read ⊢
    obtain ⟨first, here, read⟩ := exists_of_bind_eq_ok read
    obtain ⟨others, later, read⟩ := exists_of_bind_eq_ok read
    rw [more item List.mem_cons_self first here, ih (fun a member => more a (List.mem_cons_of_mem _ member)) later]
    exact read

/-- Arguments are nested less deep than the text is long. -/
theorem chainsTo_enough {depth deeper : Nat} {s : List Char} {chains : List Chain} (enough : s.length < deeper)
    (read : chainsTo depth s = .ok chains) : chainsTo deeper s = .ok chains := by
  induction deeper generalizing s depth chains with
  | zero => exact absurd enough (Nat.not_lt_zero _)
  | succ deeper ih =>
    cases depth with
    | zero => simp [chainsTo, unsupported] at read
    | succ depth =>
      rw [chainsTo] at read ⊢
      split at read
      · simp [unsupported] at read
      · rename_i groups split
        refine mapM_mono (fun group member chain here => ?_) read
        have short := length_le_of_groups? split group member
        have more : Extends group.length (chainsTo depth) (chainsTo deeper) :=
          fun text chains shorter inner => ih (by omega) inner
        exact chain_mono more le_rfl here

/-- What is read as a chain at some depth is read so wherever the depth is enough. -/
theorem chain_enough {depth deeper : Nat} {s : List Char} {chain : Chain} (enough : s.length ≤ deeper)
    (read : Css.chain (chainsTo depth) s = .ok chain) : Css.chain (chainsTo deeper) s = .ok chain :=
  chain_mono (fun _ _ shorter inner => chainsTo_enough (shorter.trans_le enough) inner) le_rfl read

/-! A single chain, and a chain that is one compound selector. -/

variable {readGroups : List Char → Except Unsupported (List Chain)} {whole s : List Char}

theorem groupsFrom_single {a : Nesting} {first : List Char} (split : groupsFrom a s = some (first, [])) :
    first = s := by
  induction s generalizing a first with
  | nil =>
    rw [groupsFrom] at split
    split at split
    · exact (Prod.mk.inj (Option.some.inj split)).1.symm
    · simp at split
  | cons c rest ih =>
    rw [groupsFrom] at split
    split at split
    · simp at split
    · obtain ⟨⟨begun, others⟩, later, pair⟩ := Option.map_eq_some_iff.mp split
      simp only [] at pair
      split at pair
      · simp at pair
      · obtain ⟨rfl, rfl⟩ := Prod.mk.inj pair
        rw [ih later]

/-- A list of one chain is read from all of the text without surrounding blanks. -/
theorem chainsTo_single {depth : Nat} {found : Chain} (read : chainsTo (depth + 1) s = .ok [found]) :
    groupsFrom {} s = some (s, []) ∧ trim s ≠ [] ∧ Css.chain (chainsTo depth) (trim s) = .ok found := by
  rw [chainsTo] at read
  split at read
  · simp [unsupported] at read
  · rename_i groups split
    obtain ⟨group, rfl, here⟩ : ∃ group, groups = [group] ∧ Css.chain (chainsTo depth) group = .ok found := by
      cases groups with
      | nil => exact absurd (Except.ok.inj read) (by simp)
      | cons group rest =>
        rw [List.mapM_cons] at read
        obtain ⟨first, here, read⟩ := exists_of_bind_eq_ok read
        obtain ⟨others, later, read⟩ := exists_of_bind_eq_ok read
        obtain ⟨rfl, rfl⟩ := List.cons.inj (Except.ok.inj read)
        cases rest with
        | nil => exact ⟨group, rfl, here⟩
        | cons next rest =>
          rw [List.mapM_cons] at later
          obtain ⟨second, _, later⟩ := exists_of_bind_eq_ok later
          obtain ⟨_, _, later⟩ := exists_of_bind_eq_ok later
          exact absurd (Except.ok.inj later) (by simp)
    unfold groups? at split
    split at split
    · simp at split
    · rename_i first others found
      simp only [] at split
      split at split
      · simp at split
      · rename_i filled
        obtain ⟨rfl, none⟩ := List.cons.inj (Option.some.inj split)
        obtain rfl : others = [] := List.map_eq_nil_iff.mp none
        obtain rfl := groupsFrom_single found
        exact ⟨found, by simpa using filled, here⟩

theorem chainsTo_of_single {depth : Nat} {found : Chain} (single : groupsFrom {} s = some (s, []))
    (filled : trim s ≠ []) (here : Css.chain (chainsTo depth) (trim s) = .ok found) :
    chainsTo (depth + 1) s = .ok [found] := by
  have groups : groups? s = some [trim s] := by
    simp [groups?, single, filled]
  rw [chainsTo, groups]
  simp only [List.mapM_cons, here, List.mapM_nil]
  rfl

/-- Where a chain has begun, parts make it longer. -/
theorem chainFrom_some {before found : Chain} {sign : Option Combinator} {parts : List ChainPart}
    (read : chainFrom readGroups whole (some before) sign parts = .ok found) :
    (sign = none ∧ parts = [] ∧ found = before) ∨
      ∃ start combinator compound, found = .link start combinator compound := by
  induction parts generalizing before sign with
  | nil =>
    cases sign with
    | none => exact .inl ⟨rfl, rfl, (Except.ok.inj read).symm⟩
    | some _ => simp [chainFrom, unsupported] at read
  | cons part rest ih =>
    cases part with
    | sign c =>
      cases sign with
      | none =>
        rw [chainFrom] at read
        rcases ih read with ⟨none, _⟩ | longer
        · simp at none
        · exact .inr longer
      | some _ => simp [chainFrom, unsupported] at read
    | compound text =>
      rw [chainFrom] at read
      obtain ⟨simples, _, later⟩ := exists_of_bind_eq_ok read
      rcases ih later with ⟨_, _, rfl⟩ | longer
      · exact .inr ⟨before, _, simples, rfl⟩
      · exact .inr longer

theorem chainFrom_single {parts : List ChainPart} {simples : List Simple}
    (read : chainFrom readGroups whole none none parts = .ok (.single simples)) :
    ∃ text, parts = [.compound text] ∧ Css.compound readGroups text = .ok simples := by
  cases parts with
  | nil => simp [chainFrom, unsupported] at read
  | cons part rest =>
    cases part with
    | sign c => simp [chainFrom, unsupported] at read
    | compound text =>
      rw [chainFrom] at read
      obtain ⟨found, here, later⟩ := exists_of_bind_eq_ok read
      rcases chainFrom_some later with ⟨_, rfl, same⟩ | ⟨start, combinator, compound, longer⟩
      · obtain rfl := Chain.single.inj same
        exact ⟨text, rfl, here⟩
      · exact absurd longer (by simp)

theorem chain_single {simples : List Simple} (read : Css.chain readGroups s = .ok (.single simples)) :
    ∃ text, parts? s = some [.compound text] ∧ Css.compound readGroups text = .ok simples := by
  unfold Css.chain at read
  split at read
  · simp [unsupported] at read
  · rename_i parts split
    obtain ⟨text, rfl, here⟩ := chainFrom_single read
    exact ⟨text, split, here⟩

/-! Parts in a row. -/

theorem consCompound_append (first : List Char) (parts more : List ChainPart) :
    consCompound first (parts ++ more) = consCompound first parts ++ more := by
  unfold consCompound
  split <;> rfl

/-- What comes after a text in which everything is closed adds its parts to those of the text, if it begins with
a sign. -/
theorem partsFrom_leads {a b : Nesting} {text rest : List Char} {parts : List ChainPart}
    (leads : Passes (fun _ => false) a text b) (closed : b.isClosed = true)
    (split : partsFrom b rest = some ([], parts)) :
    partsFrom a (text ++ rest) = (partsFrom a text).map (Prod.map id (· ++ parts)) := by
  induction leads with
  | nil => simp [partsFrom, closed, split]
  | cons fed _ _ ih =>
    simp only [List.cons_append, partsFrom, fed, ih closed split, Option.map_map]
    refine congrArg (Option.map · _) (funext fun pair => ?_)
    obtain ⟨first, more⟩ := pair
    rw [Function.comp_apply, Function.comp_apply]
    split_ifs <;> simp [consCompound_append]

theorem feed_blank {c : Char} (blank : isBlank c = true) : Nesting.feed {} c = some (true, {}) := by
  have ordinary : isOrdinary c = true := isOrdinary_of_apart (by decide) blank
  obtain ⟨h1, h2, h3, h4, h5, h6, h7⟩ := ne_of_isOrdinary ordinary
  simp [Nesting.feed, h1, h2, h3, h4, h5, h6, h7]

/-- A blank in front ends what has been read before it. -/
theorem partsFrom_blank_cons {c : Char} (blank : isBlank c = true) {text first : List Char} {more : List ChainPart}
    (split : partsFrom {} text = some (first, more)) :
    partsFrom {} (c :: text) = some ([], consCompound first more) := by
  have plain : (c == '>' || c == '+' || c == '~') = false := by
    have dark : ∀ d ∈ ['>', '+', '~'], isBlank d = false := by decide
    by_contra sign
    rw [Bool.not_eq_false, Bool.or_eq_true, Bool.or_eq_true, beq_iff_eq, beq_iff_eq, beq_iff_eq, or_assoc] at sign
    have member : c ∈ ['>', '+', '~'] := by simpa using sign
    simp [dark c member] at blank
  simp [partsFrom, feed_blank blank, split, plain, blank]

/-- Blanks in front add nothing to the parts. -/
theorem partsFrom_blanks {blanks text first : List Char} {more : List ChainPart}
    (blank : ∀ c ∈ blanks, isBlank c = true) (split : partsFrom {} text = some (first, more)) :
    ∃ begun others, partsFrom {} (blanks ++ text) = some (begun, others) ∧
      consCompound begun others = consCompound first more := by
  induction blanks with
  | nil => exact ⟨first, more, split, rfl⟩
  | cons c rest ih =>
    obtain ⟨here, blank⟩ := List.forall_mem_cons.mp blank
    obtain ⟨begun, others, found, same⟩ := ih blank
    exact ⟨[], consCompound begun others, partsFrom_blank_cons here found, by rw [consCompound_nil, same]⟩

/-- What parts are read as does not depend on what comes after them. -/
theorem chainFrom_append {before : Option Chain} {sign : Option Combinator} {parts : List ChainPart} {found : Chain}
    (read : chainFrom readGroups whole before sign parts = .ok found) (longer : List Char) (more : List ChainPart) :
    chainFrom readGroups longer before sign (parts ++ more) = chainFrom readGroups longer (some found) none more := by
  fun_induction chainFrom readGroups whole before sign parts with
  | case1 chain =>
    obtain rfl := Except.ok.inj read
    rfl
  | case2 => simp [unsupported] at read
  | case3 chain c rest ih =>
    rw [List.cons_append, chainFrom]
    exact ih read
  | case4 => simp [unsupported] at read
  | case5 _ part rest ih =>
    obtain ⟨simples, here, later⟩ := exists_of_bind_eq_ok read
    rw [List.cons_append, chainFrom, here]
    exact ih simples later
  | case6 chain sign part rest ih =>
    obtain ⟨simples, here, later⟩ := exists_of_bind_eq_ok read
    rw [List.cons_append, chainFrom, here]
    exact ih simples later

/-- A chain, a combinator sign and a compound selector. -/
theorem chain_link {text : List Char} {before : Chain} {simples : List Simple} {c : Char} {blanks : List Char}
    (leads : Passes (fun _ => false) {} text {}) (readBefore : Css.chain readGroups text = .ok before)
    (sign : c ∈ ['>', '+', '~']) (blank : ∀ c ∈ blanks, isBlank c = true)
    (readLast : Css.chain readGroups s = .ok (.single simples)) :
    Css.chain readGroups (text ++ c :: (blanks ++ s)) = .ok (.link before (combinator c) simples) := by
  obtain ⟨last, splitLast, compound⟩ := chain_single readLast
  obtain ⟨⟨first, more⟩, split, joined⟩ := Option.map_eq_some_iff.mp splitLast
  obtain ⟨begun, others, spaced, same⟩ := partsFrom_blanks blank split
  have linked := partsFrom_leads leads rfl (partsFrom_sign sign spaced)
  unfold Css.chain at readBefore ⊢
  split at readBefore
  · simp [unsupported] at readBefore
  · rename_i parts splitBefore
    obtain ⟨⟨start, rest⟩, splitText, rfl⟩ := Option.map_eq_some_iff.mp splitBefore
    have whole : parts? (text ++ c :: (blanks ++ s)) =
        some (consCompound start rest ++ [.sign c, .compound last]) := by
      rw [parts?, linked, splitText, same]
      exact congrArg some ((consCompound_append ..).trans (congrArg (_ ++ .sign c :: ·) joined))
    rw [whole]
    exact (chainFrom_append readBefore _ _).trans (by rw [chainFrom, chainFrom, compound]; rfl)

/-- A chain that is read on its own, a combinator sign and a compound selector that is read on its own. -/
theorem read_link {text last : String} {before : Chain} {simples : List Simple} {c : Char}
    (nested : Nested isChainChar text.toList) (solid : Solid text.toList) (readBefore : read text = .ok [before])
    (sign : c ∈ ['>', '+', '~']) (readLast : read last = .ok [.single simples]) :
    read (String.ofList (text.toList ++ c :: last.toList)) = .ok [.link before (combinator c) simples] := by
  obtain ⟨_, _, chainBefore⟩ := chainsTo_single readBefore
  obtain ⟨groups, filled, chainLast⟩ := chainsTo_single readLast
  obtain ⟨blanks, blank, ended⟩ := exists_trimEnd_eq filled
  have signs : ∀ c ∈ ['>', '+', '~'], Nesting.feed {} c = some (true, {}) ∧ (c == ',') = false ∧
      isBlank c = false := by decide
  obtain ⟨fed, noComma, dark⟩ := signs c sign
  have single : groupsFrom {} (text.toList ++ c :: last.toList) = some (text.toList ++ c :: last.toList, []) := by
    have passes : Passes (· == ',') {} text.toList {} :=
      nested.passes_top fun d inside => by simpa [isChainChar] using inside
    rw [groupsFrom_append passes, groupsFrom, fed]
    simp [groups, noComma]
  have trimmed : trim (text.toList ++ c :: last.toList) = text.toList ++ c :: (blanks ++ trim last.toList) := by
    obtain ⟨d, rest, begins, first⟩ := solid.first
    have start : trimStart (text.toList ++ c :: last.toList) = text.toList ++ c :: last.toList := by
      have none : ∀ b ∈ [], isBlank b = true := by simp
      rw [begins]
      exact trimStart_append_cons none first
    rw [trim, start, trimEnd_append_cons dark, ended]
  have deepBefore : Css.chain (chainsTo (text.toList ++ c :: last.toList).length) text.toList = .ok before :=
    chain_enough (by rw [List.length_append]; omega) (solid.trim_eq ▸ chainBefore)
  have deepLast : Css.chain (chainsTo (text.toList ++ c :: last.toList).length) (trim last.toList) =
      .ok (.single simples) := by
    refine chain_enough ((length_trim_le _).trans ?_) chainLast
    rw [List.length_append, List.length_cons]
    omega
  have linked := chain_link (nested.passes_top fun _ _ => rfl) deepBefore sign blank deepLast
  rw [read, String.toList_ofList, String.length_ofList]
  refine chainsTo_of_single single ?_ (trimmed ▸ linked)
  simp [trimmed]

end CosmeticRules.Css
