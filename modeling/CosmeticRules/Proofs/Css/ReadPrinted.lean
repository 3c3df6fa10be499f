import CosmeticRules.Proofs.Css.ReadSimple

/-!
Printed selectors are read again: lists are split into chains and chains into compound selectors, and arguments
are shorter than the text that they stand in.
-/

namespace CosmeticRules.Css

open Text

variable {readGroups : List Char → Except Unsupported (List Chain)}

/-! Chains. -/

/-- The sign of a combinator, if it has one. -/
def Combinator.parts : Combinator → List ChainPart
  | .descendant => []
  | .child => [.sign '>']
  | .nextSibling => [.sign '+']
  | .laterSibling => [.sign '~']

def Chain.parts : Chain → List ChainPart
  | .single compound => [.compound (printCompound compound)]
  | .link before combinator compound => before.parts ++ (combinator.parts ++ [.compound (printCompound compound)])

/-- A text of which all is parts. -/
def Divides (text : List Char) (parts : List ChainPart) : Prop := partsFrom {} text = some ([], parts)

theorem consCompound_nil (parts : List ChainPart) : consCompound [] parts = parts := rfl

theorem divides_blank {text : List Char} {first : List Char} {more : List ChainPart}
    (split : partsFrom {} text = some (first, more)) : Divides (' ' :: text) (consCompound first more) := by
  have fed : Nesting.feed {} ' ' = some (true, {}) := rfl
  rw [Divides, partsFrom, fed]
  simp [split, isBlank]

theorem partsFrom_sign {text first : List Char} {more : List ChainPart} {c : Char} (sign : c ∈ ['>', '+', '~'])
    (split : partsFrom {} text = some (first, more)) :
    partsFrom {} (c :: text) = some ([], .sign c :: consCompound first more) := by
  have fed : ∀ c ∈ ['>', '+', '~'], Nesting.feed {} c = some (true, {}) ∧
      (c == '>' || c == '+' || c == '~') = true := by decide
  obtain ⟨step, signs⟩ := fed c sign
  simp [partsFrom, step, signs, split]

theorem divides_sign {text : List Char} {parts : List ChainPart} {c : Char} (sign : c ∈ ['>', '+', '~'])
    (divides : Divides text parts) : Divides (c :: text) (.sign c :: parts) := partsFrom_sign sign divides

theorem endsPart_of_isCompoundChar (c : Char) (inside : isCompoundChar c = true) : endsPart c = false := by
  simpa using (Bool.and_eq_true_iff.mp inside).1

theorem partsFrom_compound {compound : List Simple} (printable : areSimplesPrintable compound = true)
    {rest : List Char} {parts : List ChainPart} (divides : Divides rest parts) :
    partsFrom {} (printCompound compound ++ rest) = some (printCompound compound, parts) := by
  rw [Divides] at divides
  rw [partsFrom_append ((nested_compound compound printable).passes_top endsPart_of_isCompoundChar), divides]
  simp

theorem consCompound_compound {compound : List Simple} (shape : isCompound compound = true)
    (printable : areSimplesPrintable compound = true) (parts : List ChainPart) :
    consCompound (printCompound compound) parts = .compound (printCompound compound) :: parts := by
  have filled : compound ≠ [] := by
    rintro rfl
    simp [isCompound] at shape
  have solid := solid_compound filled printable
  rw [consCompound, solid.trim_eq, if_neg (by simpa using solid.ne_nil)]

/-- A combinator with a compound selector after it. -/
theorem divides_link (combinator : Combinator) {compound : List Simple} (shape : isCompound compound = true)
    (printable : areSimplesPrintable compound = true) {rest : List Char} {parts : List ChainPart}
    (divides : Divides rest parts) :
    Divides (combinator.print ++ (printCompound compound ++ rest))
      (combinator.parts ++ .compound (printCompound compound) :: parts) := by
  have last : Divides (' ' :: (printCompound compound ++ rest)) (.compound (printCompound compound) :: parts) := by
    rw [← consCompound_compound shape printable]
    exact divides_blank (partsFrom_compound printable divides)
  have signed {c : Char} (signs : c ∈ ['>', '+', '~']) :
      Divides (' ' :: c :: ' ' :: (printCompound compound ++ rest))
        (.sign c :: .compound (printCompound compound) :: parts) :=
    divides_blank (divides_sign signs last)
  cases combinator with
  | descendant => exact last
  | child => exact signed (by decide)
  | nextSibling => exact signed (by decide)
  | laterSibling => exact signed (by decide)

theorem parts?_append (chain : Chain) (printable : chain.isPrintable = true) {rest : List Char}
    {parts : List ChainPart} (divides : Divides rest parts) :
    parts? (chain.print ++ rest) = some (chain.parts ++ parts) := by
  induction chain using Chain.induct generalizing rest parts with
  | single compound =>
    obtain ⟨shape, simples⟩ := Bool.and_eq_true_iff.mp printable
    rw [parts?, Chain.print, partsFrom_compound simples divides]
    exact congrArg some (consCompound_compound shape simples parts)
  | link before combinator compound ih =>
    obtain ⟨earlier, last⟩ := Bool.and_eq_true_iff.mp printable
    obtain ⟨shape, simples⟩ := Bool.and_eq_true_iff.mp last
    -- The last compound selector goes to the rest, behind which the chain before it is split.
    have linked := ih earlier (divides_link combinator shape simples divides)
    simpa [Chain.print, Chain.parts] using linked

theorem parts?_print {chain : Chain} (printable : chain.isPrintable = true) :
    parts? chain.print = some chain.parts := by
  have nothing : Divides [] [] := rfl
  simpa using parts?_append chain printable nothing

/-- Reading the parts of a chain builds that chain up. -/
theorem chainFrom_parts {bound : Nat} (reads : Reads readGroups bound) (whole : List Char) (chain : Chain)
    (printable : chain.isPrintable = true) (short : chain.print.length ≤ bound) (more : List ChainPart) :
    chainFrom readGroups whole none none (chain.parts ++ more) =
      chainFrom readGroups whole (some chain) none more := by
  induction chain using Chain.induct generalizing more with
  | single compound =>
    obtain ⟨shape, simples⟩ := Bool.and_eq_true_iff.mp printable
    have read := compound_print reads shape simples short
    rw [Chain.parts, List.singleton_append, chainFrom, read]
    rfl
  | link before combinator compound ih =>
    obtain ⟨earlier, last⟩ := Bool.and_eq_true_iff.mp printable
    obtain ⟨shape, simples⟩ := Bool.and_eq_true_iff.mp last
    simp only [Chain.print, List.length_append] at short
    have read := compound_print reads shape simples (by omega)
    have start := ih earlier (by omega) (combinator.parts ++ .compound (printCompound compound) :: more)
    rw [Chain.parts, List.append_assoc, List.append_assoc, List.singleton_append, start]
    cases combinator with
    | descendant =>
      rw [Combinator.parts, List.nil_append, chainFrom, read]
      rfl
    | child | nextSibling | laterSibling =>
      rw [Combinator.parts, List.singleton_append, chainFrom, chainFrom, read]
      rfl

theorem chain_print {bound : Nat} (reads : Reads readGroups bound) {chain : Chain}
    (printable : chain.isPrintable = true) (short : chain.print.length ≤ bound) :
    Css.chain readGroups chain.print = .ok chain := by
  have built := chainFrom_parts reads chain.print chain printable short []
  rw [List.append_nil] at built
  rw [Css.chain, parts?_print printable]
  exact built.trans rfl

/-! Lists. -/

theorem groupsFrom_chain {chain : Chain} (printable : chain.isPrintable = true) (rest : List Char) :
    groupsFrom {} (chain.print ++ rest) =
      (groupsFrom {} rest).map fun (first, more) => (chain.print ++ first, more) := by
  refine groupsFrom_append ((nested_chain chain printable).passes_top fun c inside => ?_) rest
  simpa [isChainChar] using inside

theorem groupsFrom_comma (text : List Char) :
    groupsFrom {} (',' :: ' ' :: text) =
      (groupsFrom {} text).map fun (first, more) => ([], (' ' :: first) :: more) := by
  have comma : Nesting.feed {} ',' = some (true, {}) := rfl
  have blank : Nesting.feed {} ' ' = some (true, {}) := rfl
  simp only [groupsFrom, comma, blank, Option.map_map]
  rfl

theorem groupsFrom_printMore {rest : List Chain} (printable : areChainsPrintable rest = true) :
    groupsFrom {} (printMore rest) = some ([], rest.map fun next => ' ' :: next.print) := by
  induction rest with
  | nil => rfl
  | cons next rest ih =>
    obtain ⟨first, others⟩ := Bool.and_eq_true_iff.mp printable
    rw [printMore, groupsFrom_comma, groupsFrom_chain first, ih others]
    simp

theorem groups?_print {chains : List Chain} (filled : chains ≠ []) (printable : areChainsPrintable chains = true) :
    groups? (printList chains) = some (chains.map Chain.print) := by
  obtain ⟨chain, rest, rfl⟩ := List.exists_cons_of_ne_nil filled
  have solid : ∀ next ∈ chain :: rest, Solid next.print := by
    intro next member
    rw [areChainsPrintable_eq_all] at printable
    exact solid_chain next (List.all_eq_true.mp printable next member)
  obtain ⟨first, others⟩ := Bool.and_eq_true_iff.mp printable
  have split : groupsFrom {} (printList (chain :: rest)) =
      some (chain.print, rest.map fun next => ' ' :: next.print) := by
    rw [printList, groupsFrom_chain first, groupsFrom_printMore others]
    simp
  have trimmed : (chain.print :: rest.map fun next => ' ' :: next.print).map trim =
      (chain :: rest).map Chain.print := by
    have each : ∀ next ∈ rest, trim (' ' :: next.print) = next.print := by
      intro next member
      rw [trim_blank_cons (by decide), (solid next (List.mem_cons_of_mem _ member)).trim_eq]
    rw [List.map_cons, (solid chain List.mem_cons_self).trim_eq, List.map_map, List.map_cons]
    exact congrArg (chain.print :: ·) (List.map_congr_left each)
  have filled : ((chain :: rest).map Chain.print).any (·.isEmpty) = false := by
    rw [List.any_map, List.any_eq_false]
    intro next member
    simpa using (solid next member).ne_nil
  simp only [groups?, split, trimmed, filled, Bool.false_eq_true, if_false]

theorem length_print_le {chains : List Chain} {chain : Chain} (member : chain ∈ chains) :
    chain.print.length ≤ (printList chains).length := by
  have further {rest : List Chain} (member : chain ∈ rest) : chain.print.length ≤ (printMore rest).length := by
    induction rest with
    | nil => simp at member
    | cons next rest ih =>
      rw [printMore, List.length_cons, List.length_cons, List.length_append]
      rcases List.mem_cons.mp member with rfl | later
      · omega
      · exact (ih later).trans (by omega)
  cases chains with
  | nil => simp at member
  | cons first rest =>
    rw [printList, List.length_append]
    rcases List.mem_cons.mp member with rfl | later
    · exact Nat.le_add_right _ _
    · exact (further later).trans (Nat.le_add_left _ _)

theorem mapM_eq_ok {α β ε : Type} {f : α → Except ε β} {g : β → α} {items : List β}
    (each : ∀ item ∈ items, f (g item) = .ok item) : (items.map g).mapM f = .ok items := by
  induction items with
  | nil => rfl
  | cons item rest ih =>
    obtain ⟨first, others⟩ := List.forall_mem_cons.mp each
    rw [List.map_cons, List.mapM_cons, first, ih others]
    rfl

/-- Lists are read down to any depth that is greater than their length. -/
theorem reads_chainsTo (depth : Nat) : Reads (chainsTo depth) depth := by
  induction depth with
  | zero => exact fun _ _ _ short => absurd short (Nat.not_lt_zero _)
  | succ depth ih =>
    intro chains filled printable short
    -- An argument is shorter than the chain that it stands in, so one depth less is left for it.
    rw [chainsTo, groups?_print filled printable]
    refine mapM_eq_ok fun chain member => chain_print ih ?_ ?_
    · rw [areChainsPrintable_eq_all] at printable
      exact List.all_eq_true.mp printable chain member
    · exact (length_print_le member).trans (Nat.le_of_lt_succ short)

/-- A list of chains is read from its print. -/
theorem read_print {chains : List Chain} (filled : chains ≠ [])
    (printable : ∀ chain ∈ chains, chain.isPrintable = true) :
    read (String.ofList (printList chains)) = .ok chains := by
  have all : areChainsPrintable chains = true := by
    rw [areChainsPrintable_eq_all]
    exact List.all_eq_true.mpr printable
  rw [read, String.toList_ofList, String.length_ofList]
  exact reads_chainsTo _ chains filled all (Nat.lt_succ_self _)

/-- An item at an odd place of a list, with a condition on a value of quotes and brackets, and paragraphs. -/
def quotedItem : List Chain :=
  [.link (.single [.tag "ul", .id "list"]) .child
      [.tag "li", .attribute (.compare "data-x" .includes "\"](, \\" true), .nth .fromFirst (.linear 2 (-1)),
        .notAny [.single [.universal, .isAny [.link (.single [.className "c_1"]) .laterSibling [.structural .empty],
          .single [.attribute (.has "xml:lang")]]]]],
    .single [.tag "p"]]

theorem read_print_quotedItem :
    quotedItem ≠ [] ∧ (∀ chain ∈ quotedItem, chain.isPrintable = true) ∧
      read ("ul#list > li[data-x~=\"\\\"](, \\\\\" i]:nth-child(2n-1):not(*:is(.c_1 ~ :empty, [xml:lang])), " ++
        "p") = .ok quotedItem := by
  have filled : quotedItem ≠ [] := List.cons_ne_nil _ _
  have printable : ∀ chain ∈ quotedItem, chain.isPrintable = true := by
    have all : quotedItem.all Chain.isPrintable = true := by decide +kernel
    exact List.all_eq_true.mp all
  have printed : "ul#list > li[data-x~=\"\\\"](, \\\\\" i]:nth-child(2n-1):not(*:is(.c_1 ~ :empty, [xml:lang])), " ++
      "p" = String.ofList (printList quotedItem) := by decide +kernel
  refine ⟨filled, printable, ?_⟩
  rw [printed]
  exact read_print filled printable

end CosmeticRules.Css
