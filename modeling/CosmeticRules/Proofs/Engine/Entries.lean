import CosmeticRules.Engine.Affected
import CosmeticRules.Proofs.Distinct

/-!
The entries of affected elements as a list: which elements have one, and what recording a rule or
changing one entry does to the others.
-/

namespace CosmeticRules.Affected

def nodes (entries : List Affected) : List NodeId := entries.map (·.node)

/-- The numbers of the protections in use. -/
def protectionIds (entries : List Affected) : List Nat :=
  entries.filterMap fun a => a.protection.map (·.id)

@[simp] theorem nodes_cons (a : Affected) (rest : List Affected) :
    nodes (a :: rest) = a.node :: nodes rest := rfl

theorem mem_protectionIds_cons {a : Affected} {rest : List Affected} {id : Nat} :
    id ∈ protectionIds (a :: rest) ↔ a.protection.map (·.id) = some id ∨ id ∈ protectionIds rest := by
  simp [protectionIds, List.mem_filterMap]

theorem nodup_protectionIds_cons {a : Affected} {rest : List Affected} :
    (protectionIds (a :: rest)).Nodup ↔
      (∀ id, a.protection.map (·.id) = some id → id ∉ protectionIds rest) ∧
        (protectionIds rest).Nodup := by
  simp only [protectionIds, List.filterMap_cons]
  cases a.protection.map (·.id) <;> simp

def markRemoved (a : Affected) : Affected := { a with removed := true }

@[simp] theorem node_addRule (a : Affected) (rule : Rule) : (a.addRule rule).node = a.node := by
  unfold addRule
  split <;> rfl

@[simp] theorem protection_addRule (a : Affected) (rule : Rule) :
    (a.addRule rule).protection = a.protection := by
  unfold addRule
  split <;> rfl

@[simp] theorem removed_addRule (a : Affected) (rule : Rule) :
    (a.addRule rule).removed = a.removed := by
  unfold addRule
  split <;> rfl

@[simp] theorem initialStyle_addRule (a : Affected) (rule : Rule) :
    (a.addRule rule).initialStyle = a.initialStyle := by
  unfold addRule
  split <;> rfl

theorem mem_rules_addRule {a : Affected} {rule other : Rule} :
    other ∈ (a.addRule rule).rules ↔ other ∈ a.rules ∨ other = rule := by
  unfold addRule
  split
  · rename_i known
    have member := List.contains_iff_mem.mp known
    constructor
    · exact Or.inl
    · rintro (old | rfl)
      · exact old
      · exact member
  · simp

theorem nodup_rules_addRule {a : Affected} {rule : Rule} (distinct : a.rules.Nodup) :
    (a.addRule rule).rules.Nodup := by
  unfold addRule
  split
  · exact distinct
  · rename_i fresh
    rw [List.contains_iff_mem] at fresh
    refine List.nodup_append.mpr ⟨distinct, by simp, ?_⟩
    rintro old member _ single rfl
    exact fresh (List.mem_singleton.mp single ▸ member)

theorem nodes_touch (n : NodeId) (rule : Rule) (style : String) (entries : List Affected) :
    nodes (touch n rule style entries) =
      if n ∈ nodes entries then nodes entries else nodes entries ++ [n] := by
  induction entries with
  | nil => rfl
  | cons a rest ih =>
    by_cases same : a.node = n
    · simp [touch, nodes, same]
    · simp only [nodes] at ih
      simp only [touch, nodes, same, if_false, List.map_cons, ih, List.mem_cons, Ne.symm same, false_or]
      by_cases known : n ∈ rest.map (·.node) <;> simp [known]

theorem mem_nodes_touch {n m : NodeId} {rule : Rule} {style : String} {entries : List Affected} :
    m ∈ nodes (touch n rule style entries) ↔ m ∈ nodes entries ∨ m = n := by
  rw [nodes_touch]
  split
  · rename_i known
    constructor
    · exact Or.inl
    · rintro (old | rfl)
      · exact old
      · exact known
  · simp

theorem nodup_nodes_touch {n : NodeId} {rule : Rule} {style : String} {entries : List Affected}
    (distinct : (nodes entries).Nodup) : (nodes (touch n rule style entries)).Nodup := by
  rw [nodes_touch]
  split
  · exact distinct
  · rename_i fresh
    refine List.nodup_append.mpr ⟨distinct, by simp, ?_⟩
    rintro old member _ single rfl
    exact fresh (List.mem_singleton.mp single ▸ member)

/-- The entry that recording a rule makes for an element. -/
def touched (n : NodeId) (rule : Rule) (style : String) : Option Affected → Affected
  | some a => a.addRule rule
  | none => { node := n, rules := [rule], initialStyle := style }

theorem find?_cons (n : NodeId) (a : Affected) (rest : List Affected) :
    find? n (a :: rest) = if a.node = n then some a else find? n rest := by
  by_cases same : a.node = n <;> simp [find?, same]

theorem mem_of_find? {n : NodeId} {entries : List Affected} {a : Affected}
    (found : find? n entries = some a) : a ∈ entries := List.mem_of_find?_eq_some found

theorem find?_eq_none {n : NodeId} {entries : List Affected} :
    find? n entries = none ↔ n ∉ nodes entries := by
  simp [find?, nodes, List.find?_eq_none]

theorem find?_of_mem {entries : List Affected} (distinct : (nodes entries).Nodup) {a : Affected}
    (member : a ∈ entries) : find? a.node entries = some a := find?_of_nodup_map distinct member

theorem find?_touch (n m : NodeId) (rule : Rule) (style : String) (entries : List Affected) :
    find? m (touch n rule style entries) =
      if m = n then some (touched n rule style (find? n entries)) else find? m entries := by
  induction entries with
  | nil =>
    by_cases same : m = n
    · simp [touch, find?, touched, same]
    · simp [touch, find?, same, Ne.symm same]
  | cons a rest ih =>
    by_cases here : a.node = n
    · rw [touch, if_pos here, find?_cons, find?_cons n, if_pos here, node_addRule, here]
      by_cases same : m = n
      · rw [if_pos same.symm, if_pos same]
        rfl
      · rw [if_neg (Ne.symm same), if_neg same, find?_cons, here, if_neg (Ne.symm same)]
    · rw [touch, if_neg here, find?_cons, find?_cons n, if_neg here, ih, find?_cons]
      by_cases same : m = n
      · rw [if_pos same, if_pos same, same, if_neg here]
      · rw [if_neg same, if_neg same]

/-- What holds of the old entries, and of the one made for the element if it has none yet, holds after
recording a rule. -/
theorem forall_touch {P : Affected → Prop} {n : NodeId} {rule : Rule} {style : String}
    {entries : List Affected} (old : ∀ a ∈ entries, P a)
    (new : n ∉ nodes entries → P { node := n, rules := [rule], initialStyle := style })
    (added : ∀ a, P a → P (a.addRule rule)) : ∀ a ∈ touch n rule style entries, P a := by
  induction entries with
  | nil =>
    intro a member
    rw [touch, List.mem_singleton] at member
    exact member ▸ new (by simp [nodes])
  | cons b rest ih =>
    rw [List.forall_mem_cons] at old
    rw [touch]
    split
    · exact List.forall_mem_cons.mpr ⟨added b old.1, old.2⟩
    · rename_i other
      refine List.forall_mem_cons.mpr ⟨old.1, ih old.2 fun absent => new ?_⟩
      simpa [Ne.symm other] using absent

theorem protectionIds_touch (n : NodeId) (rule : Rule) (style : String) (entries : List Affected) :
    protectionIds (touch n rule style entries) = protectionIds entries := by
  induction entries with
  | nil => rfl
  | cons a rest ih =>
    rw [touch]
    split
    · simp only [protectionIds, List.filterMap_cons, protection_addRule]
    · simp only [protectionIds, List.filterMap_cons] at ih ⊢
      rw [ih]

section update

variable {n : NodeId} {f : Affected → Affected} {entries : List Affected}

theorem nodes_update (same : ∀ a, (f a).node = a.node) : nodes (update n f entries) = nodes entries := by
  induction entries with
  | nil => rfl
  | cons a rest ih =>
    rw [update]
    split
    · simp [nodes, same]
    · simp only [nodes, List.map_cons] at ih ⊢
      rw [ih]

theorem find?_update (same : ∀ a, (f a).node = a.node) (m : NodeId) :
    find? m (update n f entries) = if m = n then (find? n entries).map f else find? m entries := by
  induction entries with
  | nil => simp [update, find?]
  | cons a rest ih =>
    by_cases here : a.node = n
    · rw [update, if_pos here, find?_cons, find?_cons n, if_pos here, same, here]
      by_cases equal : m = n
      · rw [if_pos equal.symm, if_pos equal]
        rfl
      · rw [if_neg (Ne.symm equal), if_neg equal, find?_cons, here, if_neg (Ne.symm equal)]
    · rw [update, if_neg here, find?_cons, find?_cons n, if_neg here, ih, find?_cons]
      by_cases equal : m = n
      · rw [if_pos equal, if_pos equal, equal, if_neg here]
      · rw [if_neg equal, if_neg equal]

/-- Only the entry that is found changes. -/
theorem forall_update {P : Affected → Prop} (old : ∀ a ∈ entries, P a)
    (changed : ∀ a, find? n entries = some a → P (f a)) : ∀ a ∈ update n f entries, P a := by
  induction entries with
  | nil => simp [update]
  | cons b rest ih =>
    rw [List.forall_mem_cons] at old
    rw [update]
    split
    · rename_i here
      exact List.forall_mem_cons.mpr ⟨changed b (by rw [find?_cons, if_pos here]), old.2⟩
    · rename_i other
      refine List.forall_mem_cons.mpr ⟨old.1, ih old.2 ?_⟩
      intro a found
      exact changed a (by rw [find?_cons, if_neg other, found])

theorem protectionIds_update
    (same : ∀ a, find? n entries = some a → (f a).protection.map (·.id) = a.protection.map (·.id)) :
    protectionIds (update n f entries) = protectionIds entries := by
  induction entries with
  | nil => rfl
  | cons a rest ih =>
    rw [update]
    split
    · rename_i here
      simp only [protectionIds, List.filterMap_cons, same a (by rw [find?_cons, if_pos here])]
    · rename_i other
      simp only [protectionIds, List.filterMap_cons] at ih ⊢
      rw [ih]
      intro b found
      exact same b (by rw [find?_cons, if_neg other, found])

end update

end CosmeticRules.Affected
