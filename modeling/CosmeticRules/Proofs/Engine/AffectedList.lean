import CosmeticRules.Proofs.Engine.Entries
import CosmeticRules.Proofs.Engine.Visit

/-!
What holds of the list of affected elements whatever happens to the engine, and what else holds of it after
a pass that succeeds.
-/

namespace CosmeticRules

/-- A protection has put the styles back at most as often as it may, and is at work until then. -/
structure Protection.Sound (p : Protection) : Prop where
  count_le : p.count ≤ Protection.limit
  connected : p.connected = true ↔ p.count < Protection.limit

theorem Protection.Sound.new (id : Nat) (styles : List Style) : Protection.Sound { id, styles } where
  count_le := Nat.zero_le _
  connected := by simp [Protection.limit]

/-- Putting the styles back once more keeps a protection at work sound. -/
theorem Protection.Sound.next {p : Protection} (sound : p.Sound) (works : p.connected = true) :
    p.next.Sound where
  count_le := sound.connected.mp works
  connected := by simp [Protection.next]

namespace Affected

/-- An entry of an engine with these rules. -/
structure Sound (own : List Rule) (a : Affected) : Prop where
  rules_ne_nil : a.rules ≠ []
  rules_nodup : a.rules.Nodup
  rules_own : ∀ rule ∈ a.rules, rule ∈ own
  unprotected : a.removed = true → a.protection = none
  protection : ∀ p, a.protection = some p → p.Sound

/-- The entries of an engine with these rules whose next protection gets the given number. -/
structure AllSound (own : List Rule) (next : Nat) (entries : List Affected) : Prop where
  nodes_nodup : (nodes entries).Nodup
  entry : ∀ a ∈ entries, a.Sound own
  ids_nodup : (protectionIds entries).Nodup
  ids_lt : ∀ id ∈ protectionIds entries, id < next

variable {own : List Rule} {next : Nat} {entries : List Affected}

theorem Sound.addRule {a : Affected} (sound : a.Sound own) {rule : Rule} (member : rule ∈ own) :
    (a.addRule rule).Sound own where
  rules_ne_nil := by
    have here : rule ∈ (a.addRule rule).rules := mem_rules_addRule.mpr (Or.inr rfl)
    exact List.ne_nil_of_mem here
  rules_nodup := nodup_rules_addRule sound.rules_nodup
  rules_own := by
    intro other known
    rcases mem_rules_addRule.mp known with old | rfl
    · exact sound.rules_own other old
    · exact member
  unprotected := by simpa only [removed_addRule, protection_addRule] using sound.unprotected
  protection := by simpa only [protection_addRule] using sound.protection

theorem Sound.of_single (n : NodeId) {rule : Rule} (member : rule ∈ own) (style : String) :
    Sound own { node := n, rules := [rule], initialStyle := style } where
  rules_ne_nil := by simp
  rules_nodup := by simp
  rules_own := by simpa using member
  unprotected := fun _ => rfl
  protection := by simp

theorem Sound.markRemoved {a : Affected} (sound : a.Sound own) (free : a.protection = none) :
    a.markRemoved.Sound own where
  rules_ne_nil := sound.rules_ne_nil
  rules_nodup := sound.rules_nodup
  rules_own := sound.rules_own
  unprotected := fun _ => free
  protection := sound.protection

theorem Sound.protectedBy {a : Affected} (sound : a.Sound own) (stays : a.removed = false) (id : Nat) :
    (a.protectedBy id).Sound own where
  rules_ne_nil := sound.rules_ne_nil
  rules_nodup := sound.rules_nodup
  rules_own := sound.rules_own
  unprotected := by
    intro removed
    exact absurd (stays.symm.trans removed) Bool.false_ne_true
  protection := by
    intro p same
    obtain rfl := Option.some.inj same
    exact Protection.Sound.new _ _

theorem AllSound.nil (own : List Rule) (next : Nat) : AllSound own next [] where
  nodes_nodup := List.nodup_nil
  entry := by simp
  ids_nodup := List.nodup_nil
  ids_lt := by simp [protectionIds]

theorem AllSound.tail {a : Affected} (all : AllSound own next (a :: entries)) :
    AllSound own next entries where
  nodes_nodup := (List.nodup_cons.mp all.nodes_nodup).2
  entry := fun b member => all.entry b (List.mem_cons_of_mem a member)
  ids_nodup := (nodup_protectionIds_cons.mp all.ids_nodup).2
  ids_lt := fun id member => all.ids_lt id (mem_protectionIds_cons.mpr (Or.inr member))

theorem AllSound.cons (all : AllSound own next entries) {a : Affected} (sound : a.Sound own)
    (fresh : a.node ∉ nodes entries)
    (numbered : ∀ id, a.protection.map (·.id) = some id → id ∉ protectionIds entries ∧ id < next) :
    AllSound own next (a :: entries) where
  nodes_nodup := List.nodup_cons.mpr ⟨fresh, all.nodes_nodup⟩
  entry := List.forall_mem_cons.mpr ⟨sound, all.entry⟩
  ids_nodup := nodup_protectionIds_cons.mpr ⟨fun id same => (numbered id same).1, all.ids_nodup⟩
  ids_lt := by
    intro id member
    rcases mem_protectionIds_cons.mp member with same | later
    · exact (numbered id same).2
    · exact all.ids_lt id later

theorem AllSound.mono (all : AllSound own next entries) {later : Nat} (le : next ≤ later) :
    AllSound own later entries :=
  { all with ids_lt := fun id member => Nat.lt_of_lt_of_le (all.ids_lt id member) le }

theorem AllSound.touch (all : AllSound own next entries) (n : NodeId) {rule : Rule}
    (member : rule ∈ own) (style : String) : AllSound own next (touch n rule style entries) where
  nodes_nodup := nodup_nodes_touch all.nodes_nodup
  entry := forall_touch all.entry (fun _ => .of_single n member style) fun _ sound => sound.addRule member
  ids_nodup := by simpa only [protectionIds_touch] using all.ids_nodup
  ids_lt := by simpa only [protectionIds_touch] using all.ids_lt

theorem AllSound.update (all : AllSound own next entries) {n : NodeId} {f : Affected → Affected}
    (node : ∀ a, (f a).node = a.node)
    (id : ∀ a, find? n entries = some a → (f a).protection.map (·.id) = a.protection.map (·.id))
    (sound : ∀ a, find? n entries = some a → a.Sound own → (f a).Sound own) :
    AllSound own next (update n f entries) where
  nodes_nodup := by simpa only [nodes_update node] using all.nodes_nodup
  entry := forall_update all.entry fun a found => sound a found (all.entry a (mem_of_find? found))
  ids_nodup := by simpa only [protectionIds_update id] using all.ids_nodup
  ids_lt := by simpa only [protectionIds_update id] using all.ids_lt

end Affected

namespace Engine

variable {σ : Type}

/-- The entries of an engine are sound for its own rules and the number that it gives next. -/
def AffectedSound (engine : Engine σ) : Prop :=
  Affected.AllSound (engine.rules.map (·.rule)) engine.nextProtection engine.affected

/-- Applying rules to an element changes its entry at most by marking it as removed. -/
theorem affected_applyRules (engine : Engine σ) (n target : NodeId) (rules : List Rule) :
    (engine.applyRules n target rules).1.affected = engine.affected ∨
      (engine.applyRules n target rules).1.affected =
        Affected.update n Affected.markRemoved engine.affected := by
  induction rules generalizing engine with
  | nil => exact Or.inl rfl
  | cons rule rest ih =>
    rw [applyRules]
    split
    · split
      · refine Or.inr ?_
        unfold removeAffected
        simp only []
        split
        · rfl
        · split <;> rfl
      · exact ih _
    · split
      · exact Or.inl rfl
      · exact ih engine

/-- A visit records the rule, and may mark an element without protection as removed. -/
theorem affected_visit (engine : Engine σ) (rule : Rule) (n : NodeId) :
    (engine.visit rule n).1.affected =
        Affected.touch n rule (engine.page.styleText n) engine.affected ∨
      (∀ a, Affected.find? n (Affected.touch n rule (engine.page.styleText n) engine.affected) = some a →
          a.protection = none) ∧
        (engine.visit rule n).1.affected = Affected.update n Affected.markRemoved
          (Affected.touch n rule (engine.page.styleText n) engine.affected) := by
  unfold visit styleAffected
  simp only []
  split
  · exact Or.inl rfl
  · rename_i a found
    split
    · exact Or.inl rfl
    · rename_i free
      obtain ⟨hookState, called⟩ := callHook_fields
        { engine with affected := Affected.touch n rule (engine.page.styleText n) engine.affected }
        ⟨n, a.rules⟩
      split <;> rename_i same <;> rw [same] at called <;> obtain rfl := called
      · exact Or.inl rfl
      · rcases affected_applyRules _ n _ _ with unchanged | marked
        · exact Or.inl unchanged
        · refine Or.inr ⟨?_, marked⟩
          intro b other
          rw [found] at other
          obtain rfl := Option.some.inj other
          simpa using free

theorem allSound_visit {own : List Rule} {next : Nat} {engine : Engine σ}
    (all : Affected.AllSound own next engine.affected) {rule : Rule} (member : rule ∈ own)
    (n : NodeId) : Affected.AllSound own next (engine.visit rule n).1.affected := by
  have touched := all.touch n member (engine.page.styleText n)
  rcases affected_visit engine rule n with recorded | ⟨free, marked⟩
  · rw [recorded]
    exact touched
  · rw [marked]
    exact touched.update (fun _ => rfl) (fun _ _ => rfl) fun a found sound =>
      sound.markRemoved (free a found)

theorem Passing.allSound {own : List Rule} {next : Nat} {engine later : Engine σ}
    {visits : List (Visit σ)} (passing : Passing engine visits later)
    (member : ∀ visit ∈ visits, visit.rule ∈ own)
    (all : Affected.AllSound own next engine.affected) :
    Affected.AllSound own next later.affected := by
  induction passing with
  | done => exact all
  | noted entries _ ih => exact ih member all
  | visited rule n _ ih =>
    obtain ⟨here, rest⟩ := List.forall_mem_cons.mp member
    exact ih rest (allSound_visit all here n)

/-- What settling some entries makes of an engine that has no entries yet. -/
structure Settled (own : List Rule) (selected : List NodeId) (entries : List Affected)
    (before after : Engine σ) : Prop where
  rules : after.rules = before.rules
  hook : after.hook = before.hook
  nodes : Affected.nodes after.affected = (Affected.nodes entries).filter (selected.contains ·)
  next_le : before.nextProtection ≤ after.nextProtection
  ids : ∀ id ∈ Affected.protectionIds after.affected,
    id ∈ Affected.protectionIds entries ∨ before.nextProtection ≤ id
  guarded : ∀ a ∈ after.affected, a.removed = false → a.protection.isSome
  allSound : Affected.AllSound own before.nextProtection entries →
    Affected.AllSound own after.nextProtection after.affected

theorem Settled.dropped {own : List Rule} {selected : List NodeId} {a : Affected}
    {rest : List Affected} {before after : Engine σ} (settled : Settled own selected rest before after)
    (left : a.node ∉ selected) :
    Settled own selected (a :: rest) before { after with page := revert after.page a } where
  rules := settled.rules
  hook := settled.hook
  nodes := by
    rw [Affected.nodes_cons, List.filter_cons_of_neg (by simpa using left)]
    exact settled.nodes
  next_le := settled.next_le
  ids := fun id member => (settled.ids id member).imp_left fun known =>
    Affected.mem_protectionIds_cons.mpr (Or.inr known)
  guarded := settled.guarded
  allSound := fun all => settled.allSound all.tail

theorem Settled.fresh {own : List Rule} {selected : List NodeId} {entries : List Affected}
    {before after : Engine σ} (settled : Settled own selected entries before after) {n : NodeId}
    (unseen : n ∉ Affected.nodes entries) : n ∉ Affected.nodes after.affected := by
  rw [settled.nodes]
  intro again
  exact unseen (List.mem_filter.mp again).1

theorem Settled.kept {own : List Rule} {selected : List NodeId} {a : Affected}
    {rest : List Affected} {before after : Engine σ} (settled : Settled own selected rest before after)
    (stays : a.node ∈ selected) (guarded : a.removed = false → a.protection.isSome) :
    Settled own selected (a :: rest) before { after with affected := a :: after.affected } where
  rules := settled.rules
  hook := settled.hook
  nodes := by
    rw [Affected.nodes_cons, Affected.nodes_cons, settled.nodes,
      List.filter_cons_of_pos (by simpa using stays)]
  next_le := settled.next_le
  ids := by
    intro id member
    rcases Affected.mem_protectionIds_cons.mp member with own | later
    · exact Or.inl (Affected.mem_protectionIds_cons.mpr (Or.inl own))
    · exact (settled.ids id later).imp_left fun known =>
        Affected.mem_protectionIds_cons.mpr (Or.inr known)
  guarded := List.forall_mem_cons.mpr ⟨guarded, settled.guarded⟩
  allSound := by
    intro all
    have unseen := (List.nodup_cons.mp all.nodes_nodup).1
    refine (settled.allSound all.tail).cons (all.entry a List.mem_cons_self)
      (settled.fresh unseen) ?_
    intro id same
    have below := all.ids_lt id (Affected.mem_protectionIds_cons.mpr (Or.inl same))
    refine ⟨?_, Nat.lt_of_lt_of_le below settled.next_le⟩
    intro again
    rcases settled.ids id again with old | new
    · exact (Affected.nodup_protectionIds_cons.mp all.ids_nodup).1 id same old
    · exact absurd below (Nat.not_lt.mpr new)

theorem Settled.protected {own : List Rule} {selected : List NodeId} {a : Affected}
    {rest : List Affected} {before after : Engine σ} (settled : Settled own selected rest before after)
    (stays : a.node ∈ selected) (present : a.removed = false) :
    Settled own selected (a :: rest) before
      { after with
        affected := a.protectedBy after.nextProtection :: after.affected
        nextProtection := after.nextProtection + 1 } where
  rules := settled.rules
  hook := settled.hook
  nodes := by
    rw [Affected.nodes_cons, Affected.nodes_cons, settled.nodes,
      List.filter_cons_of_pos (by simpa using stays)]
    rfl
  next_le := Nat.le_succ_of_le settled.next_le
  ids := by
    intro id member
    rcases Affected.mem_protectionIds_cons.mp member with new | later
    · obtain rfl := Option.some.inj new
      exact Or.inr settled.next_le
    · exact (settled.ids id later).imp_left fun known =>
        Affected.mem_protectionIds_cons.mpr (Or.inr known)
  guarded := List.forall_mem_cons.mpr ⟨fun _ => rfl, settled.guarded⟩
  allSound := by
    intro all
    have later := settled.allSound all.tail
    have sound := (all.entry a List.mem_cons_self).protectedBy present after.nextProtection
    have unseen := (List.nodup_cons.mp all.nodes_nodup).1
    refine (later.mono (Nat.le_succ _)).cons sound (settled.fresh unseen) ?_
    intro id same
    obtain rfl := Option.some.inj same
    refine ⟨?_, Nat.lt_succ_self _⟩
    intro again
    exact absurd (later.ids_lt _ again) (Nat.lt_irrefl _)

/-- What `settleAll` does: the induction follows the entries, from the last to the first. -/
theorem settled_settleAll (own : List Rule) (engine : Engine σ) (selected : List NodeId) :
    Settled own selected engine.affected engine (engine.settleAll selected) := by
  unfold settleAll
  generalize engine.affected = entries
  induction entries with
  | nil =>
    refine ⟨rfl, rfl, rfl, Nat.le_refl _, ?_, ?_, fun _ => .nil own _⟩
    · intro id member
      exact Or.inl member
    · simp
  | cons a rest ih =>
    rw [List.foldr_cons, settle]
    split
    · rename_i left
      exact ih.dropped (by simpa using left)
    · rename_i stays
      have stays : a.node ∈ selected := by simpa using stays
      split
      · rename_i free
        rw [Bool.and_eq_true, Bool.not_eq_true'] at free
        exact ih.protected stays free.1
      · rename_i guarded
        refine ih.kept stays ?_
        intro present
        simpa [present, Option.isSome_iff_ne_none] using guarded

/-- The end of a pass changes neither the entries nor the tree once the entries are settled. -/
theorem finish_fields (engine : Engine σ) :
    engine.dropOwnMutations.observe.reportTimings.affected = engine.affected ∧
      engine.dropOwnMutations.observe.reportTimings.nextProtection = engine.nextProtection ∧
      engine.dropOwnMutations.observe.reportTimings.rules = engine.rules ∧
      engine.dropOwnMutations.observe.reportTimings.hook = engine.hook ∧
      engine.dropOwnMutations.observe.reportTimings.page.tree = engine.page.tree := by
  unfold reportTimings
  split <;> exact ⟨rfl, rfl, rfl, rfl, rfl⟩

/-- What the end of a pass leaves alone, apart from settling. -/
structure Ended (engine later : Engine σ) : Prop where
  affected : later.affected = engine.affected
  nextProtection : later.nextProtection = engine.nextProtection
  hook : later.hook = engine.hook
  throttle : later.throttle = engine.throttle
  tree : later.page.tree = engine.page.tree

theorem ended_rules (engine : Engine σ) (rules : List RuleState) : Ended engine { engine with rules } :=
  ⟨rfl, rfl, rfl, rfl, rfl⟩

theorem ended_finish (engine : Engine σ) :
    Ended engine engine.dropOwnMutations.observe.reportTimings := by
  unfold reportTimings
  split <;> exact ⟨rfl, rfl, rfl, rfl, rfl⟩

/-- What holds after the visits of a pass holds after the pass, whether it succeeds or fails, if settling
keeps it and it is about nothing else that the end of a pass changes. -/
theorem pass_induction {engine : Engine σ} {P : Engine σ → Prop}
    (visited : ∀ {later}, Passing engine.stopObserving engine.visits later → P later)
    (settled : ∀ {later}, P later → P (later.settleAll (engine.visits.map (·.node))))
    (ended : ∀ {before later}, Ended before later → P before → P later) : P engine.pass.1 := by
  cases ran : engine.pass with
  | mk done result =>
    cases result with
    | error e =>
      obtain ⟨later, passing, rfl⟩ := pass_eq_of_error ran
      exact ended (ended_rules later _) (visited passing)
    | ok =>
      obtain ⟨later, passing, _, rfl⟩ := pass_eq_of_ok ran
      exact ended (ended_finish _) (settled (ended (ended_rules later _) (visited passing)))

theorem AffectedSound.pass {engine : Engine σ} (sound : engine.AffectedSound) :
    engine.pass.1.AffectedSound := by
  have passing := passing_visits engine
  have applied := passing.allSound (fun _ member => visits_rule member) sound
  have number := passing.steady.nextProtection
  have same := map_rule_applyEach engine.stopObserving engine.rules
  unfold Engine.pass
  cases ran : engine.stopObserving.applyEach engine.rules with
  | mk later pair =>
    obtain ⟨states, result⟩ := pair
    rw [ran] at applied number same
    have sound : ({ later with rules := states } : Engine σ).AffectedSound := by
      unfold AffectedSound
      rw [same]
      exact number ▸ applied
    cases result with
    | error e => exact sound
    | ok selected =>
      have settled := settled_settleAll (states.map (·.rule)) { later with rules := states } selected
      obtain ⟨affected, next, rules, _⟩ :=
        finish_fields (({ later with rules := states } : Engine σ).settleAll selected)
      unfold AffectedSound
      rw [affected, next, rules, settled.rules]
      exact settled.allSound sound

theorem AffectedSound.protectNode {engine : Engine σ} (sound : engine.AffectedSound) (n : NodeId) :
    (engine.protectNode n).AffectedSound := by
  unfold Engine.protectNode
  split
  · exact sound
  · rename_i p found
    split
    · exact sound
    · rename_i works
      obtain ⟨a, inList, guarded⟩ := Option.bind_eq_some_iff.mp found
      refine sound.update (fun _ => rfl) ?_ ?_
      · intro b other
        obtain rfl := Option.some.inj (inList.symm.trans other)
        simp [guarded, Protection.next]
      · intro b other entry
        obtain rfl := Option.some.inj (inList.symm.trans other)
        refine ⟨entry.rules_ne_nil, entry.rules_nodup, entry.rules_own, ?_, ?_⟩
        · intro removed
          exact absurd (guarded.symm.trans (entry.unprotected removed)) (by simp)
        · intro q same
          obtain rfl := Option.some.inj same
          exact (entry.protection p guarded).next (by simpa using works)

/-- Every event keeps the entries sound, passes that fail included. -/
theorem kept_affectedSound : Kept (AffectedSound : Engine σ → Prop) where
  page := fun sound _ => sound
  source := fun sound _ => sound
  throttle := fun sound _ => sound
  awaitsReady := fun sound _ => sound
  log := fun sound _ => sound
  protectNode := fun sound n => sound.protectNode n
  pass := fun sound => sound.pass
  dispose := fun _ => .nil _ _

theorem affectedSound_ofPage {page : Page} {configuration : Configuration σ} {hookState : σ}
    {engine : Engine σ} (made : (ofPage page configuration hookState).result = .ok engine) :
    engine.AffectedSound := by
  obtain ⟨rules, _, rfl⟩ := engine_of_made made
  exact .nil _ _

theorem mem_nodes_visit {engine : Engine σ} {rule : Rule} {n m : NodeId} :
    m ∈ Affected.nodes (engine.visit rule n).1.affected ↔
      m ∈ Affected.nodes engine.affected ∨ m = n := by
  have touched : m ∈ Affected.nodes
      (Affected.touch n rule (engine.page.styleText n) engine.affected) ↔
      m ∈ Affected.nodes engine.affected ∨ m = n := Affected.mem_nodes_touch
  rcases affected_visit engine rule n with recorded | ⟨_, marked⟩
  · rw [recorded]
    exact touched
  · rw [marked, Affected.nodes_update (f := Affected.markRemoved) fun _ => rfl]
    exact touched

theorem Passing.mem_nodes {engine later : Engine σ} {visits : List (Visit σ)}
    (passing : Passing engine visits later) {m : NodeId} :
    m ∈ Affected.nodes later.affected ↔
      m ∈ Affected.nodes engine.affected ∨ ∃ visit ∈ visits, visit.node = m := by
  induction passing with
  | done => simp
  | noted entries _ ih => exact ih
  | visited rule n _ ih =>
    rw [ih, mem_nodes_visit, or_assoc, List.exists_mem_cons_iff, eq_comm]

/-- After a pass that succeeds exactly the selected elements are affected, and each of them is protected
unless it has been removed. -/
theorem affected_of_passed {engine done : Engine σ} (passed : engine.pass = (done, .ok ())) :
    (∀ n, n ∈ Affected.nodes done.affected ↔ ∃ rule, engine.Selects rule n) ∧
      ∀ a ∈ done.affected, a.removed = false → a.protection.isSome := by
  obtain ⟨later, passing, _, rfl⟩ := pass_eq_of_ok passed
  have settled := settled_settleAll []
    ({ later with rules := (engine.stopObserving.applyEach engine.rules).2.1 } : Engine σ)
    (engine.visits.map (·.node))
  rw [(finish_fields _).1]
  refine ⟨?_, settled.guarded⟩
  intro n
  rw [settled.nodes, List.mem_filter, passing.mem_nodes]
  simp only [List.contains_eq_mem, List.mem_map, decide_eq_true_eq]
  constructor
  · rintro ⟨_, visit, member, same⟩
    exact ⟨visit.rule, visit, member, rfl, same⟩
  · rintro ⟨rule, visit, member, _, same⟩
    exact ⟨Or.inr ⟨visit, member, same⟩, visit, member, same⟩

/-- In every state of every run the entries of affected elements are sound; and after every pass of a run
that succeeds they are those of the selected elements, each with a protection unless it is marked as
removed. -/
theorem affected_list_sound (page : Page) (configuration : Configuration σ) (hookState : σ) :
    (∀ engine, Reachable page configuration hookState engine → engine.AffectedSound) ∧
      ∀ engine done, PassBegins page configuration hookState engine →
        engine.pass = (done, .ok ()) →
        done.AffectedSound ∧
          (∀ n, n ∈ Affected.nodes done.affected ↔ ∃ rule, engine.Selects rule n) ∧
          ∀ a ∈ done.affected, a.removed = false → a.protection.isSome := by
  refine ⟨fun engine reach => kept_affectedSound.reachable affectedSound_ofPage reach, ?_⟩
  intro engine done begins passed
  have sound := (kept_affectedSound.passBegins affectedSound_ofPage begins).pass
  rw [passed] at sound
  exact ⟨sound, affected_of_passed passed⟩

/-- An engine for a page with an element to style and another to remove. -/
def stylesAndRemoves : Engine Unit :=
  ranOn "<div class='a'></div><p class='b'></p>"
    { rules := some [".a { color: red }", ".b { remove: true }"] } []

theorem affected_list_sound_stylesAndRemoves :
    stylesAndRemoves.pass.2 = .ok () ∧ stylesAndRemoves.AffectedSound ∧
      stylesAndRemoves.pass.1.AffectedSound ∧ (∃ rule, stylesAndRemoves.Selects rule ⟨1⟩) ∧
      stylesAndRemoves.pass.1.affected.map (fun a => (a.node, a.removed, a.protection.isSome)) =
        [(⟨1⟩, false, true), (⟨2⟩, true, false)] := by
  have reach : Reachable _ _ () stylesAndRemoves := (reachable_started (by decide +kernel)).afterAll []
  have passes : stylesAndRemoves.pass.2 = .ok () := by decide +kernel
  have always := affected_list_sound (Page.ofMarkup "<div class='a'></div><p class='b'></p>")
    { rules := some [".a { color: red }", ".b { remove: true }"] } ()
  obtain ⟨sound, selected, _⟩ := always.2 _ _ (.applied reach) (Prod.ext rfl passes)
  have first : (⟨1⟩ : NodeId) ∈ Affected.nodes stylesAndRemoves.pass.1.affected := by decide +kernel
  exact ⟨passes, always.1 _ reach, sound, (selected _).mp first, by decide +kernel⟩

end Engine

end CosmeticRules
