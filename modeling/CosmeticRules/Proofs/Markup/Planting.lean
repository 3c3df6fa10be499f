import CosmeticRules.Proofs.Markup.Growth
import CosmeticRules.Proofs.Markup.ReadPrinted
import CosmeticRules.Proofs.Page.Script

/-!
The markup of a forest, inserted below a node, makes the trees of the forest the last children of that node.
Nothing else is added and nothing else changes.
-/

namespace CosmeticRules

/-- The node with more children after its own. -/
def Node.addChildren (node : Node) (more : List NodeId) : Node := { node with children := node.children ++ more }

namespace PageTree

variable {t between later : PageTree} {place m : NodeId} {content : NodeContent} {count more : Nat}
  {roots others : List NodeId}

theorem size_create : (t.create (some place) content).1.size = t.size + 1 :=
  (size_modifyNode _ _).trans (Array.size_push _)

theorem node?_create (inside : t.contains place = true) :
    (t.create (some place) content).1.node? m =
      if m = t.fresh then some ⟨some place, [], content⟩
      else if m = place then (t.node? m).map (·.addChildren [t.fresh])
      else t.node? m := by
  have old : place ≠ t.fresh := ne_fresh inside
  have unfolded : (t.create (some place) content).1.node? m =
      if m = place then ((⟨t.nodes.push ⟨some place, [], content⟩⟩ : PageTree).node? place).map
        (·.addChildren [t.fresh])
      else (⟨t.nodes.push ⟨some place, [], content⟩⟩ : PageTree).node? m := node?_modifyNode _ _ _
  rw [unfolded, node?_push, node?_push, if_neg old]
  by_cases same : m = place
  · rw [if_pos same, same, if_neg old, if_pos rfl]
  · rw [if_neg same, if_neg same]

/-- So many nodes have been added to a tree. The listed ones are new children of one of its nodes, after those that
it had, and the other nodes that were there are as before. -/
structure AddedBelow (t later : PageTree) (place : NodeId) (count : Nat) (roots : List NodeId) : Prop where
  size : later.size = t.size + count
  extended : later.node? place = (t.node? place).map (·.addChildren roots)
  unchanged : ∀ m, t.contains m = true → m ≠ place → later.node? m = t.node? m

namespace AddedBelow

theorem refl (t : PageTree) (place : NodeId) : AddedBelow t t place 0 [] where
  size := rfl
  extended := by
    cases t.node? place with
    | none => rfl
    | some node => simp [Node.addChildren]
  unchanged := fun _ _ _ => rfl

theorem contains (added : AddedBelow t later place count roots) (inside : t.contains m = true) :
    later.contains m = true := by
  simp only [PageTree.contains, decide_eq_true_eq] at inside ⊢
  rw [added.size]
  omega

theorem trans (first : AddedBelow t between place count roots)
    (second : AddedBelow between later place more others) :
    AddedBelow t later place (count + more) (roots ++ others) where
  size := by rw [second.size, first.size, Nat.add_assoc]
  extended := by
    rw [second.extended, first.extended, Option.map_map]
    congr 1
    funext node
    simp [Node.addChildren]
  unchanged := by
    intro m inside other
    rw [second.unchanged m (first.contains inside) other, first.unchanged m inside other]

/-- A new node with what is put below it. -/
theorem create (inside : t.contains place = true)
    (below : AddedBelow (t.create (some place) content).1 later t.fresh count roots) :
    AddedBelow t later place (1 + count) [t.fresh] where
  size := by rw [below.size, size_create, Nat.add_assoc]
  extended := by
    have old : place ≠ t.fresh := ne_fresh inside
    rw [below.unchanged place ((contains_create _ _).mpr (.inl inside)) old, node?_create inside, if_neg old,
      if_pos rfl]
  unchanged := by
    intro m known other
    have old : m ≠ t.fresh := ne_fresh known
    rw [below.unchanged m ((contains_create _ _).mpr (.inl known)) old, node?_create inside, if_neg old, if_neg other]

theorem children (added : AddedBelow t later place count roots) (inside : t.contains place = true) :
    later.children place = t.children place ++ roots := by
  obtain ⟨node, is⟩ := Option.isSome_iff_exists.mp (contains_iff.mp inside)
  rw [PageTree.children, added.extended, PageTree.children, is]
  rfl

end AddedBelow

end PageTree

namespace Markup

open PageTree

namespace Forest

def count : Forest → Nat
  | nil => 0
  | element _ inner rest => 1 + inner.count + rest.count
  | comment _ rest => 1 + rest.count
  | text _ rest => 1 + rest.count

/-- The roots of a forest whose nodes are numbered in document order from a number on. -/
def rootsFrom (start : Nat) : Forest → List NodeId
  | nil => []
  | element _ inner rest => ⟨start⟩ :: rest.rootsFrom (start + (1 + inner.count))
  | comment _ rest => ⟨start⟩ :: rest.rootsFrom (start + 1)
  | text _ rest => ⟨start⟩ :: rest.rootsFrom (start + 1)

/-- A forest stands in a tree below a node: its nodes, numbered in document order from a number on, have the parents
and the contents that they have in the forest, and they have just the children that they have there. -/
def StandsFrom (t : PageTree) (parent : NodeId) (start : Nat) : Forest → Prop
  | nil => True
  | element e inner rest =>
    t.node? ⟨start⟩ = some ⟨some parent, inner.rootsFrom (start + 1), .element e⟩ ∧
      inner.StandsFrom t ⟨start⟩ (start + 1) ∧ rest.StandsFrom t parent (start + (1 + inner.count))
  | comment s rest =>
    t.node? ⟨start⟩ = some ⟨some parent, [], .comment s⟩ ∧ rest.StandsFrom t parent (start + 1)
  | text s rest =>
    t.node? ⟨start⟩ = some ⟨some parent, [], .text s⟩ ∧ rest.StandsFrom t parent (start + 1)

/-- Adds the nodes of a forest in document order. -/
def plant (t : PageTree) (place : NodeId) : Forest → PageTree
  | nil => t
  | element e inner rest =>
    rest.plant (inner.plant (t.create (some place) (.element e)).1 t.fresh) place
  | comment s rest => rest.plant (t.create (some place) (.comment s)).1 place
  | text s rest => rest.plant (t.create (some place) (.text s)).1 place

/-- A forest stands as before where its nodes are as before. -/
theorem StandsFrom.congr {forest : Forest} {t later : PageTree} {parent : NodeId} {start : Nat}
    (stands : forest.StandsFrom t parent start)
    (same : ∀ index, start ≤ index → index < start + forest.count → later.node? ⟨index⟩ = t.node? ⟨index⟩) :
    forest.StandsFrom later parent start := by
  induction forest generalizing parent start with
  | nil => trivial
  | element e inner rest inside behind =>
    obtain ⟨first, below, after⟩ := stands
    rw [count] at same
    refine ⟨(same start (by omega) (by omega)).trans first, inside below fun index lower upper => ?_,
      behind after fun index lower upper => ?_⟩ <;> exact same index (by omega) (by omega)
  | comment s rest behind | text s rest behind =>
    obtain ⟨first, after⟩ := stands
    rw [count] at same
    refine ⟨(same start (by omega) (by omega)).trans first, behind after fun index lower upper => ?_⟩
    exact same index (by omega) (by omega)

/-- A forest has been planted below a place: it stands there, and nothing else has been added. -/
structure Planted (t : PageTree) (place : NodeId) (forest : Forest) (later : PageTree) : Prop where
  added : AddedBelow t later place forest.count (forest.rootsFrom t.size)
  stands : forest.StandsFrom later place t.size

/-- A new node with what is below it, and the trees behind it. -/
theorem Planted.behind {t between later : PageTree} {place : NodeId} {content : NodeContent} {count : Nat}
    {roots : List NodeId} {rest : Forest} (inside : t.contains place = true)
    (below : AddedBelow (t.create (some place) content).1 between t.fresh count roots)
    (planted : rest.Planted between place later) :
    AddedBelow t later place (1 + count + rest.count) (t.fresh :: rest.rootsFrom (t.size + (1 + count))) ∧
      later.node? t.fresh = some ⟨some place, roots, content⟩ ∧
      rest.StandsFrom later place (t.size + (1 + count)) := by
  have first := AddedBelow.create inside below
  have fresh : (t.create (some place) content).1.contains t.fresh = true := (contains_create _ _).mpr (.inr rfl)
  rw [← first.size]
  refine ⟨first.trans planted.added, ?_, planted.stands⟩
  rw [planted.added.unchanged t.fresh (below.contains fresh) (ne_fresh inside).symm, below.extended,
    node?_create inside, if_pos rfl]
  rfl

theorem planted_plant {forest : Forest} {t : PageTree} {place : NodeId} (inside : t.contains place = true) :
    forest.Planted t place (forest.plant t place) := by
  induction forest generalizing t place with
  | nil => exact ⟨.refl t place, trivial⟩
  | element e inner rest below behind =>
    have inner := below (t := (t.create (some place) (.element e)).1) ((contains_create _ _).mpr (.inr rfl))
    have first := AddedBelow.create inside inner.added
    have outer := behind (first.contains inside)
    obtain ⟨added, is, after⟩ := Planted.behind inside inner.added outer
    rw [size_create] at is
    refine ⟨added, is, ?_, after⟩
    have stands := inner.stands
    rw [size_create] at stands
    -- The trees behind the element are put below the place, so those inside it stay.
    refine stands.congr fun index lower upper => outer.added.unchanged ⟨index⟩ ?_ ?_
    · simp only [PageTree.contains, decide_eq_true_eq, first.size]
      omega
    · rintro rfl
      simp only [PageTree.contains, decide_eq_true_eq] at inside
      omega
  | comment s rest behind | text s rest behind =>
    obtain ⟨added, is, after⟩ := Planted.behind inside (.refl _ t.fresh)
      (behind ((contains_create _ _).mpr (.inl inside)))
    exact ⟨added, is, after⟩

end Forest

/-! What the pieces of a forest do. -/

theorem closeUpTo_of_absent {closed : String} {all : OpenElements} (boundaries : List String)
    (absent : ∀ p ∈ all, p.2 ≠ closed) : closeUpTo closed boundaries all = all := by
  unfold closeUpTo
  split
  · rename_i n tag found
    have other : (tag == closed) = false := by simpa using absent _ (List.mem_of_find?_eq_some found)
    rw [other, if_neg Bool.false_ne_true]
  · rfl

/-- A start tag ends no open element if none of them can end early. -/
theorem closeBefore_of_lasting {all : OpenElements} (lasting : ∀ p ∈ all, endsEarly p.2 = false) (tag : String) :
    closeBefore tag all = all := by
  have early : ∀ closed ∈ "p" :: optionalEnds.map (·.closed), endsEarly closed = true := by decide
  refine closeBefore_induction (p := (· = all)) rfl ?_ tag
  rintro closed ends boundaries _ rfl
  refine closeUpTo_of_absent boundaries fun q member same => ?_
  have last := lasting q member
  rw [same, early closed ends] at last
  exact Bool.false_ne_true last.symm

/-- An end tag closes the innermost open element if that is its own. -/
theorem closeUpTo_cons_self (n : NodeId) (tag : String) (all : OpenElements) :
    closeUpTo tag [] ((n, tag) :: all) = all := by
  simp [closeUpTo]

/-- The pieces of a forest plant it where the first of them goes, and leave open what was open. -/
theorem foldl_add_pieces {forest : Forest} (legible : forest.isLegible = true) (base : NodeId) {g : Growth}
    (lasting : ∀ p ∈ g.opened, endsEarly p.2 = false) :
    forest.pieces.foldl (Growth.add base) g = { g with tree := forest.plant g.tree (g.place base) } := by
  induction forest generalizing g with
  | nil => rfl
  | element e inner rest inside behind =>
    simp only [Forest.isLegible, Bool.and_eq_true] at legible
    obtain ⟨⟨plain, innerLegible⟩, legible⟩ := legible
    obtain ⟨named, void, _, early, _⟩ := isPlainElement_iff.mp plain
    have lower : lowerName e.tag = e.tag := lowerText_of_isMarkedName (isMarkedName_of_isTagName named)
    -- The element is the innermost open one while its trees are planted, and again when its end tag comes.
    let entered : Growth :=
      ⟨(g.tree.create (some (g.place base)) (.element e)).1, (g.tree.fresh, e.tag) :: g.opened⟩
    have enters : g.add base (.startTag e.tag e.attributes false) = entered := by
      simp only [Growth.add, closeBefore_of_lasting lasting, createElement, lower, void, Bool.or_false,
        Bool.false_eq_true, if_false, create_snd]
      rfl
    have filled : inner.pieces.foldl (Growth.add base) entered =
        { entered with tree := inner.plant entered.tree g.tree.fresh } :=
      inside innerLegible (List.forall_mem_cons.mpr ⟨early, lasting⟩)
    have leaves : Growth.add base { entered with tree := inner.plant entered.tree g.tree.fresh } (.endTag e.tag) =
        { g with tree := inner.plant entered.tree g.tree.fresh } := by
      simp only [Growth.add, entered, closeUpTo_cons_self]
    rw [Forest.pieces, List.foldl_cons, enters, List.foldl_append, filled, List.foldl_cons, leaves]
    exact behind legible lasting
  | comment s rest behind | text s rest behind =>
    simp only [Forest.isLegible, Bool.and_eq_true] at legible
    exact behind legible.2 lasting

/-- Markup that is written from a forest is read without an error, and it plants the forest: its trees are the new
last children, which are told of in order. -/
theorem insert_print {t : PageTree} {base : NodeId} {forest : Forest} (holds : t.canHaveChildren base = true)
    (legible : forest.isLegible = true) :
    ∃ later, insert t base (String.ofList forest.print) = (later, .ok (forest.rootsFrom t.size)) ∧
      forest.Planted t base later := by
  have inside := contains_of_canHaveChildren holds
  have planted : forest.Planted t base (forest.plant t base) := Forest.planted_plant inside
  have read : pieces forest.print = (forest.pieces, none) := by
    have whole : pieces (forest.print ++ []) = (forest.pieces ++ (pieces []).1, (pieces []).2) :=
      pieces_print legible rfl
    have nothing : pieces [] = ([], none) := by rw [pieces.eq_def]
    rwa [nothing, List.append_nil, List.append_nil] at whole
  have grafted : graft t base forest.pieces = forest.plant t base := by
    rw [graft, foldl_add_pieces legible base (g := { tree := t }) (by simp)]
    rfl
  refine ⟨forest.plant t base, ?_, planted⟩
  simp only [insert, String.toList_ofList, read, grafted, planted.added.children inside, List.drop_left]

/-- A paragraph with a text. -/
def shortParagraph : Page := .ofMarkup "<p>old</p>"

/-- Texts that look like markup, a value with both quotes, comments that end in hyphens, and a division in a
paragraph. -/
def trickyForest : Forest :=
  .text "1 < 2 & &lt;" <|
    .element ⟨"div", [⟨"data-x.y:z", "\"<&quot;>'"⟩, ⟨"b", ""⟩]⟩
      (.comment "-" (.element ⟨"x-y", []⟩ .nil (.text "</div>" .nil)))
      (.text " " (.comment "<!-- --" .nil))

theorem insert_print_trickyForest :
    shortParagraph.tree.canHaveChildren ⟨1⟩ = true ∧ trickyForest.isLegible = true ∧
      ∃ later, insert shortParagraph.tree ⟨1⟩
          ("1 &lt; 2 &amp; &amp;lt;<div data-x.y:z=\"&quot;<&amp;quot;>'\" b=\"\"><!-----><x-y></x-y>" ++
            "&lt;/div></div> <!--<!-- ---->") = (later, .ok [⟨5⟩, ⟨6⟩, ⟨10⟩, ⟨11⟩]) ∧
        trickyForest.Planted shortParagraph.tree ⟨1⟩ later := by
  have holds : shortParagraph.tree.canHaveChildren ⟨1⟩ = true := by decide +kernel
  have legible : trickyForest.isLegible = true := by decide +kernel
  have markup : String.ofList trickyForest.print =
      "1 &lt; 2 &amp; &amp;lt;<div data-x.y:z=\"&quot;<&amp;quot;>'\" b=\"\"><!-----><x-y></x-y>" ++
        "&lt;/div></div> <!--<!-- ---->" := by decide +kernel
  have roots : trickyForest.rootsFrom shortParagraph.tree.size = [⟨5⟩, ⟨6⟩, ⟨10⟩, ⟨11⟩] := by decide +kernel
  obtain ⟨later, inserted, planted⟩ := insert_print holds legible
  rw [markup, roots] at inserted
  exact ⟨holds, legible, later, inserted, planted⟩

end Markup

end CosmeticRules
