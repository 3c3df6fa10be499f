import CosmeticRules.Pattern.Plain.Syntax
import Std.Data.HashSet

/-!
Where plain patterns match. From a list of places in the text, a pattern leads to the places where its
matches from one of them end. Which of these are preferred does not matter here.
-/

namespace CosmeticRules.Pattern

/-- Keeps an item that has not been seen; the items kept are in reverse order. -/
def keepFresh {α : Type} [BEq α] [Hashable α] (state : Std.HashSet α × List α) (item : α) :
    Std.HashSet α × List α :=
  if state.1.contains item then state else (state.1.insert item, item :: state.2)

/-- The first occurrence of each item. -/
def distinct {α : Type} [BEq α] [Hashable α] (items : List α) : List α :=
  (items.foldl keepFresh (∅, [])).2.reverse

theorem mem_foldl_keepFresh {α : Type} [BEq α] [Hashable α] [LawfulBEq α] (a : α) (items : List α)
    (state : Std.HashSet α × List α) (same : ∀ b, b ∈ state.2 ↔ b ∈ state.1) :
    a ∈ (items.foldl keepFresh state).2 ↔ a ∈ state.2 ∨ a ∈ items := by
  induction items generalizing state with
  | nil => simp
  | cons item items ih =>
    rw [List.foldl_cons, List.mem_cons]
    by_cases seen : state.1.contains item
    · have kept : item ∈ state.2 := (same item).2 seen
      have unchanged : keepFresh state item = state := by simp [keepFresh, seen]
      rw [unchanged, ih state same]
      constructor
      · rintro (h | h)
        · exact .inl h
        · exact .inr (.inr h)
      · rintro (h | rfl | h)
        · exact .inl h
        · exact .inl kept
        · exact .inr h
    · have added : keepFresh state item = (state.1.insert item, item :: state.2) := by
        simp [keepFresh, seen]
      rw [added, ih]
      · rw [List.mem_cons, or_assoc, or_left_comm]
      · intro b
        rw [List.mem_cons, Std.HashSet.mem_insert, same, beq_iff_eq]
        exact or_congr_left eq_comm

theorem mem_distinct {α : Type} [BEq α] [Hashable α] [LawfulBEq α] {a : α} {items : List α} :
    a ∈ distinct items ↔ a ∈ items := by
  rw [distinct, List.mem_reverse, mem_foldl_keepFresh a items (∅, []) (by simp)]
  simp

namespace Plain

/-- Takes a step so many times. -/
def stepTimes (step : List Nat → List Nat) : Nat → List Nat → List Nat
  | 0, places => places
  | count + 1, places => if places.isEmpty then [] else stepTimes step count (step places)

/-- Adds the places that at most so many steps lead to. Only from the newest places can a step lead to
new ones. -/
def spread (step : List Nat → List Nat) : Nat → List Nat → List Nat → List Nat
  | 0, known, _ => known
  | count + 1, known, newest =>
    let fresh := (distinct (known ++ step newest)).drop known.length
    if fresh.isEmpty then known else spread step count (known ++ fresh) fresh

/-- The places where matches from the given places end. Repetitions that reach all of them are no more than
there are places. -/
def reach (text : Array Char) : Plain → List Nat → List Nat
  | empty, places => places
  | char set, places =>
    (places.filter fun i => (text[i]?).any set.contains).map (· + 1)
  | anchor a, places => places.filter fun i => a.holds text i
  | sequence p q, places => reach text q (reach text p places)
  | either p q, places => distinct (reach text p places ++ reach text q places)
  | repeated p least most _, places =>
    let enough := stepTimes (reach text p) least places
    let further := min (most.getD (least + text.size + 1) - least) (text.size + 1)
    spread (reach text p) further enough enough

theorem mem_reach_either {text : Array Char} {p q : Plain} {places : List Nat} {stop : Nat} :
    stop ∈ reach text (either p q) places ↔ stop ∈ reach text p places ∨ stop ∈ reach text q places := by
  rw [reach, mem_distinct, List.mem_append]

/-- Whether a match ends at a place. -/
def endsAt (p : Plain) (text : Array Char) (position : Nat) : Bool :=
  (reach text p (List.range (position + 1))).contains position

/-- Whether a pattern matches somewhere in a text. -/
def occursIn (p : Plain) (s : List Char) : Bool :=
  let text := s.toArray
  !(reach text p (List.range (text.size + 1))).isEmpty

end Plain

end CosmeticRules.Pattern
