import CosmeticRules.Proofs.Page.StyleText
import CosmeticRules.Proofs.Selector.PrintedText

/-!
Style texts that leave no quote and no parenthesis open. What is read from such a text can be written and read back,
whatever separators stand inside its quotes and parentheses.
-/

namespace CosmeticRules

namespace InlineStyle

open Text

/-- A text that ends outside quotes and parentheses. -/
def IsClosed (s : List Char) : Prop := (Openings.feedAll {} s).isTop = true

instance (s : List Char) : Decidable (IsClosed s) := inferInstanceAs (Decidable (_ = true))

/-! What is open. -/

namespace Openings

/-- Only quotes are open as quotes, and nothing is escaped outside of them. -/
structure Sound (o : Openings) : Prop where
  quote : ∀ q, o.quote = some q → q = '\'' ∨ q = '"'
  plain : o.quote = none → o.escaped = false

theorem sound_start : Sound {} := ⟨by simp, fun _ => rfl⟩

variable {o : Openings} (sound : o.Sound)

include sound

theorem Sound.feed (c : Char) : (o.feed c).Sound := by
  obtain ⟨opened, plain⟩ := sound
  obtain ⟨quote, escaped, parentheses⟩ := o
  unfold Openings.feed
  cases quote with
  | some q =>
    simp only []
    split
    · exact ⟨fun d same => opened d same, by simp⟩
    · split
      · exact ⟨fun d same => opened d same, by simp⟩
      · split
        · rename_i unescaped _ _
          exact ⟨by simp, fun _ => by simpa using unescaped⟩
        · exact ⟨fun d same => opened d same, by simp⟩
  | none =>
    simp only []
    split
    · rename_i marked
      exact ⟨fun d same => Option.some.inj same ▸ marked, by simp⟩
    · split
      · exact ⟨by simp, plain⟩
      · split <;> exact ⟨by simp, plain⟩

theorem Sound.feedAll (s : List Char) : (o.feedAll s).Sound := by
  induction s generalizing o with
  | nil => exact sound
  | cons c rest ih => exact ih (sound.feed c)

/-- Outside quotes and parentheses nothing at all is open. -/
theorem Sound.eq_of_isTop (top : o.isTop = true) : o = {} := by
  obtain ⟨quote, escaped, parentheses⟩ := o
  simp only [isTop, Bool.and_eq_true, Option.isNone_iff_eq_none, beq_iff_eq] at top
  obtain ⟨rfl, rfl⟩ := top
  obtain rfl : escaped = false := sound.plain rfl
  rfl

/-- A character that neither opens nor closes nor escapes anything. -/
def IsNeutral (c : Char) : Prop := c ∉ ['\'', '"', '(', ')', '\\']

instance (c : Char) : Decidable (IsNeutral c) := inferInstanceAs (Decidable (_ ∉ _))

theorem Sound.feed_neutral {c : Char} (neutral : IsNeutral c) : o.feed c = { o with escaped := false } := by
  simp only [IsNeutral, List.mem_cons, List.not_mem_nil, or_false, not_or] at neutral
  obtain ⟨single, double, opening, closing, backslash⟩ := neutral
  obtain ⟨opened, plain⟩ := sound
  obtain ⟨quote, escaped, parentheses⟩ := o
  unfold Openings.feed
  cases quote with
  | none =>
    obtain rfl : escaped = false := plain rfl
    simp [single, double, opening, closing]
  | some q =>
    have other : c ≠ q := by
      rintro rfl
      exact (opened c rfl).elim single double
    cases escaped <;> simp [backslash, other]

theorem Sound.isTop_feedAll {s : List Char} (neutral : ∀ c ∈ s, IsNeutral c) :
    (o.feedAll s).isTop = o.isTop := by
  induction s generalizing o with
  | nil => rfl
  | cons c rest ih =>
    obtain ⟨here, others⟩ := List.forall_mem_cons.mp neutral
    have kept : (o.feed c).isTop = o.isTop := by
      rw [sound.feed_neutral here]
      rfl
    exact (ih (sound.feed c) others).trans kept

end Openings

theorem IsClosed.feedAll_eq {s : List Char} (closed : IsClosed s) : Openings.feedAll {} s = {} :=
  (Openings.sound_start.feedAll s).eq_of_isTop closed

theorem isClosed_iff {s : List Char} : IsClosed s ↔ Openings.feedAll {} s = {} :=
  ⟨IsClosed.feedAll_eq, fun same => by rw [IsClosed, same]; rfl⟩

/-! What is split off a closed text is closed. -/

variable {separator : Char} {o : Openings} {s t : List Char}

theorem splitTop?_eq_none_of_append (free : splitTop? separator o (s ++ t) = none) :
    splitTop? separator o s = none ∧ splitTop? separator (o.feedAll s) t = none := by
  induction s generalizing o with
  | nil => exact ⟨rfl, free⟩
  | cons c rest ih =>
    rw [List.cons_append, splitTop?] at free
    split at free
    · simp at free
    · rename_i other
      obtain ⟨first, second⟩ := ih (Option.map_eq_none_iff.mp free)
      rw [splitTop?, if_neg other, first]
      exact ⟨rfl, second⟩

theorem splitTop?_of_fresh (fresh : separator ∉ s) : splitTop? separator o s = none := by
  induction s generalizing o with
  | nil => rfl
  | cons c rest ih =>
    obtain ⟨other, fresh⟩ := not_or.mp (mt List.mem_cons.mpr fresh)
    have apart : (c == separator) = false := beq_eq_false_iff_ne.mpr (Ne.symm other)
    rw [splitTop?, apart, Bool.and_false, ih fresh]
    rfl

theorem splitTop?_spec {before after : List Char} (found : splitTop? separator o s = some (before, after)) :
    s = before ++ separator :: after ∧ (o.feedAll before).isTop = true ∧ splitTop? separator o before = none := by
  induction s generalizing o before with
  | nil => simp [splitTop?] at found
  | cons c rest ih =>
    rw [splitTop?] at found
    split at found
    · rename_i here
      rw [Bool.and_eq_true, beq_iff_eq] at here
      obtain ⟨top, rfl⟩ := here
      obtain ⟨rfl, rfl⟩ := Prod.mk.inj (Option.some.inj found)
      exact ⟨rfl, top, rfl⟩
    · rename_i other
      obtain ⟨⟨first, last⟩, inner, pair⟩ := Option.map_eq_some_iff.mp found
      obtain ⟨rfl, rfl⟩ := Prod.mk.inj pair
      obtain ⟨rfl, top, free⟩ := ih inner
      refine ⟨rfl, top, ?_⟩
      rw [splitTop?, if_neg other, free]
      rfl

/-- Neutral characters at both ends of a sealed text do not count. -/
theorem Sealed.middle {separators front back : List Char} (held : Sealed separators (front ++ s ++ back))
    (before : ∀ c ∈ front, Openings.IsNeutral c) (after : ∀ c ∈ back, Openings.IsNeutral c) :
    Sealed separators s := by
  have start : Openings.feedAll {} front = {} :=
    (Openings.sound_start.feedAll front).eq_of_isTop (Openings.sound_start.isTop_feedAll before)
  have sound := Openings.sound_start.feedAll s
  constructor
  · have whole := held.closed
    rw [Openings.feedAll_append, Openings.feedAll_append, start] at whole
    refine sound.eq_of_isTop ?_
    rw [← sound.isTop_feedAll after, whole]
    rfl
  · intro separator member
    have free := (splitTop?_eq_none_of_append (held.free separator member)).1
    have later := (splitTop?_eq_none_of_append free).2
    rwa [start] at later

theorem isNeutral_of_isBlank {c : Char} (blank : isBlank c = true) : Openings.IsNeutral c := by
  intro marked
  have dark : ∀ d ∈ ['\'', '"', '(', ')', '\\'], isBlank d = false := by decide
  simp [dark c marked] at blank

theorem Sealed.trim {separators : List Char} (held : Sealed separators s) : Sealed separators (trim s) := by
  obtain ⟨front, back, whole, before, after⟩ := exists_around_trim s
  rw [whole] at held
  exact held.middle (fun c member => isNeutral_of_isBlank (before c member))
    fun c member => isNeutral_of_isBlank (after c member)

/-- The parts of a closed text between semicolons are closed. -/
theorem sealed_parts {s : List Char} (closed : IsClosed s) : ∀ part ∈ parts s, Sealed [';'] part := by
  induction length : s.length using Nat.strong_induction_on generalizing s with
  | _ count ih =>
    cases found : splitTop? ';' {} s with
    | none =>
      have alone : parts s = [s] := by
        have whole := partsFrom_append found []
        rw [List.append_nil] at whole
        simp [parts, whole, partsFrom]
      rw [alone]
      exact List.forall_mem_singleton.mpr ⟨closed.feedAll_eq, List.forall_mem_singleton.mpr found⟩
    | some pair =>
      obtain ⟨before, after⟩ := pair
      obtain ⟨rfl, top, free⟩ := splitTop?_spec found
      have first : Sealed [';'] before := ⟨IsClosed.feedAll_eq top, List.forall_mem_singleton.mpr free⟩
      have rest : IsClosed after := by
        have whole := closed.feedAll_eq
        rw [Openings.feedAll_append, first.closed] at whole
        exact isClosed_iff.mpr whole
      rw [parts_append_semicolon first]
      refine List.forall_mem_cons.mpr ⟨first, ih after.length ?_ rest rfl⟩
      rw [← length, List.length_append, List.length_cons]
      omega

/-! Lower case. -/

theorem toLower_of_not_isPlainChar {c : Char} (other : PlainText.isPlainChar c = false) : c.toLower = c := by
  unfold Char.toLower
  split
  · rename_i upper
    have letter : c.isUpper = true := decide_eq_true upper
    rw [PlainText.isPlainChar_of_letter (.inl letter)] at other
    cases other
  · rfl

/-- A character in lower case is the character itself, or both are plain. -/
theorem toLower_cases (c : Char) :
    c.toLower = c ∨ PlainText.isPlainChar c = true ∧ PlainText.isPlainChar c.toLower = true := by
  cases plain : PlainText.isPlainChar c with
  | false => exact .inl (toLower_of_not_isPlainChar plain)
  | true =>
    exact .inr ⟨rfl, PlainText.forall_isPlainChar (p := fun c => PlainText.isPlainChar c.toLower)
      (by decide +kernel) plain⟩

theorem isNeutral_of_isPlainChar {c : Char} (plain : PlainText.isPlainChar c = true) : Openings.IsNeutral c := by
  intro marked
  have others : ∀ d ∈ ['\'', '"', '(', ')', '\\'], PlainText.isPlainChar d = false := by decide
  simp [others c marked] at plain

theorem isBlank_toLower (c : Char) : isBlank c.toLower = isBlank c := by
  rcases toLower_cases c with same | ⟨plain, lower⟩
  · rw [same]
  · rw [PlainText.isBlank_of_isPlainChar plain, PlainText.isBlank_of_isPlainChar lower]

theorem asciiLower_asciiLower (s : List Char) : asciiLower (asciiLower s) = asciiLower s := by
  rw [asciiLower, asciiLower, List.map_map]
  refine List.map_congr_left fun c _ => ?_
  cases plain : PlainText.isPlainChar c with
  | false =>
    rw [Function.comp_apply, toLower_of_not_isPlainChar plain, toLower_of_not_isPlainChar plain]
  | true =>
    have both := PlainText.forall_isPlainChar (p := fun c => c.toLower.toLower == c.toLower)
      (by decide +kernel) plain
    exact eq_of_beq both

theorem trim_asciiLower (s : List Char) : trim (asciiLower s) = asciiLower (trim s) := by
  have same : isBlank ∘ Char.toLower = isBlank := funext isBlank_toLower
  rw [trim, trimEnd, dropEndWhile, trimStart, asciiLower, List.dropWhile_map, ← List.map_reverse,
    List.dropWhile_map, ← List.map_reverse, same]
  rfl

theorem Openings.Sound.feed_toLower (sound : o.Sound) (c : Char) : o.feed c.toLower = o.feed c := by
  rcases toLower_cases c with same | ⟨plain, lower⟩
  · rw [same]
  · rw [sound.feed_neutral (isNeutral_of_isPlainChar plain), sound.feed_neutral (isNeutral_of_isPlainChar lower)]

theorem Openings.Sound.feedAll_asciiLower (sound : o.Sound) (s : List Char) :
    o.feedAll (asciiLower s) = o.feedAll s := by
  induction s generalizing o with
  | nil => rfl
  | cons c rest ih =>
    rw [feedAll_cons, ← ih (sound.feed c), asciiLower, List.map_cons, feedAll_cons, sound.feed_toLower]
    rfl

theorem splitTop?_asciiLower (other : PlainText.isPlainChar separator = false) (sound : o.Sound)
    (free : splitTop? separator o s = none) : splitTop? separator o (asciiLower s) = none := by
  induction s generalizing o with
  | nil => rfl
  | cons c rest ih =>
    rw [splitTop?] at free
    split at free
    · simp at free
    · rename_i unlike
      have same : (c.toLower == separator) = (c == separator) := by
        rcases toLower_cases c with same | ⟨plain, lower⟩
        · rw [same]
        · have apart {d : Char} (plain : PlainText.isPlainChar d = true) : (d == separator) = false := by
            refine beq_eq_false_iff_ne.mpr ?_
            rintro rfl
            simp [other] at plain
          rw [apart plain, apart lower]
      rw [asciiLower, List.map_cons, splitTop?, same, if_neg unlike, sound.feed_toLower]
      exact Option.map_eq_none_iff.mpr (ih (sound.feed c) (Option.map_eq_none_iff.mp free))

theorem Sealed.asciiLower {separators : List Char} (held : Sealed separators s)
    (others : ∀ separator ∈ separators, PlainText.isPlainChar separator = false) :
    Sealed separators (asciiLower s) where
  closed := by rw [Openings.sound_start.feedAll_asciiLower, held.closed]
  free := fun separator member =>
    splitTop?_asciiLower (others separator member) Openings.sound_start (held.free separator member)

/-! What is read from a closed text can be written. -/

/-- A declaration in a sealed part is cut into a sealed property and a sealed value. -/
theorem Sealed.of_splitTop? {part before after : List Char} (held : Sealed [';'] part)
    (split : splitTop? ':' {} part = some (before, after)) : Sealed [':', ';'] before ∧ Sealed [';'] after := by
  obtain ⟨rfl, top, free⟩ := splitTop?_spec split
  have closed : Openings.feedAll {} before = {} := IsClosed.feedAll_eq top
  obtain ⟨first, second⟩ := splitTop?_eq_none_of_append (held.free ';' List.mem_cons_self)
  have rest := held.closed
  rw [Openings.feedAll_append, closed] at rest
  rw [closed] at second
  have step : splitTop? ';' {} (':' :: after) = (splitTop? ';' {} after).map (Prod.map (':' :: ·) id) := rfl
  rw [step] at second
  exact ⟨⟨closed, List.forall_mem_cons.mpr ⟨free, List.forall_mem_singleton.mpr first⟩⟩,
    ⟨rest, List.forall_mem_singleton.mpr (Option.map_eq_none_iff.mp second)⟩⟩

theorem writable_of_declaration? {part : List Char} (held : Sealed [';'] part) {d : Declaration}
    (found : declaration? part = some d) : d.Writable := by
  unfold declaration? at found
  split at found
  · simp at found
  · rename_i before after split
    simp only [] at found
    split at found
    · simp at found
    · rename_i named
      obtain rfl := Option.some.inj found
      obtain ⟨property, value⟩ := held.trim.of_splitTop? split
      constructor
      · simpa using named
      · rw [String.toList_ofList, trim_asciiLower, trim_trim]
      · rw [String.toList_ofList, asciiLower_asciiLower]
      · rw [String.toList_ofList]
        exact property.trim.asciiLower (by decide)
      · rw [String.toList_ofList]
        exact value.trim

theorem writable_foldl_addPart {all : List (List Char)} (held : ∀ part ∈ all, Sealed [';'] part)
    {done : List Declaration} (writable : ∀ d ∈ done, d.Writable) : ∀ d ∈ all.foldl addPart done, d.Writable := by
  induction all generalizing done with
  | nil => exact writable
  | cons part rest ih =>
    obtain ⟨first, others⟩ := List.forall_mem_cons.mp held
    refine ih others ?_
    cases found : declaration? part with
    | none => rwa [addPart, found]
    | some d =>
      rw [addPart, found]
      exact Declaration.forall_put writable (writable_of_declaration? first found)

/-- The declarations of a closed style text are read back as they are written. -/
theorem writable_read {text : String} (closed : IsClosed text.toList) : ∀ d ∈ read text, d.Writable := by
  rw [read_eq_foldl_parts]
  exact writable_foldl_addPart (sealed_parts closed) (by simp)

end InlineStyle

end CosmeticRules
