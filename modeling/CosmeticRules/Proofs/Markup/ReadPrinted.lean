import CosmeticRules.Proofs.Markup.Printing
import CosmeticRules.Proofs.Selector.PrintedText
import CosmeticRules.Proofs.Text.Search
import CosmeticRules.Proofs.Text.Split

/-!
The markup of a forest is read as its pieces, also where more markup follows that does not go on with a text.
-/

namespace CosmeticRules.Markup

open Text

/-! References. -/

/-- A reference to a named character, up to its semicolon, stands for that character. -/
theorem decode_reference {c : Char} {name : List Char} (known : character? name = some c)
    (chars : ∀ d ∈ name, isReferenceChar d = true) (rest : List Char) :
    decode ('&' :: (name ++ ';' :: rest)) = c :: decode rest := by
  have taken : (name ++ ';' :: rest).takeWhile isReferenceChar = name :=
    (takeWhile_append_cons chars (by decide) rest).1
  have skipped : ∀ (dropped : List Char), decodeFrom (dropped.length + 1) (dropped ++ ';' :: rest) = decode rest := by
    intro dropped
    induction dropped with
    | nil => rfl
    | cons d dropped ih => exact ih
  rw [decode, decodeFrom, if_pos rfl]
  simp only [taken, known, List.drop_left, List.head?_cons, beq_self_eq_true, if_true]
  rw [skipped]

theorem decode_escape {special : Char} {name : List Char} (known : character? name = some special)
    (chars : ∀ d ∈ name, isReferenceChar d = true) (s : List Char) : decode (escape special name s) = s := by
  induction s with
  | nil => rfl
  | cons c rest ih =>
    rw [escape, List.flatMap_cons, ← escape, escapeChar]
    split
    · rename_i ampersand
      have reference := @decode_reference '&' ['a', 'm', 'p'] (by decide) (by decide) (escape special name rest)
      exact reference.trans (by rw [ih, ampersand])
    · rename_i other
      split
      · rename_i same
        rw [List.cons_append, List.append_assoc, List.singleton_append, decode_reference known chars, ih, same]
      · rw [List.singleton_append, decode, decodeFrom, if_neg other]
        exact congrArg (c :: ·) ih

/-- A character that the references do not need does not occur in what is written. -/
theorem not_mem_escape {special : Char} {name : List Char} (apart : special ∉ '&' :: (name ++ [';']))
    (other : special ∉ ['&', 'a', 'm', 'p', ';']) (s : List Char) : special ∉ escape special name s := by
  intro member
  obtain ⟨c, _, written⟩ := List.mem_flatMap.mp member
  unfold escapeChar at written
  split at written
  · exact other written
  · split at written
    · exact apart written
    · rename_i different
      exact different (List.mem_singleton.mp written).symm

theorem decode_escapeText (text : String) : decode (escapeText text) = text.toList :=
  decode_escape (by decide) (by decide) _

theorem decode_escapeValue (value : String) : decode (escapeValue value) = value.toList :=
  decode_escape (by decide) (by decide) _

/-! Names. -/

theorem isAlpha_of_isLower {c : Char} (lower : c.isLower = true) : c.isAlpha = true :=
  Bool.or_eq_true_iff.mpr (.inr lower)

/-- The characters of names are in lower case where they are letters, and they go on with a name. -/
theorem classes_of_isMarkedChar {c : Char} (marked : isMarkedChar c = true) :
    isAttributeChar c = true ∧ c.toLower = c := by
  by_cases plain : PlainText.isPlainChar c = true
  · have both := PlainText.forall_isPlainChar
      (p := fun c => !isMarkedChar c || (isAttributeChar c && c.toLower == c)) (by decide +kernel) plain
    simpa [marked] using both
  · -- The marks that are not plain are the colon and the dot.
    simp only [isMarkedChar, Bool.or_eq_true, List.contains_iff_mem] at marked
    rcases marked with (lower | digit) | mark
    · exact absurd (PlainText.isPlainChar_of_letter (.inr lower)) plain
    · simp [PlainText.isPlainChar, Char.isAlphanum, digit] at plain
    · simp only [List.mem_cons, List.not_mem_nil, or_false] at mark
      rcases mark with rfl | rfl | rfl | rfl <;> decide

theorem isMarkedName_iff {name : String} : isMarkedName name = true ↔
    ∃ c rest, name.toList = c :: rest ∧ c.isLower = true ∧ ∀ d ∈ rest, isMarkedChar d = true := by
  unfold isMarkedName
  split
  · rename_i empty
    simp [empty]
  · rename_i c rest split
    simp [split]

theorem isTagName_iff {name : String} : isTagName name = true ↔
    ∃ c rest, name.toList = c :: rest ∧ c.isLower = true ∧
      ∀ d ∈ rest, (d.isLower || d.isDigit || d == '-') = true := by
  unfold isTagName
  split
  · rename_i empty
    simp [empty]
  · rename_i c rest split
    simp [split]

/-- The characters of tags are among those of names. -/
theorem classes_of_tagChar {c : Char} (named : (c.isLower || c.isDigit || c == '-') = true) :
    isTagChar c = true ∧ isMarkedChar c = true := by
  simp only [Bool.or_eq_true, beq_iff_eq] at named
  rcases named with (lower | digit) | rfl
  · simp [isTagChar, isMarkedChar, Char.isAlphanum, isAlpha_of_isLower lower, lower]
  · simp [isTagChar, isMarkedChar, Char.isAlphanum, digit]
  · decide

theorem isMarkedName_of_isTagName {name : String} (named : isTagName name = true) :
    isMarkedName name = true := by
  obtain ⟨c, rest, split, first, others⟩ := isTagName_iff.mp named
  exact isMarkedName_iff.mpr ⟨c, rest, split, first, fun d member => (classes_of_tagChar (others d member)).2⟩

theorem isTagChar_of_isTagName {name : String} (named : isTagName name = true) :
    ∀ c ∈ name.toList, isTagChar c = true := by
  obtain ⟨c, rest, split, first, others⟩ := isTagName_iff.mp named
  have letter : (c.isLower || c.isDigit || c == '-') = true := by rw [first, Bool.true_or, Bool.true_or]
  rw [split]
  exact List.forall_mem_cons.mpr
    ⟨(classes_of_tagChar letter).1, fun d member => (classes_of_tagChar (others d member)).1⟩

theorem isMarkedChar_of_isMarkedName {name : String} (named : isMarkedName name = true) :
    ∀ c ∈ name.toList, isMarkedChar c = true := by
  obtain ⟨c, rest, split, first, others⟩ := isMarkedName_iff.mp named
  rw [split]
  refine List.forall_mem_cons.mpr ⟨?_, others⟩
  rw [isMarkedChar, first, Bool.true_or, Bool.true_or]

theorem lowerText_of_isMarkedName {name : String} (named : isMarkedName name = true) :
    lowerText name.toList = name := by
  have same : asciiLower name.toList = name.toList := by
    refine (List.map_congr_left fun c member => ?_).trans (List.map_id _)
    exact (classes_of_isMarkedChar (isMarkedChar_of_isMarkedName named c member)).2
  rw [lowerText, same, String.ofList_toList]

/-! Start tags. -/

/-- A name, an equals sign and a value. -/
theorem attributes_named {done : List Attribute} {c : Char} {tail more after : List Char} {value : String}
    (inName : isAttributeChar c = true)
    (equals : (tail.dropWhile isAttributeChar).dropWhile isAsciiBlank = '=' :: more)
    (read : attributeValue (more.dropWhile isAsciiBlank) = .ok (value, after)) :
    attributes done (c :: tail) =
      attributes (addAttribute done (lowerText (c :: tail.takeWhile isAttributeChar)) value) after := by
  have proper : c ≠ '>' ∧ c ≠ '/' := by
    constructor <;> rintro rfl <;> exact absurd inName (by decide)
  rw [attributes.eq_def]
  simp only [proper.1, proper.2, inName, if_false, false_and, Bool.not_true, Bool.false_eq_true]
  split
  · rename_i found same
    obtain rfl : more = found := (List.cons.inj (equals.symm.trans same)).2
    split
    · rename_i again
      obtain ⟨rfl, rfl⟩ := Prod.mk.inj (Except.ok.inj (read.symm.trans again))
      rfl
    · rename_i wrong
      exact absurd (read.symm.trans wrong) (by simp)
  · rename_i other
    exact absurd equals (other more)

theorem attributeValue_escapeValue (value : String) (rest : List Char) :
    attributeValue ('"' :: (escapeValue value ++ '"' :: rest)) = .ok (value, rest) := by
  have closed : '"' ∉ escapeValue value := not_mem_escape (by decide) (by decide) _
  rw [attributeValue, if_pos (Or.inl rfl), splitFirst?_append closed]
  simp only [decode_escapeValue, String.ofList_toList]

/-- An attribute with its value is read, and reading goes on behind it. -/
theorem attributes_printAttribute {done : List Attribute} {a : Attribute} (named : isMarkedName a.name = true)
    (new : a.name ∉ done.map (·.name)) (rest : List Char) :
    attributes done (printAttribute a ++ rest) = attributes (done ++ [a]) rest := by
  have inName := fun d member => (classes_of_isMarkedChar (isMarkedChar_of_isMarkedName named d member)).1
  obtain ⟨c, more, split, _⟩ := isMarkedName_iff.mp named
  rw [split] at inName
  obtain ⟨first, others⟩ := List.forall_mem_cons.mp inName
  have written : printAttribute a ++ rest =
      ' ' :: c :: (more ++ '=' :: '"' :: (escapeValue a.value ++ '"' :: rest)) := by
    simp [printAttribute, split]
  obtain ⟨taken, dropped⟩ := takeWhile_append_cons (c := '=') others (by decide)
    ('"' :: (escapeValue a.value ++ '"' :: rest))
  have skipped : ∀ s, attributes done (' ' :: s) = attributes done s := by
    intro s
    rw [attributes.eq_def]
    rfl
  have added : addAttribute done (lowerText (c :: more)) a.value = done ++ [a] := by
    have absent : ¬(done.any (·.name == a.name)) = true := by
      intro known
      obtain ⟨b, member, same⟩ := List.any_eq_true.mp known
      exact new (List.mem_map.mpr ⟨b, member, by simpa using same⟩)
    rw [← split, lowerText_of_isMarkedName named, addAttribute, if_neg absent]
  have read : attributeValue (List.dropWhile isAsciiBlank ('"' :: (escapeValue a.value ++ '"' :: rest))) =
      .ok (a.value, rest) := attributeValue_escapeValue a.value rest
  rw [written, skipped, attributes_named first (by rw [dropped]; rfl) read, taken, added]

theorem attributes_printed {done found : List Attribute} (named : found.all (isMarkedName ·.name) = true)
    (distinct : ((done ++ found).map (·.name)).Nodup) (rest : List Char) :
    attributes done (found.flatMap printAttribute ++ '>' :: rest) = .ok (done ++ found, false, rest) := by
  induction found generalizing done with
  | nil => rw [List.flatMap_nil, List.nil_append, attributes, if_pos rfl, List.append_nil]
  | cons a others ih =>
    obtain ⟨first, named⟩ := Bool.and_eq_true_iff.mp named
    have new : a.name ∉ done.map (·.name) := by
      rw [List.map_append, List.map_cons] at distinct
      exact fun member => (List.nodup_append.mp distinct).2.2 a.name member a.name List.mem_cons_self rfl
    rw [List.append_cons] at distinct
    rw [List.flatMap_cons, List.append_assoc, attributes_printAttribute first new, ih named distinct]
    rw [List.append_assoc, List.singleton_append]

/-! Pieces. -/

theorem pieces_of_step {c : Char} {tail rest : List Char} {found : List Piece}
    (read : step c tail = ⟨found, .ok rest⟩) :
    pieces (c :: tail) = (found ++ (pieces rest).1, (pieces rest).2) := by
  rw [pieces.eq_def]
  simp only []
  split
  · rename_i wrong
    rw [read] at wrong
    exact absurd wrong (by simp)
  · rename_i found
    rw [read] at found
    obtain rfl := Except.ok.inj found
    rw [read]

/-- A `<` and a letter begin a start tag: no comment, no end tag and no declaration. -/
theorem step_of_isLower {c : Char} (lower : c.isLower = true) (s : List Char) :
    step '<' (c :: s) = startTag (c :: s) := by
  have opens : ('<' == '<' && opensTag (c :: s)) = true := by simp [opensTag, isAlpha_of_isLower lower]
  have proper : c ≠ '!' ∧ c ≠ '/' := by
    constructor <;> rintro rfl <;> exact absurd lower (by decide)
  unfold step
  rw [if_pos opens]
  split
  · rename_i same
    exact absurd (List.cons.inj same).1 proper.1
  · rename_i same
    exact absurd (List.cons.inj same).1 proper.2
  · rename_i same
    exact absurd (List.cons.inj same).1 proper.1
  · rfl

theorem startTag_printed {e : Element} (plain : isPlainElement e = true) (rest : List Char) :
    startTag (e.tag.toList ++ (e.attributes.flatMap printAttribute ++ '>' :: rest)) =
      ⟨[.startTag e.tag e.attributes false], .ok rest⟩ := by
  obtain ⟨named, _, raw, _, attributesNamed, distinct⟩ := isPlainElement_iff.mp plain
  have found : attributes [] (e.attributes.flatMap printAttribute ++ '>' :: rest) =
      .ok (e.attributes, false, rest) := @attributes_printed [] e.attributes attributesNamed distinct rest
  -- The tag ends before the blank of the first attribute or before the end of the start tag.
  obtain ⟨d, after, next, stop⟩ : ∃ d after,
      e.attributes.flatMap printAttribute ++ '>' :: rest = d :: after ∧ isTagChar d = false := by
    cases e.attributes with
    | nil => exact ⟨'>', rest, rfl, by decide⟩
    | cons a others => exact ⟨' ', _, rfl, by decide⟩
  obtain ⟨taken, dropped⟩ := takeWhile_append_cons (isTagChar_of_isTagName named) stop after
  rw [← next] at taken dropped
  simp only [startTag, taken, dropped, found, lowerText_of_isMarkedName (isMarkedName_of_isTagName named), raw,
    Bool.false_and, Bool.false_eq_true, if_false]

theorem pieces_openTag {e : Element} (plain : isPlainElement e = true) (rest : List Char) :
    pieces (openTag e ++ rest) =
      (.startTag e.tag e.attributes false :: (pieces rest).1, (pieces rest).2) := by
  have read : step '<' (e.tag.toList ++ (e.attributes.flatMap printAttribute ++ '>' :: rest)) =
      ⟨[.startTag e.tag e.attributes false], .ok rest⟩ := by
    have start := startTag_printed plain rest
    obtain ⟨c, more, split, lower, _⟩ := isTagName_iff.mp (isPlainElement_iff.mp plain).1
    rw [split, List.cons_append] at start ⊢
    exact (step_of_isLower lower _).trans start
  have written : openTag e ++ rest =
      '<' :: (e.tag.toList ++ (e.attributes.flatMap printAttribute ++ '>' :: rest)) := by simp [openTag]
  rw [written, pieces_of_step read]
  rfl

theorem endTag_printed {tag : String} (named : isTagName tag = true) (rest : List Char) :
    endTag (tag.toList ++ '>' :: rest) = .ok (tag, rest) := by
  obtain ⟨taken, dropped⟩ := takeWhile_append_cons (c := '>') (isTagChar_of_isTagName named) (by decide) rest
  have bare : (tag.toList ++ '>' :: rest).dropWhile isAsciiBlank = tag.toList ++ '>' :: rest := by
    obtain ⟨c, more, split, lower, _⟩ := isTagName_iff.mp named
    have dark : isAsciiBlank c = false := by
      simp only [isAsciiBlank, Bool.or_eq_false_iff, beq_eq_false_iff_ne]
      refine ⟨⟨⟨⟨?_, ?_⟩, ?_⟩, ?_⟩, ?_⟩ <;> rintro rfl <;> exact absurd lower (by decide)
    rw [split, List.cons_append, List.dropWhile_cons_of_neg (by simp [dark])]
  simp only [endTag, bare, taken, dropped, splitFirst?, if_true,
    lowerText_of_isMarkedName (isMarkedName_of_isTagName named)]

theorem pieces_closeTag {tag : String} (named : isTagName tag = true) (rest : List Char) :
    pieces (closeTag tag ++ rest) = (.endTag tag :: (pieces rest).1, (pieces rest).2) := by
  have read : step '<' ('/' :: (tag.toList ++ '>' :: rest)) = ⟨[.endTag tag], .ok rest⟩ := by
    simp only [step, opensTag, closing, endTag_printed named]
    rfl
  have written : closeTag tag ++ rest = '<' :: '/' :: (tag.toList ++ '>' :: rest) := by simp [closeTag]
  rw [written, pieces_of_step read]
  rfl

/-- The first end of a comment is the one behind its text: none can begin with the last characters of the text. -/
theorem splitAround?_comment {s : List Char} (absent : ¬['-', '-', '>'] <:+: s) (rest : List Char) :
    splitAround? ['-', '-', '>'] (s ++ (['-', '-', '>'] ++ rest)) = some (s, rest) := by
  refine splitAround?_append (List.cons_ne_nil _ _) ?_ rest
  rintro before after rfl filled start
  obtain within | ⟨c, more, parts, reaches⟩ := prefix_append_cases start
  · exact absent (within.isInfix.trans (List.suffix_append before after).isInfix)
  · match after with
    | [] => exact filled rfl
    | [_] =>
      obtain ⟨rfl, rfl⟩ := List.cons.inj (List.cons.inj parts).2
      exact absurd reaches (by decide)
    | [_, _] =>
      obtain ⟨rfl, rfl⟩ := List.cons.inj (List.cons.inj (List.cons.inj parts).2).2
      exact absurd reaches (by decide)
    | _ :: _ :: _ :: after => simp at parts

theorem pieces_printComment {text : String} (closed : occursIn ['-', '-', '>'] text.toList = false)
    (rest : List Char) :
    pieces (printComment text ++ rest) = (.comment text :: (pieces rest).1, (pieces rest).2) := by
  have absent : ¬['-', '-', '>'] <:+: text.toList := by
    rw [← occursIn_iff, closed]
    exact Bool.false_ne_true
  have whole : comment (text.toList ++ (['-', '-', '>'] ++ rest)) = ⟨[.comment text], .ok rest⟩ := by
    simp only [comment, splitAround?_comment absent, String.ofList_toList]
  have read : step '<' ('!' :: '-' :: '-' :: (text.toList ++ (['-', '-', '>'] ++ rest))) =
      ⟨[.comment text], .ok rest⟩ := whole
  have written : printComment text ++ rest =
      '<' :: '!' :: '-' :: '-' :: (text.toList ++ (['-', '-', '>'] ++ rest)) := by simp [printComment]
  rw [written, pieces_of_step read]
  rfl

/-- Where a text without `<` is followed by something that no text goes on with, it ends there. -/
theorem textRun_append {s rest : List Char} (bare : '<' ∉ s) (stops : textRun rest = ([], rest)) :
    textRun (s ++ rest) = (s, rest) := by
  induction s with
  | nil => exact stops
  | cons c s ih =>
    obtain ⟨other, bare⟩ := not_or.mp (mt List.mem_cons.mpr bare)
    have ordinary : (c == '<') = false := by simpa using Ne.symm other
    simp only [List.cons_append, textRun, ordinary, Bool.false_and, Bool.false_eq_true, if_false, ih bare]

theorem pieces_escapeText {text : String} (filled : text.toList ≠ []) {rest : List Char}
    (stops : textRun rest = ([], rest)) :
    pieces (escapeText text ++ rest) = (.text text :: (pieces rest).1, (pieces rest).2) := by
  have bare : '<' ∉ escapeText text := not_mem_escape (by decide) (by decide) _
  have decoded := decode_escapeText text
  cases written : escapeText text with
  | nil =>
    rw [written] at decoded
    exact absurd decoded.symm filled
  | cons c s =>
    rw [written] at bare decoded
    obtain ⟨other, bare⟩ := not_or.mp (mt List.mem_cons.mpr bare)
    have ordinary : (c == '<') = false := by simpa using Ne.symm other
    have read : step c (s ++ rest) = ⟨[.text text], .ok rest⟩ := by
      simp only [step, ordinary, Bool.false_and, Bool.false_eq_true, if_false, textRun_append bare stops, decoded,
        String.ofList_toList]
    rw [List.cons_append, pieces_of_step read]
    rfl

/-! Forests. -/

/-- What is written as tags or comments begins with a `<` that ends a text. -/
theorem textRun_print {forest : Forest} (legible : forest.isLegible = true)
    (other : forest.startsWithText = false) {rest : List Char} (stops : textRun rest = ([], rest)) :
    textRun (forest.print ++ rest) = ([], forest.print ++ rest) := by
  cases forest with
  | nil => exact stops
  | element e inner more =>
    simp only [Forest.isLegible, Bool.and_eq_true] at legible
    obtain ⟨c, s, split, lower, _⟩ := isTagName_iff.mp (isPlainElement_iff.mp legible.1.1).1
    simp [Forest.print, openTag, split, textRun, opensTag, isAlpha_of_isLower lower]
  | comment text more => rfl
  | text text more => exact absurd other.symm Bool.false_ne_true

/-- The markup of a forest is read as its pieces, and reading goes on behind it. -/
theorem pieces_print {forest : Forest} (legible : forest.isLegible = true) {rest : List Char}
    (stops : textRun rest = ([], rest)) :
    pieces (forest.print ++ rest) = (forest.pieces ++ (pieces rest).1, (pieces rest).2) := by
  induction forest generalizing rest with
  | nil => rfl
  | element e inner more inside behind =>
    simp only [Forest.isLegible, Bool.and_eq_true] at legible
    obtain ⟨⟨plain, innerLegible⟩, legible⟩ := legible
    have closes : ∀ s, textRun (closeTag e.tag ++ s) = ([], closeTag e.tag ++ s) := fun s => rfl
    simp only [Forest.print, List.append_assoc, pieces_openTag plain, inside innerLegible (closes _),
      pieces_closeTag (isPlainElement_iff.mp plain).1, behind legible stops, Forest.pieces, List.cons_append]
  | comment text more behind =>
    simp only [Forest.isLegible, Bool.and_eq_true, Bool.not_eq_true'] at legible
    simp only [Forest.print, List.append_assoc, pieces_printComment legible.1, behind legible.2 stops,
      Forest.pieces, List.cons_append]
  | text text more behind =>
    simp only [Forest.isLegible, Bool.and_eq_true, Bool.not_eq_true', List.isEmpty_eq_false_iff] at legible
    obtain ⟨⟨filled, apart⟩, legible⟩ := legible
    simp only [Forest.print, List.append_assoc, pieces_escapeText filled (textRun_print legible apart stops),
      behind legible stops, Forest.pieces, List.cons_append]

end CosmeticRules.Markup
