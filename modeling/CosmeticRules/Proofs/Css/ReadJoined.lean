import CosmeticRules.Proofs.Css.ReadLinked

/-!
Reading a chain that goes on behind a blank. What comes before the blank is read as it is on its own, and what comes
after it makes any other chain longer in the same way.
-/

namespace CosmeticRules.Css

open Text

variable {readGroups : List Char → Except Unsupported (List Chain)} {a b : Nesting} {s first rest : List Char}

/-! The state after a text. -/

theorem escaped_feed {c : Char} {top : Bool} (fed : a.feed c = some (top, b)) :
    b.escaped = (!a.escaped && c == '\\') := by
  unfold Nesting.feed at fed
  split at fed
  · rename_i escaped
    obtain ⟨_, rfl⟩ := Prod.mk.inj (Option.some.inj fed)
    simp [escaped]
  · rename_i free
    split at fed
    · rename_i escape
      obtain ⟨_, rfl⟩ := Prod.mk.inj (Option.some.inj fed)
      simp [Bool.eq_false_iff.mpr free, escape]
    · rename_i other
      have stays : a.escaped = (!a.escaped && c == '\\') := by simp [Bool.eq_false_iff.mpr free, other]
      split at fed
      · obtain ⟨_, rfl⟩ := Prod.mk.inj (Option.some.inj fed)
        split <;> exact stays
      · repeat' split at fed
        all_goals first
          | (obtain ⟨_, rfl⟩ := Prod.mk.inj (Option.some.inj fed); exact stays)
          | simp at fed

theorem Passes.escaped_eq {separates : Char → Bool} (passes : Passes separates a s b) :
    b.escaped = endsEscaped a.escaped s := by
  induction passes with
  | nil => rfl
  | cons fed _ _ ih => rw [endsEscaped, ← escaped_feed fed, ih]

theorem Passes.unique {p q : Char → Bool} {c : Nesting} (passes : Passes p a s b) (again : Passes q a s c) : c = b := by
  induction passes with
  | nil => cases again with | nil => rfl
  | cons fed _ _ ih =>
    cases again with
    | cons fed' _ more =>
      obtain ⟨_, rfl⟩ := Prod.mk.inj (Option.some.inj (fed.symm.trans fed'))
      exact ih more

theorem passes_blanks {separates : Char → Bool} (apart : ∀ c, isBlank c = true → separates c = false)
    (blank : ∀ c ∈ s, isBlank c = true) : Passes separates {} s {} := by
  induction s with
  | nil => exact .nil
  | cons c rest ih =>
    obtain ⟨here, blank⟩ := List.forall_mem_cons.mp blank
    exact .cons (feed_blank here) (by rw [apart c here, Bool.and_false]) (ih blank)

theorem comma_dark (c : Char) (blank : isBlank c = true) : (c == ',') = false := by
  rw [beq_eq_false_iff_ne]
  rintro rfl
  exact absurd blank (by decide)

theorem exists_passes_of_partsFrom {found : List Char × List ChainPart} (split : partsFrom a s = some found) :
    ∃ b, Passes (fun _ => false) a s b ∧ b.isClosed = true := by
  induction s generalizing a found with
  | nil =>
    rw [partsFrom] at split
    split at split
    · rename_i closed
      exact ⟨a, .nil, closed⟩
    · simp at split
  | cons c rest ih =>
    rw [partsFrom] at split
    split at split
    · simp at split
    · rename_i top next fed
      obtain ⟨later, more, _⟩ := Option.map_eq_some_iff.mp split
      obtain ⟨b, passes, closed⟩ := ih more
      exact ⟨b, .cons fed (Bool.and_false _) passes, closed⟩

theorem exists_passes_of_groupsFrom (split : groupsFrom a s = some (first, [])) :
    ∃ b, Passes (· == ',') a s b ∧ b.isClosed = true := by
  induction s generalizing a first with
  | nil =>
    rw [groupsFrom] at split
    split at split
    · rename_i closed
      exact ⟨a, .nil, closed⟩
    · simp at split
  | cons c rest ih =>
    rw [groupsFrom] at split
    split at split
    · simp at split
    · rename_i top next fed
      obtain ⟨⟨begun, others⟩, more, pair⟩ := Option.map_eq_some_iff.mp split
      simp only [] at pair
      split at pair
      · simp at pair
      · rename_i joins
        obtain ⟨_, rfl⟩ := Prod.mk.inj pair
        obtain ⟨b, passes, closed⟩ := ih more
        exact ⟨b, .cons fed (Bool.eq_false_iff.mpr joins) passes, closed⟩

/-! Chains do not end in an escape. -/

theorem endsEscaped_of_blank {escaped : Bool} (some : s ≠ []) (blank : ∀ c ∈ s, isBlank c = true) :
    endsEscaped escaped s = false := by
  induction s generalizing escaped with
  | nil => exact absurd rfl some
  | cons c rest ih =>
    obtain ⟨here, blank⟩ := List.forall_mem_cons.mp blank
    have other : (c == '\\') = false := by
      rw [beq_eq_false_iff_ne]
      rintro rfl
      exact absurd here (by decide)
    rw [endsEscaped, other, Bool.and_false]
    cases rest with
    | nil => rfl
    | cons next rest => exact ih (by simp) blank

theorem endsEscaped_trim (ends : endsEscaped false s = true) : endsEscaped false (trim s) = true := by
  obtain ⟨front, back, same, blankFront, blankBack⟩ := exists_around_trim s
  have begins : endsEscaped false front = false := by
    cases front with
    | nil => rfl
    | cons c rest => exact endsEscaped_of_blank (by simp) blankFront
  rw [same, endsEscaped_append, endsEscaped_append, begins] at ends
  cases back with
  | nil => exact ends
  | cons c rest => exact absurd ((endsEscaped_of_blank (by simp) blankBack).symm.trans ends) Bool.false_ne_true

/-- What stands before the parts is one of them, unless it is blank. -/
theorem exists_endsEscaped_of_consCompound {more : List ChainPart}
    (inside : (more = [] ∧ endsEscaped false first = true) ∨
      ∃ text, .compound text ∈ more ∧ endsEscaped false text = true) :
    ∃ text, .compound text ∈ consCompound first more ∧ endsEscaped false text = true := by
  rcases inside with ⟨rfl, ends⟩ | ⟨text, member, ends⟩
  · have trimmed := endsEscaped_trim ends
    have filled : trim first ≠ [] := by
      intro empty
      rw [empty] at trimmed
      exact Bool.false_ne_true trimmed
    exact ⟨trim first, by simp [consCompound, filled], trimmed⟩
  · refine ⟨text, ?_, ends⟩
    unfold consCompound
    split
    · exact member
    · exact List.mem_cons_of_mem _ member

/-- If a text ends in an escape, so does a compound selector in it, or what stands before the first part. -/
theorem exists_endsEscaped_of_partsFrom {more : List ChainPart} (split : partsFrom a s = some (first, more))
    (ends : endsEscaped a.escaped s = true) : (more = [] ∧ endsEscaped a.escaped first = true) ∨
      ∃ text, .compound text ∈ more ∧ endsEscaped false text = true := by
  induction s generalizing a first more with
  | nil =>
    rw [partsFrom] at split
    split at split
    · obtain ⟨rfl, rfl⟩ := Prod.mk.inj (Option.some.inj split)
      exact .inl ⟨rfl, ends⟩
    · simp at split
  | cons c rest ih =>
    rw [partsFrom] at split
    split at split
    · simp at split
    · rename_i top next fed
      obtain ⟨⟨begun, others⟩, later, pair⟩ := Option.map_eq_some_iff.mp split
      rw [endsEscaped, ← escaped_feed fed] at ends
      have inside := ih later ends
      -- A sign or a blank is no backslash, so that nothing is escaped behind it.
      have outside (apart : c ≠ '\\') := by
        have free : next.escaped = false := by simp [escaped_feed fed, apart]
        exact exists_endsEscaped_of_consCompound (free ▸ inside)
      simp only [] at pair
      split_ifs at pair with sign blank
      · obtain ⟨rfl, rfl⟩ := Prod.mk.inj pair
        obtain ⟨text, member, ends⟩ := outside (by rintro rfl; simp at sign)
        exact .inr ⟨text, List.mem_cons_of_mem _ member, ends⟩
      · obtain ⟨rfl, rfl⟩ := Prod.mk.inj pair
        exact .inr (outside (by rintro rfl; simp [show isBlank '\\' = false by decide] at blank))
      · obtain ⟨rfl, rfl⟩ := Prod.mk.inj pair
        refine inside.imp_left (And.imp_right fun ends => ?_)
        rw [endsEscaped, ← escaped_feed fed, ends]

theorem exists_compound_of_chainFrom {whole : List Char} {before : Option Chain} {sign : Option Combinator}
    {parts : List ChainPart} {found : Chain} (read : chainFrom readGroups whole before sign parts = .ok found)
    {text : List Char} (member : .compound text ∈ parts) : ∃ simples, compound readGroups text = .ok simples := by
  fun_induction chainFrom readGroups whole before sign parts with
  | case1 => cases member
  | case2 => cases member
  | case3 _ _ _ ih => exact ih read ((List.mem_cons.mp member).resolve_left (by simp))
  | case4 => simp [unsupported] at read
  | case5 _ part _ ih =>
    obtain ⟨simples, here, later⟩ := exists_of_bind_eq_ok read
    rcases List.mem_cons.mp member with same | member
    · exact ⟨simples, ChainPart.compound.inj same ▸ here⟩
    · exact ih simples later member
  | case6 _ _ part _ ih =>
    obtain ⟨simples, here, later⟩ := exists_of_bind_eq_ok read
    rcases List.mem_cons.mp member with same | member
    · exact ⟨simples, ChainPart.compound.inj same ▸ here⟩
    · exact ih simples later member

/-- In a text that is read as a chain everything is closed at the end. -/
theorem leads_of_chain {found : Chain} (read : Css.chain readGroups s = .ok found) :
    Passes (fun _ => false) {} s {} := by
  unfold Css.chain at read
  split at read
  · simp [unsupported] at read
  · rename_i parts split
    obtain ⟨⟨first, more⟩, found, rfl⟩ := Option.map_eq_some_iff.mp split
    obtain ⟨b, passes, closed⟩ := exists_passes_of_partsFrom found
    have outside : b.escaped = false := by
      rw [passes.escaped_eq, Bool.eq_false_iff]
      intro ends
      obtain ⟨text, member, ends⟩ := exists_endsEscaped_of_consCompound (exists_endsEscaped_of_partsFrom found ends)
      obtain ⟨simples, accepted⟩ := exists_compound_of_chainFrom read member
      exact Bool.false_ne_true ((endsEscaped_of_compound accepted).symm.trans ends)
    obtain ⟨brackets, parentheses, quote, escaped⟩ := b
    simp only [Nesting.isClosed, Bool.and_eq_true, beq_iff_eq, Option.isNone_iff_eq_none] at closed
    obtain ⟨⟨rfl, rfl⟩, rfl⟩ := closed
    obtain rfl : escaped = false := outside
    exact passes

/-! Parts that make a chain longer. -/

/-- A chain that goes on with combinators and compound selectors. -/
def Chain.extend (chain : Chain) (links : List (Combinator × List Simple)) : Chain :=
  links.foldl (fun before link => .link before link.1 link.2) chain

/-- Parts behind a chain make every chain longer in the same way. -/
theorem exists_links_of_chainFrom {whole : List Char} {before found : Chain} {sign : Option Combinator}
    {parts : List ChainPart} (read : chainFrom readGroups whole (some before) sign parts = .ok found) :
    ∃ links, found = before.extend links ∧
      ∀ start text, chainFrom readGroups text (some start) sign parts = .ok (start.extend links) := by
  induction parts generalizing before sign with
  | nil =>
    cases sign with
    | none => exact ⟨[], (Except.ok.inj read).symm, fun start text => rfl⟩
    | some _ => simp [chainFrom, unsupported] at read
  | cons part rest ih =>
    cases part with
    | sign c =>
      cases sign with
      | none => exact ih read
      | some _ => simp [chainFrom, unsupported] at read
    | compound text =>
      rw [chainFrom] at read
      obtain ⟨simples, here, later⟩ := exists_of_bind_eq_ok read
      obtain ⟨links, rfl, same⟩ := ih later
      refine ⟨(sign.getD .descendant, simples) :: links, rfl, fun start text => ?_⟩
      rw [chainFrom, here]
      exact same _ text

/-- A link to an element that is below the one it starts from. -/
def IsDownward (links : List (Combinator × List Simple)) : Prop :=
  ∃ combinator compound more, links = (combinator, compound) :: more ∧ (combinator = .child ∨ combinator = .descendant)

/-- Whether parts lead from an element to elements below it. -/
def leadDown : List ChainPart → Bool
  | .compound _ :: _ => true
  | .sign c :: _ => c == '>'
  | [] => false

theorem exists_downward_of_chainFrom {whole : List Char} {before found : Chain} {parts : List ChainPart}
    (down : leadDown parts = true) (read : chainFrom readGroups whole (some before) none parts = .ok found) :
    ∃ links, IsDownward links ∧ found = before.extend links ∧
      ∀ start text, chainFrom readGroups text (some start) none parts = .ok (start.extend links) := by
  have begins {sign : Option Combinator} {text : List Char} {rest : List ChainPart}
      (downward : sign.getD .descendant = .child ∨ sign.getD .descendant = .descendant)
      (read : chainFrom readGroups whole (some before) sign (.compound text :: rest) = .ok found) :
      ∃ links, IsDownward links ∧ found = before.extend links ∧
        ∀ start other,
          chainFrom readGroups other (some start) sign (.compound text :: rest) = .ok (start.extend links) := by
    rw [chainFrom] at read
    obtain ⟨simples, here, later⟩ := exists_of_bind_eq_ok read
    obtain ⟨links, rfl, same⟩ := exists_links_of_chainFrom later
    refine ⟨(sign.getD .descendant, simples) :: links, ⟨_, _, _, rfl, downward⟩, rfl, fun start other => ?_⟩
    rw [chainFrom, here]
    exact same _ other
  cases parts with
  | nil => exact absurd down Bool.false_ne_true
  | cons part parts =>
    cases part with
    | compound text => exact begins (.inr rfl) read
    | sign c =>
      obtain rfl := beq_iff_eq.mp down
      cases parts with
      | nil => simp [chainFrom, unsupported] at read
      | cons part parts =>
        cases part with
        | sign d => simp [chainFrom, unsupported] at read
        | compound text => exact begins (.inl rfl) read

/-! Texts behind a gap. -/

/-- A gap between a chain and what makes it longer: blanks, of which there may be none before a sign. -/
structure Gap (gap rest : List Char) : Prop where
  blank : ∀ c ∈ gap, isBlank c = true
  apart : gap ≠ [] ∨ rest.head? = some '>'

theorem Gap.partsFrom_eq {gap : List Char} {more : List ChainPart} (between : Gap gap rest)
    (split : partsFrom {} rest = some (first, more)) :
    partsFrom {} (gap ++ rest) = some ([], consCompound first more) := by
  cases gap with
  | nil =>
    obtain ⟨tail, rfl⟩ := List.head?_eq_some_iff.mp (between.apart.resolve_left (by simp))
    have fed : Nesting.feed {} '>' = some (true, {}) := rfl
    rw [List.nil_append, split]
    rw [partsFrom, fed] at split
    obtain ⟨⟨begun, others⟩, _, pair⟩ := Option.map_eq_some_iff.mp split
    obtain ⟨rfl, rfl⟩ := Prod.mk.inj pair
    rfl
  | cons c gap =>
    obtain ⟨here, blank⟩ := List.forall_mem_cons.mp between.blank
    obtain ⟨begun, others, found, same⟩ := partsFrom_blanks blank split
    rw [List.cons_append, partsFrom_blank_cons here found, same]

theorem exists_partsFrom_of_append {p : Char → Bool} {found : List Char × List ChainPart} (passes : Passes p a s b)
    (split : partsFrom a (s ++ rest) = some found) : ∃ later, partsFrom b rest = some later := by
  induction passes generalizing found with
  | nil => exact ⟨found, split⟩
  | cons fed _ _ ih =>
    rw [List.cons_append, partsFrom, fed] at split
    obtain ⟨later, more, _⟩ := Option.map_eq_some_iff.mp split
    exact ih more

/-- A text that begins a compound selector, or with the sign for children. -/
def BeginsDown (rest : List Char) : Prop := ∃ c tail, rest = c :: tail ∧ isBlank c = false ∧ c ≠ '+' ∧ c ≠ '~'

theorem BeginsDown.leadDown {more : List ChainPart} (begins : BeginsDown rest)
    (split : partsFrom {} rest = some (first, more)) : leadDown (consCompound first more) = true := by
  obtain ⟨c, tail, rfl, dark, noPlus, noTilde⟩ := begins
  rw [partsFrom] at split
  split at split
  · simp at split
  · rename_i top next fed
    obtain ⟨⟨begun, others⟩, _, pair⟩ := Option.map_eq_some_iff.mp split
    simp only [dark, Bool.and_false, Bool.false_eq_true, if_false] at pair
    split at pair
    · rename_i sign
      obtain ⟨rfl, rfl⟩ := Prod.mk.inj pair
      obtain rfl : c = '>' := by simpa [noPlus, noTilde] using (Bool.and_eq_true_iff.mp sign).2
      rfl
    · obtain ⟨rfl, rfl⟩ := Prod.mk.inj pair
      have none : ∀ b ∈ [], isBlank b = true := by simp
      have filled : trim (c :: begun) = c :: trimEnd begun := trim_append_cons none dark
      rw [consCompound, filled]
      rfl

/-- A chain that is read behind another one makes every chain longer in the same way. -/
theorem exists_links_of_chain {gap : List Char} {before whole : Chain} (between : Gap gap rest)
    (begins : BeginsDown rest) (readFirst : Css.chain readGroups s = .ok before)
    (readWhole : Css.chain readGroups (s ++ (gap ++ rest)) = .ok whole) :
    ∃ links, IsDownward links ∧ whole = before.extend links ∧
      ∀ text start gap, Css.chain readGroups text = .ok start → Gap gap rest →
        Css.chain readGroups (text ++ (gap ++ rest)) = .ok (start.extend links) := by
  obtain ⟨⟨first, more⟩, split⟩ : ∃ later, partsFrom {} rest = some later := by
    unfold Css.chain at readWhole
    split at readWhole
    · simp [unsupported] at readWhole
    · rename_i splitWhole
      obtain ⟨found, splitWhole, _⟩ := Option.map_eq_some_iff.mp splitWhole
      obtain ⟨later, split⟩ := exists_partsFrom_of_append (leads_of_chain readFirst) splitWhole
      exact exists_partsFrom_of_append (passes_blanks (fun _ _ => rfl) between.blank) split
  have joined {text gap : List Char} {start : Chain} (read : Css.chain readGroups text = .ok start)
      (between : Gap gap rest) :
      Css.chain readGroups (text ++ (gap ++ rest)) =
        chainFrom readGroups (text ++ (gap ++ rest)) (some start) none (consCompound first more) := by
    have linked := partsFrom_leads (leads_of_chain read) rfl (between.partsFrom_eq split)
    unfold Css.chain at read ⊢
    split at read
    · simp [unsupported] at read
    · rename_i parts splitText
      obtain ⟨⟨begun, others⟩, found, rfl⟩ := Option.map_eq_some_iff.mp splitText
      have parts : parts? (text ++ (gap ++ rest)) = some (consCompound begun others ++ consCompound first more) := by
        rw [parts?, linked, found]
        exact congrArg some (consCompound_append ..)
      rw [parts]
      exact chainFrom_append read _ _
  rw [joined readFirst between] at readWhole
  obtain ⟨links, downward, same, again⟩ := exists_downward_of_chainFrom (begins.leadDown split) readWhole
  exact ⟨links, downward, same, fun text start gap read between => (joined read between).trans (again start _)⟩

/-! Whole texts. -/

/-- In a text that is read as a single chain no comma separates, and everything is closed at the end. -/
theorem passes_of_single {depth : Nat} {found : Chain} (read : chainsTo (depth + 1) s = .ok [found]) :
    Passes (· == ',') {} s {} := by
  obtain ⟨groups, _, here⟩ := chainsTo_single read
  obtain ⟨b, passes, _⟩ := exists_passes_of_groupsFrom groups
  obtain ⟨front, back, same, blankFront, blankBack⟩ := exists_around_trim s
  have around : Passes (fun _ => false) {} s {} := by
    rw [same]
    exact ((passes_blanks (fun _ _ => rfl) blankFront).append (leads_of_chain here)).append
      (passes_blanks (fun _ _ => rfl) blankBack)
  exact around.unique passes ▸ passes

theorem groupsFrom_of_append (passes : Passes (· == ',') {} s {})
    (single : groupsFrom {} (s ++ rest) = some (s ++ rest, [])) : groupsFrom {} rest = some (rest, []) := by
  rw [groupsFrom_append passes] at single
  obtain ⟨⟨first, more⟩, found, pair⟩ := Option.map_eq_some_iff.mp single
  obtain ⟨same, rfl⟩ := Prod.mk.inj pair
  rw [found, List.append_cancel_left same]

/-- The text by which a native selector is asked for from an element: `:scope` and the selector, with a blank between
them unless it begins with the sign for children. -/
def anchored (rest : String) : String := if rest.toList.head? = some '>' then ":scope" ++ rest else ":scope " ++ rest

/-- A native selector leads to elements below another if it begins with a compound selector or the sign for children. -/
def LeadsDown (rest : String) : Prop := BeginsDown (trimStart rest.toList)

theorem LeadsDown.exists_split {rest : String} (leads : LeadsDown rest) : ∃ front c tail,
    rest.toList = front ++ c :: tail ∧ (∀ b ∈ front, isBlank b = true) ∧ isBlank c = false ∧
      ∀ text, BeginsDown (c :: text) := by
  obtain ⟨c, tail, begins, dark, down⟩ := leads
  refine ⟨rest.toList.takeWhile isBlank, c, tail, ?_, fun b member => List.mem_takeWhile_imp member, dark,
    fun text => ⟨c, text, rfl, dark, down⟩⟩
  rw [← begins]
  exact List.takeWhile_append_dropWhile.symm

/-- Between dark characters nothing is trimmed. -/
theorem trim_between {front text gap tail : List Char} {c d : Char} (blank : ∀ b ∈ front, isBlank b = true)
    (first : isBlank d = false) (last : isBlank c = false) :
    trim (front ++ ((d :: text) ++ (gap ++ c :: tail))) = (d :: text) ++ (gap ++ c :: trimEnd tail) := by
  rw [List.cons_append, trim_append_cons blank first, ← List.append_assoc, trimEnd_append_cons last, List.append_assoc,
    List.cons_append]

/-- A text that is trimmed with more text behind a blank: the text trimmed, a gap and what is behind it. -/
theorem exists_gap_of_trim {front : List Char} {c : Char} (filled : trim s ≠ [])
    (blank : ∀ b ∈ front, isBlank b = true) (dark : isBlank c = false) (tail : List Char) :
    ∃ gap, Gap gap (c :: trimEnd tail) ∧
      trim (s ++ ' ' :: (front ++ c :: tail)) = trim s ++ (gap ++ c :: trimEnd tail) := by
  obtain ⟨before, after, around, blankBefore, blankAfter⟩ := exists_around_trim s
  obtain ⟨d, text, trimmed, first, _⟩ := (eq_nil_or_dark_of_trim (trim_trim s)).resolve_left filled
  refine ⟨after ++ ' ' :: front, ⟨?_, .inl (by simp)⟩, ?_⟩
  · exact List.forall_mem_append.mpr ⟨blankAfter, List.forall_mem_cons.mpr ⟨by decide, blank⟩⟩
  · have parts : s ++ ' ' :: (front ++ c :: tail) =
        before ++ ((d :: text) ++ ((after ++ ' ' :: front) ++ c :: tail)) := by
      conv_lhs => rw [around, trimmed]
      simp
    rw [parts, trim_between blankBefore first dark, trimmed]

/-- The text that is asked for from an element is `:scope`, a gap and what is behind it, and no comma separates in
it. -/
theorem exists_gap_of_anchored {rest : String} {front tail : List Char} {c : Char}
    (split : rest.toList = front ++ c :: tail) (blank : ∀ b ∈ front, isBlank b = true)
    (single : groupsFrom {} (' ' :: rest.toList) = some (' ' :: rest.toList, [])) :
    ∃ gap, (∀ text, Gap gap (c :: text)) ∧ (anchored rest).toList = ":scope".toList ++ (gap ++ c :: tail) ∧
      groupsFrom {} (gap ++ c :: tail) = some (gap ++ c :: tail, []) := by
  by_cases child : rest.toList.head? = some '>'
  · obtain rfl : front = [] := by
      cases front with
      | nil => rfl
      | cons b front =>
        rw [split] at child
        obtain rfl := Option.some.inj child
        exact absurd (blank '>' List.mem_cons_self) (by decide)
    have sign : some c = some '>' := (congrArg List.head? split).symm.trans child
    refine ⟨[], fun text => ⟨by simp, .inr sign⟩, ?_, ?_⟩
    · rw [anchored, if_pos child, String.toList_append, split]
    · exact split ▸ groupsFrom_of_append (passes_blanks comma_dark (s := [' ']) (by decide)) single
  · rw [split] at single
    refine ⟨' ' :: front, fun text => ⟨List.forall_mem_cons.mpr ⟨by decide, blank⟩, .inl (by simp)⟩, ?_, single⟩
    rw [anchored, if_neg child, String.toList_append, split]
    rfl

theorem chain_scope : Css.chain readGroups ":scope".toList = .ok (.single [.structural .scope]) := rfl

/-- Where a chain is read, and with more text behind a blank another one, the text behind makes the chain longer, and
it makes `:scope` longer in the same way. -/
theorem read_anchored_links {first rest : String} {before whole : Chain} (leads : LeadsDown rest)
    (readFirst : read first = .ok [before]) (readWhole : read (first ++ " " ++ rest) = .ok [whole]) :
    ∃ links, IsDownward links ∧ whole = before.extend links ∧
      read (anchored rest) = .ok [(Chain.single [.structural .scope]).extend links] := by
  obtain ⟨front, c, tail, split, blank, dark, begins⟩ := leads.exists_split
  obtain ⟨_, filled, chainFirst⟩ := chainsTo_single readFirst
  obtain ⟨groups, _, chainWhole⟩ := chainsTo_single readWhole
  have joined : (first ++ " " ++ rest).toList = first.toList ++ ' ' :: rest.toList := by simp
  have short : (trim first.toList).length ≤ (first ++ " " ++ rest).length := by
    refine (length_trim_le _).trans ?_
    rw [← String.length_toList, joined, List.length_append]
    exact Nat.le_add_right _ _
  rw [joined] at groups chainWhole
  obtain ⟨gap, between, wholeText⟩ := exists_gap_of_trim filled blank dark tail
  rw [split, wholeText] at chainWhole
  obtain ⟨links, downward, same, again⟩ :=
    exists_links_of_chain between (begins _) (chain_enough short chainFirst) chainWhole
  refine ⟨links, downward, same, ?_⟩
  -- The same links behind `:scope`.
  obtain ⟨spaces, apart, anchor, single⟩ :=
    exists_gap_of_anchored split blank (groupsFrom_of_append (passes_of_single readFirst) groups)
  have trimmed : trim (anchored rest).toList = ":scope".toList ++ (spaces ++ c :: trimEnd tail) := by
    have none : ∀ b ∈ [], isBlank b = true := by simp
    rw [anchor]
    exact trim_between none (show isBlank ':' = false by decide) dark
  have chainAnchor : Css.chain (chainsTo (anchored rest).length) (trim (anchored rest).toList) =
      .ok ((Chain.single [.structural .scope]).extend links) :=
    chain_enough (length_trim_le _) (trimmed ▸ again _ _ spaces chain_scope (apart _))
  refine chainsTo_of_single ?_ (by simp [trimmed]) chainAnchor
  have scope : read ":scope" = .ok [.single [.structural .scope]] := rfl
  rw [anchor, groupsFrom_append (passes_of_single scope), single]
  rfl

end CosmeticRules.Css
