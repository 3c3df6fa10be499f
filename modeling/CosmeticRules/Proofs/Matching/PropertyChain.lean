import CosmeticRules.Matching.Argument
import CosmeticRules.Proofs.Matching.Selected

/-!
Chains of property names are read as they are written: one matcher for each link, in order. The dots in a pattern
belong to it, as long as the last character of the pattern is another one: what follows the last dot is then the slash
that closes the pattern, and it is taken for one that opens another.
-/

namespace CosmeticRules.Matching

open Text

/-- A link of a chain of property names as it is written: a name, or what stands between the slashes of a pattern. -/
inductive ChainLink
  | name (text : List Char)
  | pattern (body : List Char)

namespace ChainLink

def print : ChainLink → List Char
  | name text => text
  | pattern body => '/' :: (body ++ ['/'])

/-- What a link asks for: a plain name for itself, and a pattern without slashes for what the pattern is read as. -/
inductive Means : ChainLink → Matcher → Prop
  | name {text : List Char} (filled : text ≠ []) (plain : Matcher.isPlain text = true) :
      Means (.name text) (.literal text)
  | pattern {body : List Char} {p : Pattern} (filled : body ≠ []) (slashless : '/' ∉ body)
      (read : Pattern.read {} body = .ok p) : Means (.pattern body) (.pattern p)

/-- Whether a link is a pattern whose last character is a dot. -/
def endsInDot : ChainLink → Bool
  | name _ => false
  | pattern body => body.getLast? == some '.'

end ChainLink

/-- The text of a chain: its links with dots between them. -/
def printChain (links : List ChainLink) : List Char := joinWith ['.'] (links.map ChainLink.print)

/-! What a chain is split into. -/

theorem splitOn_dot_append (s t : List Char) : (s ++ '.' :: t).splitOn '.' = s.splitOn '.' ++ t.splitOn '.' :=
  List.splitOnP_append_cons s t (by decide)

theorem splitOn_dot_cons {s : List Char} (fresh : '.' ∉ s) (t : List Char) :
    (s ++ '.' :: t).splitOn '.' = s :: t.splitOn '.' := by
  rw [splitOn_dot_append, List.splitOn_eq_singleton fresh, List.singleton_append]

theorem printChain_cons (link next : ChainLink) (rest : List ChainLink) :
    printChain (link :: next :: rest) = link.print ++ '.' :: printChain (next :: rest) := by
  simp [printChain, joinWith, List.intercalate]

theorem splitOn_printChain {links : List ChainLink} (filled : links ≠ []) :
    (printChain links).splitOn '.' = links.flatMap fun link => link.print.splitOn '.' := by
  induction links with
  | nil => exact absurd rfl filled
  | cons link rest ih =>
    cases rest with
    | nil => simp [printChain, joinWith]
    | cons next more => rw [printChain_cons, splitOn_dot_append, ih (by simp), List.flatMap_cons (x := link)]

theorem Matcher.not_mem_of_isPlain {s : List Char} (plain : isPlain s = true) {c : Char} (mark : isPlain [c] = false) :
    c ∉ s := by
  intro member
  have holds := List.all_eq_true.mp plain c member
  simp_all [isPlain]

theorem getLast?_cons_concat (c d : Char) (s : List Char) : (c :: (s ++ [d])).getLast? = some d := by
  rw [← List.cons_append, List.getLast?_concat]

namespace ChainDraft

theorem add_name {links : List (List Char)} {chunk : List Char} (filled : chunk ≠ []) (slashless : '/' ∉ chunk) :
    add ⟨links, []⟩ chunk = ⟨links ++ [chunk], []⟩ := by
  obtain ⟨c, rest, rfl⟩ := List.exists_cons_of_ne_nil filled
  have other : c ≠ '/' := fun same => slashless (by simp [same])
  simp [add, isSlashed, other]

theorem add_whole {body : List Char} (filled : body ≠ []) (draft : ChainDraft) :
    add draft ('/' :: (body ++ ['/'])) = { draft with links := draft.links ++ ['/' :: (body ++ ['/'])] } := by
  simp [add, isSlashed, getLast?_cons_concat, filled]

theorem add_opening {chunk : List Char} (slashless : '/' ∉ chunk) (draft : ChainDraft) :
    add draft ('/' :: chunk) = { draft with opened := draft.opened ++ '/' :: chunk } := by
  cases chunk with
  | nil => rfl
  | cons c rest =>
    have last : (c :: rest).getLast? ≠ some '/' := fun same => slashless (List.mem_of_mem_getLast? same)
    simp [add, isSlashed, List.getLast?_cons_cons, last]

/-- Within a pattern, a part without slashes belongs to it. -/
theorem add_inner {draft : ChainDraft} (begun : draft.opened ≠ []) {chunk : List Char} (slashless : '/' ∉ chunk) :
    add draft chunk = { draft with opened := draft.opened ++ '.' :: chunk } := by
  have first : chunk.head? ≠ some '/' := fun same => slashless (List.mem_of_mem_head? same)
  have last : chunk.getLast? ≠ some '/' := fun same => slashless (List.mem_of_mem_getLast? same)
  simp [add, isSlashed, first, last, begun]

theorem add_closing {draft : ChainDraft} (begun : draft.opened ≠ []) {chunk : List Char} (filled : chunk ≠ [])
    (slashless : '/' ∉ chunk) :
    add draft (chunk ++ ['/']) = ⟨draft.links ++ [draft.opened ++ '.' :: (chunk ++ ['/'])], []⟩ := by
  obtain ⟨c, rest, rfl⟩ := List.exists_cons_of_ne_nil filled
  have other : c ≠ '/' := fun same => slashless (by simp [same])
  simp [add, isSlashed, other, begun, getLast?_cons_concat]

theorem length_links_add_le (draft : ChainDraft) (chunk : List Char) :
    (add draft chunk).links.length ≤ draft.links.length + 1 := by
  unfold add
  split_ifs <;> simp

/-- What follows the first dot of a pattern closes it, unless the slash comes right behind a dot: then it is taken for
one that opens a pattern. -/
theorem foldl_add_rest {rest : List Char} (slashless : '/' ∉ rest) (draft : ChainDraft) (begun : draft.opened ≠ []) :
    if ('.' :: rest).getLast? = some '.' then (((rest ++ ['/']).splitOn '.').foldl add draft).links = draft.links
    else ((rest ++ ['/']).splitOn '.').foldl add draft =
      ⟨draft.links ++ [draft.opened ++ '.' :: (rest ++ ['/'])], []⟩ := by
  by_cases dotted : '.' ∈ rest
  · obtain ⟨first, more, rfl, fresh⟩ := List.eq_append_cons_of_mem dotted
    have inner : '/' ∉ first := fun member => slashless (by simp [member])
    have later : '/' ∉ more := fun member => slashless (by simp [member])
    have ih := foldl_add_rest later { draft with opened := draft.opened ++ '.' :: first } (by simp)
    have last : ('.' :: (first ++ '.' :: more)).getLast? = ('.' :: more).getLast? := by
      rw [← List.cons_append, List.getLast?_append_of_ne_nil _ (by simp)]
    rw [last, List.append_assoc, List.cons_append, splitOn_dot_cons fresh, List.foldl_cons, add_inner begun inner]
    simpa only [List.append_assoc, List.cons_append] using ih
  · have fresh : '.' ∉ rest ++ ['/'] := by simpa using dotted
    rw [List.splitOn_eq_singleton fresh, List.foldl_cons, List.foldl_nil]
    rcases List.eq_nil_or_concat rest with rfl | ⟨front, c, rfl⟩
    · rfl
    · have other : c ≠ '.' := fun same => dotted (by simp [same])
      have last : ('.' :: front.concat c).getLast? ≠ some '.' := by
        rw [List.concat_eq_append, ← List.cons_append, List.getLast?_concat]
        simpa using other
      rw [if_neg last]
      exact add_closing begun (by simp) slashless
termination_by rest.length

/-- The parts of a pattern with a dot, read after any other parts: the first opens it. -/
theorem foldl_add_dotted {body : List Char} (slashless : '/' ∉ body) (dotted : '.' ∈ body) (draft : ChainDraft) :
    let after := ((ChainLink.pattern body).print.splitOn '.').foldl add draft
    if body.getLast? = some '.' then after.links = draft.links
    else after = ⟨draft.links ++ [draft.opened ++ (ChainLink.pattern body).print], []⟩ := by
  obtain ⟨first, rest, rfl, fresh⟩ := List.eq_append_cons_of_mem dotted
  have inner : '/' ∉ first := fun member => slashless (by simp [member])
  have later : '/' ∉ rest := fun member => slashless (by simp [member])
  have text : (ChainLink.pattern (first ++ '.' :: rest)).print = '/' :: first ++ '.' :: (rest ++ ['/']) := by
    simp [ChainLink.print]
  have run := foldl_add_rest later { draft with opened := draft.opened ++ '/' :: first } (by simp)
  simp only [List.getLast?_append_of_ne_nil first (List.cons_ne_nil '.' rest)]
  rw [text, splitOn_dot_cons (by simpa using fresh), List.foldl_cons, add_opening inner]
  simpa only [List.append_assoc, List.cons_append] using run

variable {link : ChainLink} {m : Matcher}

/-- A link adds itself to the links before it, unless it is a pattern that ends in a dot. -/
theorem foldl_add_print (means : link.Means m) (closed : link.endsInDot = false) (links : List (List Char)) :
    (link.print.splitOn '.').foldl add ⟨links, []⟩ = ⟨links ++ [link.print], []⟩ := by
  cases means with
  | name filled plain =>
    rw [ChainLink.print, List.splitOn_eq_singleton (Matcher.not_mem_of_isPlain plain rfl)]
    exact add_name filled (Matcher.not_mem_of_isPlain plain rfl)
  | @pattern body p filled slashless read =>
    by_cases dotted : '.' ∈ body
    · have run := foldl_add_dotted slashless dotted ⟨links, []⟩
      rwa [if_neg (by simpa [ChainLink.endsInDot] using closed)] at run
    · have fresh : '.' ∉ '/' :: (body ++ ['/']) := by simpa using dotted
      rw [ChainLink.print, List.splitOn_eq_singleton fresh]
      exact add_whole filled _

/-- A link adds one link at most, and none if it is a pattern that ends in a dot. -/
theorem length_links_foldl_add_print (means : link.Means m) (draft : ChainDraft) :
    ((link.print.splitOn '.').foldl add draft).links.length + (if link.endsInDot then 1 else 0) ≤
      draft.links.length + 1 := by
  cases means with
  | name filled plain =>
    rw [ChainLink.print, List.splitOn_eq_singleton (Matcher.not_mem_of_isPlain plain rfl)]
    exact length_links_add_le draft _
  | @pattern body p filled slashless read =>
    by_cases dotted : '.' ∈ body
    · have run := foldl_add_dotted slashless dotted draft
      by_cases last : body.getLast? = some '.'
      · simp only [last, if_true] at run
        simp [ChainLink.endsInDot, last, run]
      · simp only [last, if_false] at run
        simp [ChainLink.endsInDot, last, run]
    · have fresh : '.' ∉ '/' :: (body ++ ['/']) := by simpa using dotted
      have last : body.getLast? ≠ some '.' := fun same => dotted (List.mem_of_mem_getLast? same)
      rw [ChainLink.print, List.splitOn_eq_singleton fresh]
      simpa [ChainLink.endsInDot, last] using length_links_add_le draft _

variable {links : List ChainLink} {matchers : List Matcher}

theorem foldl_add_chain (means : List.Forall₂ ChainLink.Means links matchers)
    (closed : ∀ link ∈ links, link.endsInDot = false) (before : List (List Char)) :
    (links.flatMap fun link => link.print.splitOn '.').foldl add ⟨before, []⟩ =
      ⟨before ++ links.map ChainLink.print, []⟩ := by
  induction means generalizing before with
  | nil => simp
  | cons first rest ih =>
    obtain ⟨head, tail⟩ := List.forall_mem_cons.mp closed
    rw [List.flatMap_cons, List.foldl_append, foldl_add_print first head, ih tail, List.map_cons, List.append_assoc,
      List.singleton_append]

/-- For every pattern that ends in a dot, a link is missing. -/
theorem length_links_foldl_add_chain (means : List.Forall₂ ChainLink.Means links matchers) (draft : ChainDraft) :
    ((links.flatMap fun link => link.print.splitOn '.').foldl add draft).links.length +
      links.countP ChainLink.endsInDot ≤ draft.links.length + links.length := by
  induction means generalizing draft with
  | nil => simp
  | @cons link _ _ _ first _ ih =>
    rw [List.flatMap_cons, List.foldl_append, List.countP_cons, List.length_cons]
    have head := length_links_foldl_add_print first draft
    have tail := ih ((link.print.splitOn '.').foldl add draft)
    omega

end ChainDraft

/-! What the links are read as. -/

theorem strip_of_head? {quote : Char} {s : List Char} (other : s.head? ≠ some quote) : strip quote s = s := by
  simp [strip, other]

theorem strip_slashes (body : List Char) : strip '/' ('/' :: (body ++ ['/'])) = body := by
  simp [strip, getLast?_cons_concat]

namespace ChainLink

variable {link : ChainLink} {m : Matcher}

theorem Means.print_ne_nil (means : link.Means m) : link.print ≠ [] := by
  cases means with
  | name filled _ => exact filled
  | pattern => simp [print]

theorem Means.head?_print (means : link.Means m) : link.print.head? ≠ some '"' := by
  cases means with
  | name _ plain => exact fun same => Matcher.not_mem_of_isPlain plain rfl (List.mem_of_mem_head? same)
  | pattern => simp [print]

/-- A link by itself is read as the matcher that it asks for. -/
theorem Means.read_of_print (means : link.Means m) : Matcher.read true link.print = .ok m := by
  unfold Matcher.read
  rw [strip_of_head? means.head?_print]
  cases means with
  | @name text filled plain =>
    have first : text.head? ≠ some '/' := fun same =>
      Matcher.not_mem_of_isPlain plain rfl (List.mem_of_mem_head? same)
    have star : '*' ∉ text := Matcher.not_mem_of_isPlain plain rfl
    simp [print, isSlashed, first, filled, star, plain]
  | @pattern body p filled slashless read =>
    simp [print, isSlashed, getLast?_cons_concat, filled, strip_slashes, Matcher.readPattern, read, Except.map, Except.mapError]

end ChainLink

/-! What a chain is read as. -/

theorem head?_printChain {links : List ChainLink} {matchers : List Matcher}
    (means : List.Forall₂ ChainLink.Means links matchers) : (printChain links).head? ≠ some '"' := by
  cases means with
  | nil => simp [printChain, joinWith]
  | @cons link _ rest _ first _ =>
    cases rest with
    | nil => simpa [printChain, joinWith] using first.head?_print
    | cons next more =>
      rw [printChain_cons, List.head?_append_of_ne_nil _ first.print_ne_nil]
      exact first.head?_print

theorem chainLinks?_printChain {links : List ChainLink} {matchers : List Matcher} (filled : links ≠ [])
    (means : List.Forall₂ ChainLink.Means links matchers) (closed : ∀ link ∈ links, link.endsInDot = false) :
    chainLinks? (printChain links) = some (links.map ChainLink.print) := by
  rw [chainLinks?, splitOn_printChain filled, ChainDraft.foldl_add_chain means closed]
  rfl

theorem length_chainLinks? {links : List ChainLink} {matchers : List Matcher} (filled : links ≠ [])
    (means : List.Forall₂ ChainLink.Means links matchers) {found : List (List Char)}
    (split : chainLinks? (printChain links) = some found) :
    found.length + links.countP ChainLink.endsInDot ≤ links.length := by
  rw [chainLinks?, splitOn_printChain filled] at split
  obtain ⟨_, same⟩ := Option.ite_none_right_eq_some.mp split
  obtain rfl := Option.some.inj same
  simpa using ChainDraft.length_links_foldl_add_chain means ⟨[], []⟩

/-- A chain of names and patterns with dots between them is read as one matcher for each link, in order: a name as
itself, and a pattern as what the text between its slashes is read as. This holds as long as none of the patterns ends
in a dot, and for no other chain. -/
theorem readChain_printChain {links : List ChainLink} {matchers : List Matcher} (filled : links ≠ [])
    (means : List.Forall₂ ChainLink.Means links matchers) :
    (readChain (printChain links)).result = .ok matchers ↔ ∀ link ∈ links, link.endsInDot = false := by
  unfold readChain
  simp only [strip_of_head? (head?_printChain means)]
  constructor
  · intro read
    split at read
    case h_1 => cases read
    case h_2 found split =>
      have bound := length_chainLinks? filled means split
      have length := (Logged.results_mapM read).length_eq
      have same := means.length_eq
      have none : links.countP ChainLink.endsInDot = 0 := by omega
      simpa using List.countP_eq_zero.mp none
  · intro closed
    rw [chainLinks?_printChain filled means closed]
    refine Logged.result_mapM_eq_ok_iff.mpr (List.forall₂_map_left_iff.mpr (means.imp fun link m means => ?_))
    simp [means.print_ne_nil, means.read_of_print, Except.mapError]

/-- A name, a pattern with dots at its start and in its middle, another name and a pattern without dots. -/
theorem readChain_printChain_innerDots :
    ∃ p q : Pattern, Pattern.read {} ".a..b\\.c".toList = .ok p ∧ Pattern.read {} "^d$".toList = .ok q ∧
      (readChain "inner-1./.a..b\\.c/._test./^d$/".toList).result =
        .ok [.literal "inner-1".toList, .pattern p, .literal "_test".toList, .pattern q] := by
  have dots : (Pattern.read {} ".a..b\\.c".toList).isOk = true := by decide +kernel
  have plain : (Pattern.read {} "^d$".toList).isOk = true := by decide +kernel
  obtain ⟨p, first⟩ := exists_of_isOk dots
  obtain ⟨q, second⟩ := exists_of_isOk plain
  have means : List.Forall₂ ChainLink.Means
      [.name "inner-1".toList, .pattern ".a..b\\.c".toList, .name "_test".toList, .pattern "^d$".toList]
      [.literal "inner-1".toList, .pattern p, .literal "_test".toList, .pattern q] :=
    .cons (.name (by decide) (by decide)) (.cons (.pattern (by decide) (by decide) first)
      (.cons (.name (by decide) (by decide)) (.cons (.pattern (by decide) (by decide) second) .nil)))
  exact ⟨p, q, first, second, (readChain_printChain (by decide) means).mpr (by decide)⟩

/-- The dot at the end of a pattern is not kept: the slash behind it is taken for the start of another pattern. -/
theorem readChain_dot_before_slash :
    ¬∀ (links : List ChainLink) (matchers : List Matcher), links ≠ [] → List.Forall₂ ChainLink.Means links matchers →
      (readChain (printChain links)).result = .ok matchers := by
  intro every
  have right : (Pattern.read {} "a.".toList).isOk = true := by decide +kernel
  obtain ⟨p, read⟩ := exists_of_isOk right
  have means : List.Forall₂ ChainLink.Means [.pattern "a.".toList] [.pattern p] :=
    .cons (.pattern (by decide) (by decide) read) .nil
  have same := every _ _ (by decide) means
  have refused : (readChain (printChain [.pattern "a.".toList])).result = .error (.openChain "/a./") := by
    decide +kernel
  cases refused.symm.trans same

end CosmeticRules.Matching
