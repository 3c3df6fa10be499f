import CosmeticRules.Pattern.Plain.Syntax

/-!
How much room a plain pattern takes, as an estimate in bytes of an automaton that reads the bytes of a text.
Repetitions count as often as they have to be written out. Patterns beyond a limit are refused.
-/

namespace CosmeticRules

namespace CharSet

/-- A state with one way on. -/
def stateSize : Nat := 32

/-- A set of so many ranges of characters that take several bytes. -/
def rangesSize (ranges : Nat) : Nat := 320 + 58 * ranges

def size : CharSet → Nat
  | empty => stateSize
  | one c => stateSize * c.utf8Size
  | anyCase c => stateSize * c.utf8Size + 8
  | range _ last => if last.toNat < 128 then stateSize + 8 else rangesSize 1
  | digits => rangesSize 70
  | blanks => rangesSize 10
  | wordChars => rangesSize 770
  | edges list => rangesSize (list.length >>> 1)
  | all => rangesSize 1
  | union s t | intersection s t | difference s t | symmetricDifference s t => s.size + t.size
  | complement s => s.size + rangesSize 1
  | folded s => s.size

end CharSet

namespace Pattern.Plain

def size : Plain → Nat
  | empty | anchor _ => CharSet.stateSize
  | char set => set.size
  | sequence p q => p.size + q.size
  | either p q => p.size + q.size + CharSet.stateSize
  | repeated p least most _ => (p.size + CharSet.stateSize) * max 1 (most.getD least)

def sizeLimit : Nat := 10 * 1024 * 1024

end Pattern.Plain

end CosmeticRules
