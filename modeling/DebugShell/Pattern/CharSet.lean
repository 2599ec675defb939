import DebugShell.Text.CaseFold
import DebugShell.Text.Property

/-!
# Sets of characters

The sets that patterns are built from: ranges, the classes of the Unicode standard, their
combinations, and what is reached from a set by changing the case of letters.
-/

namespace DebugShell.Pattern

/-- A set of characters. -/
inductive CharSet where
  /-- No characters. -/
  | empty
  /-- The characters from one to another. -/
  | range (low high : Char)
  /-- The characters whose codes lie in one of some ranges. -/
  | codes (ranges : List (Nat × Nat))
  /-- The characters of a class of the Unicode standard. -/
  | property (kind : Text.Property)
  /-- What is in one of two sets or in both. -/
  | union (left right : CharSet)
  /-- What is in both of two sets. -/
  | inter (left right : CharSet)
  /-- What is not in a set. -/
  | compl (set : CharSet)
  /-- The characters that differ from one in a set at most in case. -/
  | anyCase (set : CharSet)
  /-- The characters that differ from one in a set at most in the case of an ASCII letter. -/
  | anyAsciiCase (set : CharSet)
  deriving DecidableEq, Repr

namespace CharSet

/-- A set of one character. -/
def single (c : Char) : CharSet := .range c c

/-- The set of all characters. -/
def full : CharSet := .compl .empty

/-- Decimal digits. -/
def digits : CharSet := .property (.inCategory .decimalNumber)

/-- Blanks. -/
def blanks : CharSet := .property .blank

/-- Word characters. -/
def words : CharSet := .property .word

/-- The characters of some categories. -/
def categories (categories : List Text.Category) : CharSet :=
  categories.foldr (fun category set => .union (.property (.inCategory category)) set) .empty

/-- The set of what is in the first set and not in the second. -/
def diff (left right : CharSet) : CharSet := .inter left (.compl right)

/-- The characters that differ from one at most in the case of an ASCII letter. -/
def asciiAlike (c : Char) : List Char := [c, c.toLower, c.toUpper]

/-- Whether a character is in a set. -/
def contains : CharSet → Char → Bool
  | .empty, _ => false
  | .range low high, c => low ≤ c && c ≤ high
  | .codes ranges, c => Text.inRanges ranges c.toNat
  | .property kind, c => kind.holds c
  | .union left right, c => left.contains c || right.contains c
  | .inter left right, c => left.contains c && right.contains c
  | .compl set, c => !set.contains c
  | .anyCase set, c => (Text.caseAlike c.toNat).any fun n => set.contains (Char.ofNat n)
  | .anyAsciiCase set, c => (asciiAlike c).any set.contains

/-- The codes of bytes that are no ASCII characters. -/
def upperBytes : List Nat := List.range' 128 128

/-- Whether a set of bytes, each taken as the character of its code, holds ASCII only. -/
def isAscii (set : CharSet) : Bool :=
  !upperBytes.any fun n => set.contains (Char.ofNat n)

end CharSet

end DebugShell.Pattern
