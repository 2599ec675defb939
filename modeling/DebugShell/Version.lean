import DebugShell.Text.Blank
import DebugShell.Text.Numeral

/-!
# Versions of the C library

A version is a pair of 32-bit numbers, written `major.minor`. Reading one allows blanks around the
text and a `+` before either number.
-/

namespace DebugShell

/-- A version of the C library. -/
structure Version where
  /-- The number before the dot. -/
  major : UInt32
  /-- The number after the dot. -/
  minor : UInt32
  deriving DecidableEq, Repr

namespace Version

/-- Why a text is not a version. -/
inductive Error where
  /-- There is no dot in it. -/
  | noDot (text : String)
  /-- What stands before the first dot is not a 32-bit number. -/
  | badMajor (part : String)
  /-- What stands after the first dot is not a 32-bit number. -/
  | badMinor (part : String)
  deriving DecidableEq, Repr

/-- The wording of an error. -/
def Error.message : Error → String
  | .noDot text => s!"expected <major>.<minor> (e.g. 2.32), got `{text}`"
  | .badMajor part => s!"invalid major version `{part}`"
  | .badMinor part => s!"invalid minor version `{part}`"

/-- A 32-bit number, if the text denotes one. -/
def part? (cs : List Char) : Option UInt32 :=
  (Numeral.unsigned? 10 UInt32.size cs).map .ofNat

/-- The version that a text denotes. -/
def ofString (text : String) : Except Error Version :=
  let cs := Text.trim text.toList
  let major := cs.takeWhile (· != '.')
  match cs.dropWhile (· != '.') with
  | [] => .error (.noDot text)
  | _ :: minor =>
    match part? major, part? minor with
    | none, _ => .error (.badMajor (String.ofList major))
    | some _, none => .error (.badMinor (String.ofList minor))
    | some a, some b => .ok ⟨a, b⟩

instance : ToString Version where
  toString v := toString v.major.toNat ++ "." ++ toString v.minor.toNat

/-- Versions are ordered by their first numbers, and by their second ones where those are equal. -/
def le (v w : Version) : Bool :=
  v.major < w.major || (v.major == w.major && v.minor ≤ w.minor)

end Version

end DebugShell
