import DebugShell.Text.Property

/-!
# Marking register names in an expression

The host reads `$name` as a register. An operator may leave the mark out: `withMarks` puts it before
each bare occurrence of a register name that stands as a word of its own. An occurrence that has its
mark keeps it.
-/

namespace DebugShell.Registers

/-- The names that every host understands, whatever the architecture. -/
def generic : List String := ["pc", "sp"]

/-- A word boundary lies between two neighbours when just one of them is a word character; beyond an
end of the text there is none. -/
def isBoundary (before after : Option Char) : Bool :=
  before.any Text.isWordChar != after.any Text.isWordChar

/-- A name without the marks in front of it. -/
def unmarked (name : String) : String :=
  String.ofList (name.toList.dropWhile (· == '$'))

/-- The names to look for: those listed and the generic ones, without marks, each once and in
ascending order. -/
def searchNames (listed : List String) : List String :=
  let candidates := (listed.map unmarked).filter (· != "") ++ generic
  (candidates.eraseDups).mergeSort fun a b => a ≤ b

/-- The first of the names that stands as a word of its own at the start of `cs`, where `before` is
the character in front. -/
def nameAt? (names : List String) (before : Option Char) (cs : List Char) : Option (List Char) :=
  if isBoundary before cs.head? then
    (names.map String.toList).find? fun name =>
      name.isPrefixOf cs && isBoundary name.getLast? (cs.drop name.length).head?
  else none

/-- The name that stands at the start of `cs`, behind its mark or bare, and the number of characters
that it takes up with its mark. -/
def occurrenceAt? (names : List String) (before : Option Char) (cs : List Char) :
    Option (List Char × Nat) :=
  let marked : Option (List Char × Nat) := match cs with
    | '$' :: rest => (nameAt? names (some '$') rest).map fun name => (name, name.length + 1)
    | _ => none
  marked.or ((nameAt? names before cs).map fun name => (name, name.length))

/-- The rest of an expression with its register names marked: `before` is the character in front,
and the next `skip` characters belong to an occurrence that is already written. -/
def markFrom (names : List String) (before : Option Char) : Nat → List Char → List Char
  | _, [] => []
  | skip + 1, c :: rest => markFrom names (some c) skip rest
  | 0, c :: rest =>
    match occurrenceAt? names before (c :: rest) with
    | some (name, length) => '$' :: name ++ markFrom names (some c) (length - 1) rest
    | none => c :: markFrom names (some c) 0 rest

/-- An expression with the listed register names and the generic ones marked. -/
def withMarks (expression : String) (listed : List String) : String :=
  String.ofList (markFrom (searchNames listed) none 0 expression.toList)

end DebugShell.Registers
