import DebugShell.Terminal.Printable

/-!
# Styled text

A piece of a message plays a role in it (a heading, something to be typed, a mistake), and a
terminal that shows colours shows each role in a style of its own. Styled text is text with the
sequences that set and reset these styles in it; elsewhere only its printable part is shown.
-/

namespace DebugShell.Terminal

/-- What a piece of a message is. -/
inductive Role where
  /-- A heading. -/
  | heading
  /-- The word that marks an error. -/
  | failure
  /-- Something to be typed as it stands. -/
  | literal
  /-- Something to be filled in. -/
  | placeholder
  /-- Something that would be accepted. -/
  | suggestion
  /-- Something that was not accepted. -/
  | mistake
  deriving DecidableEq

/-- The numbers of the display attributes that a role selects, in the order they are set. -/
def Role.attributes : Role → List Nat
  | .placeholder => []
  | .heading => [1, 4]
  | .failure => [1, 31]
  | .literal => [1]
  | .suggestion => [32]
  | .mistake => [33]

/-- The sequence that sets display attributes. -/
def attributeSequence (codes : List Nat) : String :=
  "\x1b[" ++ String.intercalate ";" (codes.map toString) ++ "m"

/-- The sequence that resets all display attributes. -/
def resetSequence : String := "\x1b[0m"

/-- A piece of a message in the style of its role. -/
def Role.show (role : Role) (text : String) : String :=
  match role.attributes with
  | [] => text
  | codes => String.join (codes.map fun code => attributeSequence [code]) ++ text ++ resetSequence

/-- Styled text as it is shown without colours. -/
def withoutStyles (styled : String) : String :=
  String.ofList (printable styled.toList)

/-- Styled text as it is shown with or without colours. -/
def render (colour : Bool) (styled : String) : String :=
  if colour then styled else withoutStyles styled

/-- `text` with `style` set again after each reset inside it; `skip` counts the characters of a
reset that has been seen and is still being copied. -/
def restyleFrom (style : List Char) : Nat → List Char → List Char
  | _, [] => []
  | 0, c :: rest =>
    if resetSequence.toList.isPrefixOf (c :: rest) then c :: restyleFrom style 3 rest
    else c :: restyleFrom style 0 rest
  | 1, c :: rest => c :: (style ++ restyleFrom style 0 rest)
  | skip + 2, c :: rest => c :: restyleFrom style (skip + 1) rest

/-- A text shown with display attributes, if colours are shown. -/
def paint (colour : Bool) (codes : List Nat) (text : String) : String :=
  if colour then
    let style := attributeSequence codes
    style ++ String.ofList (restyleFrom style.toList 0 text.toList) ++ resetSequence
  else text

end DebugShell.Terminal
