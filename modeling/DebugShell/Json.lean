/-!
# JSON values

Values as they are exchanged in JSON. Numbers are told apart by how they are written: an integer
literal stands for an integer, and any other literal (with a fraction or an exponent, or a negative
zero) is kept as it was written, since nothing here computes with it.
-/

namespace DebugShell

/-- A JSON value. -/
inductive Json where
  /-- No value. -/
  | null
  /-- A Boolean. -/
  | bool (value : Bool)
  /-- A number written as an integer. -/
  | integer (value : Int)
  /-- A number written otherwise. -/
  | decimal (literal : String)
  /-- A text. -/
  | string (text : String)
  /-- A list of values. -/
  | list (items : List Json)
  /-- Named values, where no name occurs twice. -/
  | object (entries : List (String × Json))
  deriving Inhabited

namespace Json

/-- The value of a name in an object. -/
def get? (json : Json) (name : String) : Option Json :=
  match json with
  | .object entries => entries.lookup name
  | _ => none

/-- The list of the texts. -/
def ofTexts (texts : List String) : Json :=
  .list (texts.map .string)

/-- A value that may be absent. -/
def ofOption {α : Type} (form : α → Json) : Option α → Json
  | some a => form a
  | none => .null

end Json

end DebugShell
