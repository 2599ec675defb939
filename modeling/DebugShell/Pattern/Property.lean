import DebugShell.Pattern.CharSet
import DebugShell.Pattern.Fault
import DebugShell.Text.Category.Named
import DebugShell.Text.Script

/-!
# Properties in patterns

A property of characters is named by a class, a category or a script alone, or by what is asked for
and its value. Case, separators and the word `is` in front of a name make no difference.
-/

namespace DebugShell.Pattern

/-- A property as it is written. -/
inductive PropertyName where
  /-- A name alone. -/
  | named (name : String)
  /-- What is asked for, and the value that it is to have, or not to have. -/
  | valued (name value : String) (differs : Bool)
  deriving DecidableEq, Repr

/-- A text cut in two at the first place where a mark stands. -/
def cutAt? (mark : List Char) (text : List Char) : Option (List Char × List Char) :=
  match text with
  | [] => none
  | c :: rest =>
    if mark.isPrefixOf text then some ([], text.drop mark.length)
    else (cutAt? mark rest).map fun (before, after) => (c :: before, after)

/-- The property that a text in braces writes. -/
def PropertyName.ofText (text : List Char) : PropertyName :=
  let valued (differs : Bool) (parts : List Char × List Char) :=
    PropertyName.valued (String.ofList parts.1) (String.ofList parts.2) differs
  match cutAt? ['!', '='] text, cutAt? [':'] text, cutAt? ['='] text with
  | some parts, _, _ => valued true parts
  | none, some parts, _ => valued false parts
  | none, none, some parts => valued false parts
  | none, none, none => .named (String.ofList text)

/-- Whether what is meant is the opposite of what the rest of the property says. -/
def PropertyName.differs : PropertyName → Bool
  | .named _ => false
  | .valued _ _ differs => differs

/-- A name in small letters, without the separators and the word `is` in front. Of a name that is
nothing more than this word and the letter `c` all is kept. -/
def looseName (name : String) : String :=
  let cs := name.toList
  let hasIs := (cs.take 2).map Char.toLower == ['i', 's']
  let kept := ((if hasIs then cs.drop 2 else cs).filter fun c =>
    c ≠ ' ' && c ≠ '_' && c ≠ '-' && c.toNat < 128).map Char.toLower
  if hasIs && kept == ['c'] then "isc" else String.ofList kept

/-- The set of a class that is no category and no script. -/
def classSet? : String → Option CharSet
  | "alphabetic" | "alpha" => some (.property .alphabetic)
  | "uppercase" | "upper" => some (.property .uppercase)
  | "lowercase" | "lower" => some (.property .lowercase)
  | "whitespace" | "wspace" | "space" => some (.property .blank)
  | _ => none

/-- The set of a category, a group of categories, or of everything. -/
def categorySet? : String → Option CharSet
  | "any" => some .full
  | "ascii" => some (.range '\x00' '\x7f')
  | "assigned" => some (.compl (.property (.inCategory .unassigned)))
  | name => (Text.Category.named? name).map .categories

/-- The set of a script. -/
def scriptSet? (name : String) : Option CharSet :=
  (Text.script? name).map .codes

/-- The set of the characters that have a property. -/
def PropertyName.toSet : PropertyName → Except Reason CharSet
  | .named name =>
    let name := looseName name
    if name = "cs" ∨ name = "surrogate" then .error .propertyValueUnknown
    else
      match classSet? name <|> categorySet? name <|> scriptSet? name with
      | some set => .ok set
      | none => .error .propertyUnknown
  | .valued name value _ =>
    let named := looseName name
    let found? :=
      if named = "gc" ∨ named = "generalcategory" then some (categorySet? (looseName value))
      else if named = "sc" ∨ named = "script" then some (scriptSet? (looseName value))
      else none
    match found? with
    | some (some set) => .ok set
    | some none => .error .propertyValueUnknown
    | none => .error .propertyUnknown

end DebugShell.Pattern
