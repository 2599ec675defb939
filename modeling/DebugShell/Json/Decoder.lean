import DebugShell.Json
import DebugShell.Json.Skip
import DebugShell.NameMap

/-!
# Decoders

A decoder for a type knows its JSON form in both shapes in which values arrive: as a JSON value, and
as a text, in which a fault is to be reported with its place. Records are decoded field by field:
unknown fields are passed over, a repeated field is a fault, and a missing one either keeps its
default or is a fault, by the kind of record. A list of the fields' values, in the fields' order,
may stand for a record.
-/

namespace DebugShell.Json

/-- How values of a type are decoded. -/
structure Decoder (α : Type) where
  /-- The value that a JSON value stands for. -/
  ofJson? : Json → Option α
  /-- Read a value from a text. -/
  reader : Reader α

namespace Decoder

variable {α β : Type}

/-- What is computed from a decoded value. -/
def map (f : α → β) (d : Decoder α) : Decoder β where
  ofJson? json := (d.ofJson? json).map f
  reader := f <$> d.reader

/-- See what a value starts with. -/
def start : Reader Char := do
  match ← afterSpaces? with
  | some c => return c
  | none => failNext .endInValue

/-- Booleans. -/
def bool : Decoder Bool where
  ofJson?
    | .bool b => some b
    | _ => none
  reader := placing do
    match ← start with
    | 't' =>
      advance
      word ['r', 'u', 'e']
      return true
    | 'f' =>
      advance
      word ['a', 'l', 's', 'e']
      return false
    | _ => mismatch "a boolean"

/-- The word that an integer denotes, if it is in range. -/
def uint64? (value : Int) : Option UInt64 :=
  if 0 ≤ value ∧ value < UInt64.size then some (.ofNat value.toNat) else none

/-- Words of 64 bits. -/
def uint64 : Decoder UInt64 where
  ofJson?
    | .integer value => uint64? value
    | _ => none
  reader := placing do
    let c ← start
    if c = '-' || isDigit c then
      if c = '-' then advance
      match ← number (c = '-') with
      | .integer value =>
        match uint64? value with
        | some word => return word
        | none => reject (.wrongValue (.integer value) "u64")
      | .decimal value => reject (.wrongType (Number.decimal value).found "u64")
    else mismatch "u64"

/-- Read a text, and say otherwise what was expected. -/
def textOr (expected : String) : Reader String := do
  match ← start with
  | '"' => quoted
  | _ => mismatch expected

/-- Texts. -/
def string : Decoder String where
  ofJson?
    | .string text => some text
    | _ => none
  reader := placing (textOr "a string")

/-- Values that may be absent. -/
def optional (d : Decoder α) : Decoder (Option α) where
  ofJson?
    | .null => some none
    | json => (d.ofJson? json).map some
  reader := do
    match ← afterSpaces? with
    | some 'n' =>
      advance
      word ['u', 'l', 'l']
      return none
    | _ => return some (← d.reader)

/-- Values that are given by other values, where some of these are refused. -/
def refine (parse : α → Except String β) (d : Decoder α) : Decoder β where
  ofJson? json := (d.ofJson? json).bind fun a => (parse a).toOption
  reader := do
    match parse (← d.reader) with
    | .ok b => return b
    | .error text => reject (.refused text)

/-- Lists. -/
def list (d : Decoder α) : Decoder (List α) where
  ofJson?
    | .list items => items.mapM d.ofJson?
    | _ => none
  reader := placing do
    match ← start with
    | '[' => items d.reader
    | _ => mismatch "a sequence"

/-- Maps from names. Of several entries for a name the last counts. -/
def nameMap (d : Decoder α) : Decoder (NameMap α) where
  ofJson?
    | .object entries =>
      (entries.mapM fun e => (d.ofJson? e.2).map fun a => (e.1, a)).map NameMap.ofList
    | _ => none
  reader := placing do
    match ← start with
    | '{' => return .ofList (← entries d.reader)
    | _ => mismatch "a map"

/-- Read the name of an alternative. -/
def alternative (names : List (String × α)) : Reader α :=
  placing do
    let name ← textOr "variant identifier"
    match names.lookup name with
    | some a => return a
    | none => reject (.unknownName name (names.map (·.1)))

/-- Read the absence of a value. -/
def absence : Reader Unit :=
  placing do
    match ← start with
    | 'n' =>
      advance
      word ['u', 'l', 'l']
    | _ => mismatch "unit"

/-- Alternatives that are given by names. An object that binds the name alone, to no value, may
stand for it. -/
def oneOf (names : List (String × α)) : Decoder α where
  ofJson?
    | .string name => names.lookup name
    | .object [(name, .null)] => names.lookup name
    | _ => none
  reader := do
    match ← start with
    | '"' => alternative names
    | '{' =>
      advance
      let a ← alternative names
      colon
      absence
      match ← afterSpaces? with
      | some '}' =>
        advance
        return a
      | some _ => failHere .noValue
      | none => failHere .endInObject
    | _ => failNext .noValue

end Decoder

/-- A field of a record. -/
structure Field (σ : Type) where
  /-- Its name. -/
  name : String
  /-- Its decoder, which yields the change of the record that sets the field. -/
  decoder : Decoder (σ → σ)

/-- A field with the decoder of its values and what a value changes. -/
def Field.of {σ α : Type} (name : String) (d : Decoder α) (update : α → σ → σ) : Field σ :=
  ⟨name, d.map update⟩

/-- A kind of record. -/
structure Layout (σ : Type) where
  /-- What it is called in messages. -/
  name : String
  /-- The record that a decoding starts from. -/
  initial : σ
  /-- The fields, in order. -/
  fields : List (Field σ)
  /-- Whether each field has to be given. The others keep what the record starts with. -/
  required : Bool := false

namespace Layout

variable {σ : Type} (layout : Layout σ)

/-- A record with those fields set that an object gives. -/
def ofEntries? (entries : List (String × Json)) : List (Field σ) → σ → Option σ
  | [], s => some s
  | field :: fields, s =>
    match entries.lookup field.name with
    | some json =>
      (field.decoder.ofJson? json).bind fun update => ofEntries? entries fields (update s)
    | none => if layout.required then none else ofEntries? entries fields s

/-- A record with its first fields set from a list of values. -/
def ofItems? : List (Field σ) → List Json → σ → Option σ
  | [], [], s => some s
  | [], _ :: _, _ => none
  | _ :: _, [], s => if layout.required then none else some s
  | field :: fields, json :: rest, s =>
    (field.decoder.ofJson? json).bind fun update => ofItems? fields rest (update s)

/-- What a list for a record is expected to be. -/
def description : String :=
  s!"struct {layout.name} with {layout.fields.length} elements"

/-- Read the entries of an object into a record, of which those fields have been given. -/
def readEntries : Nat → Bool → List String → σ → Reader σ
  | 0, _, _, _ => failNext .endInObject
  | fuel + 1, first, given, s => do
    if ← moreEntries first then
      let name ← quoted
      match layout.fields.find? (·.name = name) with
      | none =>
        colon
        skip
        readEntries fuel false given s
      | some field =>
        if name ∈ given then reject (.repeatedField name)
        else
          colon
          let update ← field.decoder.reader
          readEntries fuel false (name :: given) (update s)
    else
      match layout.fields.find? fun field => layout.required && field.name ∉ given with
      | some field => reject (.missingField field.name)
      | none => return s

/-- Read the items of a list into the fields of a record that are left. -/
def readItems : List (Field σ) → Bool → σ → Reader σ
  | [], _, s => return s
  | field :: fields, first, s => do
    if ← moreItems first then
      let update ← field.decoder.reader
      readItems fields false (update s)
    else if layout.required then
      let given := layout.fields.length - (field :: fields).length
      reject (.wrongLength given layout.description)
    else return s

/-- The decoder of a kind of record. -/
def decoder : Decoder σ where
  ofJson?
    | .object entries => layout.ofEntries? entries layout.fields layout.initial
    | .list items => layout.ofItems? layout.fields items layout.initial
    | _ => none
  reader := placing do
    match ← Decoder.start with
    | '{' =>
      advance
      enclosed (do layout.readEntries ((← get).rest.length + 1) true [] layout.initial) objectEnd
    | '[' =>
      advance
      enclosed (layout.readItems layout.fields true layout.initial) listEnd
    | _ => mismatch s!"struct {layout.name}"

end Layout

/-- The value that a text writes. -/
def Decoder.ofText {α : Type} (d : Decoder α) (text : String) : Except Error α :=
  let whole : Reader α := do
    let a ← d.reader
    if (← afterSpaces?).isSome then failNext .trailingCharacters
    return a
  match whole.run ⟨text.toList, 0⟩ with
  | (.ok a, _) => .ok a
  | (.error fault, _) => .error (fault.toError text.toList)

end DebugShell.Json
