import DebugShell.Json.Error
import DebugShell.Text.Literal
import DebugShell.Text.Numeral
import DebugShell.Text.Shortest

/-!
# Reading JSON texts

The parts that JSON texts are made of: spaces, words, numbers, quoted texts, and what stands between
the items of lists and the entries of objects. A reader goes through a text from left to right and
either yields a value or stops with a fault; where it stands is known in both cases, since a fault
may get its place later.
-/

namespace DebugShell.Json

/-- The rest of a text that has not been read, and how many bytes stand before it. -/
structure Cursor where
  /-- The characters to come. -/
  rest : List Char
  /-- The number of bytes before them. -/
  offset : Nat

/-- A reader of values. -/
abbrev Reader (α : Type) := ExceptT Fault (StateM Cursor) α

/-- The next character, which is not read yet. -/
def peek? : Reader (Option Char) := do
  return (← get).rest.head?

/-- The cursor after the next character. -/
def Cursor.next (cursor : Cursor) : Cursor :=
  match cursor.rest with
  | [] => cursor
  | c :: rest => ⟨rest, cursor.offset + c.utf8Size⟩

/-- Read a character. -/
def advance : Reader Unit :=
  modify Cursor.next

/-- Stop with a fault in this place. -/
def failHere {α : Type} (reason : Reason) : Reader α := do
  throw ⟨reason, some (← get).offset⟩

/-- Stop with a fault one byte further on, unless the text ends here. -/
def failNext {α : Type} (reason : Reason) : Reader α := do
  let cursor ← get
  throw ⟨reason, some (if cursor.rest = [] then cursor.offset else cursor.offset + 1)⟩

/-- Stop with a fault whose place is where the enclosing value ends. -/
def reject {α : Type} (reason : Reason) : Reader α :=
  throw ⟨reason, none⟩

/-- Give a fault that has no place yet the place in which the reader stops. -/
def placing {α : Type} (reader : Reader α) : Reader α :=
  tryCatch reader fun fault => do
    throw ⟨fault.reason, some (fault.place.getD (← get).offset)⟩

/-- Read what stands between brackets and then the closing one, which is looked for also after a
fault; of two faults the first counts. -/
def enclosed {α : Type} (body : Reader α) (closing : Reader Unit) : Reader α := do
  let result : Except Fault α ← ExceptT.lift body.run
  let closed : Except Fault Unit ← ExceptT.lift closing.run
  match result, closed with
  | .error fault, _ => throw fault
  | .ok _, .error fault => throw fault
  | .ok a, .ok _ => return a

/-- The characters that may stand around the parts. -/
def isSpace (c : Char) : Bool :=
  c == ' ' || c == '\t' || c == '\r' || c == '\n'

/-- The number of bytes that a text takes in UTF-8. -/
def utf8Length : List Char → Nat
  | [] => 0
  | c :: rest => c.utf8Size + utf8Length rest

/-- Read the characters up to the first one that is not of a class. -/
def takeWhile (p : Char → Bool) : Reader (List Char) := do
  let cursor ← get
  let taken := cursor.rest.takeWhile p
  set (Cursor.mk (cursor.rest.dropWhile p) (cursor.offset + utf8Length taken))
  return taken

/-- Skip spaces, and see what comes then. -/
def afterSpaces? : Reader (Option Char) := do
  discard (takeWhile isSpace)
  peek?

/-- Read the rest of a word. -/
def word : List Char → Reader Unit
  | [] => return ()
  | expected :: rest => do
    match ← peek? with
    | none => failHere .endInValue
    | some c =>
      if c = expected then
        advance
        word rest
      else failNext .noWord

/-! ### Numbers -/

/-- A number that was read. -/
inductive Number where
  /-- An integer within 64 bits, signed if it is negative. -/
  | integer (value : Int)
  /-- Any other number, as a floating-point number. -/
  | decimal (value : Float)

/-- What a number is, as a finding. -/
def Number.found : Number → Found
  | .integer value => .integer value
  | .decimal value => .decimal (Decimal.ofFloat value)

/-- Whether a character is a decimal digit. -/
def isDigit (c : Char) : Bool :=
  Numeral.isDigit 10 c

/-- The value of digits appended to those of `n`, as far as it stays below a bound. The second
result counts the digits that were left over. -/
def boundedDigits (bound n : Nat) : List Char → Nat × Nat
  | [] => (n, 0)
  | c :: rest =>
    let next := n * 10 + (Numeral.digit? 10 c).getD 0
    if next < bound then boundedDigits bound next rest else (n, rest.length + 1)

/-- `x / 10 ^ e`, where powers beyond the range are applied in steps. -/
def dividedByPower (x : Float) (e : Nat) : Nat → Float
  | 0 => x
  | fuel + 1 =>
    if e ≤ 308 then x / Float.ofScientific 1 false e
    else if x == 0 then x
    else dividedByPower (x / Float.ofScientific 1 false 308) (e - 308) fuel

/-- The floating-point number `±n * 10 ^ e`, if it is finite. -/
def scaled? (negative : Bool) (n : Nat) (e : Int) : Option Float :=
  let x := n.toUInt64.toFloat
  let value :=
    if n = 0 then 0.0
    else if e < 0 then dividedByPower x e.natAbs e.natAbs
    else x * Float.ofScientific 1 false (min e.toNat 309)
  if value.isInf then none else some (if negative then -value else value)

/-- Read the rest of a number from its exponent mark on; what stands before it is `n * 10 ^ e`. -/
def exponentPart (negative : Bool) (n : Nat) (e : Int) : Reader Number := do
  advance
  let sign ← peek?
  if sign = some '+' ∨ sign = some '-' then advance
  let below := sign = some '-'
  match ← peek? with
  | none => failHere .endInValue
  | some c =>
    if isDigit c then
      let digits ← takeWhile isDigit
      let (x, left) := boundedDigits (UInt32.size / 2) 0 digits
      if left ≠ 0 then
        if n ≠ 0 ∧ ¬below then
          throw ⟨.numberTooLarge, some ((← get).offset - (left - 1))⟩
        else return .decimal (if negative then -0.0 else 0.0)
      else
        match scaled? negative n (if below then e - x else e + x) with
        | some value => return .decimal value
        | none => failHere .numberTooLarge
    else failNext .badNumber

/-- Read the rest of a number after the digits of its integral part and possibly its fraction, which
are `n * 10 ^ e`. -/
def afterDigits (negative : Bool) (n : Nat) (e : Int) : Reader Number := do
  match ← peek? with
  | some 'e' | some 'E' => exponentPart negative n e
  | _ =>
    match scaled? negative n e with
    | some value => return .decimal value
    | none => failHere .numberTooLarge

/-- Read the rest of a number after the digits of its integral part. -/
def afterIntegral (negative : Bool) (digits : List Char) : Reader Number := do
  let (n, left) := boundedDigits UInt64.size 0 digits
  match ← peek? with
  | some '.' =>
    advance
    let fraction ← takeWhile isDigit
    if fraction = [] then
      if (← peek?).isSome then failNext .badNumber else failHere .endInValue
    else
      let (m, ignored) := boundedDigits UInt64.size n fraction
      afterDigits negative m ((left : Int) - ((fraction.length - ignored : Nat) : Int))
  | some 'e' | some 'E' => exponentPart negative n left
  | _ =>
    if left = 0 then
      if !negative then return .integer n
      else if 0 < n ∧ n ≤ UInt64.size / 2 then return .integer (-n)
      else afterDigits negative n 0
    else afterDigits negative n left

/-- Read a number after its sign. -/
def number (negative : Bool) : Reader Number := do
  match ← peek? with
  | none => failHere .endInValue
  | some c =>
    if c = '0' then
      advance
      if (← peek?).any isDigit then failNext .badNumber
      else afterIntegral negative ['0']
    else if isDigit c then afterIntegral negative (← takeWhile isDigit)
    else failNext .badNumber

/-! ### Quoted texts -/

/-- Read four hexadecimal digits. -/
def fourDigits : Reader Nat := do
  let cursor ← get
  let four := cursor.rest.take 4
  if utf8Length four < 4 then
    set (Cursor.mk [] (cursor.offset + utf8Length four))
    failHere .endInString
  else
    match Numeral.digits? 16 four with
    | some n =>
      set (Cursor.mk (cursor.rest.drop 4) (cursor.offset + 4))
      return n
    | none => throw ⟨.badEscape, some (cursor.offset + 4)⟩

/-- Read the next character of the second half of a surrogate pair, which has to be this one. -/
def surrogateMark (mark : Char) : Reader Unit := do
  match ← peek? with
  | none => failHere .endInString
  | some c => if c = mark then advance else failNext .noSecondSurrogate

/-- Read the character that is escaped by its number. Beyond the first 65536, characters are written
as a pair of surrogates. -/
def numberedChar : Reader Char := do
  let n ← fourDigits
  if 0xDC00 ≤ n ∧ n ≤ 0xDFFF then failHere .loneSurrogate
  else if 0xD800 ≤ n ∧ n ≤ 0xDBFF then
    surrogateMark '\\'
    surrogateMark 'u'
    let second ← fourDigits
    if 0xDC00 ≤ second ∧ second ≤ 0xDFFF then
      return Char.ofNat ((n - 0xD800) * 0x400 + (second - 0xDC00) + 0x10000)
    else failHere .loneSurrogate
  else return Char.ofNat n

/-- The character that a letter after a backslash stands for. -/
def escaped? : Char → Option Char
  | '"' => some '"'
  | '\\' => some '\\'
  | '/' => some '/'
  | 'b' => some '\x08'
  | 'f' => some '\x0c'
  | 'n' => some '\n'
  | 'r' => some '\r'
  | 't' => some '\t'
  | _ => none

/-- Read an escape after its backslash. -/
def escapedChar : Reader Char := do
  match ← peek? with
  | none => failHere .endInString
  | some 'u' =>
    advance
    numberedChar
  | some c =>
    match escaped? c with
    | some e =>
      advance
      return e
    | none => failNext .badEscape

/-- Read the rest of a quoted text, of which `read` has been read, the last character first. -/
def quotedFrom : Nat → List Char → Reader (List Char)
  | 0, _ => failHere .endInString
  | fuel + 1, read => do
    match ← peek? with
    | none => failHere .endInString
    | some '"' =>
      advance
      return read.reverse
    | some '\\' =>
      advance
      quotedFrom fuel ((← escapedChar) :: read)
    | some c =>
      if c < ' ' then failNext .controlCharacter
      else
        advance
        quotedFrom fuel (c :: read)

/-- Read a quoted text from its opening quote on. -/
def quoted : Reader String := do
  advance
  return String.ofList (← quotedFrom ((← get).rest.length + 1) [])

/-! ### Lists and objects -/

/-- See whether another item of a list follows, and read the comma before it. -/
def moreItems (first : Bool) : Reader Bool := do
  match ← afterSpaces? with
  | none => failNext .endInList
  | some c =>
    if c = ']' then return false
    else if first then return true
    else if c = ',' then
      advance
      match ← afterSpaces? with
      | none => failNext .endInValue
      | some ']' => failNext .trailingComma
      | some _ => return true
    else failNext .noListComma

/-- See whether another entry of an object follows, and read the comma before it. -/
def moreEntries (first : Bool) : Reader Bool := do
  match ← afterSpaces? with
  | none => failNext .endInObject
  | some c =>
    if c = '}' then return false
    else if first then
      if c = '"' then return true else failNext .nameNotQuoted
    else if c = ',' then
      advance
      match ← afterSpaces? with
      | none => failNext .endInValue
      | some '"' => return true
      | some '}' => failNext .trailingComma
      | some _ => failNext .nameNotQuoted
    else failNext .noObjectComma

/-- Read the end of a list. -/
def listEnd : Reader Unit := do
  match ← afterSpaces? with
  | none => failNext .endInList
  | some ']' => advance
  | some ',' =>
    advance
    if (← afterSpaces?) = some ']' then failNext .trailingComma else failNext .trailingCharacters
  | some _ => failNext .trailingCharacters

/-- Read the end of an object. -/
def objectEnd : Reader Unit := do
  match ← afterSpaces? with
  | none => failNext .endInObject
  | some '}' => advance
  | some ',' => failNext .trailingComma
  | some _ => failNext .trailingCharacters

/-- Read the colon after a name. -/
def colon : Reader Unit := do
  match ← afterSpaces? with
  | none => failNext .endInObject
  | some ':' => advance
  | some _ => failNext .noColon

/-- Read the items of a list after `read`, the last item first. -/
def itemsFrom {α : Type} (item : Reader α) : Nat → List α → Reader (List α)
  | 0, _ => failNext .endInList
  | fuel + 1, read => do
    if ← moreItems read.isEmpty then itemsFrom item fuel ((← item) :: read)
    else return read.reverse

/-- Read a list of items. -/
def items {α : Type} (item : Reader α) : Reader (List α) := do
  advance
  enclosed (do itemsFrom item ((← get).rest.length + 1) []) listEnd

/-- Read the entries of an object after `read`, the last entry first. -/
def entriesFrom {α : Type} (value : Reader α) :
    Nat → List (String × α) → Reader (List (String × α))
  | 0, _ => failNext .endInObject
  | fuel + 1, read => do
    if ← moreEntries read.isEmpty then
      let name ← quoted
      colon
      entriesFrom value fuel ((name, ← value) :: read)
    else return read.reverse

/-- Read the entries of an object. -/
def entries {α : Type} (value : Reader α) : Reader (List (String × α)) := do
  advance
  enclosed (do entriesFrom value ((← get).rest.length + 1) []) objectEnd

/-- What stands here instead of a value of another type. Words, numbers and quoted texts are read,
and lists and objects are not. -/
def found : Reader Found := do
  match ← peek? with
  | some 'n' =>
    advance
    word ['u', 'l', 'l']
    return .null
  | some 't' =>
    advance
    word ['r', 'u', 'e']
    return .bool true
  | some 'f' =>
    advance
    word ['a', 'l', 's', 'e']
    return .bool false
  | some '-' =>
    advance
    return (← number true).found
  | some '"' => return .string (Text.literal (← quoted))
  | some '[' => return .list
  | some '{' => return .object
  | some c => if isDigit c then return (← number false).found else failNext .noValue
  | none => failNext .noValue

/-- Stop because a value of another type is expected. -/
def mismatch {α : Type} (expected : String) : Reader α := do
  reject (.wrongType (← found) expected)

end DebugShell.Json
