import DebugShell.Json.Reader

/-!
# Skipping JSON values

A value that nobody asked for is read over. Its brackets, commas and colons have to be in order and
its words and numbers well formed; what its escapes and numbers stand for is not looked at.
-/

namespace DebugShell.Json

/-- Skip the digits of the integral part of a number. -/
def skipWhole : Reader Unit := do
  match ← peek? with
  | none => failHere .badNumber
  | some c =>
    if c = '0' then
      advance
      if (← peek?).any isDigit then failNext .badNumber
    else if isDigit c then discard (takeWhile isDigit)
    else failNext .badNumber

/-- Skip the fraction of a number, if it has one. -/
def skipFraction : Reader Unit := do
  if (← peek?) = some '.' then
    advance
    if (← takeWhile isDigit) = [] then failNext .badNumber

/-- Skip the exponent of a number, if it has one. -/
def skipExponent : Reader Unit := do
  let mark ← peek?
  if mark = some 'e' ∨ mark = some 'E' then
    advance
    let sign ← peek?
    if sign = some '+' ∨ sign = some '-' then advance
    if (← takeWhile isDigit) = [] then failNext .badNumber

/-- Skip a number after its sign. -/
def skipNumber : Reader Unit := do
  skipWhole
  skipFraction
  skipExponent

/-- Skip the rest of a quoted text. -/
def skipQuotedFrom : Nat → Reader Unit
  | 0 => failHere .endInString
  | fuel + 1 => do
    match ← peek? with
    | none => failHere .endInString
    | some '"' => advance
    | some '\\' =>
      advance
      match ← peek? with
      | none => failHere .endInString
      | some 'u' =>
        advance
        discard fourDigits
      | some c => if (escaped? c).isSome then advance else failNext .badEscape
      skipQuotedFrom fuel
    | some c =>
      if c < ' ' then failHere .controlCharacter
      else
        advance
        skipQuotedFrom fuel

/-- Skip a quoted text from its opening quote on. -/
def skipQuoted : Reader Unit := do
  advance
  skipQuotedFrom ((← get).rest.length + 1)

/-- What a skipped value stands in. -/
inductive Enclosure where
  /-- A list. -/
  | list
  /-- An object. -/
  | object
  deriving DecidableEq, Repr

/-- Skip the name and the colon before a value, where there are any. -/
def skipName : Enclosure → Reader Unit
  | .list => return ()
  | .object => do
    match ← afterSpaces? with
    | none => failNext .endInObject
    | some '"' =>
      skipQuoted
      colon
    | some _ => failNext .nameNotQuoted

/-- The position in a value that is skipped. -/
inductive Position where
  /-- A value comes next. -/
  | beforeValue
  /-- A list or an object has just been opened. -/
  | opened
  /-- A value ended. -/
  | afterValue
  deriving DecidableEq, Repr

/-- Skip on from a position inside lists and objects, the innermost first, to the end of the
outermost one. -/
def skipFrom : Nat → Position → List Enclosure → Reader Unit
  | 0, _, _ => failHere .endInValue
  | fuel + 1, .beforeValue, around => do
    match ← afterSpaces? with
    | none => failNext .endInValue
    | some '[' =>
      advance
      skipFrom fuel .opened (.list :: around)
    | some '{' =>
      advance
      skipFrom fuel .opened (.object :: around)
    | some c =>
      if c = 'n' then
        advance
        word ['u', 'l', 'l']
      else if c = 't' then
        advance
        word ['r', 'u', 'e']
      else if c = 'f' then
        advance
        word ['a', 'l', 's', 'e']
      else if c = '-' then
        advance
        skipNumber
      else if c = '"' then skipQuoted
      else if isDigit c then skipNumber
      else failNext .noValue
      skipFrom fuel .afterValue around
  | _ + 1, _, [] => return ()
  | fuel + 1, position, inner :: around => do
    let closing := match inner with
      | .list => ']'
      | .object => '}'
    match ← afterSpaces? with
    | none =>
      match inner with
      | .list => failNext .endInList
      | .object => failNext .endInObject
    | some c =>
      if c = closing then
        advance
        skipFrom fuel .afterValue around
      else if position = .opened then
        skipName inner
        skipFrom fuel .beforeValue (inner :: around)
      else if c = ',' then
        advance
        skipName inner
        skipFrom fuel .beforeValue (inner :: around)
      else
        match inner with
        | .list => failNext .noListComma
        | .object => failNext .noObjectComma

/-- Skip a value. -/
def skip : Reader Unit := do
  skipFrom (2 * (← get).rest.length + 2) .beforeValue []

end DebugShell.Json
