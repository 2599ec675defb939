import DebugShell.Pattern.Written
import DebugShell.Text.Numeral
import DebugShell.Text.Property

/-!
# Reading the parts of a pattern

The parts that patterns are made of: characters, escapes, assertions, classes in brackets, flags and
names of groups. Each reader starts at the first character of its part. In verbose patterns blanks
and comments may stand inside many of them.
-/

namespace DebugShell.Pattern

/-- How far a pattern has been read. -/
structure Scanner where
  /-- The characters to come. -/
  rest : List Char
  /-- Where the next one stands. -/
  place : Place := {}
  /-- Blanks and comments are ignored. -/
  verbose : Bool := false
  /-- The names of groups so far, and where they stand. -/
  names : List (String × Span) := []

/-- A reader of parts. -/
abbrev Scan (α : Type) := StateT Scanner (Except Fault) α

namespace Scan

/-- Stop with a fault. -/
def fail {α : Type} (reason : Reason) (span : Span) : Scan α :=
  throw ⟨reason, span, none⟩

/-- The next character. -/
def peek? : Scan (Option Char) := do
  return (← get).rest.head?

/-- The place of the next character. -/
def place : Scan Place := do
  return (← get).place

/-- The part from a place up to the next character. -/
def since (start : Place) : Scan Span := do
  return ⟨start, ← place⟩

/-- The empty part before the next character. -/
def here : Scan Span := do
  since (← place)

/-- The part that is the next character. -/
def nextSpan : Scan Span := do
  let s ← get
  match s.rest with
  | [] => here
  | c :: _ => return ⟨s.place, s.place.after c⟩

/-- Read a character. -/
def bump : Scan Unit :=
  modify fun s => match s.rest with
    | [] => s
    | c :: rest => { s with rest, place := s.place.after c }

/-- Skip the rest of a comment up to the end of its line. -/
def skipComment (s : Scanner) : Scanner :=
  let text := s.rest.takeWhile (· ≠ '\n')
  let place := text.foldl Place.after s.place
  match s.rest.drop text.length with
  | [] => { s with rest := [], place }
  | c :: rest => { s with rest, place := place.after c }

/-- Skip blanks and comments. -/
def skipBlanks : Nat → Scanner → Scanner
  | 0, s => s
  | fuel + 1, s =>
    match s.rest with
    | [] => s
    | c :: rest =>
      if Text.isBlank c then skipBlanks fuel { s with rest, place := s.place.after c }
      else if c = '#' then skipBlanks fuel (skipComment s)
      else s

/-- In a verbose pattern, skip blanks and comments. -/
def space : Scan Unit :=
  modify fun s => if s.verbose then skipBlanks s.rest.length s else s

/-- Read a character and the space after it. -/
def bumpSpace : Scan Unit := do
  bump
  space

/-- Whether the pattern has ended. -/
def atEnd : Scan Bool := do
  return (← get).rest.isEmpty

/-- Read a text if it comes next. -/
def bumpIf (text : String) : Scan Bool := do
  if text.toList.isPrefixOf (← get).rest then
    for _ in text.toList do bump
    return true
  else return false

/-- The character after the next one, where in a verbose pattern blanks and the mark of a comment
are passed over. -/
def secondAfterSpace? : Scan (Option Char) := do
  let s ← get
  let rest := s.rest.drop 1
  if !s.verbose then return rest.head?
  let afterBlanks := rest.dropWhile Text.isBlank
  let visible := match afterBlanks with
    | '#' :: comment => comment.dropWhile Text.isBlank
    | other => other
  return visible.head?.or rest.head?

/-- Read the characters of a class, with the space after each. -/
def takeSpaced (p : Char → Bool) : Nat → List Char → Scan (List Char)
  | 0, read => return read.reverse
  | fuel + 1, read => do
    match ← peek? with
    | some c =>
      if p c then
        bumpSpace
        takeSpaced p fuel (c :: read)
      else return read.reverse
    | none => return read.reverse

/-- As much fuel as there are characters to come. -/
def fuel : Scan Nat := do
  return (← get).rest.length + 1

/-! ### Escapes -/

/-- The characters that an escape always stands for. -/
def isMeta (c : Char) : Bool :=
  "\\.+*?()|[]\x7b\x7d^$#&-~".toList.contains c

/-- The further characters that may be escaped. -/
def isEscapable (c : Char) : Bool :=
  c.toNat < 128 && !c.isAlphanum && c != '<' && c != '>'

/-- The character that a letter after a backslash stands for. -/
def control? : Char → Option Char
  | 'a' => some '\x07'
  | 'f' => some '\x0c'
  | 't' => some '\t'
  | 'n' => some '\n'
  | 'r' => some '\r'
  | 'v' => some '\x0b'
  | _ => none

/-- The assertion that a letter after a backslash stands for. -/
def assertion? : Char → Option WrittenAssertion
  | 'A' => some .textStart
  | 'z' => some .textEnd
  | 'b' => some .boundary
  | 'B' => some .noBoundary
  | '<' => some .wordStart
  | '>' => some .wordEnd
  | _ => none

/-- The assertion of a boundary's name. -/
def boundary? : String → Option WrittenAssertion
  | "start" => some .wordStart
  | "end" => some .wordEnd
  | "start-half" => some .wordStartHalf
  | "end-half" => some .wordEndHalf
  | _ => none

/-- The character of a number. -/
def charOf? (digits : List Char) : Option Char :=
  (Numeral.digits? 16 digits).bind fun n =>
    if n < 0xD800 ∨ (0xDFFF < n ∧ n < 0x110000) then some (Char.ofNat n) else none

/-- Read as many hexadecimal digits as are left. -/
def fixedDigits : Nat → List Char → Scan (List Char)
  | 0, read => return read.reverse
  | left + 1, read => do
    match ← peek? with
    | none => fail .escapeEnd (← here)
    | some c =>
      if Numeral.isDigit 16 c then
        bumpSpace
        fixedDigits left (c :: read)
      else fail .hexDigit (← nextSpan)

/-- Read a character's number of a fixed number of digits. -/
def fixedHex (start : Place) (count : Nat) : Scan Literal := do
  let first ← place
  let digits ← fixedDigits count []
  match charOf? digits with
  | some char => return { char, isByte := count = 2, span := ← since start }
  | none => fail .hexInvalid (← since first)

/-- Read a character's number in braces. -/
def bracedHex (start : Place) : Scan Literal := do
  let brace ← place
  let first := (← nextSpan).stop
  bumpSpace
  let digits ← takeSpaced (Numeral.isDigit 16) (← fuel) []
  match ← peek? with
  | none => fail .escapeEnd (← since brace)
  | some '}' =>
    let last ← place
    bumpSpace
    if digits = [] then fail .hexEmpty (← since brace)
    else
      match charOf? digits with
      | some char => return { char, span := ← since start }
      | none => fail .hexInvalid ⟨first, last⟩
  | some _ => fail .hexDigit (← nextSpan)

/-- Read a character's number from the letter that introduces it. -/
def hex (start : Place) (letter : Char) : Scan Literal := do
  bumpSpace
  match ← peek? with
  | none => fail .escapeEnd (← here)
  | some '{' => bracedHex start
  | some _ => fixedHex start (if letter = 'x' then 2 else if letter = 'u' then 4 else 8)

/-- Read a property from the letter that introduces it. -/
def property (start : Place) (letter : Char) : Scan WrittenClass := do
  bumpSpace
  match ← peek? with
  | none => fail .escapeEnd (← here)
  | some '{' =>
    bumpSpace
    let name ← takeSpaced (· ≠ '}') (← fuel) []
    if ← atEnd then fail .escapeEnd (← here)
    else
      bump
      return .property (.ofText name) (letter = 'P') (← since start)
  | some c =>
    if c = '\\' then fail .propertyInvalid (← nextSpan)
    else
      bumpSpace
      return .property (.named c.toString) (letter = 'P') (← since start)

/-- Read the name of a boundary in braces. Braces around anything else are left alone. -/
def boundaryName (start : Place) : Scan WrittenAssertion := do
  let before ← get
  let brace ← place
  bumpSpace
  let isNameChar (c : Char) : Bool := c.isAlpha || c == '-'
  match ← peek? with
  | none => fail .boundaryEnd (← since start)
  | some c =>
    if isNameChar c then
      let first ← place
      let name ← takeSpaced isNameChar (← fuel) []
      if (← peek?) = some '}' then
        let last ← place
        bump
        match boundary? (String.ofList name) with
        | some kind => return kind
        | none => fail .boundaryUnknown ⟨first, last⟩
      else fail .boundaryUnclosed (← since brace)
    else
      set before
      return .boundary

/-- What a character of a pattern or an escape means. -/
inductive Primitive where
  /-- A character. -/
  | literal (literal : Literal)
  /-- An assertion. -/
  | assertion (kind : WrittenAssertion) (span : Span)
  /-- A class. -/
  | charClass (content : WrittenClass) (span : Span)

/-- Where a primitive stands. -/
def Primitive.span : Primitive → Span
  | .literal l => l.span
  | .assertion _ span => span
  | .charClass _ span => span

/-- The class that a letter after a backslash stands for, and whether it is negated. -/
def letter? : Char → Option (Letter × Bool)
  | 'd' => some (.digit, false)
  | 's' => some (.space, false)
  | 'w' => some (.word, false)
  | 'D' => some (.digit, true)
  | 'S' => some (.space, true)
  | 'W' => some (.word, true)
  | _ => none

/-- Read an escape from its backslash on. -/
def escape : Scan Primitive := do
  let start ← place
  bump
  match ← peek? with
  | none => fail .escapeEnd (← since start)
  | some c =>
    if c.isDigit then fail .backreference ⟨start, (← nextSpan).stop⟩
    else if c = 'x' ∨ c = 'u' ∨ c = 'U' then return .literal (← hex start c)
    else if c = 'p' ∨ c = 'P' then
      let content ← property start c
      return .charClass content (← since start)
    else
      bump
      let span ← since start
      match letter? c with
      | some (kind, negated) => return .charClass (.letter kind negated span) span
      | none =>
        if isMeta c || isEscapable c then return .literal { char := c, span }
        else
          match control? c, assertion? c with
          | some char, _ => return .literal { char, span }
          | none, some .boundary =>
            if (← peek?) = some '{' then
              let kind ← boundaryName start
              return .assertion kind (← since start)
            else return .assertion .boundary span
          | none, some kind => return .assertion kind span
          | none, none => fail .escapeUnknown span

/-! ### Classes in brackets -/

/-- Read a character or an escape of a class. -/
def classPrimitive : Scan Primitive := do
  match ← peek? with
  | some '\\' => escape
  | some c =>
    let span ← nextSpan
    bump
    return .literal { char := c, span }
  | none => fail .classUnclosed (← here)

/-- A primitive as a part of a class. -/
def classItem : Primitive → Scan WrittenClass
  | .literal l => return .single l
  | .charClass content _ => return content
  | .assertion _ span => fail .classEscape span

/-- A primitive as a bound of a range. -/
def rangeBound : Primitive → Scan Literal
  | .literal l => return l
  | p => fail .classRangeBound p.span

/-- Read a character, an escape or a range of a class, which is closed only after it. `opening` is
where the class was opened. -/
def classRange (opening : Span) : Scan WrittenClass := do
  let first ← classPrimitive
  space
  if ← atEnd then fail .classUnclosed opening
  else
    let second ← secondAfterSpace?
    if (← peek?) ≠ some '-' ∨ second = some ']' ∨ second = some '-' then classItem first
    else
      bumpSpace
      if ← atEnd then fail .classUnclosed opening
      else
        let last ← classPrimitive
        let low ← rangeBound first
        let high ← rangeBound last
        if high.char < low.char then fail .classRange ⟨low.span.start, high.span.stop⟩
        else return .range low high

/-- Read a class of ASCII characters, if one is named here. -/
def asciiClass? : Scan (Option WrittenClass) := do
  let before ← get
  let found : Option (AsciiClass × Bool × Nat) := match before.rest with
    | '[' :: ':' :: rest =>
      let negated := rest.head? = some '^'
      let name := (if negated then rest.drop 1 else rest).takeWhile (· ≠ ':')
      let length := 2 + (if negated then 1 else 0) + name.length
      if (before.rest.drop length).take 2 = [':', ']'] then
        (AsciiClass.named? (String.ofList name)).map fun kind => (kind, negated, length + 2)
      else none
    | _ => none
  match found with
  | none => return none
  | some (kind, negated, length) =>
    for _ in [0:length] do bump
    return some (.ascii kind negated (← since before.place))

/-- A class in brackets that is open, inside those that were open before it. -/
structure OpenClass where
  /-- What the class around it has so far. -/
  around : WrittenClass
  /-- What is combined with the rest of the class around it, and how. -/
  pending : Option (WrittenClass × SetOperator)
  /-- It is negated. -/
  negated : Bool
  /-- Where it was opened. -/
  opening : Span

/-- Read dashes at the start of a class, which stand for themselves. -/
def dashes (start : Place) : Nat → WrittenClass → Scan WrittenClass
  | 0, read => return read
  | fuel + 1, read => do
    if (← peek?) = some '-' then
      let dash : WrittenClass := .single { char := '-', span := ← nextSpan }
      bumpSpace
      if ← atEnd then fail .classUnclosed ⟨start, start⟩
      else dashes start fuel (.union read dash)
    else return read

/-- Read the opening bracket of a class and what has a meaning of its own behind it: the mark of
negation, dashes, and a closing bracket that belongs to the class. -/
def openBracket : Scan (Bool × WrittenClass × Span) := do
  let start ← place
  bumpSpace
  if ← atEnd then fail .classUnclosed (← since start)
  let negated := (← peek?) = some '^'
  if negated then
    bumpSpace
    if ← atEnd then fail .classUnclosed (← since start)
  let content ← dashes start (← fuel) .empty
  let content ←
    if content = .empty ∧ (← peek?) = some ']' then
      let literal : WrittenClass := .single { char := ']', span := ← nextSpan }
      bumpSpace
      if ← atEnd then fail .classUnclosed (← since start)
      pure literal
    else pure content
  return (negated, content, ← since start)

/-- A class joined with what is pending. -/
def joinPending (pending : Option (WrittenClass × SetOperator)) (content : WrittenClass) :
    WrittenClass :=
  match pending with
  | some (left, operator) => .combined operator left content
  | none => content

/-- The operator between classes that comes next. -/
def setOperator? : List Char → Option SetOperator
  | '&' :: '&' :: _ => some .intersection
  | '-' :: '-' :: _ => some .difference
  | '~' :: '~' :: _ => some .symmetricDifference
  | _ => none

/-- Read on in a class to the closing bracket of the outermost one. `inner` is the innermost class
that is open, `outer` are those around it, `pending` and `content` what the innermost has so far. -/
def classFrom : Nat → OpenClass → List OpenClass → Option (WrittenClass × SetOperator) →
    WrittenClass → Scan WrittenClass
  | 0, inner, _, _, _ => fail .classUnclosed inner.opening
  | fuel + 1, inner, outer, pending, content => do
    space
    match (← get).rest with
    | [] => fail .classUnclosed inner.opening
    | ']' :: _ =>
      bump
      let span ← since inner.opening.start
      let closed := WrittenClass.bracketed (joinPending pending content) inner.negated span
      match outer with
      | [] => return closed
      | next :: further =>
        classFrom fuel next further inner.pending (.union inner.around closed)
    | '[' :: _ =>
      match ← asciiClass? with
      | some named => classFrom fuel inner outer pending (.union content named)
      | none =>
        let (negated, start, opening) ← openBracket
        classFrom fuel ⟨content, pending, negated, opening⟩ (inner :: outer) none start
    | rest =>
      match setOperator? rest with
      | some operator =>
        bump
        bump
        classFrom fuel inner outer (some (joinPending pending content, operator)) .empty
      | none =>
        let item ← classRange inner.opening
        classFrom fuel inner outer pending (.union content item)

/-- Read a class in brackets. -/
def bracketed : Scan WrittenClass := do
  let (negated, start, opening) ← openBracket
  classFrom (← fuel) ⟨.empty, none, negated, opening⟩ [] none start

/-! ### Flags and names -/

/-- Read flags up to the closing parenthesis or the colon. `given` are the letters so far, the last
one first, and where they stand; `negation` is where the mark that turns flags off stands. -/
def flagsFrom : Nat → List (Char × Span) → Scan (List (Char × Span))
  | 0, _ => do fail .flagEnd (← here)
  | fuel + 1, given => do
    match ← peek? with
    | none => fail .flagEnd (← here)
    | some c =>
      let span ← nextSpan
      if c = ':' ∨ c = ')' then
        match given with
        | ('-', negation) :: _ => fail .flagNegationDangling negation
        | _ => return given.reverse
      else if c ≠ '-' ∧ Flag.named? c = none then fail .flagUnknown span
      else
        match given.lookup c with
        | some earlier =>
          let reason := if c = '-' then Reason.flagNegationRepeated else .flagRepeated
          throw ⟨reason, span, some earlier⟩
        | none =>
          bump
          flagsFrom fuel ((c, span) :: given)

/-- The changes that letters of flags stand for: those behind the dash are turned off. -/
def flagChanges (value : Bool) : List (Char × Span) → List (Flag × Bool)
  | [] => []
  | (c, _) :: rest =>
    match Flag.named? c with
    | some flag => (flag, value) :: flagChanges value rest
    | none => flagChanges false rest

/-- Whether a character can stand in the name of a group. -/
def isNameChar (first : Bool) (c : Char) : Bool :=
  if c.toNat < 128 then
    c == '_' || c.isAlpha || (!first && (c.isDigit || c == '.' || c == '[' || c == ']'))
  else Text.isWordChar c

/-- Read the characters of a group's name up to its closing mark. -/
def nameChars : Nat → List Char → Scan (List Char)
  | 0, _ => do fail .groupNameEnd (← here)
  | fuel + 1, read => do
    match ← peek? with
    | none => fail .groupNameEnd (← here)
    | some '>' => return read.reverse
    | some c =>
      if isNameChar read.isEmpty c then
        bump
        nameChars fuel (c :: read)
      else fail .groupNameChar (← nextSpan)

/-- Read the name of a group and its closing mark. -/
def groupName : Scan Unit := do
  let start ← place
  let chars ← nameChars (← fuel) []
  let span ← since start
  bump
  if chars = [] then fail .groupNameEmpty ⟨start, start⟩
  let name := String.ofList chars
  match (← get).names.lookup name with
  | some earlier => throw ⟨.groupNameRepeated, span, some earlier⟩
  | none => modify fun s => { s with names := (name, span) :: s.names }

end Scan

end DebugShell.Pattern
