import DebugShell.Pattern.Scanner

/-!
# Reading a pattern

The parts of a pattern put together: groups, alternatives, and the operators that repeat what stands
before them. The reading is one walk over the text that keeps the groups that are open.
-/

namespace DebugShell.Pattern

/-- A group that is open. -/
structure OpenGroup where
  /-- What stands before it in its sequence, the last part first. -/
  before : List Written
  /-- The alternatives before its sequence. -/
  alternatives : Option Written
  /-- The changes of flags inside it. -/
  changes : List (Flag × Bool)
  /-- Where it was opened. -/
  opening : Span
  /-- Whether the pattern around it is verbose. -/
  verbose : Bool

/-- The parts of a sequence, the last part first, one after the other. -/
def sequenced : List Written → Written
  | [] => .empty
  | [last] => last
  | last :: before => .concat (sequenced before) last

/-- Alternatives with a last one. -/
def withAlternative (alternatives : Option Written) (last : Written) : Written :=
  match alternatives with
  | some w => .alternation w last
  | none => last

namespace Scan

/-- What a parenthesis opens. -/
inductive Opened where
  /-- A group. -/
  | group (changes : List (Flag × Bool))
  /-- A change of flags, which is closed. -/
  | flags (changes : List (Flag × Bool))

/-- Read a parenthesis and what belongs to it. -/
def openParenthesis (opening : Span) : Scan Opened := do
  bump
  space
  let rest := (← get).rest
  let lookAround := ["?=", "?!", "?<=", "?<!"].find? fun mark => mark.toList.isPrefixOf rest
  match lookAround with
  | some mark =>
    discard (bumpIf mark)
    fail .lookAround (← since opening.start)
  | none =>
    let inner ← here
    if (← bumpIf "?P<") || (← bumpIf "?<") then
      groupName
      return .group []
    else if ← bumpIf "?" then
      if ← atEnd then fail .groupUnclosed opening
      let given ← flagsFrom (← fuel) []
      let last ← peek?
      bump
      if last = some ')' then
        if given.isEmpty then fail .repetitionOfNothing inner
        else return .flags (flagChanges true given)
      else return .group (flagChanges true given)
    else return .group []

/-- Whether changes of flags leave a pattern verbose. -/
def verboseAfter (verbose : Bool) (changes : List (Flag × Bool)) : Bool :=
  (changes.lookup .verbose).getD verbose

/-- Read a number of repetitions with the blanks around it. -/
def count : Scan (Except Fault Nat) := do
  discard (takeSpaced Text.isBlank (← fuel) [])
  let start ← place
  let digits ← takeSpaced Char.isDigit (← fuel) []
  let span ← since start
  discard (takeSpaced Text.isBlank (← fuel) [])
  return match Numeral.digits? 10 digits with
    | none => .error ⟨.repetitionEmpty, span, none⟩
    | some n => if n < UInt32.size then .ok n else .error ⟨.decimalInvalid, span, none⟩

/-- Read the numbers of a repetition in braces, and the mark that prefers few. -/
def counts : Scan (Nat × Option Nat) := do
  let start ← place
  let unclosed {α : Type} : Scan α := do fail .repetitionUnclosed (← since start)
  bumpSpace
  if ← atEnd then unclosed
  let least ← count
  if ← atEnd then unclosed
  let range : Nat × Option Nat ←
    if (← peek?) = some ',' then
      bumpSpace
      if ← atEnd then unclosed
      if (← peek?) = some '}' then
        pure (← liftM least, none)
      else
        let least ← liftM least
        pure (least, some (← liftM (← count)))
    else
      let n ← liftM least
      pure (n, some n)
  if (← peek?) ≠ some '}' then unclosed
  bumpSpace
  if (← peek?) = some '?' then bump
  match range with
  | (least, some most) =>
    if most < least then fail .repetitionRange (← since start) else return (least, some most)
  | (least, none) => return (least, none)

/-- Read an operator that repeats what stands before it. -/
def repetition (c : Char) : Scan (Nat × Option Nat) := do
  if c = '\x7b' then counts
  else
    bump
    if (← peek?) = some '?' then bump
    return (if c = '+' then 1 else 0, if c = '?' then some 1 else none)

/-- Read a part that is no group, no class in brackets and no operator. -/
def single (c : Char) : Scan Written := do
  if c = '\\' then
    match ← escape with
    | .literal l => return .literal l
    | .assertion kind _ => return .assertion kind
    | .charClass content _ => return .charClass content
  else
    let span ← nextSpan
    bump
    return match c with
      | '.' => .dot span
      | '^' => .assertion .lineStart
      | '$' => .assertion .lineEnd
      | _ => .literal { char := c, span }

/-- Read on to the end of the pattern. `groups` are those that are open, the innermost first;
`alternatives` and `parts` are what the innermost has so far. -/
def patternFrom : Nat → List OpenGroup → Option Written → List Written → Scan Written
  | 0, _, _, _ => do fail .groupUnclosed (← here)
  | fuel + 1, groups, alternatives, parts => do
    space
    match ← peek? with
    | none =>
      match groups with
      | g :: _ => fail .groupUnclosed g.opening
      | [] => return withAlternative alternatives (sequenced parts)
    | some c =>
      if c = '(' then
        let opening ← nextSpan
        let verbose := (← get).verbose
        match ← openParenthesis opening with
        | .flags changes =>
          modify fun s => { s with verbose := verboseAfter verbose changes }
          patternFrom fuel groups alternatives (.flags changes :: parts)
        | .group changes =>
          modify fun s => { s with verbose := verboseAfter verbose changes }
          patternFrom fuel (⟨parts, alternatives, changes, opening, verbose⟩ :: groups) none []
      else if c = ')' then
        match groups with
        | [] => fail .groupUnopened (← nextSpan)
        | g :: outer =>
          modify fun s => { s with verbose := g.verbose }
          bump
          let content := withAlternative alternatives (sequenced parts)
          patternFrom fuel outer g.alternatives (.group g.changes content :: g.before)
      else if c = '|' then
        bump
        patternFrom fuel groups (some (withAlternative alternatives (sequenced parts))) []
      else if c = '[' then
        let content ← bracketed
        patternFrom fuel groups alternatives (.charClass content :: parts)
      else if c = '?' ∨ c = '*' ∨ c = '+' ∨ c = '\x7b' then
        match parts with
        | [] | .empty :: _ | .flags _ :: _ => fail .repetitionOfNothing (← here)
        | last :: before =>
          let (least, most) ← repetition c
          patternFrom fuel groups alternatives (.repetition last least most :: before)
      else
        let part ← single c
        patternFrom fuel groups alternatives (part :: parts)

end Scan

/-- The pattern that a text writes. -/
def Written.ofString (text : String) : Except Fault Written :=
  let start : Scanner := { rest := text.toList }
  ((Scan.patternFrom (text.length + 1) [] none []).run start).map (·.1)

end DebugShell.Pattern
