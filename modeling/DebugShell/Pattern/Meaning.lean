import DebugShell.Pattern
import DebugShell.Pattern.Grouping

/-!
# The meaning of written patterns

A written pattern is given its meaning from left to right under the flags that are in force. Where
bytes are matched instead of characters, classes are made of ASCII characters, and whatever could
match other bytes is refused.
-/

namespace DebugShell.Pattern

/-- The flags in force. -/
structure Flags where
  /-- Letters match in either case. -/
  ignoreCase : Bool := false
  /-- Line assertions hold at each line. -/
  multiLine : Bool := false
  /-- The dot matches line feeds. -/
  dotAll : Bool := false
  /-- Characters are matched, and not bytes. -/
  unicode : Bool := true
  /-- Lines also end at carriage returns. -/
  crlf : Bool := false
  deriving DecidableEq, Repr

namespace Flags

/-- The flags after a change. -/
def change (flags : Flags) : Flag × Bool → Flags
  | (.ignoreCase, value) => { flags with ignoreCase := value }
  | (.multiLine, value) => { flags with multiLine := value }
  | (.dotAll, value) => { flags with dotAll := value }
  | (.unicode, value) => { flags with unicode := value }
  | (.crlf, value) => { flags with crlf := value }
  | (.swapGreed, _) => flags
  | (.verbose, _) => flags

/-- The flags after some changes. -/
def changeAll (flags : Flags) (changes : List (Flag × Bool)) : Flags :=
  changes.foldl change flags

/-- A set with what differs from it in case, if case is ignored. -/
def foldCase (flags : Flags) (set : CharSet) : CharSet :=
  if !flags.ignoreCase then set
  else if flags.unicode then .anyCase set
  else .anyAsciiCase set

/-- The characters that words are made of. -/
def word (flags : Flags) : CharSet :=
  if flags.unicode then .words
  else .union (.union (.range 'a' 'z') (.range 'A' 'Z')) (.union (.range '0' '9') (.single '_'))

end Flags

/-- The characters of a class of ASCII characters. -/
def AsciiClass.toSet : AsciiClass → CharSet
  | .alnum => .union (.range '0' '9') (.union (.range 'A' 'Z') (.range 'a' 'z'))
  | .alpha => .union (.range 'A' 'Z') (.range 'a' 'z')
  | .ascii => .range '\x00' '\x7f'
  | .blank => .union (.single '\t') (.single ' ')
  | .cntrl => .union (.range '\x00' '\x1f') (.single '\x7f')
  | .digit => .range '0' '9'
  | .graph => .range '!' '~'
  | .lower => .range 'a' 'z'
  | .print => .range ' ' '~'
  | .punct =>
    .union (.union (.range '!' '/') (.range ':' '@')) (.union (.range '[' '`') (.range '\x7b' '~'))
  | .space => .union (.range '\t' '\r') (.single ' ')
  | .upper => .range 'A' 'Z'
  | .word =>
    .union (.union (.range '0' '9') (.range 'A' 'Z')) (.union (.single '_') (.range 'a' 'z'))
  | .xdigit => .union (.range '0' '9') (.union (.range 'A' 'F') (.range 'a' 'f'))

/-- The characters of a class that is written by a letter. -/
def Letter.toSet (unicode : Bool) : Letter → CharSet
  | .digit => if unicode then .digits else AsciiClass.digit.toSet
  | .space => if unicode then .blanks else AsciiClass.space.toSet
  | .word => if unicode then .words else AsciiClass.word.toSet

/-- Two sets combined by an operator. -/
def SetOperator.apply : SetOperator → CharSet → CharSet → CharSet
  | .intersection, a, b => .inter a b
  | .difference, a, b => .diff a b
  | .symmetricDifference, a, b => .union (.diff a b) (.diff b a)

/-- A set or what is not in it. Where bytes are matched, it may hold ASCII only. -/
def negatedIf (flags : Flags) (negated : Bool) (span : Span) (set : CharSet) :
    Except Fault CharSet :=
  let set := if negated then .compl set else set
  if !flags.unicode && !set.isAscii then .error ⟨.invalidText, span, none⟩ else .ok set

/-- The character that is meant by a character of a class. Where bytes are matched, it has to be
one of ASCII. -/
def Literal.inClass (flags : Flags) (l : Literal) : Except Fault Char :=
  if flags.unicode || l.char.toNat < 128 then .ok l.char
  else .error ⟨if l.isByte then .invalidText else .unicodeNotAllowed, l.span, none⟩

/-- The set of characters that a class means. -/
def WrittenClass.toSet (flags : Flags) : WrittenClass → Except Fault CharSet
  | .empty => .ok .empty
  | .single l => do return .single (← l.inClass flags)
  | .range low high => do
    let a ← low.inClass flags
    let b ← high.inClass flags
    return .range a b
  | .ascii kind negated span => negatedIf flags negated span (flags.foldCase kind.toSet)
  | .letter kind negated span => negatedIf flags negated span (kind.toSet flags.unicode)
  | .property name negated span =>
    if !flags.unicode then .error ⟨.unicodeNotAllowed, span, none⟩
    else
      match name.toSet with
      | .ok set => negatedIf flags (negated != name.differs) span (flags.foldCase set)
      | .error reason => .error ⟨reason, span, none⟩
  | .bracketed content negated span => do
    negatedIf flags negated span (flags.foldCase (← content.toSet flags))
  | .union left right => do
    let a ← left.toSet flags
    let b ← right.toSet flags
    return .union a b
  | .combined operator left right => do
    let a ← left.toSet flags
    let b ← right.toSet flags
    return operator.apply (flags.foldCase a) (flags.foldCase b)

/-- What an assertion means. -/
def WrittenAssertion.meaning (flags : Flags) : WrittenAssertion → Assertion
  | .lineStart => if flags.multiLine then .lineStart flags.crlf else .textStart
  | .lineEnd => if flags.multiLine then .lineEnd flags.crlf else .textEnd
  | .textStart => .textStart
  | .textEnd => .textEnd
  | .boundary => .boundary flags.word
  | .noBoundary => .noBoundary flags.word
  | .wordStart => .wordStart flags.word
  | .wordEnd => .wordEnd flags.word
  | .wordStartHalf => .wordStartHalf flags.word
  | .wordEndHalf => .wordEndHalf flags.word

/-- The set of characters that a dot means. -/
def dotSet (flags : Flags) : CharSet :=
  if flags.dotAll then .full
  else if flags.crlf then .compl (.union (.single '\n') (.single '\r'))
  else .compl (.single '\n')

/-- What a written pattern means under flags, and the flags in force after it. -/
def Written.meaning (flags : Flags) : Written → Except Fault (Pattern × Flags)
  | .empty => .ok (.empty, flags)
  | .literal l =>
    if !flags.unicode && l.isByte && 128 ≤ l.char.toNat then .error ⟨.invalidText, l.span, none⟩
    else .ok (.one (flags.foldCase (.single l.char)), flags)
  | .dot span =>
    if flags.unicode then .ok (.one (dotSet flags), flags)
    else .error ⟨.invalidText, span, none⟩
  | .assertion kind => .ok (.assertion (kind.meaning flags), flags)
  | .charClass content => do
    return (.one (← content.toSet flags), flags)
  | .flags changes => .ok (.empty, flags.changeAll changes)
  | .group changes content => do
    let (p, _) ← content.meaning (flags.changeAll changes)
    return (p, flags)
  | .repetition content least most => do
    let (p, flags) ← content.meaning flags
    return (.repeated p least most, flags)
  | .concat left right => do
    let (p, flags) ← left.meaning flags
    let (q, flags) ← right.meaning flags
    return (.seq p q, flags)
  | .alternation left right => do
    let (p, flags) ← left.meaning flags
    let (q, flags) ← right.meaning flags
    return (.alt p q, flags)

/-- The pattern that a text writes. -/
def ofString (text : String) : Except Fault Pattern := do
  let written ← Written.ofString text
  let (p, _) ← written.meaning {}
  return p

end DebugShell.Pattern
