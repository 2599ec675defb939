import DebugShell.Pattern.Property

/-!
# Patterns as they are written

A pattern with everything that its text says, including flags, which change the meaning of what
follows them. Parts whose meaning may be refused know where they stand.
-/

namespace DebugShell.Pattern

/-- A character of a pattern. -/
structure Literal where
  /-- The character. -/
  char : Char
  /-- It is written by two hexadecimal digits, and so may mean a byte. -/
  isByte : Bool := false
  /-- Where it stands. -/
  span : Span
  deriving DecidableEq, Repr

/-- The classes of characters that are written as a backslash and a letter. -/
inductive Letter where
  /-- Decimal digits. -/
  | digit
  /-- Blanks. -/
  | space
  /-- Word characters. -/
  | word
  deriving DecidableEq, Repr

/-- The classes of ASCII characters that are written by name. -/
inductive AsciiClass where
  /-- Letters and digits. -/
  | alnum
  /-- Letters. -/
  | alpha
  /-- All of ASCII. -/
  | ascii
  /-- Space and tab. -/
  | blank
  /-- Control characters. -/
  | cntrl
  /-- Digits. -/
  | digit
  /-- Visible characters. -/
  | graph
  /-- Small letters. -/
  | lower
  /-- Visible characters and the space. -/
  | print
  /-- Punctuation. -/
  | punct
  /-- Spaces and what breaks lines. -/
  | space
  /-- Capital letters. -/
  | upper
  /-- Word characters. -/
  | word
  /-- Hexadecimal digits. -/
  | xdigit
  deriving DecidableEq, Repr

/-- The class of ASCII characters of a name. -/
def AsciiClass.named? : String → Option AsciiClass
  | "alnum" => some .alnum
  | "alpha" => some .alpha
  | "ascii" => some .ascii
  | "blank" => some .blank
  | "cntrl" => some .cntrl
  | "digit" => some .digit
  | "graph" => some .graph
  | "lower" => some .lower
  | "print" => some .print
  | "punct" => some .punct
  | "space" => some .space
  | "upper" => some .upper
  | "word" => some .word
  | "xdigit" => some .xdigit
  | _ => none

/-- How two classes are combined. -/
inductive SetOperator where
  /-- What is in both. -/
  | intersection
  /-- What is in the first and not in the second. -/
  | difference
  /-- What is in one of them. -/
  | symmetricDifference
  deriving DecidableEq, Repr

/-- A class of characters as it is written. -/
inductive WrittenClass where
  /-- No characters. -/
  | empty
  /-- One character. -/
  | single (literal : Literal)
  /-- A range. -/
  | range (low high : Literal)
  /-- A class of ASCII characters. -/
  | ascii (kind : AsciiClass) (negated : Bool) (span : Span)
  /-- A class written by a letter. -/
  | letter (kind : Letter) (negated : Bool) (span : Span)
  /-- The characters with a property. -/
  | property (name : PropertyName) (negated : Bool) (span : Span)
  /-- A class in brackets. -/
  | bracketed (content : WrittenClass) (negated : Bool) (span : Span)
  /-- The characters of two classes. -/
  | union (left right : WrittenClass)
  /-- Two classes combined by an operator. -/
  | combined (operator : SetOperator) (left right : WrittenClass)
  deriving DecidableEq, Repr

/-- The flags that change the meaning of a pattern. -/
inductive Flag where
  /-- Letters match in either case. -/
  | ignoreCase
  /-- Line assertions hold at each line. -/
  | multiLine
  /-- The dot matches line feeds. -/
  | dotAll
  /-- Repetitions prefer to be short. -/
  | swapGreed
  /-- Characters are matched, and not bytes. -/
  | unicode
  /-- Lines also end at carriage returns. -/
  | crlf
  /-- Blanks and comments in the pattern are ignored. -/
  | verbose
  deriving DecidableEq, Repr

/-- The flag of a letter. -/
def Flag.named? : Char → Option Flag
  | 'i' => some .ignoreCase
  | 'm' => some .multiLine
  | 's' => some .dotAll
  | 'U' => some .swapGreed
  | 'u' => some .unicode
  | 'R' => some .crlf
  | 'x' => some .verbose
  | _ => none

/-- What is asserted of a position. -/
inductive WrittenAssertion where
  /-- `^` -/
  | lineStart
  /-- `$` -/
  | lineEnd
  /-- `\A` -/
  | textStart
  /-- `\z` -/
  | textEnd
  /-- `\b` -/
  | boundary
  /-- `\B` -/
  | noBoundary
  /-- A word starts. -/
  | wordStart
  /-- A word ends. -/
  | wordEnd
  /-- No word character stands before. -/
  | wordStartHalf
  /-- No word character stands after. -/
  | wordEndHalf
  deriving DecidableEq, Repr

/-- A pattern as it is written. -/
inductive Written where
  /-- Nothing. -/
  | empty
  /-- A character. -/
  | literal (literal : Literal)
  /-- Any character. -/
  | dot (span : Span)
  /-- An assertion. -/
  | assertion (kind : WrittenAssertion)
  /-- A class of characters. -/
  | charClass (content : WrittenClass)
  /-- A change of flags for what follows: each flag that is changed, and whether it is set. -/
  | flags (changes : List (Flag × Bool))
  /-- A group, with changes of flags inside it. -/
  | group (changes : List (Flag × Bool)) (content : Written)
  /-- A repetition. -/
  | repetition (content : Written) (least : Nat) (most : Option Nat)
  /-- One after the other. -/
  | concat (left right : Written)
  /-- One or the other. -/
  | alternation (left right : Written)
  deriving DecidableEq, Repr

end DebugShell.Pattern
