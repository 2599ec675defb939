/-!
# The printable part of a text

Terminals read escape sequences in a text as orders: `ESC [ … m` sets a colour, `ESC ] … BEL` a
title, and so on. The printable part of a text leaves out these sequences and every control
character other than tab, line feed, form feed and carriage return.
-/

namespace DebugShell.Terminal

/-- The escape character. -/
def escape : Char := '\x1b'

/-- The control characters that lay out text: tab, line feed, form feed and carriage return. -/
def isLayoutControl (c : Char) : Bool :=
  c == '\t' || c == '\n' || c == '\x0c' || c == '\r'

/-- What a reader of escape sequences is in the middle of. -/
inductive Sequence where
  /-- Ordinary text. -/
  | text
  /-- Just after an escape character. -/
  | start
  /-- An escape with intermediate characters, awaiting its final character. -/
  | short
  /-- A control sequence, which a character from `@` to `~` ends. -/
  | control
  /-- A command string, which only another escape ends. -/
  | string
  /-- An operating system command, which a bell ends. -/
  | command
  deriving DecidableEq

/-- Read one character: what is read next, and whether the character is printed. -/
def Sequence.step (state : Sequence) (c : Char) : Sequence × Bool :=
  let n := c.toNat
  if c = escape then (.start, false)
  else if n = 0x18 ∨ n = 0x1a then (.text, false)
  else match state with
  | .text => (.text, isLayoutControl c || (0x20 ≤ n && n != 0x7f))
  | .string => (.string, false)
  | .command => (if n = 7 then .text else .command, false)
  | .start | .short | .control =>
    if isLayoutControl c ∨ 0x80 ≤ n then (.text, true)
    else if n < 0x20 ∨ n = 0x7f then (state, false)
    else if state = .control then (if 0x40 ≤ n then .text else .control, false)
    else if n < 0x30 then (.short, false)
    else if state = .short then (.text, false)
    else if c = '[' then (.control, false)
    else if c = ']' then (.command, false)
    else if c = 'P' ∨ c = 'X' ∨ c = '^' ∨ c = '_' then (.string, false)
    else (.text, false)

/-- The printable part of the rest of a text. -/
def printableFrom (state : Sequence) : List Char → List Char
  | [] => []
  | c :: rest =>
    let (next, printed) := state.step c
    if printed then c :: printableFrom next rest else printableFrom next rest

/-- The printable part of a text. -/
def printable (cs : List Char) : List Char :=
  printableFrom .text cs

/-- The columns counted for a text: one for each character, except that a control character hides
itself and what follows it, up to and with the next `m`. -/
def columnsFrom (hidden : Bool) : List Char → Nat
  | [] => 0
  | c :: rest =>
    let hidden := hidden || c.toNat < 0x20 || c.toNat == 0x7f
    if hidden then columnsFrom (c != 'm') rest else columnsFrom false rest + 1

/-- The columns counted for a string. -/
def columns (s : String) : Nat :=
  columnsFrom false s.toList

end DebugShell.Terminal
