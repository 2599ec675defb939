import DebugShell.Text.Blank
import DebugShell.Text.Numeral

/-!
# Expressions

Sums, differences, products and negations of numbers, registers and symbols. An expression is read
in two steps: its text is cut into tokens, and the tokens are assembled into a tree by one walk that
keeps the sums, products and negations that await their operands, with those of the parentheses that
are open.

    sum     = product (('+' | '-') product)*
    product = factor ('*' factor)*
    factor  = number | register | symbol | '(' sum ')' | '-' factor

Both chains lean to the left. Spaces, tabs, carriage returns and line feeds may stand around tokens.
-/

namespace DebugShell

/-- The operators between two operands. -/
inductive Operator where
  /-- Addition. -/
  | add
  /-- Subtraction. -/
  | sub
  /-- Multiplication. -/
  | mul
  deriving DecidableEq, Repr

/-- Expressions. -/
inductive Expression where
  /-- A number. -/
  | number (value : Nat)
  /-- The value of a register. -/
  | register (name : String)
  /-- The address of a symbol. -/
  | symbol (name : String)
  /-- A negation. -/
  | neg (operand : Expression)
  /-- An operation on two operands. -/
  | binary (operator : Operator) (left right : Expression)
  deriving DecidableEq, Repr

namespace Expression

/-- The tokens that expressions are written with. -/
inductive Token where
  /-- A number. -/
  | number (value : Nat)
  /-- A register: a name behind its mark. -/
  | register (name : String)
  /-- A symbol. -/
  | symbol (name : String)
  /-- `+` -/
  | plus
  /-- `-` -/
  | minus
  /-- `*` -/
  | times
  /-- `(` -/
  | opening
  /-- `)` -/
  | closing
  deriving DecidableEq, Repr

/-- The characters that may stand around tokens. -/
def isSpace (c : Char) : Bool :=
  c == ' ' || c == '\t' || c == '\r' || c == '\n'

/-- The characters that a name can start with. -/
def isNameStart (c : Char) : Bool :=
  c.isAlpha || c == '_'

/-- The characters that a name can go on with. -/
def isNameChar (c : Char) : Bool :=
  c.isAlphanum || c == '_' || c == '.'

/-- Numbers are below `2 ^ 127`. -/
def numberBound : Nat := 0x80000000000000000000000000000000

/-- The number that a nonempty run of digits denotes, if it is not too large. -/
def number? (base : Nat) (digits : List Char) : Option Nat :=
  (Numeral.digits? base digits).filter (· < numberBound)

/-- The token that starts with `c` and goes on with characters of `rest`, and how many of these it
takes. A hexadecimal mark without digits is no part of a number. -/
def tokenAt? (c : Char) (rest : List Char) : Option (Token × Nat) :=
  let name := rest.takeWhile isNameChar
  let decimal := rest.takeWhile (Numeral.isDigit 10)
  if c = '+' then some (.plus, 0)
  else if c = '-' then some (.minus, 0)
  else if c = '*' then some (.times, 0)
  else if c = '(' then some (.opening, 0)
  else if c = ')' then some (.closing, 0)
  else if isNameStart c then some (.symbol (String.ofList (c :: name)), name.length)
  else if c = '$' then
    if rest.head?.any isNameStart then some (.register (String.ofList name), name.length) else none
  else if Numeral.isDigit 10 c then
    let hex := match Numeral.afterHexMark? (c :: rest) with
      | some digits => digits.takeWhile (Numeral.isDigit 16)
      | none => []
    if hex = [] then (number? 10 (c :: decimal)).map fun n => (.number n, decimal.length)
    else (number? 16 hex).map fun n => (.number n, hex.length + 1)
  else none

/-- The tokens of the rest of a text, of which the next `skip` characters belong to a token that has
been read. -/
def tokensFrom : Nat → List Char → Option (List Token)
  | _, [] => some []
  | skip + 1, _ :: rest => tokensFrom skip rest
  | 0, c :: rest =>
    if isSpace c then tokensFrom 0 rest
    else
      match tokenAt? c rest with
      | some (token, length) => (tokensFrom length rest).map (token :: ·)
      | none => none

/-- The tokens of a text, if it consists of tokens and spaces. -/
def tokens? (cs : List Char) : Option (List Token) :=
  tokensFrom 0 cs

/-- What awaits the next factor. -/
structure Awaiting where
  /-- The sum so far and the operator that the current product is joined to it with. -/
  sum : Option (Expression × Operator) := none
  /-- The product so far. -/
  product : Option Expression := none
  /-- The number of minus signs in front of the factor. -/
  negations : Nat := 0

/-- How far a walk over tokens has come. `outer` is what awaits the parentheses that are open, the
innermost first. -/
inductive Walk where
  /-- A factor is expected. -/
  | expectFactor (awaiting : Awaiting) (outer : List Awaiting)
  /-- A product has been read, and an operator, a closing parenthesis or the end is expected. -/
  | afterProduct (sum : Option (Expression × Operator)) (product : Expression)
      (outer : List Awaiting)

/-- An expression behind a number of minus signs. -/
def negated : Nat → Expression → Expression
  | 0, e => e
  | n + 1, e => .neg (negated n e)

/-- The sum so far with a last product joined to it. -/
def joined (sum : Option (Expression × Operator)) (product : Expression) : Expression :=
  match sum with
  | some (left, operator) => .binary operator left product
  | none => product

/-- Go on with a factor that has been read. -/
def Walk.supply (awaiting : Awaiting) (outer : List Awaiting) (factor : Expression) : Walk :=
  let factor := negated awaiting.negations factor
  let product := match awaiting.product with
    | some left => .binary .mul left factor
    | none => factor
  .afterProduct awaiting.sum product outer

/-- Go on with a token, if it can stand here. -/
def Walk.step : Walk → Token → Option Walk
  | .expectFactor awaiting outer, .number n => some (.supply awaiting outer (.number n))
  | .expectFactor awaiting outer, .register name => some (.supply awaiting outer (.register name))
  | .expectFactor awaiting outer, .symbol name => some (.supply awaiting outer (.symbol name))
  | .expectFactor awaiting outer, .opening => some (.expectFactor {} (awaiting :: outer))
  | .expectFactor awaiting outer, .minus =>
    some (.expectFactor { awaiting with negations := awaiting.negations + 1 } outer)
  | .expectFactor _ _, _ => none
  | .afterProduct sum product outer, .times => some (.expectFactor ⟨sum, some product, 0⟩ outer)
  | .afterProduct sum product outer, .plus =>
    some (.expectFactor ⟨some (joined sum product, .add), none, 0⟩ outer)
  | .afterProduct sum product outer, .minus =>
    some (.expectFactor ⟨some (joined sum product, .sub), none, 0⟩ outer)
  | .afterProduct sum product (awaiting :: outer), .closing =>
    some (.supply awaiting outer (joined sum product))
  | .afterProduct _ _ _, _ => none

/-- Go on with tokens, as far as they can stand here. -/
def Walk.run (walk : Walk) : List Token → Option Walk
  | [] => some walk
  | token :: rest => (walk.step token).bind fun walk => walk.run rest

/-- The expression that has been read, if the walk can end here. -/
def Walk.result? : Walk → Option Expression
  | .afterProduct sum product [] => some (joined sum product)
  | _ => none

/-- The expression that a list of tokens writes. -/
def ofTokens? (tokens : List Token) : Option Expression :=
  ((Walk.expectFactor {} []).run tokens).bind Walk.result?

/-- The expression that a text writes. -/
def ofString? (text : String) : Option Expression :=
  (tokens? text.toList).bind ofTokens?

end Expression

end DebugShell
