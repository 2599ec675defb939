import DebugShell.Pattern.CharSet

/-!
# Patterns

What a pattern means, and whether it occurs in a text. From a set of positions in the text a pattern
leads to the set of positions in which its matches end: a character leads from each position to the
next, an assertion keeps the positions in which it holds, and a repetition leads on as often as it
is allowed to. A pattern occurs in a text if it leads from all positions to some position.
-/

namespace DebugShell

namespace Pattern

/-- What is asserted of a position. -/
inductive Assertion where
  /-- The text starts. -/
  | textStart
  /-- The text ends. -/
  | textEnd
  /-- A line starts. -/
  | lineStart (crlf : Bool)
  /-- A line ends. -/
  | lineEnd (crlf : Bool)
  /-- A word starts or ends. -/
  | boundary (word : CharSet)
  /-- No word starts or ends. -/
  | noBoundary (word : CharSet)
  /-- A word starts. -/
  | wordStart (word : CharSet)
  /-- A word ends. -/
  | wordEnd (word : CharSet)
  /-- No word character stands before. -/
  | wordStartHalf (word : CharSet)
  /-- No word character stands after. -/
  | wordEndHalf (word : CharSet)
  deriving DecidableEq, Repr

/-- Whether an assertion holds between two neighbours, which are missing at the ends of the text. -/
def Assertion.holds (before after : Option Char) : Assertion → Bool
  | .textStart => before.isNone
  | .textEnd => after.isNone
  | .lineStart false => before.all (· == '\n')
  | .lineStart true => before.all (· == '\n') || (before == some '\r' && after != some '\n')
  | .lineEnd false => after.all (· == '\n')
  | .lineEnd true => after.all (· == '\r') || (after == some '\n' && before != some '\r')
  | .boundary word => before.any word.contains != after.any word.contains
  | .noBoundary word => before.any word.contains == after.any word.contains
  | .wordStart word => !before.any word.contains && after.any word.contains
  | .wordEnd word => before.any word.contains && !after.any word.contains
  | .wordStartHalf word => !before.any word.contains
  | .wordEndHalf word => !after.any word.contains

end Pattern

/-- A pattern. -/
inductive Pattern where
  /-- Nothing. -/
  | empty
  /-- A character of a set. -/
  | one (set : Pattern.CharSet)
  /-- An assertion. -/
  | assertion (assertion : Pattern.Assertion)
  /-- One after the other. -/
  | seq (first second : Pattern)
  /-- One or the other. -/
  | alt (left right : Pattern)
  /-- A number of times. -/
  | repeated (body : Pattern) (least : Nat) (most : Option Nat)
  deriving DecidableEq, Repr

namespace Pattern

/-- The positions of two lists, each once. -/
def merged (left right : List Nat) : List Nat :=
  left ++ right.filter fun i => !left.contains i

/-- A step applied a number of times. -/
def iterated (step : List Nat → List Nat) : Nat → List Nat → List Nat
  | 0, positions => positions
  | n + 1, positions => iterated step n (step positions)

/-- The positions reached by a step applied at most a number of times. -/
def reached (step : List Nat → List Nat) : Nat → List Nat → List Nat
  | 0, positions => positions
  | n + 1, positions => reached step n (merged positions (step positions))

/-- The positions in which matches end that start in one of the given positions. In a text of `n`
characters all positions that repetitions can reach are reached after `n + 1` of them. -/
def ends (text : Array Char) : Pattern → List Nat → List Nat
  | .empty, starts => starts
  | .one set, starts =>
    (starts.filter fun i => text[i]?.any set.contains).map (· + 1)
  | .assertion a, starts =>
    starts.filter fun i => a.holds (if i = 0 then none else text[i - 1]?) text[i]?
  | .seq first second, starts => second.ends text (first.ends text starts)
  | .alt left right, starts => merged (left.ends text starts) (right.ends text starts)
  | .repeated body least most, starts =>
    let bound := text.size + 1
    let further := match most with
      | some most => most - least
      | none => bound
    let step := body.ends text
    reached step (min further bound) (iterated step (min least bound) starts)

/-- Whether a pattern occurs in a text. -/
def occursIn (p : Pattern) (text : String) : Bool :=
  let cs := text.toList.toArray
  p.ends cs (List.range (cs.size + 1)) != []

end Pattern

end DebugShell
