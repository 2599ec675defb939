import DebugShell.Console
import DebugShell.Host
import DebugShell.Registers

/-!
# From a token to a machine integer

A token is evaluated by the host as it stands; if that fails and the token holds bare register
names, it is evaluated once more with the names marked. The value is taken modulo `2 ^ 64`. What
becomes of a failure is a matter of options: `fix` serves all of them with one pair of attempts,
whose expressions it records.
-/

namespace DebugShell

/-- What became of a failure to evaluate. -/
structure FixOptions where
  /-- Give the token back as it was typed. -/
  sloppy : Bool := false
  /-- Do not report the failure. -/
  quiet : Bool := true
  /-- Hand the failure on. -/
  reraise : Bool := false
  deriving DecidableEq, Repr

/-- A token that was turned into a value. -/
inductive Fixed where
  /-- The value of the expression, modulo `2 ^ 64`. -/
  | int (value : UInt64)
  /-- The token as it was typed. -/
  | raw (token : String)
  deriving DecidableEq, Repr

/-- A value with the expressions that were handed to the host for it, in order. -/
structure Traced (α : Type) where
  /-- The expressions handed to the host. -/
  evaluated : List String
  /-- The value. -/
  value : α

/-- A host, and whether failures can be reported to the operator. -/
structure Coercer where
  /-- The host that evaluates. -/
  host : Host
  /-- Whether there is a console to report to. -/
  reports : Bool := false

namespace Coercer

/-- The value of an expression, modulo `2 ^ 64`. -/
def evaluate (c : Coercer) (expression : String) : Except HostError UInt64 :=
  (c.host.evaluate expression).map .ofInt

/-- The two attempts at a token: as it stands, then with its register names marked if that makes a
difference. The failure of the last attempt is the one that counts. -/
def attempt (c : Coercer) (token : String) : Traced (Except HostError UInt64) :=
  match c.evaluate token with
  | .ok v => ⟨[token], .ok v⟩
  | .error first =>
    let marked := Registers.withMarks token c.host.registerNames
    if marked = token then ⟨[token], .error first⟩
    else ⟨[token, marked], c.evaluate marked⟩

/-- What turning a token into a value did. -/
structure Fixing where
  /-- The expressions handed to the host. -/
  evaluated : List String
  /-- What was reported. -/
  output : List Message
  /-- The value, if there is one, or the failure that was handed on. -/
  result : Except HostError (Option Fixed)

/-- Turn a token into a value, with the options' treatment of a failure. -/
def fix (c : Coercer) (token : String) (options : FixOptions := {}) : Fixing :=
  let attempts := c.attempt token
  match attempts.value with
  | .ok v => ⟨attempts.evaluated, [], .ok (some (.int v))⟩
  | .error e =>
    let output := if !options.quiet && c.reports then [.error e.message] else []
    let result :=
      if options.reraise then .error e
      else if options.sloppy then .ok (some (.raw token))
      else .ok none
    ⟨attempts.evaluated, output, result⟩

/-- The value of a token, or why it has none. -/
def fixInt (c : Coercer) (token : String) : Traced (Except HostError UInt64) :=
  let fixing := c.fix token { reraise := true }
  ⟨fixing.evaluated, match fixing.result with
    | .ok (some (.int v)) => .ok v
    | .ok _ => .error (.other s!"cannot evaluate `{token}`")
    | .error e => .error e⟩

/-- The value of a token, or the token itself if it has none. -/
def sloppyParse (c : Coercer) (token : String) : Traced Fixed :=
  let fixing := c.fix token { sloppy := true }
  ⟨fixing.evaluated, match fixing.result with
    | .ok (some fixed) => fixed
    | _ => .raw token⟩

end Coercer

end DebugShell
