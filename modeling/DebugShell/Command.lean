import DebugShell.Arguments
import DebugShell.Gate
import DebugShell.Heap.Run

/-!
# Commands

A command has a name and aliases, a category under which it is listed, parameters, gates, and a body
that does its work. The body is given the invocation: the arguments, the host, the settings, whether
the operator only pressed Enter, and the strategy for heap symbols if the command asked for one.
-/

namespace DebugShell

/-- What a command's body is given. -/
structure Invocation where
  /-- The name of the command. -/
  command : String
  /-- The host. -/
  host : Host
  /-- The settings. -/
  config : Config
  /-- The arguments. -/
  args : Arguments
  /-- The operator ran the last command again by pressing Enter. -/
  repeated : Bool
  /-- The strategy for heap symbols, if the command requires a resolved heap. -/
  heap : Option HeapStrategy

/-- The address of a heap symbol under the invocation's strategy. -/
def Invocation.resolve (i : Invocation) (symbol : String) : Except HeapError UInt64 :=
  match i.heap with
  | some strategy => strategy.resolve i.host i.config symbol
  | none => .error .notSelected

/-- The work of a command. `σ` is what commands remember from one invocation to the next. -/
abbrev Body (σ : Type) := Invocation → σ → BodyRun σ

/-- A command. -/
structure Command (σ : Type) where
  /-- Its name. -/
  name : String
  /-- Other names for it. -/
  aliases : List String := []
  /-- The category under which it is listed. -/
  category : String := "Misc"
  /-- What it does, and its parameters. -/
  spec : ArgumentSpec
  /-- The conditions that it needs, in the order in which they are checked. -/
  gates : List Gate := []
  /-- It runs under a strategy for heap symbols. -/
  requiresHeap : Bool := false
  /-- Its work. -/
  body : Body σ

namespace Command

variable {σ : Type}

/-- All names of a command, its own first. -/
def names (c : Command σ) : List String :=
  c.name :: c.aliases

/-- The help text of a command. -/
def help (c : Command σ) : String :=
  c.spec.help c.name

end Command

end DebugShell
