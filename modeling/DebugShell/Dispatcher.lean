import DebugShell.History
import DebugShell.Registry

/-!
# Dispatching an invocation

One invocation passes these stages, and ends at the first that stops it: the name is looked up, the
arguments are parsed, a repeat is recognised, the gates are checked, a strategy for heap symbols is
selected if the command needs one, and the body runs. A body's failure is reported and absorbed,
unless the settings ask for failures to be handed on.
-/

namespace DebugShell

/-- What became of an invocation. -/
inductive Outcome where
  /-- Nothing was typed. -/
  | empty
  /-- No command has that name. -/
  | unknownCommand
  /-- The arguments were not accepted, or help was asked for. -/
  | usageAborted
  /-- A condition that the command needs does not hold. -/
  | preconditionUnmet (gate : Gate)
  /-- No strategy for heap symbols could be used. -/
  | heapUnavailable
  /-- The body failed; the failure was reported and absorbed. -/
  | failed
  /-- The body completed. -/
  | completed
  deriving DecidableEq, Repr

/-- What is kept between invocations. `σ` is what commands remember. -/
structure Dispatcher (σ : Type) where
  /-- The commands. -/
  registry : Registry σ
  /-- The numbers of the history entries that were seen. -/
  seen : History.Seen := []
  /-- The strategy for heap symbols that was used last. -/
  strategy : HeapStrategy := .debugSymbols
  /-- The settings. -/
  config : Config := {}
  /-- What the commands remember. -/
  memory : σ

/-- What an invocation did. -/
structure Report (σ : Type) where
  /-- What is kept afterwards. -/
  dispatcher : Dispatcher σ
  /-- What the body was given, if it was started. -/
  started : Option Invocation := none
  /-- The expressions handed to the host. -/
  evaluated : List String := []
  /-- What the operator was told. -/
  output : List Message := []
  /-- What became of it, or the body's failure if that is handed on. -/
  answer : Except Failure Outcome

/-- The report that no command has a name. -/
def undefinedCommand (name : String) : Message :=
  .error s!"Undefined command: \"{name}\".  Try \"help\"."

/-- The report that a body failed. -/
def failureReport (command description : String) (failure : Failure) : List Message :=
  [.error s!"Exception occurred: {command}: {failure.message}",
    .plain s!"'{command}': {description}"]

namespace Dispatcher

variable {σ : Type}

/-- A dispatcher for a host, whose own commands may not be shadowed. -/
def forHost (host : Host) (config : Config) (memory : σ) : Dispatcher σ :=
  { registry := .ofListing host.builtinListing, config, memory }

/-- Register a command. -/
def register (d : Dispatcher σ) (c : Command σ) : Except RegistryError (Dispatcher σ) :=
  match d.registry.register c with
  | .ok registry => .ok { d with registry }
  | .error e => .error e

/-- Change a setting. Setting the resolution mode also stores the strategy that it starts with. -/
def setConfig (d : Dispatcher σ) (name value : String) : Except ConfigError (Dispatcher σ) :=
  match d.config.set name value with
  | .error e => .error e
  | .ok config =>
    if Setting.named? name = some .resolutionMode then
      .ok { d with config, strategy := .preferred config.resolutionMode }
    else .ok { d with config }

/-- Run the body of a command that has passed all checks. -/
def perform (d : Dispatcher σ) (c : Command σ) (invocation : Invocation) : Report σ :=
  if c.requiresHeap then
    let run := d.strategy.run invocation.host d.config c.name d.memory fun strategy =>
      c.body { invocation with heap := some strategy } d.memory
    { dispatcher := { d with strategy := run.stored, memory := run.memory }
      started := run.ranUnder.map fun strategy => { invocation with heap := some strategy }
      evaluated := run.evaluated
      output := run.output
      answer := run.answer.map fun
        | .unavailable => .heapUnavailable
        | .completed => .completed
        | .absorbed => .failed }
  else
    let run := c.body invocation d.memory
    let report : Report σ :=
      { dispatcher := { d with memory := run.memory }, started := some invocation,
        evaluated := run.evaluated, output := run.output, answer := .ok .completed }
    match run.result with
    | .ok () => report
    | .error failure =>
      let output := run.output ++ failureReport c.name c.spec.description failure
      if d.config.wantsRawErrors then { report with output, answer := .error failure }
      else { report with output := output ++ [verbosityPointer], answer := .ok .failed }

/-- Invoke a command by one of its names. -/
def invoke (d : Dispatcher σ) (host : Host) (name argument : String) (interactive : Bool) :
    Report σ :=
  match d.registry.find? name with
  | none =>
    { dispatcher := d, output := [undefinedCommand name], answer := .ok .unknownCommand }
  | some c =>
    let parsed := c.spec.parse c.name host argument
    match parsed.value with
    | .error abort =>
      let text := abort.message.trimBlanksEnd
      { dispatcher := d, evaluated := parsed.evaluated
        output := [if abort.helpRequested then .plain text else .error text]
        answer := .ok .usageAborted }
    | .ok args =>
      let (repeated, seen) := History.isRepeat d.seen host.historyTail argument interactive
      let d := { d with seen }
      match Gate.firstUnmet c.gates host.session with
      | some gate =>
        { dispatcher := d, evaluated := parsed.evaluated
          output := [.error (gate.diagnostic c.name host.session)]
          answer := .ok (.preconditionUnmet gate) }
      | none =>
        let report := d.perform c
          { command := c.name, host, config := d.config, args, repeated, heap := none }
        { report with evaluated := parsed.evaluated ++ report.evaluated }

/-- The name and the argument text of a line: the line is cut at its first blank. -/
def cutLine (line : String) : String × String :=
  let cs := Text.trim line.toList
  (String.ofList (Text.firstWord cs), String.ofList (Text.trimStart (Text.afterFirstWord cs)))

/-- Invoke a command by a line. -/
def invokeLine (d : Dispatcher σ) (host : Host) (line : String) (interactive : Bool) : Report σ :=
  match cutLine line with
  | ("", _) => { dispatcher := d, answer := .ok .empty }
  | (name, argument) => d.invoke host name argument interactive

end Dispatcher

end DebugShell
