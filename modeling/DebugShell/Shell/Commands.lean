import DebugShell.Command
import DebugShell.Target

/-!
# The shell's commands

The commands that come with the shell, over a described target. What they remember is how far the
target has run: the number of call sites that have been passed.
-/

namespace DebugShell.Shell

/-- A way of reading filters: a filter tells whether it accepts a function's name, and a text that
is no filter is reported. -/
abbrev FilterReader := String → Except String (String → Bool)

/-- A body that tells the operator something and completes. -/
def telling (passed : Nat) (output : List Message) (evaluated : List String := []) : BodyRun Nat :=
  { memory := passed, evaluated, output }

/-- A body that fails. -/
def failing (passed : Nat) (failure : Failure) (evaluated : List String := []) : BodyRun Nat :=
  { memory := passed, evaluated, result := .error failure }

/-- A failure of the host. -/
def hostFailure (e : HostError) : Failure :=
  .ofText e.message

/-- The numeral that a value is shown with, modulo `2 ^ 64`. -/
def wordText (value : Int) : String :=
  Numeral.hex (UInt64.ofInt value).toNat

/-- The command that shows a segment's base, which is kept in a register. -/
def segmentBase (name segment register : String) : Command Nat :=
  { name
    category := "Register"
    spec := { description := s!"Prints out the {segment} base address." }
    gates := [.whenRunning, .withArch ["i386", "x86-64"]]
    body := fun i passed =>
      let expression := "$" ++ register
      match i.host.evaluate expression with
      | .ok base => telling passed [.plain (wordText base)] [expression]
      | .error e => failing passed (hostFailure e) [expression] }

/-- Of the symbols that are not above an address, the one with the greatest address; of several with
that address, the last. -/
def nearestSymbol? (address : UInt64) : List (String × UInt64) → Option (String × UInt64)
  | [] => none
  | s :: rest =>
    match nearestSymbol? address rest with
    | some t => if s.2 ≤ address ∧ t.2 < s.2 then some s else some t
    | none => if s.2 ≤ address then some s else none

/-- The name of the function that the program counter is in. -/
def currentFunction (t : Target) (host : Host) : Except Failure String :=
  match host.evaluate "$pc" with
  | .error e => .error (hostFailure e)
  | .ok value =>
    let pc := UInt64.ofInt value
    match nearestSymbol? pc t.symbols.toList with
    | some (name, _) => .ok name
    | none =>
      .error (.ofText s!"Could not determine the current function at {Numeral.hex pc.toNat}")

/-- The body that shows the source of a function. -/
def showSource (t : Target) (passed : Nat) (function : String) (evaluated : List String) :
    BodyRun Nat :=
  match t.decompiled.get? function with
  | some source => telling passed (source.textLines.map .plain) evaluated
  | none => failing passed (.ofText s!"Could not find function {function}") evaluated

/-- The command that shows the source of a function. -/
def ghidra (t : Target) : Command Nat :=
  { name := "ghidra"
    category := "Integrations"
    spec :=
      { description := "Decompile a given function using Ghidra."
        params :=
          [.optional "func" "Function to be decompiled. Defaults to the current function."] }
    gates := [.withFile]
    body := fun i passed =>
      match i.args.str? "func" with
      | some function => showSource t passed function []
      | none =>
        match currentFunction t i.host with
        | .ok function => showSource t passed function ["$pc"]
        | .error failure => failing passed failure ["$pc"] }

/-- The size of a pointer in bytes. -/
def pointerSize : Int := 8

/-- The line that tells how far one address is from another, in bytes and in words. -/
def distanceLine (a b : UInt64) : String :=
  let bytes : Int := b.toNat - a.toNat
  let words := bytes.tdiv pointerSize
  s!"{Numeral.hex a.toNat}->{Numeral.hex b.toNat} is {Numeral.signedHex bytes} bytes " ++
    s!"({Numeral.signedHex words} words)"

/-- The command that tells how far one address is from another. -/
def distance : Command Nat :=
  { name := "distance"
    aliases := ["dist"]
    category := "Memory"
    spec :=
      { description := "Print the distance between the two arguments."
        params :=
          [(Param.positional "a" "The first address.").withCoercion .expressionOrAbort,
           (Param.positional "b" "The second address.").withCoercion .expressionOrAbort] }
    body := fun i passed =>
      match i.args.int? "a", i.args.int? "b" with
      | some a, some b => telling passed [.plain (distanceLine a b)]
      | _, _ => failing passed (.ofText "both addresses are required") }

/-- The first call site from a number of them on that a filter accepts, and its number. -/
def nextSite? (sites : List CallSite) (accepts : String → Bool) (passed : Nat) :
    Option (Nat × CallSite) :=
  ((sites.drop passed).findIdx? fun site => accepts site.callee).bind fun i =>
    (sites[passed + i]?).map fun site => (passed + i, site)

/-- Run on to the next call site that a filter accepts, or past all of them. -/
def runToCall (sites : List CallSite) (accepts : String → Bool) (passed : Nat) : Nat × Message :=
  match nextSite? sites accepts passed with
  | some (i, site) =>
    (i + 1, .plain s!"Stopped at call {Numeral.hex site.address.toNat} <{site.callee}>")
  | none => (sites.length, .warn "No further call instructions.")

/-- The filter that an invocation asks for: by default one that accepts every name. -/
def requestedFilter (readFilter : FilterReader) (args : Arguments) :
    Except String (String → Bool) :=
  match args.str? "symbol_regex" with
  | some text => readFilter text
  | none => .ok fun _ => true

/-- The command that runs on to the next call. -/
def nextcall (t : Target) (readFilter : FilterReader) : Command Nat :=
  { name := "nextcall"
    category := "Step/Next/Continue"
    spec :=
      { description := "Breaks at the next call instruction."
        params :=
          [.optional "symbol_regex"
            "A regex matching the name of the next function to stop at."] }
    gates := [.whenRunning]
    body := fun i passed =>
      match requestedFilter readFilter i.args with
      | .error report => failing passed (.ofText report)
      | .ok accepts =>
        let (passed, message) := runToCall t.callSites accepts passed
        let note :=
          if i.repeated then [Message.info "Continuing to the next call (repeated)"] else []
        telling passed (note ++ [message]) }

/-- The command that shows the version of the kernel. -/
def kversion (t : Target) : Command Nat :=
  { name := "kversion"
    category := "Kernel"
    spec := { description := "Displays the kernel version." }
    gates := [.whenQemuKernel, .withKernelDebugSymbols, .whenPagingEnabled]
    body := fun _ passed =>
      match t.kernelVersion with
      | some version => telling passed [.plain version]
      | none => failing passed (.ofText "linux_banner is not readable") }

/-- The command that tells where an arena is: the given one, or the main arena. -/
def arena : Command Nat :=
  { name := "arena"
    category := "Heap"
    spec :=
      { description := "Print the contents of an arena."
        params :=
          [(Param.optional "addr" "Address of the arena.").withCoercion .hexOrExpression] }
    gates := [.whenRunning, .whenHeapInitialized]
    requiresHeap := true
    body := fun i passed =>
      let address := match i.args.int? "addr" with
        | some a => Except.ok a
        | none => i.resolve "main_arena"
      let via := match i.heap with
        | some strategy => strategy.name
        | none => "none"
      match address with
      | .ok a => telling passed [.plain s!"arena @ {Numeral.hex a.toNat} (resolved via {via})"]
      | .error e => failing passed ⟨.heap e, []⟩ }

/-- The command that tells where the thread cache is. -/
def tcachebins : Command Nat :=
  { name := "tcachebins"
    category := "Heap"
    spec := { description := "Print the contents of a tcache." }
    gates := [.whenRunning, .whenHeapInitialized, .withTcache]
    requiresHeap := true
    body := fun i passed =>
      match i.resolve "tcache" with
      | .ok a => telling passed [.plain s!"tcachebins @ {Numeral.hex a.toNat}"]
      | .error e => failing passed ⟨.heap e, []⟩ }

/-- The lines that list the settings: names in a column, then values. -/
def settingLines (c : Config) : List String :=
  let settings := c.describe
  let width := (settings.map fun s => s.1.length).foldl max 0
  settings.map fun (name, value) => s!"{name.padTo width} = {value}"

/-- The command that lists the settings. -/
def heapConfig : Command Nat :=
  { name := "heap_config"
    category := "Heap"
    spec := { description := "Shows heap related configuration." }
    body := fun i passed =>
      telling passed ((settingLines i.config ++
        ["Use `set <setting> <value>` to change them."]).map .plain) }

/-- The commands of the shell, in the order in which they are registered. -/
def commands (t : Target) (readFilter : FilterReader) : List (Command Nat) :=
  [segmentBase "fsbase" "fs" "fs_base", segmentBase "gsbase" "gs" "gs_base", ghidra t, distance,
   nextcall t readFilter, kversion t, arena, tcachebins, heapConfig]

end DebugShell.Shell
