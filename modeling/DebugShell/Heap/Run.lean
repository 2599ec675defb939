import DebugShell.Heap.Selection

/-!
# Running the body of a heap command

A body runs under the strategy that was selected for it. If it fails, the operator is told which
symbol was not found, or else what to try next, and the failure is absorbed unless the settings ask
for failures to be handed on.
-/

namespace DebugShell

/-- What running a body did. `σ` is what commands remember from one invocation to the next. -/
structure BodyRun (σ : Type) where
  /-- What the commands remember afterwards. -/
  memory : σ
  /-- The expressions handed to the host. -/
  evaluated : List String := []
  /-- What the operator was told. -/
  output : List Message := []
  /-- Whether the body completed. -/
  result : Except Failure Unit := .ok ()

/-- What became of the body of a heap command. -/
inductive HeapRun where
  /-- No strategy could be used, and the body was not started. -/
  | unavailable
  /-- The body completed. -/
  | completed
  /-- The body failed; the failure was reported and absorbed. -/
  | absorbed
  deriving DecidableEq, Repr

/-- What running a heap command did. -/
structure HeapReport (σ : Type) where
  /-- The strategy that is stored afterwards. -/
  stored : HeapStrategy
  /-- The strategy that the body ran under, if it was started. -/
  ranUnder : Option HeapStrategy
  /-- What the commands remember afterwards. -/
  memory : σ
  /-- The expressions handed to the host. -/
  evaluated : List String
  /-- What the operator was told. -/
  output : List Message
  /-- What became of the body, or its failure if that is handed on. -/
  answer : Except Failure HeapRun

/-- What to try after a failure that is not about a symbol, by the strategy the body ran under. -/
def HeapStrategy.hint : HeapStrategy → String
  | .heuristic =>
    "Maybe you can try to determine the libc symbols addresses manually, set them appropriately " ++
      "and re-run this command. For this, see the `heap_config` command output and set the " ++
      "`main_arena`, `mp_`, `global_max_fast`, `tcache` and `thread_arena` addresses."
  | .debugSymbols => "You can try `set resolve-heap-via-heuristic force` and re-run this command."

/-- The report of a heap command's failure. -/
def heapFailureReport (command : String) (strategy : HeapStrategy) (cause : Cause) :
    List Message :=
  match cause with
  | .heap (.symbolUnresolvable symbol) =>
    [.error s!"{command}: Fail to resolve the symbol: `{symbol}`",
      .warn <| "You can try to determine the libc symbols addresses manually and set them " ++
        "appropriately. For this, see the `heap_config` command output and set the config " ++
        "about `" ++ symbol ++ "`."]
  | _ =>
    [.error s!"{command}: An unknown error occurred when running this command.",
      .warn strategy.hint]

/-- Select a strategy and run a body under it. -/
def HeapStrategy.run {σ : Type} (stored : HeapStrategy) (host : Host) (config : Config)
    (command : String) (memory : σ) (body : HeapStrategy → BodyRun σ) : HeapReport σ :=
  let selection := stored.select host config
  match selection.strategy with
  | none => ⟨selection.stored, none, memory, [], selection.output, .ok .unavailable⟩
  | some strategy =>
    let ran := body strategy
    let output := selection.output ++ ran.output
    match ran.result with
    | .ok () => ⟨selection.stored, strategy, ran.memory, ran.evaluated, output, .ok .completed⟩
    | .error failure =>
      let output := output ++ heapFailureReport command strategy failure.cause
      if config.wantsRawErrors then
        ⟨selection.stored, strategy, ran.memory, ran.evaluated, output, .error failure⟩
      else
        ⟨selection.stored, strategy, ran.memory, ran.evaluated, output ++ [verbosityPointer],
          .ok .absorbed⟩

end DebugShell
