import DebugShell.Heap.Strategy

/-!
# Selecting a strategy for a heap command

The strategy that was used last is stored. Before a heap command runs, the stored strategy is kept,
exchanged for the other one, or neither can be used and the operator is told why. The resolution
mode is read here and never changed.
-/

namespace DebugShell

/-- The advice to set the version of the C library. -/
def setGlibcHint : String :=
  "Please set the GLIBC version you think the target binary was compiled (using `set glibc " ++
    "<version>` command; e.g. 2.32) and re-run this command."

/-- The report that the C library may not be loaded yet. -/
def glibcNotLoaded : List Message :=
  [.error <| "Can't find GLIBC version required for this command to work, maybe is because " ++
      "GLIBC is not loaded yet.",
    .warn <| "If you believe the GLIBC is loaded or this is a statically linked binary. " ++
      setGlibcHint]

/-- The warning that heap symbols are now located heuristically. -/
def fallbackWarning : Message :=
  .warn <| "pwngate will try to resolve the heap symbols via heuristic now since we cannot " ++
    "resolve the heap via the debug symbols.\n" ++
    "This might not work in all cases. Use `help set resolve-heap-via-heuristic` for more details."

/-- The report that the forced mode cannot be used with the stored strategy. -/
def forcedWithDebugSymbols : List Message :=
  [.error <| "You are forcing to resolve the heap symbols via heuristic, but the active " ++
      "strategy still resolves them via the debug symbols.",
    .warn "Use `set resolve-heap-via-heuristic auto` and re-run this command."]

/-- The report that neither strategy can be used in automatic mode. -/
def neitherStrategy (host : Host) : List Message :=
  if isStaticallyLinked host then
    [.error <| "Can't find GLIBC version required for this command to work since this is a " ++
        "statically linked binary",
      .warn setGlibcHint]
  else glibcNotLoaded

/-- The report that the heuristic strategy lacks a version of the C library. -/
def heuristicWithoutGlibc (host : Host) : List Message :=
  if isStaticallyLinked host then
    [.error "Can't resolve the heap since the GLIBC version is not set.", .warn setGlibcHint]
  else glibcNotLoaded

/-- The report that should never be needed. -/
def unknownSelectionError : List Message :=
  [.error "An unknown error occurred when resolved the heap.",
    issuePointer "An unknown error occurred when resolved the heap"]

/-- What a selection came to. -/
structure Selection where
  /-- The strategy to use, if there is one. -/
  strategy : Option HeapStrategy
  /-- The strategy that is stored afterwards. -/
  stored : HeapStrategy
  /-- What the operator is told. -/
  output : List Message

namespace HeapStrategy

/-- The stored strategy, exchanged where the other one is to be preferred: in automatic mode debug
symbols that are there, in forced mode the heuristic that has a version. -/
def revised (stored : HeapStrategy) (host : Host) (config : Config) : HeapStrategy :=
  match config.resolutionMode, stored with
  | .auto, .heuristic =>
    if debugSymbols.canBeResolved host config then .debugSymbols else .heuristic
  | .force, .debugSymbols =>
    if heuristic.canBeResolved host config then .heuristic else .debugSymbols
  | _, stored => stored

/-- Whether a strategy may be used in a mode: forced mode excludes debug symbols. -/
def allowedIn (strategy : HeapStrategy) (mode : ResolutionMode) : Bool :=
  !(mode == .force && strategy == .debugSymbols)

/-- Select a strategy for a heap command, where `stored` is the one that was used last. -/
def select (stored : HeapStrategy) (host : Host) (config : Config) : Selection :=
  let mode := config.resolutionMode
  let current := stored.revised host config
  if current.allowedIn mode && current.canBeResolved host config then ⟨some current, current, []⟩
  else
    match current, mode with
    | .debugSymbols, .auto =>
      if heuristic.canBeResolved host config then
        ⟨some .heuristic, .heuristic, [fallbackWarning]⟩
      else ⟨none, current, neitherStrategy host⟩
    | .debugSymbols, .force => ⟨none, current, forcedWithDebugSymbols⟩
    | .heuristic, _ =>
      if (effectiveGlibc host config).isNone then ⟨none, current, heuristicWithoutGlibc host⟩
      else ⟨none, current, unknownSelectionError⟩

end HeapStrategy

end DebugShell
