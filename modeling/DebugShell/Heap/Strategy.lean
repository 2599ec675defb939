import DebugShell.Config
import DebugShell.Failure
import DebugShell.Host

/-!
# Strategies for locating heap symbols

The addresses of the allocator's symbols come from debug symbols, or they are found heuristically:
as given by the operator, or by a scan for a known version of the C library.
-/

namespace DebugShell

/-- The version of the C library that is assumed: the operator's, else the detected one. -/
def effectiveGlibc (host : Host) (config : Config) : Option Version :=
  config.glibc.or host.glibcVersion

/-- Whether the program brings its C library with it: no shared library is mapped. -/
def isStaticallyLinked (host : Host) : Bool :=
  host.sharedLibraries.isEmpty

/-- A way of locating heap symbols. -/
inductive HeapStrategy where
  /-- By debug symbols. -/
  | debugSymbols
  /-- Heuristically. -/
  | heuristic
  deriving DecidableEq, Repr, Inhabited

namespace HeapStrategy

/-- The name of a strategy. -/
def name : HeapStrategy → String
  | .debugSymbols => "debug-symbols"
  | .heuristic => "heuristic"

/-- The symbols that have to be there for debug symbols to count as usable. -/
def requiredSymbols : List String := ["main_arena", "mp_"]

/-- Whether a strategy can be used. -/
def canBeResolved (host : Host) (config : Config) : HeapStrategy → Bool
  | .debugSymbols => requiredSymbols.all fun s => (host.symbolAddress s).isSome
  | .heuristic => (effectiveGlibc host config).isSome

/-- The address that a strategy finds for a symbol. -/
def find? (host : Host) (config : Config) (symbol : String) : HeapStrategy → Option UInt64
  | .debugSymbols => host.symbolAddress symbol
  | .heuristic =>
    (config.heapAddresses.get? symbol).or
      ((effectiveGlibc host config).bind fun version => host.scanHeapSymbol symbol version)

/-- The address of a symbol under a strategy. -/
def resolve (strategy : HeapStrategy) (host : Host) (config : Config) (symbol : String) :
    Except HeapError UInt64 :=
  match strategy.find? host config symbol with
  | some a => .ok a
  | none => .error (.symbolUnresolvable symbol)

/-- The strategy that a resolution mode starts with. -/
def preferred : ResolutionMode → HeapStrategy
  | .auto => .debugSymbols
  | .force => .heuristic

end HeapStrategy

end DebugShell
