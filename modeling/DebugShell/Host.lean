import DebugShell.Version

/-!
# The host debugger

What the program asks of the debugger that it runs in: evaluation of expressions, names of
registers, the newest entry of the command history, the debugger's own commands, symbols, libraries
and the state of the session. A `Host` holds the answers at one moment; asking changes nothing.
-/

namespace DebugShell

/-- Why the host did not answer. -/
inductive HostError where
  /-- No symbol of that name is known. -/
  | noSymbol (name : String)
  /-- The text is not an expression. -/
  | malformed (text : String)
  /-- Anything else, in the host's words. -/
  | other (text : String)
  deriving DecidableEq, Repr

/-- The wording of an error. -/
def HostError.message : HostError → String
  | .noSymbol name => s!"No symbol \"{name}\" in current context."
  | .malformed text => s!"A syntax error in expression, near `{text}'."
  | .other text => text

/-- The state of the debugging session. -/
structure Session where
  /-- A program file is loaded. -/
  fileLoaded : Bool := false
  /-- A process is being debugged. -/
  processAlive : Bool := false
  /-- The name of the architecture. -/
  arch : String := ""
  /-- The target runs in QEMU. -/
  isQemu : Bool := false
  /-- The target is a kernel that runs in QEMU. -/
  isQemuKernel : Bool := false
  /-- The kernel has debug symbols. -/
  kernelDebugSymbols : Bool := false
  /-- Paging is enabled. -/
  pagingEnabled : Bool := false
  /-- The C library has thread caches. -/
  hasTcache : Bool := false
  /-- The heap is initialized. -/
  heapInitialized : Bool := false
  deriving DecidableEq, Repr

/-- The host debugger at one moment. -/
structure Host where
  /-- The value of an expression in the host's own language. -/
  evaluate : String → Except HostError Int
  /-- The names of the registers. -/
  registerNames : List String
  /-- The newest line of the command history: a number, blanks, the command. -/
  historyTail : Option String
  /-- The listing of the debugger's own commands. -/
  builtinListing : String
  /-- The state of the session. -/
  session : Session
  /-- The shared libraries that are mapped. -/
  sharedLibraries : List String
  /-- The address of a symbol by debug information. -/
  symbolAddress : String → Option UInt64
  /-- The address of a heap symbol by a scan, for a version of the C library. -/
  scanHeapSymbol : String → Version → Option UInt64
  /-- The version of the C library, where it was detected. -/
  glibcVersion : Option Version

end DebugShell
