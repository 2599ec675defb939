import DebugShell.Host

/-!
# Gates

A gate is a condition on the session that a command needs before it can run. A command's gates are
checked in the order in which they were declared, and the first one that does not hold is reported.
-/

namespace DebugShell

/-- A condition on the session. -/
inductive Gate where
  /-- A program file is loaded. -/
  | withFile
  /-- A process is being debugged. -/
  | whenRunning
  /-- The architecture is one of those named. -/
  | withArch (names : List String)
  /-- The kernel has debug symbols. -/
  | withKernelDebugSymbols
  /-- Paging is enabled. -/
  | whenPagingEnabled
  /-- The target is a kernel that runs in QEMU. -/
  | whenQemuKernel
  /-- The C library has thread caches. -/
  | withTcache
  /-- The heap is initialized. -/
  | whenHeapInitialized
  deriving DecidableEq, Repr

namespace Gate

/-- Whether the condition holds in a session. -/
def holds (s : Session) : Gate → Bool
  | .withFile => s.fileLoaded
  | .whenRunning => s.processAlive
  | .withArch names => names.any (· == s.arch)
  | .withKernelDebugSymbols => s.kernelDebugSymbols
  | .whenPagingEnabled => s.pagingEnabled
  | .whenQemuKernel => s.isQemuKernel
  | .withTcache => s.hasTcache
  | .whenHeapInitialized => s.heapInitialized

/-- What the operator is told when the condition does not hold for a command. -/
def diagnostic (command : String) (s : Session) : Gate → String
  | .withFile =>
    if s.isQemu then "Could not determine the target binary on QEMU."
    else s!"{command}: There is no file loaded."
  | .whenRunning => s!"{command}: The program is not being run."
  | .withArch names =>
    let list := String.intercalate ", " names
    s!"{command}: This command may only be run on the {list} architecture(s)"
  | .withKernelDebugSymbols =>
    s!"{command}: This command may only be run when debugging a Linux kernel with debug symbols."
  | .whenPagingEnabled => s!"{command}: This command may only be run when paging is enabled."
  | .whenQemuKernel =>
    s!"{command}: This command may only be run when debugging the Linux kernel in QEMU."
  | .withTcache =>
    s!"{command}: This version of GLIBC was not compiled with tcache support."
  | .whenHeapInitialized => s!"{command}: Heap is not initialized yet."

/-- The first gate of a chain that does not hold. -/
def firstUnmet (gates : List Gate) (s : Session) : Option Gate :=
  gates.find? fun g => !g.holds s

end Gate

end DebugShell
