import DebugShell.Config.Stored
import DebugShell.Target

/-!
# Stored descriptions of targets

The JSON form of a target's description. A description and a session keep the defaults of fields
that are left out, while a call site has to be given whole.
-/

namespace DebugShell

namespace Session

/-- The fields of a stored session. -/
def layout : Json.Layout Session where
  name := "SessionState"
  initial := {}
  fields :=
    [.of "file_loaded" .bool fun b s => { s with fileLoaded := b },
     .of "process_alive" .bool fun b s => { s with processAlive := b },
     .of "arch" .string fun text s => { s with arch := text },
     .of "is_qemu" .bool fun b s => { s with isQemu := b },
     .of "is_qemu_kernel" .bool fun b s => { s with isQemuKernel := b },
     .of "kernel_debug_syms" .bool fun b s => { s with kernelDebugSymbols := b },
     .of "paging_enabled" .bool fun b s => { s with pagingEnabled := b },
     .of "has_tcache" .bool fun b s => { s with hasTcache := b },
     .of "heap_initialized" .bool fun b s => { s with heapInitialized := b }]

/-- The decoder of sessions. -/
def decoder : Json.Decoder Session :=
  layout.decoder

/-- The JSON form of a session. -/
def toJson (s : Session) : Json :=
  .object
    [("file_loaded", .bool s.fileLoaded),
     ("process_alive", .bool s.processAlive),
     ("arch", .string s.arch),
     ("is_qemu", .bool s.isQemu),
     ("is_qemu_kernel", .bool s.isQemuKernel),
     ("kernel_debug_syms", .bool s.kernelDebugSymbols),
     ("paging_enabled", .bool s.pagingEnabled),
     ("has_tcache", .bool s.hasTcache),
     ("heap_initialized", .bool s.heapInitialized)]

end Session

namespace CallSite

/-- The fields of a stored call site, all of which have to be given. -/
def layout : Json.Layout CallSite where
  name := "CallSite"
  initial := ⟨0, ""⟩
  fields :=
    [.of "address" .uint64 fun word s => { s with address := word },
     .of "callee" .string fun text s => { s with callee := text }]
  required := true

/-- The decoder of call sites. -/
def decoder : Json.Decoder CallSite :=
  layout.decoder

/-- The JSON form of a call site. -/
def toJson (s : CallSite) : Json :=
  .object [("address", wordJson s.address), ("callee", .string s.callee)]

end CallSite

namespace Target

/-- The fields of a stored description. -/
def layout : Json.Layout Target where
  name := "TargetDescription"
  initial := {}
  fields :=
    [.of "session" Session.decoder fun s t => { t with session := s },
     .of "registers" (.nameMap .uint64) fun m t => { t with registers := m },
     .of "symbols" (.nameMap .uint64) fun m t => { t with symbols := m },
     .of "heap_scan" (.nameMap .uint64) fun m t => { t with heapScan := m },
     .of "shared_libraries" (.list .string) fun l t => { t with sharedLibraries := l },
     .of "glibc" Version.decoder.optional fun version t => { t with glibc := version },
     .of "builtins" (.optional .string) fun text t => { t with builtins := text },
     .of "kernel_version" (.optional .string) fun text t => { t with kernelVersion := text },
     .of "decompiled" (.nameMap .string) fun m t => { t with decompiled := m },
     .of "call_sites" (.list CallSite.decoder) fun l t => { t with callSites := l }]

/-- The decoder of descriptions. -/
def decoder : Json.Decoder Target :=
  layout.decoder

/-- The JSON form of a description. -/
def toJson (t : Target) : Json :=
  .object
    [("session", t.session.toJson),
     ("registers", t.registers.toJson wordJson),
     ("symbols", t.symbols.toJson wordJson),
     ("heap_scan", t.heapScan.toJson wordJson),
     ("shared_libraries", .ofTexts t.sharedLibraries),
     ("glibc", .ofOption Version.toJson t.glibc),
     ("builtins", .ofOption .string t.builtins),
     ("kernel_version", .ofOption .string t.kernelVersion),
     ("decompiled", t.decompiled.toJson .string),
     ("call_sites", .list (t.callSites.map CallSite.toJson))]

end Target

end DebugShell
