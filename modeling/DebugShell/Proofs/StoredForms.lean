import DebugShell.Proofs.Decoding
import DebugShell.Target.Stored

/-!
# The stored forms lose nothing

Settings and descriptions of targets are read back from their JSON forms, and if some fields are
taken out of a form, what is read back is the same value with those fields at their defaults.

Each kind of record has its list of parts, which pairs the fields of its layout with the entries of
its JSON form. From the list both facts follow by `Layout.ofJson?_without`, since filling the parts
in one after the other is to set all fields that are left. A session is a part of a description that
may itself lack fields. Call sites have no defaults, and are read back whole.
-/

namespace DebugShell

open Json (RecordPart)
open Json.Decoder (TakesBack bool_takesBack string_takesBack uint64_takesBack)

/-! ## Settings -/

/-- A resolution mode is found under the name that it is stored under. -/
theorem ResolutionMode.takesBack : decoder.TakesBack toJson := by
  intro mode
  cases mode <;> rfl

/-- A version is read back from its text. -/
theorem Version.takesBack : decoder.TakesBack toJson := by
  refine string_takesBack.refine fun v => ?_
  rw [ofString_toString]
  rfl

/-- No version is stored as an absent one. -/
theorem Version.optional_takesBack : decoder.optional.TakesBack (.ofOption toJson) :=
  takesBack.optional nofun

namespace Config

/-- The settings with those at their defaults that are stored under the given names. -/
def withDefaults (removed : List String) (c : Config) : Config where
  resolutionMode := if "resolve_heap_via_heuristic" ∈ removed then .auto else c.resolutionMode
  glibc := if "glibc" ∈ removed then none else c.glibc
  exceptionVerbose := if "exception_verbose" ∈ removed then false else c.exceptionVerbose
  exceptionDebugger := if "exception_debugger" ∈ removed then false else c.exceptionDebugger
  heapAddresses := if "heap_addresses" ∈ removed then .empty else c.heapAddresses

/-- The stored settings, part by part. -/
def parts (c : Config) : List (RecordPart Config) :=
  [.stored ResolutionMode.takesBack "resolve_heap_via_heuristic"
      (fun mode c => { c with resolutionMode := mode }) resolutionMode (fun _ => rfl) c,
   .stored Version.optional_takesBack "glibc"
      (fun version c => { c with glibc := version }) glibc (fun _ => rfl) c,
   .stored bool_takesBack "exception_verbose"
      (fun b c => { c with exceptionVerbose := b }) exceptionVerbose (fun _ => rfl) c,
   .stored bool_takesBack "exception_debugger"
      (fun b c => { c with exceptionDebugger := b }) exceptionDebugger (fun _ => rfl) c,
   .stored uint64_takesBack.nameMap "heap_addresses"
      (fun m c => { c with heapAddresses := m }) heapAddresses (fun _ => rfl) c]

/-- Settings are read back from what is left of their form, with the rest at its defaults. -/
theorem ofJson?_without (c : Config) (removed : List String) :
    decoder.ofJson? (c.toJson.without removed) = some (c.withDefaults removed) :=
  layout.ofJson?_without c.parts removed rfl (by decide) nofun

/-- Settings are read back from their form. -/
theorem takesBack : decoder.TakesBack toJson := by
  intro c
  have hread := c.ofJson?_without []
  rw [Json.without_nil] at hread
  simpa [withDefaults] using hread

end Config

/-! ## Descriptions of targets -/

namespace Session

/-- The session with those fields at their defaults that are stored under the given names. -/
def withDefaults (removed : List String) (s : Session) : Session where
  fileLoaded := if "file_loaded" ∈ removed then false else s.fileLoaded
  processAlive := if "process_alive" ∈ removed then false else s.processAlive
  arch := if "arch" ∈ removed then "" else s.arch
  isQemu := if "is_qemu" ∈ removed then false else s.isQemu
  isQemuKernel := if "is_qemu_kernel" ∈ removed then false else s.isQemuKernel
  kernelDebugSymbols := if "kernel_debug_syms" ∈ removed then false else s.kernelDebugSymbols
  pagingEnabled := if "paging_enabled" ∈ removed then false else s.pagingEnabled
  hasTcache := if "has_tcache" ∈ removed then false else s.hasTcache
  heapInitialized := if "heap_initialized" ∈ removed then false else s.heapInitialized

/-- The stored session, part by part. -/
def parts (s : Session) : List (RecordPart Session) :=
  [.stored bool_takesBack "file_loaded"
      (fun b s => { s with fileLoaded := b }) fileLoaded (fun _ => rfl) s,
   .stored bool_takesBack "process_alive"
      (fun b s => { s with processAlive := b }) processAlive (fun _ => rfl) s,
   .stored string_takesBack "arch"
      (fun text s => { s with arch := text }) arch (fun _ => rfl) s,
   .stored bool_takesBack "is_qemu"
      (fun b s => { s with isQemu := b }) isQemu (fun _ => rfl) s,
   .stored bool_takesBack "is_qemu_kernel"
      (fun b s => { s with isQemuKernel := b }) isQemuKernel (fun _ => rfl) s,
   .stored bool_takesBack "kernel_debug_syms"
      (fun b s => { s with kernelDebugSymbols := b }) kernelDebugSymbols (fun _ => rfl) s,
   .stored bool_takesBack "paging_enabled"
      (fun b s => { s with pagingEnabled := b }) pagingEnabled (fun _ => rfl) s,
   .stored bool_takesBack "has_tcache"
      (fun b s => { s with hasTcache := b }) hasTcache (fun _ => rfl) s,
   .stored bool_takesBack "heap_initialized"
      (fun b s => { s with heapInitialized := b }) heapInitialized (fun _ => rfl) s]

/-- A session is read back from what is left of its form, with the rest at its defaults. -/
theorem ofJson?_without (s : Session) (removed : List String) :
    decoder.ofJson? (s.toJson.without removed) = some (s.withDefaults removed) :=
  layout.ofJson?_without s.parts removed rfl (by decide) nofun

end Session

namespace CallSite

/-- The stored call site, part by part. -/
def parts (s : CallSite) : List (RecordPart CallSite) :=
  [.stored uint64_takesBack "address"
      (fun word s => { s with address := word }) address (fun _ => rfl) s,
   .stored string_takesBack "callee"
      (fun text s => { s with callee := text }) callee (fun _ => rfl) s]

/-- A call site is read back from its form. -/
theorem takesBack : decoder.TakesBack toJson := by
  intro s
  have hread : decoder.ofJson? (s.toJson.without []) = some s :=
    layout.ofJson?_without s.parts [] rfl (by decide) fun _ => rfl
  rw [Json.without_nil] at hread
  exact hread

end CallSite

namespace Target

/-- The description with those fields at their defaults that are stored under the given names, of
its session as well. -/
def withDefaults (removed removedOfSession : List String) (t : Target) : Target where
  session := if "session" ∈ removed then {} else t.session.withDefaults removedOfSession
  registers := if "registers" ∈ removed then .empty else t.registers
  symbols := if "symbols" ∈ removed then .empty else t.symbols
  heapScan := if "heap_scan" ∈ removed then .empty else t.heapScan
  sharedLibraries := if "shared_libraries" ∈ removed then [] else t.sharedLibraries
  glibc := if "glibc" ∈ removed then none else t.glibc
  builtins := if "builtins" ∈ removed then none else t.builtins
  kernelVersion := if "kernel_version" ∈ removed then none else t.kernelVersion
  decompiled := if "decompiled" ∈ removed then .empty else t.decompiled
  callSites := if "call_sites" ∈ removed then [] else t.callSites

/-- The part that the session makes, where its own form lacks some fields. -/
def sessionPart (removedOfSession : List String) (t : Target) : RecordPart Target where
  name := "session"
  Value := Session
  decoder := Session.decoder
  set s t := { t with session := s }
  get := session
  json := t.session.toJson.without removedOfSession
  value := t.session.withDefaults removedOfSession
  set_get _ := rfl
  decodes := t.session.ofJson?_without removedOfSession

/-- The stored description, part by part. -/
def parts (removedOfSession : List String) (t : Target) : List (RecordPart Target) :=
  [t.sessionPart removedOfSession,
   .stored uint64_takesBack.nameMap "registers"
      (fun m t => { t with registers := m }) registers (fun _ => rfl) t,
   .stored uint64_takesBack.nameMap "symbols"
      (fun m t => { t with symbols := m }) symbols (fun _ => rfl) t,
   .stored uint64_takesBack.nameMap "heap_scan"
      (fun m t => { t with heapScan := m }) heapScan (fun _ => rfl) t,
   .stored string_takesBack.list "shared_libraries"
      (fun l t => { t with sharedLibraries := l }) sharedLibraries (fun _ => rfl) t,
   .stored Version.optional_takesBack "glibc"
      (fun version t => { t with glibc := version }) glibc (fun _ => rfl) t,
   .stored (string_takesBack.optional nofun) "builtins"
      (fun text t => { t with builtins := text }) builtins (fun _ => rfl) t,
   .stored (string_takesBack.optional nofun) "kernel_version"
      (fun text t => { t with kernelVersion := text }) kernelVersion (fun _ => rfl) t,
   .stored string_takesBack.nameMap "decompiled"
      (fun m t => { t with decompiled := m }) decompiled (fun _ => rfl) t,
   .stored CallSite.takesBack.list "call_sites"
      (fun l t => { t with callSites := l }) callSites (fun _ => rfl) t]

/-- The form of a description whose session lacks some fields. -/
theorem mapEntry_session (t : Target) (removedOfSession : List String) :
    t.toJson.mapEntry "session" (·.without removedOfSession) =
      .object ((t.parts removedOfSession).map RecordPart.entry) :=
  rfl

/-- A description is read back from what is left of its form and of its session's form, with the
rest at its defaults. -/
theorem ofJson?_without (t : Target) (removed removedOfSession : List String) :
    decoder.ofJson? ((t.toJson.mapEntry "session" (·.without removedOfSession)).without removed) =
      some (t.withDefaults removed removedOfSession) := by
  rw [mapEntry_session]
  exact layout.ofJson?_without (t.parts removedOfSession) removed rfl (by decide) nofun

/-- A description is read back from its form. -/
theorem takesBack : decoder.TakesBack toJson := by
  intro t
  have hread := t.ofJson?_without [] []
  -- Taking nothing out of the session's form leaves the whole form as it is.
  have hwhole : t.toJson.mapEntry "session" (·.without []) = t.toJson := by
    rw [mapEntry_session]
    change Json.object (("session", t.session.toJson.without []) :: _) = _
    rw [Json.without_nil]
    rfl
  rw [hwhole, Json.without_nil] at hread
  simpa [withDefaults, Session.withDefaults] using hread

end Target

/-- Every value of the settings and every description of a target is decoded from its own JSON form.
From a form that lacks some fields, at the top or in the session, the same value is decoded but for
these fields, which are at their defaults. -/
theorem stored_forms_lose_nothing :
    (∀ (c : Config) (removed : List String),
      Config.decoder.ofJson? c.toJson = some c ∧
      Config.decoder.ofJson? (c.toJson.without removed) = some (c.withDefaults removed)) ∧
    (∀ (t : Target) (removed removedOfSession : List String),
      Target.decoder.ofJson? t.toJson = some t ∧
      Target.decoder.ofJson?
          ((t.toJson.mapEntry "session" (·.without removedOfSession)).without removed) =
        some (t.withDefaults removed removedOfSession)) := by
  constructor
  · intro c removed
    exact ⟨Config.takesBack c, c.ofJson?_without removed⟩
  · intro t removed removedOfSession
    exact ⟨Target.takesBack t, t.ofJson?_without removed removedOfSession⟩

end DebugShell
