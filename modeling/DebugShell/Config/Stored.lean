import DebugShell.Config
import DebugShell.Json.Decoder

/-!
# Stored settings

The JSON form of the settings: a record whose fields keep their defaults when they are left out.
Versions are stored as texts and modes by their names.
-/

namespace DebugShell

/-- The names that resolution modes are stored under. -/
def ResolutionMode.storedNames : List (String × ResolutionMode) :=
  [("auto", .auto), ("force", .force)]

/-- The JSON form of a resolution mode. -/
def ResolutionMode.toJson (mode : ResolutionMode) : Json :=
  .string (toString mode)

/-- The decoder of resolution modes. -/
def ResolutionMode.decoder : Json.Decoder ResolutionMode :=
  .oneOf storedNames

/-- The JSON form of a version. -/
def Version.toJson (v : Version) : Json :=
  .string (toString v)

/-- The decoder of versions. -/
def Version.decoder : Json.Decoder Version :=
  Json.Decoder.string.refine fun text => (Version.ofString text).mapError Version.Error.message

/-- The JSON form of a word. -/
def wordJson (word : UInt64) : Json :=
  .integer word.toNat

/-- The JSON form of a map from names. -/
def NameMap.toJson {α : Type} (form : α → Json) (m : NameMap α) : Json :=
  .object (m.toList.map fun e => (e.1, form e.2))

namespace Config

/-- The fields of stored settings. -/
def layout : Json.Layout Config where
  name := "Config"
  initial := {}
  fields :=
    [.of "resolve_heap_via_heuristic" ResolutionMode.decoder
        fun mode c => { c with resolutionMode := mode },
     .of "glibc" Version.decoder.optional fun version c => { c with glibc := version },
     .of "exception_verbose" .bool fun b c => { c with exceptionVerbose := b },
     .of "exception_debugger" .bool fun b c => { c with exceptionDebugger := b },
     .of "heap_addresses" (.nameMap .uint64) fun m c => { c with heapAddresses := m }]

/-- The decoder of settings. -/
def decoder : Json.Decoder Config :=
  layout.decoder

/-- The JSON form of settings. -/
def toJson (c : Config) : Json :=
  .object
    [("resolve_heap_via_heuristic", c.resolutionMode.toJson),
     ("glibc", .ofOption Version.toJson c.glibc),
     ("exception_verbose", .bool c.exceptionVerbose),
     ("exception_debugger", .bool c.exceptionDebugger),
     ("heap_addresses", c.heapAddresses.toJson wordJson)]

end Config

end DebugShell
