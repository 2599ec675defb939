import DebugShell.NameMap
import DebugShell.Version

/-!
# Settings

The operator's settings: how heap symbols are located, which version of the C library is assumed,
whether failures of commands are handed on, and addresses given for single heap symbols. Each
setting has a name under which `set` changes it and `show` lists it, and a syntax for its values.
-/

namespace DebugShell

/-- How the way of locating heap symbols is chosen. -/
inductive ResolutionMode where
  /-- By debug symbols if they are there, else heuristically. -/
  | auto
  /-- Only heuristically. -/
  | force
  deriving DecidableEq, Repr

instance : ToString ResolutionMode where
  toString
    | .auto => "auto"
    | .force => "force"

/-- The heap symbols whose addresses can be given by the operator. -/
inductive HeapSymbol where
  /-- The main arena. -/
  | mainArena
  /-- The allocator's parameters. -/
  | mp
  /-- The bound on the size of fast chunks. -/
  | globalMaxFast
  /-- The thread cache. -/
  | tcache
  /-- The arena of the current thread. -/
  | threadArena
  deriving DecidableEq, Repr

namespace HeapSymbol

/-- All of them, in the order in which they are listed. -/
def all : List HeapSymbol := [.mainArena, .mp, .globalMaxFast, .tcache, .threadArena]

/-- The name of the setting that gives its address. -/
def settingName : HeapSymbol → String
  | .mainArena => "main-arena"
  | .mp => "mp"
  | .globalMaxFast => "global-max-fast"
  | .tcache => "tcache"
  | .threadArena => "thread-arena"

/-- Its name in the C library. -/
def symbolName : HeapSymbol → String
  | .mainArena => "main_arena"
  | .mp => "mp_"
  | .globalMaxFast => "global_max_fast"
  | .tcache => "tcache"
  | .threadArena => "thread_arena"

end HeapSymbol

/-- The settings. -/
inductive Setting where
  /-- How heap symbols are located. -/
  | resolutionMode
  /-- The version of the C library. -/
  | glibc
  /-- Whether failures are handed on with full detail. -/
  | exceptionVerbose
  /-- Whether failures are handed on for debugging. -/
  | exceptionDebugger
  /-- The address of a heap symbol. -/
  | address (symbol : HeapSymbol)
  deriving DecidableEq, Repr

namespace Setting

/-- All settings, in the order in which they are listed. -/
def all : List Setting :=
  [.resolutionMode, .glibc, .exceptionVerbose, .exceptionDebugger] ++ HeapSymbol.all.map .address

/-- The name of a setting. -/
def name : Setting → String
  | .resolutionMode => "resolve-heap-via-heuristic"
  | .glibc => "glibc"
  | .exceptionVerbose => "exception-verbose"
  | .exceptionDebugger => "exception-debugger"
  | .address symbol => symbol.settingName

/-- The setting of a name. -/
def named? (name : String) : Option Setting :=
  all.find? fun s => s.name == name

end Setting

/-- Why a text is not a value of a setting. -/
inductive ValueError where
  /-- It is not a resolution mode. -/
  | notMode (given : String)
  /-- It is not a version. -/
  | notVersion (error : Version.Error)
  /-- It is neither on nor off. -/
  | notSwitch (given : String)
  /-- It is not an address. -/
  | notAddress (given : String)
  deriving DecidableEq, Repr

/-- The wording of an error. -/
def ValueError.message : ValueError → String
  | .notMode given => s!"expected `auto` or `force`, got `{given}`"
  | .notVersion error => error.message
  | .notSwitch given => s!"expected on/off, got `{given}`"
  | .notAddress given => s!"expected an address, got `{given}`"

/-- Why a setting was not changed. -/
inductive ConfigError where
  /-- There is no setting of that name. -/
  | unknownSetting (name : String)
  /-- The value is none of that setting. -/
  | invalidValue (name value : String) (reason : ValueError)
  deriving DecidableEq, Repr

/-- The wording of an error. -/
def ConfigError.message : ConfigError → String
  | .unknownSetting name => s!"unknown setting `{name}`"
  | .invalidValue name value reason =>
    s!"invalid value `{value}` for `{name}`: {reason.message}"

/-- A text with its ASCII capitals made small. -/
def lowered (text : String) : String :=
  String.ofList (text.toList.map Char.toLower)

/-- The resolution mode that a text names, in any case. -/
def ResolutionMode.ofString (text : String) : Except ValueError ResolutionMode :=
  match lowered text with
  | "auto" => .ok .auto
  | "force" => .ok .force
  | other => .error (.notMode other)

/-- The Boolean that a text names, in any case. -/
def switchOfString (text : String) : Except ValueError Bool :=
  let word := lowered text
  if word ∈ ["on", "1", "yes", "true", "enable"] then .ok true
  else if word ∈ ["off", "0", "no", "false", "disable"] then .ok false
  else .error (.notSwitch word)

/-- The address that a text denotes: a decimal numeral, or a hexadecimal one after a mark. -/
def addressOfString (text : String) : Except ValueError UInt64 :=
  let cs := Text.trim text.toList
  let value := match Numeral.afterHexMark? cs with
    | some digits => Numeral.unsigned? 16 UInt64.size digits
    | none => Numeral.unsigned? 10 UInt64.size cs
  match value with
  | some n => .ok (.ofNat n)
  | none => .error (.notAddress (String.ofList cs))

/-- The settings' values. -/
structure Config where
  /-- How heap symbols are located. -/
  resolutionMode : ResolutionMode := .auto
  /-- The version of the C library, where the operator has given one. -/
  glibc : Option Version := none
  /-- Whether failures are handed on with full detail. -/
  exceptionVerbose : Bool := false
  /-- Whether failures are handed on for debugging. -/
  exceptionDebugger : Bool := false
  /-- Addresses of heap symbols, under the symbols' names. -/
  heapAddresses : NameMap UInt64 := .empty
  deriving DecidableEq

namespace Config

/-- Whether a command's failure is handed on to the caller, after it was reported. -/
def wantsRawErrors (c : Config) : Bool :=
  c.exceptionVerbose || c.exceptionDebugger

/-- The settings with one of them set from a text. An empty version lets it be detected again, and
the address zero takes the given address away. -/
def assign (c : Config) (setting : Setting) (value : String) : Except ValueError Config :=
  match setting with
  | .resolutionMode => do return { c with resolutionMode := ← ResolutionMode.ofString value }
  | .glibc =>
    if value = "" then .ok { c with glibc := none }
    else match Version.ofString value with
      | .ok v => .ok { c with glibc := some v }
      | .error e => .error (.notVersion e)
  | .exceptionVerbose => do return { c with exceptionVerbose := ← switchOfString value }
  | .exceptionDebugger => do return { c with exceptionDebugger := ← switchOfString value }
  | .address symbol => do
    let a ← addressOfString value
    if a = 0 then return { c with heapAddresses := c.heapAddresses.erase symbol.symbolName }
    else return { c with heapAddresses := c.heapAddresses.insert symbol.symbolName a }

/-- The settings with the one of that name set from a text. -/
def set (c : Config) (name value : String) : Except ConfigError Config :=
  match Setting.named? name with
  | none => .error (.unknownSetting name)
  | some setting =>
    match c.assign setting value with
    | .ok c => .ok c
    | .error reason => .error (.invalidValue name value reason)

/-- The text that shows a Boolean setting. -/
def switchText (b : Bool) : String :=
  if b then "on" else "off"

/-- The text that shows the value of a setting. -/
def valueText (c : Config) : Setting → String
  | .resolutionMode => toString c.resolutionMode
  | .glibc => match c.glibc with
    | some v => toString v
    | none => "(auto)"
  | .exceptionVerbose => switchText c.exceptionVerbose
  | .exceptionDebugger => switchText c.exceptionDebugger
  | .address symbol => match c.heapAddresses.get? symbol.symbolName with
    | some a => Numeral.hex a.toNat
    | none => "0"

/-- All settings by name with the texts that show their values. -/
def describe (c : Config) : List (String × String) :=
  Setting.all.map fun s => (s.name, c.valueText s)

end Config

end DebugShell
