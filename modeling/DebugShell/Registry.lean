import DebugShell.Command

/-!
# The registry of commands

Commands are registered under their names and aliases. No name belongs to two commands, and the
host's own commands may be shadowed only where that is listed as harmless. Registering a command
binds all of its names or none.
-/

namespace DebugShell

/-- Texts in ascending order, each once. -/
def sortedNames (names : List String) : List String :=
  names.eraseDups.mergeSort fun a b => a ≤ b

/-- Whether a line of a listing names a command: it is not blank and no heading of a class. -/
def isCommandLine (line : List Char) : Bool :=
  line != [] && !"Command class:".toList.isPrefixOf line &&
    !"Unclassified commands".toList.isPrefixOf line

/-- The commands that a host's listing names, in ascending order: the first words of its lines
without the headings. -/
def builtinNames (listing : String) : List String :=
  let trimmed := (Text.lines listing.toList).map Text.trim
  sortedNames ((trimmed.filter isCommandLine).map fun line => String.ofList (Text.firstWord line))

/-- The host's commands that may be shadowed. -/
def shadowable : List String := ["up", "down", "search", "pwd", "start", "ignore"]

/-- Why a command was not registered. -/
inductive RegistryError where
  /-- A name of it belongs to a command already. -/
  | duplicate (name : String)
  /-- A name of it is a command of the host that may not be shadowed. -/
  | builtinOverride (name : String)
  deriving DecidableEq, Repr

/-- The wording of an error. -/
def RegistryError.message : RegistryError → String
  | .duplicate name => s!"Cannot add command {name}: already exists."
  | .builtinOverride name => s!"Cannot override non-whitelisted built-in command \"{name}\""

/-- What a name is bound to. -/
structure NameEntry where
  /-- The place of the command that it belongs to, in the order of registration. -/
  index : Nat
  /-- It is an alias of the command. -/
  isAlias : Bool
  deriving DecidableEq, Repr

/-- The registered commands, in the order of registration, and their names. -/
structure Registry (σ : Type) where
  /-- The names of the host's own commands. -/
  builtins : List String := []
  /-- The commands. -/
  commands : List (Command σ) := []
  /-- What the names of the commands are bound to. -/
  names : NameMap NameEntry := .empty

namespace Registry

variable {σ : Type}

/-- The registry without commands, on a host with the commands of a listing. -/
def ofListing (listing : String) : Registry σ :=
  { builtins := builtinNames listing }

/-- The command that a name belongs to, and whether the name is an alias of it. -/
def lookup (r : Registry σ) (name : String) : Option (Command σ × Bool) :=
  (r.names.get? name).bind fun entry =>
    (r.commands[entry.index]?).map fun c => (c, entry.isAlias)

/-- The command that a name belongs to. -/
def find? (r : Registry σ) (name : String) : Option (Command σ) :=
  (r.lookup name).map (·.1)

/-- Whether a name belongs to a command. -/
def contains (r : Registry σ) (name : String) : Bool :=
  (r.names.get? name).isSome

/-- Why the first of `names` that cannot be bound cannot be, where `claimed` are names to be bound
together with them. -/
def obstacle? (r : Registry σ) (claimed : List String) : List String → Option RegistryError
  | [] => none
  | name :: rest =>
    if r.contains name || claimed.contains name then some (.duplicate name)
    else if r.builtins.contains name && !shadowable.contains name then
      some (.builtinOverride name)
    else r.obstacle? (name :: claimed) rest

/-- The names with those of one more command bound, which gets the place `index`. -/
def bindNames (names : NameMap NameEntry) (index : Nat) (c : Command σ) : NameMap NameEntry :=
  c.names.foldl (fun names name => names.insert name ⟨index, name != c.name⟩) names

/-- The registry with one more command. -/
def register (r : Registry σ) (c : Command σ) : Except RegistryError (Registry σ) :=
  match r.obstacle? [] c.names with
  | some e => .error e
  | none =>
    .ok { r with
      commands := r.commands ++ [c]
      names := bindNames r.names r.commands.length c }

/-- The registry with more commands. -/
def registerAll (r : Registry σ) : List (Command σ) → Except RegistryError (Registry σ)
  | [] => .ok r
  | c :: rest =>
    match r.register c with
    | .ok r => r.registerAll rest
    | .error e => .error e

/-- The commands by category: the categories in ascending order, the commands of each in the order
of registration. -/
def byCategory (r : Registry σ) : List (String × List (Command σ)) :=
  (sortedNames (r.commands.map (·.category))).map fun category =>
    (category, r.commands.filter fun c => c.category == category)

end Registry

end DebugShell
