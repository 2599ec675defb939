import DebugShell.Terminal.Style

/-!
# The arguments that a program declares

A program declares the arguments that it takes: options with a value, flags, and positional
arguments. `--help` is always there, `--version` where a version is declared. This module also says
how an argument and the usage line of a program are written.
-/

namespace DebugShell.Options

open Terminal

/-- What giving an argument does. -/
inductive Action where
  /-- It sets the value, once. -/
  | set
  /-- It adds a value. -/
  | append
  /-- It turns a flag on, once. -/
  | turnOn
  /-- It counts how often it is given. -/
  | count
  /-- It asks for the help text. -/
  | help
  /-- It asks for the version. -/
  | version
  deriving DecidableEq, Repr

/-- An argument. One without a long name is positional. -/
structure Arg where
  /-- What the argument is known by in the result. -/
  id : String
  /-- The name after two dashes. -/
  long : Option String := none
  /-- The character after one dash. -/
  short : Option Char := none
  /-- What its value is called. -/
  valueName : String := ""
  /-- What giving it does. -/
  action : Action := .set
  /-- It has to be given. -/
  required : Bool := false
  /-- Its value may look like a negative number. -/
  allowsNegative : Bool := false
  /-- Its value may not be empty. -/
  refusesEmpty : Bool := false
  /-- What the help text says of it. -/
  help : String := ""
  deriving DecidableEq, Repr

/-- The declaration of a program. -/
structure Spec where
  /-- The name of the program. -/
  name : String
  /-- What the program does. -/
  about : String
  /-- Its arguments. -/
  args : List Arg
  /-- Its version, if it tells one. -/
  version : Option String := none

namespace Arg

/-- Whether the argument is known by its place. -/
def isPositional (a : Arg) : Bool :=
  a.long.isNone

/-- Whether the argument has a value. -/
def takesValue (a : Arg) : Bool :=
  a.action == .set || a.action == .append

/-- What is written for the value: in angle brackets, or in square ones where it may be left out. -/
def valueText (a : Arg) (required : Bool) : String :=
  if a.isPositional && !required then "[" ++ a.valueName ++ "]" else "<" ++ a.valueName ++ ">"

/-- What is written after the name of the argument. -/
def suffix (a : Arg) (required : Bool) : String :=
  if a.takesValue then
    (if a.isPositional then "" else Role.placeholder.show " ") ++
      Role.placeholder.show (a.valueText required)
  else if a.action = .count then Role.placeholder.show "..."
  else ""

/-- The argument as it is written in a usage line. -/
def written (a : Arg) (required : Bool) : String :=
  (match a.long with
    | some long => Role.literal.show ("--" ++ long)
    | none => "") ++ a.suffix required

/-- The argument as it is written in a message. -/
def title (a : Arg) : String :=
  withoutStyles (a.written a.required)

end Arg

namespace Spec

/-- The argument that asks for the help text. -/
def helpArg : Arg :=
  { id := "help", long := some "help", short := some 'h', action := .help, help := "Print help" }

/-- The argument that asks for the version. -/
def versionArg : Arg :=
  { id := "version", long := some "version", short := some 'V', action := .version,
    help := "Print version" }

/-- The declared arguments, with those that every program has. -/
def allArgs (s : Spec) : List Arg :=
  s.args ++ [helpArg] ++ (if s.version.isSome then [versionArg] else [])

/-- The positional arguments. -/
def positionals (s : Spec) : List Arg :=
  s.args.filter Arg.isPositional

/-- The arguments with names. -/
def named (s : Spec) : List Arg :=
  s.allArgs.filter fun a => !a.isPositional

/-- The argument of a long name. -/
def byLong? (s : Spec) (long : String) : Option Arg :=
  s.named.find? fun a => a.long == some long

/-- The argument of a short name. -/
def byShort? (s : Spec) (short : Char) : Option Arg :=
  s.named.find? fun a => a.short == some short

/-- Whether the usage line mentions that there are options: help and version do not count. -/
def hasOptions (s : Spec) : Bool :=
  s.args.any fun a => !a.isPositional && a.long != some "help" && a.long != some "version"

/-- The usage of the program, without a heading. `used` are the arguments that the usage is narrowed
to; if there are none, all options are mentioned together. -/
def usage (s : Spec) (used : List String) : String :=
  let options := if used = [] then
      if s.hasOptions then [Role.placeholder.show "[OPTIONS]"] else []
    else
      (used.filterMap fun id => (s.named.find? (·.id == id)).map (·.written true)).eraseDups
  let positionals := s.positionals.map fun a => a.written (a.required || used.contains a.id)
  String.intercalate " " ([Role.literal.show s.name] ++ options ++ positionals)

/-- The usage of the program behind its heading. -/
def usageLine (s : Spec) (used : List String) : String :=
  Role.heading.show "Usage:" ++ " " ++ s.usage used

end Spec

end DebugShell.Options
