import DebugShell.Options.Help

/-!
# Why a command line was not accepted

The causes for which the words of a command line do not match a declaration, and the styled text in
which each is reported.
-/

namespace DebugShell.Options

open Terminal

/-- Why a command line was not accepted, or what it asked for instead. `used` are the arguments that
the reported usage is narrowed to. -/
inductive Error where
  /-- It asks for the help text. -/
  | helpRequested
  /-- It asks for the version. -/
  | versionRequested
  /-- There is no such argument. A similar one may exist, and the word could be meant as a value. -/
  | unknown (word : String) (similar : Option String) (meantAsValue : Bool) (used : List String)
  /-- An argument was given without its value. -/
  | noValue (arg : Arg)
  /-- An argument that takes no value was given one. -/
  | extraValue (arg : Arg) (value : String) (used : List String)
  /-- An argument that sets a value was given twice. -/
  | repeated (arg : Arg)
  /-- Arguments that have to be given are missing. -/
  | missing (args : List Arg) (used : List String)
  /-- A value was refused for a reason of the program's own. -/
  | refused (reason : String)

namespace Error

/-- A word in single quotes, in the style of a role. -/
def quoted (role : Role) (word : String) : String :=
  "'" ++ role.show word ++ "'"

/-- A suggestion below the report of an error. -/
def tip (text : String) : String :=
  "\n\n  " ++ Role.suggestion.show "tip:" ++ " " ++ text

/-- What is reported, before the usage. -/
def report : Error → String
  | .helpRequested | .versionRequested => ""
  | .unknown word similar meantAsValue _ =>
    "unexpected argument " ++ quoted .mistake word ++ " found" ++
      (match similar with
        | some name => tip ("a similar argument exists: " ++ quoted .suggestion name)
        | none => "") ++
      (if meantAsValue then
        tip ("to pass " ++ quoted .mistake word ++ " as a value, use " ++
          quoted .suggestion ("-- " ++ word))
      else "")
  | .noValue arg =>
    "a value is required for " ++ quoted .mistake arg.title ++ " but none was supplied"
  | .extraValue arg value _ =>
    "unexpected value " ++ quoted .mistake value ++ " for " ++ quoted .literal arg.title ++
      " found; no more were expected"
  | .repeated arg =>
    "the argument " ++ quoted .mistake arg.title ++ " cannot be used multiple times"
  | .missing args _ =>
    "the following required arguments were not provided:" ++
      String.join (args.map fun a =>
        "\n  " ++ Role.suggestion.show (withoutStyles (a.written true)))
  | .refused reason => reason

/-- The usage that is shown with the report. -/
def usage (s : Spec) : Error → String
  | .helpRequested | .versionRequested | .noValue _ => ""
  | .unknown _ _ _ used | .extraValue _ _ used | .missing _ used => "\n\n" ++ s.usageLine used
  | .repeated _ | .refused _ => "\n\n" ++ s.usageLine []

/-- The whole text that answers a command line which was not accepted, styled. -/
def message (s : Spec) : Error → String
  | .helpRequested => s.helpText
  | .versionRequested => s.name ++ " " ++ s.version.getD "" ++ "\n"
  | e =>
    Role.failure.show "error:" ++ " " ++ e.report ++ e.usage s ++
      "\n\nFor more information, try " ++ quoted .literal "--help" ++ ".\n"

end Error

end DebugShell.Options
