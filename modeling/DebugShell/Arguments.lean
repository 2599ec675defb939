import DebugShell.Coercion
import DebugShell.Options.Matching
import DebugShell.Text.Quoting

/-!
# The arguments of a command

A command declares its parameters. The argument text of an invocation is cut into words, the words
are matched with the declaration, and then each parameter in the order of declaration gets its
value: a flag its Boolean, a given word what its coercion makes of it, and a parameter that was not
given its default, if it has one. Anything that goes wrong yields the text to show in place of
running the command, and no arguments at all.
-/

namespace DebugShell

/-- What a given word is made into. -/
inductive Coercion where
  /-- The word itself. -/
  | raw
  /-- The value of the word as an expression, or the word itself. -/
  | expression
  /-- The value of the word as an expression. -/
  | expressionOrAbort
  /-- The word read as a hexadecimal number, or else its value as an expression. -/
  | hexOrExpression
  deriving DecidableEq, Repr

/-- The value of an argument. -/
inductive ArgValue where
  /-- A machine integer. -/
  | int (value : UInt64)
  /-- A text. -/
  | str (value : String)
  /-- A Boolean. -/
  | bool (value : Bool)
  deriving DecidableEq, Repr

/-- How a parameter is given. -/
inductive ParamKind where
  /-- By its place. -/
  | positional (required : Bool)
  /-- By name, with a value. -/
  | option (short : Option Char)
  /-- By name, without a value. -/
  | flag (short : Option Char)
  deriving DecidableEq, Repr

/-- A parameter of a command. -/
structure Param where
  /-- Its name. -/
  name : String
  /-- How it is given. -/
  kind : ParamKind
  /-- What a given word is made into. -/
  coercion : Coercion := .raw
  /-- Its value where it is not given. -/
  default : Option ArgValue := none
  /-- What the help text says of it. -/
  help : String := ""
  deriving DecidableEq, Repr

namespace Param

/-- A parameter that is given by its place. -/
def positional (name help : String) : Param :=
  { name, kind := .positional true, help }

/-- A parameter that may be given by its place. -/
def optional (name help : String) : Param :=
  { name, kind := .positional false, help }

/-- A parameter that is given as `--name value`. -/
def option (name help : String) : Param :=
  { name, kind := .option none, help }

/-- A parameter that is given as `--name`, and is false where it is not. -/
def flag (name help : String) : Param :=
  { name, kind := .flag none, help, default := some (.bool false) }

/-- The parameter with a short name, if it is given by name. -/
def withShort (p : Param) (c : Char) : Param :=
  { p with kind := match p.kind with
    | .positional required => .positional required
    | .option _ => .option (some c)
    | .flag _ => .flag (some c) }

/-- The parameter with another coercion. -/
def withCoercion (p : Param) (coercion : Coercion) : Param :=
  { p with coercion }

/-- The parameter with a default. -/
def withDefault (p : Param) (value : ArgValue) : Param :=
  { p with default := some value }

/-- Whether the parameter is a flag. -/
def isFlag (p : Param) : Bool :=
  match p.kind with
  | .flag _ => true
  | _ => false

/-- The name after two dashes: underscores are written as dashes. -/
def longName (p : Param) : String :=
  String.ofList (p.name.toList.map fun c => if c = '_' then '-' else c)

/-- What the help text says of the parameter, with its default as an operator would type it. -/
def helpText (p : Param) : String :=
  match p.default with
  | none => p.help
  | some value =>
    let shown := match value with
      | .int v => toString v.toNat
      | .bool true => "True"
      | .bool false => "False"
      | .str s => s
    s!"{p.help} (default: {shown})"

/-- The parameter as an argument of a command line. -/
def toArg (p : Param) : Options.Arg :=
  match p.kind with
  | .positional required =>
    { id := p.name, valueName := p.name, required, allowsNegative := true, help := p.helpText }
  | .option short =>
    { id := p.name, long := some p.longName, short,
      valueName := String.ofList (p.name.toList.map Char.toUpper), allowsNegative := true,
      help := p.helpText }
  | .flag short =>
    { id := p.name, long := some p.longName, short, action := .turnOn, help := p.helpText }

end Param

/-- The description of a command and its parameters. -/
structure ArgumentSpec where
  /-- What the command does. -/
  description : String := ""
  /-- Its parameters. -/
  params : List Param := []
  deriving DecidableEq, Repr

/-- The arguments of an invocation, in the order in which the parameters were declared. -/
structure Arguments where
  /-- The values, each under the name of its parameter. -/
  values : List (String × ArgValue) := []
  deriving DecidableEq, Repr

namespace Arguments

/-- The value of a parameter. -/
def get? (a : Arguments) (name : String) : Option ArgValue :=
  (a.values.find? fun v => v.1 == name).map (·.2)

/-- The value of a parameter, if it is an integer. -/
def int? (a : Arguments) (name : String) : Option UInt64 :=
  match a.get? name with
  | some (.int v) => some v
  | _ => none

/-- The value of a parameter, if it is a text. -/
def str? (a : Arguments) (name : String) : Option String :=
  match a.get? name with
  | some (.str s) => some s
  | _ => none

/-- Whether the value of a parameter is true. -/
def flag (a : Arguments) (name : String) : Bool :=
  a.get? name == some (.bool true)

end Arguments

/-- The text to show in place of running a command. -/
structure UsageAborted where
  /-- The text, with its final line end. -/
  message : String
  /-- The operator asked for it: nothing was wrong. -/
  helpRequested : Bool
  deriving DecidableEq, Repr

namespace ArgumentSpec

/-- The declaration of a command's arguments. -/
def toOptions (spec : ArgumentSpec) (name : String) : Options.Spec :=
  { name, about := spec.description, args := spec.params.map Param.toArg }

/-- The help text of a command. -/
def help (spec : ArgumentSpec) (name : String) : String :=
  Terminal.withoutStyles (spec.toOptions name).helpText

/-- The text that reports an error. -/
def abort (spec : ArgumentSpec) (name : String) (e : Options.Error) : UsageAborted :=
  { message := Terminal.withoutStyles (e.message (spec.toOptions name))
    helpRequested := match e with
      | .helpRequested => true
      | _ => false }

/-- The number that a word denotes in base sixteen, with or without a mark. -/
def hex? (word : String) : Option UInt64 :=
  let cs := word.toList
  (Numeral.unsigned? 16 UInt64.size ((Numeral.afterHexMark? cs).getD cs)).map .ofNat

/-- The value of a word as an expression, or the name of the parameter and the word. -/
def expressionOrAbort (host : Host) (p : Param) (word : String) :
    Traced (Except String ArgValue) :=
  let fixed := Coercer.fixInt ⟨host, false⟩ word
  ⟨fixed.evaluated, match fixed.value with
    | .ok v => .ok (.int v)
    | .error _ => .error s!"argument {p.name}: Incorrect address (or GDB expression): {word}"⟩

/-- What a parameter's coercion makes of a given word. -/
def coerce (host : Host) (p : Param) (word : String) : Traced (Except String ArgValue) :=
  match p.coercion with
  | .raw => ⟨[], .ok (.str word)⟩
  | .expression =>
    let fixed := Coercer.sloppyParse ⟨host, false⟩ word
    ⟨fixed.evaluated, .ok <| match fixed.value with
      | .int v => .int v
      | .raw s => .str s⟩
  | .expressionOrAbort => expressionOrAbort host p word
  | .hexOrExpression =>
    match hex? word with
    | some v => ⟨[], .ok (.int v)⟩
    | none => expressionOrAbort host p word

/-- What a command line gives to the parameters: a word for some, and true for some flags. -/
structure Given where
  /-- The word that was given to a parameter. -/
  word : String → Option String
  /-- Whether a flag was given. -/
  flag : String → Bool

/-- The value of one parameter: none if it was not given and has no default. -/
def valueOf (host : Host) (given : Given) (p : Param) :
    Traced (Except String (Option ArgValue)) :=
  if p.isFlag then ⟨[], .ok (some (.bool (given.flag p.name)))⟩
  else
    match given.word p.name with
    | some word =>
      let coerced := coerce host p word
      ⟨coerced.evaluated, coerced.value.map some⟩
    | none => ⟨[], .ok p.default⟩

/-- The values of parameters, in order. The first word that cannot be coerced ends it. -/
def collect (host : Host) (given : Given) :
    List Param → Traced (Except String (List (String × ArgValue)))
  | [] => ⟨[], .ok []⟩
  | p :: rest =>
    let first := valueOf host given p
    match first.value with
    | .error reason => ⟨first.evaluated, .error reason⟩
    | .ok value =>
      let others := collect host given rest
      ⟨first.evaluated ++ others.evaluated,
        others.value.map fun values => (value.map (p.name, ·)).toList ++ values⟩

/-- The arguments that a text gives to a command, or the text to show instead. -/
def parse (spec : ArgumentSpec) (name : String) (host : Host) (line : String) :
    Traced (Except UsageAborted Arguments) :=
  match (spec.toOptions name).matchWords line.argumentWords with
  | .error e => ⟨[], .error (spec.abort name e)⟩
  | .ok found =>
    let collected := collect host ⟨found.value?, found.has⟩ spec.params
    ⟨collected.evaluated, match collected.value with
      | .ok values => .ok ⟨values⟩
      | .error reason => .error (spec.abort name (.refused reason))⟩

end ArgumentSpec

end DebugShell
