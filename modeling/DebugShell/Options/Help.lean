import DebugShell.Options.Spec
import DebugShell.Text.Blank

/-!
# The help text of a program

What the program does, its usage, and a list of its positional arguments and one of the others. In
a list the descriptions stand in a column behind the longest argument, or each on a line of its own
where that column would be far to the right and some description would not fit beside it.
-/

namespace DebugShell.Options

open Terminal

/-- The number of columns that a help text is laid out for. -/
def pageWidth : Nat := 100

/-- A text with every `{n}` in it read as a line end; `skip` counts characters of one that has been
read. -/
def lineMarksFrom : Nat → List Char → List Char
  | _, [] => []
  | skip + 1, _ :: rest => lineMarksFrom skip rest
  | 0, c :: rest =>
    if ['\x7b', 'n', '\x7d'].isPrefixOf (c :: rest) then '\n' :: lineMarksFrom 2 rest
    else c :: lineMarksFrom 0 rest

/-- A description as it is laid out. -/
def withLineMarks (description : String) : String :=
  String.ofList (lineMarksFrom 0 description.toList)

/-- A text with `indent` spaces after each line end. -/
def indentLines (indent : Nat) (text : String) : String :=
  String.ofList <| text.toList.flatMap fun c =>
    if c = '\n' then c :: List.replicate indent ' ' else [c]

/-- The columns that an argument takes up in a list, with those for a short name. -/
def Arg.listWidth (a : Arg) : Nat :=
  columns a.title + (if a.isPositional then 0 else 4)

/-- The argument as it is written in a list: the short name comes first, or room for it. -/
def Arg.listed (a : Arg) : String :=
  let short := match a.short with
    | some c => Role.literal.show ("-" ++ String.singleton c) ++ ", "
    | none => "    "
  match a.long with
  | some long => short ++ Role.literal.show ("--" ++ long) ++ a.suffix a.required
  | none => a.suffix a.required

/-- The lines of a list of arguments. -/
def argumentList (args : List Arg) : String :=
  let longest := (args.map Arg.listWidth).foldl max 2
  let taken := longest + 4
  let farRight := taken ≤ pageWidth && pageWidth * 2 < taken * 5
  let below := farRight && args.any fun a => pageWidth - taken < columns a.help
  let entry (a : Arg) : String :=
    let description := withLineMarks a.help
    let room := String.ofList (List.replicate (longest + 2 - a.listWidth) ' ')
    if below then "  " ++ a.listed ++ "\n" ++ "          " ++ indentLines 10 description
    else "  " ++ a.listed ++ room ++ indentLines taken description
  String.intercalate "\n" (args.map entry)

/-- A text without its first line, if that line is blank. -/
def dropBlankFirstLine (text : String) : String :=
  let cs := text.toList
  match cs.dropWhile (· != '\n') with
  | [] => text
  | _ :: rest => if Text.trim (cs.takeWhile (· != '\n')) = [] then String.ofList rest else text

/-- The help text of a program, styled. -/
def Spec.helpText (s : Spec) : String :=
  let positionals := match s.positionals with
    | [] => ""
    | args => Role.heading.show "Arguments:" ++ "\n" ++ argumentList args ++ "\n\n"
  let named := Role.heading.show "Options:" ++ "\n" ++ argumentList s.named
  let text := withLineMarks s.about ++ "\n\n" ++ s.usageLine [] ++ "\n\n" ++ positionals ++ named
  (dropBlankFirstLine text).trimBlanksEnd ++ "\n"

end DebugShell.Options
