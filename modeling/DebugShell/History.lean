import DebugShell.Text.Blank
import DebugShell.Text.Numeral

/-!
# Command history and repeats

A host keeps the commands that were typed, numbered from one. Pressing Enter on an empty line runs
the newest command again without a new entry; so an invocation is a repeat when the newest entry has
a number that was seen before.
-/

namespace DebugShell.History

/-- The numbers of entries have 64 bits. -/
def numberBound : Nat := UInt64.size

/-- The line that shows an entry: its number, right-aligned in five columns, and its text. -/
def line (number : Nat) (text : String) : String :=
  String.ofList (Text.padLeft 5 (toString number).toList) ++ "  " ++ text

/-- The number and the text of the line that shows an entry, if it is such a line. -/
def parseLine? (line : String) : Option (Nat × String) :=
  let cs := Text.trimStart line.toList
  match Text.afterFirstWord cs with
  | [] => none
  | rest =>
    (Numeral.unsigned? 10 numberBound (Text.firstWord cs)).map fun number =>
      (number, String.ofList (Text.trim rest))

/-- The entries of a history, oldest first. -/
abbrev Entries := List (Nat × String)

/-- The number after that of the newest entry. -/
def nextNumber (entries : Entries) : Nat :=
  (entries.getLast?.map (·.1)).getD 0 + 1

/-- A history with one more command, if there is a number left for it. -/
def record? (entries : Entries) (text : String) : Option Entries :=
  if nextNumber entries < numberBound then some (entries ++ [(nextNumber entries, text)]) else none

/-- A history with one more command. One that has used up its numbers stays as it is. -/
def record (entries : Entries) (text : String) : Entries :=
  (record? entries text).getD entries

/-- The line that shows the newest entry. -/
def tail (entries : Entries) : Option String :=
  entries.getLast?.map fun (number, text) => line number text

/-- The numbers of the entries that were seen as the newest one. -/
abbrev Seen := List Nat

/-- Whether an invocation is a repeat, and the numbers seen afterwards. `tail` is the line that
shows the newest entry and `argument` what the invoked command was given: the entry has to end with
it. Invocations that nobody typed are no repeats and leave nothing behind. -/
def isRepeat (seen : Seen) (tail : Option String) (argument : String) (interactive : Bool) :
    Bool × Seen :=
  if interactive then
    match tail.bind parseLine? with
    | none => (false, seen)
    | some (number, command) =>
      if number ∈ seen then (argument.toList.isSuffixOf command.toList, seen)
      else (false, number :: seen)
  else (false, seen)

end DebugShell.History
