/-!
# The commands of a stock debugger

The listing that a debugger without further commands gives of its own commands, shortened to those
that other commands are likely to hide.
-/

namespace DebugShell

/-- The classes of a stock debugger's commands: for each its name, and its commands with what they
do. -/
def stockClasses : List (String × List (String × String)) :=
  [("aliases",
    [("ni", "Step one instruction, but proceed through subroutine calls."),
     ("si", "Step one instruction exactly."),
     ("c", "Continue program being debugged, after signal or breakpoint.")]),
   ("breakpoints",
    [("break", "Set breakpoint at specified location."),
     ("delete", "Delete all or some breakpoints."),
     ("ignore", "Set ignore-count of breakpoint number N to COUNT."),
     ("tbreak", "Set a temporary breakpoint.")]),
   ("data",
    [("display", "Print value of expression EXP each time the program stops."),
     ("output", "Like \"print\" but don't put in value history and don't print newline."),
     ("print", "Print value of expression EXP."),
     ("set", "Evaluate expression EXP and assign result to variable VAR."),
     ("x", "Examine memory: x/FMT ADDRESS.")]),
   ("files",
    [("cd", "Set working directory to DIR for debugger."),
     ("file", "Use FILE as program to be debugged."),
     ("pwd", "Print working directory."),
     ("search", "Search for the next line matching the given regex.")]),
   ("running",
    [("continue", "Continue program being debugged, after signal or breakpoint."),
     ("finish", "Execute until selected stack frame returns."),
     ("kill", "Kill execution of program being debugged."),
     ("next", "Step program, proceeding through subroutine calls."),
     ("run", "Start debugged program."),
     ("start", "Start the debugged program stopping at the beginning of the main procedure."),
     ("step", "Step program until it reaches a different source line.")]),
   ("stack",
    [("backtrace", "Print backtrace of all stack frames, or innermost COUNT frames."),
     ("down", "Select and print stack frame called by this one."),
     ("frame", "Select and print a stack frame."),
     ("up", "Select and print stack frame that called this one.")]),
   ("status",
    [("info", "Generic command for showing things about the program being debugged."),
     ("show", "Generic command for showing things about the debugger.")]),
   ("support",
    [("define", "Define a new command name."),
     ("help", "Print list of commands."),
     ("quit", "Exit the debugger."),
     ("source", "Read commands from a file named FILE.")])]

/-- The listing of a stock debugger's commands: one class after another, one command a line. -/
def stockListing : String :=
  "\n".intercalate (stockClasses.map fun (name, commands) =>
    s!"Command class: {name}\n\n" ++
      String.join (commands.map fun (command, summary) => s!"{command} -- {summary}\n"))

end DebugShell
