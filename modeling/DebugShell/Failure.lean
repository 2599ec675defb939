import DebugShell.Console

/-!
# How a command fails

A failure has a root cause and the contexts that it was wrapped in on its way out. What it is told
about depends on the cause alone: a heap symbol that cannot be resolved is recognised behind any
contexts.
-/

namespace DebugShell

/-- Why a heap symbol has no address. -/
inductive HeapError where
  /-- The strategy does not find the symbol. -/
  | symbolUnresolvable (symbol : String)
  /-- The command did not ask for a resolved heap. -/
  | notSelected
  deriving DecidableEq, Repr

/-- The wording of an error. -/
def HeapError.message : HeapError → String
  | .symbolUnresolvable symbol => s!"cannot resolve the symbol `{symbol}`"
  | .notSelected => "heap symbols are only available to commands that require a resolved heap"

/-- The root cause of a failure. -/
inductive Cause where
  /-- A heap symbol has no address. -/
  | heap (error : HeapError)
  /-- Anything else, in words. -/
  | other (text : String)
  deriving DecidableEq, Repr

/-- The wording of a cause. -/
def Cause.message : Cause → String
  | .heap e => e.message
  | .other text => text

/-- A failure: its cause and the contexts that it was wrapped in, the outermost first. -/
structure Failure where
  /-- The root cause. -/
  cause : Cause
  /-- The contexts, the outermost first. -/
  contexts : List String := []
  deriving DecidableEq, Repr

namespace Failure

/-- A failure in words. -/
def ofText (text : String) : Failure := ⟨.other text, []⟩

/-- The failure wrapped in one more context. -/
def wrap (f : Failure) (context : String) : Failure :=
  { f with contexts := context :: f.contexts }

/-- The failure on one line: the contexts from the outermost in, then the cause. -/
def message (f : Failure) : String :=
  String.intercalate ": " (f.contexts ++ [f.cause.message])

/-- A text with `indent` in front of each of its lines after the first. -/
def hang (indent : String) (text : String) : String :=
  String.ofList (text.toList.flatMap fun c => if c = '\n' then c :: indent.toList else [c])

/-- The failure in detail: the outermost message, and below it what it was caused by, numbered where
there is more than one. -/
def detail (f : Failure) : String :=
  match f.contexts ++ [f.cause.message] with
  | [] => ""
  | [only] => only
  | [outer, inner] => outer ++ "\n\nCaused by:\n    " ++ hang "    " inner
  | outer :: causes =>
    let numbered := causes.zipIdx.map fun (text, i) =>
      "\n" ++ String.ofList (Text.padLeft 5 (toString i).toList) ++ ": " ++ hang "       " text
    outer ++ "\n\nCaused by:" ++ String.join numbered

end Failure

end DebugShell
