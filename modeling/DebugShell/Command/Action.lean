import DebugShell.Command

/-!
# Bodies made of actions

A body can be written down as a list of actions: messages to tell, heap symbols and expressions
whose values are told, and failures. The actions are done in order up to the first that fails.
-/

namespace DebugShell

/-- One thing to do. -/
inductive Action where
  /-- Tell the operator something. -/
  | tell (message : Message)
  /-- Resolve a heap symbol and tell its address. -/
  | resolve (symbol : String)
  /-- Evaluate an expression and tell its value. -/
  | evaluate (expression : String)
  /-- Fail for a cause. -/
  | fail (cause : Cause)

/-- An action, and the contexts that its failure is wrapped in, the innermost first. -/
structure Step where
  /-- What is done. -/
  action : Action
  /-- The contexts of a failure, the innermost first. -/
  contexts : List String := []

namespace Action

/-- What an action comes to: the expression that it handed to the host, and its message or the cause
of its failure. -/
def perform (resolve : String → Except HeapError UInt64) (host : Host) :
    Action → List String × Except Cause Message
  | .tell message => ([], .ok message)
  | .resolve symbol => ([], match resolve symbol with
    | .ok a => .ok (.plain (symbol ++ "=" ++ toString a.toNat))
    | .error e => .error (.heap e))
  | .evaluate expression => ([expression], match host.evaluate expression with
    | .ok v => .ok (.plain (expression ++ "=" ++ toString v))
    | .error e => .error (.other e.message))
  | .fail cause => ([], .error cause)

end Action

/-- Do the actions of a body in order. -/
def Step.runAll {σ : Type} (resolve : String → Except HeapError UInt64) (host : Host) (memory : σ) :
    List Step → BodyRun σ
  | [] => { memory }
  | step :: rest =>
    match step.action.perform resolve host with
    | (evaluated, .error cause) =>
      { memory, evaluated, result := .error (step.contexts.foldl Failure.wrap ⟨cause, []⟩) }
    | (evaluated, .ok message) =>
      let others := runAll resolve host memory rest
      { others with
        evaluated := evaluated ++ others.evaluated, output := message :: others.output }

end DebugShell
