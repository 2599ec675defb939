import DebugShell.Proofs.Messages
import DebugShell.Shell.Commands

/-!
# Aliases are transparent

Nothing that an invocation does depends on which of its names a command was invoked by. The name is
looked up, and from there on only the command is spoken of: two names that find one command make
equal reports (`invoke_eq_of_find?`), what is kept afterwards and what the body was given included,
and the account of the messages (`Dispatcher.Tells`) has the command's own name throughout.

Two runs are compared call by call. `Dispatcher.RenamedRun` relates runs that differ in nothing but
the names of the commands that they invoke, where the names are those of the moment: a run can
register commands and change settings on its way. One call renamed leaves the same dispatcher, so by
induction all later calls meet the same.
-/

namespace DebugShell

variable {σ : Type}

namespace Dispatcher

/-! ## What is compared -/

/-- The two calls are the same, but perhaps for the name by which they invoke a command. -/
inductive Renames (d : Dispatcher σ) : Call σ → Call σ → Prop
  /-- They are the same. -/
  | same (call : Call σ) : Renames d call call
  /-- They invoke a command by two of its names. -/
  | invoke {c : Command σ} {name other : String} (host : Host) (argument : String)
    (interactive : Bool) (hname : d.Owns name c) (hother : d.Owns other c) :
    Renames d (.invoke host name argument interactive) (.invoke host other argument interactive)
  /-- They invoke a command by lines that start with two of its names, and go on alike. -/
  | line {c : Command σ} {line other : String} (host : Host) (interactive : Bool)
    (hword : (cutLine line).1 ≠ "") (hword' : (cutLine other).1 ≠ "")
    (hname : d.Owns (cutLine line).1 c) (hother : d.Owns (cutLine other).1 c)
    (hargument : (cutLine line).2 = (cutLine other).2) :
    Renames d (.invokeLine host line interactive) (.invokeLine host other interactive)

/-- The calls of two runs are the same, one by one, but perhaps for the names by which they invoke
commands. -/
inductive RenamedRun : Dispatcher σ → List (Call σ) → List (Call σ) → Prop
  /-- Both runs are at their end. -/
  | nil (d : Dispatcher σ) : RenamedRun d [] []
  /-- The next calls are the same in this sense, and so are the runs after them. -/
  | cons {d : Dispatcher σ} {call other : Call σ} {rest others : List (Call σ)}
    (hcall : d.Renames call other) (hrest : RenamedRun (d.afterCall call) rest others) :
    RenamedRun d (call :: rest) (other :: others)

/-- The reports of a run, call by call; calls that are no invocations have none. -/
def reports (d : Dispatcher σ) : List (Call σ) → List (Option (Report σ))
  | [] => []
  | call :: rest => d.report? call :: (d.afterCall call).reports rest

/-! ## One call -/

/-- Two names that find one command make equal reports. -/
theorem invoke_eq_of_find? {d : Dispatcher σ} {c : Command σ} {name other : String}
    (hname : d.registry.find? name = some c) (hother : d.registry.find? other = some c)
    (host : Host) (argument : String) (interactive : Bool) :
    d.invoke host name argument interactive = d.invoke host other argument interactive := by
  unfold invoke
  rw [hname, hother]

section WellFormed

variable {d : Dispatcher σ} (hd : d.registry.WellFormed)
include hd

/-- Two names of one command make equal reports. -/
theorem invoke_eq_of_owns {c : Command σ} {name other : String} (hname : d.Owns name c)
    (hother : d.Owns other c) (host : Host) (argument : String) (interactive : Bool) :
    d.invoke host name argument interactive = d.invoke host other argument interactive :=
  invoke_eq_of_find? ((find?_eq_some_iff_owns hd name c).2 hname)
    ((find?_eq_some_iff_owns hd other c).2 hother) host argument interactive

/-- A call that is renamed makes the same report, if it makes one, and leaves the same
dispatcher. -/
theorem Renames.same_report {call other : Call σ} (h : d.Renames call other) :
    d.report? call = d.report? other ∧ d.afterCall call = d.afterCall other := by
  cases h with
  | same => exact ⟨rfl, rfl⟩
  | invoke host argument interactive hname hother =>
    have heq := invoke_eq_of_owns hd hname hother host argument interactive
    exact ⟨congrArg some heq, congrArg Report.dispatcher heq⟩
  | @line c line other host interactive hword hword' hname hother hargument =>
    have heq : d.invokeLine host line interactive = d.invokeLine host other interactive := by
      rw [d.invokeLine_of_word host interactive hword,
        d.invokeLine_of_word host interactive hword', hargument]
      exact invoke_eq_of_owns hd hname hother host _ interactive
    exact ⟨congrArg some heq, congrArg Report.dispatcher heq⟩

end WellFormed

/-! ## A run -/

/-- A run in which commands are renamed makes the same reports and leaves the same dispatcher. -/
theorem RenamedRun.same_reports {d : Dispatcher σ} {calls others : List (Call σ)}
    (h : d.RenamedRun calls others) (hd : d.registry.WellFormed) :
    d.reports calls = d.reports others ∧ d.afterCalls calls = d.afterCalls others := by
  induction h with
  | nil d => exact ⟨rfl, rfl⟩
  | @cons d call other rest others hcall hrest ih =>
    -- The rest of the second run meets the dispatcher that the first call of the first run left.
    obtain ⟨hreport, hafter⟩ := hcall.same_report hd
    obtain ⟨hreports, hafters⟩ := ih (wellFormed_afterCall hd call)
    refine ⟨?_, ?_⟩
    · rw [reports, reports, hreport, hreports, hafter]
    · calc d.afterCalls (call :: rest) = (d.afterCall call).afterCalls rest := rfl
        _ = (d.afterCall call).afterCalls others := hafters
        _ = (d.afterCall other).afterCalls others := by rw [hafter]
        _ = d.afterCalls (other :: others) := rfl

/-- If a dispatcher's registry was built by registrations, then in any run of it the commands can be
invoked by any of their names: the reports are the same, call by call, and so is the dispatcher
afterwards. What an invocation tells, by whichever name, is told of the command under its own. -/
theorem aliases_are_transparent (d : Dispatcher σ) (builtins : List String)
    (registered : List (Command σ))
    (hd : d.registry = Registry.afterRegisters { builtins } registered) :
    (∀ calls others : List (Call σ), d.RenamedRun calls others →
      d.reports calls = d.reports others ∧ d.afterCalls calls = d.afterCalls others) ∧
    ∀ (c : Command σ) (name : String), d.Owns name c →
      ∀ (host : Host) (argument : String) (interactive : Bool),
        d.Tells host argument c (d.invoke host name argument interactive) := by
  have hformed : d.registry.WellFormed := by
    rw [hd]
    exact (Registry.wellFormed_empty builtins).afterRegisters registered
  refine ⟨fun calls others h => h.same_reports hformed, ?_⟩
  intro c name hname host argument interactive
  exact d.invoke_tells host name argument interactive
    ((find?_eq_some_iff_owns hformed name c).2 hname)

/-- A dispatcher that knows the command `distance`, also called `dist`. -/
def measuring : Dispatcher Nat :=
  { registry := Registry.afterRegisters {} [Shell.distance], memory := 0 }

/-- Two calls by one name, the first of which lacks an address. -/
def measurements (name : String) : List (Call Nat) :=
  [.invokeLine (({} : Target).host []) (name ++ " 1") true,
    .invoke (({} : Target).host []) name "1 2" true]

/-- By the other name of the command, the usage that is told and the distance are the same. -/
theorem dist_measures_as_distance :
    measuring.reports (measurements "dist") = measuring.reports (measurements "distance") := by
  have howns (d : Dispatcher Nat) (hd : d.registry.commands = [Shell.distance]) (name : String)
      (hname : name ∈ Shell.distance.names) : d.Owns name Shell.distance :=
    ⟨hd ▸ List.mem_singleton_self Shell.distance, hname⟩
  have hline : measuring.Renames (.invokeLine (({} : Target).host []) "dist 1" true)
      (.invokeLine (({} : Target).host []) "distance 1" true) :=
    .line _ true (by decide) (by decide) (howns _ rfl _ (by decide)) (howns _ rfl _ (by decide))
      (by decide)
  -- The first call leaves the commands as they are, so the second finds what the first found.
  have hrun : measuring.RenamedRun (measurements "dist") (measurements "distance") :=
    .cons hline (.cons (.invoke _ "1 2" true (howns _ rfl _ (by decide))
      (howns _ rfl _ (by decide))) (.nil _))
  exact ((aliases_are_transparent measuring [] [Shell.distance] rfl).1 _ _ hrun).1

end Dispatcher

end DebugShell
