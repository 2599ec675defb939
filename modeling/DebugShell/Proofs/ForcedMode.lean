import DebugShell.Proofs.HeapStart
import DebugShell.Proofs.Messages
import DebugShell.Proofs.SettingOrder

/-!
# Forced mode settles

The resolution mode is a setting, and the strategy that is stored for heap symbols belongs to the
selection. A dispatcher starts with debug symbols stored, also when its settings start in forced
mode, so the two can disagree. Two events bring them together for good: a change of the mode, and a
heap command that is given a strategy (`Dispatcher.Settles`).

A call that is no such event leaves the mode and the stored strategy as they are
(`afterCall_of_not_settles`), and one that is leaves them in agreement (`Settles.settled`). So a run
that started in automatic mode is in agreement throughout, and one that started in forced mode is so
from the first event on, but not before (`settled_afterCalls_iff`). The selection complains of the
disagreement, and of nothing else, in the words of `forcedModeError`.
-/

namespace DebugShell

variable {σ : Type}

/-! ## The complaint -/

/-- What the selection says when forced mode meets debug symbols. -/
def forcedModeError : Message :=
  .error <| "You are forcing to resolve the heap symbols via heuristic, but the active strategy " ++
    "still resolves them via the debug symbols."

/-- No other report of the selection says it. -/
theorem forcedModeError_not_mem_reports (host : Host) :
    forcedModeError ∉ neitherStrategy host ∧ forcedModeError ∉ heuristicWithoutGlibc host ∧
      forcedModeError ∉ [fallbackWarning] := by
  have hloaded : forcedModeError ∉ glibcNotLoaded := by decide
  refine ⟨?_, ?_, by decide⟩
  · unfold neitherStrategy
    split
    · decide
    · exact hloaded
  · unfold heuristicWithoutGlibc
    split
    · decide
    · exact hloaded

/-- The selection complains exactly if the mode is forced, debug symbols are stored, and there is no
version of the C library with which to leave them. -/
theorem HeapStrategy.forcedModeError_mem_select_iff (stored : HeapStrategy) (host : Host)
    (config : Config) : forcedModeError ∈ (stored.select host config).output ↔
      config.resolutionMode = .force ∧ stored = .debugSymbols ∧
        effectiveGlibc host config = none := by
  obtain ⟨hneither, hwithout, hfallback⟩ := forcedModeError_not_mem_reports host
  cases hmode : config.resolutionMode with
  | auto =>
    simp only [reduceCtorEq, false_and, iff_false]
    by_cases hsymbols : HasDebugSymbols host
    · rw [select_auto_of_symbols stored hmode hsymbols]
      exact List.not_mem_nil
    · cases hglibc : effectiveGlibc host config with
      | some v =>
        rw [select_auto_of_glibc stored hmode hsymbols (by rw [hglibc]; rfl)]
        dsimp only
        split
        · exact hfallback
        · exact List.not_mem_nil
      | none =>
        rw [select_auto_of_none stored hmode hsymbols hglibc]
        dsimp only
        split
        · exact hneither
        · exact hwithout
  | force =>
    cases hglibc : effectiveGlibc host config with
    | some v =>
      rw [select_force_of_glibc stored hmode (by rw [hglibc]; rfl)]
      simp only [List.not_mem_nil, reduceCtorEq, and_false]
    | none =>
      rw [select_force_of_none stored hmode hglibc]
      have hforced : forcedModeError ∈ forcedWithDebugSymbols := List.mem_cons_self
      cases stored with
      | debugSymbols => simpa using hforced
      | heuristic => simpa using hwithout

namespace Dispatcher

/-! ## What is stated of a dispatcher -/

/-- The mode and the stored strategy agree: forced mode has the heuristic stored. -/
def Settled (d : Dispatcher σ) : Prop :=
  d.config.resolutionMode = .force → d.strategy = .heuristic

/-- The events that bring the mode and the stored strategy together. -/
inductive Settles (d : Dispatcher σ) : Call σ → Prop
  /-- A change of the resolution mode that is accepted. -/
  | modeChange {value : String} {d' : Dispatcher σ}
    (haccepted : d.setConfig "resolve-heap-via-heuristic" value = .ok d') :
    Settles d (.setConfig "resolve-heap-via-heuristic" value)
  /-- A heap command that is given a strategy. -/
  | heapCommand {call : Call σ} {report : Report σ} {i : Invocation} {strategy : HeapStrategy}
    (hreport : d.report? call = some report) (hstarted : report.started = some i)
    (hheap : i.heap = some strategy) : Settles d call

/-- One of a sequence of calls is such an event. -/
def SettledBy (d : Dispatcher σ) (calls : List (Call σ)) : Prop :=
  ∃ earlier call later, calls = earlier ++ call :: later ∧ (d.afterCalls earlier).Settles call

/-! ## One call -/

/-- An invocation stores the strategy that it gives to a body, if it does, and leaves the settings
as they are. -/
theorem report?_strategy {d : Dispatcher σ} {call : Call σ} {report : Report σ}
    (h : d.report? call = some report) :
    report.dispatcher.strategy = (report.started.bind (·.heap)).getD d.strategy ∧
      report.dispatcher.config = d.config := by
  rcases report?_cases h with rfl | ⟨host, name, argument, interactive, rfl, -⟩
  · exact ⟨rfl, rfl⟩
  · obtain ⟨-, hstarted, hdispatcher⟩ := d.invoke_report host name argument interactive
    rw [hdispatcher, hstarted]
    exact ⟨rfl, rfl⟩

/-- A body is never given debug symbols in forced mode. -/
theorem heap_ne_debugSymbols {d : Dispatcher σ} {call : Call σ} {report : Report σ}
    {i : Invocation} (hreport : d.report? call = some report) (hstarted : report.started = some i)
    (hforce : d.config.resolutionMode = .force) : i.heap ≠ some .debugSymbols := by
  obtain ⟨host, name, argument, interactive, rfl, -⟩ := report?_started hreport hstarted
  rw [(d.invoke_report host name argument interactive).2.1] at hstarted
  cases hfate : d.fate host name argument interactive with
  | started c i' =>
    rw [hfate] at hstarted
    cases hstarted
    obtain ⟨args, heap, -, -, -, hheap, rfl⟩ :=
      (d.fate_eq_started_iff host name argument interactive c i).1 hfate
    dsimp only
    rcases hheap with ⟨-, rfl⟩ | ⟨-, -, hstrategy⟩
    · exact nofun
    · rw [← hstrategy, (HeapStrategy.select_strategy d.strategy host d.config).1]
      exact HeapStrategy.calledFor_ne_debugSymbols hforce host
  | _ =>
    rw [hfate] at hstarted
    cases hstarted

/-- After an event the mode and the stored strategy agree. -/
theorem Settles.settled {d : Dispatcher σ} {call : Call σ} (h : d.Settles call) :
    (d.afterCall call).Settled := by
  intro hforce
  cases h with
  | @modeChange value d' haccepted =>
    have hafter : d.afterCall (.setConfig "resolve-heap-via-heuristic" value) = d' := by
      rw [afterCall, haccepted]
    rw [hafter] at hforce ⊢
    -- An accepted mode comes with the strategy that it prefers.
    rw [setConfig_eq] at haccepted
    cases hchange : Change.requested "resolve-heap-via-heuristic" value with
    | error e =>
      rw [hchange] at haccepted
      cases haccepted
    | ok change =>
      rw [hchange] at haccepted
      cases haccepted
      have hsetting : change.1 = .resolutionMode :=
        Setting.name_inj.1 (Change.name_of_requested hchange)
      obtain ⟨s, mode⟩ := change
      cases hsetting
      exact congrArg HeapStrategy.preferred hforce
  | heapCommand hreport hstarted hheap =>
    rw [afterCall_of_report hreport] at hforce ⊢
    obtain ⟨hstrategy, hconfig⟩ := report?_strategy hreport
    rw [hconfig] at hforce
    have hne := heap_ne_debugSymbols hreport hstarted hforce
    rw [hstrategy, hstarted, Option.bind_some, hheap, Option.getD_some]
    rw [hheap] at hne
    rename_i strategy
    cases strategy with
    | debugSymbols => exact absurd rfl hne
    | heuristic => rfl

/-- A call that is no event leaves the mode and the stored strategy as they are. -/
theorem afterCall_of_not_settles {d : Dispatcher σ} {call : Call σ} (h : ¬d.Settles call) :
    (d.afterCall call).config.resolutionMode = d.config.resolutionMode ∧
      (d.afterCall call).strategy = d.strategy := by
  have hreported {report : Report σ} (hreport : d.report? call = some report) :
      (d.afterCall call).config.resolutionMode = d.config.resolutionMode ∧
        (d.afterCall call).strategy = d.strategy := by
    obtain ⟨hstrategy, hconfig⟩ := report?_strategy hreport
    have hnone : report.started.bind (·.heap) = none := by
      rw [Option.eq_none_iff_forall_ne_some]
      intro strategy hsome
      obtain ⟨i, hstarted, hheap⟩ := Option.bind_eq_some_iff.1 hsome
      exact h (.heapCommand hreport hstarted hheap)
    rw [afterCall_of_report hreport, hstrategy, hconfig, hnone]
    exact ⟨rfl, rfl⟩
  cases call with
  | register c =>
    unfold afterCall register
    dsimp only
    cases d.registry.register c with
    | ok registry => exact ⟨rfl, rfl⟩
    | error e => exact ⟨rfl, rfl⟩
  | setConfig name value =>
    cases hresult : d.setConfig name value with
    | error e =>
      rw [afterCall, hresult]
      exact ⟨rfl, rfl⟩
    | ok d' =>
      rw [afterCall, hresult]
      rw [setConfig_eq] at hresult
      cases hchange : Change.requested name value with
      | error e =>
        rw [hchange] at hresult
        cases hresult
      | ok change =>
        -- The change is of another setting, or it would be an event.
        have hother : change.1 ≠ .resolutionMode := by
          intro hmode
          have hname := Change.name_of_requested hchange
          rw [hmode] at hname
          subst hname
          have haccepted : d.setConfig "resolve-heap-via-heuristic" value = .ok d' := by
            rw [setConfig_eq]
            exact hresult
          exact h (.modeChange haccepted)
        rw [hchange] at hresult
        cases hresult
        refine ⟨d.config.get_put_of_ne hother.symm change.2, ?_⟩
        dsimp only [afterChange]
        rw [strategyFor?_of_ne hother, Option.getD_none]
  | invoke host name argument interactive => exact hreported rfl
  | invokeLine host line interactive => exact hreported rfl

/-! ## A run -/

/-- One of a first call and others is an event exactly if the first is, or one of the others is
after it. -/
theorem settledBy_cons (d : Dispatcher σ) (call : Call σ) (rest : List (Call σ)) :
    d.SettledBy (call :: rest) ↔ d.Settles call ∨ (d.afterCall call).SettledBy rest := by
  constructor
  · rintro ⟨earlier, event, later, hsplit, hevent⟩
    cases earlier with
    | nil =>
      cases hsplit
      exact .inl hevent
    | cons first earlier =>
      cases hsplit
      exact .inr ⟨earlier, event, later, rfl, hevent⟩
  · rintro (h | ⟨earlier, event, later, rfl, hevent⟩)
    · exact ⟨[], call, rest, rfl, h⟩
    · exact ⟨call :: earlier, event, later, rfl, hevent⟩

/-- Mode and strategy that agree go on doing so. -/
theorem Settled.afterCalls {d : Dispatcher σ} (hd : d.Settled) (calls : List (Call σ)) :
    (d.afterCalls calls).Settled := by
  induction calls generalizing d with
  | nil => exact hd
  | cons call rest ih =>
    have hnext : (d.afterCall call).Settled := by
      by_cases hevent : d.Settles call
      · exact hevent.settled
      · obtain ⟨hmode, hstrategy⟩ := afterCall_of_not_settles hevent
        unfold Settled
        rw [hmode, hstrategy]
        exact hd
    exact ih hnext

/-- Mode and strategy agree after a run in which one of the calls was an event. -/
theorem SettledBy.settled {d : Dispatcher σ} {calls : List (Call σ)} (h : d.SettledBy calls) :
    (d.afterCalls calls).Settled := by
  obtain ⟨earlier, call, later, rfl, hevent⟩ := h
  have hrun : d.afterCalls (earlier ++ call :: later) =
      ((d.afterCalls earlier).afterCall call).afterCalls later := by
    unfold afterCalls
    rw [List.foldl_append, List.foldl_cons]
  rw [hrun]
  exact hevent.settled.afterCalls later

/-- A run without an event leaves the mode and the stored strategy as they were. -/
theorem afterCalls_of_not_settledBy {d : Dispatcher σ} {calls : List (Call σ)}
    (h : ¬d.SettledBy calls) :
    (d.afterCalls calls).config.resolutionMode = d.config.resolutionMode ∧
      (d.afterCalls calls).strategy = d.strategy := by
  induction calls generalizing d with
  | nil => exact ⟨rfl, rfl⟩
  | cons call rest ih =>
    rw [settledBy_cons, not_or] at h
    obtain ⟨hmode, hstrategy⟩ := afterCall_of_not_settles h.1
    obtain ⟨hmode', hstrategy'⟩ := ih h.2
    exact ⟨hmode'.trans hmode, hstrategy'.trans hstrategy⟩

/-- A dispatcher of which nothing has been asked, with commands and settings of its own. -/
def fresh (registry : Registry σ) (config : Config) (memory : σ) : Dispatcher σ :=
  { registry, config, memory }

/-- After a run from the start the mode and the stored strategy agree, unless the run started in
forced mode and none of its calls was an event. -/
theorem settled_afterCalls_iff (registry : Registry σ) (config : Config) (memory : σ)
    (calls : List (Call σ)) :
    ((fresh registry config memory).afterCalls calls).Settled ↔
      config.resolutionMode = .auto ∨ (fresh registry config memory).SettledBy calls := by
  constructor
  · intro hsettled
    by_contra hneither
    obtain ⟨hmode, hevent⟩ := not_or.1 hneither
    -- Nothing happened, so forced mode still stands beside debug symbols.
    obtain ⟨hsame, hstrategy⟩ := afterCalls_of_not_settledBy hevent
    have hforce : config.resolutionMode = .force := by
      cases h : config.resolutionMode with
      | auto => exact absurd h hmode
      | force => rfl
    have hheuristic := hsettled (hsame.trans hforce)
    rw [hstrategy] at hheuristic
    cases hheuristic
  · rintro (hauto | hevent)
    · have hstart : (fresh registry config memory).Settled := by
        intro hforce
        rw [show (fresh registry config memory).config.resolutionMode = .auto from hauto] at hforce
        cases hforce
      exact hstart.afterCalls calls
    · exact hevent.settled

/-! ## Complaints in a run -/

/-- After a run from the start the selection complains exactly if the run started in forced mode,
none of its calls was an event, and there is no version of the C library. -/
theorem forcedModeError_mem_select_afterCalls_iff (registry : Registry σ) (config : Config)
    (memory : σ) (calls : List (Call σ)) (host : Host) :
    forcedModeError ∈ (((fresh registry config memory).afterCalls calls).strategy.select host
        ((fresh registry config memory).afterCalls calls).config).output ↔
      config.resolutionMode = .force ∧ ¬(fresh registry config memory).SettledBy calls ∧
        effectiveGlibc host ((fresh registry config memory).afterCalls calls).config = none := by
  have hsettled := settled_afterCalls_iff registry config memory calls
  rw [HeapStrategy.forcedModeError_mem_select_iff]
  constructor
  · rintro ⟨hforce, hstored, hglibc⟩
    have hunsettled : ¬((fresh registry config memory).afterCalls calls).Settled := by
      intro h
      rw [h hforce] at hstored
      cases hstored
    rw [hsettled, not_or] at hunsettled
    obtain ⟨hsame, -⟩ := afterCalls_of_not_settledBy hunsettled.2
    exact ⟨hsame.symm.trans hforce, hunsettled.2, hglibc⟩
  · rintro ⟨hforce, hevent, hglibc⟩
    obtain ⟨hsame, hstored⟩ := afterCalls_of_not_settledBy hevent
    exact ⟨hsame.trans hforce, hstored, hglibc⟩

/-- An invocation that ends for want of a strategy tells what the selection tells, and in forced
mode it lacks a version of the C library. -/
theorem output_of_unavailable {d : Dispatcher σ} {call : Call σ} {report : Report σ}
    (hreport : d.report? call = some report) (hanswer : report.answer = .ok .heapUnavailable) :
    ∃ host, report.output = (d.strategy.select host d.config).output ∧
      (d.config.resolutionMode = .force → effectiveGlibc host d.config = none) := by
  rcases report?_cases hreport with rfl | ⟨host, name, argument, interactive, rfl, -⟩
  · cases hanswer
  · have hfate := (d.invoke_answer_iff host name argument interactive _).1 hanswer
    generalize hmet : d.fate host name argument interactive = fate at hfate
    cases hfate
    obtain ⟨c, args, hfind, -, -, -, hnone⟩ :=
      (d.fate_eq_unavailable_iff host name argument interactive).1 hmet
    refine ⟨host, (d.invoke_tells host name argument interactive hfind).unavailable hanswer, ?_⟩
    intro hforce
    rw [(HeapStrategy.select_strategy d.strategy host d.config).1, HeapStrategy.calledFor,
      hforce] at hnone
    exact Option.map_eq_none_iff.1 hnone

/-- After a run from the start, forced mode has the heuristic stored, unless the run started in
forced mode and none of its calls was an accepted change of the mode or a heap command that was
given a strategy. In that case alone, and where there is no version of the C library, the selection
complains that the mode is forced. So a call that ends for want of a strategy tells of that
complaint in just that case. -/
theorem forced_mode_settles (registry : Registry σ) (config : Config) (memory : σ)
    (calls : List (Call σ)) :
    (((fresh registry config memory).afterCalls calls).Settled ↔
      config.resolutionMode = .auto ∨ (fresh registry config memory).SettledBy calls) ∧
    (∀ host : Host,
      forcedModeError ∈ (((fresh registry config memory).afterCalls calls).strategy.select host
          ((fresh registry config memory).afterCalls calls).config).output ↔
        config.resolutionMode = .force ∧ ¬(fresh registry config memory).SettledBy calls ∧
          effectiveGlibc host ((fresh registry config memory).afterCalls calls).config = none) ∧
    ∀ (call : Call σ) (report : Report σ),
      ((fresh registry config memory).afterCalls calls).report? call = some report →
      report.answer = .ok .heapUnavailable →
      (forcedModeError ∈ report.output ↔
        config.resolutionMode = .force ∧ ¬(fresh registry config memory).SettledBy calls) := by
  have hprinted := forcedModeError_mem_select_afterCalls_iff registry config memory calls
  refine ⟨settled_afterCalls_iff registry config memory calls, hprinted, ?_⟩
  intro call report hreport hanswer
  obtain ⟨host, houtput, hglibc⟩ := output_of_unavailable hreport hanswer
  rw [houtput, hprinted host]
  refine ⟨fun h => ⟨h.1, h.2.1⟩, fun h => ⟨h.1, h.2, hglibc ?_⟩⟩
  exact (afterCalls_of_not_settledBy h.2).1.trans h.1

/-- A host that has neither debug symbols nor a version of the C library. -/
def bareHost : Host :=
  ({} : Target).host []

/-- Settings that start in forced mode. -/
def forcedConfig : Config :=
  { resolutionMode := .force }

/-- A run that starts in forced mode complains at its first heap command, and has the heuristic
stored as soon as the mode is forced once more. -/
theorem forced_start_complains_until_forced_again :
    forcedModeError ∈ (((fresh {} forcedConfig ()).afterCalls
        [.register idleHeapCommand]).invokeLine bareHost "arena" true).output ∧
      ((fresh {} forcedConfig ()).afterCalls [.register idleHeapCommand,
        .setConfig "resolve-heap-via-heuristic" "force"]).strategy = .heuristic := by
  refine ⟨?_, ?_⟩
  · obtain ⟨hsettled, -, hreported⟩ :=
      forced_mode_settles {} forcedConfig () [.register idleHeapCommand]
    refine (hreported (.invokeLine bareHost "arena" true) _ rfl rfl).2 ⟨rfl, fun hevent => ?_⟩
    cases hsettled.2 (.inr hevent) rfl
  · obtain ⟨hsettled, -⟩ := forced_mode_settles {} forcedConfig ()
      [.register idleHeapCommand, .setConfig "resolve-heap-via-heuristic" "force"]
    exact hsettled.2 (.inr ⟨[.register idleHeapCommand], _, [], rfl, .modeChange rfl⟩) rfl

end Dispatcher

end DebugShell
