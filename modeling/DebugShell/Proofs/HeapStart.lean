import DebugShell.Proofs.Containment
import DebugShell.Target

/-!
# Heap bodies start under the strategy that is called for

The stored strategy is passed from one heap command to the next, and a change of the resolution mode
replaces it. None of this shows in the strategy under which a body runs. A selection comes to what
the host and the settings call for, whatever was stored (`HeapStrategy.select_strategy`), and a heap
body is given what was selected. So every heap body of every run is started under the strategy that
is called for at its own invocation.
-/

namespace DebugShell

variable {σ : Type}

/-- The host that a call is made with, if it is an invocation. -/
def Call.host? : Call σ → Option Host
  | .register _ | .setConfig _ _ => none
  | .invoke host _ _ _ | .invokeLine host _ _ => some host

namespace Dispatcher

/-- A call starts the body of `c`, which is given `i`. -/
def StartsBody (d : Dispatcher σ) (call : Call σ) (c : Command σ) (i : Invocation) : Prop :=
  ∃ report, d.report? call = some report ∧ report.started = some i ∧
    c ∈ d.registry.commands ∧ i.command = c.name

/-- A body that is started is started by an invocation that passed every stage. -/
theorem StartsBody.starts {d : Dispatcher σ} (hd : d.registry.WellFormed) {call : Call σ}
    {c : Command σ} {i : Invocation} (h : d.StartsBody call c i) :
    ∃ host name argument interactive, call.host? = some host ∧
      d.Starts host name argument interactive c i := by
  obtain ⟨report, hreport, hstarted, hc, hname⟩ := h
  obtain ⟨host, name, argument, interactive, rfl, hcall⟩ := report?_started hreport hstarted
  obtain ⟨c', hstarts⟩ := (invoke_started_iff hd host name argument interactive i).1 hstarted
  -- Both commands have the name that the body was given, so they are one.
  have hname' : i.command = c'.name := by
    rw [hstarts.given]
    rfl
  have hown : d.Owns c.name c := ⟨hc, List.mem_cons_self⟩
  have hown' : d.Owns c.name c' := by
    rw [← hname, hname']
    exact ⟨hstarts.owns.1, List.mem_cons_self⟩
  have heq : c = c' :=
    (invokeContract hd host c.name argument interactive).owner_unique c c' hown hown'
  subst heq
  refine ⟨host, name, argument, interactive, ?_, hstarts⟩
  rcases hcall with rfl | ⟨line, rfl⟩
  · rfl
  · rfl

/-- A selection comes to the strategy that the host and the settings call for, whatever was stored,
and stores it if there is one. After any sequence of calls, a call that starts a heap body starts it
under the strategy that the call's host and the settings of that moment call for. In forced mode
that is never debug symbols. -/
theorem heap_strategy_ignores_history :
    (∀ (stored : HeapStrategy) (host : Host) (config : Config),
      (stored.select host config).strategy = HeapStrategy.calledFor host config ∧
        (stored.select host config).stored =
          (HeapStrategy.calledFor host config).getD stored) ∧
    ∀ {σ : Type} (builtins : List String) (config : Config) (memory : σ)
      (earlier : List (Call σ)) (call : Call σ) (c : Command σ) (i : Invocation),
      ((initial builtins config memory).afterCalls earlier).StartsBody call c i →
      c.requiresHeap = true →
      ∃ host, call.host? = some host ∧ i.heap ≠ none ∧
        i.heap = HeapStrategy.calledFor host
          ((initial builtins config memory).afterCalls earlier).config ∧
        (((initial builtins config memory).afterCalls earlier).config.resolutionMode = .force →
          i.heap ≠ some .debugSymbols) := by
  refine ⟨HeapStrategy.select_strategy, ?_⟩
  intro σ builtins config memory earlier call c i hbody hrequired
  have hd := wellFormed_afterCalls builtins config memory earlier
  generalize (initial builtins config memory).afterCalls earlier = d at hbody hd ⊢
  obtain ⟨host, name, argument, interactive, hhost, hstarts⟩ := hbody.starts hd
  obtain ⟨-, hheap, hstrategy⟩ : c.requiresHeap = true ∧ i.heap ≠ none ∧
      (d.strategy.select host d.config).strategy = i.heap := by
    rcases hstarts.located with ⟨hplain, -⟩ | hlocated
    · rw [hrequired] at hplain
      cases hplain
    · exact hlocated
  have hcalled : i.heap = HeapStrategy.calledFor host d.config := by
    rw [← hstrategy, (HeapStrategy.select_strategy d.strategy host d.config).1]
  refine ⟨host, hhost, hheap, hcalled, fun hforce => ?_⟩
  rw [hcalled]
  exact HeapStrategy.calledFor_ne_debugSymbols hforce host

/-- A command that requires a resolved heap and does nothing with it. -/
def idleHeapCommand : Command Unit :=
  { name := "arena", spec := {}, requiresHeap := true, body := fun _ memory => { memory } }

/-- A host that has a version of the C library and no debug symbols. -/
def versionedHost : Host :=
  ({ glibc := some ⟨2, 35⟩ } : Target).host []

/-- After the mode was forced and released again, a heap body on a host without debug symbols is
started under the heuristic, which is what the automatic mode comes to on such a host. -/
theorem heap_strategy_of_mode_forced_and_released : ∃ call : Call Unit, ∃ i : Invocation,
    ((initial [] {} ()).afterCalls [.register idleHeapCommand,
      .setConfig "resolve-heap-via-heuristic" "force",
      .setConfig "resolve-heap-via-heuristic" "auto"]).StartsBody call idleHeapCommand i ∧
    idleHeapCommand.requiresHeap = true ∧ i.heap = some .heuristic := by
  have hbody : ((initial [] {} ()).afterCalls [.register idleHeapCommand,
      .setConfig "resolve-heap-via-heuristic" "force",
      .setConfig "resolve-heap-via-heuristic" "auto"]).StartsBody
      (.invokeLine versionedHost "arena" true) idleHeapCommand _ :=
    ⟨_, rfl, rfl, List.mem_singleton_self _, rfl⟩
  obtain ⟨host, hhost, -, hheap, -⟩ := heap_strategy_ignores_history.2 _ _ _ _ _ _ _ hbody rfl
  cases hhost
  exact ⟨_, _, hbody, rfl, hheap⟩

end Dispatcher

end DebugShell
