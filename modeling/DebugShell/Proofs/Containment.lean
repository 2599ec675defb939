import DebugShell.Proofs.Calls

/-!
# Invocations are contained

`Dispatcher.InvokeContract` says what a caller can rely on when it invokes a command. At most one
body is run, which is that of the command with the name, and only when every stage lets the
invocation pass. The answer names the first stage that does not. A body's failure leaves `invoke`
only when the settings ask for failures to be handed on, and nothing else leaves it as a failure.

The contract is read off the fate of the invocation. Each answer belongs to one kind of fate
(`Fate.answer_eq_iff`), and each fate is met under one condition (`fate_eq_unknown_iff` and the
lemmas after it). The registry comes in through its invariant, by which a name finds the command
that has it.
-/

namespace DebugShell

variable {σ : Type}

/-! ## Each answer belongs to one kind of fate -/

/-- The answers to a fate. Only a body that was started can be answered in more than one way. -/
inductive Fate.Answers (config : Config) (memory : σ) : Fate σ → Except Failure Outcome → Prop
  /-- The name is unknown. -/
  | unknown : Answers config memory .unknown (.ok .unknownCommand)
  /-- The arguments are not accepted. -/
  | aborted (abort : UsageAborted) : Answers config memory (.aborted abort) (.ok .usageAborted)
  /-- A gate does not hold. -/
  | unmet (gate : Gate) : Answers config memory (.unmet gate) (.ok (.preconditionUnmet gate))
  /-- No strategy can be used. -/
  | unavailable : Answers config memory .unavailable (.ok .heapUnavailable)
  /-- The body completes. -/
  | completed {c : Command σ} {i : Invocation} (h : (c.body i memory).result = .ok ()) :
    Answers config memory (.started c i) (.ok .completed)
  /-- The body fails, and the failure is absorbed. -/
  | absorbed {c : Command σ} {i : Invocation} {failure : Failure}
    (h : (c.body i memory).result = .error failure) (hquiet : config.wantsRawErrors = false) :
    Answers config memory (.started c i) (.ok .failed)
  /-- The body fails, and the failure is handed on. -/
  | raised {c : Command σ} {i : Invocation} {failure : Failure}
    (h : (c.body i memory).result = .error failure) (hraw : config.wantsRawErrors = true) :
    Answers config memory (.started c i) (.error failure)

/-- These are the answers, and there are no others. -/
theorem Fate.answer_eq_iff (f : Fate σ) (config : Config) (memory : σ)
    (a : Except Failure Outcome) : f.answer config memory = a ↔ f.Answers config memory a := by
  constructor
  · rintro rfl
    cases f with
    | unknown => exact .unknown
    | aborted abort => exact .aborted abort
    | unmet gate => exact .unmet gate
    | unavailable => exact .unavailable
    | started c i =>
      unfold answer answerOf
      dsimp only
      split
      · rename_i h
        exact .completed h
      · rename_i failure h
        split
        · rename_i hraw
          exact .raised h hraw
        · rename_i hquiet
          exact .absorbed h (by simpa using hquiet)
  · intro h
    cases h with
    | completed h => simp [answer, answerOf, h]
    | absorbed h hquiet => simp [answer, answerOf, h, hquiet]
    | raised h hraw => simp [answer, answerOf, h, hraw]
    | _ => rfl

namespace Dispatcher

/-! ## The contract -/

/-- A name belongs to a command that has been registered. -/
def Owns (d : Dispatcher σ) (name : String) (c : Command σ) : Prop :=
  c ∈ d.registry.commands ∧ name ∈ c.names

section Contract

variable (d : Dispatcher σ) (host : Host) (name argument : String) (interactive : Bool)

/-- Every stage lets an invocation pass to the body of `c`, which is given `i`. -/
structure Starts (c : Command σ) (i : Invocation) : Prop where
  /-- The name belongs to the command. -/
  owns : d.Owns name c
  /-- The arguments are accepted. -/
  parsed : (c.spec.parse c.name host argument).value = .ok i.args
  /-- The gates hold. -/
  gated : ∀ g ∈ c.gates, g.holds host.session = true
  /-- A command that requires a resolved heap is given the strategy that is selected, and any other
  none. -/
  located : c.requiresHeap = false ∧ i.heap = none ∨ c.requiresHeap = true ∧ i.heap ≠ none ∧
    (d.strategy.select host d.config).strategy = i.heap
  /-- Besides, the body is given the command's name, the host, the settings, and whether the
  invocation is a repeat. -/
  given : i = { d.invocation host argument interactive c i.args with heap := i.heap }

/-- What a caller can rely on when it invokes a command and gets a report. -/
structure InvokeContract (report : Report σ) : Prop where
  /-- A name belongs to one command at most. -/
  owner_unique : ∀ c c', d.Owns name c → d.Owns name c' → c = c'
  /-- A body is started exactly if the name belongs to a command, the arguments are accepted, all
  gates hold, and a strategy is selected where the command requires one. -/
  started_iff : (∃ i, report.started = some i) ↔ ∃ c args, d.Owns name c ∧
    (c.spec.parse c.name host argument).value = .ok args ∧
    (∀ g ∈ c.gates, g.holds host.session = true) ∧
    (c.requiresHeap = true → ∃ strategy,
      (d.strategy.select host d.config).strategy = some strategy)
  /-- It is the body of that command. -/
  started_eq_iff : ∀ i, report.started = some i ↔
    ∃ c, d.Starts host name argument interactive c i
  /-- It is run once: what the commands remember is what it left. -/
  ran : ∀ c i, d.Starts host name argument interactive c i →
    report.dispatcher.memory = (c.body i d.memory).memory
  /-- If none is started, none is run. -/
  idle : report.started = none → report.dispatcher.memory = d.memory
  /-- The name may belong to no command. -/
  unknown_iff : report.answer = .ok .unknownCommand ↔ ∀ c, ¬d.Owns name c
  /-- If it does belong to one, the arguments may not be accepted. -/
  aborted_iff : report.answer = .ok .usageAborted ↔ ∃ c abort, d.Owns name c ∧
    (c.spec.parse c.name host argument).value = .error abort
  /-- If they are, a gate may not hold. The first such gate is named. -/
  unmet_iff : ∀ gate, report.answer = .ok (.preconditionUnmet gate) ↔ ∃ c args, d.Owns name c ∧
    (c.spec.parse c.name host argument).value = .ok args ∧
    ∃ before after, c.gates = before ++ gate :: after ∧
      (∀ g ∈ before, g.holds host.session = true) ∧ gate.holds host.session = false
  /-- If all gates hold, the command may require a strategy and none be selected. -/
  unavailable_iff : report.answer = .ok .heapUnavailable ↔ ∃ c args, d.Owns name c ∧
    (c.spec.parse c.name host argument).value = .ok args ∧
    (∀ g ∈ c.gates, g.holds host.session = true) ∧
    c.requiresHeap = true ∧ (d.strategy.select host d.config).strategy = none
  /-- Otherwise the body is run. It may complete. -/
  completed_iff : report.answer = .ok .completed ↔ ∃ c i,
    d.Starts host name argument interactive c i ∧ (c.body i d.memory).result = .ok ()
  /-- It may fail, and the failure be absorbed because nobody asked for it. -/
  absorbed_iff : report.answer = .ok .failed ↔ ∃ c i failure,
    d.Starts host name argument interactive c i ∧
    (c.body i d.memory).result = .error failure ∧
    d.config.exceptionVerbose = false ∧ d.config.exceptionDebugger = false
  /-- It may fail, and the failure be handed on as it is because somebody did. This is the only way
  in which an invocation fails. -/
  raised_iff : ∀ failure, report.answer = .error failure ↔ ∃ c i,
    d.Starts host name argument interactive c i ∧
    (c.body i d.memory).result = .error failure ∧
    (d.config.exceptionVerbose = true ∨ d.config.exceptionDebugger = true)
  /-- An invocation is never answered as if nothing had been asked. -/
  ne_empty : report.answer ≠ .ok .empty

end Contract

/-! ## When a body is started -/

/-- The conditions under which a body is started, without what it is given. -/
theorem exists_starts_iff (d : Dispatcher σ) (host : Host) (name argument : String)
    (interactive : Bool) :
    (∃ c i, d.Starts host name argument interactive c i) ↔ ∃ c args, d.Owns name c ∧
      (c.spec.parse c.name host argument).value = .ok args ∧
      (∀ g ∈ c.gates, g.holds host.session = true) ∧
      (c.requiresHeap = true → ∃ strategy,
        (d.strategy.select host d.config).strategy = some strategy) := by
  constructor
  · rintro ⟨c, i, howns, hargs, hgates, hheap, -⟩
    refine ⟨c, i.args, howns, hargs, hgates, fun hrequired => ?_⟩
    rcases hheap with ⟨hplain, -⟩ | ⟨-, hheap, hstrategy⟩
    · rw [hrequired] at hplain
      cases hplain
    · rw [hstrategy]
      exact Option.ne_none_iff_exists'.1 hheap
  · rintro ⟨c, args, howns, hargs, hgates, hstrategy⟩
    cases hrequired : c.requiresHeap with
    | false =>
      exact ⟨c, d.invocation host argument interactive c args, howns, hargs, hgates,
        .inl ⟨hrequired, rfl⟩, rfl⟩
    | true =>
      obtain ⟨strategy, hstrategy⟩ := hstrategy hrequired
      exact ⟨c, { d.invocation host argument interactive c args with heap := some strategy },
        howns, hargs, hgates, .inr ⟨hrequired, by simp, hstrategy⟩, rfl⟩

section WellFormed

variable {d : Dispatcher σ} (hd : d.registry.WellFormed) (host : Host) (name argument : String)
  (interactive : Bool)
include hd

/-- In a well-formed registry a name finds the command that it belongs to. -/
theorem find?_eq_some_iff_owns (c : Command σ) :
    d.registry.find? name = some c ↔ d.Owns name c :=
  hd.find?_eq_some_iff name c

/-- The stages let an invocation pass exactly if its fate is that a body is started. -/
theorem fate_eq_started_iff_starts (c : Command σ) (i : Invocation) :
    d.fate host name argument interactive = .started c i ↔
      d.Starts host name argument interactive c i := by
  rw [fate_eq_started_iff]
  simp only [find?_eq_some_iff_owns hd, Gate.firstUnmet_eq_none_iff]
  constructor
  · rintro ⟨args, heap, howns, hargs, hgates, hheap, rfl⟩
    exact ⟨howns, hargs, hgates, hheap, rfl⟩
  · rintro ⟨howns, hargs, hgates, hheap, hgiven⟩
    exact ⟨i.args, i.heap, howns, hargs, hgates, hheap, hgiven⟩

/-- What a body is given when one is started. -/
theorem invoke_started_iff (i : Invocation) :
    (d.invoke host name argument interactive).started = some i ↔
      ∃ c, d.Starts host name argument interactive c i := by
  rw [(d.invoke_report host name argument interactive).2.1]
  simp only [← fate_eq_started_iff_starts hd]
  cases d.fate host name argument interactive with
  | started c i' => simp [Fate.invocation?]
  | _ => simp [Fate.invocation?]

/-- What the commands remember when a body is started is what it left. -/
theorem invoke_memory_of_starts {c : Command σ} {i : Invocation}
    (h : d.Starts host name argument interactive c i) :
    (d.invoke host name argument interactive).dispatcher.memory = (c.body i d.memory).memory := by
  rw [(d.invoke_report host name argument interactive).2.2,
    (fate_eq_started_iff_starts hd host name argument interactive c i).2 h]
  rfl

omit hd in
/-- What the commands remember when no body is started is what they remembered before. -/
theorem invoke_memory_of_idle
    (h : (d.invoke host name argument interactive).started = none) :
    (d.invoke host name argument interactive).dispatcher.memory = d.memory := by
  obtain ⟨-, hstarted, hdispatcher⟩ := d.invoke_report host name argument interactive
  rw [hstarted] at h
  rw [hdispatcher]
  cases hfate : d.fate host name argument interactive with
  | started c i =>
    rw [hfate] at h
    cases h
  | _ => rfl

/-! ## When each answer is given -/

omit hd in
/-- An answer is given exactly if it is one to the fate of the invocation. -/
theorem invoke_answer_iff (a : Except Failure Outcome) :
    (d.invoke host name argument interactive).answer = a ↔
      (d.fate host name argument interactive).Answers d.config d.memory a := by
  rw [(d.invoke_report host name argument interactive).1, Fate.answer_eq_iff]

/-- The answer for a name that belongs to no command. -/
theorem invoke_unknownCommand_iff :
    (d.invoke host name argument interactive).answer = .ok .unknownCommand ↔
      ∀ c, ¬d.Owns name c := by
  have hfate := d.fate_eq_unknown_iff host name argument interactive
  simp only [Option.eq_none_iff_forall_ne_some, ne_eq, find?_eq_some_iff_owns hd] at hfate
  rw [invoke_answer_iff, ← hfate]
  generalize d.fate host name argument interactive = f
  exact ⟨fun h => by cases h; rfl, fun h => h ▸ .unknown⟩

/-- The answer for arguments that are not accepted. -/
theorem invoke_usageAborted_iff :
    (d.invoke host name argument interactive).answer = .ok .usageAborted ↔ ∃ c abort,
      d.Owns name c ∧ (c.spec.parse c.name host argument).value = .error abort := by
  have hfate := d.fate_eq_aborted_iff host name argument interactive
  simp only [find?_eq_some_iff_owns hd] at hfate
  rw [invoke_answer_iff, exists_comm]
  simp only [← hfate]
  generalize d.fate host name argument interactive = f
  exact ⟨fun h => by cases h with | aborted abort => exact ⟨abort, rfl⟩,
    fun ⟨abort, h⟩ => h ▸ .aborted abort⟩

/-- The answer for a gate that does not hold. -/
theorem invoke_preconditionUnmet_iff (gate : Gate) :
    (d.invoke host name argument interactive).answer = .ok (.preconditionUnmet gate) ↔
      ∃ c args, d.Owns name c ∧ (c.spec.parse c.name host argument).value = .ok args ∧
        ∃ before after, c.gates = before ++ gate :: after ∧
          (∀ g ∈ before, g.holds host.session = true) ∧ gate.holds host.session = false := by
  have hfate := d.fate_eq_unmet_iff host name argument interactive gate
  simp only [find?_eq_some_iff_owns hd, Gate.firstUnmet_eq_some_iff] at hfate
  rw [invoke_answer_iff, ← hfate]
  generalize d.fate host name argument interactive = f
  exact ⟨fun h => by cases h; rfl, fun h => h ▸ .unmet gate⟩

/-- The answer for a command that requires a strategy where none is selected. -/
theorem invoke_heapUnavailable_iff :
    (d.invoke host name argument interactive).answer = .ok .heapUnavailable ↔ ∃ c args,
      d.Owns name c ∧ (c.spec.parse c.name host argument).value = .ok args ∧
      (∀ g ∈ c.gates, g.holds host.session = true) ∧
      c.requiresHeap = true ∧ (d.strategy.select host d.config).strategy = none := by
  have hfate := d.fate_eq_unavailable_iff host name argument interactive
  simp only [find?_eq_some_iff_owns hd, Gate.firstUnmet_eq_none_iff] at hfate
  rw [invoke_answer_iff, ← hfate]
  generalize d.fate host name argument interactive = f
  exact ⟨fun h => by cases h; rfl, fun h => h ▸ .unavailable⟩

/-- The answer for a body that completes. -/
theorem invoke_completed_iff :
    (d.invoke host name argument interactive).answer = .ok .completed ↔ ∃ c i,
      d.Starts host name argument interactive c i ∧ (c.body i d.memory).result = .ok () := by
  rw [invoke_answer_iff]
  simp only [← fate_eq_started_iff_starts hd]
  generalize d.fate host name argument interactive = f
  constructor
  · intro h
    cases h with
    | completed h => exact ⟨_, _, rfl, h⟩
  · rintro ⟨c, i, rfl, h⟩
    exact .completed h

/-- The answer for a body that fails when failures are not to be handed on. -/
theorem invoke_failed_iff :
    (d.invoke host name argument interactive).answer = .ok .failed ↔ ∃ c i failure,
      d.Starts host name argument interactive c i ∧
      (c.body i d.memory).result = .error failure ∧ d.config.wantsRawErrors = false := by
  rw [invoke_answer_iff]
  simp only [← fate_eq_started_iff_starts hd]
  generalize d.fate host name argument interactive = f
  constructor
  · intro h
    cases h with
    | absorbed h hquiet => exact ⟨_, _, _, rfl, h, hquiet⟩
  · rintro ⟨c, i, failure, rfl, h, hquiet⟩
    exact .absorbed h hquiet

/-- The answer for a body that fails when failures are to be handed on. -/
theorem invoke_error_iff (failure : Failure) :
    (d.invoke host name argument interactive).answer = .error failure ↔ ∃ c i,
      d.Starts host name argument interactive c i ∧
      (c.body i d.memory).result = .error failure ∧ d.config.wantsRawErrors = true := by
  rw [invoke_answer_iff]
  simp only [← fate_eq_started_iff_starts hd]
  generalize d.fate host name argument interactive = f
  constructor
  · intro h
    cases h with
    | raised h hraw => exact ⟨_, _, rfl, h, hraw⟩
  · rintro ⟨c, i, rfl, h, hraw⟩
    exact .raised h hraw

omit hd in
/-- An invocation is never answered as if nothing had been asked. -/
theorem invoke_ne_empty : (d.invoke host name argument interactive).answer ≠ .ok .empty := by
  rw [ne_eq, invoke_answer_iff]
  generalize d.fate host name argument interactive = f
  intro h
  cases h

/-- The report of an invocation meets the contract if the registry is well formed. -/
theorem invokeContract :
    d.InvokeContract host name argument interactive
      (d.invoke host name argument interactive) where
  owner_unique c c' h h' := by
    rw [← find?_eq_some_iff_owns hd] at h h'
    exact Option.some.inj (h.symm.trans h')
  started_iff := by
    rw [← exists_starts_iff]
    simp only [invoke_started_iff hd]
    exact exists_comm
  started_eq_iff := invoke_started_iff hd host name argument interactive
  ran _ _ h := invoke_memory_of_starts hd host name argument interactive h
  idle := invoke_memory_of_idle host name argument interactive
  unknown_iff := invoke_unknownCommand_iff hd host name argument interactive
  aborted_iff := invoke_usageAborted_iff hd host name argument interactive
  unmet_iff := invoke_preconditionUnmet_iff hd host name argument interactive
  unavailable_iff := invoke_heapUnavailable_iff hd host name argument interactive
  completed_iff := invoke_completed_iff hd host name argument interactive
  absorbed_iff := by
    rw [invoke_failed_iff hd]
    simp only [Config.wantsRawErrors, Bool.or_eq_false_iff]
  raised_iff failure := by
    rw [invoke_error_iff hd]
    simp only [Config.wantsRawErrors, Bool.or_eq_true]
  ne_empty := invoke_ne_empty host name argument interactive

end WellFormed

/-- After any sequence of calls, every invocation meets the contract. -/
theorem every_invocation_is_contained (builtins : List String) (config : Config) (memory : σ)
    (calls : List (Call σ)) (host : Host) (name argument : String) (interactive : Bool) :
    ((initial builtins config memory).afterCalls calls).InvokeContract host name argument
      interactive
      (((initial builtins config memory).afterCalls calls).invoke host name argument
        interactive) :=
  invokeContract (wellFormed_afterCalls builtins config memory calls) host name argument
    interactive

end Dispatcher

end DebugShell
