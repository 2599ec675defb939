import DebugShell.Proofs.Containment
import DebugShell.Proofs.History

/-!
# What an invocation leaves untouched

An invocation can change three parts of a dispatcher: the history entries that were seen, the stored
strategy and what the commands remember. Its fate says which of them it may touch. A fate that was
met before the arguments were accepted leaves all three alone (`after_of_not_judged`), one without a
body leaves all but the seen entries alone (`after_of_no_body`), and only a body that was given a
strategy can change the stored one (`after_strategy`).

`Dispatcher.InvokeFrame` gathers what that comes to for each answer. No other call takes a seen
entry away either, so they become more throughout a sequence of calls (`seen_subset_afterCalls`).
-/

namespace DebugShell

variable {σ : Type}

namespace Dispatcher

section Frame

variable (d : Dispatcher σ) (host : Host) (name argument : String) (interactive : Bool)

/-- What stays as it was when a command is invoked. -/
structure InvokeFrame (report : Report σ) : Prop where
  /-- The registry stays. -/
  registry : report.dispatcher.registry = d.registry
  /-- So do the settings. -/
  config : report.dispatcher.config = d.config
  /-- If the name belongs to no command, everything stays. -/
  unknown : report.answer = .ok .unknownCommand → report.dispatcher = d
  /-- If the arguments are not accepted, everything stays. -/
  aborted : report.answer = .ok .usageAborted → report.dispatcher = d
  /-- If a gate does not hold, everything stays but the entries that were seen. -/
  unmet : ∀ gate, report.answer = .ok (.preconditionUnmet gate) →
    report.dispatcher = { d with seen := report.dispatcher.seen }
  /-- The same is true if no strategy can be used. -/
  unavailable : report.answer = .ok .heapUnavailable →
    report.dispatcher = { d with seen := report.dispatcher.seen }
  /-- A command that does not require a resolved heap leaves the strategy, whatever the answer. -/
  plain : ∀ c, d.registry.find? name = some c → c.requiresHeap = false →
    report.dispatcher.strategy = d.strategy
  /-- What was seen stays seen. There is at most one number more, that of the newest history entry,
  and only if the invocation was typed and its arguments were accepted. -/
  mem_seen_iff : ∀ number, number ∈ report.dispatcher.seen ↔ number ∈ d.seen ∨
    interactive = true ∧
      (∃ c args, d.registry.find? name = some c ∧
        (c.spec.parse c.name host argument).value = .ok args) ∧
      ∃ text, host.historyTail.bind History.parseLine? = some (number, text)

/-! ## What each fate leaves -/

/-- A fate that was met before the arguments were accepted leaves everything as it was. -/
theorem after_of_not_judged {fate : Fate σ} (h : fate.isJudged = false) :
    d.after host argument interactive fate = d := by
  cases fate with
  | unknown => rfl
  | aborted abort => rfl
  | _ => cases h

/-- A fate without a body leaves everything but the seen entries as it was. -/
theorem after_of_no_body {fate : Fate σ} (h : fate.invocation? = none) :
    d.after host argument interactive fate =
      { d with seen := (d.after host argument interactive fate).seen } := by
  cases fate with
  | started c i => cases h
  | _ => rfl

/-- A fate in which no body is given a strategy leaves the stored one as it was. -/
theorem after_strategy {fate : Fate σ} (h : ∀ i, fate.invocation? = some i → i.heap = none) :
    (d.after host argument interactive fate).strategy = d.strategy := by
  cases fate with
  | started c i =>
    have hheap : i.heap = none := h i rfl
    simp only [after, Fate.invocation?, Option.bind_some, hheap, Option.getD_none]
  | _ => rfl

/-- A body of a command that does not require a resolved heap is given no strategy. -/
theorem heap_of_plain {c : Command σ} (hfind : d.registry.find? name = some c)
    (hplain : c.requiresHeap = false) (i : Invocation)
    (h : (d.fate host name argument interactive).invocation? = some i) : i.heap = none := by
  cases hfate : d.fate host name argument interactive with
  | started c' i' =>
    rw [hfate] at h
    cases h
    obtain ⟨args, heap, hfind', -, -, hheap, rfl⟩ :=
      (d.fate_eq_started_iff host name argument interactive c' i).1 hfate
    -- The command of the fate is the one that was looked up, and it requires no heap.
    obtain rfl : c = c' := Option.some.inj (hfind.symm.trans hfind')
    rcases hheap with ⟨-, hnone⟩ | ⟨hrequired, -⟩
    · exact hnone
    · rw [hplain] at hrequired
      cases hrequired
  | _ =>
    rw [hfate] at h
    cases h

/-- The entries that were seen after an invocation: a fate that was judged can add the newest. -/
theorem mem_after_seen_iff (fate : Fate σ) (number : Nat) :
    number ∈ (d.after host argument interactive fate).seen ↔ number ∈ d.seen ∨
      interactive = true ∧ fate.isJudged = true ∧
        ∃ text, host.historyTail.bind History.parseLine? = some (number, text) := by
  unfold after
  dsimp only
  split
  · rename_i hjudged
    rw [judged, History.mem_isRepeat_iff]
    simp only [hjudged, true_and]
  · rename_i hjudged
    simp only [hjudged, Bool.false_eq_true, false_and, and_false, or_false]

/-! ## What each answer leaves -/

/-- An invocation that ends before its arguments are accepted leaves everything as it was. -/
theorem invoke_eq_self {a : Except Failure Outcome}
    (h : (d.invoke host name argument interactive).answer = a)
    (ha : a = .ok .unknownCommand ∨ a = .ok .usageAborted) :
    (d.invoke host name argument interactive).dispatcher = d := by
  rw [invoke_answer_iff] at h
  rw [(d.invoke_report host name argument interactive).2.2]
  refine d.after_of_not_judged host argument interactive ?_
  generalize d.fate host name argument interactive = fate at h
  rcases ha with rfl | rfl
  · cases h
    rfl
  · cases h
    rfl

/-- An invocation that ends before a body is started leaves everything as it was but the entries
that were seen. -/
theorem invoke_eq_of_no_body {a : Except Failure Outcome}
    (h : (d.invoke host name argument interactive).answer = a)
    (ha : (∃ gate, a = .ok (.preconditionUnmet gate)) ∨ a = .ok .heapUnavailable) :
    (d.invoke host name argument interactive).dispatcher =
      { d with seen := (d.invoke host name argument interactive).dispatcher.seen } := by
  rw [invoke_answer_iff] at h
  rw [(d.invoke_report host name argument interactive).2.2]
  refine d.after_of_no_body host argument interactive ?_
  generalize d.fate host name argument interactive = fate at h
  rcases ha with ⟨gate, rfl⟩ | rfl
  · cases h
    rfl
  · cases h
    rfl

/-- The entries that were seen after an invocation. -/
theorem mem_invoke_seen_iff (number : Nat) :
    number ∈ (d.invoke host name argument interactive).dispatcher.seen ↔ number ∈ d.seen ∨
      interactive = true ∧
        (∃ c args, d.registry.find? name = some c ∧
          (c.spec.parse c.name host argument).value = .ok args) ∧
        ∃ text, host.historyTail.bind History.parseLine? = some (number, text) := by
  rw [(d.invoke_report host name argument interactive).2.2, mem_after_seen_iff, fate_isJudged_iff]

/-- An invocation meets the contract. -/
theorem invokeFrame :
    d.InvokeFrame host name argument interactive (d.invoke host name argument interactive) where
  registry := (d.invoke_frame host name argument interactive).1
  config := (d.invoke_frame host name argument interactive).2
  unknown h := d.invoke_eq_self host name argument interactive h (.inl rfl)
  aborted h := d.invoke_eq_self host name argument interactive h (.inr rfl)
  unmet gate h := d.invoke_eq_of_no_body host name argument interactive h (.inl ⟨gate, rfl⟩)
  unavailable h := d.invoke_eq_of_no_body host name argument interactive h (.inr rfl)
  plain c hfind hplain := by
    rw [(d.invoke_report host name argument interactive).2.2]
    exact d.after_strategy host argument interactive
      (d.heap_of_plain host name argument interactive hfind hplain)
  mem_seen_iff := d.mem_invoke_seen_iff host name argument interactive

end Frame

/-! ## Entries stay seen -/

/-- What was seen stays seen when something is asked of a dispatcher. -/
theorem seen_subset_afterCall (d : Dispatcher σ) (call : Call σ) :
    d.seen ⊆ (d.afterCall call).seen := by
  intro number hseen
  cases call with
  | register c =>
    simp only [afterCall, register]
    cases d.registry.register c with
    | ok registry => exact hseen
    | error e => exact hseen
  | setConfig name value =>
    unfold afterCall
    dsimp only
    split
    · rename_i d' h
      rw [(setConfig_frame h).2.1]
      exact hseen
    · exact hseen
  | invoke host name argument interactive =>
    exact (d.mem_invoke_seen_iff host name argument interactive number).2 (.inl hseen)
  | invokeLine host line interactive =>
    unfold afterCall
    dsimp only
    rcases d.invokeLine_cases host line interactive with h | h
    · rw [h]
      exact hseen
    · rw [h]
      exact (d.mem_invoke_seen_iff host _ _ interactive number).2 (.inl hseen)

/-- What was seen stays seen, whatever is asked of a dispatcher. -/
theorem seen_subset_afterCalls (d : Dispatcher σ) (calls : List (Call σ)) :
    d.seen ⊆ (d.afterCalls calls).seen := by
  induction calls generalizing d with
  | nil => exact List.Subset.refl d.seen
  | cons call rest ih =>
    exact List.Subset.trans (d.seen_subset_afterCall call) (ih (d.afterCall call))

/-- An invocation leaves untouched what its answer says, and the history entries that were seen only
ever become more. -/
theorem invocations_touch_only_what_they_must (d : Dispatcher σ) :
    (∀ (host : Host) (name argument : String) (interactive : Bool),
      d.InvokeFrame host name argument interactive
        (d.invoke host name argument interactive)) ∧
      ∀ calls : List (Call σ), d.seen ⊆ (d.afterCalls calls).seen :=
  ⟨d.invokeFrame, d.seen_subset_afterCalls⟩

end Dispatcher

end DebugShell
