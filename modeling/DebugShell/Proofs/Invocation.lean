import DebugShell.Dispatcher
import DebugShell.Proofs.Registry
import DebugShell.Proofs.Selection

/-!
# What an invocation comes to

An invocation passes five stages, and any of them can end it. `Dispatcher.fate` says which one does,
and with what; the body of a command is started in one of its five cases only. Two facts make
everything else follow. The answer, the body that was started and the dispatcher after an invocation
are those of its fate (`Dispatcher.invoke_report`), and here the two places where a body is run,
with and without a strategy for heap symbols, are seen to agree. Each fate is the invocation's own
exactly under conditions on the host, the registry and the settings
(`Dispatcher.fate_eq_unknown_iff` to `Dispatcher.fate_eq_started_iff`).
-/

namespace DebugShell

variable {σ : Type}

/-! ## Gates -/

/-- The first gate that does not hold has only gates in front of it that do. -/
theorem Gate.firstUnmet_eq_some_iff (gates : List Gate) (s : Session) (g : Gate) :
    firstUnmet gates s = some g ↔ ∃ before after, gates = before ++ g :: after ∧
      (∀ b ∈ before, b.holds s = true) ∧ g.holds s = false := by
  unfold firstUnmet
  rw [List.find?_eq_some_iff_append]
  simp only [Bool.not_eq_true', Bool.not_not]
  constructor
  · rintro ⟨hg, before, after, hgates, hbefore⟩
    exact ⟨before, after, hgates, hbefore, hg⟩
  · rintro ⟨before, after, hgates, hbefore, hg⟩
    exact ⟨hg, before, after, hgates, hbefore⟩

/-- There is no such gate exactly if all gates hold. -/
theorem Gate.firstUnmet_eq_none_iff (gates : List Gate) (s : Session) :
    firstUnmet gates s = none ↔ ∀ g ∈ gates, g.holds s = true := by
  unfold firstUnmet
  rw [List.find?_eq_none]
  simp only [Bool.not_eq_true', Bool.not_eq_false]

/-! ## Running a body -/

/-- The answer to an invocation whose body came to a result: a failure is absorbed, unless the
settings ask for failures to be handed on. -/
def answerOf (config : Config) : Except Failure Unit → Except Failure Outcome
  | .ok () => .ok .completed
  | .error failure => if config.wantsRawErrors then .error failure else .ok .failed

namespace Dispatcher

section Perform

variable (d : Dispatcher σ) {c : Command σ} (i : Invocation)

/-- A command that does not require a resolved heap is run as it is. -/
theorem perform_of_plain (h : c.requiresHeap = false) :
    (d.perform c i).answer = answerOf d.config (c.body i d.memory).result ∧
      (d.perform c i).started = some i ∧
      (d.perform c i).dispatcher = { d with memory := (c.body i d.memory).memory } := by
  simp only [perform, h, Bool.false_eq_true, if_false]
  cases (c.body i d.memory).result with
  | ok _ => exact ⟨rfl, rfl, rfl⟩
  | error failure =>
    dsimp only [answerOf]
    split
    · exact ⟨rfl, rfl, rfl⟩
    · exact ⟨rfl, rfl, rfl⟩

/-- A command that requires a resolved heap is run under the strategy that is selected. -/
theorem perform_of_strategy (h : c.requiresHeap = true) {strategy : HeapStrategy}
    (hstrategy : (d.strategy.select i.host d.config).strategy = some strategy) :
    (d.perform c i).answer =
        answerOf d.config (c.body { i with heap := some strategy } d.memory).result ∧
      (d.perform c i).started = some { i with heap := some strategy } ∧
      (d.perform c i).dispatcher = { d with
        strategy, memory := (c.body { i with heap := some strategy } d.memory).memory } := by
  have hstored := HeapStrategy.select_stored d.strategy i.host d.config
  rw [hstrategy, Option.getD_some] at hstored
  simp only [perform, h, if_true, HeapStrategy.run, hstrategy]
  cases (c.body { i with heap := some strategy } d.memory).result with
  | ok _ => exact ⟨rfl, rfl, by rw [hstored]⟩
  | error failure =>
    dsimp only [answerOf]
    split
    · exact ⟨rfl, rfl, by rw [hstored]⟩
    · exact ⟨rfl, rfl, by rw [hstored]⟩

/-- Without a strategy such a command is not run. -/
theorem perform_of_unavailable (h : c.requiresHeap = true)
    (hstrategy : (d.strategy.select i.host d.config).strategy = none) :
    (d.perform c i).answer = .ok .heapUnavailable ∧ (d.perform c i).started = none ∧
      (d.perform c i).dispatcher = d := by
  have hstored := HeapStrategy.select_stored d.strategy i.host d.config
  rw [hstrategy, Option.getD_none] at hstored
  simp only [perform, h, if_true, HeapStrategy.run, hstrategy]
  exact ⟨rfl, rfl, by rw [hstored]⟩

end Perform

end Dispatcher

/-! ## The fate of an invocation -/

/-- How far an invocation comes. -/
inductive Fate (σ : Type) where
  /-- No command has the name. -/
  | unknown
  /-- The arguments are not accepted. -/
  | aborted (abort : UsageAborted)
  /-- A gate does not hold. -/
  | unmet (gate : Gate)
  /-- The command requires a resolved heap, and no strategy can be used. -/
  | unavailable
  /-- The body of a command is started. -/
  | started (c : Command σ) (i : Invocation)

namespace Fate

/-- What the body is given, if one is started. -/
def invocation? : Fate σ → Option Invocation
  | .started _ i => some i
  | _ => none

/-- The arguments were accepted, so that it was judged whether the invocation is a repeat. -/
def isJudged : Fate σ → Bool
  | .unknown | .aborted _ => false
  | .unmet _ | .unavailable | .started _ _ => true

/-- What the commands remember afterwards: what the body left, if one was started. -/
def memory (before : σ) : Fate σ → σ
  | .started c i => (c.body i before).memory
  | _ => before

/-- The answer to an invocation, by the settings and by what the commands remember. -/
def answer (config : Config) (memory : σ) : Fate σ → Except Failure Outcome
  | .unknown => .ok .unknownCommand
  | .aborted _ => .ok .usageAborted
  | .unmet gate => .ok (.preconditionUnmet gate)
  | .unavailable => .ok .heapUnavailable
  | .started c i => answerOf config (c.body i memory).result

end Fate

namespace Dispatcher

variable (d : Dispatcher σ) (host : Host) (name argument : String) (interactive : Bool)

/-- Whether an invocation counts as a repeat, and the history entries that were seen after it. -/
def judged : Bool × History.Seen :=
  History.isRepeat d.seen host.historyTail argument interactive

/-- What the body of a command is given, where no strategy for heap symbols has been selected. -/
def invocation (c : Command σ) (args : Arguments) : Invocation :=
  { command := c.name, host, config := d.config, args,
    repeated := (d.judged host argument interactive).1, heap := none }

/-- How far an invocation comes. -/
def fate : Fate σ :=
  match d.registry.find? name with
  | none => .unknown
  | some c =>
    match (c.spec.parse c.name host argument).value with
    | .error abort => .aborted abort
    | .ok args =>
      match Gate.firstUnmet c.gates host.session with
      | some gate => .unmet gate
      | none =>
        let i := d.invocation host argument interactive c args
        if c.requiresHeap then
          match (d.strategy.select host d.config).strategy with
          | none => .unavailable
          | some strategy => .started c { i with heap := some strategy }
        else .started c i

/-- The dispatcher after an invocation of a fate. Only the seen history entries, the stored strategy
and what the commands remember can differ. -/
def after (fate : Fate σ) : Dispatcher σ :=
  { d with
    seen := if fate.isJudged then (d.judged host argument interactive).2 else d.seen
    strategy := (fate.invocation?.bind (·.heap)).getD d.strategy
    memory := fate.memory d.memory }

/-- The report of an invocation is that of its fate. -/
theorem invoke_report :
    (d.invoke host name argument interactive).answer =
        (d.fate host name argument interactive).answer d.config d.memory ∧
      (d.invoke host name argument interactive).started =
        (d.fate host name argument interactive).invocation? ∧
      (d.invoke host name argument interactive).dispatcher =
        d.after host argument interactive (d.fate host name argument interactive) := by
  unfold invoke fate
  cases d.registry.find? name with
  | none => exact ⟨rfl, rfl, rfl⟩
  | some c =>
    dsimp only
    cases (c.spec.parse c.name host argument).value with
    | error abort => exact ⟨rfl, rfl, rfl⟩
    | ok args =>
      dsimp only
      cases Gate.firstUnmet c.gates host.session with
      | some gate => exact ⟨rfl, rfl, rfl⟩
      | none =>
        -- The body is run by the dispatcher that has judged the invocation.
        let d' := { d with seen := (d.judged host argument interactive).2 }
        let i := d.invocation host argument interactive c args
        cases hheap : c.requiresHeap with
        | false =>
          obtain ⟨hanswer, hstarted, hdispatcher⟩ := d'.perform_of_plain i hheap
          exact ⟨hanswer, hstarted, hdispatcher⟩
        | true =>
          cases hstrategy : (d.strategy.select host d.config).strategy with
          | none =>
            obtain ⟨hanswer, hstarted, hdispatcher⟩ := d'.perform_of_unavailable i hheap hstrategy
            exact ⟨hanswer, hstarted, hdispatcher⟩
          | some strategy =>
            obtain ⟨hanswer, hstarted, hdispatcher⟩ := d'.perform_of_strategy i hheap hstrategy
            exact ⟨hanswer, hstarted, hdispatcher⟩

/-! ### When each fate is met -/

/-- A name that belongs to no command is unknown. -/
theorem fate_eq_unknown_iff :
    d.fate host name argument interactive = .unknown ↔ d.registry.find? name = none := by
  unfold fate
  grind

/-- An invocation is aborted exactly when the arguments of its command are not accepted. -/
theorem fate_eq_aborted_iff (abort : UsageAborted) :
    d.fate host name argument interactive = .aborted abort ↔ ∃ c,
      d.registry.find? name = some c ∧
      (c.spec.parse c.name host argument).value = .error abort := by
  unfold fate
  grind

/-- An invocation ends at a gate exactly when its arguments are accepted and the gate is the first
that does not hold. -/
theorem fate_eq_unmet_iff (gate : Gate) :
    d.fate host name argument interactive = .unmet gate ↔ ∃ c args,
      d.registry.find? name = some c ∧
      (c.spec.parse c.name host argument).value = .ok args ∧
      Gate.firstUnmet c.gates host.session = some gate := by
  unfold fate
  grind

/-- An invocation ends for want of a strategy exactly when all gates hold and the command requires
one. -/
theorem fate_eq_unavailable_iff :
    d.fate host name argument interactive = .unavailable ↔ ∃ c args,
      d.registry.find? name = some c ∧
      (c.spec.parse c.name host argument).value = .ok args ∧
      Gate.firstUnmet c.gates host.session = none ∧
      c.requiresHeap = true ∧ (d.strategy.select host d.config).strategy = none := by
  unfold fate
  grind

/-- An invocation is judged exactly when its arguments are accepted. -/
theorem fate_isJudged_iff :
    (d.fate host name argument interactive).isJudged = true ↔ ∃ c args,
      d.registry.find? name = some c ∧
      (c.spec.parse c.name host argument).value = .ok args := by
  unfold fate
  grind [Fate.isJudged]

/-- Otherwise the body is started, under the selected strategy if the command requires one. -/
theorem fate_eq_started_iff (c : Command σ) (i : Invocation) :
    d.fate host name argument interactive = .started c i ↔ ∃ args heap,
      d.registry.find? name = some c ∧
      (c.spec.parse c.name host argument).value = .ok args ∧
      Gate.firstUnmet c.gates host.session = none ∧
      (c.requiresHeap = false ∧ heap = none ∨ c.requiresHeap = true ∧ heap ≠ none ∧
        (d.strategy.select host d.config).strategy = heap) ∧
      i = { d.invocation host argument interactive c args with heap } := by
  unfold fate
  constructor
  · intro h
    split at h
    · cases h
    · rename_i c' hfind
      split at h
      · cases h
      · rename_i args hargs
        split at h
        · cases h
        · rename_i hgates
          dsimp only at h
          split at h
          · rename_i hheap
            split at h
            · cases h
            · rename_i strategy hstrategy
              cases h
              exact ⟨args, some strategy, hfind, hargs, hgates, .inr ⟨hheap, by simp, hstrategy⟩,
                rfl⟩
          · rename_i hheap
            cases h
            exact ⟨args, none, hfind, hargs, hgates, .inl ⟨by simpa using hheap, rfl⟩, rfl⟩
  · rintro ⟨args, heap, hfind, hargs, hgates, hheap, rfl⟩
    simp only [hfind, hargs, hgates]
    -- Which of the two ways of starting a body is taken depends on the command.
    rcases hheap with ⟨hplain, rfl⟩ | ⟨hrequired, hheap, hstrategy⟩
    · rw [if_neg (by simp [hplain])]
      rfl
    · obtain ⟨strategy, rfl⟩ := Option.ne_none_iff_exists'.1 hheap
      rw [if_pos hrequired, hstrategy]

end Dispatcher

end DebugShell
