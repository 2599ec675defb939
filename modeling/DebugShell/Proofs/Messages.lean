import DebugShell.Proofs.Containment

/-!
# What an invocation tells the operator

`Dispatcher.Tells` accounts for every message of an invocation, from the command that the invoked
name finds. A stage that ends the invocation is the only one that speaks. Otherwise the selection of
a strategy speaks first, then the body, and last, if the body failed, the report of its failure. All
that is not the body's own is made from the name and the description of the command: the name that
was typed does not occur.

So what is told depends on how far the invocation comes. `Dispatcher.told` gives it for each fate
(`invoke_output`).
-/

namespace DebugShell

variable {σ : Type}

/-- What is told in place of running a command: regular output if it was asked for, else the report
of a failure. -/
def UsageAborted.told (abort : UsageAborted) : Message :=
  if abort.helpRequested then .plain abort.message.trimBlanksEnd
  else .error abort.message.trimBlanksEnd

/-- What is told after a body that was given a strategy or none: nothing if it completed, and the
report of its failure otherwise, with a pointer to more if the failure is absorbed. -/
def Command.afterword (c : Command σ) (config : Config) (heap : Option HeapStrategy) :
    Except Failure Unit → List Message
  | .ok () => []
  | .error failure =>
    (match heap with
      | some strategy => heapFailureReport c.name strategy failure.cause
      | none => failureReport c.name c.spec.description failure) ++
    if config.wantsRawErrors then [] else [verbosityPointer]

namespace Dispatcher

/-! ## Running a body -/

section Perform

variable (d : Dispatcher σ) {c : Command σ} (i : Invocation)

/-- A command that does not require a resolved heap tells what its body tells, and the afterword. -/
theorem perform_output_of_plain (h : c.requiresHeap = false) :
    (d.perform c i).output = (c.body i d.memory).output ++
      c.afterword d.config none (c.body i d.memory).result := by
  simp only [perform, h, Bool.false_eq_true, if_false]
  cases (c.body i d.memory).result with
  | ok _ => exact (List.append_nil _).symm
  | error failure =>
    dsimp only [Command.afterword]
    split
    · rw [List.append_nil]
    · rw [List.append_assoc]

/-- Before the body of a command that requires a resolved heap, the selection speaks. -/
theorem perform_output_of_strategy (h : c.requiresHeap = true) {strategy : HeapStrategy}
    (hstrategy : (d.strategy.select i.host d.config).strategy = some strategy) :
    (d.perform c i).output = (d.strategy.select i.host d.config).output ++
      ((c.body { i with heap := some strategy } d.memory).output ++
        c.afterword d.config (some strategy)
          (c.body { i with heap := some strategy } d.memory).result) := by
  simp only [perform, h, if_true, HeapStrategy.run, hstrategy]
  cases (c.body { i with heap := some strategy } d.memory).result with
  | ok _ =>
    dsimp only [Command.afterword]
    rw [List.append_nil]
  | error failure =>
    dsimp only [Command.afterword]
    split
    · simp only [List.append_assoc, List.append_nil]
    · simp only [List.append_assoc]

/-- Without a strategy the selection is all that speaks. -/
theorem perform_output_of_unavailable (h : c.requiresHeap = true)
    (hstrategy : (d.strategy.select i.host d.config).strategy = none) :
    (d.perform c i).output = (d.strategy.select i.host d.config).output := by
  simp only [perform, h, if_true, HeapStrategy.run, hstrategy]

end Perform

/-! ## The account -/

section Tells

variable (d : Dispatcher σ) (host : Host) (name argument : String) (interactive : Bool)

/-- What the operator is told in the report of an invocation of `c`. -/
structure Tells (c : Command σ) (report : Report σ) : Prop where
  /-- If the arguments are not accepted, the command's usage is all that is told. -/
  aborted : ∀ abort, (c.spec.parse c.name host argument).value = .error abort →
    report.output = [abort.told]
  /-- If a gate does not hold, its diagnostic for the command is. -/
  unmet : ∀ gate, report.answer = .ok (.preconditionUnmet gate) →
    report.output = [.error (gate.diagnostic c.name host.session)]
  /-- If no strategy can be used, what the selection tells is. -/
  unavailable : report.answer = .ok .heapUnavailable →
    report.output = (d.strategy.select host d.config).output
  /-- A body that is started is given the command's name. It speaks after the selection, if one was
  made, and before the command's afterword. -/
  ran : ∀ i, report.started = some i → i.command = c.name ∧
    report.output = (if c.requiresHeap then (d.strategy.select host d.config).output else []) ++
      ((c.body i d.memory).output ++ c.afterword d.config i.heap (c.body i d.memory).result)

variable {c : Command σ}

/-- An invocation that passes the first stages tells what performing the command tells. -/
theorem invoke_output_of_passed (hfind : d.registry.find? name = some c) {args : Arguments}
    (hargs : (c.spec.parse c.name host argument).value = .ok args)
    (hgates : Gate.firstUnmet c.gates host.session = none) :
    (d.invoke host name argument interactive).output =
      ({ d with seen := (d.judged host argument interactive).2 }.perform c
        (d.invocation host argument interactive c args)).output := by
  unfold invoke
  simp only [hfind, hargs, hgates]
  rfl

/-- An invocation tells what the account says of the command that its name finds. -/
theorem invoke_tells (hfind : d.registry.find? name = some c) :
    d.Tells host argument c (d.invoke host name argument interactive) where
  aborted abort h := by
    unfold invoke UsageAborted.told
    simp only [hfind, h]
  unmet gate h := by
    rw [invoke_answer_iff] at h
    generalize hfate : d.fate host name argument interactive = fate at h
    cases h
    obtain ⟨c', args, hfind', hargs, hgate⟩ := (fate_eq_unmet_iff d _ _ _ _ gate).1 hfate
    obtain rfl : c = c' := Option.some.inj (hfind.symm.trans hfind')
    unfold invoke
    simp only [hfind, hargs, hgate]
  unavailable h := by
    rw [invoke_answer_iff] at h
    generalize hfate : d.fate host name argument interactive = fate at h
    cases h
    obtain ⟨c', args, hfind', hargs, hgates, hrequired, hnone⟩ :=
      (fate_eq_unavailable_iff d _ _ _ _).1 hfate
    rw [d.invoke_output_of_passed host name argument interactive hfind' hargs hgates]
    exact perform_output_of_unavailable _ _ hrequired hnone
  ran i h := by
    rw [(d.invoke_report host name argument interactive).2.1] at h
    cases hfate : d.fate host name argument interactive with
    | started c' i' =>
      rw [hfate] at h
      cases h
      obtain ⟨args, heap, hfind', hargs, hgates, hheap, rfl⟩ :=
        (fate_eq_started_iff d _ _ _ _ c' i).1 hfate
      obtain rfl : c = c' := Option.some.inj (hfind.symm.trans hfind')
      refine ⟨rfl, ?_⟩
      rw [d.invoke_output_of_passed host name argument interactive hfind hargs hgates]
      rcases hheap with ⟨hplain, rfl⟩ | ⟨hrequired, hheap, hstrategy⟩
      · rw [if_neg (by simp [hplain]), List.nil_append]
        exact perform_output_of_plain _ _ hplain
      · obtain ⟨strategy, rfl⟩ := Option.ne_none_iff_exists'.1 hheap
        rw [if_pos hrequired]
        exact perform_output_of_strategy _ _ hrequired hstrategy
    | _ =>
      rw [hfate] at h
      cases h

end Tells

/-! ## What each fate tells -/

section Told

variable (d : Dispatcher σ) (host : Host) (name argument : String) (interactive : Bool)

/-- What the operator is told of an invocation that comes to a fate. The diagnostic of a gate is for
the command that the name finds. -/
def told : Fate σ → List Message
  | .unknown => [undefinedCommand name]
  | .aborted abort => [abort.told]
  | .unmet gate => (d.registry.find? name).toList.map fun c =>
    .error (gate.diagnostic c.name host.session)
  | .unavailable => (d.strategy.select host d.config).output
  | .started c i => (if c.requiresHeap then (d.strategy.select host d.config).output else []) ++
    ((c.body i d.memory).output ++ c.afterword d.config i.heap (c.body i d.memory).result)

/-- What is told depends on the fate alone. -/
theorem invoke_output :
    (d.invoke host name argument interactive).output =
      d.told host name (d.fate host name argument interactive) := by
  obtain ⟨hanswer, hstarted, -⟩ := d.invoke_report host name argument interactive
  cases hfate : d.fate host name argument interactive with
  | unknown =>
    have hfind := (d.fate_eq_unknown_iff host name argument interactive).1 hfate
    unfold invoke
    rw [hfind]
    rfl
  | aborted abort =>
    obtain ⟨c, hfind, habort⟩ :=
      (d.fate_eq_aborted_iff host name argument interactive abort).1 hfate
    exact (d.invoke_tells host name argument interactive hfind).aborted abort habort
  | unmet gate =>
    obtain ⟨c, args, hfind, -⟩ := (d.fate_eq_unmet_iff host name argument interactive gate).1 hfate
    rw [hfate] at hanswer
    rw [(d.invoke_tells host name argument interactive hfind).unmet gate hanswer, told, hfind]
    rfl
  | unavailable =>
    obtain ⟨c, args, hfind, -⟩ := (d.fate_eq_unavailable_iff host name argument interactive).1 hfate
    rw [hfate] at hanswer
    exact (d.invoke_tells host name argument interactive hfind).unavailable hanswer
  | started c i =>
    obtain ⟨args, heap, hfind, -⟩ :=
      (d.fate_eq_started_iff host name argument interactive c i).1 hfate
    rw [hfate] at hstarted
    exact ((d.invoke_tells host name argument interactive hfind).ran i hstarted).2

/-- Arguments that are not accepted are answered with the usage. -/
theorem invoke_of_abort {c : Command σ} (hfind : d.registry.find? name = some c)
    {abort : UsageAborted} (habort : (c.spec.parse c.name host argument).value = .error abort) :
    (d.invoke host name argument interactive).answer = .ok .usageAborted ∧
      (d.invoke host name argument interactive).output = [abort.told] := by
  have hfate := (d.fate_eq_aborted_iff host name argument interactive abort).2 ⟨c, hfind, habort⟩
  have hanswer := (d.invoke_report host name argument interactive).1
  rw [hfate] at hanswer
  exact ⟨hanswer, (d.invoke_tells host name argument interactive hfind).aborted abort habort⟩

end Told

/-! ## Commands that require no resolved heap -/

section Plain

variable (d : Dispatcher σ) {host : Host} {name argument : String} (interactive : Bool)
  {c : Command σ} {args : Arguments}

/-- A command that requires no resolved heap is run if its arguments are accepted and its gates
hold. What is answered and told is what its body comes to. -/
theorem invoke_of_plain (hfind : d.registry.find? name = some c)
    (hargs : (c.spec.parse c.name host argument).value = .ok args)
    (hgates : ∀ g ∈ c.gates, g.holds host.session = true) (hplain : c.requiresHeap = false)
    {run : BodyRun σ}
    (hrun : c.body (d.invocation host argument interactive c args) d.memory = run) :
    (d.invoke host name argument interactive).started =
        some (d.invocation host argument interactive c args) ∧
      (d.invoke host name argument interactive).answer = answerOf d.config run.result ∧
      (d.invoke host name argument interactive).output =
        run.output ++ c.afterword d.config none run.result := by
  have hunmet := (Gate.firstUnmet_eq_none_iff c.gates host.session).2 hgates
  have hfate : d.fate host name argument interactive =
      .started c (d.invocation host argument interactive c args) :=
    (d.fate_eq_started_iff host name argument interactive c _).2
      ⟨args, none, hfind, hargs, hunmet, .inl ⟨hplain, rfl⟩, rfl⟩
  obtain ⟨hanswer, hstarted, -⟩ := d.invoke_report host name argument interactive
  have houtput := d.invoke_output host name argument interactive
  rw [hfate] at hanswer hstarted houtput
  refine ⟨hstarted, ?_, ?_⟩
  · rw [hanswer, ← hrun]
    rfl
  · rw [houtput, ← hrun, told, if_neg (by simp [hplain]), List.nil_append]
    rfl

end Plain

end Dispatcher

end DebugShell
