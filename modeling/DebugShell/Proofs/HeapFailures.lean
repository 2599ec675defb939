import DebugShell.Proofs.HeapStart

/-!
# How the failure of a heap body is told

The body of a heap command can fail anywhere, and on its way out the failure is wrapped in contexts.
Of all that, the report reads one thing: the symbol for want of which the body failed, if that is
the root cause (`Cause.symbol?`). `FailedRun` is a run whose body was started and failed. What it
tells after the body is an error and a warning, which are made of that symbol, the command and the
strategy, and a pointer to more if the failure is absorbed (`FailedRun.contract`). So runs of one
command that agree in the symbol, the strategy and the demand for failures tell the same after their
bodies, whatever else they are.

The contexts do not get lost. A body that is wrapped in contexts runs as it would without them, but
that the failure that is handed on has them (`HeapStrategy.run_wrapAll`).
-/

namespace DebugShell

/-! ## Contexts -/

/-- The symbol for want of which there is a failure, if that is its cause. -/
def Cause.symbol? : Cause → Option String
  | .heap (.symbolUnresolvable symbol) => some symbol
  | _ => none

/-- A failure wrapped in contexts, the innermost first. -/
def Failure.wrapAll (f : Failure) (contexts : List String) : Failure :=
  contexts.foldl wrap f

/-- The cause is seen behind any contexts, and the contexts are kept, the last as the outermost. -/
theorem Failure.wrapAll_eq (f : Failure) (contexts : List String) :
    f.wrapAll contexts = ⟨f.cause, contexts.reverse ++ f.contexts⟩ := by
  induction contexts generalizing f with
  | nil => rfl
  | cons context rest ih =>
    change (f.wrap context).wrapAll rest = _
    rw [ih, List.reverse_cons, List.append_assoc]
    rfl

/-- A run of a body whose failure, if there is one, is wrapped in contexts. -/
def BodyRun.wrapAll {σ : Type} (run : BodyRun σ) (contexts : List String) : BodyRun σ :=
  { run with result := run.result.mapError (·.wrapAll contexts) }

/-! ## The report -/

/-- The error that is told when a command fails, for want of a symbol or for another reason. -/
def failureError (command : String) : Option String → Message
  | some symbol => .error s!"{command}: Fail to resolve the symbol: `{symbol}`"
  | none => .error s!"{command}: An unknown error occurred when running this command."

/-- The warning that is told after it: what to try, by the symbol or else by the strategy. -/
def failureWarning (strategy : HeapStrategy) : Option String → Message
  | some symbol =>
    .warn <| "You can try to determine the libc symbols addresses manually and set them " ++
      "appropriately. For this, see the `heap_config` command output and set the config " ++
      "about `" ++ symbol ++ "`."
  | none => .warn strategy.hint

/-- The report of a failure is made of them, and reads nothing of the cause but the symbol. -/
theorem heapFailureReport_eq (command : String) (strategy : HeapStrategy) (cause : Cause) :
    heapFailureReport command strategy cause =
      [failureError command cause.symbol?, failureWarning strategy cause.symbol?] := by
  cases cause with
  | heap e =>
    cases e with
    | symbolUnresolvable symbol => rfl
    | notSelected => rfl
  | other text => rfl

/-- What a run tells after a body that failed. -/
def afterFailure (command : String) (strategy : HeapStrategy) (symbol : Option String)
    (handedOn : Bool) : List Message :=
  [failureError command symbol, failureWarning strategy symbol] ++
    if handedOn then [] else [verbosityPointer]

/-! ## Runs that fail -/

/-- A run of a heap command whose body was started under a strategy and failed. -/
structure FailedRun (σ : Type) where
  /-- The strategy that was used last. -/
  stored : HeapStrategy
  /-- The host. -/
  host : Host
  /-- The settings. -/
  config : Config
  /-- The name of the command. -/
  command : String
  /-- What the commands remember. -/
  memory : σ
  /-- The body. -/
  body : HeapStrategy → BodyRun σ
  /-- The strategy that the body ran under. -/
  strategy : HeapStrategy
  /-- The failure of the body. -/
  failure : Failure
  /-- The strategy is the one that was selected. -/
  selected : (stored.select host config).strategy = some strategy
  /-- Under it the body failed so. -/
  failed : (body strategy).result = .error failure

namespace FailedRun

variable {σ τ : Type}

/-- What the run did. -/
def report (r : FailedRun σ) : HeapReport σ :=
  r.stored.run r.host r.config r.command r.memory r.body

/-- What had been told when the body failed: by the selection, and by the body. -/
def toldBefore (r : FailedRun σ) : List Message :=
  (r.stored.select r.host r.config).output ++ (r.body r.strategy).output

/-- What becomes of a failed body. -/
structure Contract (r : FailedRun σ) : Prop where
  /-- The body ran under the strategy. -/
  ranUnder : r.report.ranUnder = some r.strategy
  /-- After it an error and a warning are told, and a pointer to more if the failure is absorbed. -/
  output : r.report.output = r.toldBefore ++
    afterFailure r.command r.strategy r.failure.cause.symbol? r.config.wantsRawErrors
  /-- The failure is handed on as it is, with its contexts, if the settings ask for failures, and
  absorbed otherwise. -/
  answer : r.report.answer =
    if r.config.wantsRawErrors = true then .error r.failure else .ok .absorbed

/-- Every failed run meets the contract. -/
theorem contract (r : FailedRun σ) : r.Contract := by
  have hrun : r.report = r.stored.run r.host r.config r.command r.memory r.body := rfl
  unfold HeapStrategy.run at hrun
  simp only [r.selected, r.failed, heapFailureReport_eq] at hrun
  cases hraw : r.config.wantsRawErrors with
  | true =>
    rw [hraw, if_pos rfl] at hrun
    exact ⟨by rw [hrun], by rw [hrun, hraw]; rfl, by rw [hrun, hraw]; rfl⟩
  | false =>
    rw [hraw, if_neg Bool.false_ne_true, List.append_assoc] at hrun
    exact ⟨by rw [hrun], by rw [hrun, hraw]; rfl, by rw [hrun, hraw]; rfl⟩

/-- A failed body is absorbed exactly if the settings do not ask for failures. -/
theorem absorbed_iff (r : FailedRun σ) :
    r.report.answer = .ok .absorbed ↔ r.config.wantsRawErrors = false := by
  rw [r.contract.answer]
  cases r.config.wantsRawErrors with
  | true => exact iff_of_false nofun nofun
  | false => exact iff_of_true rfl rfl

end FailedRun

/-- A body that is wrapped in contexts runs as it would without them, but that a failure that is
handed on has them. -/
theorem HeapStrategy.run_wrapAll {σ : Type} (stored : HeapStrategy) (host : Host) (config : Config)
    (command : String) (memory : σ) (body : HeapStrategy → BodyRun σ) (contexts : List String) :
    stored.run host config command memory (fun strategy => (body strategy).wrapAll contexts) =
      { stored.run host config command memory body with
        answer := (stored.run host config command memory body).answer.mapError
          (·.wrapAll contexts) } := by
  cases hstrategy : (stored.select host config).strategy with
  | none => simp only [run, hstrategy, Except.mapError]
  | some strategy =>
    cases hresult : (body strategy).result with
    | ok _ => simp only [run, hstrategy, BodyRun.wrapAll, hresult, Except.mapError]
    | error failure =>
      simp only [run, hstrategy, BodyRun.wrapAll, hresult, Except.mapError, failure.wrapAll_eq]
      cases config.wantsRawErrors with
      | true => simp only [if_true, failure.wrapAll_eq]
      | false => simp only [Bool.false_eq_true, if_false]

/-- A run of a heap command whose body failed tells an error and a warning after the body, by the
symbol that the root cause is the want of or else by the strategy, and a pointer to more if the
failure is absorbed. Otherwise the failure is handed on as it is. Two such runs of one command that
agree in the symbol, the strategy and the demand for failures tell the same after their bodies, and
both absorb or both hand on. Contexts around the failures of a body change nothing but the failure
that is handed on, which has them. -/
theorem heap_failures_are_told_by_cause {σ τ : Type} (r : FailedRun σ) (r' : FailedRun τ) :
    r.Contract ∧
    (r.command = r'.command → r.strategy = r'.strategy →
      r.failure.cause.symbol? = r'.failure.cause.symbol? →
      r.config.wantsRawErrors = r'.config.wantsRawErrors →
      (∃ after, r.report.output = r.toldBefore ++ after ∧
        r'.report.output = r'.toldBefore ++ after) ∧
      (r.report.answer = .ok .absorbed ↔ r'.report.answer = .ok .absorbed)) ∧
    ∀ contexts : List String,
      r.stored.run r.host r.config r.command r.memory
          (fun strategy => (r.body strategy).wrapAll contexts) =
        { r.report with answer := r.report.answer.mapError (·.wrapAll contexts) } := by
  refine ⟨r.contract, fun hcommand hstrategy hsymbol hraw => ⟨⟨_, r.contract.output, ?_⟩, ?_⟩,
    HeapStrategy.run_wrapAll _ _ _ _ _ _⟩
  · rw [r'.contract.output, hcommand, hstrategy, hsymbol, hraw]
  · rw [r.absorbed_iff, r'.absorbed_iff, hraw]

/-- A run that falls back on the heuristic, and whose body says something before it fails for want
of a symbol, deep inside. -/
def deepRun : FailedRun Unit where
  stored := .debugSymbols
  host := Dispatcher.versionedHost
  config := {}
  command := "tcachebins"
  memory := ()
  body := fun _ =>
    { memory := (), output := [.plain "Bins:"]
      result := .error ⟨.heap (.symbolUnresolvable "tcache"), ["listing", "reading a bin"]⟩ }
  strategy := .heuristic
  failure := ⟨.heap (.symbolUnresolvable "tcache"), ["listing", "reading a bin"]⟩
  selected := rfl
  failed := rfl

/-- A run of the same command in forced mode, whose body fails for want of the same symbol at
once. -/
def flatRun : FailedRun Unit where
  stored := .heuristic
  host := Dispatcher.versionedHost
  config := { resolutionMode := .force }
  command := "tcachebins"
  memory := ()
  body := fun _ => { memory := (), result := .error ⟨.heap (.symbolUnresolvable "tcache"), []⟩ }
  strategy := .heuristic
  failure := ⟨.heap (.symbolUnresolvable "tcache"), []⟩
  selected := rfl
  failed := rfl

/-- Both tell of the symbol after their bodies, and absorb the failure. -/
theorem deep_failure_is_told_as_flat :
    deepRun.toldBefore = [fallbackWarning, .plain "Bins:"] ∧ flatRun.toldBefore = [] ∧
    (∃ after, deepRun.report.output = deepRun.toldBefore ++ after ∧
      flatRun.report.output = flatRun.toldBefore ++ after) ∧
    deepRun.report.output = [fallbackWarning, .plain "Bins:",
      .error "tcachebins: Fail to resolve the symbol: `tcache`",
      .warn <| "You can try to determine the libc symbols addresses manually and set them " ++
        "appropriately. For this, see the `heap_config` command output and set the config about " ++
        "`tcache`.",
      verbosityPointer] ∧
    deepRun.report.answer = .ok .absorbed := by
  obtain ⟨hcontract, hagree, -⟩ := heap_failures_are_told_by_cause deepRun flatRun
  exact ⟨rfl, rfl, (hagree rfl rfl rfl rfl).1, hcontract.output.trans (by decide +kernel),
    hcontract.answer⟩

end DebugShell
