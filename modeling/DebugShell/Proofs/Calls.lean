import DebugShell.Proofs.Invocation

/-!
# Sequences of calls

Whoever uses a dispatcher registers commands, changes settings, and invokes commands by name or by
line, in any order and each time with the host as it is at that moment. `Dispatcher.afterCalls` is
what has become of the dispatcher then. Every call is explained by what it does to the parts of the
dispatcher: only a registration touches the registry (`registry_afterCall`), so that the names stay
apart throughout (`wellFormed_afterCalls`).
-/

namespace DebugShell

variable {σ : Type}

/-- What a dispatcher can be asked. -/
inductive Call (σ : Type) where
  /-- To register a command. -/
  | register (c : Command σ)
  /-- To change a setting. -/
  | setConfig (name value : String)
  /-- To invoke a command by one of its names. -/
  | invoke (host : Host) (name argument : String) (interactive : Bool)
  /-- To invoke a command by a line. -/
  | invokeLine (host : Host) (line : String) (interactive : Bool)

namespace Dispatcher

/-- The dispatcher that no command has been registered with, on a host with commands of its own. -/
def initial (builtins : List String) (config : Config) (memory : σ) : Dispatcher σ :=
  { registry := { builtins }, config, memory }

/-- The report of a call, if it is an invocation. -/
def report? (d : Dispatcher σ) : Call σ → Option (Report σ)
  | .register _ | .setConfig _ _ => none
  | .invoke host name argument interactive => some (d.invoke host name argument interactive)
  | .invokeLine host line interactive => some (d.invokeLine host line interactive)

/-- The dispatcher after a call. A command or a value that is refused leaves it as it was. -/
def afterCall (d : Dispatcher σ) : Call σ → Dispatcher σ
  | .register c =>
    match d.register c with
    | .ok d' => d'
    | .error _ => d
  | .setConfig name value =>
    match d.setConfig name value with
    | .ok d' => d'
    | .error _ => d
  | .invoke host name argument interactive => (d.invoke host name argument interactive).dispatcher
  | .invokeLine host line interactive => (d.invokeLine host line interactive).dispatcher

/-- The dispatcher after a sequence of calls. -/
def afterCalls (d : Dispatcher σ) (calls : List (Call σ)) : Dispatcher σ :=
  calls.foldl afterCall d

/-! ## What a call does to the dispatcher -/

/-- Invoking a line is doing nothing, if there is nothing on it, or invoking the command that it
names. -/
theorem invokeLine_cases (d : Dispatcher σ) (host : Host) (line : String) (interactive : Bool) :
    d.invokeLine host line interactive = { dispatcher := d, answer := .ok .empty } ∨
      d.invokeLine host line interactive =
        d.invoke host (cutLine line).1 (cutLine line).2 interactive := by
  unfold invokeLine
  split
  · exact .inl rfl
  · rename_i name argument h
    rw [h]
    exact .inr rfl

/-- If there is a word on it, it is the latter. -/
theorem invokeLine_of_word (d : Dispatcher σ) (host : Host) {line : String} (interactive : Bool)
    (h : (cutLine line).1 ≠ "") : d.invokeLine host line interactive =
      d.invoke host (cutLine line).1 (cutLine line).2 interactive := by
  unfold invokeLine
  split
  · rename_i argument hcut
    rw [hcut] at h
    exact absurd rfl h
  · rename_i name argument hcut
    rw [hcut]

/-- An invocation leaves the registry and the settings as they are. -/
theorem invoke_frame (d : Dispatcher σ) (host : Host) (name argument : String)
    (interactive : Bool) :
    (d.invoke host name argument interactive).dispatcher.registry = d.registry ∧
      (d.invoke host name argument interactive).dispatcher.config = d.config := by
  rw [(d.invoke_report host name argument interactive).2.2]
  exact ⟨rfl, rfl⟩

/-- So does an invocation by a line. -/
theorem invokeLine_frame (d : Dispatcher σ) (host : Host) (line : String) (interactive : Bool) :
    (d.invokeLine host line interactive).dispatcher.registry = d.registry ∧
      (d.invokeLine host line interactive).dispatcher.config = d.config := by
  rcases d.invokeLine_cases host line interactive with h | h
  · rw [h]
    exact ⟨rfl, rfl⟩
  · rw [h]
    exact d.invoke_frame host _ _ interactive

/-- A setting that is changed leaves everything but the settings and the stored strategy as it
is. -/
theorem setConfig_frame {d d' : Dispatcher σ} {name value : String}
    (h : d.setConfig name value = .ok d') :
    d'.registry = d.registry ∧ d'.seen = d.seen ∧ d'.memory = d.memory := by
  unfold setConfig at h
  split at h
  · cases h
  · split at h
    · cases h
      exact ⟨rfl, rfl, rfl⟩
    · cases h
      exact ⟨rfl, rfl, rfl⟩

/-- A registration changes the registry as it would by itself. -/
theorem register_registry (d : Dispatcher σ) (c : Command σ) :
    (d.afterCall (.register c)).registry = d.registry.afterRegister c := by
  simp only [afterCall, register, Registry.afterRegister]
  cases d.registry.register c with
  | ok r => rfl
  | error e => rfl

/-- A registration is the only call that changes the registry. -/
theorem registry_afterCall (d : Dispatcher σ) (call : Call σ) :
    (∃ c, (d.afterCall call).registry = d.registry.afterRegister c) ∨
      (d.afterCall call).registry = d.registry := by
  cases call with
  | register c => exact .inl ⟨c, d.register_registry c⟩
  | setConfig name value =>
    right
    unfold afterCall
    dsimp only
    split
    · rename_i d' h
      exact (setConfig_frame h).1
    · rfl
  | invoke host name argument interactive =>
    exact .inr (d.invoke_frame host name argument interactive).1
  | invokeLine host line interactive =>
    right
    unfold afterCall
    exact (d.invokeLine_frame host line interactive).1

/-- The registry is well formed after any call if it was before. -/
theorem wellFormed_afterCall {d : Dispatcher σ} (hd : d.registry.WellFormed) (call : Call σ) :
    (d.afterCall call).registry.WellFormed := by
  rcases d.registry_afterCall call with ⟨c, h⟩ | h
  · rw [h]
    exact hd.afterRegister c
  · rw [h]
    exact hd

/-- The registry is well formed after any sequence of calls. -/
theorem wellFormed_afterCalls (builtins : List String) (config : Config) (memory : σ)
    (calls : List (Call σ)) :
    ((initial builtins config memory).afterCalls calls).registry.WellFormed := by
  have hrun (d : Dispatcher σ) (hd : d.registry.WellFormed) :
      (d.afterCalls calls).registry.WellFormed := by
    induction calls generalizing d with
    | nil => exact hd
    | cons call rest ih => exact ih (d.afterCall call) (wellFormed_afterCall hd call)
  exact hrun _ (Registry.wellFormed_empty builtins)

/-- A report is that of invoking a command by one of its names, or of a line with nothing on it. -/
theorem report?_cases {d : Dispatcher σ} {call : Call σ} {report : Report σ}
    (h : d.report? call = some report) :
    report = { dispatcher := d, answer := .ok .empty } ∨
      ∃ host name argument interactive, report = d.invoke host name argument interactive ∧
        (call = .invoke host name argument interactive ∨
          ∃ line, call = .invokeLine host line interactive) := by
  cases call with
  | register c => cases h
  | setConfig name value => cases h
  | invoke host name argument interactive =>
    cases h
    exact .inr ⟨host, name, argument, interactive, rfl, .inl rfl⟩
  | invokeLine host line interactive =>
    rw [report?, Option.some.injEq] at h
    subst h
    rcases d.invokeLine_cases host line interactive with hline | hline
    · exact .inl hline
    · exact .inr ⟨host, (cutLine line).1, (cutLine line).2, interactive, hline, .inr ⟨line, rfl⟩⟩

/-- A body is started by an invocation only, and with the host of that invocation. -/
theorem report?_started {d : Dispatcher σ} {call : Call σ} {report : Report σ} {i : Invocation}
    (hreport : d.report? call = some report) (hstarted : report.started = some i) :
    ∃ host name argument interactive, report = d.invoke host name argument interactive ∧
      (call = .invoke host name argument interactive ∨
        ∃ line, call = .invokeLine host line interactive) := by
  rcases report?_cases hreport with rfl | h
  · cases hstarted
  · exact h

/-- The dispatcher after an invocation is the one of its report. -/
theorem afterCall_of_report {d : Dispatcher σ} {call : Call σ} {report : Report σ}
    (h : d.report? call = some report) : d.afterCall call = report.dispatcher := by
  cases call with
  | register c => cases h
  | setConfig name value => cases h
  | invoke host name argument interactive =>
    cases h
    rfl
  | invokeLine host line interactive =>
    cases h
    rfl

end Dispatcher

end DebugShell
