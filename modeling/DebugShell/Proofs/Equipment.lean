import DebugShell.Proofs.Lines
import DebugShell.Proofs.Messages

/-!
# What a line runs

A shell is started with the commands of its target, and no line adds a command or takes one away
(`Equipped.after`). So a body that a line starts is that of one of these commands, and everything
else about the line follows from what the body comes to: what the commands remember, what is told,
and whether the line fails (`Runs`, `Equipped.runs`). There are three things that a shell can make
of a line (`Taken`), and a line that starts no body leaves what the commands remember as it was
(`Taken.memory_of_idle`).

How the filters of `nextcall` are read makes no difference to any of this. `startWith` starts a
shell with any way of reading them.
-/

namespace DebugShell

/-- Commands that are all registered come last, in their order, and keep a registry well formed. -/
theorem Registry.WellFormed.registerAll {σ : Type} {r r' : Registry σ} (hr : r.WellFormed)
    {cs : List (Command σ)} (h : r.registerAll cs = .ok r') :
    r'.WellFormed ∧ r'.commands = r.commands ++ cs := by
  induction cs generalizing r with
  | nil =>
    cases h
    exact ⟨hr, (List.append_nil _).symm⟩
  | cons c rest ih =>
    unfold Registry.registerAll at h
    split at h
    · rename_i r₁ hregister
      obtain ⟨hwellFormed, hcommands⟩ := ih (hr.register hregister) h
      obtain ⟨-, rfl⟩ := (Registry.register_eq_ok_iff r c r₁).1 hregister
      refine ⟨hwellFormed, ?_⟩
      rw [hcommands, Registry.withCommand, List.append_assoc, List.singleton_append]
    · cases h

namespace Shell

/-- A shell for a target, with the settings it starts with and a way of reading filters. -/
def startWith (readFilter : FilterReader) (target : Target) (config : Config) :
    Except RegistryError Shell :=
  let d := Dispatcher.forHost (target.host []) config 0
  match d.registry.registerAll (commands target readFilter) with
  | .ok registry => .ok { target, dispatcher := { d with registry } }
  | .error e => .error e

/-- The filters of a shell are read as patterns. -/
theorem start_eq_startWith (target : Target) (config : Config) :
    start target config = startWith patternFilter target config := rfl

/-- The names of a shell's commands, in the order in which they are registered. -/
def commandNames : List String :=
  ["fsbase", "gsbase", "ghidra", "distance", "nextcall", "kversion", "arena", "tcachebins",
    "heap_config"]

/-- They are the same for every target. -/
theorem map_name_commands (target : Target) (readFilter : FilterReader) :
    (commands target readFilter).map Command.name = commandNames := rfl

/-- The name of a command is one of them. -/
theorem name_mem_commandNames {target : Target} {readFilter : FilterReader} {c : Command Nat}
    (hc : c ∈ commands target readFilter) : c.name ∈ commandNames := by
  rw [← map_name_commands target readFilter]
  exact List.mem_map_of_mem hc

/-- No two commands of a shell have one name. -/
theorem eq_of_name_eq {target : Target} {readFilter : FilterReader} {c c' : Command Nat}
    (hc : c ∈ commands target readFilter) (hc' : c' ∈ commands target readFilter)
    (h : c.name = c'.name) : c = c' := by
  have hdistinct : ((commands target readFilter).map Command.name).Nodup := by
    rw [map_name_commands]
    decide
  exact List.inj_on_of_nodup_map hdistinct hc hc' h

/-! ## What the bodies come to -/

/-- A body completes with regular output, or fails without a word. In either case what the commands
remember stays as it was. -/
inductive TellsOrFails (passed : Nat) : BodyRun Nat → Prop
  /-- It completes. -/
  | tells (lines evaluated : List String) :
    TellsOrFails passed (telling passed (lines.map .plain) evaluated)
  /-- It fails. -/
  | fails (failure : Failure) (evaluated : List String) :
    TellsOrFails passed (failing passed failure evaluated)

/-- Such a body leaves what the commands remember as it was. -/
theorem TellsOrFails.memory_eq {passed : Nat} {run : BodyRun Nat} (h : TellsOrFails passed run) :
    run.memory = passed := by
  cases h with
  | tells lines evaluated => rfl
  | fails failure evaluated => rfl

/-- Such a body tells no error. -/
theorem TellsOrFails.severity_ne {passed : Nat} {run : BodyRun Nat} (h : TellsOrFails passed run) :
    ∀ m ∈ run.output, m.severity ≠ .error := by
  intro m hm
  cases h with
  | tells lines evaluated =>
    obtain ⟨line, -, rfl⟩ := List.mem_map.1 hm
    exact Severity.noConfusion
  | fails failure evaluated => cases hm

section Bodies

variable {target : Target} {readFilter : FilterReader} {i : Invocation} (passed : Nat)

/-- The base of a segment is told, or the host has no value for it. -/
theorem segmentBase_body (name segment register : String) :
    TellsOrFails passed ((segmentBase name segment register).body i passed) := by
  dsimp only [segmentBase]
  split
  · exact .tells [_] _
  · exact .fails _ _

/-- The source of a function is shown, or there is none. -/
theorem showSource_body (function : String) (evaluated : List String) :
    TellsOrFails passed (showSource target passed function evaluated) := by
  unfold showSource
  split
  · exact .tells _ _
  · exact .fails _ _

/-- Every body but that of `nextcall` tells something or fails. -/
theorem body_of_other {c : Command Nat} (hc : c ∈ commands target readFilter)
    (hname : c.name ≠ "nextcall") : TellsOrFails passed (c.body i passed) := by
  simp only [commands, List.mem_cons, List.not_mem_nil, or_false] at hc
  rcases hc with rfl | rfl | rfl | rfl | rfl | rfl | rfl | rfl | rfl
  · exact segmentBase_body passed _ _ _
  · exact segmentBase_body passed _ _ _
  · dsimp only [ghidra]
    split
    · exact showSource_body passed _ _
    · split
      · exact showSource_body passed _ _
      · exact .fails _ _
  · dsimp only [distance]
    split
    · exact .tells [_] _
    · exact .fails _ _
  · exact absurd rfl hname
  · dsimp only [kversion]
    split
    · exact .tells [_] _
    · exact .fails _ _
  · dsimp only [arena]
    split
    · exact .tells [_] _
    · exact .fails _ _
  · dsimp only [tcachebins]
    split
    · exact .tells [_] _
    · exact .fails _ _
  · exact .tells _ _

/-- `nextcall` is one of the commands. -/
theorem nextcall_mem_commands (target : Target) (readFilter : FilterReader) :
    nextcall target readFilter ∈ commands target readFilter := by
  simp [commands]

/-- Given a filter, `nextcall` runs on to the next call. -/
theorem nextcall_body_of_filter (target : Target) {accepts : String → Bool}
    (h : requestedFilter readFilter i.args = .ok accepts) :
    (nextcall target readFilter).body i passed =
      telling (runToCall target.callSites accepts passed).1
        ((if i.repeated then [.info "Continuing to the next call (repeated)"] else []) ++
          [(runToCall target.callSites accepts passed).2]) := by
  dsimp only [nextcall]
  rw [h]

/-- Given a text that is no filter, it fails. -/
theorem nextcall_body_of_no_filter (target : Target) {report : String}
    (h : requestedFilter readFilter i.args = .error report) :
    (nextcall target readFilter).body i passed = failing passed (.ofText report) := by
  dsimp only [nextcall]
  rw [h]

end Bodies

/-! ## What a line runs -/

/-- The commands of a shell are those of its target, and a name finds the one that has it. -/
structure Equipped (readFilter : FilterReader) (s : Shell) : Prop where
  /-- The commands are those of the target. -/
  commands_eq : s.dispatcher.registry.commands = commands s.target readFilter
  /-- Their names are bound to them. -/
  wellFormed : s.dispatcher.registry.WellFormed

/-- A line that was given to a shell with the dispatcher `d` runs the body of `c`, which is given
`i`. -/
structure Runs (d : Dispatcher Nat) (c : Command Nat) (i : Invocation) (reply : Reply) : Prop where
  /-- The body is started with it. -/
  started : reply.started = some i
  /-- The body is given the command's name. -/
  command : i.command = c.name
  /-- The body is given the settings. -/
  config : i.config = d.config
  /-- A command that requires a resolved heap is given the strategy that is called for, and any
  other none. -/
  located : c.requiresHeap = false ∧ i.heap = none ∨ c.requiresHeap = true ∧ i.heap ≠ none ∧
    i.heap = HeapStrategy.calledFor i.host d.config
  /-- The commands remember what the body left. -/
  memory : reply.shell.dispatcher.memory = (c.body i d.memory).memory
  /-- The selection of a strategy speaks first, then the body, and last the command's afterword. -/
  output : reply.output =
    (if c.requiresHeap then (d.strategy.select i.host d.config).output else []) ++
      ((c.body i d.memory).output ++ c.afterword d.config i.heap (c.body i d.memory).result)
  /-- The shell goes on, unless the body fails and its failure is handed on. -/
  result : reply.result =
    (answerOf d.config (c.body i d.memory).result).map fun _ => .proceed

/-! ## Taking a line -/

/-- What the shell `s` makes of a line. A shell that differs from it in the history and the last
line at most does what the line says. -/
inductive Taken (s : Shell) : Reply → Prop
  /-- The line says nothing, or cannot be recorded. -/
  | nothing (result : Except Failure Control) : Taken s { shell := s, result }
  /-- The line is for the shell itself. -/
  | own {s' : Shell} (htarget : s'.target = s.target) (hdispatcher : s'.dispatcher = s.dispatcher)
    {d : Dispatcher Nat} (hregistry : d.registry = s.dispatcher.registry)
    (hmemory : d.memory = s.dispatcher.memory) {output : List Message} (argument : String)
    (houtput : output = [] ∨ output = s'.help argument ∨ output = (s'.set argument).2 ∨
      output = s'.display argument) (control : Control) :
    Taken s { shell := { s' with dispatcher := d }, output, result := .ok control }
  /-- The line is an invocation. -/
  | invoked {s' : Shell} (htarget : s'.target = s.target)
    (hdispatcher : s'.dispatcher = s.dispatcher) (name argument : String) (interactive : Bool) :
    Taken s (s'.replyTo (s'.dispatcher.invoke s'.host name argument interactive))

/-- A line is executed by the shell itself, or as an invocation. -/
theorem taken_execute (s s' : Shell) (htarget : s'.target = s.target)
    (hdispatcher : s'.dispatcher = s.dispatcher) (line : String) (interactive : Bool) :
    Taken s (s'.execute line interactive) := by
  by_cases hown : (cutAtBlank line).1 ∈ ownCommands
  · obtain ⟨d, output, control, hexecute, hregistry, -, hmemory, houtput⟩ :=
      s'.execute_of_own line interactive hown
    rw [hexecute]
    rw [hdispatcher] at hregistry hmemory
    exact .own htarget hdispatcher hregistry hmemory _ houtput control
  · rw [s'.execute_eq_replyTo line interactive hown]
    exact .invoked htarget hdispatcher _ _ interactive

/-- A line that is taken is executed, unless nothing is done with it. -/
theorem taken (s : Shell) (input : Input) : Taken s (s.take input) := by
  cases input with
  | typed text =>
    unfold take handleTyped
    dsimp only
    split
    · -- An empty line stands for the last one, and is not recorded again.
      split
      · rename_i last hlast
        exact taken_execute s s rfl rfl last true
      · exact .nothing _
    · split
      · exact .nothing _
      · rename_i history hrecord
        exact taken_execute s { s with history, lastLine := some text.trimBlanks } rfl rfl
          text.trimBlanks true
  | scripted text =>
    unfold take handleScripted
    dsimp only
    split
    · exact .nothing _
    · exact taken_execute s s rfl rfl text.trimBlanks false

variable {readFilter : FilterReader} {s : Shell} {reply : Reply}

/-- A line that starts no body leaves what the commands remember as it was. -/
theorem Taken.memory_of_idle (h : Taken s reply) (hidle : reply.started = none) :
    reply.shell.dispatcher.memory = s.dispatcher.memory := by
  cases h with
  | nothing result => rfl
  | own htarget hdispatcher hregistry hmemory argument houtput control => exact hmemory
  | invoked htarget hdispatcher name argument interactive =>
    rw [← hdispatcher]
    exact Dispatcher.invoke_memory_of_idle _ name argument interactive hidle

/-- A shell that has just been started is equipped, and the commands remember that no call site was
passed. -/
theorem equipped_of_startWith {target : Target} {config : Config}
    (h : startWith readFilter target config = .ok s) :
    s.Equipped readFilter ∧ s.target = target ∧ s.dispatcher.memory = 0 := by
  unfold startWith at h
  dsimp only at h
  split at h
  · rename_i registry hregistry
    cases h
    obtain ⟨hwellFormed, hcommands⟩ :=
      (Registry.wellFormed_empty _).registerAll hregistry
    exact ⟨⟨hcommands, hwellFormed⟩, rfl, rfl⟩
  · cases h

/-- The history and the last line are no part of the equipment. -/
theorem Equipped.of_eq (hs : s.Equipped readFilter) {s' : Shell} (htarget : s'.target = s.target)
    (hregistry : s'.dispatcher.registry = s.dispatcher.registry) : s'.Equipped readFilter := by
  constructor
  · rw [hregistry, htarget]
    exact hs.commands_eq
  · rw [hregistry]
    exact hs.wellFormed

/-- A line leaves the target as it is, and the registry. -/
theorem Taken.frame (h : Taken s reply) :
    reply.shell.target = s.target ∧
      reply.shell.dispatcher.registry = s.dispatcher.registry := by
  cases h with
  | nothing result => exact ⟨rfl, rfl⟩
  | own htarget hdispatcher hregistry hmemory argument houtput control =>
    exact ⟨htarget, hregistry⟩
  | @invoked s' htarget hdispatcher name argument interactive =>
    obtain ⟨hregistry, -⟩ := s'.dispatcher.invoke_frame s'.host name argument interactive
    exact ⟨htarget, hregistry.trans (congrArg Dispatcher.registry hdispatcher)⟩

/-- So it leaves the shell equipped. -/
theorem Equipped.take (hs : s.Equipped readFilter) (input : Input) :
    (s.take input).shell.Equipped readFilter ∧ (s.take input).shell.target = s.target := by
  obtain ⟨htarget, hregistry⟩ := (s.taken input).frame
  exact ⟨hs.of_eq htarget hregistry, htarget⟩

/-- So does any sequence of lines. -/
theorem Equipped.after (hs : s.Equipped readFilter) (inputs : List Input) :
    (s.after inputs).Equipped readFilter ∧ (s.after inputs).target = s.target := by
  induction inputs generalizing s with
  | nil => exact ⟨hs, rfl⟩
  | cons input rest ih =>
    obtain ⟨hequipped, htarget⟩ := hs.take input
    obtain ⟨hrest, hrestTarget⟩ := ih hequipped
    exact ⟨hrest, hrestTarget.trans htarget⟩

/-- The reply that is made of an invocation's report runs the body that the invocation starts. -/
theorem runs_replyTo (s : Shell) (hs : s.dispatcher.registry.WellFormed) {name argument : String}
    {interactive : Bool} {c : Command Nat} {i : Invocation}
    (h : s.dispatcher.Starts s.host name argument interactive c i) :
    Runs s.dispatcher c i
      (s.replyTo (s.dispatcher.invoke s.host name argument interactive)) := by
  have hstarted := (Dispatcher.invoke_started_iff hs s.host name argument interactive i).2 ⟨c, h⟩
  have hfate := (Dispatcher.fate_eq_started_iff_starts hs s.host name argument interactive c i).2 h
  have hfind := (Dispatcher.find?_eq_some_iff_owns hs name c).2 h.owns
  have hhost : i.host = s.host := by
    rw [h.given]
    rfl
  obtain ⟨hcommand, houtput⟩ :=
    (s.dispatcher.invoke_tells s.host name argument interactive hfind).ran i hstarted
  have hanswer := (s.dispatcher.invoke_report s.host name argument interactive).1
  rw [hfate] at hanswer
  exact {
    started := hstarted
    command := hcommand
    config := by
      rw [h.given]
      rfl
    located := by
      rw [hhost, ← (HeapStrategy.select_strategy s.dispatcher.strategy s.host _).1]
      exact h.located.imp_right fun ⟨hrequired, hheap, hstrategy⟩ =>
        ⟨hrequired, hheap, hstrategy.symm⟩
    memory := Dispatcher.invoke_memory_of_starts hs s.host name argument interactive h
    output := by
      rw [hhost]
      exact houtput
    result := congrArg (Except.map fun _ => Control.proceed) hanswer }

/-- A body that a line starts is run, and it is that of one of the target's commands. -/
theorem Equipped.runs (hs : s.Equipped readFilter) (h : Taken s reply) {i : Invocation}
    (hstarted : reply.started = some i) :
    ∃ c ∈ commands s.target readFilter, Runs s.dispatcher c i reply := by
  cases h with
  | nothing result => cases hstarted
  | own htarget hdispatcher hregistry hmemory argument houtput control => cases hstarted
  | @invoked s' htarget hdispatcher name argument interactive =>
    -- The shell that invokes has the line in its history already, and is equipped all the same.
    have hs' := hs.of_eq htarget (congrArg Dispatcher.registry hdispatcher)
    obtain ⟨c, hstarts⟩ :=
      (Dispatcher.invoke_started_iff hs'.wellFormed s'.host name argument interactive i).1 hstarted
    refine ⟨c, ?_, ?_⟩
    · rw [← htarget, ← hs'.commands_eq]
      exact hstarts.owns.1
    · rw [← hdispatcher]
      exact runs_replyTo s' hs'.wellFormed hstarts

/-- A body that is started with the name of a command is run, and it is that of the command. -/
theorem Equipped.runs_of_command (hs : s.Equipped readFilter) (h : Taken s reply) {i : Invocation}
    (hstarted : reply.started = some i) {c : Command Nat}
    (hc : c ∈ commands s.target readFilter) (hcommand : i.command = c.name) :
    Runs s.dispatcher c i reply := by
  obtain ⟨c', hc', hruns⟩ := hs.runs h hstarted
  obtain rfl := eq_of_name_eq hc hc' (hcommand.symm.trans hruns.command)
  exact hruns

end Shell

end DebugShell
