import DebugShell.Proofs.Equipment

/-!
# Heap commands fail for want of a symbol only

`arena` and `tcachebins` look up one symbol each, under the strategy that was selected for them. So
their bodies complete, or fail because the strategy does not find the symbol (`arena_result`,
`tcachebins_result`), and `arena` completes under debug symbols, which are called for only where its
symbol is found. `heap_commands_fail_for_symbols_only` says so of every line that a shell is given,
and that no line at all is answered with the report of an unknown error.

The second part needs an account of everything that a shell tells (`Equipped.explained`). That
report is an error that begins with the name of a command. Most errors begin with another character
than any of these names (`explained_of_head`), and those that begin with a name go on otherwise
(`explained_of_blame`).
-/

namespace DebugShell

/-- The error with which `heapFailureReport` begins for any cause but a symbol without an
address. -/
def unknownErrorReport (command : String) : Message :=
  .error s!"{command}: An unknown error occurred when running this command."

/-- A text that is shown in place of running a command is made for an error. -/
theorem ArgumentSpec.abort_of_parse {spec : ArgumentSpec} {name line : String} {host : Host}
    {abort : UsageAborted} (h : (spec.parse name host line).value = .error abort) :
    ∃ e, abort = spec.abort name e := by
  unfold ArgumentSpec.parse at h
  split at h
  · exact ⟨_, (Except.error.inj h).symm⟩
  · dsimp only at h
    split at h
    · cases h
    · exact ⟨_, (Except.error.inj h).symm⟩

/-- Under a strategy, a symbol has an address or cannot be resolved. -/
theorem Invocation.resolve_cases {i : Invocation} (h : i.heap ≠ none) (symbol : String) :
    (∃ a, i.resolve symbol = .ok a) ∨
      i.resolve symbol = .error (.symbolUnresolvable symbol) := by
  obtain ⟨strategy, hstrategy⟩ := Option.ne_none_iff_exists'.1 h
  unfold Invocation.resolve HeapStrategy.resolve
  rw [hstrategy]
  dsimp only
  split
  · exact .inl ⟨_, rfl⟩
  · exact .inr rfl

namespace Shell

/-! ## What the bodies come to -/

/-- A body completes, or fails because a symbol has no address. -/
def ResolvesOrFails (symbol : String) (result : Except Failure Unit) : Prop :=
  result = .ok () ∨ result = .error ⟨.heap (.symbolUnresolvable symbol), []⟩

/-- `arena` needs the main arena's symbol at most. -/
theorem arena_result {i : Invocation} (h : i.heap ≠ none) (passed : Nat) :
    ResolvesOrFails "main_arena" (arena.body i passed).result := by
  dsimp only [arena]
  cases i.args.int? "addr" with
  | some a => exact .inl rfl
  | none =>
    rcases Invocation.resolve_cases h "main_arena" with ⟨a, ha⟩ | hfails
    · rw [ha]
      exact .inl rfl
    · rw [hfails]
      exact .inr rfl

/-- Under debug symbols that are there, it completes. -/
theorem arena_completes {i : Invocation} (hheap : i.heap = some .debugSymbols)
    (hsymbols : HeapStrategy.HasDebugSymbols i.host) (passed : Nat) :
    (arena.body i passed).result = .ok () := by
  obtain ⟨a, ha⟩ := Option.isSome_iff_exists.1 hsymbols.1
  have hresolve : i.resolve "main_arena" = .ok a := by
    unfold Invocation.resolve HeapStrategy.resolve HeapStrategy.find?
    rw [hheap]
    dsimp only
    rw [ha]
  dsimp only [arena]
  cases i.args.int? "addr" with
  | some a => rfl
  | none =>
    rw [hresolve]
    rfl

/-- `tcachebins` needs the thread cache's symbol. -/
theorem tcachebins_result {i : Invocation} (h : i.heap ≠ none) (passed : Nat) :
    ResolvesOrFails "tcache" (tcachebins.body i passed).result := by
  dsimp only [tcachebins]
  rcases Invocation.resolve_cases h "tcache" with ⟨a, ha⟩ | hfails
  · rw [ha]
    exact .inl rfl
  · rw [hfails]
    exact .inr rfl

/-- No other command requires a resolved heap. -/
theorem mem_heap_commands {target : Target} {readFilter : FilterReader} {c : Command Nat}
    (hc : c ∈ commands target readFilter) (h : c.requiresHeap = true) :
    c = arena ∨ c = tcachebins := by
  simp only [commands, List.mem_cons, List.not_mem_nil, or_false] at hc
  rcases hc with rfl | rfl | rfl | rfl | rfl | rfl | rfl | rfl | rfl
  · cases h
  · cases h
  · cases h
  · cases h
  · cases h
  · cases h
  · exact .inl rfl
  · exact .inr rfl
  · cases h

/-- To run on to the next call is no error, even if there is none. -/
theorem severity_of_runToCall (sites : List CallSite) (accepts : String → Bool) (passed : Nat) :
    (runToCall sites accepts passed).2.severity ≠ .error := by
  unfold runToCall
  split
  · exact Severity.noConfusion
  · exact Severity.noConfusion

/-- No body tells an error by itself. -/
theorem severity_of_body {target : Target} {readFilter : FilterReader} {c : Command Nat}
    (hc : c ∈ commands target readFilter) (i : Invocation) (passed : Nat) :
    ∀ m ∈ (c.body i passed).output, m.severity ≠ .error := by
  intro m hm
  by_cases hname : c.name = "nextcall"
  · obtain rfl := eq_of_name_eq hc (nextcall_mem_commands _ _) hname
    cases hfilter : requestedFilter readFilter i.args with
    | ok accepts =>
      rw [nextcall_body_of_filter passed target hfilter] at hm
      rcases List.mem_append.1 hm with hnote | hcall
      · split at hnote
        · rw [List.mem_singleton.1 hnote]
          exact Severity.noConfusion
        · cases hnote
      · rw [List.mem_singleton.1 hcall]
        exact severity_of_runToCall _ _ _
    | error report =>
      rw [nextcall_body_of_no_filter passed target hfilter] at hm
      cases hm
  · exact (body_of_other passed hc hname).severity_ne m hm

/-! ## Errors that are explained -/

/-- A message is no report of an unknown error by a command of the shell. -/
def Explained (m : Message) : Prop :=
  ∀ name ∈ commandNames, m ≠ unknownErrorReport name

instance (m : Message) : Decidable (Explained m) :=
  inferInstanceAs (Decidable (∀ name ∈ commandNames, m ≠ unknownErrorReport name))

/-- The first characters of the commands' names. -/
def initials : List Char := ['f', 'g', 'd', 'n', 'k', 'a', 't', 'h']

/-- Text after a text does not change the character that it begins with. -/
theorem head?_toList_append {text : String} {c : Char} (h : text.toList.head? = some c)
    (rest : String) : (text ++ rest).toList.head? = some c := by
  rw [String.toList_append, List.head?_append, h]
  rfl

/-- A report of an unknown error begins with one of them. -/
theorem head?_unknownErrorReport {name : String} (h : name ∈ commandNames) :
    ∃ c ∈ initials, (unknownErrorReport name).text.toList.head? = some c := by
  have hnames : ∀ name ∈ commandNames, name.toList.head? ∈ initials.map some := by decide
  obtain ⟨c, hc, hhead⟩ := List.mem_map.1 (hnames name h)
  exact ⟨c, hc, head?_toList_append hhead.symm _⟩

/-- What is no error is explained. -/
theorem explained_of_severity {m : Message} (h : m.severity ≠ .error) : Explained m := by
  rintro name - rfl
  exact h rfl

/-- What begins with another character than the commands' names is explained. -/
theorem explained_of_head {m : Message} {c : Char} (h : m.text.toList.head? = some c)
    (hc : c ∉ initials) : Explained m := by
  rintro name hname rfl
  obtain ⟨c', hc', h'⟩ := head?_unknownErrorReport hname
  rw [h'] at h
  cases h
  exact hc hc'

/-- What goes on behind a command's name with another character than `A` is explained. -/
theorem explained_of_blame {command : String} (hcommand : command ∈ commandNames) {text : String}
    (c : Char) (htext : text.toList.take 3 = [':', ' ', c]) (hc : c ≠ 'A') :
    Explained (.error (command ++ text)) := by
  intro name hname h
  have hcolon : ∀ n ∈ commandNames, n.toList.all (· != ':') = true := by decide
  have htexts : command.toList ++ text.toList =
      name.toList ++ ": An unknown error occurred when running this command.".toList := by
    rw [← String.toList_append, ← String.toList_append]
    exact congrArg (fun m => m.text.toList) h
  rw [← List.take_append_drop 3 text.toList, htext] at htexts
  -- Neither name has a colon in it, so they end where the first colon stands.
  have hnames := congrArg (List.takeWhile (· != ':')) htexts
  rw [List.takeWhile_append_of_pos (List.all_eq_true.1 (hcolon command hcommand)),
    List.takeWhile_append_of_pos (List.all_eq_true.1 (hcolon name hname))] at hnames
  have hsame : command.toList = name.toList := by simpa using hnames
  rw [hsame] at htexts
  have hrest := List.append_cancel_left htexts
  have hthird : some c = some 'A' := congrArg (fun cs => cs[2]?) hrest
  exact hc (Option.some.inj hthird)

/-- What begins with a text that begins with another character is explained. -/
theorem explained_append {text : String} (c : Char) (h : text.toList.head? = some c)
    (hc : c ∉ initials) (rest : String) : Explained (.error (text ++ rest)) :=
  explained_of_head (head?_toList_append h rest) hc

/-! ## Everything that a shell tells -/

/-- The answer for a name that no command has is explained. -/
theorem explained_undefinedCommand (name : String) : Explained (undefinedCommand name) := by
  unfold undefinedCommand
  rw [String.append_assoc]
  exact explained_append 'U' rfl (by decide) _

/-- The report that a setting was not changed is explained. -/
theorem explained_configError (e : ConfigError) : Explained (.error e.message) := by
  cases e with
  | unknownSetting name =>
    unfold ConfigError.message
    dsimp only
    rw [String.append_assoc]
    exact explained_append 'u' rfl (by decide) _
  | invalidValue name value reason =>
    unfold ConfigError.message
    dsimp only
    rw [String.append_assoc, String.append_assoc, String.append_assoc, String.append_assoc]
    exact explained_append 'i' rfl (by decide) _

section Own

variable (s : Shell)

/-- The answer to `help` is explained. -/
theorem explained_help (topic : String) : ∀ m ∈ s.help topic, Explained m := by
  unfold help
  split
  · intro m hm
    obtain ⟨line, -, rfl⟩ := List.mem_map.1 hm
    exact explained_of_severity Severity.noConfusion
  · split
    · rw [List.forall_mem_singleton]
      exact explained_of_severity Severity.noConfusion
    · rw [List.forall_mem_singleton]
      exact explained_undefinedCommand topic

/-- The answer to `set` is explained. -/
theorem explained_set (argument : String) : ∀ m ∈ (s.set argument).2, Explained m := by
  unfold set
  dsimp only
  split
  · dsimp only
    decide
  · split
    · exact List.forall_mem_nil _
    · rw [List.forall_mem_singleton]
      exact explained_configError _

/-- The answer to `show` is explained. -/
theorem explained_display (name : String) : ∀ m ∈ s.display name, Explained m := by
  unfold display
  dsimp only
  split
  · rw [List.forall_mem_singleton, String.append_assoc]
    exact explained_append 'u' rfl (by decide) _
  · intro m hm
    obtain ⟨setting, -, rfl⟩ := List.mem_map.1 hm
    exact explained_of_severity Severity.noConfusion

end Own

/-- A text that begins with the mark of an error is explained. -/
theorem explained_failure (rest : String) :
    Explained (.error (Terminal.withoutStyles
      (Terminal.Role.failure.show "error:" ++ rest)).trimBlanksEnd) := by
  have hhead : (Terminal.withoutStyles
      (Terminal.Role.failure.show "error:" ++ rest)).toList.head? = some 'e' := by
    rw [Terminal.withoutStyles, String.toList_ofList, String.toList_append]
    rfl
  refine explained_of_head ?_ (by decide : 'e' ∉ initials)
  rw [Message.error, String.trimBlanksEnd, String.toList_ofList]
  exact Text.head?_trimEnd hhead rfl

/-- What is told in place of running a command is explained. -/
theorem explained_told {c : Command Nat} (hname : c.name ∈ commandNames) (e : Options.Error) :
    Explained (c.spec.abort c.name e).told := by
  cases e with
  | helpRequested => exact explained_of_severity Severity.noConfusion
  | versionRequested =>
    have hversion : ∀ name ∈ commandNames, Explained
        (.error (Terminal.withoutStyles (name ++ " " ++ "" ++ "\n")).trimBlanksEnd) := by
      decide
    exact hversion c.name hname
  | _ =>
    simp only [ArgumentSpec.abort, UsageAborted.told, Options.Error.message, String.append_assoc,
      Bool.false_eq_true, if_false]
    exact explained_failure _

/-- The diagnostic of a gate is explained. -/
theorem explained_diagnostic {command : String} (hcommand : command ∈ commandNames)
    (session : Session) (gate : Gate) : Explained (.error (gate.diagnostic command session)) := by
  cases gate with
  | withFile =>
    rw [Gate.diagnostic]
    split
    · decide
    · exact explained_of_blame hcommand 'T' rfl (by decide)
  | withArch names =>
    simp only [Gate.diagnostic, String.append_assoc]
    refine explained_of_blame hcommand 'T' ?_ (by decide)
    rw [String.toList_append]
    rfl
  | whenHeapInitialized => exact explained_of_blame hcommand 'H' rfl (by decide)
  | _ => exact explained_of_blame hcommand 'T' rfl (by decide)

/-- The report that neither strategy can be used is explained. -/
theorem explained_neitherStrategy (host : Host) : ∀ m ∈ neitherStrategy host, Explained m := by
  unfold neitherStrategy
  split
  · decide
  · decide

/-- The report that the heuristic lacks a version is explained. -/
theorem explained_heuristicWithoutGlibc (host : Host) :
    ∀ m ∈ heuristicWithoutGlibc host, Explained m := by
  unfold heuristicWithoutGlibc
  split
  · decide
  · decide

/-- What the selection of a strategy tells is explained. -/
theorem explained_select (stored : HeapStrategy) (host : Host) (config : Config) :
    ∀ m ∈ (stored.select host config).output, Explained m := by
  unfold HeapStrategy.select
  dsimp only
  split
  · exact List.forall_mem_nil _
  · split
    · split
      · dsimp only
        decide
      · exact explained_neitherStrategy host
    · dsimp only
      decide
    · split
      · exact explained_heuristicWithoutGlibc host
      · dsimp only
        decide

/-- What is told after a body is explained, if under a strategy it fails for want of a symbol
only. -/
theorem explained_afterword {c : Command Nat} (hname : c.name ∈ commandNames) (config : Config)
    (heap : Option HeapStrategy) (result : Except Failure Unit)
    (h : heap ≠ none → ∃ symbol, ResolvesOrFails symbol result) :
    ∀ m ∈ c.afterword config heap result, Explained m := by
  cases result with
  | ok _ => exact List.forall_mem_nil _
  | error failure =>
    unfold Command.afterword
    dsimp only
    rw [List.forall_mem_append]
    refine ⟨?_, ?_⟩
    · cases heap with
      | none =>
        -- Without a strategy the failure is told as it is, whatever it is.
        unfold failureReport
        dsimp only
        rw [List.forall_mem_cons, List.forall_mem_singleton]
        refine ⟨?_, explained_of_severity Severity.noConfusion⟩
        simp only [String.append_assoc]
        exact explained_append 'E' rfl (by decide) _
      | some strategy =>
        -- Under a strategy, a failure for any other reason would be reported as unknown.
        obtain ⟨symbol, hok | herror⟩ := h (Option.some_ne_none strategy)
        · cases hok
        · cases herror
          unfold heapFailureReport
          dsimp only
          rw [List.forall_mem_cons, List.forall_mem_singleton]
          refine ⟨?_, explained_of_severity Severity.noConfusion⟩
          simp only [String.append_assoc]
          refine explained_of_blame hname 'F' ?_ (by decide)
          rw [String.toList_append]
          rfl
    · split
      · exact List.forall_mem_nil _
      · decide

variable {readFilter : FilterReader} {s : Shell}

/-- A heap command that is given a strategy fails for want of a symbol only. -/
theorem Runs.resolvesOrFails {d : Dispatcher Nat} {c : Command Nat} {i : Invocation}
    {reply : Reply} (h : Runs d c i reply) {target : Target}
    (hc : c ∈ commands target readFilter) (hheap : i.heap ≠ none) :
    ∃ symbol, ResolvesOrFails symbol (c.body i d.memory).result := by
  rcases h.located with ⟨-, hnone⟩ | ⟨hrequired, -, -⟩
  · exact absurd hnone hheap
  · rcases mem_heap_commands hc hrequired with rfl | rfl
    · exact ⟨_, arena_result hheap d.memory⟩
    · exact ⟨_, tcachebins_result hheap d.memory⟩

/-- What is told when a body is run is explained. -/
theorem Runs.explained {d : Dispatcher Nat} {c : Command Nat} {i : Invocation}
    {reply : Reply} (h : Runs d c i reply) {target : Target}
    (hc : c ∈ commands target readFilter) : ∀ m ∈ reply.output, Explained m := by
  rw [h.output, List.forall_mem_append, List.forall_mem_append]
  refine ⟨?_, fun m hm => explained_of_severity (severity_of_body hc i d.memory m hm), ?_⟩
  · split
    · exact explained_select _ _ _
    · exact List.forall_mem_nil _
  · exact explained_afterword (name_mem_commandNames hc) d.config i.heap _ (h.resolvesOrFails hc)

/-- What an invocation tells is explained. -/
theorem Equipped.invoke_explained (hs : s.Equipped readFilter) (name argument : String)
    (interactive : Bool) :
    ∀ m ∈ (s.dispatcher.invoke s.host name argument interactive).output, Explained m := by
  have hanswer := (s.dispatcher.invoke_report s.host name argument interactive).1
  have hmem {c : Command Nat} (hfind : s.dispatcher.registry.find? name = some c) :
      c ∈ commands s.target readFilter := by
    rw [← hs.commands_eq]
    exact ((hs.wellFormed.find?_eq_some_iff name c).1 hfind).1
  -- What is told depends on the stage that the invocation comes to.
  cases hfate : s.dispatcher.fate s.host name argument interactive with
  | unknown =>
    have hfind := (s.dispatcher.fate_eq_unknown_iff s.host name argument interactive).1 hfate
    unfold Dispatcher.invoke
    rw [hfind, List.forall_mem_singleton]
    exact explained_undefinedCommand name
  | aborted abort =>
    obtain ⟨c, hfind, hparse⟩ :=
      (s.dispatcher.fate_eq_aborted_iff s.host name argument interactive abort).1 hfate
    obtain ⟨e, rfl⟩ := ArgumentSpec.abort_of_parse hparse
    have htells := s.dispatcher.invoke_tells s.host name argument interactive hfind
    rw [htells.aborted _ hparse, List.forall_mem_singleton]
    exact explained_told (name_mem_commandNames (hmem hfind)) e
  | unmet gate =>
    obtain ⟨c, args, hfind, -, -⟩ :=
      (s.dispatcher.fate_eq_unmet_iff s.host name argument interactive gate).1 hfate
    have htells := s.dispatcher.invoke_tells s.host name argument interactive hfind
    rw [hfate] at hanswer
    rw [htells.unmet gate hanswer, List.forall_mem_singleton]
    exact explained_diagnostic (name_mem_commandNames (hmem hfind)) s.host.session gate
  | unavailable =>
    obtain ⟨c, args, hfind, -⟩ :=
      (s.dispatcher.fate_eq_unavailable_iff s.host name argument interactive).1 hfate
    have htells := s.dispatcher.invoke_tells s.host name argument interactive hfind
    rw [hfate] at hanswer
    rw [htells.unavailable hanswer]
    exact explained_select _ _ _
  | started c i =>
    have hstarts := (Dispatcher.fate_eq_started_iff_starts hs.wellFormed s.host name argument
      interactive c i).1 hfate
    have hfind := (Dispatcher.find?_eq_some_iff_owns hs.wellFormed name c).2 hstarts.owns
    exact (runs_replyTo s hs.wellFormed hstarts).explained (hmem hfind)

/-- What a line tells is explained. -/
theorem Equipped.explained (hs : s.Equipped readFilter) {reply : Reply} (h : Taken s reply) :
    ∀ m ∈ reply.output, Explained m := by
  cases h with
  | nothing result => exact List.forall_mem_nil _
  | @own s' htarget hdispatcher d hregistry hmemory output argument houtput control =>
    dsimp only
    rcases houtput with houtput | houtput | houtput | houtput
    · rw [houtput]
      exact List.forall_mem_nil _
    · rw [houtput]
      exact explained_help s' argument
    · rw [houtput]
      exact explained_set s' argument
    · rw [houtput]
      exact explained_display s' argument
  | invoked htarget hdispatcher name argument interactive =>
    have hs' := hs.of_eq htarget (congrArg Dispatcher.registry hdispatcher)
    exact hs'.invoke_explained name argument interactive

/-! ## The two heap commands -/

/-- A line that was given to a shell with the dispatcher `d` runs the body of the heap command `c`,
which is given `i` and needs a symbol. -/
structure RunsHeap (d : Dispatcher Nat) (c : Command Nat) (symbol : String) (i : Invocation)
    (reply : Reply) : Prop extends Runs d c i reply where
  /-- The body is given a strategy. -/
  heap_ne_none : i.heap ≠ none
  /-- It completes, or fails because the symbol cannot be resolved under that strategy. -/
  resolves_or_fails : ResolvesOrFails symbol (c.body i d.memory).result
  /-- The line fails exactly if the body does while failures are to be handed on, and then with the
  body's failure. -/
  raised_iff : ∀ failure, reply.result = .error failure ↔
    (c.body i d.memory).result = .error failure ∧
      (d.config.exceptionVerbose = true ∨ d.config.exceptionDebugger = true)

/-- What the heap commands can come to when a line is given to the shell `s`. -/
structure HeapContract (s : Shell) (reply : Reply) : Prop where
  /-- A line that starts the body of `arena` runs it, and it fails for want of the main arena's
  symbol only. -/
  runs_arena : ∀ i, reply.started = some i → i.command = "arena" →
    RunsHeap s.dispatcher arena "main_arena" i reply
  /-- Under debug symbols it completes. -/
  arena_completes : ∀ i, reply.started = some i → i.command = "arena" →
    i.heap = some .debugSymbols → (arena.body i s.dispatcher.memory).result = .ok ()
  /-- A line that starts the body of `tcachebins` runs it, and it fails for want of the thread
  cache's symbol only. -/
  runs_tcachebins : ∀ i, reply.started = some i → i.command = "tcachebins" →
    RunsHeap s.dispatcher tcachebins "tcache" i reply
  /-- No line is answered with the report of an unknown error by a command. -/
  unreported : ∀ c ∈ s.dispatcher.registry.commands, unknownErrorReport c.name ∉ reply.output

/-- A failure is handed on exactly if the body fails and the settings ask for failures. -/
theorem map_answerOf_eq_error_iff (config : Config) (result : Except Failure Unit)
    (failure : Failure) :
    ((answerOf config result).map fun _ => Control.proceed) = .error failure ↔
      result = .error failure ∧
        (config.exceptionVerbose = true ∨ config.exceptionDebugger = true) := by
  rw [← Bool.or_eq_true, ← Config.wantsRawErrors]
  cases result with
  | ok _ => exact iff_of_false (by rintro ⟨⟩) (by rintro ⟨⟨⟩, -⟩)
  | error f =>
    unfold answerOf
    dsimp only
    split
    · rename_i hraw
      simp [Except.map, hraw]
    · rename_i hquiet
      simp [Except.map, hquiet]

/-- A heap command is run under a strategy. If its body needs one symbol then, that is what the line
comes to. -/
theorem Runs.runsHeap {d : Dispatcher Nat} {c : Command Nat} {i : Invocation} {reply : Reply}
    (h : Runs d c i reply) (hrequired : c.requiresHeap = true) {symbol : String}
    (hresult : i.heap ≠ none → ResolvesOrFails symbol (c.body i d.memory).result) :
    RunsHeap d c symbol i reply := by
  have hheap : i.heap ≠ none := by
    rcases h.located with ⟨hplain, -⟩ | ⟨-, hheap, -⟩
    · rw [hrequired] at hplain
      cases hplain
    · exact hheap
  refine ⟨h, hheap, hresult hheap, fun failure => ?_⟩
  rw [h.result, map_answerOf_eq_error_iff]

/-- In a shell of any target, with any settings to start with and after any lines, each line meets
the contract of the heap commands. -/
theorem heap_commands_fail_for_symbols_only {target : Target} {config : Config} {shell : Shell}
    (hstart : start target config = .ok shell) (before : List Input) (input : Input) :
    HeapContract (shell.after before) ((shell.after before).take input) := by
  rw [start_eq_startWith] at hstart
  have hs := ((equipped_of_startWith hstart).1.after before).1
  have htaken := (shell.after before).taken input
  have harena : arena ∈ commands (shell.after before).target patternFilter := by simp [commands]
  have htcachebins : tcachebins ∈ commands (shell.after before).target patternFilter := by
    simp [commands]
  refine ⟨fun i hstarted hcommand => ?_, fun i hstarted hcommand hheap => ?_,
    fun i hstarted hcommand => ?_, fun c hc hm => ?_⟩
  · have hruns := hs.runs_of_command htaken hstarted harena hcommand
    exact hruns.runsHeap rfl fun hheap => arena_result hheap _
  · have hruns := hs.runs_of_command htaken hstarted harena hcommand
    rcases hruns.located with ⟨hplain, -⟩ | ⟨-, -, hcalled⟩
    · cases hplain
    · rw [hheap] at hcalled
      exact arena_completes hheap (HeapStrategy.hasDebugSymbols_of_calledFor hcalled.symm) _
  · have hruns := hs.runs_of_command htaken hstarted htcachebins hcommand
    exact hruns.runsHeap rfl fun hheap => tcachebins_result hheap _
  · rw [hs.commands_eq] at hc
    exact hs.explained htaken _ hm c.name (name_mem_commandNames hc) rfl

/-- A target with an initialized heap and the symbols that debug symbols are called for by, but
without the symbol of the thread cache. -/
def cachelessTarget : Target :=
  { session := { processAlive := true, heapInitialized := true, hasTcache := true }
    symbols := .ofList [("main_arena", 0x7ffff7e19c80), ("mp_", 0x7ffff7e1a360)]
    builtins := some "" }

/-- A line that makes the shell hand failures on. -/
def handOn : Input := .typed "set exception-verbose on"

/-- While failures are handed on, `arena` completes there, and `tcachebins` fails for want of its
symbol. -/
theorem heap_commands_of_cacheless_target : ∃ shell, start cachelessTarget {} = .ok shell ∧
    ((shell.after [handOn]).take (.typed "arena")).output =
      [.plain "arena @ 0x7ffff7e19c80 (resolved via debug-symbols)"] ∧
    ((shell.after [handOn]).take (.typed "tcachebins")).result =
      .error ⟨.heap (.symbolUnresolvable "tcache"), []⟩ ∧
    ∀ input, HeapContract (shell.after [handOn]) ((shell.after [handOn]).take input) := by
  have hrun : ((start cachelessTarget {}).toOption.map fun shell =>
      (((shell.after [handOn]).take (.typed "arena")).output,
        ((shell.after [handOn]).take (.typed "tcachebins")).result)) =
      some ([.plain "arena @ 0x7ffff7e19c80 (resolved via debug-symbols)"],
        .error ⟨.heap (.symbolUnresolvable "tcache"), []⟩) := by
    decide +kernel
  cases hstart : start cachelessTarget {} with
  | ok shell =>
    rw [hstart] at hrun
    have hreplies := Prod.mk.inj (Option.some.inj hrun)
    exact ⟨shell, rfl, hreplies.1, hreplies.2,
      heap_commands_fail_for_symbols_only hstart [handOn]⟩
  | error e =>
    rw [hstart] at hrun
    cases hrun

end Shell

end DebugShell
