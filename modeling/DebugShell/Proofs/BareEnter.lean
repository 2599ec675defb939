import DebugShell.Proofs.CallSites
import DebugShell.Proofs.Repeat

/-!
# A bare Enter does what the line would do again

At the prompt, an empty line runs the last typed line, and typing that line again runs it too. The
two differ in the history of the host: the line that was typed again is its newest entry, so that it
is judged to be no repeat, where the empty line is judged to be one.

Nothing reads the history but that judgement. A host that shows another newest entry
(`Host.showing`) accepts the same arguments, and an invocation on it comes as far as before
(`Dispatcher.fate_showing`), to a body that is given another judgement (`Invocation.rejudged`). What
is told of an invocation depends on how far it comes (`Dispatcher.invoke_output`). So the reports
agree if the bodies do, but for what the bodies note first (`Dispatcher.invoke_echoes`). Of the
shell's commands only `nextcall` reads the judgement, and a note is all that it makes of it
(`Shell.body_rejudged`).
-/

namespace DebugShell

variable {σ : Type}

/-! ## Another newest entry -/

/-- The host when the newest line of its command history is another one. -/
def Host.showing (host : Host) (tail : Option String) : Host :=
  { host with historyTail := tail }

/-- What a body is given when the newest line of the history is another one, and the invocation is
judged by it. -/
def Invocation.rejudged (i : Invocation) (tail : Option String) (repeated : Bool) : Invocation :=
  { i with host := i.host.showing tail, repeated }

/-- A fate in which a body is given another judgement. -/
def Fate.rejudged (fate : Fate σ) (tail : Option String) (repeated : Bool) : Fate σ :=
  match fate with
  | .started c i => .started c (i.rejudged tail repeated)
  | other => other

/-- Parameters get the same values. -/
theorem ArgumentSpec.collect_showing (host : Host) (tail : Option String) (given : Given)
    (params : List Param) :
    collect (host.showing tail) given params = collect host given params := by
  induction params with
  | nil => rfl
  | cons p rest ih =>
    have hvalue : valueOf (host.showing tail) given p = valueOf host given p := rfl
    rw [collect, collect, hvalue, ih]

/-- A text gives the same arguments to a command. -/
theorem ArgumentSpec.parse_showing (spec : ArgumentSpec) (name : String) (host : Host)
    (tail : Option String) (line : String) :
    spec.parse name (host.showing tail) line = spec.parse name host line := by
  unfold parse
  split
  · rfl
  · rw [collect_showing]

namespace Dispatcher

variable (d : Dispatcher σ) (host : Host) (name argument : String) (interactive : Bool)

/-- An invocation comes as far as before, but for the judgement that a body is given. -/
theorem fate_showing (tail : Option String) :
    d.fate (host.showing tail) name argument interactive =
      (d.fate host name argument interactive).rejudged tail
        (d.judged (host.showing tail) argument interactive).1 := by
  have hsession : (host.showing tail).session = host.session := rfl
  have hselect : d.strategy.select (host.showing tail) d.config =
      d.strategy.select host d.config := rfl
  unfold fate
  cases d.registry.find? name with
  | none => rfl
  | some c =>
    dsimp only
    rw [ArgumentSpec.parse_showing]
    cases (c.spec.parse c.name host argument).value with
    | error abort => rfl
    | ok args =>
      dsimp only
      rw [hsession]
      cases Gate.firstUnmet c.gates host.session with
      | some gate => rfl
      | none =>
        dsimp only
        cases c.requiresHeap with
        | false => rfl
        | true =>
          rw [if_pos rfl, if_pos rfl, hselect]
          cases (d.strategy.select host d.config).strategy with
          | none => rfl
          | some strategy => rfl

end Dispatcher

/-! ## Reports that agree -/

/-- A run that notes something before all else. -/
def BodyRun.noting (run : BodyRun σ) (note : List Message) : BodyRun σ :=
  { run with output := note ++ run.output }

/-- A report agrees with another, but for a note that is told before all else, and but for what was
seen of the history. -/
structure Report.Echoes (note : List Message) (report report' : Report σ) : Prop where
  /-- The same became of both invocations. -/
  answer : report.answer = report'.answer
  /-- The same was told after the note. -/
  output : report.output = note ++ report'.output
  /-- The same is kept, but for what was seen of the history. -/
  dispatcher : report.dispatcher = { report'.dispatcher with seen := report.dispatcher.seen }

/-- Two invocations that differ in the newest line of the history have reports that agree but for a
note, if the body that is started makes the note, and no selection speaks before it. -/
theorem Dispatcher.invoke_echoes (d : Dispatcher σ) (host : Host) (name argument : String)
    (interactive : Bool) (tail : Option String) {note : List Message}
    (hidle : (d.fate host name argument interactive).invocation? = none → note = [])
    (hstarted : ∀ c i, d.fate host name argument interactive = .started c i →
      c.body i d.memory = (c.body (i.rejudged tail
        (d.judged (host.showing tail) argument interactive).1) d.memory).noting note ∧
      (c.requiresHeap = true → note = [])) :
    Report.Echoes note (d.invoke host name argument interactive)
      (d.invoke (host.showing tail) name argument interactive) := by
  obtain ⟨hanswer, -, hdispatcher⟩ := d.invoke_report host name argument interactive
  have houtput := d.invoke_output host name argument interactive
  obtain ⟨hanswer', -, hdispatcher'⟩ :=
    d.invoke_report (host.showing tail) name argument interactive
  have houtput' := d.invoke_output (host.showing tail) name argument interactive
  rw [fate_showing] at hanswer' hdispatcher' houtput'
  cases hfate : d.fate host name argument interactive with
  | started c i =>
    obtain ⟨hbody, hheap⟩ := hstarted c i hfate
    rw [hfate] at hanswer hdispatcher houtput hanswer' hdispatcher' houtput'
    simp only [Fate.rejudged] at hanswer' hdispatcher' houtput'
    refine ⟨?_, ?_, ?_⟩
    · rw [hanswer, hanswer', Fate.answer, Fate.answer, hbody]
      rfl
    · have hselect : d.strategy.select (host.showing tail) d.config =
          d.strategy.select host d.config := rfl
      rw [houtput, houtput', told, told, hbody, hselect]
      cases hrequired : c.requiresHeap with
      | true =>
        rw [hheap hrequired]
        rfl
      | false =>
        rw [if_neg Bool.false_ne_true]
        exact List.append_assoc _ _ _
    · rw [hdispatcher, hdispatcher', after, after, Fate.memory, Fate.memory, hbody]
      rfl
  | _ =>
    -- No body is started, and both invocations come to the same fate.
    obtain rfl := hidle (by rw [hfate]; rfl)
    rw [hfate] at hanswer hdispatcher houtput hanswer' hdispatcher' houtput'
    refine ⟨hanswer.trans hanswer'.symm, houtput.trans houtput'.symm, ?_⟩
    rw [hdispatcher, hdispatcher']
    rfl

namespace Shell

/-! ## Bodies that read the judgement -/

/-- The body of a command other than `nextcall` does not read the judgement, nor the history. -/
theorem body_of_other_rejudged {target : Target} {readFilter : FilterReader} {c : Command Nat}
    (hc : c ∈ commands target readFilter) (hname : c.name ≠ "nextcall") (i : Invocation)
    (tail : Option String) (repeated : Bool) (passed : Nat) :
    c.body i passed = c.body (i.rejudged tail repeated) passed := by
  simp only [commands, List.mem_cons, List.not_mem_nil, or_false] at hc
  -- What a body asks of the host is answered by both hosts with one term.
  rcases hc with rfl | rfl | rfl | rfl | rfl | rfl | rfl | rfl | rfl
  · rfl
  · rfl
  · rfl
  · rfl
  · exact absurd rfl hname
  · rfl
  · rfl
  · rfl
  · rfl

/-- The note that a repeated `nextcall` makes when it was given a filter. -/
def repeatNote (readFilter : FilterReader) (reply : Reply) : List Message :=
  if (reply.filter? readFilter).isSome then [.info "Continuing to the next call (repeated)"] else []

/-- There is no such note if no body was started. -/
theorem repeatNote_of_idle (readFilter : FilterReader) {reply : Reply} (h : reply.started = none) :
    repeatNote readFilter reply = [] := by
  unfold repeatNote Reply.filter?
  rw [h]
  rfl

/-- A body that a line starts as a repeat does what it would do as no repeat, after the note if it
is that of `nextcall`. -/
theorem body_rejudged {target : Target} {readFilter : FilterReader} {c : Command Nat}
    (hc : c ∈ commands target readFilter) {reply : Reply} {i : Invocation}
    (hstarted : reply.started = some i) (hcommand : i.command = c.name)
    (hrepeated : i.repeated = true) (tail : Option String) (passed : Nat) :
    c.body i passed =
        (c.body (i.rejudged tail false) passed).noting (repeatNote readFilter reply) ∧
      (c.requiresHeap = true → repeatNote readFilter reply = []) := by
  unfold repeatNote Reply.filter?
  rw [hstarted, Option.bind_some, hcommand]
  by_cases hname : c.name = "nextcall"
  · obtain rfl := eq_of_name_eq hc (nextcall_mem_commands _ _) hname
    rw [if_pos hname]
    cases hfilter : requestedFilter readFilter i.args with
    | ok accepts =>
      refine ⟨?_, nofun⟩
      have hfilter' : requestedFilter readFilter (i.rejudged tail false).args = .ok accepts :=
        hfilter
      rw [nextcall_body_of_filter passed target hfilter,
        nextcall_body_of_filter passed target hfilter', hrepeated]
      rfl
    | error report =>
      refine ⟨?_, nofun⟩
      have hfilter' : requestedFilter readFilter (i.rejudged tail false).args = .error report :=
        hfilter
      rw [nextcall_body_of_no_filter passed target hfilter,
        nextcall_body_of_no_filter passed target hfilter']
      rfl
  · rw [if_neg hname]
    exact ⟨body_of_other_rejudged hc hname i tail false passed, fun _ => rfl⟩

/-! ## Lines that were typed -/

/-- What is known of a shell that was given a number of lines. -/
structure Prompted (taken : Nat) (s : Shell) : Prop where
  /-- The last line has no blanks around it, and something else in it. -/
  lastLine : ∀ line, s.lastLine = some line → line.trimBlanks = line ∧ line ≠ ""
  /-- No more numbers were given to entries of the history than lines were taken. -/
  numbers : History.nextNumber s.history ≤ taken + 1

/-- A shell that has just been started was given no lines. -/
theorem prompted_of_start {target : Target} {config : Config} {s : Shell}
    (h : start target config = .ok s) : s.Prompted 0 := by
  unfold start at h
  dsimp only at h
  split at h
  · cases h
    exact ⟨nofun, Nat.le_refl 1⟩
  · cases h

variable {s : Shell} {taken : Nat}

/-- Executing a line leaves the history and the last line. -/
theorem Prompted.execute (hs : s.Prompted taken) (line : String) (interactive : Bool) :
    (s.execute line interactive).shell.Prompted taken := by
  rw [(s.execute_frame line interactive).1]
  exact ⟨hs.lastLine, hs.numbers⟩

/-- A line that is taken is given one number at most. -/
theorem Prompted.take (hs : s.Prompted taken) (input : Input) :
    (s.take input).shell.Prompted (taken + 1) := by
  have hs' : s.Prompted (taken + 1) := ⟨hs.lastLine, Nat.le_succ_of_le hs.numbers⟩
  cases input with
  | typed text =>
    unfold Shell.take handleTyped
    dsimp only
    split
    · split
      · exact hs'.execute _ true
      · exact hs'
    · rename_i hblank
      split
      · exact hs'
      · rename_i history hrecord
        obtain ⟨-, rfl⟩ := (History.record?_eq_some_iff _ _ _).1 hrecord
        refine Prompted.execute ⟨fun line hline => ?_, ?_⟩ _ true
        · cases hline
          exact ⟨String.trimBlanks_trimBlanks text, hblank⟩
        · rw [History.nextNumber_of_newest List.getLast?_concat]
          exact Nat.succ_le_succ hs.numbers
  | scripted text =>
    unfold Shell.take handleScripted
    dsimp only
    split
    · exact hs'
    · exact hs'.execute _ false

/-- So any sequence of lines is given one number a line at most. -/
theorem Prompted.after (hs : s.Prompted taken) (inputs : List Input) :
    (s.after inputs).Prompted (taken + inputs.length) := by
  induction inputs generalizing s taken with
  | nil => exact hs
  | cons input rest ih =>
    have hrest := ih (hs.take input)
    rw [Nat.add_right_comm] at hrest
    exact hrest

/-- The shell when a line has become the newest entry of the history. -/
def withNewest (s : Shell) (line : String) : Shell :=
  { s with
    history := s.history ++ [(History.nextNumber s.history, line)]
    lastLine := some line }

/-- An empty line executes the last line. -/
theorem handleTyped_of_blank {line blank : String} (hlast : s.lastLine = some line)
    (hblank : blank.toList.all Text.isBlank = true) :
    s.handleTyped blank = s.execute line true := by
  unfold handleTyped
  dsimp only
  rw [if_pos ((String.trimBlanks_eq_empty_iff blank).2 hblank), hlast]

/-- Where there is a number left, typing a line executes it as the newest entry. -/
theorem handleTyped_of_line {line : String} (htrim : line.trimBlanks = line) (hne : line ≠ "")
    (hnumber : History.nextNumber s.history < History.numberBound) :
    s.handleTyped line = (s.withNewest line).execute line true := by
  unfold handleTyped
  dsimp only
  rw [htrim, if_neg hne, (History.record?_eq_some_iff _ _ line).2 ⟨hnumber, rfl⟩]
  rfl

/-! ## Two ways to run the last line again -/

/-- Changing a setting does not read the history. -/
theorem set_withNewest (s : Shell) (newest argument : String) :
    ((s.withNewest newest).set argument).2 = (s.set argument).2 ∧
      ((s.withNewest newest).set argument).1.dispatcher = (s.set argument).1.dispatcher := by
  unfold set
  dsimp only [withNewest]
  split
  · exact ⟨rfl, rfl⟩
  · split
    · exact ⟨rfl, rfl⟩
    · exact ⟨rfl, rfl⟩

/-- Neither does any other line for the shell itself. -/
theorem execute_own_withNewest {line : String} (h : (cutAtBlank line).1 ∈ ownCommands)
    (newest : String) (interactive : Bool) :
    (s.execute line interactive).result =
        ((s.withNewest newest).execute line interactive).result ∧
      (s.execute line interactive).output =
        ((s.withNewest newest).execute line interactive).output ∧
      (s.execute line interactive).shell.dispatcher =
        ((s.withNewest newest).execute line interactive).shell.dispatcher := by
  have hhelp : (s.withNewest newest).help = s.help := rfl
  have hdisplay : (s.withNewest newest).display = s.display := rfl
  obtain ⟨houtput, hdispatcher⟩ := s.set_withNewest newest (cutAtBlank line).2
  simp only [ownCommands, List.mem_cons, List.not_mem_nil, or_false] at h
  rcases h with h | h | h | h | h
  · simp only [execute, h, hhelp]
    exact ⟨trivial, trivial, rfl⟩
  · simp only [execute, h, houtput, hdispatcher, and_self]
  · simp only [execute, h, hdisplay]
    exact ⟨trivial, trivial, rfl⟩
  · simp only [execute, h]
    exact ⟨trivial, trivial, rfl⟩
  · simp only [execute, h]
    exact ⟨trivial, trivial, rfl⟩

/-- The replies to an empty line and to the last line, typed again: what is the same in both, and
what is not. -/
structure EnterContract (readFilter : FilterReader) (s : Shell) (line : String)
    (entered typed : Reply) : Prop where
  /-- The shell goes on, leaves or fails alike. -/
  result : entered.result = typed.result
  /-- The same is told, after the note of a `nextcall` that was given a filter. -/
  output : entered.output = repeatNote readFilter entered ++ typed.output
  /-- The settings are the same afterwards. -/
  config : entered.shell.dispatcher.config = typed.shell.dispatcher.config
  /-- So is the stored strategy. -/
  strategy : entered.shell.dispatcher.strategy = typed.shell.dispatcher.strategy
  /-- So is the number of call sites that were passed. -/
  passed : entered.shell.dispatcher.memory = typed.shell.dispatcher.memory
  /-- The empty line leaves the history. -/
  entered_history : entered.shell.history = s.history
  /-- The line that was typed is a new entry of it. -/
  typed_history : typed.shell.history = s.history ++ [(History.nextNumber s.history, line)]

/-- The replies that are made of reports meet the contract if the reports agree. -/
theorem enterContract_replyTo {readFilter : FilterReader} {line : String}
    {report report' : Report Nat}
    (h : Report.Echoes (repeatNote readFilter (s.replyTo report)) report report') :
    EnterContract readFilter s line (s.replyTo report) ((s.withNewest line).replyTo report') where
  result := congrArg (Except.map fun _ => Control.proceed) h.answer
  output := h.output
  config := (congrArg Dispatcher.config h.dispatcher :)
  strategy := (congrArg Dispatcher.strategy h.dispatcher :)
  passed := (congrArg Dispatcher.memory h.dispatcher :)
  entered_history := rfl
  typed_history := rfl

/-- A line for the shell itself is executed alike, whichever entry of the history is the newest. -/
theorem enterContract_of_own {readFilter : FilterReader} {line : String}
    (hown : (cutAtBlank line).1 ∈ ownCommands) :
    EnterContract readFilter s line (s.execute line true)
      ((s.withNewest line).execute line true) := by
  obtain ⟨hresult, houtput, hdispatcher⟩ := execute_own_withNewest hown line true
  obtain ⟨d, output, control, hexecute, -⟩ := s.execute_of_own line true hown
  have hnote : repeatNote readFilter (s.execute line true) = [] :=
    repeatNote_of_idle readFilter (by rw [hexecute])
  refine ⟨hresult, ?_, congrArg Dispatcher.config hdispatcher,
    congrArg Dispatcher.strategy hdispatcher, congrArg Dispatcher.memory hdispatcher, ?_, ?_⟩
  · rw [hnote, houtput]
    rfl
  · rw [(s.execute_frame line true).1]
  · rw [((s.withNewest line).execute_frame line true).1]
    rfl

/-- An invocation as a repeat, and by the newest entry of the history as none, meet the contract. -/
theorem Equipped.enterContract_of_invocation {readFilter : FilterReader}
    (hs : s.Equipped readFilter) {line : String} (hown : (cutAtBlank line).1 ∉ ownCommands)
    (hrepeated : ∀ i, (s.execute line true).started = some i → i.repeated = true)
    (hfresh : ∀ i, ((s.withNewest line).execute line true).started = some i →
      i.repeated = false) :
    EnterContract readFilter s line (s.execute line true)
      ((s.withNewest line).execute line true) := by
  rw [s.execute_eq_replyTo line true hown] at hrepeated ⊢
  rw [(s.withNewest line).execute_eq_replyTo line true hown] at hfresh ⊢
  have hhost : (s.withNewest line).host =
      s.host.showing (History.tail (s.withNewest line).history) := rfl
  have hdispatcher : (s.withNewest line).dispatcher = s.dispatcher := rfl
  rw [hhost, hdispatcher] at hfresh ⊢
  -- All that matters of the newest line is how the invocation is judged by it.
  generalize History.tail (s.withNewest line).history = tail at hfresh ⊢
  obtain ⟨-, hstarted, -⟩ :=
    s.dispatcher.invoke_report s.host (cutAtBlank line).1 (cutAtBlank line).2 true
  obtain ⟨-, hstarted', -⟩ :=
    s.dispatcher.invoke_report (s.host.showing tail) (cutAtBlank line).1 (cutAtBlank line).2 true
  refine enterContract_replyTo (s.dispatcher.invoke_echoes s.host _ _ true tail ?_ ?_)
  · intro hidle
    exact repeatNote_of_idle readFilter (hstarted.trans hidle)
  · intro c i hfate
    -- Both invocations start the body of `c`, the first as a repeat and the second not.
    rw [Dispatcher.fate_showing, hfate] at hstarted'
    rw [hfate] at hstarted
    obtain ⟨args, heap, hfind, -, -, -, hgiven⟩ :=
      (s.dispatcher.fate_eq_started_iff s.host _ _ true c i).1 hfate
    have hc : c ∈ commands s.target readFilter := by
      rw [← hs.commands_eq]
      exact ((Dispatcher.find?_eq_some_iff_owns hs.wellFormed _ c).1 hfind).1
    have hcommand : i.command = c.name := by
      rw [hgiven]
      rfl
    have hjudged := hfresh _ hstarted'
    dsimp only [Invocation.rejudged] at hjudged
    rw [hjudged]
    exact body_rejudged hc hstarted hcommand (hrepeated i hstarted) tail s.dispatcher.memory

/-- An empty line and the last line, typed again, meet the contract if a number is left. -/
theorem Equipped.enterContract {readFilter : FilterReader} (hs : s.Equipped readFilter)
    (hsync : s.Synchronized) (hprompted : s.Prompted taken) {line blank : String}
    (hlast : s.lastLine = some line) (hblank : blank.toList.all Text.isBlank = true)
    (hnumber : History.nextNumber s.history < History.numberBound) :
    EnterContract readFilter s line (s.handleTyped blank) (s.handleTyped line) := by
  obtain ⟨htrim, hne⟩ := hprompted.lastLine line hlast
  have hnonblank : ¬line.toList.all Text.isBlank = true := by
    rw [← String.trimBlanks_eq_empty_iff, htrim]
    exact hne
  have hrepeated := (hsync.handleTyped blank).2
  have hfresh := (hsync.handleTyped line).2
  rw [handleTyped_of_blank hlast hblank] at hrepeated ⊢
  rw [handleTyped_of_line htrim hne hnumber] at hfresh ⊢
  by_cases hown : (cutAtBlank line).1 ∈ ownCommands
  · exact enterContract_of_own hown
  · exact hs.enterContract_of_invocation hown (fun i hi => (hrepeated i hi).2 hblank)
      fun i hi => Bool.eq_false_iff.2 (mt (hfresh i hi).1 hnonblank)

/-- In a shell of any target, after any lines, an empty line and the last line that was typed, typed
again, have the same result and leave the same settings, strategy and number of passed call sites.
They tell the same, but that the empty line notes the repeat if it runs `nextcall` with a filter.
Only the line that is typed again is a new entry of the history. It needs a number for that, and no
more numbers were used than lines were taken. -/
theorem bare_enter_does_what_retyping_does {target : Target} {config : Config} {shell : Shell}
    (hstart : start target config = .ok shell) (before : List Input) {line blank : String}
    (hlast : (shell.after before).lastLine = some line)
    (hblank : blank.toList.all Text.isBlank = true) :
    (History.nextNumber (shell.after before).history < History.numberBound →
      EnterContract patternFilter (shell.after before) line
        ((shell.after before).take (.typed blank)) ((shell.after before).take (.typed line))) ∧
    History.nextNumber (shell.after before).history ≤ before.length + 1 := by
  have hsync := (synchronized_of_start hstart).after before
  have hprompted := (prompted_of_start hstart).after before
  rw [Nat.zero_add] at hprompted
  rw [start_eq_startWith] at hstart
  have hequipped := ((equipped_of_startWith hstart).1.after before).1
  exact ⟨hequipped.enterContract hsync hprompted hlast hblank, hprompted.numbers⟩

/-- After `nextcall` was typed, an empty line and `nextcall` both go on to the second call site, and
the empty line notes the repeat. -/
theorem enter_goes_on_like_nextcall : ∃ shell, start allocatingTarget {} = .ok shell ∧
    (shell.after [.typed "nextcall"]).lastLine = some "nextcall" ∧
    " ".toList.all Text.isBlank = true ∧
    EnterContract patternFilter (shell.after [.typed "nextcall"]) "nextcall"
      ((shell.after [.typed "nextcall"]).take (.typed " "))
      ((shell.after [.typed "nextcall"]).take (.typed "nextcall")) ∧
    ((shell.after [.typed "nextcall"]).take (.typed " ")).output =
      [.info "Continuing to the next call (repeated)", .plain "Stopped at call 0x401120 <puts>"] ∧
    ((shell.after [.typed "nextcall"]).take (.typed "nextcall")).output =
      [.plain "Stopped at call 0x401120 <puts>"] := by
  have hrun : ((start allocatingTarget {}).toOption.map fun shell =>
      ((shell.after [.typed "nextcall"]).lastLine,
        ((shell.after [.typed "nextcall"]).take (.typed " ")).output,
        ((shell.after [.typed "nextcall"]).take (.typed "nextcall")).output)) =
      some (some "nextcall",
        [.info "Continuing to the next call (repeated)",
          .plain "Stopped at call 0x401120 <puts>"],
        [.plain "Stopped at call 0x401120 <puts>"]) := by
    decide +kernel
  cases hstart : start allocatingTarget {} with
  | ok shell =>
    rw [hstart] at hrun
    obtain ⟨hlast, houtputs⟩ := Prod.mk.inj (Option.some.inj hrun)
    obtain ⟨hentered, htyped⟩ := Prod.mk.inj houtputs
    have hblank : " ".toList.all Text.isBlank = true := by decide
    obtain ⟨hcontract, hnumbers⟩ :=
      bare_enter_does_what_retyping_does hstart [.typed "nextcall"] hlast hblank
    have hbound : 3 ≤ History.numberBound := by decide
    exact ⟨shell, rfl, hlast, hblank, hcontract (lt_of_le_of_lt hnumbers hbound), hentered, htyped⟩
  | error e =>
    rw [hstart] at hrun
    cases hrun

end Shell

end DebugShell
