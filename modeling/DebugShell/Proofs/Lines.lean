import DebugShell.Shell
import DebugShell.Proofs.Blank
import DebugShell.Proofs.Calls

/-!
# Lines taken one after another

A shell is given lines, typed at the prompt or read from a script, and goes on after each of them
whatever came of it. `Shell.after` is what has become of the shell then, and `Shell.replies` is what
it made of each line. A line is executed by the shell itself, or it is an invocation; either way the
shell keeps its target, its history and its registry (`execute_frame`), and it is only by lines
whose arguments a command accepts that entries of the history come to be seen and bodies to be
started (`execute_refused`, `execute_accepted`).
-/

namespace DebugShell

namespace Shell

/-- A line that a shell is given. -/
inductive Input where
  /-- A line that was typed at the prompt. -/
  | typed (text : String)
  /-- A line of a script. -/
  | scripted (text : String)
  deriving DecidableEq, Repr

/-- The operator just pressed Enter: a line without anything but blanks was typed. -/
def Input.isBareEnter : Input → Bool
  | .typed text => text.toList.all Text.isBlank
  | .scripted _ => false

/-- Take a line. -/
def take (s : Shell) : Input → Reply
  | .typed text => s.handleTyped text
  | .scripted text => s.handleScripted text

/-- The shell after a sequence of lines. It is given the next one also if a line failed, or asked to
leave. -/
def after (s : Shell) (inputs : List Input) : Shell :=
  inputs.foldl (fun s input => (s.take input).shell) s

/-- The replies to a sequence of lines, each of which the shell takes as the ones before it have
left it. -/
def replies (s : Shell) : List Input → List Reply
  | [] => []
  | input :: rest => s.take input :: (s.take input).shell.replies rest

/-- A command accepts a line: the line is none for the shell itself, its first word is a name of the
command, and the rest of it is accepted as arguments. -/
def Accepts (s : Shell) (line : String) : Prop :=
  (cutAtBlank line).1 ∉ ownCommands ∧ ∃ c args,
    s.dispatcher.registry.find? (cutAtBlank line).1 = some c ∧
    (c.spec.parse c.name s.host (cutAtBlank line).2).value = .ok args

/-- The reply that is made of an invocation's report: the shell keeps what the invocation left,
hands on what was told and a failure that was not absorbed, and goes on otherwise. -/
def replyTo (s : Shell) (report : Report Nat) : Reply :=
  { shell := { s with dispatcher := report.dispatcher }
    started := report.started
    output := report.output
    result := report.answer.map fun _ => .proceed }

variable (s : Shell) (line : String) (interactive : Bool)

/-! ## What executing a line does -/

/-- A line that is not for the shell itself is an invocation, and the reply is made of its
report. -/
theorem execute_eq_replyTo (h : (cutAtBlank line).1 ∉ ownCommands) :
    s.execute line interactive = s.replyTo
      (s.dispatcher.invoke s.host (cutAtBlank line).1 (cutAtBlank line).2 interactive) := by
  simp only [ownCommands, List.mem_cons, List.not_mem_nil, or_false, not_or] at h
  obtain ⟨hhelp, hset, hshow, hquit, hexit⟩ := h
  unfold execute
  dsimp only
  split
  · exact absurd ‹_› hquit
  · exact absurd ‹_› hexit
  · exact absurd ‹_› hhelp
  · exact absurd ‹_› hset
  · exact absurd ‹_› hshow
  · rfl

/-- So it leaves what the invocation leaves, and starts what the invocation starts. -/
theorem execute_of_invocation (h : (cutAtBlank line).1 ∉ ownCommands) :
    (s.execute line interactive).shell = { s with dispatcher :=
        (s.dispatcher.invoke s.host (cutAtBlank line).1 (cutAtBlank line).2
          interactive).dispatcher } ∧
      (s.execute line interactive).started =
        (s.dispatcher.invoke s.host (cutAtBlank line).1 (cutAtBlank line).2
          interactive).started := by
  rw [s.execute_eq_replyTo line interactive h]
  exact ⟨rfl, rfl⟩

/-- Changing a setting by a line leaves everything but the settings and the stored strategy as it
is. -/
theorem set_frame (argument : String) :
    ∃ d output, s.set argument = ({ s with dispatcher := d }, output) ∧
      d.registry = s.dispatcher.registry ∧ d.seen = s.dispatcher.seen ∧
      d.memory = s.dispatcher.memory := by
  unfold set
  dsimp only
  split
  · exact ⟨s.dispatcher, _, rfl, rfl, rfl, rfl⟩
  · split
    · rename_i d h
      exact ⟨d, _, rfl, Dispatcher.setConfig_frame h⟩
    · exact ⟨s.dispatcher, _, rfl, rfl, rfl, rfl⟩

/-- A line for the shell itself starts no body and leaves everything but the settings and the stored
strategy as it is. It tells nothing, or what one of the shell's own commands answers. -/
theorem execute_of_own (h : (cutAtBlank line).1 ∈ ownCommands) :
    ∃ d output control,
      s.execute line interactive =
        { shell := { s with dispatcher := d }, output, result := .ok control } ∧
      d.registry = s.dispatcher.registry ∧ d.seen = s.dispatcher.seen ∧
      d.memory = s.dispatcher.memory ∧
      (output = [] ∨ output = s.help (cutAtBlank line).2 ∨
        output = (s.set (cutAtBlank line).2).2 ∨ output = s.display (cutAtBlank line).2) := by
  unfold execute
  dsimp only
  split
  · exact ⟨s.dispatcher, [], .leave, rfl, rfl, rfl, rfl, .inl rfl⟩
  · exact ⟨s.dispatcher, [], .leave, rfl, rfl, rfl, rfl, .inl rfl⟩
  · exact ⟨s.dispatcher, _, .proceed, rfl, rfl, rfl, rfl, .inr (.inl rfl)⟩
  · obtain ⟨d, output, hset, hregistry, hseen, hmemory⟩ := s.set_frame (cutAtBlank line).2
    rw [hset]
    exact ⟨d, output, .proceed, rfl, hregistry, hseen, hmemory, .inr (.inr (.inl rfl))⟩
  · exact ⟨s.dispatcher, _, .proceed, rfl, rfl, rfl, rfl, .inr (.inr (.inr rfl))⟩
  · rename_i hquit hexit hhelp hset hshow
    simp only [ownCommands, List.mem_cons, List.not_mem_nil, or_false] at h
    rcases h with h | h | h | h | h
    · exact absurd h hhelp
    · exact absurd h hset
    · exact absurd h hshow
    · exact absurd h hquit
    · exact absurd h hexit

/-- A line that is executed leaves the target, the history, the last line and the registry as they
are. -/
theorem execute_frame :
    (s.execute line interactive).shell =
        { s with dispatcher := (s.execute line interactive).shell.dispatcher } ∧
      (s.execute line interactive).shell.dispatcher.registry = s.dispatcher.registry := by
  by_cases hown : (cutAtBlank line).1 ∈ ownCommands
  · obtain ⟨d, output, control, hexecute, hregistry, -⟩ := s.execute_of_own line interactive hown
    rw [hexecute]
    exact ⟨rfl, hregistry⟩
  · rw [(s.execute_of_invocation line interactive hown).1]
    exact ⟨rfl, (s.dispatcher.invoke_frame s.host _ _ interactive).1⟩

/-- So the same lines are accepted afterwards. -/
theorem accepts_execute_iff (other : String) :
    (s.execute line interactive).shell.Accepts other ↔ s.Accepts other := by
  obtain ⟨hshell, hregistry⟩ := s.execute_frame line interactive
  have hhost : (s.execute line interactive).shell.host = s.host := by
    rw [hshell]
    rfl
  unfold Accepts
  rw [hregistry, hhost]

/-- A line that no command accepts starts no body, and no entry comes to be seen by it. -/
theorem execute_refused (h : ¬s.Accepts line) :
    (s.execute line interactive).shell.dispatcher.seen = s.dispatcher.seen ∧
      (s.execute line interactive).started = none := by
  by_cases hown : (cutAtBlank line).1 ∈ ownCommands
  · obtain ⟨d, output, control, hexecute, -, hseen, -⟩ := s.execute_of_own line interactive hown
    rw [hexecute]
    exact ⟨hseen, rfl⟩
  · obtain ⟨hshell, hstarted⟩ := s.execute_of_invocation line interactive hown
    obtain ⟨-, hreport, hdispatcher⟩ :=
      s.dispatcher.invoke_report s.host (cutAtBlank line).1 (cutAtBlank line).2 interactive
    rw [hshell, hstarted, hreport, hdispatcher]
    have hidle : ¬(s.dispatcher.fate s.host (cutAtBlank line).1 (cutAtBlank line).2
        interactive).isJudged = true := by
      rw [Dispatcher.fate_isJudged_iff]
      exact fun haccepts => h ⟨hown, haccepts⟩
    generalize s.dispatcher.fate s.host (cutAtBlank line).1 (cutAtBlank line).2 interactive =
      fate at hidle ⊢
    -- Of the other three fates each is that of an accepted line.
    cases fate with
    | unknown => exact ⟨rfl, rfl⟩
    | aborted abort => exact ⟨rfl, rfl⟩
    | unmet gate => exact absurd rfl hidle
    | unavailable => exact absurd rfl hidle
    | started c i => exact absurd rfl hidle

/-- A line that a command accepts is judged, and a body that it starts is told the outcome. -/
theorem execute_accepted (h : s.Accepts line) :
    (s.execute line interactive).shell.dispatcher.seen =
        (History.isRepeat s.dispatcher.seen (History.tail s.history) (cutAtBlank line).2
          interactive).2 ∧
      ∀ i, (s.execute line interactive).started = some i → i.repeated =
        (History.isRepeat s.dispatcher.seen (History.tail s.history) (cutAtBlank line).2
          interactive).1 := by
  obtain ⟨hown, haccepts⟩ := h
  obtain ⟨hshell, hstarted⟩ := s.execute_of_invocation line interactive hown
  obtain ⟨-, hreport, hdispatcher⟩ :=
    s.dispatcher.invoke_report s.host (cutAtBlank line).1 (cutAtBlank line).2 interactive
  have hjudged := (Dispatcher.fate_isJudged_iff _ _ _ _ interactive).2 haccepts
  rw [hshell, hstarted, hreport, hdispatcher]
  refine ⟨if_pos hjudged, fun i hi => ?_⟩
  cases hfate : s.dispatcher.fate s.host (cutAtBlank line).1 (cutAtBlank line).2 interactive with
  | started c i' =>
    rw [hfate] at hi
    cases hi
    obtain ⟨args, heap, -, -, -, -, rfl⟩ :=
      (Dispatcher.fate_eq_started_iff _ _ _ _ _ _ _).1 hfate
    rfl
  | _ =>
    rw [hfate] at hi
    cases hi

end Shell

end DebugShell
