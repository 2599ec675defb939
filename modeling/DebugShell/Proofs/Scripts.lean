import DebugShell.Program
import DebugShell.Proofs.Containment
import DebugShell.Proofs.Lines
import DebugShell.Proofs.SettingOrder

/-!
# Scripts run up to the line that ends them

A script is taken line by line, up to and including the first line that asks to leave or, unless
failures are passed over, the first that fails (`Shell.heeded`). What it leaves of the shell and
what it writes is what these lines do one after another, and a failure that ends it is named with
the place of its line in the whole script (`ScriptContract`).

Running a script looks at each line before the shell does, to leave out the ones that ask for
nothing. The shell leaves them out as well, so that both make the same of every line
(`runScript_cons`), and the rest is induction on the lines.

A line fails only where the settings ask for failures (`Shell.wantsRawErrors_of_error`), and the
only lines of a script that change the settings are those of `set` (`Shell.config_handleScripted`).
So a script that starts without asking for failures, and never asks for them, does not fail.
-/

namespace DebugShell

namespace Shell

/-- A script is over with a reply: the line asked to leave, or it failed and failures are not passed
over. -/
def Reply.endsScript (continueOnError : Bool) (reply : Reply) : Bool :=
  match reply.result with
  | .ok .leave => true
  | .ok .proceed => false
  | .error _ => !continueOnError

/-- The lines of a script that are taken: those up to and including the first with whose reply the
script is over. -/
def heeded (continueOnError : Bool) (s : Shell) (lines : List String) : List String :=
  lines.take ((s.replies (lines.map .scripted)).findIdx (Reply.endsScript continueOnError) + 1)

/-- A line of a script fails with a reason, after lines that go on, of which `place` is the
number. -/
def FirstFailure (s : Shell) (lines : List String) (place : Nat) (reason : Failure) : Prop :=
  ∃ before text after, lines = before ++ text :: after ∧ before.length = place ∧
    (∀ reply ∈ s.replies (before.map .scripted), reply.result = .ok .proceed) ∧
    ((s.after (before.map .scripted)).handleScripted text).result = .error reason

/-- The change of a setting that a line of a script asks for, if it is one for `set` and the value
is accepted. -/
def requestedChange? (text : String) : Option Change :=
  let (name, argument) := cutAtBlank text.trimBlanks
  let (setting, value) := cutAtBlank argument
  if name = "set" then (Change.requested setting value).toOption else none

/-- The line turns on one of the two settings that ask for failures to be handed on. -/
def AsksForFailures (text : String) : Prop :=
  requestedChange? text = some ⟨.exceptionVerbose, true⟩ ∨
    requestedChange? text = some ⟨.exceptionDebugger, true⟩

end Shell

namespace Program

/-- What is written about a line of a script: the line behind the prompt, unless it asks for
nothing; what the operator is told; and a failure that is passed over. -/
def account (colour : Bool) (request : Request) (text : String) (reply : Shell.Reply) : Written :=
  let line := text.trimBlanks
  let echo : Written :=
    { out := if request.quiet || Shell.isIdle line then "" else prompt ++ line ++ "\n" }
  echo ++ written colour reply.output ++
    match reply.result with
    | .ok _ => {}
    | .error failure =>
      if request.continueOnError then failureReport colour reply.shell failure else {}

/-- The failure of a script that ends with a line of that number. -/
def scriptFailure (number : Nat) (failure : Failure) : Failure :=
  .ofText s!"script failed at line {number}: {failure.message}"

/-- What can be relied on when a script is run. -/
structure ScriptContract (colour : Bool) (request : Request) (s : Shell) (lines : List String)
    (run : ScriptRun) : Prop where
  /-- The shell is what the lines that are taken have made of it, one after another. -/
  shell_eq : run.shell = s.after ((s.heeded request.continueOnError lines).map .scripted)
  /-- What is written is what is written about each of them. -/
  written_eq : run.written =
    (List.zipWith (account colour request) (s.heeded request.continueOnError lines)
      (s.replies ((s.heeded request.continueOnError lines).map .scripted))).foldr (· ++ ·) {}
  /-- Of a line that is blank or a comment nothing becomes, and nothing is written about it. -/
  idle : ∀ text : String, text.toList.all Text.isBlank = true ∨
      text.trimBlanks.toList.head? = some '#' → ∀ s' : Shell,
    s'.handleScripted text = { shell := s' } ∧
      account colour request text { shell := s' } = {}
  /-- The script fails exactly if failures are not passed over, and a line fails before any has
  asked to leave. The failure names the first such line, by its number among all lines. -/
  failure_iff : ∀ failure, run.failure = some failure ↔ request.continueOnError = false ∧
    ∃ place reason, s.FirstFailure lines place reason ∧
      failure = scriptFailure (place + 1) reason
  /-- If failures are not asked for at the start, and no line that is taken asks for them, the
  script does not fail. -/
  contained : s.dispatcher.config.exceptionVerbose = false →
    s.dispatcher.config.exceptionDebugger = false →
    (∀ text ∈ s.heeded request.continueOnError lines, ¬Shell.AsksForFailures text) →
    run.failure = none

end Program

namespace Shell

/-! ## The lines that are taken -/

/-- The first line is taken, and the others as long as the script is not over. -/
theorem heeded_cons (continueOnError : Bool) (s : Shell) (text : String) (rest : List String) :
    s.heeded continueOnError (text :: rest) = text ::
      if (s.handleScripted text).endsScript continueOnError then []
      else (s.handleScripted text).shell.heeded continueOnError rest := by
  unfold heeded
  rw [List.map_cons, replies, List.findIdx_cons, List.take_succ_cons]
  change text ::
    List.take (bif (s.handleScripted text).endsScript continueOnError then 0 else _) _ = _
  cases (s.handleScripted text).endsScript continueOnError <;> rfl

/-- Where failures are not passed over, a script is not over exactly with a reply that goes on. -/
theorem endsScript_eq_false_iff (reply : Reply) :
    reply.endsScript false = false ↔ reply.result = .ok .proceed := by
  unfold Reply.endsScript
  cases reply.result with
  | ok control => cases control <;> simp
  | error failure => simp

/-! ## Lines that ask for nothing -/

/-- A line that is blank or a comment leaves the shell as it is, and nothing is told. -/
theorem handleScripted_of_idle {text : String} (h : isIdle text.trimBlanks = true) (s : Shell) :
    s.handleScripted text = { shell := s } :=
  if_pos h

/-- A line of a script that is not left out is executed. -/
theorem handleScripted_of_not_idle {text : String} (h : isIdle text.trimBlanks = false)
    (s : Shell) : s.handleScripted text = s.execute text.trimBlanks false :=
  if_neg (Bool.eq_false_iff.1 h)

/-- It makes no difference to a line of a script whether the blanks around it are taken off. -/
theorem handleScripted_trimBlanks (s : Shell) (text : String) :
    s.handleScripted text.trimBlanks = s.handleScripted text := by
  unfold handleScripted
  rw [String.trimBlanks_trimBlanks]

/-! ## Lines that fail -/

/-- The first line to fail is the first of all, or the first after one that goes on. -/
theorem firstFailure_cons (s : Shell) (text : String) (rest : List String) (place : Nat)
    (reason : Failure) : s.FirstFailure (text :: rest) place reason ↔
      place = 0 ∧ (s.handleScripted text).result = .error reason ∨
      ∃ others, place = others + 1 ∧ (s.handleScripted text).result = .ok .proceed ∧
        (s.handleScripted text).shell.FirstFailure rest others reason := by
  constructor
  · rintro ⟨before, failed, after, hlines, hplace, hgoOn, hfails⟩
    cases before with
    | nil =>
      cases hlines
      exact .inl ⟨hplace.symm, hfails⟩
    | cons first before =>
      cases hlines
      rw [List.map_cons, replies, List.forall_mem_cons] at hgoOn
      exact .inr ⟨before.length, hplace.symm, hgoOn.1, before, failed, after, rfl, rfl, hgoOn.2,
        hfails⟩
  · rintro (⟨rfl, hfails⟩ | ⟨others, rfl, hgoesOn, before, failed, after, rfl, rfl, hgoOn, hfails⟩)
    · exact ⟨[], text, rest, rfl, rfl, List.forall_mem_nil _, hfails⟩
    · refine ⟨text :: before, failed, after, rfl, rfl, ?_, hfails⟩
      rw [List.map_cons, replies, List.forall_mem_cons]
      exact ⟨hgoesOn, hgoOn⟩

/-- An invocation fails only where failures are to be handed on. -/
theorem wantsRawErrors_of_invoke {d : Dispatcher Nat} {host : Host} {name argument : String}
    {interactive : Bool} {failure : Failure}
    (h : (d.invoke host name argument interactive).answer = .error failure) :
    d.config.wantsRawErrors = true := by
  rw [Dispatcher.invoke_answer_iff] at h
  generalize d.fate host name argument interactive = fate at h
  cases h with
  | raised _ hraw => exact hraw

/-- A line of a script fails only where failures are to be handed on. -/
theorem wantsRawErrors_of_error {s : Shell} {text : String} {failure : Failure}
    (h : (s.handleScripted text).result = .error failure) :
    s.dispatcher.config.wantsRawErrors = true := by
  cases hidle : isIdle text.trimBlanks with
  | true =>
    rw [handleScripted_of_idle hidle] at h
    cases h
  | false =>
    rw [handleScripted_of_not_idle hidle] at h
    by_cases hown : (cutAtBlank text.trimBlanks).1 ∈ ownCommands
    · obtain ⟨d, output, control, hexecute, -⟩ := s.execute_of_own text.trimBlanks false hown
      rw [hexecute] at h
      cases h
    · rw [s.execute_eq_replyTo _ false hown] at h
      unfold replyTo at h
      dsimp only at h
      cases hanswer : (s.dispatcher.invoke s.host (cutAtBlank text.trimBlanks).1
        (cutAtBlank text.trimBlanks).2 false).answer with
      | ok outcome =>
        rw [hanswer] at h
        cases h
      | error failure => exact wantsRawErrors_of_invoke hanswer

/-! ## Lines that change the settings -/

/-- `set` changes what it is asked to change, and nothing if the value is not accepted. -/
theorem set_config (s : Shell) (argument : String) :
    (s.set argument).1.dispatcher.config =
      match (Change.requested (cutAtBlank argument).1 (cutAtBlank argument).2).toOption with
      | some change => s.dispatcher.config.put change.1 change.2
      | none => s.dispatcher.config := by
  unfold set
  dsimp only
  by_cases hname : (cutAtBlank argument).1 = ""
  · rw [if_pos hname, hname]
    rfl
  · rw [if_neg hname, Dispatcher.setConfig_eq]
    cases Change.requested (cutAtBlank argument).1 (cutAtBlank argument).2 <;> rfl

/-- A line for `set` leaves the shell as `set` does. -/
theorem execute_of_set {s : Shell} {line : String} (interactive : Bool)
    (h : (cutAtBlank line).1 = "set") :
    (s.execute line interactive).shell = (s.set (cutAtBlank line).2).1 := by
  unfold execute
  dsimp only
  split
  · exact absurd (h.symm.trans ‹_›) (by decide)
  · exact absurd (h.symm.trans ‹_›) (by decide)
  · exact absurd (h.symm.trans ‹_›) (by decide)
  · cases s.set (cutAtBlank line).2
    rfl
  · exact absurd (h.symm.trans ‹_›) (by decide)
  · exact absurd h ‹_›

/-- Any other line leaves the settings as they are. -/
theorem execute_config_of_ne_set {s : Shell} {line : String} (interactive : Bool)
    (h : (cutAtBlank line).1 ≠ "set") :
    (s.execute line interactive).shell.dispatcher.config = s.dispatcher.config := by
  unfold execute
  dsimp only
  split
  · rfl
  · rfl
  · rfl
  · exact absurd ‹_› h
  · rfl
  · exact (s.dispatcher.invoke_frame s.host _ _ interactive).2

/-- A line that asks for nothing is none for `set`. -/
theorem cutAtBlank_of_idle {line : String} (h : isIdle line = true) :
    (cutAtBlank line).1 ≠ "set" := by
  intro hset
  have hword : Text.firstWord line.toList = "set".toList := by
    rw [← hset, cutAtBlank, String.toList_ofList]
  -- The line starts with its first word, so it is not empty and starts with another character.
  have hline := Text.firstWord_append_afterFirstWord line.toList
  rw [hword] at hline
  rw [isIdle, Bool.or_eq_true, beq_iff_eq, beq_iff_eq, ← hline] at h
  rcases h with h | h
  · rw [← String.toList_eq_nil_iff, ← hline] at h
    cases h
  · cases h

/-- A line of a script changes the settings as it asks to, and only if it asks to. -/
theorem config_handleScripted (s : Shell) (text : String) :
    (s.handleScripted text).shell.dispatcher.config =
      match requestedChange? text with
      | some change => s.dispatcher.config.put change.1 change.2
      | none => s.dispatcher.config := by
  unfold requestedChange?
  dsimp only
  cases hidle : isIdle text.trimBlanks with
  | true => rw [handleScripted_of_idle hidle, if_neg (cutAtBlank_of_idle hidle)]
  | false =>
    rw [handleScripted_of_not_idle hidle]
    by_cases hset : (cutAtBlank text.trimBlanks).1 = "set"
    · rw [execute_of_set false hset, if_pos hset, set_config]
    · rw [execute_config_of_ne_set false hset, if_neg hset]

/-- Changing a setting asks for failures only if it turns on a setting that does. -/
theorem wantsRawErrors_put {c : Config} (hquiet : c.wantsRawErrors = false) (change : Change)
    (hverbose : change ≠ ⟨.exceptionVerbose, true⟩)
    (hdebugger : change ≠ ⟨.exceptionDebugger, true⟩) :
    (c.put change.1 change.2).wantsRawErrors = false := by
  obtain ⟨s, v⟩ := change
  cases s with
  | exceptionVerbose =>
    cases v with
    | true => exact absurd rfl hverbose
    | false => exact (Bool.or_eq_false_iff.1 hquiet).2
  | exceptionDebugger =>
    cases v with
    | true => exact absurd rfl hdebugger
    | false =>
      rw [Config.wantsRawErrors, Bool.or_eq_false_iff] at hquiet
      exact Bool.or_eq_false_iff.2 ⟨hquiet.1, rfl⟩
  | address symbol => cases v <;> exact hquiet
  | _ => exact hquiet

/-- Where failures are not asked for, only a line that asks for them makes a difference to that. -/
theorem wantsRawErrors_handleScripted {s : Shell} {text : String}
    (hquiet : s.dispatcher.config.wantsRawErrors = false) (h : ¬AsksForFailures text) :
    (s.handleScripted text).shell.dispatcher.config.wantsRawErrors = false := by
  rw [config_handleScripted]
  cases hchange : requestedChange? text with
  | none => exact hquiet
  | some change =>
    refine wantsRawErrors_put hquiet change ?_ ?_
    · rintro rfl
      exact h (.inl hchange)
    · rintro rfl
      exact h (.inr hchange)

end Shell

namespace Program

/-! ## One line of a script -/

/-- Nothing is added by writing nothing before. -/
theorem Written.nil_append (w : Written) : {} ++ w = w :=
  congrArg₂ Written.mk String.empty_append String.empty_append

/-- Nothing is added by writing nothing after. -/
theorem Written.append_nil (w : Written) : w ++ {} = w :=
  congrArg₂ Written.mk String.append_empty String.append_empty

section Line

variable (colour : Bool) (request : Request) {s : Shell} (number : Nat) {text : String}
  (rest : List String)

/-- Nothing is written about a line that asks for nothing. -/
theorem account_of_idle (h : Shell.isIdle text.trimBlanks = true) (s : Shell) :
    account colour request text { shell := s } = {} := by
  unfold account
  dsimp only
  rw [h, Bool.or_true, if_pos rfl]
  rfl

/-- A line with whose reply the script is over is all that the script does, and after any other line
the script goes on with the rest. -/
theorem runScript_cons : runScript colour request s number (text :: rest) =
    if (s.handleScripted text).endsScript request.continueOnError then
      { shell := (s.handleScripted text).shell
        written := account colour request text (s.handleScripted text)
        failure := match (s.handleScripted text).result with
          | .ok _ => none
          | .error reason => some (scriptFailure number reason) }
    else
      { runScript colour request (s.handleScripted text).shell (number + 1) rest with
        written := account colour request text (s.handleScripted text) ++
          (runScript colour request (s.handleScripted text).shell (number + 1) rest).written } := by
  cases hidle : Shell.isIdle text.trimBlanks with
  | true =>
    -- The line is left out here, and by the shell as well.
    rw [Shell.handleScripted_of_idle hidle, account_of_idle colour request hidle,
      Written.nil_append, runScript]
    exact if_pos hidle
  | false =>
    rw [runScript]
    dsimp only
    rw [if_neg (Bool.eq_false_iff.1 hidle), Shell.handleScripted_trimBlanks]
    unfold Shell.Reply.endsScript account
    dsimp only
    rw [hidle, Bool.or_false]
    cases (s.handleScripted text).result with
    | ok control =>
      cases control with
      | leave =>
        rw [if_pos rfl]
        dsimp only
        rw [Written.append_nil]
      | proceed =>
        rw [if_neg Bool.false_ne_true]
        dsimp only
        rw [Written.append_nil]
    | error reason =>
      dsimp only
      cases request.continueOnError with
      | true => rfl
      | false =>
        rw [if_neg Bool.false_ne_true, Bool.not_false, if_pos rfl, if_neg Bool.false_ne_true,
          Written.append_nil]
        rfl

end Line

/-! ## All lines of a script -/

section Script

variable (colour : Bool) (request : Request) (s : Shell) (number : Nat) (lines : List String)

/-- The lines that are taken make of the shell what they make of it one after another. -/
theorem runScript_shell : (runScript colour request s number lines).shell =
    s.after ((s.heeded request.continueOnError lines).map .scripted) := by
  induction lines generalizing s number with
  | nil => rfl
  | cons text rest ih =>
    rw [Shell.heeded_cons, List.map_cons]
    cases hend : (s.handleScripted text).endsScript request.continueOnError with
    | true =>
      rw [runScript_cons, if_pos hend]
      rfl
    | false =>
      rw [runScript_cons, if_neg (Bool.eq_false_iff.1 hend)]
      exact ih (s.handleScripted text).shell (number + 1)

/-- What is written is what is written about each of these lines. -/
theorem runScript_written : (runScript colour request s number lines).written =
    (List.zipWith (account colour request) (s.heeded request.continueOnError lines)
      (s.replies ((s.heeded request.continueOnError lines).map .scripted))).foldr (· ++ ·) {} := by
  induction lines generalizing s number with
  | nil => rfl
  | cons text rest ih =>
    rw [Shell.heeded_cons, List.map_cons, Shell.replies, List.zipWith_cons_cons, List.foldr_cons]
    cases hend : (s.handleScripted text).endsScript request.continueOnError with
    | true =>
      rw [runScript_cons, if_pos hend]
      exact (Written.append_nil _).symm
    | false =>
      rw [runScript_cons, if_neg (Bool.eq_false_iff.1 hend)]
      exact congrArg (account colour request text (s.handleScripted text) ++ ·)
        (ih (s.handleScripted text).shell (number + 1))

/-- A script fails exactly if failures are not passed over and one of its lines is the first to
fail. -/
theorem runScript_failure_iff (failure : Failure) :
    (runScript colour request s number lines).failure = some failure ↔
      request.continueOnError = false ∧ ∃ place reason, s.FirstFailure lines place reason ∧
        failure = scriptFailure (number + place) reason := by
  induction lines generalizing s number with
  | nil =>
    constructor
    · intro h
      cases h
    · rintro ⟨-, place, reason, ⟨before, text, after, hlines, -⟩, -⟩
      exact absurd hlines.symm (List.append_ne_nil_of_right_ne_nil before (List.cons_ne_nil _ _))
  | cons text rest ih =>
    simp only [Shell.firstFailure_cons]
    cases hend : (s.handleScripted text).endsScript request.continueOnError with
    | true =>
      rw [runScript_cons, if_pos hend]
      unfold Shell.Reply.endsScript at hend
      cases hresult : (s.handleScripted text).result with
      | ok control =>
        constructor
        · intro h
          cases h
        · -- A script that is left goes on no more, so that neither this line fails nor another.
          rintro ⟨-, place, reason, ⟨-, h⟩ | ⟨others, -, h, -⟩, -⟩
          · cases h
          · rw [hresult, h] at hend
            cases hend
      | error reason =>
        rw [hresult, Bool.not_eq_true'] at hend
        constructor
        · intro h
          cases h
          exact ⟨hend, 0, reason, .inl ⟨rfl, rfl⟩, rfl⟩
        · rintro ⟨-, place, reason', ⟨rfl, h⟩ | ⟨others, -, h, -⟩, rfl⟩
          · cases h
            rfl
          · cases h
    | false =>
      rw [runScript_cons, if_neg (Bool.eq_false_iff.1 hend)]
      refine (ih (s.handleScripted text).shell (number + 1)).trans
        (and_congr_right fun hcontinue => ?_)
      rw [hcontinue, Shell.endsScript_eq_false_iff] at hend
      constructor
      · rintro ⟨place, reason, h, rfl⟩
        exact ⟨place + 1, reason, .inr ⟨place, rfl, hend, h⟩,
          by rw [Nat.add_assoc, Nat.add_comm 1]⟩
      · rintro ⟨place, reason, ⟨-, h⟩ | ⟨others, rfl, -, h⟩, rfl⟩
        · rw [hend] at h
          cases h
        · exact ⟨others, reason, h, by rw [Nat.add_assoc, Nat.add_comm 1]⟩

/-- A script that never asks for failures does not fail. -/
theorem runScript_contained (hquiet : s.dispatcher.config.wantsRawErrors = false)
    (h : ∀ text ∈ s.heeded request.continueOnError lines, ¬Shell.AsksForFailures text) :
    (runScript colour request s number lines).failure = none := by
  induction lines generalizing s number with
  | nil => rfl
  | cons text rest ih =>
    rw [Shell.heeded_cons, List.forall_mem_cons] at h
    cases hend : (s.handleScripted text).endsScript request.continueOnError with
    | true =>
      rw [runScript_cons, if_pos hend]
      dsimp only
      cases hresult : (s.handleScripted text).result with
      | ok control => rfl
      | error reason =>
        have hraw := Shell.wantsRawErrors_of_error hresult
        rw [hquiet] at hraw
        cases hraw
    | false =>
      rw [runScript_cons, if_neg (Bool.eq_false_iff.1 hend)]
      rw [hend, if_neg Bool.false_ne_true] at h
      exact ih _ (number + 1) (Shell.wantsRawErrors_handleScripted hquiet h.1) h.2

end Script

/-- Every script meets its contract. -/
theorem scripts_run_up_to_the_line_that_ends_them (colour : Bool) (request : Request) (s : Shell)
    (lines : List String) :
    ScriptContract colour request s lines (runScript colour request s 1 lines) where
  shell_eq := runScript_shell colour request s 1 lines
  written_eq := runScript_written colour request s 1 lines
  idle text h s' := by
    have hidle : Shell.isIdle text.trimBlanks = true := by
      rw [Shell.isIdle, Bool.or_eq_true, beq_iff_eq, beq_iff_eq, String.trimBlanks_eq_empty_iff]
      exact h
    exact ⟨Shell.handleScripted_of_idle hidle s', account_of_idle colour request hidle s'⟩
  failure_iff failure := by
    rw [runScript_failure_iff]
    simp only [Nat.add_comm 1]
  contained hverbose hdebugger h :=
    runScript_contained colour request s 1 lines (Bool.or_eq_false_iff.2 ⟨hverbose, hdebugger⟩) h

end Program

end DebugShell
