import DebugShell.Proofs.History
import DebugShell.Proofs.Lines

/-!
# A repeat is a bare Enter

The body of a command is told that it repeats the last command exactly when the operator just
pressed Enter. Three parts of the shell have to fit together for this: the history of the target,
the numbers of its entries that the dispatcher has seen, and the last line. `Recorded` says how they
do as soon as a line is recorded. Then nothing of the new entry was seen
yet. `Synchronized` says in addition that the newest entry was seen if a command accepts it, which
is how executing the line leaves the shell (`Recorded.execute_newest`). So the last line, run again,
meets its own number. Lines for the shell itself, unknown commands and refused arguments leave their
numbers unseen, but no body is started by running them again.
-/

namespace DebugShell

namespace Shell

/-- The history, the last line and the numbers that were seen fit together, but the newest entry
need not have been seen. -/
structure Recorded (s : Shell) : Prop where
  /-- The last line is the newest entry of the history. -/
  lastLine_eq : s.lastLine = s.history.getLast?.map (·.2)
  /-- The newest entry has no blanks around it. -/
  trimmed : ∀ number line, s.history.getLast? = some (number, line) → line.trimBlanks = line
  /-- Its number is one that can be read back. -/
  bounded : ∀ number line, s.history.getLast? = some (number, line) →
    number < History.numberBound
  /-- No number was seen before it was given to an entry. -/
  seen_lt : ∀ number ∈ s.dispatcher.seen, number < History.nextNumber s.history

/-- The history, the last line and the numbers that were seen fit together, and the newest entry was
seen if there is a command that accepts it. -/
structure Synchronized (s : Shell) : Prop extends s.Recorded where
  /-- The newest entry was seen if there is a command that accepts it. -/
  newest_seen : ∀ number line, s.history.getLast? = some (number, line) → s.Accepts line →
    number ∈ s.dispatcher.seen

/-- A shell that has just been started has an empty history, and nothing was seen. -/
theorem synchronized_of_start {target : Target} {config : Config} {s : Shell}
    (h : start target config = .ok s) : s.Synchronized := by
  unfold start at h
  dsimp only at h
  split at h
  · cases h
    exact {
      lastLine_eq := rfl
      trimmed := fun _ _ hnewest => by cases hnewest
      bounded := fun _ _ hnewest => by cases hnewest
      seen_lt := fun _ hseen => by cases hseen
      newest_seen := fun _ _ hnewest => by cases hnewest }
  · cases h

variable {s : Shell}

/-! ## Executing a line -/

/-- What the line of the newest entry was given as its argument stands at the end of the line. So
the line is a repeat exactly if the number of the entry was seen, and afterwards it was. -/
theorem Recorded.isRepeat_newest (hs : s.Recorded) {number : Nat} {line : String}
    (hnewest : s.history.getLast? = some (number, line)) :
    History.isRepeat s.dispatcher.seen (History.tail s.history) (cutAtBlank line).2 true =
      (decide (number ∈ s.dispatcher.seen), s.dispatcher.seen.insert number) := by
  have htrim := hs.trimmed number line hnewest
  have hend : Text.trimEnd line.toList = line.toList := by
    rw [← htrim, String.toList_trimBlanks]
    exact Text.trimEnd_trim line.toList
  have hsuffix : (cutAtBlank line).2.toList.isSuffixOf line.trimBlanks.toList = true := by
    rw [htrim, List.isSuffixOf_iff_suffix, cutAtBlank, String.toList_ofList]
    exact Text.trim_tail_suffix hend
  rw [History.isRepeat_tail hnewest (hs.bounded number line hnewest), hsuffix]
  split
  · rename_i hseen
    rw [decide_eq_true hseen, List.insert_of_mem hseen]
  · rename_i hunseen
    rw [decide_eq_false hunseen, List.insert_of_not_mem hunseen]

/-- A line that is executed leaves the shell synchronized if what was seen afterwards is all right,
for that is all that it can change. -/
theorem Recorded.synchronized_execute (hs : s.Recorded) {line : String} {interactive : Bool}
    (hlt : ∀ number ∈ (s.execute line interactive).shell.dispatcher.seen,
      number < History.nextNumber s.history)
    (hnewest : ∀ number newest, s.history.getLast? = some (number, newest) → s.Accepts newest →
      number ∈ (s.execute line interactive).shell.dispatcher.seen) :
    (s.execute line interactive).shell.Synchronized := by
  have hframe := (s.execute_frame line interactive).1
  have hhistory : (s.execute line interactive).shell.history = s.history := by rw [hframe]
  have hlast : (s.execute line interactive).shell.lastLine = s.lastLine := by rw [hframe]
  refine ⟨⟨?_, ?_, ?_, ?_⟩, ?_⟩
  · rw [hlast, hhistory]
    exact hs.lastLine_eq
  · rw [hhistory]
    exact hs.trimmed
  · rw [hhistory]
    exact hs.bounded
  · rw [hhistory]
    exact hlt
  · intro number newest h haccepts
    rw [hhistory] at h
    rw [accepts_execute_iff] at haccepts
    exact hnewest number newest h haccepts

/-- Executing the line of the newest entry leaves the shell synchronized. A body that it starts is
told whether the number of the entry was seen before. -/
theorem Recorded.execute_newest (hs : s.Recorded) {number : Nat} {line : String}
    (hnewest : s.history.getLast? = some (number, line)) :
    (s.execute line true).shell.Synchronized ∧
      ∀ i, (s.execute line true).started = some i →
        s.Accepts line ∧ (i.repeated = true ↔ number ∈ s.dispatcher.seen) := by
  by_cases haccepts : s.Accepts line
  · obtain ⟨hseen, hrepeated⟩ := s.execute_accepted line true haccepts
    rw [hs.isRepeat_newest hnewest] at hseen hrepeated
    refine ⟨hs.synchronized_execute ?_ ?_, fun i hi => ⟨haccepts, ?_⟩⟩
    · -- What was seen is what was seen before, and the newest entry.
      intro n hn
      rw [hseen, List.mem_insert_iff] at hn
      rcases hn with rfl | hn
      · rw [History.nextNumber_of_newest hnewest]
        exact Nat.lt_succ_self _
      · exact hs.seen_lt n hn
    · intro n newest h _
      rw [hnewest] at h
      cases h
      rw [hseen]
      exact List.mem_insert_self
    · rw [hrepeated i hi]
      exact decide_eq_true_iff
  · -- Nothing was seen, but no command accepts the newest entry.
    obtain ⟨hseen, hstarted⟩ := s.execute_refused line true haccepts
    refine ⟨hs.synchronized_execute ?_ ?_, fun i hi => ?_⟩
    · rw [hseen]
      exact hs.seen_lt
    · intro n newest h haccepts'
      rw [hnewest] at h
      cases h
      exact absurd haccepts' haccepts
    · rw [hstarted] at hi
      cases hi

/-- Executing a line of a script leaves the shell synchronized. A body that it starts is told that
it is no repeat. -/
theorem Synchronized.execute_scripted (hs : s.Synchronized) (line : String) :
    (s.execute line false).shell.Synchronized ∧
      ∀ i, (s.execute line false).started = some i → i.repeated = false := by
  have hseen : (s.execute line false).shell.dispatcher.seen = s.dispatcher.seen ∧
      ∀ i, (s.execute line false).started = some i → i.repeated = false := by
    by_cases haccepts : s.Accepts line
    · have hjudged := s.execute_accepted line false haccepts
      rw [History.isRepeat_scripted] at hjudged
      exact hjudged
    · obtain ⟨hseen, hstarted⟩ := s.execute_refused line false haccepts
      refine ⟨hseen, fun i hi => ?_⟩
      rw [hstarted] at hi
      cases hi
  refine ⟨hs.toRecorded.synchronized_execute ?_ ?_, hseen.2⟩
  · rw [hseen.1]
    exact hs.seen_lt
  · rw [hseen.1]
    exact hs.newest_seen

/-! ## Taking a line -/

/-- A line that is recorded gets a number that was not seen. -/
theorem Recorded.record (hs : s.Recorded) {line : String} {history : History.Entries}
    (htrim : line.trimBlanks = line) (hrecord : History.record? s.history line = some history) :
    ({ s with history, lastLine := some line } : Shell).Recorded ∧
      history.getLast? = some (History.nextNumber s.history, line) ∧
      History.nextNumber s.history ∉ s.dispatcher.seen := by
  obtain ⟨hbound, rfl⟩ := (History.record?_eq_some_iff _ _ _).1 hrecord
  have hnewest : (s.history ++ [(History.nextNumber s.history, line)]).getLast? =
      some (History.nextNumber s.history, line) := List.getLast?_concat
  refine ⟨⟨?_, ?_, ?_, ?_⟩, hnewest, fun hseen => ?_⟩
  · dsimp only
    rw [hnewest]
    rfl
  · intro number newest h
    dsimp only at h
    rw [hnewest] at h
    cases h
    exact htrim
  · intro number newest h
    dsimp only at h
    rw [hnewest] at h
    cases h
    exact hbound
  · intro number hseen
    have hlt := hs.seen_lt number hseen
    have hnext := History.nextNumber_of_newest hnewest
    dsimp only
    omega
  · exact absurd (hs.seen_lt _ hseen) (Nat.lt_irrefl _)

/-- Taking a line that was typed leaves the shell synchronized. A body that it starts is told that
it is a repeat exactly if all of the line is blank. -/
theorem Synchronized.handleTyped (hs : s.Synchronized) (text : String) :
    (s.handleTyped text).shell.Synchronized ∧
      ∀ i, (s.handleTyped text).started = some i →
        (i.repeated = true ↔ text.toList.all Text.isBlank = true) := by
  rw [← String.trimBlanks_eq_empty_iff]
  unfold Shell.handleTyped
  dsimp only
  split
  · rename_i hblank
    split
    · -- The last line is executed again. Its number was seen, or else no body is started.
      rename_i last hlast
      rw [hs.lastLine_eq, Option.map_eq_some_iff] at hlast
      obtain ⟨⟨number, line⟩, hnewest, rfl⟩ := hlast
      obtain ⟨hafter, hstarted⟩ := hs.toRecorded.execute_newest hnewest
      refine ⟨hafter, fun i hi => ?_⟩
      obtain ⟨haccepts, hrepeated⟩ := hstarted i hi
      exact iff_of_true (hrepeated.2 (hs.newest_seen number line hnewest haccepts)) hblank
    · refine ⟨hs, fun i hi => ?_⟩
      cases hi
  · rename_i hblank
    split
    · refine ⟨hs, fun i hi => ?_⟩
      cases hi
    · -- The line is recorded first, under a number that was not seen.
      rename_i history hrecord
      obtain ⟨hrecorded, hnewest, hfresh⟩ :=
        hs.toRecorded.record (String.trimBlanks_trimBlanks text) hrecord
      obtain ⟨hafter, hstarted⟩ := hrecorded.execute_newest hnewest
      exact ⟨hafter, fun i hi => iff_of_false (mt (hstarted i hi).2.1 hfresh) hblank⟩

/-- Taking a line of a script leaves the shell synchronized. A body that it starts is told that it
is no repeat. -/
theorem Synchronized.handleScripted (hs : s.Synchronized) (text : String) :
    (s.handleScripted text).shell.Synchronized ∧
      ∀ i, (s.handleScripted text).started = some i → i.repeated = false := by
  unfold Shell.handleScripted
  dsimp only
  split
  · refine ⟨hs, fun i hi => ?_⟩
    cases hi
  · exact hs.execute_scripted text.trimBlanks

/-- Taking a line leaves the shell synchronized. A body that it starts is told that it is a repeat
exactly if the operator just pressed Enter. -/
theorem Synchronized.take (hs : s.Synchronized) (input : Input) :
    (s.take input).shell.Synchronized ∧
      ∀ i, (s.take input).started = some i → (i.repeated = true ↔ input.isBareEnter = true) := by
  cases input with
  | typed text => exact hs.handleTyped text
  | scripted text =>
    obtain ⟨hafter, hstarted⟩ := hs.handleScripted text
    refine ⟨hafter, fun i hi => iff_of_false ?_ Bool.false_ne_true⟩
    rw [hstarted i hi]
    exact Bool.false_ne_true

/-- The shell is synchronized after any sequence of lines if it was before. -/
theorem Synchronized.after (hs : s.Synchronized) (inputs : List Input) :
    (s.after inputs).Synchronized := by
  induction inputs generalizing s with
  | nil => exact hs
  | cons input rest ih => exact ih (hs.take input).1

/-- After any sequence of lines, a body that a line starts is told that it is a repeat exactly if
the operator just pressed Enter. A line of a script is never a repeat, and neither is a line that
was typed, though it be the same as the last one. -/
theorem repeated_iff_bare_enter {target : Target} {config : Config} {shell : Shell}
    (hstart : start target config = .ok shell) (before : List Input) (input : Input)
    (i : Invocation) (hstarted : ((shell.after before).take input).started = some i) :
    i.repeated = true ↔ input.isBareEnter = true :=
  (((synchronized_of_start hstart).after before).take input).2 i hstarted

/-- A target with a live process, on a debugger without commands of its own. -/
def liveTarget : Target :=
  { session := { processAlive := true }, builtins := some "" }

/-- After `nextcall` was typed on a live target, Enter runs it again, as a repeat. -/
theorem repeated_of_enter_after_nextcall : ∃ shell i, start liveTarget {} = .ok shell ∧
    ((shell.after [.typed "nextcall"]).take (.typed "")).started = some i ∧
    i.repeated = true := by
  have hrun : ((start liveTarget {}).toOption.bind fun shell =>
      ((shell.after [.typed "nextcall"]).take (.typed "")).started).isSome = true := by
    decide +kernel
  obtain ⟨i, hi⟩ := Option.isSome_iff_exists.1 hrun
  obtain ⟨shell, hshell, hstarted⟩ := Option.bind_eq_some_iff.1 hi
  have hstart : start liveTarget {} = .ok shell := by
    cases h : start liveTarget {} with
    | ok other =>
      rw [h] at hshell
      cases hshell
      rfl
    | error e =>
      rw [h] at hshell
      cases hshell
  exact ⟨shell, i, hstart, hstarted, (repeated_iff_bare_enter hstart _ _ i hstarted).2 rfl⟩

end Shell

end DebugShell
