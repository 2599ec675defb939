import DebugShell.Proofs.Lines

/-!
# The shell and the dispatcher read lines alike

A line is cut into a name and an argument in two places. The dispatcher cuts the trimmed line at its
first blank and takes the blanks off the start of what follows; the shell drops the first blank of
the trimmed line and takes the blanks off both ends of what is left. `LaidOut` says what both are
after, without any cutting: the line is the name and the argument, among blanks. Every line that is
not blank is laid out as the dispatcher cuts it (`laidOut_cutLine`), and the shell cuts the trimmed
line as it is laid out (`LaidOut.cutAtBlank_eq`). So both cut alike, and executing a trimmed line,
if it is none for the shell itself, is invoking the line as it was given
(`Shell.execute_trimBlanks`).
-/

namespace DebugShell

/-- The line is a name and an argument, among blanks. -/
structure LaidOut (line name argument : String) : Prop where
  /-- There are blanks before the name, between the two, and after the argument; if there is no
  blank between them, there is no argument. -/
  spread : ∃ before gap after : List Char,
    line.toList = before ++ (name.toList ++ (gap ++ (argument.toList ++ after))) ∧
      (∀ c ∈ before ++ (gap ++ after), Text.isBlank c = true) ∧ (gap = [] → argument = "")
  /-- The name is not empty. -/
  name_ne : name ≠ ""
  /-- The name has no blanks in it. -/
  name_word : ∀ c ∈ name.toList, Text.isBlank c = false
  /-- The argument has no blanks around it. -/
  argument_trimmed : argument.trimBlanks = argument

/-! ## The shell cuts a line as it is laid out -/

namespace LaidOut

variable {line name argument : String}

/-- The argument has no blanks at its start and none at its end. -/
theorem argument_ends (h : LaidOut line name argument) :
    Text.trimStart argument.toList = argument.toList ∧
      Text.trimEnd argument.toList = argument.toList := by
  refine Text.trimStart_and_trimEnd_of_trim ?_
  rw [← String.toList_trimBlanks, h.argument_trimmed]

/-- Trimming the line leaves the name, and the argument after blanks. -/
theorem trim_line (h : LaidOut line name argument) : ∃ gap : List Char,
    Text.trim line.toList = name.toList ++ (gap ++ argument.toList) ∧
      (∀ c ∈ gap, Text.isBlank c = true) ∧ (gap = [] → argument = "") := by
  obtain ⟨before, gap, after, hline, hblank, hgap⟩ := h.spread
  simp only [List.forall_mem_append] at hblank
  obtain ⟨hbefore, hgapBlank, hafter⟩ := hblank
  have hstart : Text.trimStart line.toList =
      name.toList ++ (gap ++ (argument.toList ++ after)) := by
    rw [hline, Text.trimStart_append_of_blank hbefore]
    cases hcs : name.toList with
    | nil => exact absurd (String.toList_eq_nil_iff.1 hcs) h.name_ne
    | cons c rest =>
      exact Text.trimStart_cons_of_not_blank (h.name_word c (hcs ▸ List.mem_cons_self)) _
  by_cases hempty : argument = ""
  · -- All that follows the name is blank.
    subst hempty
    refine ⟨[], ?_, nofun, fun _ => rfl⟩
    have hname := (Text.trimStart_and_trimEnd_of_trim (Text.trim_of_not_blank h.name_word)).2
    have hrest : ∀ c ∈ gap ++ after, Text.isBlank c = true :=
      List.forall_mem_append.2 ⟨hgapBlank, hafter⟩
    rw [Text.trim, hstart, String.toList_empty, List.nil_append, List.append_nil, List.append_nil,
      Text.trimEnd_append_of_blank hrest, hname]
  · -- The argument ends in something that stays.
    refine ⟨gap, ?_, hgapBlank, hgap⟩
    have hne : argument.toList ≠ [] := fun hnil => hempty (String.toList_eq_nil_iff.1 hnil)
    rw [Text.trim, hstart]
    simp only [← List.append_assoc]
    rw [Text.trimEnd_append_of_blank hafter, Text.trimEnd_append_of_ne_nil hne h.argument_ends.2]

/-- The first word of the trimmed line is the name, and the argument follows it after blanks. -/
theorem firstWord_eq (h : LaidOut line name argument) : ∃ gap : List Char,
    Text.firstWord (Text.trim line.toList) = name.toList ∧
      Text.afterFirstWord (Text.trim line.toList) = gap ++ argument.toList ∧
      (∀ c ∈ gap, Text.isBlank c = true) ∧ (gap = [] → argument = "") := by
  obtain ⟨gap, htrim, hblank, hgap⟩ := h.trim_line
  -- Whatever follows the name starts with a blank, for without a gap nothing follows.
  have hrest : ∀ c others, gap ++ argument.toList = c :: others → Text.isBlank c = true := by
    intro c others heq
    cases gap with
    | nil =>
      rw [hgap rfl] at heq
      cases heq
    | cons first rest =>
      cases heq
      exact hblank _ List.mem_cons_self
  obtain ⟨hfirst, hafter⟩ := Text.firstWord_append h.name_word hrest
  rw [← htrim] at hfirst hafter
  exact ⟨gap, hfirst, hafter, hblank, hgap⟩

/-- The shell cuts the trimmed line into the name and the argument. -/
theorem cutAtBlank_eq (h : LaidOut line name argument) :
    Shell.cutAtBlank line.trimBlanks = (name, argument) := by
  obtain ⟨gap, hfirst, hafter, hblank, hgap⟩ := h.firstWord_eq
  obtain ⟨hstart, hend⟩ := h.argument_ends
  -- The first blank of the gap is dropped as such, and the others go as the rest is trimmed.
  have htail : Text.trim (gap ++ argument.toList).tail = argument.toList := by
    cases gap with
    | nil =>
      rw [hgap rfl]
      rfl
    | cons first rest =>
      rw [List.cons_append, List.tail_cons, Text.trim, Text.trimStart_append_of_blank
        fun c hc => hblank c (List.mem_cons_of_mem first hc), hstart, hend]
  unfold Shell.cutAtBlank
  dsimp only
  rw [String.toList_trimBlanks, hfirst, hafter, htail, String.ofList_toList, String.ofList_toList]

end LaidOut

/-! ## Every line has a layout -/

/-- A line that is not blank is laid out as the dispatcher cuts it. -/
theorem laidOut_cutLine {line : String} (h : line.trimBlanks ≠ "") :
    LaidOut line (Dispatcher.cutLine line).1 (Dispatcher.cutLine line).2 := by
  have hne : Text.trim line.toList ≠ [] := by
    rwa [← String.toList_trimBlanks, Ne, String.toList_eq_nil_iff]
  have hword := Text.firstWord_trim_ne_nil hne
  have hend := Text.trimEnd_trim line.toList
  obtain ⟨before, after, hline, hbefore, hafter⟩ := Text.exists_blanks_trim line.toList
  unfold Dispatcher.cutLine
  dsimp only
  generalize Text.trim line.toList = cs at *
  -- After the first word there are blanks, and then the argument.
  obtain ⟨gap, hgap, hsplit⟩ : ∃ gap, (∀ c ∈ gap, Text.isBlank c = true) ∧
      Text.afterFirstWord cs = gap ++ Text.trimStart (Text.afterFirstWord cs) :=
    ⟨_, fun c hc => List.mem_takeWhile_imp hc, List.takeWhile_append_dropWhile.symm⟩
  refine ⟨⟨before, gap, after, ?_, ?_, ?_⟩, ?_, ?_, ?_⟩
  · simp only [String.toList_ofList]
    rw [← List.append_assoc gap, ← hsplit, ← List.append_assoc (Text.firstWord cs),
      Text.firstWord_append_afterFirstWord]
    exact hline
  · exact List.forall_mem_append.2 ⟨hbefore, List.forall_mem_append.2 ⟨hgap, hafter⟩⟩
  · -- What follows the first word starts with a blank, so it is in the gap if there is anything.
    rintro rfl
    cases hafter : Text.afterFirstWord cs with
    | nil => rfl
    | cons c rest =>
      have hc := Text.isBlank_of_afterFirstWord hafter
      rw [hafter, List.nil_append] at hsplit
      rw [(Text.trimStart_eq_self_iff _).1 hsplit.symm c rest rfl] at hc
      cases hc
  · rwa [Ne, ← String.toList_eq_nil_iff, String.toList_ofList]
  · intro c hc
    rw [String.toList_ofList] at hc
    simpa using List.mem_takeWhile_imp hc
  · have hsuffix : Text.trimStart (Text.afterFirstWord cs) <:+ cs :=
      (Text.trimStart_suffix _).trans (Text.afterFirstWord_suffix cs)
    have hstart : Text.trimStart (Text.trimStart (Text.afterFirstWord cs)) =
        Text.trimStart (Text.afterFirstWord cs) := List.dropWhile_idempotent Text.isBlank _
    rw [String.trimBlanks, String.toList_ofList, Text.trim, hstart,
      Text.trimEnd_of_suffix hsuffix hend]

/-- Both cut a line alike. -/
theorem cutAtBlank_trimBlanks {line : String} (h : line.trimBlanks ≠ "") :
    Shell.cutAtBlank line.trimBlanks = Dispatcher.cutLine line :=
  (laidOut_cutLine h).cutAtBlank_eq

namespace Shell

/-! ## Lines that are invocations -/

variable (s : Shell)

/-- Executing a trimmed line that is none for the shell itself is invoking the line. -/
theorem execute_trimBlanks {text : String} (interactive : Bool) (hblank : text.trimBlanks ≠ "")
    (hown : (cutAtBlank text.trimBlanks).1 ∉ ownCommands) :
    s.execute text.trimBlanks interactive =
      s.replyTo (s.dispatcher.invokeLine s.host text interactive) := by
  rw [s.execute_eq_replyTo _ interactive hown, cutAtBlank_trimBlanks hblank,
    s.dispatcher.invokeLine_of_word s.host interactive (laidOut_cutLine hblank).name_ne]

/-- Record a line that was typed, and go on from there. A history that has used up its numbers
fails, and leaves the shell as it is. -/
def recording (line : String) (next : Shell → Reply) : Reply :=
  match History.record? s.history line with
  | none => { shell := s, result := .error numberOverflow }
  | some history => next { s with history, lastLine := some line }

/-- For every line that is not blank, and whose first word is no command of the shell itself, a
script that has the line invokes it, unless it is a comment; and typing it is recording the trimmed
line and then invoking the line that was typed. -/
theorem lines_are_invocations (text : String) (hblank : text.trimBlanks ≠ "")
    (hown : String.ofList (Text.firstWord text.trimBlanks.toList) ∉ ownCommands) :
    (text.trimBlanks.toList.head? ≠ some '#' → s.handleScripted text =
      s.replyTo (s.dispatcher.invokeLine s.host text false)) ∧
    s.handleTyped text = s.recording text.trimBlanks fun recorded =>
      recorded.replyTo (recorded.dispatcher.invokeLine recorded.host text true) := by
  constructor
  · intro hcomment
    have hidle : isIdle text.trimBlanks = false := by
      rw [isIdle, Bool.or_eq_false_iff]
      exact ⟨beq_eq_false_iff_ne.2 hblank, beq_eq_false_iff_ne.2 hcomment⟩
    unfold handleScripted
    dsimp only
    rw [hidle, if_neg Bool.false_ne_true]
    exact s.execute_trimBlanks false hblank hown
  · unfold handleTyped recording
    dsimp only
    rw [if_neg hblank]
    cases History.record? s.history text.trimBlanks with
    | none => rfl
    | some history => exact execute_trimBlanks _ true hblank hown

/-- A shell that knows the command `distance`, also called `dist`. -/
def measuringShell : Shell :=
  { target := {}, dispatcher :=
      { registry := Registry.afterRegisters {} [distance], memory := 0 } }

/-- A line with an ideographic space before the name, an em space and a no-break space before the
argument, and a line separator after it. -/
def wideLine : String :=
  "\u3000dist\u2003\u00a01 2\u2028"

/-- In a script the line invokes `dist` with two addresses; and typing it records it without the
blanks around it. -/
theorem wide_blanks_separate :
    measuringShell.handleScripted wideLine = measuringShell.replyTo
      (measuringShell.dispatcher.invoke measuringShell.host "dist" "1 2" false) ∧
    (measuringShell.handleTyped wideLine).shell.history = [(1, "dist\u2003\u00a01 2")] := by
  have hcut : Dispatcher.cutLine wideLine = ("dist", "1 2") := by decide
  have hword : (Dispatcher.cutLine wideLine).1 ≠ "" := by decide
  obtain ⟨hscripted, htyped⟩ :=
    measuringShell.lines_are_invocations wideLine (by decide) (by decide)
  constructor
  · rw [hscripted (by decide), Dispatcher.invokeLine_of_word _ _ _ hword, hcut]
  · rw [htyped]
    rfl

end Shell

end DebugShell
