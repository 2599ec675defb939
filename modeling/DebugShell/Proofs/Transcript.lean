import DebugShell.Console
import DebugShell.Proofs.TextLines
import Mathlib.Data.List.Forall2
import Mathlib.Logic.Function.Basic

/-!
# What a transcript keeps

A transcript keeps the messages that are told line by line, and is read in three ways: by searching
its lines, by severity, and as one text. `Transcript.Keeps` says that nothing gets lost on the way
and that the readers agree. The lines of a message say all of it but its line ends (`Stores`). Going
through the lines in order, each is the next one in the list of its severity and in no other
(`Dealt`). And what is found in a line is found in the text of all lines, which is joined by line
feeds, and the other way round.

A message adds its lines at the end (`Transcript.lines_emit`), so the transcript of several messages
is made of blocks of lines, one block for each message (`Transcript.lines_foldl_emit`).
-/

namespace DebugShell

/-! ## What is stated of a transcript -/

/-- A message is kept in these lines. -/
structure Stores (m : Message) (lines : List Message) : Prop where
  /-- There is a line at least. -/
  ne_nil : lines ≠ []
  /-- The lines are as serious as the message. -/
  severity : ∀ line ∈ lines, line.severity = m.severity
  /-- A line is one line. -/
  feed_not_mem : ∀ line ∈ lines, '\n' ∉ line.text.toList
  /-- Joined by line feeds, they are the message without the carriage returns in front of line feeds
  and without a line feed at the end. -/
  joined : (String.intercalate "\n" (lines.map (·.text))).toList =
    Text.withoutFinalFeed (Text.withoutReturns m.text.toList)

/-- Lines are dealt out by severity: each in turn is the next one in the list of its severity, and
is in no other list. -/
inductive Dealt : List Message → (Severity → List String) → Prop
  /-- Where no line is left, the lists end. -/
  | nil : Dealt [] fun _ => []
  /-- A line goes to the list of its severity, in front of those that come later. -/
  | cons (line : Message) {rest : List Message} {lists : Severity → List String}
    (h : Dealt rest lists) : Dealt (line :: rest)
      (Function.update lists line.severity (line.text :: lists line.severity))

/-- What a transcript keeps of the messages that were told. -/
structure Transcript.Keeps (messages : List Message) (t : Transcript) : Prop where
  /-- Its lines are those of the first message, then those of the second, and so on. -/
  blocks : ∃ blocks, List.Forall₂ Stores messages blocks ∧ t.lines = blocks.flatten
  /-- The lists by severity have each line once, in the order in which it was told. -/
  dealt : Dealt t.lines t.withSeverity
  /-- A text that is no more than one line is found in the lines exactly if the whole text contains
  it. -/
  contains_iff : ∀ needle : String, needle ≠ "" → '\n' ∉ needle.toList →
    (t.contains needle = true ↔ needle.toList <:+: t.text.toList)

/-! ## The lines of a message -/

/-- A message is kept in the lines that it is split into. -/
theorem stores_split (m : Message) : Stores m m.split := by
  by_cases hempty : m.text = ""
  · -- An empty message is one empty line, and none of its characters are lost.
    have hsplit : m.split = [m] := if_pos hempty
    rw [hsplit]
    exact {
      ne_nil := List.cons_ne_nil m []
      severity := List.forall_mem_singleton.2 rfl
      feed_not_mem := by
        rw [List.forall_mem_singleton, hempty]
        decide
      joined := by
        rw [List.map_singleton, hempty]
        decide }
  · have hsplit : m.split = m.text.textLines.map fun line => ⟨m.severity, line⟩ := if_neg hempty
    have htexts : m.split.map (·.text) = (Text.lines m.text.toList).map String.ofList := by
      rw [hsplit, List.map_map, String.textLines]
      exact List.map_id _
    refine ⟨fun hnil => ?_, fun line hline => ?_, fun line hline => ?_, ?_⟩
    · rw [hsplit, List.map_eq_nil_iff, String.textLines, List.map_eq_nil_iff,
        Text.lines_eq_nil_iff, String.toList_eq_nil_iff] at hnil
      exact hempty hnil
    · rw [hsplit] at hline
      obtain ⟨text, -, rfl⟩ := List.mem_map.1 hline
      rfl
    · have htext := List.mem_map_of_mem (f := Message.text) hline
      rw [htexts] at htext
      obtain ⟨cs, hcs, heq⟩ := List.mem_map.1 htext
      rw [← heq, String.toList_ofList]
      exact Text.feed_not_mem_lines _ cs hcs
    · have hfeed : "\n".toList = ['\n'] := rfl
      have hback : (Text.lines m.text.toList).map (String.toList ∘ String.ofList) =
          Text.lines m.text.toList := by
        simp [Function.comp_def]
      rw [htexts, String.toList_intercalate, List.map_map, hback, hfeed, Text.intercalate_lines]

/-! ## The lists by severity -/

/-- Lines are dealt out by picking those of each severity. -/
theorem dealt_filter (lines : List Message) :
    Dealt lines fun severity =>
      (lines.filter fun line => line.severity == severity).map (·.text) := by
  induction lines with
  | nil => exact .nil
  | cons line rest ih =>
    -- Putting the line in front of one list is picking it for that list and for no other.
    convert ih.cons line using 1
    funext severity
    by_cases hseverity : severity = line.severity
    · subst hseverity
      rw [Function.update_self, List.filter_cons_of_pos (by simp), List.map_cons]
    · rw [Function.update_of_ne hseverity,
        List.filter_cons_of_neg (by simpa using Ne.symm hseverity)]

/-! ## Searching -/

/-- A text occurs in another one exactly if it stands in it somewhere. -/
theorem Text.occursIn_iff (needle cs : List Char) : occursIn needle cs = true ↔ needle <:+: cs := by
  induction cs with
  | nil => rw [occursIn, beq_iff_eq, List.infix_nil]
  | cons c rest ih =>
    rw [occursIn, Bool.or_eq_true, ih, List.isPrefixOf_iff_prefix, List.infix_cons_iff]

namespace Transcript

/-- A text without line feeds is found in the lines exactly if it stands in the text of them all. -/
theorem contains_iff_infix_text (t : Transcript) {needle : String} (hne : needle ≠ "")
    (hfeed : '\n' ∉ needle.toList) :
    t.contains needle = true ↔ needle.toList <:+: t.text.toList := by
  have hne' : needle.toList ≠ [] := fun hnil => hne (String.toList_eq_nil_iff.1 hnil)
  have hjoint : "\n".toList = ['\n'] := rfl
  rw [text, String.toList_intercalate, hjoint, Text.infix_intercalate_iff hne' hfeed, contains,
    List.any_eq_true]
  simp only [Text.occursIn_iff, List.mem_map, exists_exists_and_eq_and]

/-! ## Messages one after another -/

/-- A message adds its lines at the end. -/
theorem lines_emit (t : Transcript) (m : Message) : (t.emit m).lines = t.lines ++ m.split := rfl

/-- The lines of several messages stand one block behind the other. -/
theorem lines_foldl_emit (messages : List Message) (t : Transcript) :
    (messages.foldl emit t).lines = t.lines ++ messages.flatMap Message.split := by
  induction messages generalizing t with
  | nil => rw [List.foldl_nil, List.flatMap_nil, List.append_nil]
  | cons m rest ih => rw [List.foldl_cons, ih, lines_emit, List.flatMap_cons, List.append_assoc]

/-- The transcript of any sequence of messages keeps all that they say, as lines that are told apart
by their severity, and searching the lines is searching the text. -/
theorem transcripts_keep_what_is_told (messages : List Message) :
    (ofMessages messages).Keeps messages where
  blocks := by
    refine ⟨messages.map Message.split, ?_, ?_⟩
    · rw [List.forall₂_map_right_iff, List.forall₂_same]
      exact fun m _ => stores_split m
    · rw [ofMessages, lines_foldl_emit, List.nil_append, List.flatMap_def]
  dealt := dealt_filter _
  contains_iff _ := contains_iff_infix_text _

end Transcript

end DebugShell
