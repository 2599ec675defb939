import DebugShell.Proofs.Layout
import DebugShell.Proofs.Roles

/-!
# Blanks at the end of a line

A line is trimmed before it is cut into a name and an argument, and only the argument is cut into
words with regard to quotes and backslashes. If there are none of these in the name, that comes to
cutting the whole trimmed line into words and leaving out the first (`tail_words_trim`), for the
name is cut off alike in both ways (`words_append_of_word`).

Cutting the line as it was given need not come to the same. A blank at its end is content if it is
escaped or if a quote is open, and trimming takes it away all the same. No other line makes a
difference (`tail_words_trim_iff`): elsewhere a blank at the end only separates, and takes nothing
with it.
-/

namespace DebugShell

namespace Text

/-! ## The first word -/

/-- Quotes and backslashes are what it takes to leave the place outside of quotes. -/
theorem IsUnquoted.after_outside {cs : List Char} (h : IsUnquoted cs) :
    Place.outside.after cs = .outside := by
  induction cs with
  | nil => rfl
  | cons c rest ih =>
    obtain ⟨hc, hrest⟩ := List.forall_mem_cons.1 h
    have hread : (Place.outside.read c).2 = .outside := by
      rw [Place.read, if_neg (by tauto), if_neg (by tauto), if_neg (by tauto)]
      split <;> rfl
    rw [Place.after, List.foldl_cons, hread]
    exact ih hrest

/-- A text without quotes, backslashes and blanks is one word. -/
theorem words_of_word {name : List Char} (hunquoted : IsUnquoted name)
    (hword : ∀ c ∈ name, isBlank c = false) (hne : name ≠ []) : words name = [name] := by
  have hpart : name.splitOnP isBlank = [name] :=
    List.splitOnP_eq_singleton hword
  rw [words_of_unquoted hunquoted, hpart]
  exact List.filter_cons_of_pos (decide_eq_true hne)

/-- Blanks before a text make no difference to its words. -/
theorem words_trimStart (cs : List Char) : words (trimStart cs) = words cs := by
  obtain ⟨blanks, hcs, hblank⟩ : ∃ blanks, cs = blanks ++ trimStart cs ∧
      ∀ c ∈ blanks, isBlank c = true :=
    ⟨_, List.takeWhile_append_dropWhile.symm, fun c hc => List.mem_takeWhile_imp hc⟩
  conv_rhs => rw [hcs]
  exact (wordsFrom_blanks hblank (trimStart cs)).symm

/-- The first word of a text is cut off as it is, if it has no quotes and no backslashes in it. -/
theorem words_append_of_word {name rest : List Char} (hunquoted : IsUnquoted name)
    (hword : ∀ c ∈ name, isBlank c = false) (hne : name ≠ [])
    (hrest : ∀ c others, rest = c :: others → isBlank c = true) :
    words (name ++ rest) = name :: words rest := by
  cases rest with
  | nil =>
    rw [List.append_nil]
    exact words_of_word hunquoted hword hne
  | cons c others =>
    have hgap : ∀ d ∈ [c], isBlank d = true :=
      List.forall_mem_singleton.2 (hrest c others rfl)
    calc words (name ++ c :: others) = words name ++ words others :=
          words_append_gap hunquoted.after_outside (List.cons_ne_nil c []) hgap others
      _ = name :: words others := by rw [words_of_word hunquoted hword hne]; rfl
      _ = name :: words (c :: others) := congrArg _ (wordsFrom_blanks hgap others).symm

/-- The words of a text that is not blank are its first word, if there are no quotes and no
backslashes in that, and the words of what follows it; also when there are blanks at its end. -/
theorem words_trim_append {line : List Char} (hunquoted : IsUnquoted (firstWord (trim line)))
    (hne : trim line ≠ []) {blanks : List Char} (hblanks : ∀ c ∈ blanks, isBlank c = true) :
    words (trim line ++ blanks) =
      firstWord (trim line) :: words (afterFirstWord (trim line) ++ blanks) := by
  have hword : ∀ c ∈ firstWord (trim line), isBlank c = false := fun c hc => by
    simpa using List.mem_takeWhile_imp hc
  have hrest : ∀ c others, afterFirstWord (trim line) ++ blanks = c :: others →
      isBlank c = true := by
    intro c others heq
    cases hafter : afterFirstWord (trim line) with
    | nil =>
      rw [hafter, List.nil_append] at heq
      exact hblanks c (heq ▸ List.mem_cons_self)
    | cons d rest =>
      rw [hafter] at heq
      cases heq
      exact isBlank_of_afterFirstWord hafter
  have hcut := words_append_of_word hunquoted hword (firstWord_trim_ne_nil hne) hrest
  rwa [← List.append_assoc, firstWord_append_afterFirstWord] at hcut

/-- The words after the first of a trimmed line are those of what follows its first word. -/
theorem tail_words_trim {line : List Char} (hunquoted : IsUnquoted (firstWord (trim line))) :
    (words (trim line)).tail = words (trimStart (afterFirstWord (trim line))) := by
  rw [words_trimStart]
  by_cases hne : trim line = []
  · rw [hne]
    rfl
  · have hcut := words_trim_append hunquoted hne (List.forall_mem_nil _)
    rw [List.append_nil, List.append_nil] at hcut
    rw [hcut, List.tail_cons]

/-! ## What trimming takes away -/

/-- A text that is not blank has blanks taken off its end exactly if there are any. -/
theorem trimEnd_eq_self_iff_of_trim {line before after : List Char}
    (hline : line = before ++ (trim line ++ after)) (hne : trim line ≠ [])
    (hafter : ∀ c ∈ after, isBlank c = true) : trimEnd line = line ↔ after = [] := by
  have hend : trimEnd line = before ++ trim line := by
    conv_lhs => rw [hline, ← List.append_assoc]
    rw [trimEnd_append_of_blank hafter, trimEnd_append_of_ne_nil hne (trimEnd_trim line)]
  calc trimEnd line = line
      ↔ before ++ trim line = before ++ (trim line ++ after) := by rw [hend, ← hline]
    _ ↔ after = [] := by rw [List.append_cancel_left_eq, List.self_eq_append_right]

/-- Trimming leaves the words after the first as they are exactly if the trimmed line ends outside
of quotes and not behind a backslash, or there are no blanks at the end. -/
theorem tail_words_trim_iff {line : List Char} (hunquoted : IsUnquoted (firstWord (trim line))) :
    (words (trim line)).tail = (words line).tail ↔
      Place.outside.after (trim line) = .outside ∨ trimEnd line = line := by
  obtain ⟨before, after, hline, hbefore, hafter⟩ := exists_blanks_trim line
  have hwords : words line = words (trim line ++ after) := by
    conv_lhs => rw [hline]
    exact wordsFrom_blanks hbefore _
  by_cases hne : trim line = []
  · -- A line that is blank has no words in either case.
    rw [hwords, hne, List.nil_append, ← List.append_nil after]
    exact iff_of_true (congrArg List.tail (wordsFrom_blanks hafter []).symm) (.inl rfl)
  · have hcut := words_trim_append hunquoted hne (List.forall_mem_nil _)
    have hcut' := words_trim_append hunquoted hne hafter
    rw [List.append_nil, List.append_nil] at hcut
    -- The first word is the same, so the others are if and only if all are.
    have htail : (words (trim line)).tail = (words line).tail ↔
        words (trim line ++ after) = words (trim line) := by
      rw [hwords, hcut, hcut', List.tail_cons, List.tail_cons, List.cons_inj_right, eq_comm]
    rw [htail, words_append_blanks_iff _ hafter, trimEnd_eq_self_iff_of_trim hline hne hafter]

end Text

/-! ## What is handed on of a line -/

/-- `HandsOn line words`: the argument that a line hands on to the command that it names is cut into
the words. -/
structure HandsOn (line : String) (words : List String) : Prop where
  /-- The argument is cut into the words. -/
  words_eq : (Dispatcher.cutLine line).2.argumentWords = words
  /-- If the line is not blank, the dispatcher invokes a command with that argument. -/
  invoked : line.trimBlanks ≠ "" → ∀ {σ : Type} (d : Dispatcher σ) (host : Host)
    (interactive : Bool), d.invokeLine host line interactive =
      d.invoke host (Dispatcher.cutLine line).1 (Dispatcher.cutLine line).2 interactive
  /-- So does the shell that executes the trimmed line, unless it names a command of the shell. -/
  executed : line.trimBlanks ≠ "" → (Dispatcher.cutLine line).1 ∉ Shell.ownCommands →
    ∀ (s : Shell) (interactive : Bool), s.execute line.trimBlanks interactive =
      s.replyTo (s.dispatcher.invoke s.host (Dispatcher.cutLine line).1
        (Dispatcher.cutLine line).2 interactive)

/-- What a line hands on is determined by the words of its argument. -/
theorem handsOn_iff (line : String) (words : List String) :
    HandsOn line words ↔ (Dispatcher.cutLine line).2.argumentWords = words := by
  refine ⟨HandsOn.words_eq, fun h => ⟨h, ?_, ?_⟩⟩
  · intro hblank σ d host interactive
    exact d.invokeLine_of_word host interactive (laidOut_cutLine hblank).name_ne
  · intro hblank hown s interactive
    rw [← cutAtBlank_trimBlanks hblank] at hown
    rw [s.execute_trimBlanks interactive hblank hown,
      s.dispatcher.invokeLine_of_word s.host interactive (laidOut_cutLine hblank).name_ne]

/-- A line without quotes and backslashes in its first word hands on the words of the trimmed line
without the first. These are the words of the line itself without the first exactly if the trimmed
line ends outside of quotes and not behind a backslash, or there are no blanks at the end of the
line. -/
theorem trimmed_words_are_handed_on (line : String)
    (hunquoted : Text.IsUnquoted (Text.firstWord line.trimBlanks.toList)) :
    HandsOn line line.trimBlanks.argumentWords.tail ∧
      (HandsOn line line.argumentWords.tail ↔
        line.trimBlanks.EndsOutside ∨ line.trimBlanksEnd = line) := by
  rw [String.toList_trimBlanks] at hunquoted
  have hcut : (Dispatcher.cutLine line).2.argumentWords =
      (Text.words (Text.trim line.toList)).tail.map String.ofList := by
    rw [Text.tail_words_trim hunquoted, Dispatcher.cutLine, String.argumentWords,
      String.toList_ofList]
  have htrimmed : line.trimBlanks.argumentWords.tail =
      (Text.words (Text.trim line.toList)).tail.map String.ofList := by
    rw [String.argumentWords, String.toList_trimBlanks, List.map_tail]
  have hwhole : line.argumentWords.tail = (Text.words line.toList).tail.map String.ofList := by
    rw [String.argumentWords, List.map_tail]
  constructor
  · rw [handsOn_iff, hcut, htrimmed]
  · have hinj : Function.Injective (List.map String.ofList) :=
      List.map_injective_iff.2 fun _ _ => String.ofList_injective
    have hend : line.trimBlanksEnd = line ↔ Text.trimEnd line.toList = line.toList := by
      rw [← String.toList_inj, String.trimBlanksEnd, String.toList_ofList]
    rw [handsOn_iff, hcut, hwhole, hinj.eq_iff, Text.tail_words_trim_iff hunquoted, hend,
      String.EndsOutside, String.toList_trimBlanks]

/-- A line that ends in a space and a tab. -/
def spacedLine : String :=
  "say 'a b' c\\ d \t"

/-- A line that ends in an escaped space. -/
def escapedLine : String :=
  "say a\\ "

/-- The first line hands on its words, the other a word without the space that belongs to it. -/
theorem words_of_lines_that_end_in_blanks :
    HandsOn spacedLine ["a b", "c d"] ∧ HandsOn escapedLine ["a"] ∧
      ¬HandsOn escapedLine escapedLine.argumentWords.tail := by
  obtain ⟨-, hspaced⟩ := trimmed_words_are_handed_on spacedLine (by decide)
  obtain ⟨hhanded, hescaped⟩ := trimmed_words_are_handed_on escapedLine (by decide)
  have hends : spacedLine.trimBlanks.EndsOutside := by decide
  have hopen : ¬(escapedLine.trimBlanks.EndsOutside ∨ escapedLine.trimBlanksEnd = escapedLine) := by
    decide
  have hwords : spacedLine.argumentWords.tail = ["a b", "c d"] := by decide +kernel
  have hword : escapedLine.trimBlanks.argumentWords.tail = ["a"] := by decide +kernel
  rw [hwords] at hspaced
  rw [hword] at hhanded
  exact ⟨hspaced.2 (.inl hends), hhanded, fun h => hopen (hescaped.1 h)⟩

/-- Trimming can change the words that a line hands on, even if there are no quotes and no
backslashes in its first word. -/
theorem escaped_blank_at_the_end_is_lost :
    Text.IsUnquoted (Text.firstWord escapedLine.trimBlanks.toList) ∧
      escapedLine.argumentWords.tail = ["a "] ∧
      ¬HandsOn escapedLine escapedLine.argumentWords.tail := by
  have hwords : escapedLine.argumentWords.tail = ["a "] := by decide +kernel
  refine ⟨by decide, hwords, fun h => ?_⟩
  have hhanded : (Dispatcher.cutLine escapedLine).2.argumentWords = ["a"] := by decide +kernel
  have heq := hhanded.symm.trans (h.words_eq.trans hwords)
  exact absurd heq (by decide)

end DebugShell
