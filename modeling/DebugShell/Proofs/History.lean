import DebugShell.History
import DebugShell.Proofs.Blank
import DebugShell.Proofs.Numeral

/-!
# The history as it is read back

A host shows its newest entry as a line, and the entry is read from that line again. The number and
the text come back as they were recorded, but for blanks around the text (`parseLine?_line`). So
whether an invocation is a repeat depends on the newest entry alone: its number must have been seen,
and its text must end with the argument (`isRepeat_tail`). A new entry has a number above all
others, which therefore was not seen before. Commands that are recorded one after another are
numbered from one on without a gap (`recordAll?_eq`), so that the k-th of them is read back under
the number k (`recorded_entries_are_read_back`).
-/

namespace DebugShell.History

/-! ## Lines -/

/-- The characters of the line that shows an entry: blanks, the digits of the number, two more
blanks, and the text. -/
theorem toList_line (number : Nat) (text : String) :
    (line number text).toList =
      List.replicate (5 - (Nat.toDigits 10 number).length) ' ' ++
        (Nat.toDigits 10 number ++ (' ' :: ' ' :: text.toList)) := by
  have hnumber : (toString number).toList = Nat.toDigits 10 number := by
    rw [Nat.toString_eq_ofList_toDigits, String.toList_ofList]
  have hgap : "  ".toList = [' ', ' '] := rfl
  unfold line
  rw [String.toList_append, String.toList_append, String.toList_ofList, hnumber, hgap,
    Text.padLeft, Text.padLeftWith]
  simp only [List.append_assoc, List.cons_append, List.nil_append]

/-- `Shows line number command`: the line holds the number, perhaps after blanks, then a blank, and
then the command, perhaps among blanks. -/
def Shows (line : String) (number : Nat) (command : String) : Prop :=
  ∃ blanks digits gap rest, line.toList = blanks ++ (digits ++ gap :: rest) ∧
    (∀ c ∈ blanks, Text.isBlank c = true) ∧ Numeral.Denotes 10 numberBound digits number ∧
    Text.isBlank gap = true ∧ command = (String.ofList rest).trimBlanks

/-- A number and a command are read from a line exactly if it shows them. -/
theorem parseLine?_eq_some_iff (line : String) (number : Nat) (command : String) :
    parseLine? line = some (number, command) ↔ Shows line number command := by
  unfold parseLine?
  dsimp only
  constructor
  · intro h
    split at h
    · cases h
    · rename_i hempty
      rw [Option.map_eq_some_iff] at h
      obtain ⟨n, hread, hentry⟩ := h
      cases hentry
      rw [Numeral.unsigned?_eq_some_iff (by decide)] at hread
      -- What follows the first word starts with the blank that ends it.
      cases hafter : Text.afterFirstWord (Text.trimStart line.toList) with
      | nil => exact absurd hafter hempty
      | cons gap rest =>
        have hgap := Text.isBlank_of_afterFirstWord hafter
        refine ⟨line.toList.takeWhile Text.isBlank, _, gap, rest, ?_,
          fun c hc => List.mem_takeWhile_imp hc, hread, hgap, ?_⟩
        · rw [← hafter, Text.firstWord_append_afterFirstWord]
          exact List.takeWhile_append_dropWhile.symm
        · rw [Text.trim_cons_of_blank hgap, String.trimBlanks, String.toList_ofList]
  · rintro ⟨blanks, digits, gap, rest, hline, hblanks, hdigits, hgap, rfl⟩
    obtain ⟨hne, hword⟩ := hdigits.isWord (by decide)
    have hstart : Text.trimStart line.toList = digits ++ gap :: rest := by
      rw [hline, Text.trimStart_append_of_blank hblanks]
      cases digits with
      | nil => exact absurd rfl hne
      | cons c others =>
        exact Text.trimStart_cons_of_not_blank (hword c List.mem_cons_self) _
    have hgap' : ∀ c others, gap :: rest = c :: others → Text.isBlank c = true := by
      rintro c others heq
      cases heq
      exact hgap
    obtain ⟨hfirst, hafter⟩ := Text.firstWord_append hword hgap'
    rw [hstart, hafter, hfirst, (Numeral.unsigned?_eq_some_iff (by decide) _ _ _).2 hdigits]
    dsimp only [Option.map_some]
    rw [Text.trim_cons_of_blank hgap, String.trimBlanks, String.toList_ofList]

/-- The line of an entry shows its number, and its text without the blanks around it. -/
theorem shows_line {number : Nat} (h : number < numberBound) (text : String) :
    Shows (line number text) number text.trimBlanks := by
  have hdigits : Numeral.Denotes 10 numberBound (Nat.toDigits 10 number) number :=
    (Numeral.unsigned?_eq_some_iff (by decide) _ _ _).1
      (Numeral.unsigned?_toDigits (by decide) (by decide) h)
  refine ⟨_, _, ' ', ' ' :: text.toList, toList_line number text, ?_, hdigits, rfl, ?_⟩
  · intro c hc
    rw [List.eq_of_mem_replicate hc]
    rfl
  · rw [String.trimBlanks, String.trimBlanks, String.toList_ofList,
      Text.trim_cons_of_blank rfl]

/-- An entry is read back from its line, without the blanks around its text. -/
theorem parseLine?_line {number : Nat} (h : number < numberBound) (text : String) :
    parseLine? (line number text) = some (number, text.trimBlanks) :=
  (parseLine?_eq_some_iff _ _ _).2 (shows_line h text)

/-! ## Recording -/

/-- The next number is one more than that of the newest entry. -/
theorem nextNumber_of_newest {entries : Entries} {number : Nat} {text : String}
    (h : entries.getLast? = some (number, text)) : nextNumber entries = number + 1 := by
  rw [nextNumber, h]
  rfl

/-- A command is recorded under the next number if that one is below the bound. -/
theorem record?_eq_some_iff (entries recorded : Entries) (text : String) :
    record? entries text = some recorded ↔
      nextNumber entries < numberBound ∧ recorded = entries ++ [(nextNumber entries, text)] := by
  unfold record?
  split
  · rename_i hlt
    rw [Option.some.injEq]
    exact ⟨fun h => ⟨hlt, h.symm⟩, fun h => h.2.symm⟩
  · rename_i hge
    constructor
    · intro h
      cases h
    · intro h
      exact absurd h.1 hge

/-! ## Recording one command after another -/

/-- The history after commands have been recorded one after another, from the first on, as long as
there is a number for each. -/
def recordAll? (commands : List String) : Option Entries :=
  commands.foldlM record? []

/-- The entries of commands that are numbered from one on. -/
def numbered (commands : List String) : Entries :=
  commands.mapIdx fun k command => (k + 1, command)

/-- One more command is recorded after the others. -/
theorem recordAll?_concat (commands : List String) (last : String) :
    recordAll? (commands ++ [last]) = (recordAll? commands).bind fun entries =>
      record? entries last := by
  unfold recordAll?
  rw [List.foldlM_append]
  simp only [List.foldlM_cons, List.foldlM_nil, bind_pure]
  rfl

/-- One more command gets the next number. -/
theorem numbered_concat (commands : List String) (last : String) :
    numbered (commands ++ [last]) = numbered commands ++ [(commands.length + 1, last)] := by
  unfold numbered
  rw [List.mapIdx_concat]

/-- The number after those of numbered commands. -/
theorem nextNumber_numbered (commands : List String) :
    nextNumber (numbered commands) = commands.length + 1 := by
  -- By the last command, which has the newest number.
  cases commands using List.reverseRecOn with
  | nil => rfl
  | append_singleton before last =>
    have hnewest : (numbered (before ++ [last])).getLast? = some (before.length + 1, last) := by
      rw [numbered_concat]
      exact List.getLast?_concat
    rw [nextNumber_of_newest hnewest, List.length_append, List.length_singleton]

/-- Commands that are recorded one after another are numbered from one on, and all of them can be
recorded exactly if the number of the last is below the bound. -/
theorem recordAll?_eq (commands : List String) : recordAll? commands =
    if commands.length < numberBound then some (numbered commands) else none := by
  induction commands using List.reverseRecOn with
  | nil => rfl
  | append_singleton before last ih =>
    rw [recordAll?_concat, ih, List.length_append, List.length_singleton]
    by_cases hbefore : before.length < numberBound
    · rw [if_pos hbefore, Option.bind_some, record?, nextNumber_numbered, numbered_concat]
    · -- There was none left for an earlier command.
      have hlast : ¬before.length + 1 < numberBound := by omega
      rw [if_neg hbefore, if_neg hlast, Option.bind_none]

/-! ## Repeats -/

/-- What nobody typed is no repeat and leaves nothing behind. -/
theorem isRepeat_scripted (seen : Seen) (tail : Option String) (argument : String) :
    isRepeat seen tail argument false = (false, seen) := rfl

/-- What was seen before was seen afterwards, and so was the number on the line that shows the
newest entry, if the invocation was typed and the line can be read. Nothing else was. -/
theorem mem_isRepeat_iff (seen : Seen) (tail : Option String) (argument : String)
    (interactive : Bool) (number : Nat) :
    number ∈ (isRepeat seen tail argument interactive).2 ↔
      number ∈ seen ∨ interactive = true ∧ ∃ text, tail.bind parseLine? = some (number, text) := by
  cases interactive with
  | false => simp [isRepeat_scripted]
  | true =>
    unfold isRepeat
    rw [if_pos rfl]
    cases hread : tail.bind parseLine? with
    | none => simp
    | some entry =>
      obtain ⟨newest, command⟩ := entry
      dsimp only
      split
      · -- The newest entry was seen before, so it adds nothing.
        rename_i hseen
        simp only [Option.some.injEq, Prod.mk.injEq, true_and, exists_and_left, exists_eq',
          and_true]
        exact ⟨.inl, fun h => h.elim id fun h => h ▸ hseen⟩
      · simp only [List.mem_cons, Option.some.injEq, Prod.mk.injEq, true_and, exists_and_left,
          exists_eq', and_true]
        rw [or_comm, eq_comm]

/-- A typed invocation is a repeat exactly if the newest entry was seen before and its text ends
with the argument. Afterwards the newest entry was seen. -/
theorem isRepeat_tail {entries : Entries} {number : Nat} {text : String}
    (hnewest : entries.getLast? = some (number, text)) (hnumber : number < numberBound)
    (seen : Seen) (argument : String) :
    isRepeat seen (tail entries) argument true =
      if number ∈ seen then (argument.toList.isSuffixOf text.trimBlanks.toList, seen)
      else (false, number :: seen) := by
  have htail : (tail entries).bind parseLine? = some (number, text.trimBlanks) := by
    rw [tail, hnewest, Option.map_some, Option.bind_some]
    exact parseLine?_line hnumber text
  unfold isRepeat
  rw [if_pos rfl, htail]

/-- What is recorded is read back. As long as there are numbers left, a history into which commands
are recorded one after another, from the first on, shows after each of them a newest line, and what
is read from the line is how many commands there are, and the last one without the blanks around it.
So these are the number and the text that an invocation is judged by, whatever the commands are and
however many. The numbers have 64 bits, and last for more entries than can be kept. -/
theorem recorded_entries_are_read_back (commands : List String) :
    ((recordAll? commands).isSome = true ↔ commands.length < numberBound) ∧
    ((recordAll? commands).isSome = true → ∀ (k : Nat) (command : String),
      commands[k]? = some command → ∃ entries shown,
        recordAll? (commands.take (k + 1)) = some entries ∧ tail entries = some shown ∧
        parseLine? shown = some (k + 1, command.trimBlanks) ∧
        ∀ (seen : Seen) (argument : String), isRepeat seen (tail entries) argument true =
          if k + 1 ∈ seen then (argument.toList.isSuffixOf command.trimBlanks.toList, seen)
          else (false, (k + 1) :: seen)) := by
  have hall : (recordAll? commands).isSome = true ↔ commands.length < numberBound := by
    rw [recordAll?_eq]
    split
    · rename_i hlength
      exact iff_of_true rfl hlength
    · rename_i hlength
      exact iff_of_false Bool.false_ne_true hlength
  refine ⟨hall, fun hsome k command hk => ?_⟩
  obtain ⟨hlt, hcommand⟩ := List.getElem?_eq_some_iff.1 hk
  have hbound : k + 1 < numberBound := lt_of_le_of_lt hlt (hall.1 hsome)
  -- The first commands up to this one are those before it, and it.
  have htake : commands.take (k + 1) = commands.take k ++ [command] := by
    rw [List.take_add_one, hk]
    rfl
  have hlength : (commands.take k).length = k := by
    rw [List.length_take]
    omega
  have hentries : recordAll? (commands.take (k + 1)) =
      some (numbered (commands.take k) ++ [(k + 1, command)]) := by
    rw [recordAll?_eq, htake, numbered_concat, List.length_append, hlength, List.length_singleton,
      if_pos hbound]
  have hnewest : (numbered (commands.take k) ++ [(k + 1, command)]).getLast? =
      some (k + 1, command) := List.getLast?_concat
  refine ⟨_, line (k + 1) command, hentries, ?_, parseLine?_line hbound command, ?_⟩
  · rw [tail, hnewest]
    rfl
  · exact fun seen argument => isRepeat_tail hnewest hbound seen argument

/-- A command of digits among wide blanks, one of nothing but blanks, and one of several lines. -/
def oddCommands : List String := ["\u00a07 8\u3000", " \t", "2 next\n3"]

/-- They are read back under their numbers. -/
theorem odd_commands_read_back : (recordAll? oddCommands).isSome = true ∧
    (∃ entries shown, recordAll? (oddCommands.take 1) = some entries ∧
      tail entries = some shown ∧ parseLine? shown = some (1, "7 8")) ∧
    (∃ entries shown, recordAll? (oddCommands.take 2) = some entries ∧
      tail entries = some shown ∧ parseLine? shown = some (2, "")) ∧
    ∃ entries shown, recordAll? (oddCommands.take 3) = some entries ∧
      tail entries = some shown ∧ parseLine? shown = some (3, "2 next\n3") := by
  have hsome : (recordAll? oddCommands).isSome = true := rfl
  have hread (k : Nat) (command text : String) (hk : oddCommands[k]? = some command)
      (htext : command.trimBlanks = text) :
      ∃ entries shown, recordAll? (oddCommands.take (k + 1)) = some entries ∧
        tail entries = some shown ∧ parseLine? shown = some (k + 1, text) := by
    obtain ⟨entries, shown, hentries, htail, hread, -⟩ :=
      (recorded_entries_are_read_back oddCommands).2 hsome k command hk
    rw [htext] at hread
    exact ⟨entries, shown, hentries, htail, hread⟩
  exact ⟨hsome, hread 0 _ "7 8" rfl rfl, hread 1 _ "" rfl rfl, hread 2 _ "2 next\n3" rfl rfl⟩

end DebugShell.History
