import DebugShell.Text.Blank
import Mathlib.Data.List.DropRight
import Mathlib.Data.List.TakeWhile

/-!
# Trimming and cutting

What trimming and cutting at a blank leave of a text. Trimming is idempotent (`trim_trim`), and a
text without blanks at its end has no suffix with blanks at its end (`trimEnd_of_suffix`). So the
part of a trimmed line that follows its first blank, once it is trimmed, still stands at the end of
the line (`trim_tail_suffix`). That is what lets a command be recognised in the line that it was
typed in by the argument that it was given.
-/

namespace DebugShell.Text

/-- Taking the blanks off the end of a text leaves a prefix of it. -/
theorem trimEnd_isPrefix (cs : List Char) : trimEnd cs <+: cs :=
  List.rdropWhile_prefix isBlank cs

/-- Taking the blanks off the start of a text leaves a suffix of it. -/
theorem trimStart_suffix (cs : List Char) : trimStart cs <:+ cs :=
  List.dropWhile_suffix isBlank

/-- A text that begins with another character than a blank begins with it also without the blanks at
its end. -/
theorem head?_trimEnd {cs : List Char} {c : Char} (h : cs.head? = some c)
    (hc : isBlank c = false) : (trimEnd cs).head? = some c := by
  obtain ⟨rest, rfl⟩ := List.head?_eq_some_iff.1 h
  obtain ⟨blanks, hblanks⟩ := trimEnd_isPrefix (c :: rest)
  cases htrimmed : trimEnd (c :: rest) with
  | nil =>
    have hblank := List.rdropWhile_eq_nil_iff.1 htrimmed c List.mem_cons_self
    rw [hc] at hblank
    cases hblank
  | cons c' trimmed =>
    rw [htrimmed] at hblanks
    cases hblanks
    rfl

/-- The blanks before a text make no difference to it once it is trimmed. -/
theorem trimStart_append_of_blank {blanks : List Char} (h : ∀ c ∈ blanks, isBlank c = true)
    (cs : List Char) : trimStart (blanks ++ cs) = trimStart cs :=
  List.dropWhile_append_of_pos h

/-- A text that starts with a character other than a blank has no blanks to take off its start. -/
theorem trimStart_cons_of_not_blank {c : Char} (h : isBlank c = false) (cs : List Char) :
    trimStart (c :: cs) = c :: cs :=
  List.dropWhile_cons_of_neg (by rw [h]; exact Bool.false_ne_true)

/-- A blank before a text makes no difference to it once it is trimmed. -/
theorem trim_cons_of_blank {c : Char} (h : isBlank c = true) (cs : List Char) :
    trim (c :: cs) = trim cs := by
  rw [trim, trim, trimStart, List.dropWhile_cons_of_pos h, ← trimStart]

/-- A text has no blanks at its start exactly if it is empty or starts with another character. -/
theorem trimStart_eq_self_iff (cs : List Char) :
    trimStart cs = cs ↔ ∀ c rest, cs = c :: rest → isBlank c = false := by
  constructor
  · rintro h c rest rfl
    by_contra hblank
    rw [Bool.not_eq_false] at hblank
    -- The first character would be dropped, and then the text is shorter than it was.
    have hdrop : trimStart (c :: rest) = trimStart rest := List.dropWhile_cons_of_pos hblank
    have hlength := (trimStart_suffix rest).length_le
    rw [← hdrop, h, List.length_cons] at hlength
    omega
  · intro h
    cases cs with
    | nil => rfl
    | cons c rest => exact trimStart_cons_of_not_blank (h c rest rfl) rest

/-- A prefix of a text without blanks at its start has none there either. -/
theorem trimStart_of_prefix {x cs : List Char} (h : x <+: cs) (hcs : trimStart cs = cs) :
    trimStart x = x := by
  rw [trimStart_eq_self_iff] at hcs ⊢
  rintro c rest rfl
  obtain ⟨others, rfl⟩ := h
  exact hcs c (rest ++ others) rfl

/-- A suffix of a text without blanks at its end has none there either. -/
theorem trimEnd_of_suffix {x cs : List Char} (h : x <:+ cs) (hcs : trimEnd cs = cs) :
    trimEnd x = x := by
  -- The end of a text is the start of the text reversed, where the last lemma applies.
  have hback : trimStart x.reverse = x.reverse := by
    refine trimStart_of_prefix (List.reverse_prefix.2 h) ?_
    rw [← List.reverse_eq_iff]
    exact hcs
  rw [trimEnd, ← trimStart, hback, List.reverse_reverse]

/-- The blanks after a text make no difference to it once they are taken off its end. -/
theorem trimEnd_append_of_blank {blanks : List Char} (h : ∀ c ∈ blanks, isBlank c = true)
    (cs : List Char) : trimEnd (cs ++ blanks) = trimEnd cs := by
  have hback : ∀ c ∈ blanks.reverse, isBlank c = true := fun c hc => h c (List.mem_reverse.1 hc)
  rw [trimEnd, trimEnd, List.reverse_append, List.dropWhile_append_of_pos hback]

/-- The blanks after a text make no difference to it once it is trimmed. -/
theorem trim_append_of_blank {blanks : List Char} (h : ∀ c ∈ blanks, isBlank c = true)
    (cs : List Char) : trim (cs ++ blanks) = trim cs := by
  rw [trim, trim, trimStart, trimStart, List.dropWhile_append]
  split
  · -- All of the text is blank, and so is what is left of it.
    rename_i hempty
    have hcs : cs.dropWhile isBlank = [] := by simpa using hempty
    have hblanks : blanks.dropWhile isBlank = [] := List.dropWhile_eq_nil_iff.2 h
    rw [hcs, hblanks]
  · exact trimEnd_append_of_blank h _

/-- A text that does not end in a blank has no blanks to take off its end, whatever stands before
it. -/
theorem trimEnd_append_of_ne_nil {cs : List Char} (hne : cs ≠ []) (h : trimEnd cs = cs)
    (before : List Char) : trimEnd (before ++ cs) = before ++ cs := by
  have hlast := List.rdropWhile_eq_self_iff.1 h hne
  refine List.rdropWhile_eq_self_iff.2 fun hall => ?_
  rw [List.getLast_append_of_ne_nil hall hne]
  exact hlast

/-- Trimming leaves no blanks at the end of a text. -/
theorem trimEnd_trim (cs : List Char) : trimEnd (trim cs) = trim cs :=
  List.rdropWhile_idempotent isBlank (trimStart cs)

/-- Trimming leaves no blanks at the start of a text. -/
theorem trimStart_trim (cs : List Char) : trimStart (trim cs) = trim cs :=
  trimStart_of_prefix (trimEnd_isPrefix (trimStart cs)) (List.dropWhile_idempotent isBlank cs)

/-- A text that is trimmed has no blanks at its start and none at its end. -/
theorem trimStart_and_trimEnd_of_trim {cs : List Char} (h : trim cs = cs) :
    trimStart cs = cs ∧ trimEnd cs = cs := by
  have hstart := trimStart_trim cs
  have hend := trimEnd_trim cs
  rw [h] at hstart hend
  exact ⟨hstart, hend⟩

/-- A text that is trimmed twice is trimmed. -/
theorem trim_trim (cs : List Char) : trim (trim cs) = trim cs := by
  rw [trim, trimStart_trim, trimEnd_trim]

/-- A text without blanks has none to take off. -/
theorem trim_of_not_blank {cs : List Char} (h : ∀ c ∈ cs, isBlank c = false) : trim cs = cs := by
  have hstart (ds : List Char) (hds : ∀ c ∈ ds, isBlank c = false) : trimStart ds = ds := by
    rw [trimStart_eq_self_iff]
    rintro c rest rfl
    exact hds c List.mem_cons_self
  have hend : trimStart cs.reverse = cs.reverse :=
    hstart cs.reverse fun c hc => h c (List.mem_reverse.1 hc)
  rw [trim, hstart cs h, trimEnd, ← trimStart, hend, List.reverse_reverse]

/-- Nothing is left of a text exactly if all of it is blank. -/
theorem trim_eq_nil_iff (cs : List Char) : trim cs = [] ↔ ∀ c ∈ cs, isBlank c = true := by
  have hend : trim cs = [] ↔ ∀ c ∈ trimStart cs, isBlank c = true := List.rdropWhile_eq_nil_iff
  rw [hend]
  constructor
  · intro h c hc
    rw [← List.takeWhile_append_dropWhile (p := isBlank) (l := cs), List.mem_append] at hc
    rcases hc with hc | hc
    · exact List.mem_takeWhile_imp hc
    · exact h c hc
  · intro h c hc
    exact h c ((trimStart_suffix cs).subset hc)

/-- A text is what trimming leaves of it, among blanks. -/
theorem exists_blanks_trim (cs : List Char) : ∃ before after, cs = before ++ (trim cs ++ after) ∧
    (∀ c ∈ before, isBlank c = true) ∧ ∀ c ∈ after, isBlank c = true := by
  refine ⟨cs.takeWhile isBlank, (trimStart cs).rtakeWhile isBlank, ?_,
    fun c hc => List.mem_takeWhile_imp hc, fun c hc => List.mem_rtakeWhile_imp hc⟩
  have hend : trim cs ++ (trimStart cs).rtakeWhile isBlank = trimStart cs :=
    List.rdropWhile_append_rtakeWhile
  rw [hend]
  exact List.takeWhile_append_dropWhile.symm

/-- Trimming keeps the characters that are no blanks. -/
theorem mem_trim {cs : List Char} {c : Char} (hc : isBlank c = false) : c ∈ trim cs ↔ c ∈ cs := by
  obtain ⟨before, after, hcs, hbefore, hafter⟩ := exists_blanks_trim cs
  have hnone (blanks : List Char) (h : ∀ c ∈ blanks, isBlank c = true) : c ∉ blanks := by
    intro hmem
    rw [h c hmem] at hc
    cases hc
  conv_rhs => rw [hcs]
  simp [hnone before hbefore, hnone after hafter]

/-- What follows the first word of a text is a suffix of the text. -/
theorem afterFirstWord_suffix (cs : List Char) : afterFirstWord cs <:+ cs :=
  List.dropWhile_suffix _

/-- What follows the first blank of a text that has no blanks at its end stands at the end of the
text also when it is trimmed. -/
theorem trim_tail_suffix {cs : List Char} (h : trimEnd cs = cs) :
    trim (afterFirstWord cs).tail <:+ cs := by
  have htail : (afterFirstWord cs).tail <:+ cs :=
    (List.tail_suffix _).trans (afterFirstWord_suffix cs)
  have hstart : trimStart (afterFirstWord cs).tail <:+ cs :=
    (trimStart_suffix _).trans htail
  rw [trim, trimEnd_of_suffix hstart h]
  exact hstart

/-- A text is its first word and what follows it. -/
theorem firstWord_append_afterFirstWord (cs : List Char) :
    firstWord cs ++ afterFirstWord cs = cs :=
  List.takeWhile_append_dropWhile

/-- The first word of a trimmed text is not empty, unless the text is. -/
theorem firstWord_trim_ne_nil {cs : List Char} (h : trim cs ≠ []) : firstWord (trim cs) ≠ [] := by
  cases hcs : trim cs with
  | nil => exact absurd hcs h
  | cons c rest =>
    have hc : isBlank c = false := (trimStart_eq_self_iff _).1 (trimStart_trim cs) c rest hcs
    have hc' : (!isBlank c) = true := by
      rw [hc]
      rfl
    rw [firstWord, List.takeWhile_cons_of_pos (p := fun c => !isBlank c) hc']
    exact List.cons_ne_nil c _

/-- What follows the first word of a text starts with a blank. -/
theorem isBlank_of_afterFirstWord {cs rest : List Char} {c : Char}
    (h : afterFirstWord cs = c :: rest) : isBlank c = true := by
  have hhead := List.head?_dropWhile_not (fun c => !isBlank c) cs
  rw [← afterFirstWord, h] at hhead
  simpa using hhead

/-- The first word of a text is the part without blanks that a blank follows. -/
theorem firstWord_append {word rest : List Char} (hword : ∀ c ∈ word, isBlank c = false)
    (hrest : ∀ c others, rest = c :: others → isBlank c = true) :
    firstWord (word ++ rest) = word ∧ afterFirstWord (word ++ rest) = rest := by
  have hword' : ∀ c ∈ word, (!isBlank c) = true := by
    intro c hc
    rw [hword c hc]
    rfl
  unfold firstWord afterFirstWord
  rw [List.takeWhile_append_of_pos hword', List.dropWhile_append_of_pos hword']
  cases rest with
  | nil => exact ⟨List.append_nil word, rfl⟩
  | cons c others =>
    -- The word ends here.
    have hc : ¬(!isBlank c) = true := by
      rw [hrest c others rfl]
      exact Bool.false_ne_true
    rw [List.takeWhile_cons_of_neg (p := fun c => !isBlank c) hc,
      List.dropWhile_cons_of_neg (p := fun c => !isBlank c) hc, List.append_nil]
    exact ⟨rfl, rfl⟩

end DebugShell.Text

namespace String

/-- The characters of a trimmed string. -/
theorem toList_trimBlanks (s : String) : s.trimBlanks.toList = DebugShell.Text.trim s.toList :=
  String.toList_ofList

/-- Nothing is left of a string exactly if all of it is blank. -/
theorem trimBlanks_eq_empty_iff (s : String) :
    s.trimBlanks = "" ↔ s.toList.all DebugShell.Text.isBlank = true := by
  rw [← String.toList_inj, toList_trimBlanks, List.all_eq_true]
  exact DebugShell.Text.trim_eq_nil_iff s.toList

/-- A string that is trimmed twice is trimmed. -/
theorem trimBlanks_trimBlanks (s : String) : s.trimBlanks.trimBlanks = s.trimBlanks := by
  rw [trimBlanks, toList_trimBlanks, DebugShell.Text.trim_trim]
  rfl

end String
