import DebugShell.Text.Quoting
import Mathlib.Data.List.Forall2
import Mathlib.Tactic.Tauto

/-!
# Words survive being written down

A word can be written on an argument line in double quotes, in single quotes, or with a backslash
before each of its characters (`Text.Spelling`), and a line is made of such spellings with blanks
between and around them (`String.Writes`). Cutting the line gives the words back.

What one character does to a line that is being cut depends on the quote that is open, and is said
once for each case (`wordsFrom_close` to `wordsFrom_plain`). From there a spelling is read as its
word, whatever follows it (`wordsFrom_spelling`), by induction on the word, and the line is read
spelling by spelling (`wordsFrom_joined`).
-/

namespace DebugShell.Text

/-! ## Spellings -/

/-- A character between double quotes. A quote or a backslash is written behind a backslash. -/
def inDoubleQuotes (c : Char) : List Char :=
  if c = '"' ∨ c = '\\' then ['\\', c] else [c]

/-- `Spelling word cs`: the characters `cs` write the word. -/
inductive Spelling : List Char → List Char → Prop
  /-- In double quotes. -/
  | doubleQuoted (word : List Char) :
    Spelling word ('"' :: (word.flatMap inDoubleQuotes ++ ['"']))
  /-- In single quotes, between which a single quote cannot be written. -/
  | singleQuoted {word : List Char} (h : '\'' ∉ word) : Spelling word ('\'' :: (word ++ ['\'']))
  /-- Each character behind a backslash. The empty word cannot be written so. -/
  | escaped {word : List Char} (h : word ≠ []) : Spelling word (word.flatMap fun c => ['\\', c])

/-- `Joined spellings cs`: the spellings stand in `cs` in order, with nothing but blanks between
neighbours, and at least one. -/
inductive Joined : List (List Char) → List Char → Prop
  /-- No spellings. -/
  | none : Joined [] []
  /-- A spelling by itself. -/
  | one (spelling : List Char) : Joined [spelling] spelling
  /-- A spelling in front of others. -/
  | more (spelling gap : List Char) {next : List Char} {others : List (List Char)} {cs : List Char}
    (hgap : gap ≠ []) (hblank : ∀ c ∈ gap, isBlank c = true) (h : Joined (next :: others) cs) :
    Joined (spelling :: next :: others) (spelling ++ (gap ++ cs))

/-! ## What one character does -/

section Step

variable (word : Option (List Char)) (rest : List Char)

/-- A quote that is open is closed by its like. -/
theorem wordsFrom_close (q : Char) :
    wordsFrom (some q) word (q :: rest) = wordsFrom none word rest := by
  rw [wordsFrom.eq_def]
  exact if_pos rfl

/-- A quote that is met outside of quotes is opened, and starts a word. -/
theorem wordsFrom_open {q : Char} (h : q = '"' ∨ q = '\'') :
    wordsFrom none word (q :: rest) = wordsFrom (some q) (some (word.getD [])) rest := by
  rw [wordsFrom.eq_def]
  exact if_pos h

/-- Between single quotes every other character stands for itself. -/
theorem wordsFrom_single {c : Char} (h : c ≠ '\'') :
    wordsFrom (some '\'') word (c :: rest) =
      wordsFrom (some '\'') (some (word.getD [] ++ [c])) rest := by
  rw [wordsFrom.eq_def]
  dsimp only
  rw [if_neg h, if_pos rfl]

/-- Between double quotes a character behind a backslash stands for itself. -/
theorem wordsFrom_double_escape (c : Char) :
    wordsFrom (some '"') word ('\\' :: c :: rest) =
      wordsFrom (some '"') (some (word.getD [] ++ [c])) rest := by
  rw [wordsFrom, if_neg (by decide), if_neg (by decide), if_pos rfl]

/-- So does any other character there that is neither a quote nor a backslash. -/
theorem wordsFrom_double {c : Char} (h : ¬(c = '"' ∨ c = '\\')) :
    wordsFrom (some '"') word (c :: rest) =
      wordsFrom (some '"') (some (word.getD [] ++ [c])) rest := by
  rw [not_or] at h
  rw [wordsFrom.eq_def]
  dsimp only
  rw [if_neg h.1, if_neg (by decide), if_neg h.2]

/-- Outside of quotes a character behind a backslash stands for itself. -/
theorem wordsFrom_escape (c : Char) :
    wordsFrom none word ('\\' :: c :: rest) =
      wordsFrom none (some (word.getD [] ++ [c])) rest := by
  rw [wordsFrom, if_neg (by decide), if_pos rfl]

/-- Quotes and backslashes are no blanks. -/
theorem isBlank_of_special {c : Char} (h : c = '"' ∨ c = '\'' ∨ c = '\\') :
    isBlank c = false := by
  rcases h with rfl | rfl | rfl <;> decide

/-- A blank outside of quotes ends the word, if one was started. -/
theorem wordsFrom_blank {c : Char} (h : isBlank c = true) :
    wordsFrom none word (c :: rest) = word.toList ++ wordsFrom none none rest := by
  have hspecial : ¬(c = '"' ∨ c = '\'' ∨ c = '\\') := by
    intro hc
    rw [isBlank_of_special hc] at h
    cases h
  rw [wordsFrom.eq_def]
  dsimp only
  rw [if_neg (by tauto), if_neg (by tauto), if_pos h]

/-- Any other character outside of quotes stands for itself. -/
theorem wordsFrom_plain {c : Char} (hspecial : ¬(c = '"' ∨ c = '\'' ∨ c = '\\'))
    (hblank : isBlank c = false) :
    wordsFrom none word (c :: rest) = wordsFrom none (some (word.getD [] ++ [c])) rest := by
  rw [wordsFrom.eq_def]
  dsimp only
  rw [if_neg (by tauto), if_neg (by tauto), if_neg (Bool.eq_false_iff.1 hblank)]

end Step

/-! ## What a run of characters does -/

/-- The characters of a word between double quotes are read as the word. -/
theorem wordsFrom_inDoubleQuotes (started word rest : List Char) :
    wordsFrom (some '"') (some started) (word.flatMap inDoubleQuotes ++ rest) =
      wordsFrom (some '"') (some (started ++ word)) rest := by
  induction word generalizing started with
  | nil => rw [List.flatMap_nil, List.nil_append, List.append_nil]
  | cons c word ih =>
    rw [List.flatMap_cons, List.append_assoc]
    have hc : wordsFrom (some '"') (some started)
        (inDoubleQuotes c ++ (word.flatMap inDoubleQuotes ++ rest)) =
        wordsFrom (some '"') (some (started ++ [c])) (word.flatMap inDoubleQuotes ++ rest) := by
      unfold inDoubleQuotes
      split
      · exact wordsFrom_double_escape (some started) _ c
      · rename_i hplain
        exact wordsFrom_double (some started) _ hplain
    rw [hc, ih, List.append_assoc, List.singleton_append]

/-- The characters of a word between single quotes are read as the word. -/
theorem wordsFrom_inSingleQuotes (started rest : List Char) {word : List Char}
    (h : '\'' ∉ word) :
    wordsFrom (some '\'') (some started) (word ++ rest) =
      wordsFrom (some '\'') (some (started ++ word)) rest := by
  induction word generalizing started with
  | nil => rw [List.nil_append, List.append_nil]
  | cons c word ih =>
    rw [List.mem_cons, not_or] at h
    rw [List.cons_append, wordsFrom_single _ _ (Ne.symm h.1), Option.getD_some, ih _ h.2,
      List.append_assoc, List.singleton_append]

/-- The characters of a word behind backslashes are read as the word. -/
theorem wordsFrom_escaped (started word rest : List Char) :
    wordsFrom none (some started) (word.flatMap (fun c => ['\\', c]) ++ rest) =
      wordsFrom none (some (started ++ word)) rest := by
  induction word generalizing started with
  | nil => rw [List.flatMap_nil, List.nil_append, List.append_nil]
  | cons c word ih =>
    simp only [List.flatMap_cons, List.cons_append, List.nil_append]
    rw [wordsFrom_escape, Option.getD_some, ih, List.append_assoc, List.singleton_append]

/-- A spelling is read as its word, whatever follows it. -/
theorem wordsFrom_spelling {word spelling : List Char} (h : Spelling word spelling)
    (rest : List Char) :
    wordsFrom none none (spelling ++ rest) = wordsFrom none (some word) rest := by
  cases h with
  | doubleQuoted =>
    rw [List.cons_append, wordsFrom_open _ _ (.inl rfl), List.append_assoc,
      wordsFrom_inDoubleQuotes, List.singleton_append, wordsFrom_close]
    rfl
  | singleQuoted h =>
    rw [List.cons_append, wordsFrom_open _ _ (.inr rfl), List.append_assoc,
      wordsFrom_inSingleQuotes _ _ h, List.singleton_append, wordsFrom_close]
    rfl
  | escaped h =>
    -- The first character starts the word, and the others go on with it.
    obtain ⟨c, others, rfl⟩ := List.exists_cons_of_ne_nil h
    simp only [List.flatMap_cons, List.cons_append, List.nil_append]
    rw [wordsFrom_escape]
    exact wordsFrom_escaped [c] others rest

/-- Blanks before a word are skipped. -/
theorem wordsFrom_blanks {blanks : List Char} (h : ∀ c ∈ blanks, isBlank c = true)
    (rest : List Char) : wordsFrom none none (blanks ++ rest) = wordsFrom none none rest := by
  induction blanks with
  | nil => rfl
  | cons c blanks ih =>
    rw [List.forall_mem_cons] at h
    rw [List.cons_append, wordsFrom_blank _ _ h.1]
    exact ih h.2

/-- Blanks after a word end it. -/
theorem wordsFrom_gap (word : List Char) {gap : List Char} (hgap : gap ≠ [])
    (h : ∀ c ∈ gap, isBlank c = true) (rest : List Char) :
    wordsFrom none (some word) (gap ++ rest) = word :: wordsFrom none none rest := by
  obtain ⟨c, blanks, rfl⟩ := List.exists_cons_of_ne_nil hgap
  rw [List.forall_mem_cons] at h
  rw [List.cons_append, wordsFrom_blank _ _ h.1, wordsFrom_blanks h.2]
  rfl

/-- Blanks at the end of a line only end the word that was started. -/
theorem wordsFrom_end (word : List Char) {after : List Char}
    (h : ∀ c ∈ after, isBlank c = true) : wordsFrom none (some word) after = [word] := by
  cases after with
  | nil => rfl
  | cons c blanks =>
    rw [← List.append_nil (c :: blanks), wordsFrom_gap word (List.cons_ne_nil c blanks) h]
    rfl

/-- Spellings that are joined are read as their words. -/
theorem wordsFrom_joined {words spellings : List (List Char)} {cs after : List Char}
    (hspell : List.Forall₂ Spelling words spellings) (hjoin : Joined spellings cs)
    (hafter : ∀ c ∈ after, isBlank c = true) : wordsFrom none none (cs ++ after) = words := by
  induction hjoin generalizing words with
  | none =>
    cases hspell
    rw [List.nil_append, ← List.append_nil after, wordsFrom_blanks hafter]
    rfl
  | one spelling =>
    obtain ⟨word, rest, hword, hrest, rfl⟩ := List.forall₂_cons_right_iff.1 hspell
    cases hrest
    rw [wordsFrom_spelling hword, wordsFrom_end word hafter]
  | more spelling gap hgap hblank _ ih =>
    obtain ⟨word, rest, hword, hrest, rfl⟩ := List.forall₂_cons_right_iff.1 hspell
    rw [List.append_assoc, List.append_assoc, wordsFrom_spelling hword,
      wordsFrom_gap word hgap hblank, ih hrest]

end DebugShell.Text

namespace String

open DebugShell.Text

/-- `Writes words line`: the line is made of spellings of the words in order, with blanks between
them, and any number of blanks before the first and after the last. -/
def Writes (words : List String) (line : String) : Prop :=
  ∃ (spellings : List (List Char)) (before cs after : List Char),
    List.Forall₂ Spelling (words.map toList) spellings ∧ Joined spellings cs ∧
    (∀ c ∈ before, isBlank c = true) ∧ (∀ c ∈ after, isBlank c = true) ∧
    line.toList = before ++ (cs ++ after)

/-- There is a spelling of every word, and a line for any spellings. -/
theorem exists_joined (words : List (List Char)) :
    ∃ spellings cs, List.Forall₂ Spelling words spellings ∧ Joined spellings cs := by
  induction words with
  | nil => exact ⟨[], [], .nil, .none⟩
  | cons word words ih =>
    obtain ⟨spellings, cs, hspell, hjoin⟩ := ih
    cases spellings with
    | nil => exact ⟨_, _, .cons (.doubleQuoted word) hspell, .one _⟩
    | cons next others =>
      exact ⟨_, _, .cons (.doubleQuoted word) hspell,
        .more _ [' '] (List.cons_ne_nil ' ' []) (List.forall_mem_singleton.2 rfl) hjoin⟩

/-- Every list of words is what some line is cut into. -/
theorem exists_argumentWords (words : List String) :
    ∃ line : String, line.argumentWords = words := by
  obtain ⟨spellings, cs, hspell, hjoin⟩ := exists_joined (words.map toList)
  have hcut := wordsFrom_joined hspell hjoin (List.forall_mem_nil _)
  rw [List.append_nil] at hcut
  refine ⟨ofList cs, ?_⟩
  rw [argumentWords, DebugShell.Text.words, toList_ofList, hcut, List.map_map]
  exact (List.map_congr_left fun word _ => ofList_toList).trans words.map_id

/-- Every list of words can be written on a line, and is what the line is cut into, however it is
written. -/
theorem argument_line_carries_words (words : List String) :
    (∃ line, Writes words line) ∧ ∀ line, Writes words line → line.argumentWords = words := by
  constructor
  · obtain ⟨spellings, cs, hspell, hjoin⟩ := exists_joined (words.map toList)
    exact ⟨ofList cs, spellings, [], cs, [], hspell, hjoin, List.forall_mem_nil _,
      List.forall_mem_nil _, by rw [toList_ofList, List.append_nil, List.nil_append]⟩
  · rintro line ⟨spellings, before, cs, after, hspell, hjoin, hbefore, hafter, hline⟩
    rw [argumentWords, DebugShell.Text.words, hline, wordsFrom_blanks hbefore,
      wordsFrom_joined hspell hjoin hafter, List.map_map]
    exact (List.map_congr_left fun word _ => ofList_toList).trans words.map_id

/-- Four words in all three styles: one with a single quote, an empty one, one with a double quote
and a backslash, and a blank. -/
theorem argument_line_of_mixed_styles :
    Writes ["don't", "", "a \"b\\", "\t"] "  \"don't\" ''\t\"a \\\"b\\\\\"\n\\\t " ∧
      "  \"don't\" ''\t\"a \\\"b\\\\\"\n\\\t ".argumentWords =
        ["don't", "", "a \"b\\", "\t"] := by
  have hwrites : Writes ["don't", "", "a \"b\\", "\t"]
      "  \"don't\" ''\t\"a \\\"b\\\\\"\n\\\t " := by
    have hblank {gap : List Char} (h : gap.all isBlank = true) : ∀ c ∈ gap, isBlank c = true :=
      List.all_eq_true.1 h
    refine ⟨_, [' ', ' '], _, [' '], .cons (.doubleQuoted _) (.cons (.singleQuoted ?_)
      (.cons (.doubleQuoted _) (.cons (.escaped ?_) .nil))), .more _ [' '] ?_ (hblank rfl)
      (.more _ ['\t'] ?_ (hblank rfl) (.more _ ['\n'] ?_ (hblank rfl) (.one _))),
      hblank rfl, hblank rfl, ?_⟩ <;> decide
  exact ⟨hwrites, (argument_line_carries_words _).2 _ hwrites⟩

end String
