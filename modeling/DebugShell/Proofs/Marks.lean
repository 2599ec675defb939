import DebugShell.Registers
import Mathlib.Data.List.TakeWhile

/-!
# Marking goes word by word

A word is a longest run of word characters. Marking the names in a text puts a mark before each word
that is one of the names and has none yet, and changes nothing else (`markFrom_eq_markWords`).

Marking searches for the names one after the other, at every place and with an optional mark in
front. `markWords` has none of this: it copies the text, and at each character asks whether a word
starts there and whether it is a name. At the start of a word only the whole word can be found,
since a name that ends before the word does is not followed by a boundary (`nameAt?_eq_ite`).

Marking a text that is put together from parts is marking the parts, as long as no word goes on
across a seam (`markWords_append`).
-/

namespace DebugShell.Registers

open Text (isWordChar)

/-- The word at the start of a text, empty if none starts there. -/
def wordAt (cs : List Char) : List Char :=
  cs.takeWhile isWordChar

/-- A text with a mark before each of its words that is one of the names and has no mark yet, where
`before` is the character in front of the text. -/
def markWords (names : List (List Char)) : Option Char → List Char → List Char
  | _, [] => []
  | before, c :: rest =>
    if before.any isWordChar = false ∧ before ≠ some '$' ∧ wordAt (c :: rest) ∈ names then
      '$' :: c :: markWords names (some c) rest
    else c :: markWords names (some c) rest

/-- `Words names`: each of the names is a word. -/
def Words (names : List (List Char)) : Prop :=
  ∀ name ∈ names, name ≠ [] ∧ ∀ c ∈ name, isWordChar c = true

/-! ## Words -/

/-- `NoWord cs`: the text does not start with a word character. -/
def NoWord (cs : List Char) : Prop :=
  cs.head?.any isWordChar = false

/-- A word character starts a word. -/
theorem wordAt_cons {c : Char} (h : isWordChar c = true) (rest : List Char) :
    wordAt (c :: rest) = c :: wordAt rest :=
  List.takeWhile_cons_of_pos h

/-- No word starts where no word character stands. -/
theorem wordAt_eq_nil {cs : List Char} (h : NoWord cs) : wordAt cs = [] := by
  cases cs with
  | nil => rfl
  | cons c rest =>
    have hc : isWordChar c = false := h
    exact List.takeWhile_cons_of_neg (by rw [hc]; decide)

/-- A word ends where no word character follows. -/
theorem wordAt_append {cs after : List Char} (h : NoWord after) :
    wordAt (cs ++ after) = wordAt cs := by
  induction cs with
  | nil => exact wordAt_eq_nil h
  | cons c cs ih =>
    unfold wordAt at ih ⊢
    rw [List.cons_append, List.takeWhile_cons, List.takeWhile_cons, ih]

/-- Word characters are one word. -/
theorem wordAt_eq_self {word : List Char} (h : ∀ c ∈ word, isWordChar c = true) :
    wordAt word = word :=
  List.takeWhile_eq_self_iff.2 h

/-- A text is its word and a rest that goes on with no word character. -/
theorem exists_wordAt_append (cs : List Char) :
    ∃ after, cs = wordAt cs ++ after ∧ NoWord after := by
  refine ⟨cs.dropWhile isWordChar, List.takeWhile_append_dropWhile.symm, ?_⟩
  rw [NoWord]
  cases h : (cs.dropWhile isWordChar).head? with
  | none => rfl
  | some c =>
    have hc := List.head?_dropWhile_not isWordChar cs
    rw [h] at hc
    simpa using hc

/-- The names that start a text and are not followed by a word character are its word. -/
theorem eq_wordAt_iff {name cs : List Char} (hname : ∀ c ∈ name, isWordChar c = true) :
    name <+: cs ∧ NoWord (cs.drop name.length) ↔ name = wordAt cs := by
  constructor
  · rintro ⟨⟨after, rfl⟩, hafter⟩
    rw [List.drop_left] at hafter
    rw [wordAt_append hafter, wordAt_eq_self hname]
  · intro h
    obtain ⟨after, hcs, hafter⟩ := exists_wordAt_append cs
    rw [← h] at hcs
    subst hcs
    exact ⟨List.prefix_append name after, by rwa [List.drop_left]⟩

/-- No word starts at a mark. -/
theorem noWord_mark (rest : List Char) : NoWord ('$' :: rest) := by
  have hmark : isWordChar '$' = false := by decide
  exact hmark

/-! ## Searching finds words -/

section Search

variable {names : List String} (hnames : Words (names.map String.toList))

include hnames

/-- A name that is searched for at a place is found if it is the word that starts there. -/
theorem isFound_iff {name : List Char} (hname : name ∈ names.map String.toList) (cs : List Char) :
    (name.isPrefixOf cs && isBoundary name.getLast? (cs.drop name.length).head?) = true ↔
      name = wordAt cs := by
  obtain ⟨hne, hword⟩ := hnames name hname
  have hlast : name.getLast?.any isWordChar = true := by
    rw [List.getLast?_eq_some_getLast hne, Option.any_some]
    exact hword _ (List.getLast_mem hne)
  have hboundary : isBoundary name.getLast? (cs.drop name.length).head? = true ↔
      NoWord (cs.drop name.length) := by
    rw [isBoundary, hlast, NoWord]
    cases (cs.drop name.length).head?.any isWordChar <;> decide
  rw [Bool.and_eq_true, List.isPrefixOf_iff_prefix, hboundary]
  exact eq_wordAt_iff hword

/-- What is found at a place is the word that starts there, if it is one of the names. -/
theorem nameAt?_eq_ite (before : Option Char) (cs : List Char) :
    nameAt? names before cs =
      if before.any isWordChar = false ∧ wordAt cs ∈ names.map String.toList then some (wordAt cs)
      else none := by
  have hempty : [] ∉ names.map String.toList := fun h => (hnames [] h).1 rfl
  rw [nameAt?]
  by_cases hstart : cs.head?.any isWordChar = true
  · cases hbefore : before.any isWordChar with
    | true =>
      -- Inside a word there is no boundary.
      have hboundary : isBoundary before cs.head? = false := by
        rw [isBoundary, hbefore, hstart]
        rfl
      rw [hboundary, if_neg (by decide), if_neg (by simp)]
    | false =>
      have hboundary : isBoundary before cs.head? = true := by
        rw [isBoundary, hbefore, hstart]
        rfl
      rw [hboundary, if_pos rfl]
      by_cases hmem : wordAt cs ∈ names.map String.toList
      · rw [if_pos ⟨rfl, hmem⟩]
        -- The first name that is found is the word, because no other name can be found.
        rw [List.find?_eq_some_iff_append]
        obtain ⟨earlier, later, hsplit, hnot⟩ := List.eq_append_cons_of_mem hmem
        refine ⟨(isFound_iff hnames hmem cs).2 rfl, earlier, later, hsplit, ?_⟩
        intro name hname
        have hname' : name ∈ names.map String.toList := by
          rw [hsplit]
          exact List.mem_append_left _ hname
        rw [Bool.not_eq_true', Bool.eq_false_iff, ne_eq, isFound_iff hnames hname' cs]
        rintro rfl
        exact hnot hname
      · rw [if_neg fun h => hmem h.2, List.find?_eq_none]
        intro name hname hfound
        rw [isFound_iff hnames hname cs] at hfound
        exact hmem (hfound ▸ hname)
  · -- Where no word starts, the only start of the text that is a word is empty, and no name is.
    have hnoword : NoWord cs := Bool.eq_false_iff.2 hstart
    have hnone : (if before.any isWordChar = false ∧ wordAt cs ∈ names.map String.toList then
        some (wordAt cs) else none) = none := by
      rw [wordAt_eq_nil hnoword, if_neg fun h => hempty h.2]
    rw [hnone]
    by_cases hboundary : isBoundary before cs.head? = true
    · rw [if_pos hboundary, List.find?_eq_none]
      intro name hname hfound
      rw [isFound_iff hnames hname cs, wordAt_eq_nil hnoword] at hfound
      exact hempty (hfound ▸ hname)
    · rw [if_neg hboundary]

/-- What is found behind a mark is the word there, if it is one of the names. -/
theorem occurrenceAt?_mark (before : Option Char) (rest : List Char) :
    occurrenceAt? names before ('$' :: rest) =
      if wordAt rest ∈ names.map String.toList then some (wordAt rest, (wordAt rest).length + 1)
      else none := by
  have hempty : [] ∉ names.map String.toList := fun h => (hnames [] h).1 rfl
  have hbare : nameAt? names before ('$' :: rest) = none := by
    rw [nameAt?_eq_ite hnames, wordAt_eq_nil (noWord_mark rest), if_neg fun h => hempty h.2]
  have hmarked : nameAt? names (some '$') rest =
      if wordAt rest ∈ names.map String.toList then some (wordAt rest) else none := by
    rw [nameAt?_eq_ite hnames]
    exact if_congr (and_iff_right (noWord_mark rest)) rfl rfl
  rw [occurrenceAt?, hbare, hmarked]
  split_ifs <;> rfl

/-- What is found where no mark stands is the word there, if it is one of the names. -/
theorem occurrenceAt?_bare (before : Option Char) {c : Char} (hc : c ≠ '$') (rest : List Char) :
    occurrenceAt? names before (c :: rest) =
      if before.any isWordChar = false ∧ wordAt (c :: rest) ∈ names.map String.toList then
        some (wordAt (c :: rest), (wordAt (c :: rest)).length)
      else none := by
  have hnone : occurrenceAt? names before (c :: rest) =
      (nameAt? names before (c :: rest)).map fun name => (name, name.length) := by
    unfold occurrenceAt?
    split
    · rename_i hcons
      exact absurd (List.cons.inj hcons).1 hc
    · exact Option.none_or
  rw [hnone, nameAt?_eq_ite hnames]
  split_ifs <;> rfl

end Search

/-! ## Marking is marking the words -/

/-- `Started before`: behind the character `before` no word that is still unmarked starts. -/
def Started (before : Option Char) : Prop :=
  before.any isWordChar = true ∨ before = some '$'

/-- The last character of a text behind a first one. -/
theorem getLast?_cons_or (c : Char) (cs : List Char) (before : Option Char) :
    (c :: cs).getLast?.or before = cs.getLast?.or (some c) := by
  rw [List.getLast?_cons]
  cases cs.getLast? <;> rfl

/-- The characters of an occurrence that is already written are passed over. -/
theorem markFrom_length (names : List String) (before : Option Char) (cs after : List Char) :
    markFrom names before cs.length (cs ++ after) =
      markFrom names (cs.getLast?.or before) 0 after := by
  induction cs generalizing before with
  | nil => rfl
  | cons c cs ih =>
    rw [getLast?_cons_or]
    exact ih (some c)

section Words

variable {names : List (List Char)}

/-- A word that has been started is copied. -/
theorem markWords_started {before : Option Char} (hb : Started before) {word : List Char}
    (hword : ∀ c ∈ word, isWordChar c = true) (after : List Char) :
    markWords names before (word ++ after) =
      word ++ markWords names (word.getLast?.or before) after := by
  induction word generalizing before with
  | nil => rfl
  | cons c word ih =>
    have hcopy : ¬(before.any isWordChar = false ∧ before ≠ some '$' ∧
        wordAt (c :: (word ++ after)) ∈ names) := by
      rintro ⟨hnoword, hnomark, -⟩
      rcases hb with hb | hb
      · rw [hb] at hnoword
        cases hnoword
      · exact hnomark hb
    have hc : Started (some c) := .inl (hword c List.mem_cons_self)
    rw [List.cons_append, markWords, if_neg hcopy, getLast?_cons_or,
      ih hc fun d hd => hword d (List.mem_cons_of_mem c hd), List.cons_append]

/-- Behind any character a text that starts with no word is marked alike. -/
theorem markWords_of_noWord (hempty : [] ∉ names) (before : Option Char) {cs : List Char}
    (h : NoWord cs) : markWords names before cs = markWords names none cs := by
  cases cs with
  | nil => rfl
  | cons c rest =>
    rw [markWords, markWords, wordAt_eq_nil h, if_neg fun hc => hempty hc.2.2,
      if_neg fun hc => hempty hc.2.2]

/-- Behind a character that starts no word and is no mark, a text is marked as by itself. -/
theorem markWords_of_open {c : Char} (hc : isWordChar c = false) (hmark : c ≠ '$')
    (cs : List Char) : markWords names (some c) cs = markWords names none cs := by
  cases cs with
  | nil => rfl
  | cons d rest =>
    have hcond : ((some c).any isWordChar = false ∧ some c ≠ some '$' ∧
        wordAt (d :: rest) ∈ names) ↔ ((none : Option Char).any isWordChar = false ∧
          none ≠ some '$' ∧ wordAt (d :: rest) ∈ names) := by
      constructor
      · rintro ⟨-, -, hmem⟩
        exact ⟨rfl, nofun, hmem⟩
      · rintro ⟨-, -, hmem⟩
        exact ⟨hc, fun h => hmark (Option.some.inj h), hmem⟩
    rw [markWords, markWords, if_congr hcond rfl rfl]

/-- A character that starts no word and is no mark is copied. -/
theorem markWords_cons_of_open (hempty : [] ∉ names) {c : Char} (hc : isWordChar c = false)
    (hmark : c ≠ '$') (before : Option Char) (cs : List Char) :
    markWords names before (c :: cs) = c :: markWords names none cs := by
  have hnoword : NoWord (c :: cs) := hc
  rw [markWords, wordAt_eq_nil hnoword, if_neg fun h => hempty h.2.2, markWords_of_open hc hmark]

/-- A mark is copied. -/
theorem markWords_mark (hempty : [] ∉ names) (before : Option Char) (cs : List Char) :
    markWords names before ('$' :: cs) = '$' :: markWords names (some '$') cs := by
  rw [markWords, wordAt_eq_nil (noWord_mark cs), if_neg fun h => hempty h.2.2]

/-- A text is marked apart from what follows its last word. -/
theorem markWords_append (hempty : [] ∉ names) (before : Option Char) (cs : List Char)
    {after : List Char} (h : NoWord after) :
    markWords names before (cs ++ after) =
      markWords names before cs ++ markWords names none after := by
  induction cs generalizing before with
  | nil => exact markWords_of_noWord hempty before h
  | cons c cs ih =>
    rw [List.cons_append, markWords, markWords, ← List.cons_append, wordAt_append h, ih]
    split_ifs <;> rfl

/-- A word is marked as a whole if it is one of the names. -/
theorem markWords_word (hempty : [] ∉ names) {word : List Char}
    (hword : ∀ c ∈ word, isWordChar c = true) :
    markWords names none word = if word ∈ names then '$' :: word else word := by
  cases word with
  | nil => rw [markWords, if_neg hempty]
  | cons c rest =>
    -- Behind its first character the word has been started, so the rest of it is copied.
    have hc : Started (some c) := .inl (hword c List.mem_cons_self)
    have hrest : markWords names (some c) (rest ++ []) = rest ++ [] :=
      markWords_started hc (fun d hd => hword d (List.mem_cons_of_mem c hd)) []
    rw [List.append_nil] at hrest
    have hcond : ((none : Option Char).any isWordChar = false ∧ none ≠ some '$' ∧
        wordAt (c :: rest) ∈ names) ↔ c :: rest ∈ names := by
      rw [wordAt_eq_self hword]
      simp
    rw [markWords, hrest, if_congr hcond rfl rfl]

end Words

section Marking

variable {names : List String}

/-- A word that has been started is copied, and marking goes on behind it. -/
theorem wordAt_append_markFrom {before : Option Char} (hb : Started before) (cs : List Char)
    (hbehind : ∀ after, after.length ≤ cs.length → NoWord after → ∀ b,
      markFrom names b 0 after = markWords (names.map String.toList) b after) :
    wordAt cs ++ markFrom names before (wordAt cs).length cs =
      markWords (names.map String.toList) before cs := by
  obtain ⟨after, hcs, hafter⟩ := exists_wordAt_append cs
  have hword : ∀ c ∈ wordAt cs, isWordChar c = true := fun c hc => List.mem_takeWhile_imp hc
  have hshort : after.length ≤ cs.length := by
    rw [hcs, List.length_append]
    exact Nat.le_add_left _ _
  generalize wordAt cs = word at hcs hword
  rw [hcs, markFrom_length, markWords_started hb hword, hbehind after hshort hafter]

/-- Marking puts a mark before each word that is one of the names and has none yet. In the course of
it no name stands right behind a mark, since the mark would have been taken together with it. -/
theorem markFrom_eq_markWords (hnames : Words (names.map String.toList)) (before : Option Char)
    (cs : List Char) (hstart : before = some '$' → wordAt cs ∉ names.map String.toList) :
    markFrom names before 0 cs = markWords (names.map String.toList) before cs := by
  have hempty : [] ∉ names.map String.toList := fun h => (hnames [] h).1 rfl
  -- By induction on the length, since a name is passed over at once.
  induction hlength : cs.length using Nat.strong_induction_on generalizing before cs with
  | _ length ih =>
    cases cs with
    | nil => rfl
    | cons c rest =>
      have hshort : rest.length < length := by
        rw [← hlength, List.length_cons]
        omega
      have hbehind : ∀ after, after.length ≤ rest.length → NoWord after → ∀ b,
          markFrom names b 0 after = markWords (names.map String.toList) b after := by
        intro after hafter hnoword b
        refine ih after.length (by omega) b after (fun _ => ?_) rfl
        rwa [wordAt_eq_nil hnoword]
      rw [markFrom, markWords]
      by_cases hmark : c = '$'
      · -- At a mark, the word behind it is taken together with it, or the mark is copied alone.
        subst hmark
        have hcopy : ¬(before.any isWordChar = false ∧ before ≠ some '$' ∧
            wordAt ('$' :: rest) ∈ names.map String.toList) := by
          rw [wordAt_eq_nil (noWord_mark rest)]
          exact fun h => hempty h.2.2
        rw [occurrenceAt?_mark hnames, if_neg hcopy]
        by_cases hmem : wordAt rest ∈ names.map String.toList
        · have hstarted : Started (some '$') := .inr rfl
          rw [if_pos hmem, ← wordAt_append_markFrom hstarted rest hbehind]
          rfl
        · rw [if_neg hmem, ← ih rest.length hshort (some '$') rest (fun _ => hmem) rfl]
      · rw [occurrenceAt?_bare hnames before hmark]
        by_cases hname : before.any isWordChar = false ∧
            wordAt (c :: rest) ∈ names.map String.toList
        · -- A name is marked and passed over.
          have hunmarked : before ≠ some '$' := fun h => hstart h hname.2
          have hc : isWordChar c = true := by
            by_contra hc
            have hnoword : NoWord (c :: rest) := Bool.eq_false_iff.2 hc
            rw [wordAt_eq_nil hnoword] at hname
            exact hempty hname.2
          have hstarted : Started (some c) := .inl hc
          rw [if_pos hname, if_pos ⟨hname.1, hunmarked, hname.2⟩, wordAt_cons hc,
            ← wordAt_append_markFrom hstarted rest hbehind]
          rfl
        · -- Any other character is copied.
          rw [if_neg hname, if_neg fun h => hname ⟨h.1, h.2.2⟩]
          have hother : some c = some '$' → wordAt rest ∉ names.map String.toList :=
            fun h => absurd (Option.some.inj h) hmark
          rw [← ih rest.length hshort (some c) rest hother rfl]

end Marking

/-! ## The names to mark -/

/-- The names that are searched for: the listed ones without their marks, and the generic ones. -/
theorem mem_searchNames {listed : List String} {name : String} : name ∈ searchNames listed ↔
    (name ≠ "" ∧ ∃ register ∈ listed, unmarked register = name) ∨ name ∈ generic := by
  simp only [searchNames, List.mem_mergeSort, List.mem_eraseDups, List.mem_append, List.mem_filter,
    List.mem_map, bne_iff_ne]
  rw [and_comm]

/-- An expression is marked word by word. -/
theorem toList_withMarks {listed : List String}
    (hnames : Words ((searchNames listed).map String.toList)) (expression : String) :
    (withMarks expression listed).toList =
      markWords ((searchNames listed).map String.toList) none expression.toList := by
  have hstart : (none : Option Char) = some '$' →
      wordAt expression.toList ∉ (searchNames listed).map String.toList := nofun
  rw [withMarks, String.toList_ofList, markFrom_eq_markWords hnames none _ hstart]

end DebugShell.Registers
