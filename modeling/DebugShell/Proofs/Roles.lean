import DebugShell.Proofs.Quoting

/-!
# Cutting a line loses nothing

A character of an argument line is one of four things: it belongs to a word, it is a quote around
characters, it is a backslash before one, or it separates words (`Role`). Which of them it is
depends on where it stands: outside of quotes, between quotes, or behind a backslash (`Place`). Each
character says where the next one stands (`Place.read`), so that every character of a line has one
role, and every line ends at one place.

Cutting a line keeps step with that. What one character does to the words is said once for all
places (`exists_cuts_singleton`), and by induction so is what a part of a line does (`exists_cuts`):
what has been read as content is in the words that are finished and in the one that has been
started, in order, and nothing else is. Where a part of a line ends outside of quotes, blanks finish
the word that has been started, and then the rest is cut as if it were a line by itself
(`words_append_gap`). At every other place blanks are content (`words_append_blanks_iff`).
-/

namespace DebugShell.Text

/-- There are no quotes and no backslashes in a text. -/
def IsUnquoted (cs : List Char) : Prop :=
  ∀ c ∈ cs, ¬(c = '"' ∨ c = '\'' ∨ c = '\\')

instance (cs : List Char) : Decidable (IsUnquoted cs) :=
  List.decidableBAll _ cs

/-! ## Roles and places -/

/-- What a character is on an argument line. -/
inductive Role where
  /-- It belongs to a word. -/
  | content
  /-- It is a quote that starts or ends a group of characters. -/
  | delimiter
  /-- It is a backslash that makes the next character an ordinary one. -/
  | escape
  /-- It is a blank between words. -/
  | separator
  deriving DecidableEq, Repr

/-- Where a character stands. -/
inductive Place where
  /-- Outside of quotes. -/
  | outside
  /-- Between double quotes. -/
  | double
  /-- Between single quotes. -/
  | single
  /-- Behind a backslash that stands outside of quotes. -/
  | escaped
  /-- Behind a backslash that stands between double quotes. -/
  | doubleEscaped
  deriving DecidableEq, Repr

namespace Place

/-- What a character is that stands at a place, and where the next one stands. -/
def read : Place → Char → Role × Place
  | outside, c =>
    if c = '"' then (.delimiter, double)
    else if c = '\'' then (.delimiter, single)
    else if c = '\\' then (.escape, escaped)
    else if isBlank c then (.separator, outside)
    else (.content, outside)
  | double, c =>
    if c = '"' then (.delimiter, outside)
    else if c = '\\' then (.escape, doubleEscaped)
    else (.content, double)
  | single, c => if c = '\'' then (.delimiter, outside) else (.content, single)
  | escaped, _ => (.content, outside)
  | doubleEscaped, _ => (.content, double)

/-- Where a character stands that follows others. -/
def after (p : Place) (cs : List Char) : Place :=
  cs.foldl (fun p c => (p.read c).2) p

/-- The characters with their roles. The first of them stands at the place. -/
def roles : Place → List Char → List (Char × Role)
  | _, [] => []
  | p, c :: rest => (c, (p.read c).1) :: roles (p.read c).2 rest

/-- The characters that belong to words. -/
def content (p : Place) (cs : List Char) : List Char :=
  ((p.roles cs).filter fun c => c.2 = .content).map Prod.fst

/-- Every character has a role. -/
theorem map_fst_roles (p : Place) (cs : List Char) : (p.roles cs).map Prod.fst = cs := by
  induction cs generalizing p with
  | nil => rfl
  | cons c rest ih => rw [roles, List.map_cons, ih]

/-- What follows a part of a line is read from the place where that part ends. -/
theorem roles_append (p : Place) (cs rest : List Char) :
    p.roles (cs ++ rest) = p.roles cs ++ (p.after cs).roles rest := by
  induction cs generalizing p with
  | nil => rfl
  | cons c cs ih =>
    rw [List.cons_append, roles, ih, roles, List.cons_append]
    rfl

/-- The content of a part of a line comes before the content of what follows it. -/
theorem content_append (p : Place) (cs rest : List Char) :
    p.content (cs ++ rest) = p.content cs ++ (p.after cs).content rest := by
  rw [content, roles_append, List.filter_append, List.map_append]
  rfl

/-- A blank that does not stand outside of quotes is content. -/
theorem content_cons_of_blank {p : Place} (hp : p ≠ outside) {c : Char} (hc : isBlank c = true)
    (rest : List Char) : p.content (c :: rest) = c :: (p.read c).2.content rest := by
  have hspecial : ¬(c = '"' ∨ c = '\'' ∨ c = '\\') := by
    intro h
    rw [isBlank_of_special h] at hc
    cases hc
  have hrole : (p.read c).1 = .content := by
    cases p with
    | outside => exact absurd rfl hp
    | double => rw [read, if_neg (by tauto), if_neg (by tauto)]
    | single => rw [read, if_neg (by tauto)]
    | escaped => rfl
    | doubleEscaped => rfl
  rw [content, roles, hrole, List.filter_cons_of_pos (by rfl)]
  rfl

end Place

/-! ## Cutting from a place -/

/-- The words of the rest of a line that has been cut up to a place. `word` is the word that has
been started, if one has. -/
def wordsAt : Place → Option (List Char) → List Char → List (List Char)
  | .outside, word, rest => wordsFrom none word rest
  | .double, word, rest => wordsFrom (some '"') word rest
  | .single, word, rest => wordsFrom (some '\'') word rest
  | .escaped, word, rest => wordsFrom none word ('\\' :: rest)
  | .doubleEscaped, word, rest => wordsFrom (some '"') word ('\\' :: rest)

/-- At the end of a line there is the word that has been started, wherever the line ends. -/
theorem wordsAt_nil (p : Place) (word : Option (List Char)) : wordsAt p word [] = word.toList := by
  cases p with
  | outside => rfl
  | double => rfl
  | single => rfl
  | escaped => rw [wordsAt, wordsFrom, if_neg (by decide), if_pos rfl]
  | doubleEscaped => rw [wordsAt, wordsFrom, if_neg (by decide), if_neg (by decide), if_pos rfl]

/-- `Cuts p word cs finished started`: from the place `p`, where `word` has been started, the
characters `cs` finish some words and leave one started. -/
structure Cuts (p : Place) (word : Option (List Char)) (cs : List Char)
    (finished : List (List Char)) (started : Option (List Char)) : Prop where
  /-- The finished words come first, whatever follows. -/
  words_eq : ∀ rest,
    wordsAt p word (cs ++ rest) = finished ++ wordsAt (p.after cs) started rest
  /-- The content of the characters has been added to the words, at their end. -/
  content_eq : finished.flatten ++ started.getD [] = word.getD [] ++ p.content cs

/-- What one character does to the words follows from its role, and from where the next character
stands. -/
theorem Cuts.of_read {p next : Place} {role : Role} {word started : Option (List Char)} {c : Char}
    {finished : List (List Char)} (hread : p.read c = (role, next))
    (hwords : ∀ rest, wordsAt p word (c :: rest) = finished ++ wordsAt next started rest)
    (hcontent : finished.flatten ++ started.getD [] =
      word.getD [] ++ if role = .content then [c] else []) :
    Cuts p word [c] finished started := by
  constructor
  · intro rest
    have hafter : p.after [c] = next := congrArg Prod.snd hread
    rw [hafter]
    exact hwords rest
  · have hrole : p.content [c] = if role = .content then [c] else [] := by
      rw [Place.content, Place.roles, Place.roles, hread]
      cases role <;> rfl
    rw [hrole]
    exact hcontent

/-- A character of a word is added to the word that has been started, or starts one. -/
theorem Cuts.of_content {p next : Place} {word : Option (List Char)} {c : Char}
    (hread : p.read c = (.content, next))
    (hwords : ∀ rest, wordsAt p word (c :: rest) = wordsAt next (some (word.getD [] ++ [c])) rest) :
    Cuts p word [c] [] (some (word.getD [] ++ [c])) :=
  .of_read hread hwords rfl

/-- A quote or a backslash adds nothing to the word, though it may start one. -/
theorem Cuts.of_mark {p next : Place} {role : Role} {word started : Option (List Char)} {c : Char}
    (hread : p.read c = (role, next)) (hrole : role ≠ .content)
    (hstarted : started.getD [] = word.getD [])
    (hwords : ∀ rest, wordsAt p word (c :: rest) = wordsAt next started rest) :
    Cuts p word [c] [] started := by
  refine .of_read hread hwords ?_
  rw [if_neg hrole, List.append_nil]
  exact hstarted

/-- A blank between words finishes the word that has been started. -/
theorem Cuts.of_separator {p next : Place} {word : Option (List Char)} {c : Char}
    (hread : p.read c = (.separator, next))
    (hwords : ∀ rest, wordsAt p word (c :: rest) = word.toList ++ wordsAt next none rest) :
    Cuts p word [c] word.toList none := by
  refine .of_read hread hwords ?_
  cases word with
  | none => rfl
  | some word =>
    rw [Option.toList_some, List.flatten_singleton]
    rfl

/-- Every character that stands outside of quotes cuts. -/
theorem exists_cuts_outside (word : Option (List Char)) (c : Char) :
    ∃ finished started, Cuts .outside word [c] finished started := by
  by_cases hdouble : c = '"'
  · subst hdouble
    exact ⟨_, some (word.getD []), .of_mark rfl nofun rfl fun rest =>
      wordsFrom_open word rest (.inl rfl)⟩
  by_cases hsingle : c = '\''
  · subst hsingle
    exact ⟨_, some (word.getD []), .of_mark rfl nofun rfl fun rest =>
      wordsFrom_open word rest (.inr rfl)⟩
  by_cases hescape : c = '\\'
  · -- The backslash is kept until the next character has been read.
    subst hescape
    exact ⟨_, _, .of_mark rfl nofun rfl fun _ => rfl⟩
  have hread : Place.outside.read c =
      if isBlank c then (.separator, .outside) else (.content, .outside) := by
    rw [Place.read, if_neg hdouble, if_neg hsingle, if_neg hescape]
  cases hblank : isBlank c with
  | true =>
    rw [hblank, if_pos rfl] at hread
    exact ⟨_, _, .of_separator hread fun rest => wordsFrom_blank word rest hblank⟩
  | false =>
    rw [hblank, if_neg Bool.false_ne_true] at hread
    exact ⟨_, _, .of_content hread fun rest => wordsFrom_plain word rest (by tauto) hblank⟩

/-- So does every character that stands elsewhere. -/
theorem exists_cuts_singleton (p : Place) (word : Option (List Char)) (c : Char) :
    ∃ finished started, Cuts p word [c] finished started := by
  cases p with
  | outside => exact exists_cuts_outside word c
  | double =>
    by_cases hclose : c = '"'
    · subst hclose
      exact ⟨_, _, .of_mark rfl nofun rfl fun rest => wordsFrom_close word rest '"'⟩
    by_cases hescape : c = '\\'
    · subst hescape
      exact ⟨_, _, .of_mark rfl nofun rfl fun _ => rfl⟩
    have hread : Place.double.read c = (.content, .double) := by
      rw [Place.read, if_neg hclose, if_neg hescape]
    exact ⟨_, _, .of_content hread fun rest => wordsFrom_double word rest (by tauto)⟩
  | single =>
    by_cases hclose : c = '\''
    · subst hclose
      exact ⟨_, _, .of_mark rfl nofun rfl fun rest => wordsFrom_close word rest '\''⟩
    have hread : Place.single.read c = (.content, .single) := by
      rw [Place.read, if_neg hclose]
    exact ⟨_, _, .of_content hread fun rest => wordsFrom_single word rest hclose⟩
  | escaped => exact ⟨_, _, .of_content rfl fun rest => wordsFrom_escape word rest c⟩
  | doubleEscaped => exact ⟨_, _, .of_content rfl fun rest => wordsFrom_double_escape word rest c⟩

/-- What is cut after what has been cut. -/
theorem Cuts.append {p : Place} {word middle started : Option (List Char)} {cs ds : List Char}
    {first second : List (List Char)} (h : Cuts p word cs first middle)
    (h' : Cuts (p.after cs) middle ds second started) :
    Cuts p word (cs ++ ds) (first ++ second) started := by
  constructor
  · intro rest
    rw [List.append_assoc, h.words_eq, h'.words_eq, List.append_assoc, Place.after, Place.after,
      Place.after, List.foldl_append]
  · rw [List.flatten_append, List.append_assoc, h'.content_eq, ← List.append_assoc, h.content_eq,
      Place.content_append, List.append_assoc]

/-- Every part of a line cuts, wherever it stands. -/
theorem exists_cuts (p : Place) (word : Option (List Char)) (cs : List Char) :
    ∃ finished started, Cuts p word cs finished started := by
  induction cs generalizing p word with
  | nil => exact ⟨[], word, fun _ => rfl, (List.append_nil _).symm⟩
  | cons c cs ih =>
    obtain ⟨first, middle, hfirst⟩ := exists_cuts_singleton p word c
    obtain ⟨second, started, hsecond⟩ := ih (p.after [c]) middle
    exact ⟨_, _, hfirst.append hsecond⟩

/-- The words that a part of a line is cut into by itself. -/
theorem Cuts.wordsAt_eq {p : Place} {word started : Option (List Char)} {cs : List Char}
    {finished : List (List Char)} (h : Cuts p word cs finished started) :
    wordsAt p word cs = finished ++ started.toList := by
  have hend := h.words_eq []
  rwa [List.append_nil, wordsAt_nil] at hend

/-! ## What cutting a line comes to -/

/-- The words of a line, joined, are its content. -/
theorem flatten_words (line : List Char) : (words line).flatten = Place.outside.content line := by
  obtain ⟨finished, started, hcuts⟩ := exists_cuts .outside none line
  have hstarted : started.toList.flatten = started.getD [] := by
    cases started with
    | none => rfl
    | some word => exact List.flatten_singleton
  have hwords : words line = finished ++ started.toList := hcuts.wordsAt_eq
  calc (words line).flatten = (finished ++ started.toList).flatten := by rw [hwords]
    _ = finished.flatten ++ started.getD [] := by rw [List.flatten_append, hstarted]
    _ = Place.outside.content line := hcuts.content_eq

/-- A line that ends outside of quotes and one that follows it after blanks are cut separately. -/
theorem words_append_gap {line gap : List Char} (h : Place.outside.after line = .outside)
    (hne : gap ≠ []) (hgap : ∀ c ∈ gap, isBlank c = true) (rest : List Char) :
    words (line ++ (gap ++ rest)) = words line ++ words rest := by
  obtain ⟨finished, started, hcuts⟩ := exists_cuts .outside none line
  obtain ⟨c, blanks, rfl⟩ := List.exists_cons_of_ne_nil hne
  rw [List.forall_mem_cons] at hgap
  calc words (line ++ (c :: blanks ++ rest))
      = finished ++ wordsFrom none started (c :: (blanks ++ rest)) := by
        rw [← List.cons_append, ← wordsAt, ← h]
        exact hcuts.words_eq (c :: blanks ++ rest)
    _ = finished ++ (started.toList ++ words rest) := by
        rw [wordsFrom_blank _ _ hgap.1, wordsFrom_blanks hgap.2]
        rfl
    _ = words line ++ words rest := by
        rw [← List.append_assoc, ← hcuts.wordsAt_eq]
        rfl

/-- Blanks behind a line make no difference to its words exactly if the line ends outside of quotes
and not behind a backslash, or there are none. -/
theorem words_append_blanks_iff (line : List Char) {blanks : List Char}
    (h : ∀ c ∈ blanks, isBlank c = true) : words (line ++ blanks) = words line ↔
      Place.outside.after line = .outside ∨ blanks = [] := by
  constructor
  · intro hwords
    by_contra hnot
    rw [not_or] at hnot
    obtain ⟨hplace, hne⟩ := hnot
    obtain ⟨c, others, rfl⟩ := List.exists_cons_of_ne_nil hne
    -- The first of the blanks would be content, and then there is more of it.
    have hcontent := congrArg List.flatten hwords
    rw [flatten_words, flatten_words, Place.content_append,
      Place.content_cons_of_blank hplace (h c List.mem_cons_self),
      List.append_right_eq_self] at hcontent
    exact absurd hcontent (List.cons_ne_nil _ _)
  · rintro (hplace | rfl)
    · by_cases hne : blanks = []
      · rw [hne, List.append_nil]
      · have hgap := words_append_gap hplace hne h []
        rw [List.append_nil] at hgap
        rw [hgap]
        exact List.append_nil _
    · rw [List.append_nil]

/-- Nothing in front of the first part leaves the parts as they are. -/
theorem modifyHead_nil_append (parts : List (List Char)) : parts.modifyHead ([] ++ ·) = parts :=
  congrFun List.modifyHead_id parts

/-- A word that has been started is not empty, and is kept among the words that are not. -/
theorem filter_started {word : Option (List Char)} (h : word ≠ some [])
    (others : List (List Char)) :
    (word.getD [] :: others).filter (· ≠ []) = word.toList ++ others.filter (· ≠ []) := by
  cases word with
  | none => rfl
  | some word =>
    have hne : word ≠ [] := fun hnil => h (congrArg some hnil)
    exact List.filter_cons_of_pos (decide_eq_true hne)

/-- Where there are no quotes and no backslashes, the words are what stands between blanks; the
first of them goes on with the word that has been started. -/
theorem wordsFrom_of_unquoted {cs : List Char} (h : IsUnquoted cs) {word : Option (List Char)}
    (hword : word ≠ some []) :
    wordsFrom none word cs =
      ((cs.splitOnP isBlank).modifyHead (word.getD [] ++ ·)).filter (· ≠ []) := by
  induction cs generalizing word with
  | nil =>
    rw [List.splitOnP_nil, List.modifyHead_cons, List.append_nil, filter_started hword]
    exact (List.append_nil _).symm
  | cons c cs ih =>
    obtain ⟨hc', hcs⟩ := List.forall_mem_cons.1 h
    rw [List.splitOnP_cons_eq_if_modifyHead]
    cases hc : isBlank c with
    | true =>
      have hnone : none ≠ some ([] : List Char) := nofun
      rw [if_pos rfl, wordsFrom_blank word cs hc, ih hcs hnone, List.modifyHead_cons,
        List.append_nil, filter_started hword, Option.getD_none, modifyHead_nil_append]
    | false =>
      have hlonger : some (word.getD [] ++ [c]) ≠ some [] := by simp
      rw [if_neg Bool.false_ne_true, wordsFrom_plain word cs hc' hc, ih hcs hlonger,
        List.modifyHead_modifyHead]
      simp only [Option.getD_some, List.append_assoc, List.singleton_append]
      rfl

/-- A line without quotes and backslashes is cut at runs of blanks. -/
theorem words_of_unquoted {line : List Char} (h : IsUnquoted line) :
    words line = (line.splitOnP isBlank).filter (· ≠ []) := by
  have hnone : none ≠ some ([] : List Char) := nofun
  rw [words, wordsFrom_of_unquoted h hnone, Option.getD_none, modifyHead_nil_append]

end DebugShell.Text

namespace String

open DebugShell.Text

/-- The line is read to its end outside of quotes, and does not end in a backslash with nothing to
escape. -/
def EndsOutside (line : String) : Prop :=
  Place.outside.after line.toList = .outside

instance (line : String) : Decidable line.EndsOutside :=
  inferInstanceAs (Decidable (_ = _))

/-- How the words of a line are found in it. -/
structure CutsFaithfully (line : String) : Prop where
  /-- If the line ends outside of quotes, what follows it after blanks is cut by itself. -/
  append : line.EndsOutside → ∀ gap rest : String, gap ≠ "" →
    (∀ c ∈ gap.toList, isBlank c = true) →
    (line ++ gap ++ rest).argumentWords = line.argumentWords ++ rest.argumentWords
  /-- If there are no quotes and no backslashes in it, its words are what stands between blanks. -/
  unquoted : IsUnquoted line.toList →
    line.argumentWords.map toList = (line.toList.splitOnP isBlank).filter (· ≠ [])
  /-- Every character of it has a role. -/
  roles : (Place.outside.roles line.toList).map Prod.fst = line.toList
  /-- Its words, joined, are the characters in the role of content, in order. -/
  content : (String.join line.argumentWords).toList =
    ((Place.outside.roles line.toList).filter fun c => c.2 = .content).map Prod.fst

/-- The characters of the words of a line. -/
theorem map_toList_argumentWords (line : String) :
    line.argumentWords.map toList = words line.toList := by
  rw [argumentWords, List.map_map]
  exact (List.map_congr_left fun word _ => toList_ofList).trans (List.map_id _)

/-- Every line is cut faithfully. -/
theorem cutting_composes_and_keeps_content (line : String) : CutsFaithfully line where
  append := by
    intro hends gap rest hne hgap
    have hne' : gap.toList ≠ [] := fun hnil => hne (String.toList_eq_nil_iff.1 hnil)
    rw [argumentWords, toList_append, toList_append, List.append_assoc,
      words_append_gap hends hne' hgap, List.map_append]
    rfl
  unquoted := fun hunquoted => (map_toList_argumentWords line).trans (words_of_unquoted hunquoted)
  roles := Place.map_fst_roles .outside line.toList
  content := by
    rw [toList_join, List.flatMap_def, map_toList_argumentWords, flatten_words]
    rfl

/-- A group in the middle of a word, and a backslash at the end. -/
example : Place.outside.roles "a'\\ '\\".toList =
    [('a', .content), ('\'', .delimiter), ('\\', .content), (' ', .content), ('\'', .delimiter),
      ('\\', .escape)] := by decide

end String
