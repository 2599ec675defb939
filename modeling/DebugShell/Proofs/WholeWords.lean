import DebugShell.Proofs.Marks
import Mathlib.Data.List.Permutation

/-!
# Marks stand before whole words

`MarkDue` says where a text lacks a mark: before a longest run of word characters that is one of the
names, if no mark stands before it already. Marking cuts the text at these places, once at each, and
joins the parts by marks (`exists_parts_markWords`). It adds nothing else, and whatever the names
are, joining the parts by nothing gives the text back.

The rest follows. In a marked text no mark is due any more, because behind a mark the first word is
still the first word (`markWords_markWords`). And two lists of names that agree on the runs of a
text mark it alike (`markWords_congr`), so that it does not matter how a name is listed, or what
other names begin with it.
-/

namespace DebugShell.Registers

open Text (isWordChar)

/-- `IsRun before word after`: in the text `before ++ word ++ after`, `word` is a longest run of
word characters. -/
structure IsRun (before word after : List Char) : Prop where
  /-- It is not empty. -/
  ne_nil : word ≠ []
  /-- It is made of word characters. -/
  isWordChar : ∀ c ∈ word, isWordChar c = true
  /-- No word character stands before it. -/
  starts : before.getLast?.any Text.isWordChar = false
  /-- No word character stands behind it. -/
  ends : after.head?.any Text.isWordChar = false

/-- `MarkDue names before rest`: between the two parts of a text, the second of which starts with
one of the names as a run, a mark is missing. -/
def MarkDue (names : List (List Char)) (before rest : List Char) : Prop :=
  ∃ word after, rest = word ++ after ∧ IsRun before word after ∧ word ∈ names ∧
    before.getLast? ≠ some '$'

/-- `IsSeam parts left right`: the parts are of a text that is cut between `left` and `right`. -/
def IsSeam (parts : List (List Char)) (left right : List Char) : Prop :=
  ∃ front back, parts = front ++ back ∧ front ≠ [] ∧ back ≠ [] ∧
    front.flatten = left ∧ back.flatten = right

/-! ## Where marks are due -/

/-- A mark is due before the word that starts the rest, if it is a name and neither a word character
nor a mark stands before it. -/
theorem markDue_iff {names : List (List Char)} (hnames : Words names) (before rest : List Char) :
    MarkDue names before rest ↔ before.getLast?.any isWordChar = false ∧
      before.getLast? ≠ some '$' ∧ wordAt rest ∈ names := by
  constructor
  · rintro ⟨word, after, rfl, hrun, hmem, hmark⟩
    refine ⟨hrun.starts, hmark, ?_⟩
    rwa [wordAt_append hrun.ends, wordAt_eq_self hrun.isWordChar]
  · rintro ⟨hstarts, hmark, hmem⟩
    obtain ⟨after, hrest, hends⟩ := exists_wordAt_append rest
    obtain ⟨hne, hword⟩ := hnames _ hmem
    exact ⟨wordAt rest, after, hrest, ⟨hne, hword, hstarts, hends⟩, hmem, hmark⟩

/-! ## Cutting a text where marks are due -/

/-- The cuts between parts are the one behind the first part, and those between the others. -/
theorem isSeam_cons (part : List Char) (parts : List (List Char)) (left right : List Char) :
    IsSeam (part :: parts) left right ↔ parts ≠ [] ∧ left = part ∧ right = parts.flatten ∨
      ∃ left', left = part ++ left' ∧ IsSeam parts left' right := by
  constructor
  · rintro ⟨front, back, hparts, hfront, hback, rfl, rfl⟩
    obtain ⟨first, front, rfl⟩ := List.exists_cons_of_ne_nil hfront
    cases hparts
    cases front with
    | nil => exact .inl ⟨hback, List.append_nil part, rfl⟩
    | cons next others =>
      exact .inr ⟨_, List.flatten_cons, next :: others, back, rfl, List.cons_ne_nil _ _, hback, rfl,
        rfl⟩
  · rintro (⟨hparts, rfl, rfl⟩ | ⟨left', rfl, front, back, rfl, hfront, hback, rfl, rfl⟩)
    · exact ⟨[left], parts, rfl, List.cons_ne_nil _ _, hparts, List.append_nil left, rfl⟩
    · exact ⟨part :: front, back, rfl, List.cons_ne_nil _ _, hback, rfl, rfl⟩

/-- A character in front of the first part stands in front of everything before a cut. -/
theorem isSeam_cons_cons (c : Char) (part : List Char) (parts : List (List Char))
    (left right : List Char) : IsSeam ((c :: part) :: parts) left right ↔
      ∃ left', left = c :: left' ∧ IsSeam (part :: parts) left' right := by
  simp only [isSeam_cons]
  constructor
  · rintro (⟨hparts, rfl, rfl⟩ | ⟨left', rfl, h⟩)
    · exact ⟨part, rfl, .inl ⟨hparts, rfl, rfl⟩⟩
    · exact ⟨part ++ left', rfl, .inr ⟨left', rfl, h⟩⟩
  · rintro ⟨left', rfl, ⟨hparts, rfl, rfl⟩ | ⟨left', rfl, h⟩⟩
    · exact .inl ⟨hparts, rfl, rfl⟩
    · exact .inr ⟨left', rfl, h⟩

/-- Where nothing is cut, there is no cut. -/
theorem not_isSeam_nil (left right : List Char) : ¬IsSeam [] left right := by
  rintro ⟨front, back, hparts, hfront, -⟩
  exact hfront (List.append_eq_nil_iff.1 hparts.symm).1

/-- A character in front of the first part stands in front of the parts joined. -/
theorem intercalate_cons_cons (sep : List Char) (c : Char) (part : List Char)
    (parts : List (List Char)) :
    sep.intercalate ((c :: part) :: parts) = c :: sep.intercalate (part :: parts) := by
  cases parts with
  | nil => rw [List.intercalate_singleton, List.intercalate_singleton]
  | cons next others =>
    rw [List.intercalate_cons_cons, List.intercalate_cons_cons, List.cons_append, List.cons_append]

/-- At the end of a text no mark is due. -/
theorem not_markDue_nil (names : List (List Char)) (before : List Char) :
    ¬MarkDue names before [] := by
  rintro ⟨word, after, hcs, hrun, -⟩
  exact hrun.ne_nil (List.append_eq_nil_iff.1 hcs.symm).1

/-- If the rest of a text is cut where marks are due, then so is the whole text behind its first
character. -/
theorem isSeam_behind {names : List (List Char)} {before rest part : List Char} {c : Char}
    {parts : List (List Char)} (h : ∀ left right, IsSeam (part :: parts) left right ↔
      left ++ right = rest ∧ MarkDue names (before ++ [c] ++ left) right)
    (left right : List Char) : IsSeam ((c :: part) :: parts) left right ↔
      left ≠ [] ∧ left ++ right = c :: rest ∧ MarkDue names (before ++ left) right := by
  simp only [isSeam_cons_cons, h, List.append_assoc, List.singleton_append]
  constructor
  · rintro ⟨left', rfl, hcs, hdue⟩
    exact ⟨List.cons_ne_nil c left', by rw [List.cons_append, hcs], hdue⟩
  · rintro ⟨hleft, hcs, hdue⟩
    obtain ⟨d, left', rfl⟩ := List.exists_cons_of_ne_nil hleft
    rw [List.cons_append, List.cons.injEq] at hcs
    obtain ⟨rfl, hcs⟩ := hcs
    exact ⟨left', rfl, hcs, hdue⟩

/-- Marking cuts a text where marks are due, and joins the parts by marks. `before` is the text in
front. -/
theorem exists_parts_markWords {names : List (List Char)} (hnames : Words names)
    (before cs : List Char) : ∃ part parts, part ++ parts.flatten = cs ∧
      ['$'].intercalate (part :: parts) = markWords names before.getLast? cs ∧
      (∀ other ∈ parts, other ≠ []) ∧
      ∀ left right, IsSeam (part :: parts) left right ↔
        left ++ right = cs ∧ MarkDue names (before ++ left) right := by
  induction cs generalizing before with
  | nil =>
    refine ⟨[], [], rfl, rfl, List.forall_mem_nil _, fun left right => ?_⟩
    rw [isSeam_cons]
    constructor
    · rintro (⟨hparts, -⟩ | ⟨left', -, hseam⟩)
      · exact absurd rfl hparts
      · exact absurd hseam (not_isSeam_nil left' right)
    · rintro ⟨hcs, hdue⟩
      rw [(List.append_eq_nil_iff.1 hcs).2] at hdue
      exact absurd hdue (not_markDue_nil names _)
  | cons c rest ih =>
    obtain ⟨part, parts, hflatten, hjoin, hne, hseam⟩ := ih (before ++ [c])
    rw [List.getLast?_concat] at hjoin
    -- Behind the first character the cuts are the same, whether there is one before it or not.
    have hbehind := isSeam_behind hseam
    rw [markWords]
    by_cases hdue : MarkDue names before (c :: rest)
    · have hjoined : ((c :: part) :: parts).flatten = c :: rest := by
        rw [List.flatten_cons, List.cons_append, hflatten]
      refine ⟨[], (c :: part) :: parts, hjoined, ?_, ?_, fun left right => ?_⟩
      · rw [if_pos ((markDue_iff hnames _ _).1 hdue), List.intercalate_cons_cons,
          intercalate_cons_cons, hjoin]
        rfl
      · exact List.forall_mem_cons.2 ⟨List.cons_ne_nil c part, hne⟩
      · rw [isSeam_cons, hjoined]
        constructor
        · rintro (⟨-, rfl, rfl⟩ | ⟨left', rfl, h⟩)
          · exact ⟨rfl, by rwa [List.append_nil]⟩
          · exact ((hbehind ..).1 h).2
        · rintro ⟨hcs, h⟩
          by_cases hleft : left = []
          · exact .inl ⟨List.cons_ne_nil _ _, hleft, by rwa [hleft] at hcs⟩
          · exact .inr ⟨left, rfl, (hbehind ..).2 ⟨hleft, hcs, h⟩⟩
    · refine ⟨c :: part, parts, ?_, ?_, hne, fun left right => ?_⟩
      · rw [List.cons_append, hflatten]
      · rw [if_neg fun h => hdue ((markDue_iff hnames _ _).2 h), intercalate_cons_cons, hjoin]
      · rw [hbehind]
        constructor
        · rintro ⟨-, h⟩
          exact h
        · rintro ⟨hcs, h⟩
          refine ⟨?_, hcs, h⟩
          rintro rfl
          rw [List.nil_append] at hcs
          rw [List.append_nil, hcs] at h
          exact hdue h

/-! ## Marking again -/

/-- What no word starts, no word starts once it is marked. -/
theorem noWord_markWords (names : List (List Char)) (before : Option Char) {cs : List Char}
    (h : NoWord cs) : NoWord (markWords names before cs) := by
  cases cs with
  | nil => exact h
  | cons c rest =>
    rw [markWords]
    split
    · exact noWord_mark _
    · exact h

/-- Marking what follows a word character leaves the word that it goes on with. -/
theorem wordAt_markWords {names : List (List Char)} {c : Char} (hc : isWordChar c = true)
    (cs : List Char) : wordAt (markWords names (some c) cs) = wordAt cs := by
  obtain ⟨after, hcs, hafter⟩ := exists_wordAt_append cs
  have hword : ∀ d ∈ wordAt cs, isWordChar d = true := fun d hd => List.mem_takeWhile_imp hd
  have hstarted : Started (some c) := .inl hc
  generalize wordAt cs = word at hcs hword ⊢
  rw [hcs, markWords_started hstarted hword, wordAt_append (noWord_markWords names _ hafter),
    wordAt_eq_self hword]

/-- In a marked text no mark is missing. -/
theorem markWords_markWords {names : List (List Char)} (hempty : [] ∉ names)
    (before : Option Char) (cs : List Char) :
    markWords names before (markWords names before cs) = markWords names before cs := by
  induction cs generalizing before with
  | nil => rfl
  | cons c rest ih =>
    by_cases hdue : before.any isWordChar = false ∧ before ≠ some '$' ∧ wordAt (c :: rest) ∈ names
    · -- The mark is copied, and behind it nothing is marked.
      have hmarked : ¬((some '$').any isWordChar = false ∧ some '$' ≠ some '$' ∧
          wordAt (c :: markWords names (some c) rest) ∈ names) := fun h => h.2.1 rfl
      rw [markWords, if_pos hdue, markWords_mark hempty, markWords, if_neg hmarked, ih]
    · have hsame : wordAt (c :: markWords names (some c) rest) ∈ names →
          wordAt (c :: rest) ∈ names := by
        intro hmem
        cases hc : isWordChar c with
        | true => rwa [wordAt_cons hc, wordAt_markWords hc, ← wordAt_cons hc] at hmem
        | false =>
          have hnoword : NoWord (c :: markWords names (some c) rest) := hc
          rw [wordAt_eq_nil hnoword] at hmem
          exact absurd hmem hempty
      rw [markWords, if_neg hdue, markWords, if_neg fun h => hdue ⟨h.1, h.2.1, hsame h.2.2⟩, ih]

/-! ## Other names -/

/-- Lists of names that agree on the runs of a text mark it alike. `before` is the text in front. -/
theorem markWords_congr {names names' : List (List Char)} (hnames : Words names)
    (hnames' : Words names') (before cs : List Char)
    (h : ∀ left word after, cs = left ++ (word ++ after) → IsRun (before ++ left) word after →
      (word ∈ names ↔ word ∈ names')) :
    markWords names before.getLast? cs = markWords names' before.getLast? cs := by
  induction cs generalizing before with
  | nil => rfl
  | cons c rest ih =>
    have hdue : MarkDue names before (c :: rest) ↔ MarkDue names' before (c :: rest) := by
      constructor
      · rintro ⟨word, after, hcs, hrun, hmem, hmark⟩
        exact ⟨word, after, hcs, hrun, (h [] word after hcs (by rwa [List.append_nil])).1 hmem,
          hmark⟩
      · rintro ⟨word, after, hcs, hrun, hmem, hmark⟩
        exact ⟨word, after, hcs, hrun, (h [] word after hcs (by rwa [List.append_nil])).2 hmem,
          hmark⟩
    have hrest : markWords names (some c) rest = markWords names' (some c) rest := by
      have hbehind := ih (before ++ [c]) fun left word after hcs hrun => by
        refine h (c :: left) word after (by rw [hcs, List.cons_append]) ?_
        rwa [List.append_assoc, List.singleton_append] at hrun
      rwa [List.getLast?_concat] at hbehind
    rw [markDue_iff hnames, markDue_iff hnames'] at hdue
    rw [markWords, markWords, if_congr hdue rfl rfl, hrest]

/-! ## Marking the registers of an expression -/

/-- The words that are names: those listed, without the marks in front of them, and the generic
ones. -/
def namesOf (listed : List String) : List (List Char) :=
  (listed.map unmarked ++ generic).map String.toList

/-- `ListsWords listed`: the listed names are made of word characters, but for the marks in front of
them. -/
def ListsWords (listed : List String) : Prop :=
  ∀ name ∈ listed.map unmarked, ∀ c ∈ name.toList, isWordChar c = true

instance (listed : List String) : Decidable (ListsWords listed) :=
  decidable_of_iff ((listed.map unmarked).all fun name => name.toList.all isWordChar) <| by
    simp only [List.all_eq_true]
    rfl

/-- What can be relied on when the listed names are marked in an expression. -/
structure WholeWordMarking (listed : List String) : Prop where
  /-- An expression is cut in front of each longest run of word characters that is a name and has no
  mark before it, there and nowhere else, and the parts are joined by marks. So without the new
  marks it is the expression that it was. -/
  inserted : ∀ expression : String, ∃ parts : List (List Char),
    parts.flatten = expression.toList ∧
    ['$'].intercalate parts = (withMarks expression listed).toList ∧
    (∀ part ∈ parts.tail, part ≠ []) ∧
    ∀ left right, IsSeam parts left right ↔
      left ++ right = expression.toList ∧ MarkDue (namesOf listed) left right
  /-- An expression that has been marked stays as it is. -/
  idempotent : ∀ expression,
    withMarks (withMarks expression listed) listed = withMarks expression listed
  /-- It makes no difference in which order the names are listed, how often, and with how many marks
  in front of them. -/
  listing : ∀ listed' : List String,
    (∀ name, name ∈ listed'.map unmarked ↔ name ∈ listed.map unmarked) →
    ∀ expression, withMarks expression listed' = withMarks expression listed
  /-- A name makes no difference where it is no whole run of the expression, be it that others begin
  with it. -/
  absent : ∀ (register expression : String), ListsWords [register] →
    (∀ left word after, expression.toList = left ++ (word ++ after) → IsRun left word after →
      word ≠ (unmarked register).toList) →
    withMarks expression (register :: listed) = withMarks expression listed

/-- The words that are searched for are the names, but for the empty one. -/
theorem mem_map_searchNames (listed : List String) (word : List Char) :
    word ∈ (searchNames listed).map String.toList ↔ word ≠ [] ∧ word ∈ namesOf listed := by
  simp only [namesOf, List.mem_map (f := String.toList), List.mem_append, mem_searchNames]
  constructor
  · rintro ⟨name, ⟨hne, register, hregister, rfl⟩ | hgeneric, rfl⟩
    · exact ⟨fun hnil => hne (String.toList_eq_nil_iff.1 hnil), unmarked register,
        .inl (List.mem_map_of_mem hregister), rfl⟩
    · refine ⟨fun hnil => ?_, name, .inr hgeneric, rfl⟩
      rw [String.toList_eq_nil_iff.1 hnil] at hgeneric
      exact absurd hgeneric (by decide)
  · rintro ⟨hne, name, hlisted | hgeneric, rfl⟩
    · obtain ⟨register, hregister, rfl⟩ := List.mem_map.1 hlisted
      exact ⟨unmarked register, .inl ⟨fun hempty => hne (String.toList_eq_nil_iff.2 hempty),
        register, hregister, rfl⟩, rfl⟩
    · exact ⟨name, .inr hgeneric, rfl⟩

/-- They are words if the listed names are. -/
theorem words_searchNames {listed : List String} (h : ListsWords listed) :
    Words ((searchNames listed).map String.toList) := by
  intro word hmem
  obtain ⟨hne, hnamed⟩ := (mem_map_searchNames listed word).1 hmem
  obtain ⟨name, hname, rfl⟩ := List.mem_map.1 hnamed
  rcases List.mem_append.1 hname with hlisted | hgeneric
  · exact ⟨hne, h name hlisted⟩
  · have hall : generic.all (fun name => name.toList.all isWordChar) = true := by decide
    exact ⟨hne, List.all_eq_true.1 (List.all_eq_true.1 hall name hgeneric)⟩

/-- So a mark is due for a name exactly if it is for a word that is searched for. -/
theorem markDue_searchNames (listed : List String) (before rest : List Char) :
    MarkDue ((searchNames listed).map String.toList) before rest ↔
      MarkDue (namesOf listed) before rest := by
  constructor
  · rintro ⟨word, after, hrest, hrun, hmem, hmark⟩
    exact ⟨word, after, hrest, hrun, ((mem_map_searchNames listed word).1 hmem).2, hmark⟩
  · rintro ⟨word, after, hrest, hrun, hmem, hmark⟩
    exact ⟨word, after, hrest, hrun, (mem_map_searchNames listed word).2 ⟨hrun.ne_nil, hmem⟩,
      hmark⟩

/-- Lists of words that agree on the runs of an expression mark it alike. -/
theorem withMarks_congr {listed listed' : List String} (h : ListsWords listed)
    (h' : ListsWords listed') {expression : String}
    (hagree : ∀ left word after, expression.toList = left ++ (word ++ after) →
      IsRun left word after → (word ∈ namesOf listed ↔ word ∈ namesOf listed')) :
    withMarks expression listed = withMarks expression listed' := by
  rw [← String.toList_inj, toList_withMarks (words_searchNames h),
    toList_withMarks (words_searchNames h')]
  refine markWords_congr (words_searchNames h) (words_searchNames h') [] expression.toList ?_
  intro left word after hcs hrun
  rw [mem_map_searchNames, mem_map_searchNames, hagree left word after hcs hrun]

/-- Marking the registers of an expression is marking whole words. -/
theorem marks_stand_before_whole_words {listed : List String} (h : ListsWords listed) :
    WholeWordMarking listed where
  inserted expression := by
    obtain ⟨part, parts, hflatten, hjoin, hne, hseam⟩ :=
      exists_parts_markWords (words_searchNames h) [] expression.toList
    refine ⟨part :: parts, hflatten, ?_, hne, ?_⟩
    · rw [toList_withMarks (words_searchNames h)]
      exact hjoin
    · intro left right
      rw [hseam, List.nil_append, markDue_searchNames]
  idempotent expression := by
    have hempty : [] ∉ (searchNames listed).map String.toList := fun hmem =>
      (words_searchNames h [] hmem).1 rfl
    rw [← String.toList_inj, toList_withMarks (words_searchNames h),
      toList_withMarks (words_searchNames h), markWords_markWords hempty]
  listing listed' hsame expression := by
    have h' : ListsWords listed' := fun name hname => h name ((hsame name).1 hname)
    refine withMarks_congr h' h fun _ word _ _ _ => ?_
    simp only [namesOf, List.mem_map (f := String.toList), List.mem_append, hsame]
  absent register expression hregister habsent := by
    have h' : ListsWords (register :: listed) :=
      List.forall_mem_cons.2 ⟨hregister (unmarked register) List.mem_cons_self, h⟩
    refine withMarks_congr h' h fun left word after hcs hrun => ?_
    have hnames : namesOf (register :: listed) = (unmarked register).toList :: namesOf listed := rfl
    rw [hnames, List.mem_cons, or_iff_right (habsent left word after hcs hrun)]

/-- Of two names that begin alike each is marked where it stands by itself, and a mark that was
there is kept. -/
theorem marks_of_names_that_begin_alike :
    ListsWords ["r10", "$r1"] ∧ WholeWordMarking ["r10", "$r1"] ∧
      withMarks "r1*r10 + $r1 - r100" ["r10", "$r1"] = "$r1*$r10 + $r1 - r100" := by
  have hwords : ListsWords ["r10", "$r1"] := by decide
  have hnames : searchNames ["r10", "$r1"] = ["pc", "r1", "r10", "sp"] := by cbv
  refine ⟨hwords, marks_stand_before_whole_words hwords, ?_⟩
  rw [withMarks, hnames]
  decide +kernel

end DebugShell.Registers
