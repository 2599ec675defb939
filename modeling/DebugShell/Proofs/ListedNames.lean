import DebugShell.Proofs.BuiltinListing
import DebugShell.Proofs.SortedNames

/-!
# The names of a listing are those of its lines

A listing names what its lines name. So the names of two listings, one behind the other, are the
union of their names (`lists_append_feed`), wherever the seam falls: the parts between the line
feeds of the whole are those of the one and those of the other. A blank line names nothing
(`not_lists_of_blank`), and blanks at the end of a listing make no difference to its last line
(`lists_append_blanks`), which takes care of the carriage return of a line end.

Together this says what a listing names once its lines are given with their ends (`LineEnd`): what
the lines name that are not blank, in whatever order they come, how often, and however each ends
(`lists_ended_iff`). The names are listed in ascending order, so that the list is determined by
which names there are.
-/

namespace DebugShell

/-! ## What is stated of listings -/

/-- How a line ends. -/
inductive LineEnd where
  /-- With a line feed. -/
  | feed
  /-- With a carriage return and a line feed. -/
  | returnAndFeed
  deriving DecidableEq, Repr

/-- The characters at the end of a line. -/
def LineEnd.text : LineEnd → String
  | .feed => "\n"
  | .returnAndFeed => "\r\n"

/-- The text of lines, each with its end behind it. -/
def ended (lines : List (String × LineEnd)) : String :=
  String.join (lines.map fun l => l.1 ++ l.2.text)

/-- The lines that are not blank are the same, whatever their order, how often each comes, and how
it ends. -/
def SameLines (lines lines' : List (String × LineEnd)) : Prop :=
  ∀ line : String, (∃ c ∈ line.toList, Text.isBlank c = false) →
    (line ∈ lines.map (·.1) ↔ line ∈ lines'.map (·.1))

/-- How the names of listings hang together. -/
structure ListingContract (x y : String) : Prop where
  /-- The names are the first words of the lines that are neither blank nor a heading. -/
  mem_iff : ∀ n, n ∈ builtinNames x ↔ Lists x n
  /-- Two listings, one behind the other, name what either names. -/
  union : ∀ n, n ∈ builtinNames (x ++ "\n" ++ y) ↔ n ∈ builtinNames x ∨ n ∈ builtinNames y
  /-- A line feed at the end of a listing makes no difference. -/
  terminated : builtinNames (x ++ "\n") = builtinNames x
  /-- Listings with the same lines have the same names. -/
  same_lines : ∀ lines lines', SameLines lines lines' →
    builtinNames (ended lines) = builtinNames (ended lines')
  /-- A name is a word. -/
  words : ∀ n ∈ builtinNames x, n ≠ "" ∧ ∀ c ∈ n.toList, Text.isBlank c = false
  /-- The names are in ascending order, each once. -/
  ascending : (builtinNames x).Pairwise (· < ·)

/-! ## Lines and blanks -/

/-- The parts between line feeds have the characters of the text. -/
theorem mem_of_mem_part {c : Char} (hc : c ≠ '\n') {cs part : List Char}
    (hpart : part ∈ cs.splitOn '\n') (h : c ∈ part) : c ∈ cs := by
  have hfeed : '\n' ∉ [c] := fun hmem => hc (List.mem_singleton.1 hmem).symm
  have hin := (Text.infix_intercalate_iff (List.cons_ne_nil c []) hfeed (cs.splitOn '\n')).2
    ⟨part, hpart, (List.singleton_infix_iff c part).2 h⟩
  rw [List.intercalate_splitOn] at hin
  exact hin.subset List.mem_cons_self

/-- A blank text names nothing. -/
theorem not_lists_of_blank {listing : String}
    (h : ∀ c ∈ listing.toList, Text.isBlank c = true) (name : String) : ¬Lists listing name := by
  rintro ⟨line, hline, hlists⟩
  refine hlists.nonempty ((Text.trim_eq_nil_iff line).2 fun c hc => ?_)
  by_cases hfeed : c = '\n'
  · rw [hfeed]
    decide
  · exact h c (mem_of_mem_part hfeed hline hc)

/-- Two listings, one behind the other, name what either names. -/
theorem lists_append_feed (x y name : String) :
    Lists (x ++ "\n" ++ y) name ↔ Lists x name ∨ Lists y name := by
  have hfeed : "\n".toList = ['\n'] := rfl
  have hparts : (x ++ "\n" ++ y).toList.splitOn '\n' =
      x.toList.splitOn '\n' ++ y.toList.splitOn '\n' := by
    rw [String.toList_append, String.toList_append, hfeed, List.append_assoc,
      List.singleton_append, List.splitOn_append_cons_self]
  unfold Lists
  rw [hparts]
  simp only [List.mem_append, or_and_right, exists_or]

/-- What a line names is said by the line without the blanks around it. -/
theorem lineLists_congr {line line' : List Char} (h : Text.trim line = Text.trim line')
    (name : String) : LineLists line name ↔ LineLists line' name := by
  rw [lineLists_iff, lineLists_iff, h]

/-- The last line of a text with a line feed in it begins behind the last of these. -/
theorem exists_last_line {cs : List Char} (h : '\n' ∈ cs) :
    ∃ before last, cs = before ++ '\n' :: last ∧ '\n' ∉ last := by
  obtain ⟨last, before, hcs, hlast⟩ := List.eq_append_cons_of_mem (List.mem_reverse.2 h)
  refine ⟨before.reverse, last.reverse, ?_, fun hmem => hlast (List.mem_reverse.1 hmem)⟩
  rw [← List.reverse_reverse cs, hcs, List.reverse_append, List.reverse_cons, List.append_assoc,
    List.singleton_append]

/-- Blanks behind a listing, on its last line, make no difference to what it names. -/
theorem lists_append_blanks (listing : String) {blanks : String}
    (hblank : ∀ c ∈ blanks.toList, Text.isBlank c = true) (hfeed : '\n' ∉ blanks.toList)
    (name : String) : Lists (listing ++ blanks) name ↔ Lists listing name := by
  have hlast {last : List Char} (h : '\n' ∉ last) :
      (∃ line ∈ (last ++ blanks.toList).splitOn '\n', LineLists line name) ↔
        ∃ line ∈ last.splitOn '\n', LineLists line name := by
    have hboth : '\n' ∉ last ++ blanks.toList := fun hmem =>
      (List.mem_append.1 hmem).elim h hfeed
    rw [Text.splitOn_of_not_mem h, Text.splitOn_of_not_mem hboth]
    simp only [List.mem_singleton, exists_eq_left]
    exact lineLists_congr (Text.trim_append_of_blank hblank last) name
  unfold Lists
  rw [String.toList_append]
  by_cases h : '\n' ∈ listing.toList
  · -- The lines in front of the last one stay as they are.
    obtain ⟨before, last, hcs, hnone⟩ := exists_last_line h
    rw [hcs, List.append_assoc, List.cons_append, List.splitOn_append_cons_self,
      List.splitOn_append_cons_self]
    simp only [List.mem_append, or_and_right, exists_or]
    exact or_congr_right (hlast hnone)
  · exact hlast h

/-! ## Lines with their ends -/

/-- A listing names what its lines name, however they end. -/
theorem lists_ended_iff (lines : List (String × LineEnd)) (name : String) :
    Lists (ended lines) name ↔ ∃ line ∈ lines.map (·.1), Lists line name := by
  have hempty : ¬Lists "" name := not_lists_of_blank (fun _ hc => absurd hc List.not_mem_nil) name
  induction lines with
  | nil => exact iff_of_false hempty (fun ⟨_, hline, _⟩ => absurd hline List.not_mem_nil)
  | cons l rest ih =>
    have hended : ended (l :: rest) = l.1 ++ l.2.text ++ ended rest := String.join_cons
    rw [hended, List.map_cons, List.exists_mem_cons_iff]
    refine Iff.trans ?_ (or_congr_right ih)
    cases l.2 with
    | feed => exact lists_append_feed l.1 (ended rest) name
    | returnAndFeed =>
      -- The carriage return is a blank at the end of the line.
      have hend : LineEnd.returnAndFeed.text = "\r" ++ "\n" := rfl
      have hblank : ∀ c ∈ "\r".toList, Text.isBlank c = true :=
        List.forall_mem_singleton.2 (by decide)
      have hfeed : '\n' ∉ "\r".toList := by decide
      rw [hend, ← String.append_assoc, lists_append_feed]
      exact or_congr_left (lists_append_blanks l.1 hblank hfeed name)

/-- A line that names something is not blank. -/
theorem exists_not_blank_of_lists {listing name : String} (h : Lists listing name) :
    ∃ c ∈ listing.toList, Text.isBlank c = false := by
  by_contra hnone
  refine not_lists_of_blank (fun c hc => ?_) name h
  by_contra hc'
  exact hnone ⟨c, hc, Bool.eq_false_of_not_eq_true hc'⟩

/-- Listings with the same lines name the same. -/
theorem SameLines.lists_iff {lines lines' : List (String × LineEnd)} (h : SameLines lines lines')
    (name : String) : Lists (ended lines) name ↔ Lists (ended lines') name := by
  rw [lists_ended_iff, lists_ended_iff]
  refine exists_congr fun line => and_congr_left fun hlists => ?_
  exact h line (exists_not_blank_of_lists hlists)

/-! ## The list of names -/

/-- Names are words. -/
theorem Lists.word {listing name : String} (h : Lists listing name) :
    name ≠ "" ∧ ∀ c ∈ name.toList, Text.isBlank c = false := by
  obtain ⟨line, -, hlists⟩ := h
  refine ⟨?_, hlists.first_word.choose_spec.2.1⟩
  rintro rfl
  have hfirst := ((lineLists_iff line "").1 hlists).2
  rw [← String.toList_inj, String.toList_ofList] at hfirst
  exact Text.firstWord_trim_ne_nil hlists.nonempty hfirst

/-- The names of a listing are in ascending order. -/
theorem builtinNames_ascending (listing : String) : (builtinNames listing).Pairwise (· < ·) :=
  sortedNames_ascending _

/-- Listings that name the same have the same list of names. -/
theorem builtinNames_congr {x y : String} (h : ∀ name, Lists x name ↔ Lists y name) :
    builtinNames x = builtinNames y := by
  refine eq_of_ascending (builtinNames_ascending x) (builtinNames_ascending y) fun name => ?_
  rw [mem_builtinNames_iff, mem_builtinNames_iff, h]

/-- What is read off a listing is the union of what its lines name, each of which is a word. Neither
the order of the lines, nor their repetition, nor how they end, nor blank lines change it. -/
theorem listed_names_are_a_union_over_lines (x y : String) : ListingContract x y where
  mem_iff := mem_builtinNames_iff x
  union n := by
    rw [mem_builtinNames_iff, mem_builtinNames_iff, mem_builtinNames_iff, lists_append_feed]
  terminated := by
    refine builtinNames_congr fun name => ?_
    have hempty : ¬Lists "" name :=
      not_lists_of_blank (fun _ hc => absurd hc List.not_mem_nil) name
    rw [← String.append_empty (s := x ++ "\n"), lists_append_feed, or_iff_left hempty]
  same_lines _ _ hsame := builtinNames_congr hsame.lists_iff
  words n hn := ((mem_builtinNames_iff x n).1 hn).word
  ascending := builtinNames_ascending x

-- Two listings of the same lines, in another order, one of them twice, and with other line ends.
example : builtinNames "up\r\n\t\n x -- y\n" = builtinNames "x -- y\nup\n\r\nup" := by
  cbv

end DebugShell
