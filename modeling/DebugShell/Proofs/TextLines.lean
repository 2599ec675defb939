import DebugShell.Text.Blank
import Mathlib.Data.List.Infix

/-!
# The lines of a text put together again

Cutting a text into lines takes its line ends away. No line has a line feed in it
(`feed_not_mem_lines`), and every text that is not empty has a line (`lines_eq_nil_iff`). Joined by
line feeds, the lines are the text again, without the carriage returns in front of line feeds and
without a line feed at the end (`intercalate_lines`). What is lost is said apart from the cutting:
`withoutReturns` looks at a character and the next one, `withoutFinalFeed` at the last one.

In a text that is joined from parts, one without line feeds stands where it stands in some part
(`infix_intercalate_iff`), since it cannot reach over a joint.
-/

namespace DebugShell.Text

/-- The text without the carriage returns that stand in front of a line feed. -/
def withoutReturns : List Char → List Char
  | [] => []
  | c :: rest =>
    if c = '\r' ∧ rest.head? = some '\n' then withoutReturns rest else c :: withoutReturns rest

/-- The text without a line feed at its end. -/
def withoutFinalFeed (cs : List Char) : List Char :=
  if cs.getLast? = some '\n' then cs.dropLast else cs

/-! ## What is lost -/

/-- A text without line feeds keeps its carriage returns. -/
theorem withoutReturns_of_no_feed {cs : List Char} (h : '\n' ∉ cs) : withoutReturns cs = cs := by
  induction cs with
  | nil => rfl
  | cons c rest ih =>
    rw [List.mem_cons, not_or] at h
    have hnext : rest.head? ≠ some '\n' := fun hhead => h.2 (List.mem_of_head? hhead)
    rw [withoutReturns, if_neg fun hboth => hnext hboth.2, ih h.2]

/-- A line loses a carriage return at its end, once a line feed stands behind it. -/
theorem withoutReturns_append_feed {line : List Char} (h : '\n' ∉ line) (rest : List Char) :
    withoutReturns (line ++ '\n' :: rest) =
      dropCarriageReturn line ++ '\n' :: withoutReturns rest := by
  have hfeed : withoutReturns ('\n' :: rest) = '\n' :: withoutReturns rest :=
    if_neg fun hboth => absurd hboth.1 (by decide)
  induction line with
  | nil => exact hfeed
  | cons c line ih =>
    rw [List.mem_cons, not_or] at h
    rw [List.cons_append, withoutReturns]
    cases line with
    | nil =>
      -- The line feed comes next.
      rw [List.nil_append, hfeed]
      by_cases hc : c = '\r'
      · rw [if_pos ⟨hc, rfl⟩, hc]
        rfl
      · have hkept : dropCarriageReturn [c] = [c] := if_neg fun hlast => hc (Option.some.inj hlast)
        rw [if_neg fun hboth => hc hboth.1, hkept]
        rfl
    | cons d others =>
      have hd : d ≠ '\n' := fun heq => h.2 (heq ▸ List.mem_cons_self)
      have hmore : dropCarriageReturn (c :: d :: others) =
          c :: dropCarriageReturn (d :: others) := by
        rw [dropCarriageReturn, dropCarriageReturn, List.getLast?_cons_cons]
        split
        · rw [List.dropLast_cons_of_ne_nil (List.cons_ne_nil d others)]
        · rfl
      rw [if_neg fun hboth => hd (Option.some.inj hboth.2), ih h.2, hmore]
      rfl

/-- Only the empty text has nothing but carriage returns to lose. -/
theorem withoutReturns_eq_nil_iff (cs : List Char) : withoutReturns cs = [] ↔ cs = [] := by
  induction cs with
  | nil => exact iff_of_true rfl rfl
  | cons c rest ih =>
    rw [withoutReturns]
    split
    · -- A line feed stands behind the carriage return.
      rename_i hboth
      refine iff_of_false (fun hnil => ?_) (List.cons_ne_nil c rest)
      rw [ih.1 hnil] at hboth
      exact absurd hboth.2 nofun
    · exact iff_of_false (List.cons_ne_nil c _) (List.cons_ne_nil c rest)

/-- A text loses the line feed at the end of its last part. -/
theorem withoutFinalFeed_append {last : List Char} (h : last ≠ []) (before : List Char) :
    withoutFinalFeed (before ++ last) = before ++ withoutFinalFeed last := by
  rw [withoutFinalFeed, withoutFinalFeed, List.getLast?_append_of_ne_nil before h]
  split
  · exact List.dropLast_append_of_ne_nil h
  · rfl

/-- A text without line feeds has none to lose. -/
theorem withoutFinalFeed_of_no_feed {cs : List Char} (h : '\n' ∉ cs) : withoutFinalFeed cs = cs :=
  if_neg fun hlast => h (List.mem_of_getLast? hlast)

/-! ## Lines -/

/-- A line that has been read so far does not have the next character if that ends it. -/
theorem feed_not_mem_concat {line : List Char} {c : Char} (h : '\n' ∉ line) (hc : c ≠ '\n') :
    '\n' ∉ line ++ [c] := by
  rw [List.mem_append, List.mem_singleton, not_or]
  exact ⟨h, Ne.symm hc⟩

/-- No line that is read has a line feed in it. -/
theorem feed_not_mem_linesFrom {line : List Char} (h : '\n' ∉ line) (cs : List Char) :
    ∀ l ∈ linesFrom line cs, '\n' ∉ l := by
  induction cs generalizing line with
  | nil =>
    rw [linesFrom]
    split
    · exact fun _ hl => absurd hl List.not_mem_nil
    · exact List.forall_mem_singleton.2 h
  | cons c rest ih =>
    rw [linesFrom]
    split
    · have hdropped : '\n' ∉ dropCarriageReturn line := by
        rw [dropCarriageReturn]
        split
        · exact fun hmem => h (List.mem_of_mem_dropLast hmem)
        · exact h
      exact List.forall_mem_cons.2 ⟨hdropped, ih List.not_mem_nil⟩
    · rename_i hc
      exact ih (feed_not_mem_concat h hc)

/-- No line of a text has a line feed in it. -/
theorem feed_not_mem_lines (cs : List Char) : ∀ line ∈ lines cs, '\n' ∉ line :=
  feed_not_mem_linesFrom List.not_mem_nil cs

/-- There is no line to read only where nothing has been read and nothing is left. -/
theorem linesFrom_eq_nil_iff (line cs : List Char) :
    linesFrom line cs = [] ↔ line = [] ∧ cs = [] := by
  induction cs generalizing line with
  | nil =>
    rw [linesFrom, and_iff_left rfl]
    split
    · rename_i hline
      exact iff_of_true rfl hline
    · rename_i hline
      exact iff_of_false (List.cons_ne_nil line _) hline
  | cons c rest ih =>
    refine iff_of_false ?_ fun hboth => List.cons_ne_nil c rest hboth.2
    rw [linesFrom]
    split
    · exact List.cons_ne_nil _ _
    · rw [ih]
      exact fun hboth => List.concat_ne_nil c line (List.concat_eq_append ▸ hboth.1)

/-- Only the empty text has no line. -/
theorem lines_eq_nil_iff (cs : List Char) : lines cs = [] ↔ cs = [] := by
  rw [lines, linesFrom_eq_nil_iff, and_iff_right rfl]

/-- The lines that are read behind a line without a line feed are, joined, the whole text without
what is lost of it. -/
theorem intercalate_linesFrom {line : List Char} (h : '\n' ∉ line) (cs : List Char) :
    ['\n'].intercalate (linesFrom line cs) =
      withoutFinalFeed (withoutReturns (line ++ cs)) := by
  -- The induction is on what is left to read, and what has been read of the line varies with it.
  induction cs generalizing line with
  | nil =>
    -- Without a line feed behind it, the last line is kept as it is.
    rw [List.append_nil, withoutReturns_of_no_feed h, withoutFinalFeed_of_no_feed h, linesFrom]
    split
    · rename_i hline
      rw [hline, List.intercalate_nil]
    · exact List.intercalate_singleton
  | cons c rest ih =>
    rw [linesFrom]
    split
    · rename_i hc
      rw [hc, withoutReturns_append_feed h]
      by_cases hrest : rest = []
      · -- This line feed is the one at the end.
        rw [hrest, withoutFinalFeed_append (List.cons_ne_nil _ _)]
        exact List.intercalate_singleton.trans (List.append_nil _).symm
      · have hmore : linesFrom [] rest ≠ [] := fun hnil =>
          hrest ((linesFrom_eq_nil_iff [] rest).1 hnil).2
        have hleft : withoutReturns rest ≠ [] := fun hnil =>
          hrest ((withoutReturns_eq_nil_iff rest).1 hnil)
        have hjoined := ih List.not_mem_nil
        rw [List.nil_append] at hjoined
        rw [List.intercalate_cons_of_ne_nil hmore, hjoined, ← withoutFinalFeed_append hleft,
          List.append_assoc, List.singleton_append]
    · rename_i hc
      rw [ih (feed_not_mem_concat h hc), List.append_assoc, List.singleton_append]

/-- The lines of a text are, joined by line feeds, the text without the carriage returns in front of
line feeds and without a line feed at its end. -/
theorem intercalate_lines (cs : List Char) :
    ['\n'].intercalate (lines cs) = withoutFinalFeed (withoutReturns cs) :=
  intercalate_linesFrom List.not_mem_nil cs

-- Of two carriage returns in front of a line feed one is lost, and none that ends the text.
example : ['\n'].intercalate (lines "a\r\r\nb\r".toList) = "a\r\nb\r".toList := by decide

/-! ## Texts within joined parts -/

/-- A text without `sep` has no other part than itself. -/
theorem splitOn_of_not_mem {sep : Char} {cs : List Char} (h : sep ∉ cs) :
    cs.splitOn sep = [cs] := by
  refine List.splitOnP_eq_singleton fun c hc => ?_
  rw [beq_eq_false_iff_ne]
  rintro rfl
  exact h hc

/-- A text without `sep` stands in a text with `sep` in it before or behind that. -/
theorem infix_append_cons_iff {needle : List Char} {sep : Char} (hne : needle ≠ [])
    (hsep : sep ∉ needle) (before after : List Char) :
    needle <:+: before ++ sep :: after ↔ needle <:+: before ∨ needle <:+: after := by
  rw [List.infix_append_iff, List.infix_cons_iff]
  constructor
  · rintro (hbefore | (hstart | hafter) | ⟨first, last, rfl, hfirst, hlast⟩)
    · exact .inl hbefore
    · -- It would begin with `sep`.
      rcases List.prefix_cons_iff.1 hstart with hnil | ⟨rest, rfl, -⟩
      · exact absurd hnil hne
      · exact absurd List.mem_cons_self hsep
    · exact .inr hafter
    · -- What reaches over the joint has `sep` in it, unless it ends in front of it.
      rcases List.prefix_cons_iff.1 hlast with rfl | ⟨rest, rfl, -⟩
      · rw [List.append_nil]
        exact .inl hfirst.isInfix
      · exact absurd (List.mem_append_right first List.mem_cons_self) hsep
  · rintro (hbefore | hafter)
    · exact .inl hbefore
    · exact .inr (.inl (.inr hafter))

/-- A text without `sep` stands in a text of parts that `sep` joins exactly if it stands in one of
the parts. -/
theorem infix_intercalate_iff {needle : List Char} {sep : Char} (hne : needle ≠ [])
    (hsep : sep ∉ needle) (parts : List (List Char)) :
    needle <:+: [sep].intercalate parts ↔ ∃ part ∈ parts, needle <:+: part := by
  induction parts with
  | nil => simp [hne]
  | cons part rest ih =>
    rw [List.exists_mem_cons_iff, ← ih]
    by_cases hrest : rest = []
    · -- No joint stands behind the last part.
      rw [hrest, List.intercalate_singleton, List.intercalate_nil, List.infix_nil]
      exact (or_iff_left hne).symm
    · rw [List.intercalate_cons_of_ne_nil hrest, List.append_assoc, List.singleton_append,
        infix_append_cons_iff hne hsep]

end DebugShell.Text
