import DebugShell.Proofs.History

/-!
# A repeat is an entry that was sighted before

Invocations are judged one after another, each by the newest history line of its moment, which can
be anything: missing, no line of an entry, older than the last one. What is kept between them is
the numbers that were seen. `Query.Sights` says, without that memory, when a query brings up an
entry: it was typed, and its line shows the entry. The numbers that were seen are those of the
entries that were sighted (`mem_seenAfter_iff`), so a query is answered as a repeat exactly if
its entry's number was sighted by an earlier one, and the text it sights ends with the argument. A
query that sights nothing is never a repeat, and leaves the memory as it was.
-/

namespace DebugShell.History

/-- What an invocation is judged by. -/
structure Query where
  /-- The newest line of the history, where there is one. -/
  tail : Option String
  /-- What the invoked command was given. -/
  argument : String
  /-- Somebody typed the invocation. -/
  interactive : Bool
  deriving DecidableEq, Repr

namespace Query

/-- A query brings up an entry: it was typed, and the newest line shows the entry's number and
text. -/
def Sights (q : Query) (number : Nat) (command : String) : Prop :=
  q.interactive = true ∧ ∃ line, q.tail = some line ∧ Shows line number command

/-- The answer to a query, and the numbers seen afterwards. -/
def judge (q : Query) (seen : Seen) : Bool × Seen :=
  isRepeat seen q.tail q.argument q.interactive

end Query

/-- The answers to queries that are made one after another. -/
def answers (seen : Seen) : List Query → List Bool
  | [] => []
  | q :: rest => (q.judge seen).1 :: answers (q.judge seen).2 rest

/-- The numbers seen after queries that were made one after another. -/
def seenAfter (seen : Seen) (queries : List Query) : Seen :=
  queries.foldl (fun seen q => (q.judge seen).2) seen

/-! ## One query -/

namespace Query

variable (q : Query) (seen : Seen)

/-- An entry is sighted exactly if the query was typed and the entry is read from its line. -/
theorem sights_iff (number : Nat) (command : String) : q.Sights number command ↔
    q.interactive = true ∧ q.tail.bind parseLine? = some (number, command) := by
  unfold Sights
  simp only [Option.bind_eq_some_iff, parseLine?_eq_some_iff]

/-- A query that sights an entry compares its text if the number was seen, and else remembers the
number. -/
theorem judge_of_sights {number : Nat} {command : String} (h : q.Sights number command) :
    q.judge seen = if number ∈ seen then (q.argument.toList.isSuffixOf command.toList, seen)
      else (false, number :: seen) := by
  obtain ⟨htyped, hread⟩ := (q.sights_iff number command).1 h
  rw [judge, isRepeat, if_pos htyped, hread]

/-- A query that sights nothing is no repeat and leaves nothing behind. -/
theorem judge_of_blind (h : ∀ number command, ¬q.Sights number command) :
    q.judge seen = (false, seen) := by
  unfold judge isRepeat
  split
  · rename_i htyped
    cases hread : q.tail.bind parseLine? with
    | none => rfl
    | some entry => exact absurd ((q.sights_iff entry.1 entry.2).2 ⟨htyped, hread⟩) (h _ _)
  · rfl

/-- A query is a repeat exactly if it sights an entry whose number was seen and whose text ends with
the argument. -/
theorem judge_fst_eq_true_iff : (q.judge seen).1 = true ↔ ∃ number command,
    q.Sights number command ∧ number ∈ seen ∧ q.argument.toList <:+ command.toList := by
  by_cases hsights : ∃ number command, q.Sights number command
  · obtain ⟨number, command, h⟩ := hsights
    -- It sights no other entry.
    have honly {n : Nat} {c : String} (h' : q.Sights n c) : n = number ∧ c = command := by
      have hread := ((q.sights_iff number command).1 h).2
      rw [((q.sights_iff n c).1 h').2] at hread
      exact Prod.mk.inj (Option.some.inj hread)
    rw [q.judge_of_sights seen h]
    constructor
    · intro hrepeat
      split at hrepeat
      · rename_i hseen
        exact ⟨number, command, h, hseen, List.isSuffixOf_iff_suffix.1 hrepeat⟩
      · cases hrepeat
    · rintro ⟨n, c, h', hseen, hsuffix⟩
      obtain ⟨rfl, rfl⟩ := honly h'
      rw [if_pos hseen]
      exact List.isSuffixOf_iff_suffix.2 hsuffix
  · rw [q.judge_of_blind seen fun number command h => hsights ⟨number, command, h⟩]
    constructor
    · intro hrepeat
      cases hrepeat
    · rintro ⟨number, command, h, -⟩
      exact absurd ⟨number, command, h⟩ hsights

/-- The numbers seen after a query are those seen before and the one that it sights. -/
theorem mem_judge_snd_iff (number : Nat) :
    number ∈ (q.judge seen).2 ↔ number ∈ seen ∨ ∃ command, q.Sights number command := by
  unfold judge
  rw [mem_isRepeat_iff]
  simp only [sights_iff, exists_and_left]

end Query

/-! ## A run of queries -/

/-- Every query is answered. -/
theorem length_answers (seen : Seen) (queries : List Query) :
    (answers seen queries).length = queries.length := by
  induction queries generalizing seen with
  | nil => rfl
  | cons q rest ih => rw [answers, List.length_cons, List.length_cons, ih]

/-- Queries that follow others are answered by what the others left. -/
theorem answers_append (seen : Seen) (queries others : List Query) :
    answers seen (queries ++ others) =
      answers seen queries ++ answers (seenAfter seen queries) others := by
  induction queries generalizing seen with
  | nil => rfl
  | cons q rest ih =>
    rw [List.cons_append, answers, answers, ih, List.cons_append]
    rfl

/-- The numbers seen after a run are those seen before and those that were sighted in it. -/
theorem mem_seenAfter_iff (seen : Seen) (queries : List Query) (number : Nat) :
    number ∈ seenAfter seen queries ↔
      number ∈ seen ∨ ∃ q ∈ queries, ∃ command, q.Sights number command := by
  induction queries generalizing seen with
  | nil =>
    simp only [List.not_mem_nil, false_and, exists_false, or_false]
    exact Iff.rfl
  | cons q rest ih =>
    have hstep : seenAfter seen (q :: rest) = seenAfter (q.judge seen).2 rest := rfl
    rw [hstep, ih, q.mem_judge_snd_iff]
    simp only [List.mem_cons, exists_eq_or_imp, or_assoc]

/-- The answer to a query in a run is the one that it gets from what was seen before it. -/
theorem getElem?_answers (seen : Seen) (before : List Query) (q : Query) (after : List Query) :
    (answers seen (before ++ q :: after))[before.length]? =
      some (q.judge (seenAfter seen before)).1 := by
  rw [answers_append, List.getElem?_append_right (length_answers seen before).le,
    length_answers, Nat.sub_self, answers, List.getElem?_cons_zero]

/-- Without the answer to a query that sights nothing, the answers are those of the run without the
query. -/
theorem answers_eraseIdx_of_blind (seen : Seen) {q : Query}
    (h : ∀ number command, ¬q.Sights number command) (before after : List Query) :
    (answers seen (before ++ q :: after)).eraseIdx before.length =
      answers seen (before ++ after) := by
  rw [answers_append, answers_append, answers, q.judge_of_blind _ h,
    List.eraseIdx_append_of_length_le (length_answers seen before).le, length_answers,
    Nat.sub_self, List.eraseIdx_cons_zero]

/-- Of a run of queries from the start, a query is answered as a repeat exactly if it sights an
entry whose number was sighted by an earlier query, and the entry's text ends with the argument. A
query that sights nothing could as well have been left out, for all that the others are answered. -/
theorem repeats_are_resightings (before : List Query) (q : Query) (after : List Query) :
    ((answers [] (before ++ q :: after))[before.length]? = some true ↔
      ∃ number command, q.Sights number command ∧
        (∃ p ∈ before, ∃ earlier, p.Sights number earlier) ∧
        q.argument.toList <:+ command.toList) ∧
    ((∀ number command, ¬q.Sights number command) →
      (answers [] (before ++ q :: after)).eraseIdx before.length =
        answers [] (before ++ after)) := by
  refine ⟨?_, fun h => answers_eraseIdx_of_blind [] h before after⟩
  rw [getElem?_answers, Option.some.injEq, q.judge_fst_eq_true_iff]
  simp only [mem_seenAfter_iff, List.not_mem_nil, false_or]

/-- The newest line shows `next`, the entry with the number seven. -/
def nextQuery (argument : String) (interactive : Bool) : Query :=
  ⟨some "    7  next", argument, interactive⟩

/-- An entry that was sighted by a typed invocation is a repeat when it is sighted again, and an
invocation of a script in between, though it meets the same line, could as well have been left
out. -/
theorem resighted_past_a_scripted_query :
    (answers [] [nextQuery "next" true, nextQuery "next" false, nextQuery "" true])[2]? =
        some true ∧
      (answers [] [nextQuery "next" true, nextQuery "next" false, nextQuery "" true]).eraseIdx 1 =
        answers [] [nextQuery "next" true, nextQuery "" true] := by
  have hline : parseLine? "    7  next" = some (7, "next") := by decide
  have hsights (argument : String) : (nextQuery argument true).Sights 7 "next" :=
    ((nextQuery argument true).sights_iff 7 "next").2 ⟨rfl, hline⟩
  constructor
  · refine (repeats_are_resightings [nextQuery "next" true, nextQuery "next" false]
      (nextQuery "" true) []).1.2 ⟨7, "next", hsights "", ?_, List.nil_suffix⟩
    exact ⟨nextQuery "next" true, List.mem_cons_self, "next", hsights "next"⟩
  · refine (repeats_are_resightings [nextQuery "next" true] (nextQuery "next" false)
      [nextQuery "" true]).2 ?_
    rintro number command ⟨htyped, -⟩
    cases htyped

end DebugShell.History
