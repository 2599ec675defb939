import DebugShell.Json.Decoder

/-!
# What readers come to

A reader goes through the characters of a text, and how many bytes it has read matters only to the
places of its faults. So what it comes to is said of the characters alone: it yields a value and
leaves the rest of the text (`Yields`), or it stops with a fault (`Fails`). `Reads` is the one or
the other, by whether there is a value to be had. A reader that has read the first part of a text
does what some other reader does on the rest (`GoesOn`), and in this way a sequence of readers is
followed step by step.
-/

namespace DebugShell.Json

variable {α β : Type} {r r' : Reader α} {cs mid rest : List Char} {a : α} {answer : Option α}

/-- On a text, the reader yields a value and leaves the rest. -/
def Yields (r : Reader α) (cs : List Char) (a : α) (rest : List Char) : Prop :=
  ∀ offset, ∃ offset', r.run ⟨cs, offset⟩ = (.ok a, ⟨rest, offset'⟩)

/-- On a text, the reader stops with a fault. -/
def Fails (r : Reader α) (cs : List Char) : Prop :=
  ∀ offset, ∃ fault cursor, r.run ⟨cs, offset⟩ = (.error fault, cursor)

/-- On a text, the reader yields the value and leaves the rest, or stops with a fault if there is no
value. -/
def Reads (r : Reader α) (cs rest : List Char) : Option α → Prop
  | some a => Yields r cs a rest
  | none => Fails r cs

/-- On a text, the reader does what another one does on the rest of it. -/
def GoesOn (r : Reader α) (cs : List Char) (r' : Reader α) (rest : List Char) : Prop :=
  ∀ offset, ∃ offset', r.run ⟨cs, offset⟩ = r'.run ⟨rest, offset'⟩

/-! ## Sequences -/

/-- A sequence of readers ends where the first one fails. -/
theorem run_bind (r : Reader α) (f : α → Reader β) (cursor : Cursor) :
    (r >>= f).run cursor = match r.run cursor with
      | (.ok a, cursor') => (f a).run cursor'
      | (.error fault, cursor') => (.error fault, cursor') := by
  change ExceptT.bindCont f (r.run cursor).1 (r.run cursor).2 = _
  rcases r.run cursor with ⟨_ | _, _⟩ <;> rfl

/-- Nothing has been read yet. -/
theorem GoesOn.refl (r : Reader α) (cs : List Char) : GoesOn r cs r cs :=
  fun offset => ⟨offset, rfl⟩

/-- A reader that goes on as another one goes on as that one does. -/
theorem GoesOn.trans {r'' : Reader α} (h : GoesOn r cs r' mid) (h' : GoesOn r' mid r'' rest) :
    GoesOn r cs r'' rest := by
  intro offset
  obtain ⟨offset', hrun⟩ := h offset
  obtain ⟨offset'', hrun'⟩ := h' offset'
  exact ⟨offset'', hrun.trans hrun'⟩

/-- It yields what the other one yields. -/
theorem GoesOn.yields (h : GoesOn r cs r' mid) (h' : Yields r' mid a rest) : Yields r cs a rest :=
  h.trans h'

/-- It fails where the other one fails. -/
theorem GoesOn.fails (h : GoesOn r cs r' mid) (h' : Fails r' mid) : Fails r cs := by
  intro offset
  obtain ⟨offset', hrun⟩ := h offset
  rw [hrun]
  exact h' offset'

/-- It reads what the other one reads. -/
theorem GoesOn.reads (h : GoesOn r cs r' mid) (h' : Reads r' mid rest answer) :
    Reads r cs rest answer := by
  cases answer with
  | some a => exact h.yields h'
  | none => exact h.fails h'

/-- After a reader that yields a value, the sequence goes on with the value. -/
theorem Yields.bind (h : Yields r cs a mid) (f : α → Reader β) :
    GoesOn (r >>= f) cs (f a) mid := by
  intro offset
  obtain ⟨offset', hrun⟩ := h offset
  exact ⟨offset', by rw [run_bind, hrun]⟩

/-- The readers that follow do not matter to how the first one goes on. -/
theorem GoesOn.bind (h : GoesOn r cs r' mid) (f : α → Reader β) :
    GoesOn (r >>= f) cs (r' >>= f) mid := by
  intro offset
  obtain ⟨offset', hrun⟩ := h offset
  exact ⟨offset', by rw [run_bind, run_bind, hrun]⟩

/-- A sequence fails where its first reader fails. -/
theorem Fails.bind (h : Fails r cs) (f : α → Reader β) : Fails (r >>= f) cs := by
  intro offset
  obtain ⟨fault, cursor, hrun⟩ := h offset
  exact ⟨fault, cursor, by rw [run_bind, hrun]⟩

/-- A sequence reads what its second reader makes of the value of the first. -/
theorem Reads.bind {f : α → Reader β} {next : α → Option β} (h : Reads r cs mid answer)
    (hf : ∀ a, answer = some a → Reads (f a) mid rest (next a)) :
    Reads (r >>= f) cs rest (answer.bind next) := by
  cases answer with
  | some a => exact (Yields.bind h f).reads (hf a rfl)
  | none => exact Fails.bind h f

/-- A value that needs no reading. -/
theorem yields_pure (a : α) (cs : List Char) : Yields (pure a) cs a cs :=
  fun offset => ⟨offset, rfl⟩

/-- What is computed from the value of a reader. -/
theorem Reads.map (h : Reads r cs rest answer) (f : α → β) :
    Reads (f <$> r) cs rest (answer.map f) := by
  rw [map_eq_pure_bind, Option.map_eq_bind]
  exact h.bind fun a _ => yields_pure (f a) rest

/-- A reader may look at how much of the text is left. -/
theorem Reads.get {f : Cursor → Reader α} (h : ∀ offset, Reads (f ⟨cs, offset⟩) cs rest answer) :
    Reads (MonadState.get >>= f) cs rest answer := by
  cases answer with
  | some a => exact fun offset => h offset offset
  | none => exact fun offset => h offset offset

/-! ## Faults -/

theorem fails_failHere (reason : Reason) (cs : List Char) : Fails (failHere (α := α) reason) cs :=
  fun _ => ⟨_, _, rfl⟩

theorem fails_failNext (reason : Reason) (cs : List Char) : Fails (failNext (α := α) reason) cs :=
  fun _ => ⟨_, _, rfl⟩

theorem fails_reject (reason : Reason) (cs : List Char) : Fails (reject (α := α) reason) cs :=
  fun _ => ⟨_, _, rfl⟩

/-- Whatever is found, it is a value of another type. -/
theorem fails_mismatch (expected : String) (cs : List Char) :
    Fails (mismatch (α := α) expected) cs := by
  intro offset
  rw [mismatch, run_bind]
  rcases found.run ⟨cs, offset⟩ with ⟨_ | _, _⟩
  · exact ⟨_, _, rfl⟩
  · exact ⟨_, _, rfl⟩

/-- Giving faults their places changes faults only. -/
theorem run_placing (r : Reader α) (cursor : Cursor) :
    (placing r).run cursor = match r.run cursor with
      | (.ok a, cursor') => (.ok a, cursor')
      | (.error fault, cursor') =>
        (.error ⟨fault.reason, some (fault.place.getD cursor'.offset)⟩, cursor') := by
  simp only [placing, tryCatch, tryCatchThe, MonadExceptOf.tryCatch, ExceptT.tryCatch, ExceptT.run,
    ExceptT.mk, bind, StateT.bind]
  rcases r cursor with ⟨_ | _, _⟩ <;> rfl

theorem Reads.placing (h : Reads r cs rest answer) : Reads (placing r) cs rest answer := by
  cases answer with
  | some a =>
    intro offset
    obtain ⟨offset', hrun⟩ := h offset
    exact ⟨offset', by rw [run_placing, hrun]⟩
  | none =>
    intro offset
    obtain ⟨fault, cursor, hrun⟩ := h offset
    exact ⟨_, cursor, by rw [run_placing, hrun]⟩

/-! ## Brackets -/

/-- The closing bracket is read after a fault as well. -/
theorem run_enclosed (body : Reader α) (closing : Reader Unit) (cursor : Cursor) :
    (enclosed body closing).run cursor = match body.run cursor with
      | (.error fault, cursor') => (.error fault, (closing.run cursor').2)
      | (.ok a, cursor') => match closing.run cursor' with
        | (.error fault, cursor'') => (.error fault, cursor'')
        | (.ok _, cursor'') => (.ok a, cursor'') := by
  have hlift {γ : Type} (r : Reader γ) (cursor : Cursor) :
      (ExceptT.lift r.run : Reader (Except Fault γ)).run cursor =
        (.ok (r.run cursor).1, (r.run cursor).2) := rfl
  simp only [enclosed, run_bind, hlift]
  rcases body.run cursor with ⟨_ | _, cursor'⟩
  · rfl
  · dsimp only
    rcases closing.run cursor' with ⟨_ | _, _⟩ <;> rfl

/-- A reader between brackets goes on as it does without them. -/
theorem GoesOn.enclosed (h : GoesOn r cs r' mid) (closing : Reader Unit) :
    GoesOn (enclosed r closing) cs (enclosed r' closing) mid := by
  intro offset
  obtain ⟨offset', hrun⟩ := h offset
  exact ⟨offset', by rw [run_enclosed, run_enclosed, hrun]⟩

/-- What fails between brackets fails with them. -/
theorem Fails.enclosed (h : Fails r cs) (closing : Reader Unit) :
    Fails (enclosed r closing) cs := by
  intro offset
  obtain ⟨fault, cursor, hrun⟩ := h offset
  exact ⟨fault, _, by rw [run_enclosed, hrun]⟩

/-- What stands between brackets is read, and then the closing one. -/
theorem Reads.enclosed {closing : Reader Unit} (h : Reads r cs mid answer)
    (hclosing : Yields closing mid () rest) : Reads (enclosed r closing) cs rest answer := by
  cases answer with
  | some a =>
    intro offset
    obtain ⟨offset', hrun⟩ := h offset
    obtain ⟨offset'', hend⟩ := hclosing offset'
    exact ⟨offset'', by rw [run_enclosed, hrun]; dsimp only; rw [hend]⟩
  | none => exact Fails.enclosed h closing

/-- Without the closing bracket there is no value. -/
theorem Yields.enclosed_fails {closing : Reader Unit} (h : Yields r cs a mid)
    (hclosing : Fails closing mid) : Fails (enclosed r closing) cs := by
  intro offset
  obtain ⟨offset', hrun⟩ := h offset
  obtain ⟨fault, cursor, hend⟩ := hclosing offset'
  exact ⟨fault, cursor, by rw [run_enclosed, hrun]; dsimp only; rw [hend]⟩

/-! ## Characters -/

/-- The next character is seen and left. -/
theorem yields_peek (cs : List Char) : Yields peek? cs cs.head? cs :=
  fun offset => ⟨offset, rfl⟩

/-- A character is read. -/
theorem yields_advance (c : Char) (cs : List Char) : Yields advance (c :: cs) () cs :=
  fun _ => ⟨_, rfl⟩

/-- The reader is put at the start of a text. -/
theorem yields_set (cs rest : List Char) (offset : Nat) :
    Yields (set (Cursor.mk rest offset)) cs () rest :=
  fun _ => ⟨offset, rfl⟩

/-- The characters of a class are read, up to the first that is not of the class. -/
theorem yields_takeWhile {p : Char → Bool} (hcs : ∀ c ∈ cs, p c = true)
    (hrest : ∀ c ∈ rest.head?, p c = false) : Yields (takeWhile p) (cs ++ rest) cs rest := by
  have hnone : rest.takeWhile p = [] ∧ rest.dropWhile p = rest := by
    cases rest with
    | nil => exact ⟨rfl, rfl⟩
    | cons c rest =>
      have hc : p c = false := hrest c rfl
      exact ⟨List.takeWhile_cons_of_neg (by simp [hc]), List.dropWhile_cons_of_neg (by simp [hc])⟩
  have htake : (cs ++ rest).takeWhile p = cs := by
    rw [List.takeWhile_append_of_pos hcs, hnone.1, List.append_nil]
  have hdrop : (cs ++ rest).dropWhile p = rest := by
    rw [List.dropWhile_append_of_pos hcs, hnone.2]
  intro offset
  refine ⟨offset + utf8Length cs, ?_⟩
  change (Except.ok ((cs ++ rest).takeWhile p), Cursor.mk ((cs ++ rest).dropWhile p)
    (offset + utf8Length ((cs ++ rest).takeWhile p))) = _
  rw [htake, hdrop]

/-- A word is read if it stands there. -/
theorem yields_word (expected rest : List Char) :
    Yields (word expected) (expected ++ rest) () rest := by
  induction expected with
  | nil => exact yields_pure () rest
  | cons c expected ih =>
    refine ((yields_peek _).bind _).yields ?_
    dsimp only [List.cons_append, List.head?_cons]
    rw [if_pos rfl]
    exact ((yields_advance c _).bind _).yields ih

/-- The characters are spaces. -/
def Spaces (cs : List Char) : Prop :=
  ∀ c ∈ cs, isSpace c = true

theorem spaces_nil : Spaces [] := nofun

/-- Spaces are read, and the character after them is seen and left. -/
theorem yields_afterSpaces {spaces : List Char} (hspaces : Spaces spaces)
    (hrest : ∀ c ∈ rest.head?, isSpace c = false) :
    Yields afterSpaces? (spaces ++ rest) rest.head? rest := by
  have htake : Reads (takeWhile isSpace) (spaces ++ rest) rest (some spaces) :=
    yields_takeWhile hspaces hrest
  have hskip : Yields (discard (takeWhile isSpace)) (spaces ++ rest) () rest := htake.map _
  exact (hskip.bind _).yields (yields_peek rest)

/-- After spaces, a character is seen and left. -/
theorem yields_afterSpaces_cons {spaces : List Char} (hspaces : Spaces spaces) {c : Char}
    (hc : isSpace c = false) (rest : List Char) :
    Yields afterSpaces? (spaces ++ c :: rest) (some c) (c :: rest) := by
  refine yields_afterSpaces hspaces ?_
  rintro c' ⟨⟩
  exact hc

/-- The character that a value starts with is seen and left. -/
theorem yields_start {spaces : List Char} (hspaces : Spaces spaces) {c : Char}
    (hc : isSpace c = false) (rest : List Char) :
    Yields Decoder.start (spaces ++ c :: rest) c (c :: rest) :=
  ((yields_afterSpaces_cons hspaces hc rest).bind _).yields (yields_pure c _)

end DebugShell.Json
