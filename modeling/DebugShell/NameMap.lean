/-!
# Maps keyed by name

A map from names to values, listed in ascending order of the names (by code point) without
repetition. The listing is determined by the look-ups, so two maps that answer alike are equal.
-/

namespace DebugShell

/-- A list of named values in strictly ascending order of the names, with `a` put in its place. -/
def insertEntry {α : Type} (name : String) (a : α) : List (String × α) → List (String × α)
  | [] => [(name, a)]
  | (n, b) :: rest =>
    if name < n then (name, a) :: (n, b) :: rest
    else if name = n then (name, a) :: rest
    else (n, b) :: insertEntry name a rest

/-- The names of a list with one entry put in its place are the old ones and the new one. -/
theorem mem_insertEntry {α : Type} {name : String} {a : α} {entries : List (String × α)}
    {e : String × α} (h : e ∈ insertEntry name a entries) : e = (name, a) ∨ e ∈ entries := by
  induction entries with
  | nil => simpa [insertEntry] using h
  | cons head rest ih =>
    obtain ⟨n, b⟩ := head
    rw [insertEntry] at h
    split at h
    · simpa using h
    · split at h
      · simp only [List.mem_cons] at h
        rcases h with h | h
        · exact .inl h
        · exact .inr (List.mem_cons_of_mem _ h)
      · simp only [List.mem_cons] at h
        rcases h with h | h
        · exact .inr (h ▸ List.mem_cons_self)
        · rcases ih h with h | h
          · exact .inl h
          · exact .inr (List.mem_cons_of_mem _ h)

/-- Putting an entry in its place keeps the names in ascending order. -/
theorem sorted_insertEntry {α : Type} (name : String) (a : α) {entries : List (String × α)}
    (h : entries.Pairwise fun x y => x.1 < y.1) :
    (insertEntry name a entries).Pairwise fun x y => x.1 < y.1 := by
  induction entries with
  | nil => simp [insertEntry]
  | cons head rest ih =>
    obtain ⟨n, b⟩ := head
    obtain ⟨hhead, hrest⟩ := List.pairwise_cons.1 h
    rw [insertEntry]
    split
    · rename_i hlt
      refine List.pairwise_cons.2 ⟨fun e he => ?_, h⟩
      rcases List.mem_cons.1 he with rfl | he
      · exact hlt
      · exact String.lt_trans hlt (hhead e he)
    · split
      · rename_i heq
        exact List.pairwise_cons.2 ⟨fun e he => heq ▸ hhead e he, hrest⟩
      · rename_i hlt hne
        refine List.pairwise_cons.2 ⟨fun e he => ?_, ih hrest⟩
        rcases mem_insertEntry he with rfl | he
        · refine Decidable.byContradiction fun hn => hne ?_
          exact String.le_antisymm (String.not_lt.1 hn) (String.not_lt.1 hlt)
        · exact hhead e he

/-- A map from names to values. -/
structure NameMap (α : Type) where
  /-- The entries, in ascending order of their names. -/
  toList : List (String × α)
  /-- No name stands after itself or after a greater one. -/
  sorted : toList.Pairwise fun x y => x.1 < y.1

namespace NameMap

variable {α : Type}

/-- The map without entries. -/
def empty : NameMap α := ⟨[], .nil⟩

instance : Inhabited (NameMap α) := ⟨empty⟩

instance [BEq α] : BEq (NameMap α) := ⟨fun m n => m.toList == n.toList⟩

/-- Maps with the same entries are equal. -/
theorem ext {m n : NameMap α} (h : m.toList = n.toList) : m = n := by
  cases m; cases n; cases h; rfl

instance [DecidableEq α] : DecidableEq (NameMap α) := fun m n =>
  if h : m.toList = n.toList then .isTrue (ext h) else .isFalse fun e => h (e ▸ rfl)

/-- The value bound to a name. -/
def get? (m : NameMap α) (name : String) : Option α :=
  (m.toList.find? fun e => e.1 == name).map (·.2)

/-- Bind a name, replacing what it was bound to. -/
def insert (m : NameMap α) (name : String) (a : α) : NameMap α :=
  ⟨insertEntry name a m.toList, sorted_insertEntry name a m.sorted⟩

/-- Unbind a name. -/
def erase (m : NameMap α) (name : String) : NameMap α :=
  ⟨m.toList.filter fun e => e.1 != name, m.sorted.filter _⟩

/-- The map of a list of entries; of several for one name the last counts. -/
def ofList (entries : List (String × α)) : NameMap α :=
  entries.foldl (fun m e => m.insert e.1 e.2) empty

/-- The bound names, in ascending order. -/
def names (m : NameMap α) : List String :=
  m.toList.map (·.1)

end NameMap

end DebugShell
