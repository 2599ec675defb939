import DebugShell.NameMap
import Mathlib.Data.List.Sort

/-!
# Look-ups in maps keyed by name

A map is known through its look-ups: the empty map binds nothing, and binding or unbinding a name
changes the look-up of that name only (`NameMap.get?_insert`, `NameMap.get?_erase`). The order of
the entries plays no part in this, so the facts about lists hold whether or not the names are in
order.

The order comes in where a map is told from its look-ups. In a sorted listing the entry for a name
is the only one (`find?_eq_some_iff_mem`), so maps that answer alike have the same entries
(`NameMap.ext_get?`), and a map is the map of its own listing (`NameMap.ofList_toList`).
-/

namespace DebugShell

variable {α : Type}

/-- The first entry for a name that was just put in its place is the new one. -/
theorem find?_insertEntry_self (name : String) (a : α) (entries : List (String × α)) :
    (insertEntry name a entries).find? (fun e => e.1 == name) = some (name, a) := by
  induction entries with
  | nil => simp [insertEntry]
  | cons head rest ih =>
    obtain ⟨n, b⟩ := head
    rw [insertEntry]
    split
    · simp
    · split
      · simp
      · rename_i hne
        rw [List.find?_cons_of_neg (by simpa using fun h : n = name => hne h.symm)]
        exact ih

/-- Putting an entry in its place leaves the first entry for any other name as it was. -/
theorem find?_insertEntry_of_ne {name other : String} (h : other ≠ name) (a : α)
    (entries : List (String × α)) :
    (insertEntry name a entries).find? (fun e => e.1 == other) =
      entries.find? fun e => e.1 == other := by
  have hskip (rest : List (String × α)) :
      ((name, a) :: rest).find? (fun e => e.1 == other) = rest.find? fun e => e.1 == other :=
    List.find?_cons_of_neg (by simpa using h.symm)
  induction entries with
  | nil => exact hskip []
  | cons head rest ih =>
    obtain ⟨n, b⟩ := head
    rw [insertEntry]
    split
    · exact hskip _
    · split
      · -- The old entry for `name` makes way, which is not the one that is looked for.
        rename_i heq
        subst heq
        rw [hskip, List.find?_cons_of_neg (by simpa using h.symm)]
      · rw [List.find?_cons, List.find?_cons, ih]

namespace NameMap

/-- The empty map binds no name. -/
@[simp]
theorem get?_empty (name : String) : (empty : NameMap α).get? name = none := rfl

/-- Binding a name changes what that name is bound to, and nothing else. -/
theorem get?_insert (m : NameMap α) (name : String) (a : α) (other : String) :
    (m.insert name a).get? other = if other = name then some a else m.get? other := by
  unfold get? insert
  dsimp only
  split
  · rename_i h
    rw [h, find?_insertEntry_self]
    rfl
  · rename_i h
    rw [find?_insertEntry_of_ne h]

end NameMap

/-! ## Maps are told from their look-ups -/

/-- In a sorted listing, looking a name up finds exactly the entries that stand in it. -/
theorem find?_eq_some_iff_mem {entries : List (String × α)}
    (h : entries.Pairwise fun x y => x.1 < y.1) (e : String × α) :
    entries.find? (fun x => x.1 == e.1) = some e ↔ e ∈ entries := by
  induction entries with
  | nil => simp
  | cons head rest ih =>
    obtain ⟨hhead, hrest⟩ := List.pairwise_cons.1 h
    rw [List.mem_cons]
    by_cases hname : head.1 = e.1
    · -- The entries after the head have greater names, so `e` is none of them.
      have hnot : e ∉ rest := by
        intro he
        have hlt := hhead e he
        rw [hname] at hlt
        exact String.lt_irrefl _ hlt
      rw [List.find?_cons_of_pos (by simpa using hname), Option.some.injEq]
      exact ⟨fun heq => .inl heq.symm, fun hmem => (hmem.resolve_right hnot).symm⟩
    · have hne : e ≠ head := fun heq => hname (by rw [heq])
      rw [List.find?_cons_of_neg (by simpa using hname), ih hrest]
      exact ⟨.inr, fun hmem => hmem.resolve_left hne⟩

/-- Binding the names of a listing in which no name stands twice binds each to its value, and leaves
all others as they were. -/
theorem get?_foldl_entries {entries : List (String × α)} (h : (entries.map (·.1)).Nodup)
    (m : NameMap α) (name : String) :
    (entries.foldl (fun m e => m.insert e.1 e.2) m).get? name =
      ((entries.find? fun e => e.1 == name).map (·.2)).or (m.get? name) := by
  induction entries generalizing m with
  | nil => rfl
  | cons head rest ih =>
    rw [List.map_cons, List.nodup_cons] at h
    rw [List.foldl_cons, ih h.2, NameMap.get?_insert]
    by_cases hname : name = head.1
    · -- No later entry has this name, so the one that was just made stays.
      have hnone : (rest.find? fun e => e.1 == name) = none := by
        rw [List.find?_eq_none]
        intro e he heq
        rw [beq_iff_eq, hname] at heq
        exact h.1 (List.mem_map.2 ⟨e, he, heq⟩)
      rw [hnone, if_pos hname, List.find?_cons_of_pos (by simpa using hname.symm)]
      rfl
    · rw [if_neg hname, List.find?_cons_of_neg (by simpa using Ne.symm hname)]

namespace NameMap

/-- A name is bound to a value exactly if the two stand in the listing together. -/
theorem get?_eq_some_iff (m : NameMap α) (name : String) (a : α) :
    m.get? name = some a ↔ (name, a) ∈ m.toList := by
  rw [← find?_eq_some_iff_mem m.sorted, get?, Option.map_eq_some_iff]
  constructor
  · rintro ⟨e, he, rfl⟩
    have hname : e.1 = name := by simpa using List.find?_some he
    rw [← hname] at he ⊢
    exact he
  · intro h
    exact ⟨(name, a), h, rfl⟩

/-- Unbinding a name leaves that name unbound, and all others as they were. -/
theorem get?_erase (m : NameMap α) (name other : String) :
    (m.erase name).get? other = if other = name then none else m.get? other := by
  refine Option.ext fun a => ?_
  rw [get?_eq_some_iff, erase, List.mem_filter, ← get?_eq_some_iff, bne_iff_ne]
  by_cases h : other = name
  · simp [h]
  · simp [h]

/-- Maps that answer every look-up alike are equal. -/
theorem ext_get? {m n : NameMap α} (h : ∀ name, m.get? name = n.get? name) : m = n := by
  have hirrefl : Std.Irrefl fun x y : String × α => x.1 < y.1 := ⟨fun x => String.lt_irrefl x.1⟩
  have hantisymm : Std.Antisymm fun x y : String × α => x.1 < y.1 :=
    ⟨fun _ _ hxy hyx => absurd hyx (String.lt_asymm hxy)⟩
  refine ext (m.sorted.eq_of_mem_iff n.sorted ?_)
  rintro ⟨name, a⟩
  rw [← get?_eq_some_iff, ← get?_eq_some_iff, h]

/-- The map of a map's own listing is that map. -/
theorem ofList_toList (m : NameMap α) : ofList m.toList = m := by
  have hnames : (m.toList.map (·.1)).Nodup := by
    rw [List.Nodup, List.pairwise_map]
    refine m.sorted.imp fun hlt heq => ?_
    rw [heq] at hlt
    exact String.lt_irrefl _ hlt
  refine ext_get? fun name => ?_
  rw [ofList, get?_foldl_entries hnames, get?_empty, Option.or_none]
  rfl

end NameMap

end DebugShell
