import DebugShell.Proofs.NameMap
import DebugShell.Registry

/-!
# The registry keeps its names apart

A registry holds the host's commands, the registered commands, and a map from names to places in the
list of commands. `Registry.WellFormed` says that the three fit together: the map binds exactly the
names of the commands, each to the one command that has it. The registry without commands is well
formed, and a registration keeps it so (`WellFormed.register`), whatever names it brings.

A registration first looks for an obstacle and binds names only when there is none. So the argument
has two parts. `obstacle?_eq_some_iff` says which error is found: the names before the offending one
are all free (`Registry.Free`). `get?_bindNames` says what binding does: the names of the command go
to its place, and all others stay where they were.
-/

namespace DebugShell.Registry

variable {σ : Type}

/-! ## What is stated of a registry -/

/-- The map of names and the list of commands fit together, and no protected name is bound. -/
structure WellFormed (r : Registry σ) : Prop where
  /-- The bound names are the names of the commands. -/
  contains_iff : ∀ n, r.contains n = true ↔ ∃ c ∈ r.commands, n ∈ c.names
  /-- No name belongs to two commands, or twice to one. -/
  distinct : (r.commands.flatMap Command.names).Nodup
  /-- A name is bound to a place in the list of commands. -/
  index_lt : ∀ n entry, r.names.get? n = some entry → entry.index < r.commands.length
  /-- Looking a name up gives the command that has it, and tells an alias from its own name. -/
  lookup_iff : ∀ n c isAlias, r.lookup n = some (c, isAlias) ↔
    c ∈ r.commands ∧ n ∈ c.names ∧ isAlias = (n != c.name)
  /-- A bound name is no command of the host, or one that may be shadowed. -/
  unprotected : ∀ n, r.contains n = true → n ∈ r.builtins → n ∈ shadowable

/-- Names that can be bound together: they are distinct, and none is bound or protected. -/
structure Free (r : Registry σ) (names : List String) : Prop where
  /-- No name stands twice. -/
  distinct : names.Nodup
  /-- No name is bound. -/
  unbound : ∀ n ∈ names, r.contains n = false
  /-- A name is no command of the host, or one that may be shadowed. -/
  unprotected : ∀ n ∈ names, n ∈ r.builtins → n ∈ shadowable

/-- Why a name of a command cannot be bound, where `earlier` are the command's names before it. -/
inductive Obstacle (r : Registry σ) (earlier : List String) (n : String) : RegistryError → Prop
  /-- It is bound already, or it stands twice. -/
  | duplicate (taken : r.contains n = true ∨ n ∈ earlier) : Obstacle r earlier n (.duplicate n)
  /-- It is not taken, but it is a command of the host that may not be shadowed. -/
  | builtinOverride (untaken : ¬(r.contains n = true ∨ n ∈ earlier)) (builtin : n ∈ r.builtins)
      (unlisted : n ∉ shadowable) : Obstacle r earlier n (.builtinOverride n)

/-- The registry after a registration was tried: a refused command leaves it as it was. -/
def afterRegister (r : Registry σ) (c : Command σ) : Registry σ :=
  match r.register c with
  | .ok r' => r'
  | .error _ => r

/-- The registry after a sequence of registrations was tried. -/
def afterRegisters (r : Registry σ) (cs : List (Command σ)) : Registry σ :=
  cs.foldl afterRegister r

/-- The registry with one more command, which comes last, and with its names bound to that place. -/
def withCommand (r : Registry σ) (c : Command σ) : Registry σ :=
  { r with commands := r.commands ++ [c], names := bindNames r.names r.commands.length c }

/-! ## The search for an obstacle -/

/-- A name in front of others is free with them if it is free and none of them. -/
theorem free_cons (r : Registry σ) (n : String) (rest : List String) :
    r.Free (n :: rest) ↔
      n ∉ rest ∧ r.contains n = false ∧ (n ∈ r.builtins → n ∈ shadowable) ∧ r.Free rest := by
  constructor
  · rintro ⟨hdistinct, hunbound, hunprotected⟩
    obtain ⟨hnot, hdistinct⟩ := List.nodup_cons.1 hdistinct
    obtain ⟨h1, hunbound⟩ := List.forall_mem_cons.1 hunbound
    obtain ⟨h2, hunprotected⟩ := List.forall_mem_cons.1 hunprotected
    exact ⟨hnot, h1, h2, hdistinct, hunbound, hunprotected⟩
  · rintro ⟨hnot, h1, h2, hdistinct, hunbound, hunprotected⟩
    exact ⟨List.nodup_cons.2 ⟨hnot, hdistinct⟩, List.forall_mem_cons.2 ⟨h1, hunbound⟩,
      List.forall_mem_cons.2 ⟨h2, hunprotected⟩⟩

/-- No names at all are free. -/
theorem free_nil (r : Registry σ) : r.Free [] := ⟨.nil, by simp, by simp⟩

/-- The search at one name, with its conditions as propositions. -/
theorem obstacle?_cons (r : Registry σ) (claimed : List String) (n : String)
    (rest : List String) :
    r.obstacle? claimed (n :: rest) =
      if r.contains n = true ∨ n ∈ claimed then some (.duplicate n)
      else if n ∈ r.builtins ∧ n ∉ shadowable then some (.builtinOverride n)
      else r.obstacle? (n :: claimed) rest := by
  rw [obstacle?]
  simp only [Bool.or_eq_true, Bool.and_eq_true, List.contains_eq_mem, decide_eq_true_eq,
    Bool.not_eq_true', decide_eq_false_iff_not]

/-- No obstacle is found exactly if the names are free and none of them was claimed before. -/
theorem obstacle?_eq_none_iff (r : Registry σ) (claimed names : List String) :
    r.obstacle? claimed names = none ↔ r.Free names ∧ ∀ n ∈ names, n ∉ claimed := by
  induction names generalizing claimed with
  | nil => exact ⟨fun _ => ⟨free_nil r, by simp⟩, fun _ => rfl⟩
  | cons n rest ih =>
    rw [obstacle?_cons, free_cons, List.forall_mem_cons]
    split
    · rename_i htaken
      refine ⟨fun h => by simp at h, fun ⟨⟨_, hunbound, _⟩, hn, _⟩ => ?_⟩
      rcases htaken with h | h
      · simp [h] at hunbound
      · exact absurd h hn
    · rename_i huntaken
      obtain ⟨hunbound, hn⟩ := not_or.1 huntaken
      split
      · rename_i hprotected
        exact ⟨fun h => by simp at h,
          fun ⟨⟨_, _, h, _⟩, _⟩ => absurd (h hprotected.1) hprotected.2⟩
      · rename_i hunprotected
        rw [ih]
        -- What is claimed for the rest is `n` and what was claimed before it.
        simp only [List.mem_cons, not_or]
        grind

/-- Which earlier names there are matters, but not their order. -/
theorem Obstacle.congr {r : Registry σ} {earlier earlier' : List String} {n : String}
    {e : RegistryError} (h : ∀ m, m ∈ earlier ↔ m ∈ earlier') (hn : r.Obstacle earlier n e) :
    r.Obstacle earlier' n e := by
  cases hn with
  | duplicate taken => exact .duplicate (taken.imp_right (h n).1)
  | builtinOverride untaken builtin unlisted =>
    exact .builtinOverride (fun taken => untaken (taken.imp_right (h n).2)) builtin unlisted

/-- A place in a list is its first one or one in the rest. -/
theorem exists_split_cons {α : Type} (a : α) (rest : List α) (P : List α → α → Prop) :
    (∃ before b after, a :: rest = before ++ b :: after ∧ P before b) ↔
      P [] a ∨ ∃ before b after, rest = before ++ b :: after ∧ P (a :: before) b := by
  constructor
  · rintro ⟨before, b, after, h, hP⟩
    cases before with
    | nil =>
      obtain ⟨rfl, rfl⟩ := List.cons.inj h
      exact .inl hP
    | cons a' before =>
      obtain ⟨rfl, hrest⟩ := List.cons.inj h
      exact .inr ⟨before, b, after, hrest, hP⟩
  · rintro (hP | ⟨before, b, after, rfl, hP⟩)
    · exact ⟨[], a, rest, rfl, hP⟩
    · exact ⟨a :: before, b, after, rfl, hP⟩

/-- The error that is found is about the first name that cannot be bound. -/
theorem obstacle?_eq_some_iff (r : Registry σ) (claimed names : List String)
    (e : RegistryError) :
    r.obstacle? claimed names = some e ↔ ∃ before n after, names = before ++ n :: after ∧
      r.obstacle? claimed before = none ∧ r.Obstacle (before ++ claimed) n e := by
  induction names generalizing claimed with
  | nil => simp [obstacle?]
  | cons n rest ih =>
    rw [exists_split_cons n rest fun before m =>
      r.obstacle? claimed before = none ∧ r.Obstacle (before ++ claimed) m e]
    simp only [obstacle?_cons]
    split
    · -- `n` is taken, so the search ends here, and no later name can be the offending one.
      rename_i htaken
      simp only [reduceCtorEq, false_and, and_false, exists_false, or_false]
      constructor
      · rintro ⟨⟩
        exact ⟨rfl, .duplicate htaken⟩
      · rintro ⟨-, hn⟩
        cases hn with
        | duplicate _ => rfl
        | builtinOverride untaken _ _ => exact absurd htaken untaken
    · rename_i huntaken
      split
      · -- `n` is protected, and again the search ends.
        rename_i hprotected
        simp only [reduceCtorEq, false_and, and_false, exists_false, or_false]
        constructor
        · rintro ⟨⟩
          exact ⟨rfl, .builtinOverride huntaken hprotected.1 hprotected.2⟩
        · rintro ⟨-, hn⟩
          cases hn with
          | duplicate taken => exact absurd taken huntaken
          | builtinOverride _ _ _ => rfl
      · -- `n` is free, and is claimed when the search goes on.
        rename_i hunprotected
        have hperm (before : List String) (m : String) :
            m ∈ before ++ n :: claimed ↔ m ∈ n :: before ++ claimed := by
          simp only [List.mem_append, List.mem_cons]
          grind
        rw [ih]
        constructor
        · rintro ⟨before, m, after, hrest, hnone, hm⟩
          exact .inr ⟨before, m, after, hrest, hnone, hm.congr (hperm before)⟩
        · rintro (⟨-, hn⟩ | ⟨before, m, after, hrest, hnone, hm⟩)
          · cases hn with
            | duplicate taken => exact absurd taken huntaken
            | builtinOverride _ builtin unlisted =>
              exact absurd ⟨builtin, unlisted⟩ hunprotected
          · exact ⟨before, m, after, hrest, hnone,
              hm.congr fun m => (hperm before m).symm⟩

/-! ## What a registration does -/

/-- A command is refused with an error exactly if the error is about the first of its names that
cannot be bound. -/
theorem register_eq_error_iff (r : Registry σ) (c : Command σ) (e : RegistryError) :
    r.register c = .error e ↔ ∃ before n after, c.names = before ++ n :: after ∧
      r.Free before ∧ r.Obstacle before n e := by
  have hsearch := obstacle?_eq_some_iff r [] c.names e
  simp only [obstacle?_eq_none_iff, List.not_mem_nil, not_false_eq_true, implies_true, and_true,
    List.append_nil] at hsearch
  rw [← hsearch, register]
  split
  · rename_i e' h
    simp [h]
  · rename_i h
    simp [h]

/-- A command is registered exactly if its names are free, and then it comes last. -/
theorem register_eq_ok_iff (r : Registry σ) (c : Command σ) (r' : Registry σ) :
    r.register c = .ok r' ↔ r.Free c.names ∧ r' = r.withCommand c := by
  have hnone := obstacle?_eq_none_iff r [] c.names
  simp only [List.not_mem_nil, not_false_eq_true, implies_true, and_true] at hnone
  rw [← hnone, register]
  split
  · rename_i e h
    simp [h]
  · rename_i h
    rw [Except.ok.injEq, eq_comm]
    exact (and_iff_right h).symm

/-- A name is bound to what the last of several bindings says, if it is the same for all. -/
theorem get?_foldl_insert (entry : String → NameEntry) (added : List String)
    (names : NameMap NameEntry) (n : String) :
    (added.foldl (fun names name => names.insert name (entry name)) names).get? n =
      if n ∈ added then some (entry n) else names.get? n := by
  induction added generalizing names with
  | nil => simp
  | cons name rest ih =>
    rw [List.foldl_cons, ih, NameMap.get?_insert]
    by_cases hrest : n ∈ rest
    · simp [hrest]
    · by_cases hn : n = name
      · simp [hn]
      · simp [hrest, hn]

/-- Binding the names of a command binds them to its place and leaves all others as they were. -/
theorem get?_bindNames (names : NameMap NameEntry) (index : Nat) (c : Command σ) (n : String) :
    (bindNames names index c).get? n =
      if n ∈ c.names then some ⟨index, n != c.name⟩ else names.get? n :=
  get?_foldl_insert (fun n => ⟨index, n != c.name⟩) c.names names n

/-! ## The invariant -/

/-- Looking a name up finds the command at the place to which the name is bound. -/
theorem lookup_eq_some_iff (r : Registry σ) (n : String) (c : Command σ) (isAlias : Bool) :
    r.lookup n = some (c, isAlias) ↔
      ∃ index, r.names.get? n = some ⟨index, isAlias⟩ ∧ r.commands[index]? = some c := by
  unfold lookup
  simp only [Option.bind_eq_some_iff, Option.map_eq_some_iff, Prod.mk.injEq]
  constructor
  · rintro ⟨⟨index, _⟩, hentry, _, hc, rfl, rfl⟩
    exact ⟨index, hentry, hc⟩
  · rintro ⟨index, hentry, hc⟩
    exact ⟨⟨index, isAlias⟩, hentry, c, hc, rfl, rfl⟩

/-- The registry without commands is well formed. -/
theorem wellFormed_empty (builtins : List String) :
    WellFormed ({ builtins } : Registry σ) where
  contains_iff n := by simp [contains]
  distinct := by simp
  index_lt n entry h := by simp at h
  lookup_iff n c isAlias := by simp [lookup]
  unprotected n h := by simp [contains] at h

/-- With one more command, the bound names are its names and the old ones. -/
theorem contains_withCommand (r : Registry σ) (c : Command σ) (n : String) :
    (r.withCommand c).contains n = true ↔ n ∈ c.names ∨ r.contains n = true := by
  unfold contains withCommand
  dsimp only
  rw [get?_bindNames]
  split
  · rename_i hn
    exact iff_of_true rfl (.inl hn)
  · rename_i hn
    exact (or_iff_right hn).symm

/-- Looking up a name of the new command leads to its place, which is the last one. -/
theorem lookup_withCommand_of_mem (r : Registry σ) {c : Command σ} {n : String}
    (hn : n ∈ c.names) : (r.withCommand c).lookup n = some (c, n != c.name) := by
  rw [lookup_eq_some_iff]
  refine ⟨r.commands.length, ?_, List.getElem?_concat_length⟩
  unfold withCommand
  dsimp only
  rw [get?_bindNames, if_pos hn]

/-- Looking up any other name leads where it led before. -/
theorem lookup_withCommand_of_not_mem {r : Registry σ}
    (hlt : ∀ n entry, r.names.get? n = some entry → entry.index < r.commands.length)
    {c : Command σ} {n : String} (hn : n ∉ c.names) :
    (r.withCommand c).lookup n = r.lookup n := by
  unfold lookup withCommand
  dsimp only
  rw [get?_bindNames, if_neg hn]
  cases hentry : r.names.get? n with
  | none => rfl
  | some entry =>
    rw [Option.bind_some, Option.bind_some, List.getElem?_append_left (hlt n entry hentry)]

section WithCommand

variable {r : Registry σ} (hr : r.WellFormed) {c : Command σ} (hfree : r.Free c.names)
include hr hfree

/-- No name of a command whose names are free belongs to an old command. -/
theorem WellFormed.not_mem_names {n : String} (hn : n ∈ c.names) :
    ∀ c' ∈ r.commands, n ∉ c'.names := by
  intro c' hc' hn'
  have hbound := (hr.contains_iff n).2 ⟨c', hc', hn'⟩
  rw [hfree.unbound n hn] at hbound
  cases hbound

/-- A command whose names are free keeps a registry well formed. -/
theorem WellFormed.withCommand : (r.withCommand c).WellFormed where
  contains_iff n := by
    rw [contains_withCommand, hr.contains_iff n]
    simp only [Registry.withCommand, List.mem_append, List.mem_singleton, or_and_right, exists_or,
      exists_eq_left]
    exact or_comm
  distinct := by
    unfold Registry.withCommand
    rw [List.flatMap_append, List.nodup_append, List.flatMap_singleton]
    refine ⟨hr.distinct, hfree.distinct, ?_⟩
    rintro n hold _ hn rfl
    obtain ⟨c', hc', hn'⟩ := List.mem_flatMap.1 hold
    exact hr.not_mem_names hfree hn c' hc' hn'
  index_lt n entry hentry := by
    unfold Registry.withCommand at hentry ⊢
    dsimp only at hentry ⊢
    rw [get?_bindNames] at hentry
    rw [List.length_append, List.length_singleton]
    split at hentry
    · cases hentry
      exact Nat.lt_succ_self _
    · have hlt := hr.index_lt n entry hentry
      omega
  lookup_iff n c' isAlias := by
    have hmem : c' ∈ (r.withCommand c).commands ↔ c' ∈ r.commands ∨ c' = c := by
      unfold Registry.withCommand
      rw [List.mem_append, List.mem_singleton]
    rw [hmem]
    by_cases hn : n ∈ c.names
    · rw [lookup_withCommand_of_mem r hn, Option.some.injEq, Prod.mk.injEq]
      constructor
      · rintro ⟨rfl, rfl⟩
        exact ⟨.inr rfl, hn, rfl⟩
      · rintro ⟨hold | rfl, hn', rfl⟩
        · exact absurd hn' (hr.not_mem_names hfree hn c' hold)
        · exact ⟨rfl, rfl⟩
    · rw [lookup_withCommand_of_not_mem hr.index_lt hn, hr.lookup_iff]
      constructor
      · rintro ⟨hold, hn', halias⟩
        exact ⟨.inl hold, hn', halias⟩
      · rintro ⟨hold | rfl, hn', halias⟩
        · exact ⟨hold, hn', halias⟩
        · exact absurd hn' hn
  unprotected n hn := by
    rcases (contains_withCommand r c n).1 hn with hn | hn
    · exact hfree.unprotected n hn
    · exact hr.unprotected n hn

end WithCommand

/-- A registration keeps a registry well formed. -/
theorem WellFormed.register {r : Registry σ} (hr : r.WellFormed) {c : Command σ}
    {r' : Registry σ} (h : r.register c = .ok r') : r'.WellFormed := by
  obtain ⟨hfree, rfl⟩ := (register_eq_ok_iff r c r').1 h
  exact hr.withCommand hfree

/-- A registration that is tried keeps a registry well formed. -/
theorem WellFormed.afterRegister {r : Registry σ} (hr : r.WellFormed) (c : Command σ) :
    (r.afterRegister c).WellFormed := by
  unfold Registry.afterRegister
  split
  · rename_i r' h
    exact hr.register h
  · exact hr

/-- The registry is well formed after any sequence of registrations. -/
theorem WellFormed.afterRegisters {r : Registry σ} (hr : r.WellFormed) (cs : List (Command σ)) :
    (r.afterRegisters cs).WellFormed := by
  induction cs generalizing r with
  | nil => exact hr
  | cons c rest ih => exact ih (hr.afterRegister c)

/-- In a well-formed registry a name finds a command exactly if the command has it. -/
theorem WellFormed.find?_eq_some_iff {r : Registry σ} (hr : r.WellFormed) (n : String)
    (c : Command σ) : r.find? n = some c ↔ c ∈ r.commands ∧ n ∈ c.names := by
  unfold find?
  rw [Option.map_eq_some_iff]
  constructor
  · rintro ⟨⟨_, isAlias⟩, h, rfl⟩
    obtain ⟨hc, hn, -⟩ := (hr.lookup_iff n _ isAlias).1 h
    exact ⟨hc, hn⟩
  · rintro ⟨hc, hn⟩
    exact ⟨(c, n != c.name), (hr.lookup_iff n c _).2 ⟨hc, hn, rfl⟩, rfl⟩

/-! ## The contract of a registration -/

/-- What a registration of `c` does to a registry. -/
structure RegisterContract (r : Registry σ) (c : Command σ) : Prop where
  /-- It fails exactly if some name of the command is bound, stands twice, or is protected. -/
  fails_iff : (∃ e, r.register c = .error e) ↔ ∃ before n after, c.names = before ++ n :: after ∧
    (r.contains n = true ∨ n ∈ before ∨ n ∈ r.builtins ∧ n ∉ shadowable)
  /-- The error is about the first such name, and says that it is taken before it says that it is
  protected. -/
  error_iff : ∀ e, r.register c = .error e ↔ ∃ before n after, c.names = before ++ n :: after ∧
    r.Free before ∧ r.Obstacle before n e
  /-- A refused command leaves the registry as it was. -/
  unchanged : ∀ e, r.register c = .error e → r.afterRegister c = r
  /-- A registered command comes last, and its names are bound beside the old ones. -/
  appended : ∀ r', r.register c = .ok r' → r.afterRegister c = r' ∧
    r'.commands = r.commands ++ [c] ∧ r'.builtins = r.builtins ∧
    ∀ n, r'.names.get? n =
      if n ∈ c.names then some ⟨r.commands.length, n != c.name⟩ else r.names.get? n

/-- Names of which one is bound, stands twice, or is protected are not free. -/
theorem not_free_of_split {r : Registry σ} {before after : List String} {n : String}
    (h : r.contains n = true ∨ n ∈ before ∨ n ∈ r.builtins ∧ n ∉ shadowable) :
    ¬r.Free (before ++ n :: after) := by
  intro hfree
  have hn : n ∈ before ++ n :: after := List.mem_append_right _ List.mem_cons_self
  rcases h with hbound | hbefore | ⟨hbuiltin, hunlisted⟩
  · simp [hfree.unbound n hn] at hbound
  · have hdisjoint := (List.nodup_append.1 hfree.distinct).2.2
    exact hdisjoint n hbefore n List.mem_cons_self rfl
  · exact hunlisted (hfree.unprotected n hn hbuiltin)

/-- Every registration meets its contract. -/
theorem registerContract (r : Registry σ) (c : Command σ) : RegisterContract r c where
  fails_iff := by
    constructor
    · rintro ⟨e, he⟩
      obtain ⟨before, n, after, hnames, -, hn⟩ := (register_eq_error_iff r c e).1 he
      refine ⟨before, n, after, hnames, ?_⟩
      cases hn with
      | duplicate taken => exact taken.imp_right .inl
      | builtinOverride _ builtin unlisted => exact .inr (.inr ⟨builtin, unlisted⟩)
    · rintro ⟨before, n, after, hnames, h⟩
      cases hresult : r.register c with
      | error e => exact ⟨e, rfl⟩
      | ok r' =>
        have hfree := ((register_eq_ok_iff r c r').1 hresult).1
        rw [hnames] at hfree
        exact absurd hfree (not_free_of_split h)
  error_iff := register_eq_error_iff r c
  unchanged e he := by rw [afterRegister, he]
  appended r' h := by
    obtain ⟨-, hr'⟩ := (register_eq_ok_iff r c r').1 h
    subst hr'
    refine ⟨by rw [afterRegister, h], rfl, rfl, fun n => ?_⟩
    exact get?_bindNames r.names r.commands.length c n

/-- After any sequence of registrations, accepted or refused, the names and the commands of a
registry fit together, and the next registration meets its contract. -/
theorem registrations_keep_names_apart (builtins : List String) (earlier : List (Command σ))
    (c : Command σ) :
    (afterRegisters { builtins } earlier).WellFormed ∧
      RegisterContract (afterRegisters { builtins } earlier) c :=
  ⟨(wellFormed_empty builtins).afterRegisters earlier, registerContract _ c⟩

end DebugShell.Registry
