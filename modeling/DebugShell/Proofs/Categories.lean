import DebugShell.Proofs.Blank
import DebugShell.Proofs.Registry
import DebugShell.Proofs.SortedNames
import DebugShell.Shell

/-!
# The commands by category

The registered commands are listed by category. `Partitions` says what makes such a listing
complete: the categories ascend, none is empty, and every command stands in the listing once, under
its own category and in the order of registration. `partitions_byCategory` shows it of every
registry. No category is listed twice, so taking the commands of one category after another takes
every command once (`perm_flatMap_filter`).

Seen from one registration to the next, a command that is registered comes last under its category,
which is opened if it is the first there, and nothing else in the listing moves
(`categories_withCommand`). A refused command leaves the listing alone. So the listing is what comes
of filing the commands one after another (`categories_eq_foldl`), however the categories take turns.

The overview that a shell gives for `help` follows the listing line by line, and so it has one entry
for each command (`overviewContract`).
-/

namespace DebugShell

variable {σ : Type}

/-! ## What is stated of a listing -/

/-- A listing by category has every one of the commands in its place. -/
structure Partitions (commands : List (Command σ))
    (sections : List (String × List (Command σ))) : Prop where
  /-- The categories are in ascending order, each once. -/
  ascending : (sections.map (·.1)).Pairwise (· < ·)
  /-- Each category has a command. -/
  inhabited : ∀ e ∈ sections, e.2 ≠ []
  /-- A command stands under its own category. -/
  own : ∀ e ∈ sections, ∀ c ∈ e.2, c.category = e.1
  /-- The commands of a category keep their order. -/
  in_order : ∀ e ∈ sections, e.2.Sublist commands
  /-- None is missing, and none stands more often than it was registered. -/
  perm : (sections.flatMap (·.2)).Perm commands

/-- The listing with one more command, which comes last under its category. -/
def fileUnder (sections : NameMap (List (Command σ))) (c : Command σ) :
    NameMap (List (Command σ)) :=
  sections.insert c.category ((sections.get? c.category).getD [] ++ [c])

namespace Registry

variable (r : Registry σ)

/-! ## The listing is complete -/

/-- The commands of a category, in the order of registration. -/
def inCategory (category : String) : List (Command σ) :=
  r.commands.filter fun c => c.category == category

/-- The categories that are listed are those of the commands. -/
theorem map_fst_byCategory :
    r.byCategory.map (·.1) = sortedNames (r.commands.map (·.category)) := by
  rw [byCategory, List.map_map]
  exact List.map_id _

/-- Each of them is listed with its commands. -/
theorem mem_byCategory_iff (e : String × List (Command σ)) :
    e ∈ r.byCategory ↔ r.inCategory e.1 ≠ [] ∧ e.2 = r.inCategory e.1 := by
  have hused : e.1 ∈ sortedNames (r.commands.map (·.category)) ↔ r.inCategory e.1 ≠ [] := by
    rw [mem_sortedNames, List.mem_map, inCategory, ne_eq, List.filter_eq_nil_iff]
    simp
  rw [← hused, byCategory, List.mem_map]
  constructor
  · rintro ⟨category, hcategory, rfl⟩
    exact ⟨hcategory, rfl⟩
  · rintro ⟨hcategory, hcommands⟩
    exact ⟨e.1, hcategory, Prod.ext rfl hcommands.symm⟩

/-- The commands of one category after another are all commands of these categories. -/
theorem perm_flatMap_filter (commands : List (Command σ)) {categories : List String}
    (h : categories.Nodup) :
    (categories.flatMap fun k => commands.filter fun c => c.category == k).Perm
      (commands.filter fun c => categories.contains c.category) := by
  induction categories with
  | nil => simp
  | cons k rest ih =>
    obtain ⟨hk, hrest⟩ := List.nodup_cons.1 h
    -- Of the commands that are meant, some are of the first category, and the others of the rest.
    generalize hmeant : (commands.filter fun c => (k :: rest).contains c.category) = meant
    have hfirst : (commands.filter fun c => c.category == k) =
        meant.filter fun c => c.category == k := by
      rw [← hmeant, List.filter_filter]
      refine List.filter_congr fun c _ => ?_
      by_cases hc : c.category = k
      · simp [hc]
      · simp [hc]
    have hothers : (commands.filter fun c => rest.contains c.category) =
        meant.filter fun c => !(c.category == k) := by
      rw [← hmeant, List.filter_filter]
      refine List.filter_congr fun c _ => ?_
      by_cases hc : c.category = k
      · simp [hc, hk]
      · simp [hc]
    rw [List.flatMap_cons]
    refine ((ih hrest).append_left _).trans ?_
    rw [hfirst, hothers]
    exact List.filter_append_perm _ meant

/-- The listing by category has every command in its place. -/
theorem partitions_byCategory : Partitions r.commands r.byCategory where
  ascending := by
    rw [map_fst_byCategory]
    exact sortedNames_ascending _
  inhabited e he := by
    obtain ⟨hused, hcommands⟩ := (mem_byCategory_iff r e).1 he
    rwa [hcommands]
  own e he c hc := by
    rw [((mem_byCategory_iff r e).1 he).2, inCategory, List.mem_filter] at hc
    exact eq_of_beq hc.2
  in_order e he := by
    rw [((mem_byCategory_iff r e).1 he).2]
    exact List.filter_sublist
  perm := by
    have hdistinct := nodup_sortedNames (r.commands.map (·.category))
    have hall : (r.commands.filter fun c =>
        (sortedNames (r.commands.map (·.category))).contains c.category) = r.commands := by
      refine List.filter_eq_self.2 fun c hc => ?_
      rw [List.contains_iff_mem, mem_sortedNames]
      exact List.mem_map_of_mem hc
    have hperm := perm_flatMap_filter r.commands hdistinct
    rw [hall] at hperm
    rw [byCategory, List.flatMap_map]
    exact hperm

/-! ## Filing one command after another -/

/-- The listing by category, as a map from the categories to their commands. -/
def categories : NameMap (List (Command σ)) where
  toList := r.byCategory
  sorted := List.pairwise_map.1 r.partitions_byCategory.ascending

/-- Looking a category up finds its commands, if it has any. -/
theorem get?_categories (category : String) : r.categories.get? category =
    if r.inCategory category = [] then none else some (r.inCategory category) := by
  refine Option.ext fun commands => ?_
  rw [NameMap.get?_eq_some_iff, categories, mem_byCategory_iff]
  split
  · rename_i hnone
    simp [hnone]
  · rename_i hsome
    rw [Option.some.injEq, eq_comm]
    exact and_iff_right hsome

/-- One more command comes last under its category, and all others stay where they were. -/
theorem categories_withCommand (c : Command σ) :
    (r.withCommand c).categories = fileUnder r.categories c := by
  refine NameMap.ext_get? fun category => ?_
  have hcommands : (r.withCommand c).inCategory category =
      r.inCategory category ++ [c].filter fun c => c.category == category := List.filter_append _ _
  rw [fileUnder, NameMap.get?_insert, get?_categories, get?_categories, get?_categories, hcommands]
  by_cases hcategory : category = c.category
  · subst hcategory
    rw [if_pos rfl, List.filter_cons_of_pos (by simp), List.filter_nil, if_neg (by simp)]
    split
    · -- It is the first command there.
      rename_i hnone
      rw [hnone]
      rfl
    · rfl
  · -- In any other category it does not stand.
    rw [if_neg hcategory, List.filter_cons_of_neg (by simpa using Ne.symm hcategory),
      List.filter_nil, List.append_nil]

/-- The listing is what comes of filing the commands one after another. -/
theorem categories_eq_foldl : r.categories = r.commands.foldl fileUnder .empty := by
  have hfiled (commands : List (Command σ)) :
      ({ r with commands } : Registry σ).categories = commands.foldl fileUnder .empty := by
    -- The command that is filed last is the last one of the list.
    induction commands using List.reverseRecOn with
    | nil => exact NameMap.ext (by simp [categories, byCategory, sortedNames, NameMap.empty])
    | append_singleton commands c ih =>
      rw [List.foldl_concat, ← ih]
      exact categories_withCommand { r with commands } c
  exact hfiled r.commands

/-- What the listing by category is in a registry, and what becomes of it when the command `c` is
registered next. -/
structure CategoryContract (c : Command σ) : Prop where
  /-- It has every command in its place. -/
  partitions : Partitions r.commands r.byCategory
  /-- It comes of filing them one after another. -/
  one_by_one : r.byCategory = (r.commands.foldl fileUnder .empty).toList
  /-- No name belongs to two of the listed commands, and so no command is listed twice. -/
  distinct : ((r.byCategory.flatMap (·.2)).flatMap Command.names).Nodup
  /-- A refused command leaves the listing as it was. -/
  unchanged : ∀ e, r.register c = .error e → (r.afterRegister c).byCategory = r.byCategory
  /-- A registered command comes last under its category, and nothing else moves. -/
  filed : ∀ r', r.register c = .ok r' →
    (r.afterRegister c).byCategory = (fileUnder r.categories c).toList

variable {r}

/-- A well-formed registry lists each of its commands once. -/
theorem WellFormed.categoryContract (hr : r.WellFormed) (c : Command σ) :
    r.CategoryContract c where
  partitions := r.partitions_byCategory
  one_by_one := by
    rw [← categories_eq_foldl]
    rfl
  distinct := (r.partitions_byCategory.perm.flatMap_right Command.names).nodup_iff.2 hr.distinct
  unchanged e he := by rw [(registerContract r c).unchanged e he]
  filed r' hr' := by
    obtain ⟨-, rfl⟩ := (register_eq_ok_iff r c r').1 hr'
    rw [((registerContract r c).appended _ hr').1, ← categories_withCommand]
    rfl

end Registry

/-! ## The overview -/

namespace Shell

/-- The line that opens a category. -/
def heading (category : String) : Message :=
  .plain (category ++ ":")

/-- The line that tells of a command. -/
def entry (c : Command σ) : Message :=
  .plain (commandLine c)

/-- The line that tells of the shell's own commands. -/
def ownEntry : Message :=
  .plain "Shell: help, set, show, quit, exit"

/-- What an overview of commands tells. -/
structure OverviewContract (commands : List (Command σ)) (output : List Message) : Prop where
  /-- It goes through the listing by category, with the entries of a category's commands under its
  heading, and ends with the shell's own commands. So in all it is made of one entry for each
  command, one heading for each category, and that line. -/
  laid_out : ∃ sections, Partitions commands sections ∧
    output = (sections.flatMap fun e => heading e.1 :: e.2.map entry) ++ [ownEntry] ∧
    output.Perm (commands.map entry ++ (sections.map fun e => heading e.1) ++ [ownEntry])
  /-- Commands whose names are words are told apart by their entries. -/
  told_apart : ∀ c ∈ commands, ∀ c' ∈ commands, (∀ x ∈ c.name.toList, Text.isBlank x = false) →
    (∀ x ∈ c'.name.toList, Text.isBlank x = false) → entry c = entry c' → c.name = c'.name

/-- A padded text with a space behind it goes on with a space where the text ends. -/
theorem exists_toList_padTo (width : Nat) (text rest : String) :
    ∃ after, (text.padTo width ++ " " ++ rest).toList = text.toList ++ ' ' :: after := by
  have hspace : " ".toList = [' '] := rfl
  refine ⟨List.replicate (width - text.toList.length) ' ' ++ rest.toList, ?_⟩
  rw [String.toList_append, String.toList_append, String.padTo, String.toList_ofList,
    Text.padRight, hspace, List.append_assoc text.toList, ← List.replicate_succ',
    List.append_assoc, List.replicate_succ, List.cons_append]

/-- An entry begins with the name of its command, a little indented and with a space behind it. -/
theorem exists_toList_commandLine (c : Command σ) :
    ∃ rest, (commandLine c).toList = ' ' :: ' ' :: (c.name.toList ++ ' ' :: rest) := by
  have hline (names : String) : ∃ after,
      ("  " ++ names.padTo 22 ++ " " ++ c.spec.description).toList =
        ' ' :: ' ' :: (names.toList ++ ' ' :: after) := by
    obtain ⟨after, hafter⟩ := exists_toList_padTo 22 names c.spec.description
    have hindent : "  ".toList = [' ', ' '] := rfl
    refine ⟨after, ?_⟩
    rw [String.append_assoc, String.append_assoc, String.toList_append, hindent,
      ← String.append_assoc, hafter]
    rfl
  by_cases haliases : c.aliases = []
  · obtain ⟨after, hafter⟩ := hline c.name
    rw [commandLine, if_pos haliases]
    exact ⟨after, hafter⟩
  · -- The aliases stand in brackets behind the name, with a space between the two.
    have hnames : (c.name ++ " (" ++ ", ".intercalate c.aliases ++ ")").toList =
        c.name.toList ++ ' ' :: '(' :: ((", ".intercalate c.aliases).toList ++ [')']) := by
      simp only [String.toList_append, List.append_assoc]
      rfl
    obtain ⟨after, hafter⟩ := hline (c.name ++ " (" ++ ", ".intercalate c.aliases ++ ")")
    rw [hnames, List.append_assoc, List.cons_append] at hafter
    rw [commandLine, if_neg haliases]
    exact ⟨_, hafter⟩

/-- A name that is a word is the first one of the entry. -/
theorem firstWord_commandLine {c : Command σ} (h : ∀ x ∈ c.name.toList, Text.isBlank x = false) :
    Text.firstWord ((commandLine c).toList.drop 2) = c.name.toList := by
  obtain ⟨rest, hrest⟩ := exists_toList_commandLine c
  rw [hrest]
  refine (Text.firstWord_append h fun x others hothers => ?_).1
  rw [← (List.cons.inj hothers).1]
  decide

/-- The lines of a listing are the entries of its commands and the headings of its categories. -/
theorem perm_lines (sections : List (String × List (Command σ))) :
    (sections.flatMap fun e => heading e.1 :: e.2.map entry).Perm
      ((sections.flatMap (·.2)).map entry ++ sections.map fun e => heading e.1) := by
  induction sections with
  | nil => exact .nil
  | cons e rest ih =>
    rw [List.flatMap_cons, List.flatMap_cons, List.map_cons, List.map_append, List.cons_append]
    refine ((ih.append_left (e.2.map entry)).cons (heading e.1)).trans ?_
    -- The heading moves behind the entries.
    rw [← List.append_assoc]
    exact List.perm_middle.symm

/-- The overview tells of every command that is registered, once. -/
theorem overviewContract (s : Shell) :
    OverviewContract s.dispatcher.registry.commands (s.help "") where
  laid_out := by
    have hparts := s.dispatcher.registry.partitions_byCategory
    have hlines : s.help "" = (s.dispatcher.registry.byCategory.flatMap fun e =>
        heading e.1 :: e.2.map entry) ++ [ownEntry] := by
      rw [help, if_pos rfl, overview]
      simp only [List.map_append, List.map_flatMap, List.map_cons, List.map_map]
      rfl
    refine ⟨_, hparts, hlines, ?_⟩
    -- The entries are those of the listed commands, which are all that are registered.
    rw [hlines]
    refine ((perm_lines _).append_right _).trans ?_
    exact ((hparts.perm.map entry).append_right _).append_right _
  told_apart c _ c' _ hc hc' heq := by
    -- Equal entries have the same first word.
    have hline : commandLine c = commandLine c' := congrArg Message.text heq
    rw [← String.toList_inj, ← firstWord_commandLine hc, ← firstWord_commandLine hc', hline]

end Shell

/-- After any sequence of registrations, accepted or refused, every registered command is listed
once, under its category and in the order of registration, and the next registration changes the
listing at the place of its command at most. The overview of any shell has one entry for each
command that is registered there. -/
theorem commands_are_partitioned_by_category (builtins : List String)
    (earlier : List (Command σ)) (c : Command σ) (s : Shell) :
    (Registry.afterRegisters { builtins } earlier).CategoryContract c ∧
      Shell.OverviewContract s.dispatcher.registry.commands (s.help "") :=
  ⟨((Registry.wellFormed_empty builtins).afterRegisters earlier).categoryContract c,
    s.overviewContract⟩

end DebugShell
