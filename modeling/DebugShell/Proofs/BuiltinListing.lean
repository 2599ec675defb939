import DebugShell.Proofs.Equipment
import DebugShell.Proofs.TextLines

/-!
# A shell is refused for the names that its host lists

The commands of a shell claim ten names, and a shell starts unless one of them is a command of the
host's own. Which these are is read off a text, the host's listing. `Lists` says what a listing
names without reading it: some part between line feeds is no heading, and begins with the name as
a word.

Two walks lie between this and the answer. The text is cut into lines, where a carriage return
before the line feed goes and a last empty line is left out; neither can be told once the lines are
trimmed and the blank ones are dropped (`mem_map_trim_lines_iff`). And the commands are registered
one by one, each with its names in order. As long as no name stands twice, a registration can only
fail for a name that is protected (`register_of_fresh`). So the walk over the commands stops at the
first protected name of the list of all their names (`registerAll_of_fresh`), and comes to the end
if there is none.
-/

namespace DebugShell

namespace Text

/-! ## Lines and the parts between line feeds -/

/-- A carriage return at the end of a line makes no difference to it once it is trimmed. -/
theorem trim_dropCarriageReturn (line : List Char) :
    trim (dropCarriageReturn line) = trim line := by
  unfold dropCarriageReturn
  split
  · rename_i hlast
    have hline : line.dropLast ++ ['\r'] = line := List.dropLast_append_getLast? '\r' hlast
    have hblank : ∀ c ∈ ['\r'], isBlank c = true := List.forall_mem_singleton.2 (by decide)
    conv_rhs => rw [← hline]
    exact (trim_append_of_blank hblank line.dropLast).symm
  · rfl

/-- The lines that are read behind a line without a line feed are, but for blanks around them and
blank ones among them, the parts between the line feeds of the whole. -/
theorem filter_map_trim_linesFrom {line : List Char} (hline : '\n' ∉ line) (cs : List Char) :
    ((linesFrom line cs).map trim).filter (· ≠ []) =
      (((line ++ cs).splitOn '\n').map trim).filter (· ≠ []) := by
  induction cs generalizing line with
  | nil =>
    rw [List.append_nil, splitOn_of_not_mem hline, linesFrom]
    split
    · -- An empty last line is not read, and is blank as a part.
      rename_i hempty
      rw [hempty]
      rfl
    · rfl
  | cons c rest ih =>
    by_cases hc : c = '\n'
    · subst hc
      have hfeedless : '\n' ∉ ([] : List Char) := List.not_mem_nil
      have hrest := ih hfeedless
      rw [List.nil_append] at hrest
      rw [linesFrom, if_pos rfl, List.splitOn_append_cons_self_of_not_mem hline, List.map_cons,
        List.map_cons, trim_dropCarriageReturn, List.filter_cons, List.filter_cons, hrest]
    · rw [linesFrom, if_neg hc, ih (feed_not_mem_concat hline hc), List.append_assoc,
        List.singleton_append]

/-- What is left of the lines of a text when they are trimmed is, unless it is empty, what is left
of the parts between its line feeds. -/
theorem mem_map_trim_lines_iff (cs : List Char) {line : List Char} (hne : line ≠ []) :
    line ∈ (lines cs).map trim ↔ ∃ part ∈ cs.splitOn '\n', trim part = line := by
  have hfeedless : '\n' ∉ ([] : List Char) := List.not_mem_nil
  have hsame := filter_map_trim_linesFrom hfeedless cs
  have hmem := congrArg (line ∈ ·) hsame
  simp only [List.mem_filter, decide_eq_true hne, and_true, List.nil_append, eq_iff_iff] at hmem
  rw [lines, hmem, List.mem_map]

end Text

/-! ## What a listing names -/

/-- A line of a listing names a command: it is neither blank nor a heading, and the name is its
first word. -/
structure LineLists (line : List Char) (name : String) : Prop where
  /-- There is something on the line. -/
  nonempty : Text.trim line ≠ []
  /-- It is not the heading of a class. -/
  no_class : ¬"Command class:".toList <+: Text.trim line
  /-- It is not the heading of what belongs to no class. -/
  classified : ¬"Unclassified commands".toList <+: Text.trim line
  /-- Without the blanks around it, it begins with the name, up to the first blank or the end. -/
  first_word : ∃ rest, Text.trim line = name.toList ++ rest ∧
    (∀ c ∈ name.toList, Text.isBlank c = false) ∧
    ∀ c others, rest = c :: others → Text.isBlank c = true

/-- A listing names a command on one of its lines. -/
def Lists (listing name : String) : Prop :=
  ∃ line ∈ listing.toList.splitOn '\n', LineLists line name

/-- The word that a trimmed line begins with is the part without blanks that a blank follows. -/
theorem firstWord_eq_iff (cs : List Char) (name : String) :
    String.ofList (Text.firstWord cs) = name ↔ ∃ rest, cs = name.toList ++ rest ∧
      (∀ c ∈ name.toList, Text.isBlank c = false) ∧
      ∀ c others, rest = c :: others → Text.isBlank c = true := by
  constructor
  · rintro rfl
    refine ⟨Text.afterFirstWord cs, ?_, fun c hc => ?_, fun c others h => ?_⟩
    · rw [String.toList_ofList, Text.firstWord_append_afterFirstWord]
    · rw [String.toList_ofList] at hc
      simpa using List.mem_takeWhile_imp hc
    · exact Text.isBlank_of_afterFirstWord h
  · rintro ⟨rest, rfl, hword, hrest⟩
    rw [(Text.firstWord_append hword hrest).1, String.ofList_toList]

/-- A trimmed line passes for one that names a command if it is not empty and no heading. -/
theorem isCommandLine_iff (line : List Char) : isCommandLine line = true ↔ line ≠ [] ∧
    ¬"Command class:".toList <+: line ∧ ¬"Unclassified commands".toList <+: line := by
  unfold isCommandLine
  rw [Bool.and_eq_true, Bool.and_eq_true, bne_iff_ne, Bool.not_eq_true', Bool.not_eq_true',
    ← Bool.not_eq_true, ← Bool.not_eq_true, List.isPrefixOf_iff_prefix,
    List.isPrefixOf_iff_prefix, and_assoc]

/-- Whether a line names a command is read off it without its blanks. -/
theorem lineLists_iff (line : List Char) (name : String) : LineLists line name ↔
    isCommandLine (Text.trim line) = true ∧
      String.ofList (Text.firstWord (Text.trim line)) = name := by
  rw [isCommandLine_iff, firstWord_eq_iff]
  constructor
  · rintro ⟨hne, hclass, hclassified, hfirst⟩
    exact ⟨⟨hne, hclass, hclassified⟩, hfirst⟩
  · rintro ⟨⟨hne, hclass, hclassified⟩, hfirst⟩
    exact ⟨hne, hclass, hclassified, hfirst⟩

instance (line : List Char) (name : String) : Decidable (LineLists line name) :=
  decidable_of_iff' _ (lineLists_iff line name)

instance (listing name : String) : Decidable (Lists listing name) :=
  inferInstanceAs (Decidable (∃ line ∈ listing.toList.splitOn '\n', LineLists line name))

-- Neither blanks in front of a name nor a carriage return behind it hide it.
example : Lists "heap_config --x\n \t dist\r\n" "dist" := by decide +kernel

-- A heading may go on in any way, and only the first word of a line counts.
example : ¬Lists "Command class: dist\nUnclassified commandsdist\nset dist\n" "dist" := by
  decide +kernel

/-- The names that are read off a listing are those that it names. -/
theorem mem_builtinNames_iff (listing name : String) :
    name ∈ builtinNames listing ↔ Lists listing name := by
  unfold builtinNames sortedNames Lists
  simp only [List.mem_mergeSort, List.mem_eraseDups, List.mem_map (f := fun line =>
    String.ofList (Text.firstWord line)), List.mem_filter, lineLists_iff]
  constructor
  · rintro ⟨line, ⟨hline, hcommand⟩, hfirst⟩
    have hne : line ≠ [] := ((isCommandLine_iff line).1 hcommand).1
    obtain ⟨part, hpart, rfl⟩ := (Text.mem_map_trim_lines_iff listing.toList hne).1 hline
    exact ⟨part, hpart, hcommand, hfirst⟩
  · rintro ⟨part, hpart, hcommand, hfirst⟩
    have hne : Text.trim part ≠ [] := ((isCommandLine_iff _).1 hcommand).1
    have hline : Text.trim part ∈ (Text.lines listing.toList).map Text.trim :=
      (Text.mem_map_trim_lines_iff listing.toList hne).2 ⟨part, hpart, rfl⟩
    exact ⟨_, ⟨hline, hcommand⟩, hfirst⟩

/-! ## Registering fresh names -/

namespace Registry

variable {σ : Type} {r : Registry σ}

/-- A name is a command of the host that may not be shadowed. -/
def protects (r : Registry σ) (n : String) : Bool :=
  r.builtins.contains n && !shadowable.contains n

/-- Of names that are distinct and not taken, the first that is in the way is the first that is
protected. -/
theorem obstacle?_of_fresh {claimed names : List String} (hdistinct : names.Nodup)
    (hunbound : ∀ n ∈ names, r.contains n = false) (hunclaimed : ∀ n ∈ names, n ∉ claimed) :
    r.obstacle? claimed names = (names.find? r.protects).map .builtinOverride := by
  induction names generalizing claimed with
  | nil => rfl
  | cons n rest ih =>
    obtain ⟨hnot, hdistinct⟩ := List.nodup_cons.1 hdistinct
    obtain ⟨hn, hunbound⟩ := List.forall_mem_cons.1 hunbound
    obtain ⟨hn', hunclaimed⟩ := List.forall_mem_cons.1 hunclaimed
    have huntaken : ¬(r.contains n = true ∨ n ∈ claimed) := by
      rintro (h | h)
      · rw [hn] at h
        cases h
      · exact hn' h
    rw [obstacle?_cons, if_neg huntaken, List.find?_cons]
    cases hprotected : r.protects n with
    | true =>
      have hn : n ∈ r.builtins ∧ n ∉ shadowable := by simpa [protects] using hprotected
      rw [if_pos hn]
      rfl
    | false =>
      have hn : ¬(n ∈ r.builtins ∧ n ∉ shadowable) := by simpa [protects] using hprotected
      rw [if_neg hn]
      -- The rest does not have `n` in it, which is claimed from here on.
      refine ih hdistinct hunbound fun m hm hclaimed => ?_
      rcases List.mem_cons.1 hclaimed with rfl | hclaimed
      · exact hnot hm
      · exact hunclaimed m hm hclaimed

/-- A command whose names are distinct and not taken is registered, unless one of them is
protected. -/
theorem register_of_fresh {c : Command σ} (hdistinct : c.names.Nodup)
    (hunbound : ∀ n ∈ c.names, r.contains n = false) :
    r.register c = match c.names.find? r.protects with
      | some n => .error (.builtinOverride n)
      | none => .ok (r.withCommand c) := by
  rw [register, obstacle?_of_fresh hdistinct hunbound fun n _ => List.not_mem_nil]
  cases c.names.find? r.protects with
  | some n => rfl
  | none => rfl

/-- Commands whose names are distinct and not taken are all registered, unless one of the names is
protected. The first that is ends the registrations. -/
theorem registerAll_of_fresh {cs : List (Command σ)}
    (hdistinct : (cs.flatMap Command.names).Nodup)
    (hunbound : ∀ n ∈ cs.flatMap Command.names, r.contains n = false) :
    r.registerAll cs = match (cs.flatMap Command.names).find? r.protects with
      | some n => .error (.builtinOverride n)
      | none => .ok (cs.foldl withCommand r) := by
  induction cs generalizing r with
  | nil => rfl
  | cons c rest ih =>
    rw [List.flatMap_cons] at hdistinct hunbound ⊢
    obtain ⟨hc, hrest, hdisjoint⟩ := List.nodup_append.1 hdistinct
    obtain ⟨hcUnbound, hrestUnbound⟩ := List.forall_mem_append.1 hunbound
    rw [registerAll, register_of_fresh hc hcUnbound, List.find?_append]
    cases c.names.find? r.protects with
    | some n => rfl
    | none =>
      -- The names of the rest are not among those that have just been bound.
      have hstill : ∀ n ∈ rest.flatMap Command.names, (r.withCommand c).contains n = false := by
        intro n hn
        rw [← Bool.not_eq_true, contains_withCommand]
        rintro (h | h)
        · exact hdisjoint n h n hn rfl
        · rw [hrestUnbound n hn] at h
          cases h
      have hprotects : (r.withCommand c).protects = r.protects := rfl
      have hgoOn := ih hrest hstill
      rw [hprotects] at hgoOn
      exact hgoOn

end Registry

/-! ## Starting a shell -/

namespace Shell

/-- The names that a shell's commands claim, in the order in which they are registered. -/
def claimedNames : List String :=
  ["fsbase", "gsbase", "ghidra", "distance", "dist", "nextcall", "kversion", "arena",
    "tcachebins", "heap_config"]

/-- They are the same for every target. -/
theorem flatMap_names_commands (target : Target) (readFilter : FilterReader) :
    (commands target readFilter).flatMap Command.names = claimedNames := rfl

/-- What comes of starting a shell for a target, on a host with a listing. -/
structure StartContract (target : Target) (listing : String)
    (started : Except RegistryError Shell) : Prop where
  /-- It fails exactly if the listing names a command under one of the claimed names. -/
  fails_iff : (∃ e, started = .error e) ↔ ∃ n ∈ claimedNames, Lists listing n
  /-- The error is about the first of these. -/
  error_iff : ∀ e, started = .error e ↔ ∃ before n after, claimedNames = before ++ n :: after ∧
    (∀ m ∈ before, ¬Lists listing m) ∧ Lists listing n ∧ e = .builtinOverride n
  /-- Otherwise the commands are those of the target, in their order. -/
  commands_eq : ∀ shell, started = .ok shell →
    shell.dispatcher.registry.commands = commands target patternFilter
  /-- Each claimed name is that of one command, which it is looked up as. -/
  resolves : ∀ shell, started = .ok shell → ∀ n ∈ claimedNames,
    ∃ c ∈ commands target patternFilter, n ∈ c.names ∧
      shell.dispatcher.registry.lookup n = some (c, n != c.name) ∧
      ∀ c' ∈ commands target patternFilter, n ∈ c'.names → c' = c

section Start

variable (target : Target) (config : Config)

/-- The listing of the host that a target describes. -/
def listingOf (target : Target) : String :=
  target.builtins.getD stockListing

/-- A claimed name is protected exactly if the listing names a command under it. -/
theorem protects_iff_lists (listing : String) {n : String} (hn : n ∈ claimedNames) :
    (Registry.ofListing listing : Registry Nat).protects n = true ↔ Lists listing n := by
  have hunlisted : ∀ n ∈ claimedNames, n ∉ shadowable := by decide
  rw [← mem_builtinNames_iff]
  simp [Registry.protects, Registry.ofListing, hunlisted n hn]

/-- The first claimed name that is protected is the first that the listing names. -/
theorem find?_protects_eq_some_iff (listing n : String) :
    claimedNames.find? (Registry.ofListing listing : Registry Nat).protects = some n ↔
      ∃ before after, claimedNames = before ++ n :: after ∧
        (∀ m ∈ before, ¬Lists listing m) ∧ Lists listing n := by
  rw [List.find?_eq_some_iff_append]
  constructor
  · rintro ⟨hprotected, before, after, hnames, hbefore⟩
    have hn : n ∈ claimedNames := hnames ▸ List.mem_append_right before List.mem_cons_self
    refine ⟨before, after, hnames, fun m hm => ?_, (protects_iff_lists listing hn).1 hprotected⟩
    have hclaimed : m ∈ claimedNames := hnames ▸ List.mem_append_left _ hm
    rw [← protects_iff_lists listing hclaimed]
    simpa using hbefore m hm
  · rintro ⟨before, after, hnames, hbefore, hlists⟩
    have hn : n ∈ claimedNames := hnames ▸ List.mem_append_right before List.mem_cons_self
    refine ⟨(protects_iff_lists listing hn).2 hlists, before, after, hnames, fun m hm => ?_⟩
    have hclaimed : m ∈ claimedNames := hnames ▸ List.mem_append_left _ hm
    have hunprotected := hbefore m hm
    rw [← protects_iff_lists listing hclaimed] at hunprotected
    simpa using hunprotected

/-- Starting a shell registers its commands, which fails for the first protected name. -/
theorem start_eq : (start target config).map (fun _ => ()) =
    match claimedNames.find? (Registry.ofListing (listingOf target) : Registry Nat).protects with
    | some n => .error (.builtinOverride n)
    | none => .ok () := by
  have hdistinct : claimedNames.Nodup := by decide
  have hunbound : ∀ n ∈ claimedNames,
      (Registry.ofListing (listingOf target) : Registry Nat).contains n = false :=
    fun _ _ => rfl
  rw [← flatMap_names_commands target patternFilter] at hdistinct hunbound
  have hregister := Registry.registerAll_of_fresh hdistinct hunbound
  rw [flatMap_names_commands] at hregister
  have hregistry : (Dispatcher.forHost (target.host []) config 0).registry =
      Registry.ofListing (listingOf target) := rfl
  unfold start
  dsimp only
  rw [hregistry, hregister]
  cases claimedNames.find? (Registry.ofListing (listingOf target) : Registry Nat).protects with
  | some n => rfl
  | none => rfl

/-- A shell does not start exactly if some claimed name is protected, and the error is about the
first. -/
theorem start_eq_error_iff (e : RegistryError) : start target config = .error e ↔
    ∃ n, claimedNames.find?
        (Registry.ofListing (listingOf target) : Registry Nat).protects = some n ∧
      e = .builtinOverride n := by
  have hstart := start_eq target config
  constructor
  · intro he
    rw [he] at hstart
    split at hstart
    · rename_i n hfirst
      exact ⟨n, hfirst, Except.error.inj hstart⟩
    · cases hstart
  · rintro ⟨n, hfirst, rfl⟩
    rw [hfirst] at hstart
    cases hstarted : start target config with
    | error e =>
      rw [hstarted] at hstart
      exact congrArg Except.error (Except.error.inj hstart)
    | ok shell =>
      rw [hstarted] at hstart
      cases hstart

/-- A claimed name is that of one command of a shell that has started. -/
theorem resolves_of_start {target : Target} {config : Config} {shell : Shell}
    (h : start target config = .ok shell) {n : String} (hn : n ∈ claimedNames) :
    ∃ c ∈ commands target patternFilter, n ∈ c.names ∧
      shell.dispatcher.registry.lookup n = some (c, n != c.name) ∧
      ∀ c' ∈ commands target patternFilter, n ∈ c'.names → c' = c := by
  obtain ⟨hequipped, htarget, -⟩ := equipped_of_startWith ((start_eq_startWith target config) ▸ h)
  have hcommands := hequipped.commands_eq
  rw [htarget] at hcommands
  have hfind (c : Command Nat) :=
    hequipped.wellFormed.find?_eq_some_iff n c
  rw [hcommands] at hfind
  obtain ⟨c, hc, hnc⟩ : ∃ c ∈ commands target patternFilter, n ∈ c.names := by
    rwa [← flatMap_names_commands target patternFilter, List.mem_flatMap] at hn
  have hlookup := (hequipped.wellFormed.lookup_iff n c (n != c.name)).2
    ⟨hcommands ▸ hc, hnc, rfl⟩
  refine ⟨c, hc, hnc, hlookup, fun c' hc' hnc' => ?_⟩
  -- Looking the name up gives one command only.
  have hsame : some c' = some c := ((hfind c').2 ⟨hc', hnc'⟩).symm.trans ((hfind c).2 ⟨hc, hnc⟩)
  exact Option.some.inj hsame

/-- Whatever text a host gives for its listing, a shell for it starts unless one of the names that
its commands claim is listed. The error names the first of these in the order of registration. A
shell that has started finds the command of each name. -/
theorem shells_start_unless_a_claimed_name_is_listed :
    StartContract target (listingOf target) (start target config) where
  fails_iff := by
    constructor
    · rintro ⟨e, he⟩
      obtain ⟨n, hfirst, -⟩ := (start_eq_error_iff target config e).1 he
      have hn : n ∈ claimedNames := List.mem_of_find?_eq_some hfirst
      exact ⟨n, hn, (protects_iff_lists _ hn).1 (List.find?_some hfirst)⟩
    · rintro ⟨n, hn, hlists⟩
      have hprotected := (protects_iff_lists (listingOf target) hn).2 hlists
      obtain ⟨m, hfirst⟩ := Option.isSome_iff_exists.1
        (List.find?_isSome.2 ⟨n, hn, hprotected⟩)
      exact ⟨_, (start_eq_error_iff target config _).2 ⟨m, hfirst, rfl⟩⟩
  error_iff := by
    intro e
    rw [start_eq_error_iff]
    constructor
    · rintro ⟨n, hfirst, he⟩
      obtain ⟨before, after, hnames, hbefore, hlists⟩ := (find?_protects_eq_some_iff _ n).1 hfirst
      exact ⟨before, n, after, hnames, hbefore, hlists, he⟩
    · rintro ⟨before, n, after, hnames, hbefore, hlists, he⟩
      exact ⟨n, (find?_protects_eq_some_iff _ n).2 ⟨before, after, hnames, hbefore, hlists⟩, he⟩
  commands_eq := by
    intro shell hstarted
    obtain ⟨hequipped, htarget, -⟩ :=
      equipped_of_startWith ((start_eq_startWith target config) ▸ hstarted)
    rw [hequipped.commands_eq, htarget]
  resolves := fun _ hstarted _ hn => resolves_of_start hstarted hn

end Start

end Shell

end DebugShell
