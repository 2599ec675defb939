import DebugShell.Options.Matching
import Mathlib.Data.List.TakeWhile

/-!
# What has to be given has a word

A line that is accepted gives a word to each positional argument that has to be given
(`exists_value_of_required`). That the argument was given at all is checked when all words are read.
That it was given with a word is not: it holds because an argument that takes values is taken note
of with one value at least, or else the line is refused.

The reader keeps the matches found so far, and the argument that began last with the values read for
it. `Progress.Sound` is what it keeps true of them. Taking note of an argument keeps it
(`Progress.Sound.accept`), so each way of reading a word does, and so does reading any number of
words (`Progress.Sound.readWords`).
-/

namespace DebugShell.Options

/-- A match is that of a declared argument, with values if that takes values. -/
def Backed (s : Spec) (x : Match) : Prop :=
  ∃ arg ∈ s.allArgs, arg.id = x.id ∧ (arg.takesValue = true → x.values ≠ [])

namespace Progress

/-- What is kept true while the words of a line are read. -/
structure Sound (s : Spec) (p : Progress) : Prop where
  /-- Every argument found so far is declared, and has values if it takes values. -/
  backed : ∀ x ∈ p.found, Backed s x
  /-- The argument that began last is declared. -/
  declared : ∀ arg values, p.pending = some (arg, values) → arg ∈ s.allArgs

variable {s : Spec} {p p' : Progress} {arg : Arg} {values : List String}

/-- Before any word is read there is nothing to keep true. -/
theorem sound_start : Sound s {} where
  backed := List.forall_mem_nil _
  declared arg values h := by cases h

/-- Taking note of a declared argument keeps the matches backed. -/
theorem Sound.accept (h : p.Sound s) (harg : arg ∈ s.allArgs) :
    (p.accept arg values).1.Sound s := by
  have hwithout : ∀ x ∈ p.found.without arg.id, Backed s x :=
    fun x hx => h.backed x (List.mem_filter.1 hx).1
  have hpush {found : Matches} {x : Match} (hfound : ∀ x ∈ found, Backed s x)
      (hid : arg.id = x.id) (hvalues : arg.takesValue = true → x.values ≠ []) :
      ∀ y ∈ found ++ [x], Backed s y :=
    List.forall_mem_append.2 ⟨hfound, List.forall_mem_singleton.2 ⟨arg, harg, hid, hvalues⟩⟩
  unfold Progress.accept
  split
  · -- An argument that sets a value, once.
    split
    · exact h
    · rename_i hvalues
      split
      · exact ⟨hwithout, h.declared⟩
      · exact ⟨hpush h.backed rfl fun _ => hvalues, h.declared⟩
  · -- An argument that adds values to those it has.
    split
    · exact h
    · rename_i hvalues
      split
      · refine ⟨fun y hy => ?_, h.declared⟩
        obtain ⟨x, hx, rfl⟩ := List.mem_map.1 hy
        obtain ⟨arg', harg', hid, hbacked⟩ := h.backed x hx
        split
        · refine ⟨arg', harg', hid, fun _ hnil => hvalues ?_⟩
          exact (List.append_eq_nil_iff.1 hnil).2
        · exact ⟨arg', harg', hid, hbacked⟩
      · exact ⟨hpush h.backed rfl fun _ => hvalues, h.declared⟩
  · -- A flag.
    rename_i haction
    have hplain : arg.takesValue = false := by rw [Arg.takesValue, haction]; rfl
    split
    · exact ⟨hwithout, h.declared⟩
    · exact ⟨hpush h.backed rfl fun htakes => absurd htakes (by simp [hplain]), h.declared⟩
  · -- An argument that is counted.
    rename_i haction
    have hplain : arg.takesValue = false := by rw [Arg.takesValue, haction]; rfl
    exact ⟨hpush hwithout rfl fun htakes => absurd htakes (by simp [hplain]), h.declared⟩
  · exact h
  · exact h

/-- So does taking note of the one that began last. -/
theorem Sound.settled (h : p.Sound s) (hsettled : p.settled = .ok p') : p'.Sound s := by
  have hsettle : p.settle.1.Sound s := by
    unfold settle
    split
    · rename_i arg values hpending
      have hcleared : Sound s { p with pending := none } :=
        ⟨h.backed, fun _ _ hnone => by cases hnone⟩
      exact hcleared.accept (h.declared arg values hpending)
    · exact h
  unfold Progress.settled at hsettled
  split at hsettled
  · rename_i q hq
    obtain rfl := Except.ok.inj hsettled
    rwa [hq] at hsettle
  · cases hsettled

/-- So does taking note of one that is complete. -/
theorem Sound.give (h : p.Sound s) (harg : arg ∈ s.allArgs)
    (hgive : p.give arg values = .ok p') : p'.Sound s := by
  unfold Progress.give at hgive
  cases hsettled : p.settled with
  | error e =>
    rw [hsettled] at hgive
    cases hgive
  | ok q =>
    have hq : (q.accept arg values).1.Sound s := (h.settled hsettled).accept harg
    rw [hsettled] at hgive
    dsimp only [bind, Except.bind] at hgive
    split at hgive
    · rename_i r hr
      obtain rfl := Except.ok.inj hgive
      rw [hr] at hq
      exact ⟨hq.backed, hq.declared⟩
    · cases hgive

/-- A declared option can begin. -/
theorem Sound.await (h : p.Sound s) (harg : arg ∈ s.allArgs) (hawait : p.await arg = .ok p') :
    p'.Sound s := by
  unfold Progress.await at hawait
  cases hsettled : p.settled with
  | error e =>
    rw [hsettled] at hawait
    cases hawait
  | ok q =>
    rw [hsettled] at hawait
    obtain rfl := Except.ok.inj hawait
    refine ⟨(h.settled hsettled).backed, fun _ _ hpending => ?_⟩
    cases hpending
    exact harg

/-! ## Reading words -/

/-- A positional argument is declared. -/
theorem mem_allArgs_of_mem_positionals (harg : arg ∈ s.positionals) : arg ∈ s.allArgs :=
  List.mem_append_left _ (List.mem_append_left _ (List.mem_filter.1 harg).1)

/-- An argument that is found by a name is declared. -/
theorem mem_allArgs_of_find? {q : Arg → Bool} (h : s.named.find? q = some arg) :
    arg ∈ s.allArgs :=
  (List.mem_filter.1 (List.mem_of_find?_eq_some h)).1

/-- A word can be read as a value. -/
theorem Sound.readValue (h : p.Sound s) {word : String}
    (hread : readValue s p word = .ok p') : p'.Sound s := by
  unfold Options.readValue at hread
  split at hread
  · rename_i arg values hawaited hpending
    obtain rfl := Except.ok.inj hread
    refine ⟨h.backed, fun _ _ heq => ?_⟩
    cases heq
    exact h.declared arg values hpending
  · split at hread
    · rename_i arg hplace
      cases hsettled : p.settled with
      | error e =>
        rw [hsettled] at hread
        cases hread
      | ok q =>
        rw [hsettled] at hread
        obtain rfl := Except.ok.inj hread
        refine ⟨(h.settled hsettled).backed, fun _ _ heq => ?_⟩
        cases heq
        exact mem_allArgs_of_mem_positionals (List.mem_of_getElem? hplace)
    · cases hread

/-- A word can be read as a long name. -/
theorem Sound.readLong (h : p.Sound s) {name : String} {value : Option String}
    (hread : readLong s p name value = .ok p') : p'.Sound s := by
  unfold Options.readLong at hread
  split at hread
  · rename_i arg hname
    have harg := mem_allArgs_of_find? hname
    split at hread
    · split at hread
      · exact h.give harg hread
      · exact h.await harg hread
    · split at hread
      · cases hread
      · exact h.give harg hread
  · cases hread

/-- A word can be read as short names. -/
theorem Sound.readShorts (h : p.Sound s) {cs : List Char}
    (hread : readShorts s p cs = .ok p') : p'.Sound s := by
  induction cs generalizing p with
  | nil =>
    obtain rfl := Except.ok.inj hread
    exact ⟨h.backed, h.declared⟩
  | cons c rest ih =>
    unfold Options.readShorts at hread
    split at hread
    · rename_i arg hname
      have harg := mem_allArgs_of_find? hname
      split at hread
      · split at hread
        · exact h.await harg hread
        · exact h.give harg hread
        · exact h.give harg hread
      · split at hread
        · rename_i q hgive
          exact ih (h.give harg hgive) hread
        · cases hread
    · cases hread

/-- Every word is read in one of these ways, or ends the options. -/
theorem Sound.readWord (h : p.Sound s) {word : String}
    (hread : readWord s p word = .ok p') : p'.Sound s := by
  unfold Options.readWord at hread
  split at hread
  · exact h.readValue hread
  · split at hread
    · obtain rfl := Except.ok.inj hread
      exact ⟨h.backed, h.declared⟩
    · dsimp only at hread
      split at hread
      · exact h.readLong hread
      · exact h.readLong hread
    · dsimp only at hread
      split at hread
      · exact h.readValue hread
      · exact h.readShorts hread
    · exact h.readValue hread

/-- Any number of words can be read. -/
theorem Sound.readWords (h : p.Sound s) {words : List String}
    (hread : readWords s p words = .ok p') : p'.Sound s := by
  induction words generalizing p with
  | nil =>
    obtain rfl := Except.ok.inj hread
    exact h
  | cons word rest ih =>
    unfold Options.readWords at hread
    split at hread
    · rename_i q hword
      exact ih (h.readWord hword) hread
    · cases hread

end Progress

/-! ## Words that are values -/

/-- A word that does not begin with a dash is read as a value. -/
theorem readWord_of_no_dash (s : Spec) (p : Progress) {word : String}
    (h : word.toList.head? ≠ some '-') : readWord s p word = readValue s p word := by
  unfold readWord
  split
  · rfl
  · split
    · rename_i hword
      rw [hword] at h
      exact absurd rfl h
    · rename_i hword
      rw [hword] at h
      exact absurd rfl h
    · rename_i hword
      rw [hword] at h
      exact absurd rfl h
    · rfl

/-- So are any number of them. -/
theorem readWords_of_no_dash (s : Spec) (p : Progress) {words : List String}
    (h : ∀ word ∈ words, word.toList.head? ≠ some '-') :
    readWords s p words = words.foldlM (readValue s) p := by
  induction words generalizing p with
  | nil => rfl
  | cons word rest ih =>
    obtain ⟨hword, hrest⟩ := List.forall_mem_cons.1 h
    rw [readWords, readWord_of_no_dash s p hword, List.foldlM_cons]
    cases readValue s p word with
    | ok q => exact ih q hrest
    | error e => rfl

/-! ## An accepted line -/

variable {s : Spec} {words : List String} {found : Matches}

/-- The matches of an accepted line are backed, and nothing is missing. -/
theorem backed_of_matchWords (h : s.matchWords words = .ok found) :
    (∀ x ∈ found, Backed s x) ∧ missingArgs s found = [] := by
  unfold Spec.matchWords at h
  cases hread : readWords s {} words with
  | error e =>
    rw [hread] at h
    cases h
  | ok p =>
    rw [hread] at h
    dsimp only [bind, Except.bind] at h
    cases hsettled : p.settled with
    | error e =>
      rw [hsettled] at h
      cases h
    | ok q =>
      have hsound : q.Sound s := (Progress.sound_start.readWords hread).settled hsettled
      rw [hsettled] at h
      dsimp only at h
      split at h
      · rename_i hnone
        obtain rfl := Except.ok.inj h
        exact ⟨hsound.backed, hnone⟩
      · cases h

/-- If nothing is missing, each positional argument that has to be given was given. -/
theorem has_of_missingArgs_eq_nil (h : missingArgs s found = []) {arg : Arg}
    (harg : arg ∈ s.positionals) (hrequired : arg.required = true) :
    found.has arg.id = true := by
  by_contra habsent
  have hmem : arg ∈ (s.positionals.filter fun a => !found.has a.id).reverse := by
    rw [List.mem_reverse, List.mem_filter]
    exact ⟨harg, by simpa using habsent⟩
  unfold missingArgs at h
  have hnone := List.dropWhile_eq_nil_iff.1 (List.reverse_eq_nil_iff.1 h) arg hmem
  rw [hrequired] at hnone
  cases hnone

/-- An accepted line gives a word to each positional argument that has to be given, if no argument
without a value goes by its id. -/
theorem exists_value_of_required (h : s.matchWords words = .ok found) {arg : Arg}
    (harg : arg ∈ s.positionals) (hrequired : arg.required = true)
    (hids : ∀ other ∈ s.allArgs, other.id = arg.id → other.takesValue = true) :
    ∃ word, found.value? arg.id = some word := by
  obtain ⟨hbacked, hnone⟩ := backed_of_matchWords h
  have hhas : found.has arg.id = true := has_of_missingArgs_eq_nil hnone harg hrequired
  obtain ⟨x, hx⟩ := Option.isSome_iff_exists.1 hhas
  have hid : x.id = arg.id := by simpa using List.find?_some hx
  obtain ⟨other, hother, hid', hvalues⟩ := hbacked x (List.mem_of_find?_eq_some hx)
  have hne : x.values ≠ [] := hvalues (hids other hother (hid'.trans hid))
  obtain ⟨word, rest, hword⟩ := List.exists_cons_of_ne_nil hne
  refine ⟨word, ?_⟩
  rw [Matches.value?, hx, Option.bind_some, hword]
  rfl

end DebugShell.Options
