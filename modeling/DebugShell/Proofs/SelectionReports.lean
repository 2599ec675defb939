import DebugShell.Proofs.Selection
import Mathlib.Data.List.Count

/-!
# What a selection tells

A selection comes to one of four things (`Selects`): debug symbols, the heuristic in automatic or in
forced mode, or no strategy at all. With a strategy it tells nothing, but that automatic mode falls
back on the heuristic when debug symbols were stored. Without one it tells one of three reports,
each an error and a warning (`Refuses`). The report of an unknown error is none of them: it would
take a heuristic that has a version of the C library and cannot be used, and such a heuristic was
selected.

After a selection the strategy that is stored is the one that the next selection comes to, so with
the same host and settings it comes to the same, and has no more reason to fall back
(`select_again`). In a run of selections the fallback is therefore announced by the first alone, if
it is announced at all (`selections_fall_back_once`).
-/

namespace DebugShell.HeapStrategy

variable {host : Host} {config : Config}

/-! ## One selection -/

/-- The reports of a selection that comes to no strategy. -/
inductive Refuses (host : Host) : List Message → Prop
  /-- Automatic mode can use neither strategy. -/
  | neither : Refuses host (neitherStrategy host)
  /-- The heuristic lacks a version of the C library. -/
  | withoutGlibc : Refuses host (heuristicWithoutGlibc host)
  /-- Forced mode meets debug symbols. -/
  | forced : Refuses host forcedWithDebugSymbols

/-- Each of them is an error and a warning. The warning is not that of the fallback, and neither of
the two is from the report of an unknown error. -/
theorem Refuses.tells {report : List Message} (h : Refuses host report) :
    ∃ error warning, report = [.error error, .warn warning] ∧
      ∀ m ∈ fallbackWarning :: unknownSelectionError, m ∉ report := by
  have hloaded : ∀ m ∈ fallbackWarning :: unknownSelectionError, m ∉ glibcNotLoaded := by decide
  cases h with
  | neither =>
    unfold neitherStrategy
    split
    · exact ⟨_, _, rfl, by decide⟩
    · exact ⟨_, _, rfl, hloaded⟩
  | withoutGlibc =>
    unfold heuristicWithoutGlibc
    split
    · exact ⟨_, _, rfl, by decide⟩
    · exact ⟨_, _, rfl, hloaded⟩
  | forced => exact ⟨_, _, rfl, by decide⟩

/-- What a selection can come to. -/
inductive Selects (stored : HeapStrategy) (host : Host) (config : Config) : Selection → Prop
  /-- Automatic mode uses the debug symbols that are there. -/
  | symbols (hmode : config.resolutionMode = .auto) (hsymbols : HasDebugSymbols host) :
    Selects stored host config ⟨some .debugSymbols, .debugSymbols, []⟩
  /-- Automatic mode uses the heuristic, and says so if it gives up debug symbols for it. -/
  | fallback (hmode : config.resolutionMode = .auto) (hsymbols : ¬HasDebugSymbols host)
    (hglibc : (effectiveGlibc host config).isSome = true) :
    Selects stored host config ⟨some .heuristic, .heuristic,
      if stored = .debugSymbols then [fallbackWarning] else []⟩
  /-- Forced mode uses the heuristic. -/
  | forced (hmode : config.resolutionMode = .force)
    (hglibc : (effectiveGlibc host config).isSome = true) :
    Selects stored host config ⟨some .heuristic, .heuristic, []⟩
  /-- Nothing can be used, and what is stored stays. -/
  | refused {report : List Message} (hreport : Refuses host report) :
    Selects stored host config ⟨none, stored, report⟩

section Select

variable (stored : HeapStrategy) (host : Host) (config : Config)

/-- A selection comes to one of these. -/
theorem selects_select : Selects stored host config (stored.select host config) := by
  cases hmode : config.resolutionMode with
  | auto =>
    by_cases hsymbols : HasDebugSymbols host
    · rw [select_auto_of_symbols stored hmode hsymbols]
      exact .symbols hmode hsymbols
    · cases hglibc : effectiveGlibc host config with
      | some v =>
        have hsome : (effectiveGlibc host config).isSome = true := by rw [hglibc]; rfl
        rw [select_auto_of_glibc stored hmode hsymbols hsome]
        exact .fallback hmode hsymbols hsome
      | none =>
        rw [select_auto_of_none stored hmode hsymbols hglibc]
        split
        · exact .refused .neither
        · exact .refused .withoutGlibc
  | force =>
    cases hglibc : effectiveGlibc host config with
    | some v =>
      have hsome : (effectiveGlibc host config).isSome = true := by rw [hglibc]; rfl
      rw [select_force_of_glibc stored hmode hsome]
      exact .forced hmode hsome
    | none =>
      rw [select_force_of_none stored hmode hglibc]
      split
      · exact .refused .forced
      · exact .refused .withoutGlibc

end Select

/-- What a selection `s` tells, where `stored` was the strategy that was used last. -/
structure SelectionTells (stored : HeapStrategy) (config : Config) (s : Selection) : Prop where
  /-- With a strategy, the warning that automatic mode leaves debug symbols for the heuristic if
  that is so, and nothing else. -/
  found : ∀ strategy, s.strategy = some strategy → s.output =
    if config.resolutionMode = .auto ∧ stored = .debugSymbols ∧ strategy = .heuristic then
      [fallbackWarning]
    else []
  /-- Without one, an error and then a warning. -/
  refused : s.strategy = none → ∃ error warning, s.output = [.error error, .warn warning]
  /-- In no case anything of the report of an unknown error. -/
  known : ∀ m ∈ unknownSelectionError, m ∉ s.output

/-- Whatever a selection comes to, that is what it tells. -/
theorem Selects.tells {stored : HeapStrategy} {s : Selection} (h : Selects stored host config s) :
    SelectionTells stored config s := by
  have hsilent : ∀ m ∈ unknownSelectionError, m ∉ [] := fun _ _ => List.not_mem_nil
  cases h with
  | symbols hmode hsymbols =>
    refine ⟨fun strategy hstrategy => ?_, nofun, hsilent⟩
    cases hstrategy
    exact (if_neg fun hfallback => by cases hfallback.2.2).symm
  | fallback hmode hsymbols hglibc =>
    refine ⟨fun strategy hstrategy => ?_, nofun, ?_⟩
    · cases hstrategy
      simp only [hmode, true_and, and_true]
    · dsimp only
      split
      · decide
      · exact hsilent
  | forced hmode hglibc =>
    refine ⟨fun strategy hstrategy => ?_, nofun, hsilent⟩
    refine (if_neg fun hfallback => ?_).symm
    rw [hmode] at hfallback
    cases hfallback.1
  | refused hreport =>
    obtain ⟨error, warning, htold, hnot⟩ := hreport.tells
    exact ⟨nofun, fun _ => ⟨error, warning, htold⟩,
      fun m hm => hnot m (List.mem_cons_of_mem fallbackWarning hm)⟩

/-- A selection that comes to a strategy warns of a fallback at most once, and one that comes to
none does not warn of it at all. -/
theorem Selects.count_fallbackWarning {stored : HeapStrategy} {s : Selection}
    (h : Selects stored host config s) :
    s.output.count fallbackWarning ≤ 1 ∧
      (s.strategy = none → s.output.count fallbackWarning = 0) := by
  cases h with
  | symbols hmode hsymbols => exact ⟨Nat.zero_le 1, nofun⟩
  | fallback hmode hsymbols hglibc =>
    refine ⟨?_, nofun⟩
    dsimp only
    split
    · exact List.count_le_length
    · exact Nat.zero_le 1
  | forced hmode hglibc => exact ⟨Nat.zero_le 1, nofun⟩
  | refused hreport =>
    obtain ⟨error, warning, -, hnot⟩ := hreport.tells
    have hcount := List.count_eq_zero_of_not_mem (hnot fallbackWarning List.mem_cons_self)
    dsimp only
    exact ⟨by omega, fun _ => hcount⟩

/-! ## A run of selections -/

/-- The selections of a number of calls with the same host and settings, each of which finds stored
what the one before it left. -/
def selections (host : Host) (config : Config) : HeapStrategy → Nat → List Selection
  | _, 0 => []
  | stored, n + 1 =>
    stored.select host config :: selections host config (stored.select host config).stored n

/-- What a selection comes to when it is made again: the same, and without a word if there is a
strategy. -/
def again (s : Selection) : Selection :=
  { s with output := if s.strategy.isSome then [] else s.output }

/-- What comes after it is no different. -/
theorem again_again (s : Selection) : again (again s) = again s := by
  unfold again
  cases s.strategy with
  | some strategy => rfl
  | none => rfl

/-- A selection that is made again does not warn of a fallback. -/
theorem count_fallbackWarning_again {stored : HeapStrategy} {s : Selection}
    (h : Selects stored host config s) : (again s).output.count fallbackWarning = 0 := by
  unfold again
  cases hstrategy : s.strategy with
  | some strategy => rfl
  | none => exact h.count_fallbackWarning.2 hstrategy

section Run

variable (stored : HeapStrategy) (host : Host) (config : Config)

/-- A selection that is made again, with what the first has stored, comes to the same. -/
theorem select_again :
    (stored.select host config).stored.select host config = again (stored.select host config) := by
  have hselects := selects_select stored host config
  generalize hs : stored.select host config = s at hselects
  cases hselects with
  | symbols hmode hsymbols => exact select_auto_of_symbols _ hmode hsymbols
  | fallback hmode hsymbols hglibc => exact select_auto_of_glibc _ hmode hsymbols hglibc
  | forced hmode hglibc => exact select_force_of_glibc _ hmode hglibc
  | refused hreport => exact hs

/-- So all selections of a run after the first are the first, made again. -/
theorem selections_succ (n : Nat) :
    selections host config stored (n + 1) = stored.select host config ::
      List.replicate n (again (stored.select host config)) := by
  induction n generalizing stored with
  | zero => rfl
  | succ n ih =>
    rw [selections, ih, select_again, again_again]
    rfl

/-- The fallback is announced at most once in a run. -/
theorem count_fallbackWarning_selections (n : Nat) :
    ((selections host config stored n).flatMap (·.output)).count fallbackWarning ≤ 1 := by
  cases n with
  | zero => exact Nat.zero_le 1
  | succ n =>
    have hselects := selects_select stored host config
    have hrest : fallbackWarning ∉
        (List.replicate n (again (stored.select host config))).flatMap (·.output) := by
      intro hmem
      obtain ⟨s, hs, hwarned⟩ := List.mem_flatMap.1 hmem
      rw [List.eq_of_mem_replicate hs] at hwarned
      exact List.count_eq_zero.1 (count_fallbackWarning_again hselects) hwarned
    rw [selections_succ, List.flatMap_cons, List.count_append, List.count_eq_zero.2 hrest]
    exact hselects.count_fallbackWarning.1

/-- A selection that comes to a strategy tells nothing, unless automatic mode leaves debug symbols
for the heuristic: then it tells the warning of the fallback. One that comes to none tells an error
and a warning, and neither tells of an unknown error. With the same host and settings, however often
a selection is made, it comes to the same strategy and stores the same. If there is one, only the
first selection can tell anything, and if there is none, all of them tell the same. So the fallback
is announced at most once. -/
theorem selections_fall_back_once :
    SelectionTells stored config (stored.select host config) ∧
    (∀ n, ∀ s ∈ selections host config stored n,
      s.strategy = (stored.select host config).strategy ∧
        s.stored = (stored.select host config).stored) ∧
    (∀ n, (selections host config stored (n + 1)).map (·.output) =
      (stored.select host config).output :: List.replicate n
        (if (stored.select host config).strategy.isSome then []
          else (stored.select host config).output)) ∧
    ∀ n, ((selections host config stored n).flatMap (·.output)).count fallbackWarning ≤ 1 := by
  refine ⟨(selects_select stored host config).tells, fun n s hs => ?_, fun n => ?_,
    count_fallbackWarning_selections stored host config⟩
  · cases n with
    | zero => cases hs
    | succ n =>
      rw [selections_succ, List.mem_cons] at hs
      rcases hs with rfl | hs
      · exact ⟨rfl, rfl⟩
      · rw [List.eq_of_mem_replicate hs]
        exact ⟨rfl, rfl⟩
  · rw [selections_succ, List.map_cons, List.map_replicate]
    rfl

end Run

end DebugShell.HeapStrategy
