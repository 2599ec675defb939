import DebugShell.Heap.Selection

/-!
# What a selection comes to

`HeapStrategy.select` revises the stored strategy, tries it, and falls back on the other one. Five
situations can be told apart by the mode and by what the host offers, and in each of them the whole
selection is known (`select_auto_of_symbols` to `select_force_of_none`). The stored strategy occurs
in them only as what stays stored, and in what the operator is told. So the strategy that is
selected depends on the host and the settings alone: it is the one they call for
(`select_strategy`).
-/

namespace DebugShell.HeapStrategy

/-- Both symbols that have to be there for debug symbols to be used are found by the host. -/
def HasDebugSymbols (host : Host) : Prop :=
  (host.symbolAddress "main_arena").isSome = true ∧ (host.symbolAddress "mp_").isSome = true

instance (host : Host) : Decidable (HasDebugSymbols host) :=
  inferInstanceAs (Decidable ((host.symbolAddress "main_arena").isSome = true ∧
    (host.symbolAddress "mp_").isSome = true))

/-- The strategy that a host and settings call for. In automatic mode debug symbols go before the
heuristic, in forced mode they do not count, and the heuristic needs a version of the C library. -/
def calledFor (host : Host) (config : Config) : Option HeapStrategy :=
  match config.resolutionMode with
  | .auto =>
    if HasDebugSymbols host then some .debugSymbols
    else (effectiveGlibc host config).map fun _ => .heuristic
  | .force => (effectiveGlibc host config).map fun _ => .heuristic

/-- Debug symbols can be used exactly if the host finds both symbols that have to be there. -/
theorem canBeResolved_debugSymbols (host : Host) (config : Config) :
    debugSymbols.canBeResolved host config = decide (HasDebugSymbols host) := by
  rw [Bool.eq_iff_iff, decide_eq_true_iff]
  simp [canBeResolved, requiredSymbols, HasDebugSymbols]

/-- The heuristic can be used exactly if there is a version of the C library. -/
theorem canBeResolved_heuristic (host : Host) (config : Config) :
    heuristic.canBeResolved host config = (effectiveGlibc host config).isSome := rfl

section Table

variable (stored : HeapStrategy) {host : Host} {config : Config}

/-- Automatic mode with debug symbols: they are used, and nothing is said. -/
theorem select_auto_of_symbols (hmode : config.resolutionMode = .auto)
    (hsymbols : HasDebugSymbols host) :
    stored.select host config = ⟨some .debugSymbols, .debugSymbols, []⟩ := by
  cases stored <;>
    simp [select, revised, allowedIn, hmode, canBeResolved_debugSymbols, hsymbols]

/-- Automatic mode without debug symbols, but with a version: the heuristic is used. It is announced
when it takes the place of debug symbols. -/
theorem select_auto_of_glibc (hmode : config.resolutionMode = .auto)
    (hsymbols : ¬HasDebugSymbols host) (hglibc : (effectiveGlibc host config).isSome = true) :
    stored.select host config = ⟨some .heuristic, .heuristic,
      if stored = .debugSymbols then [fallbackWarning] else []⟩ := by
  cases stored <;>
    simp [select, revised, allowedIn, hmode, canBeResolved_debugSymbols, canBeResolved_heuristic,
      hsymbols, hglibc]

/-- Automatic mode with neither: nothing is used, and the stored strategy stays. -/
theorem select_auto_of_none (hmode : config.resolutionMode = .auto)
    (hsymbols : ¬HasDebugSymbols host) (hglibc : effectiveGlibc host config = none) :
    stored.select host config = ⟨none, stored,
      if stored = .debugSymbols then neitherStrategy host else heuristicWithoutGlibc host⟩ := by
  cases stored <;>
    simp [select, revised, allowedIn, hmode, canBeResolved_debugSymbols, canBeResolved_heuristic,
      hsymbols, hglibc]

/-- Forced mode with a version: the heuristic is used, and nothing is said. -/
theorem select_force_of_glibc (hmode : config.resolutionMode = .force)
    (hglibc : (effectiveGlibc host config).isSome = true) :
    stored.select host config = ⟨some .heuristic, .heuristic, []⟩ := by
  cases stored <;>
    simp [select, revised, allowedIn, hmode, canBeResolved_heuristic, hglibc]

/-- Forced mode without a version: nothing is used, and the stored strategy stays. -/
theorem select_force_of_none (hmode : config.resolutionMode = .force)
    (hglibc : effectiveGlibc host config = none) :
    stored.select host config = ⟨none, stored,
      if stored = .debugSymbols then forcedWithDebugSymbols else heuristicWithoutGlibc host⟩ := by
  cases stored <;>
    simp [select, revised, allowedIn, hmode, canBeResolved_heuristic, hglibc]

end Table

/-- The strategy that is selected is the one that the host and the settings call for, and it is
stored. When there is none, the stored strategy stays. -/
theorem select_strategy (stored : HeapStrategy) (host : Host) (config : Config) :
    (stored.select host config).strategy = calledFor host config ∧
      (stored.select host config).stored = (calledFor host config).getD stored := by
  unfold calledFor
  cases hmode : config.resolutionMode with
  | auto =>
    by_cases hsymbols : HasDebugSymbols host
    · simp [select_auto_of_symbols stored hmode hsymbols, hsymbols]
    · cases hglibc : effectiveGlibc host config with
      | some v =>
        simp [select_auto_of_glibc stored hmode hsymbols (by rw [hglibc]; rfl), hsymbols]
      | none => simp [select_auto_of_none stored hmode hsymbols hglibc, hsymbols]
  | force =>
    cases hglibc : effectiveGlibc host config with
    | some v => simp [select_force_of_glibc stored hmode (by rw [hglibc]; rfl)]
    | none => simp [select_force_of_none stored hmode hglibc]

/-- What is stored after a selection is the strategy that was selected, or what was stored
before. -/
theorem select_stored (stored : HeapStrategy) (host : Host) (config : Config) :
    (stored.select host config).stored = (stored.select host config).strategy.getD stored := by
  obtain ⟨hstrategy, hstored⟩ := select_strategy stored host config
  rw [hstored, hstrategy]

/-- In forced mode debug symbols are never called for. -/
theorem calledFor_ne_debugSymbols {config : Config} (hmode : config.resolutionMode = .force)
    (host : Host) : calledFor host config ≠ some .debugSymbols := by
  unfold calledFor
  rw [hmode]
  simp

/-- Debug symbols are called for only where the host finds both symbols that have to be there. -/
theorem hasDebugSymbols_of_calledFor {host : Host} {config : Config}
    (h : calledFor host config = some .debugSymbols) : HasDebugSymbols host := by
  by_cases hsymbols : HasDebugSymbols host
  · exact hsymbols
  · have hheuristic : calledFor host config =
        (effectiveGlibc host config).map fun _ => .heuristic := by
      unfold calledFor
      split
      · rw [if_neg hsymbols]
      · rfl
    rw [hheuristic, Option.map_eq_some_iff] at h
    obtain ⟨v, -, h⟩ := h
    cases h

end DebugShell.HeapStrategy
