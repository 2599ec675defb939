import DebugShell.Proofs.HeapStart
import DebugShell.Proofs.Selection
import DebugShell.Proofs.SettingValues

/-!
# What an override reaches

The settings are read in three places when heap symbols are located. Whether a strategy can be used
depends on the version of the C library alone, and which one is selected on the version and the mode
(`HeapStrategy.canBeResolved_congr`, `HeapStrategy.select_congr`). The address of a symbol depends
on the version and on the override of that symbol (`HeapStrategy.resolve_congr`). Debug symbols do
not read the settings at all.

So the override of one symbol is seen by the heuristic when it looks that symbol up, and nowhere
else. Giving an address by the name of its setting changes just that override
(`Config.put_address_sameBut`), and giving the address zero takes it away, whatever it was.
-/

namespace DebugShell

/-! ## What is read of the settings -/

/-- The version that is assumed depends on the one that was given. -/
theorem effectiveGlibc_congr {c c' : Config} (hglibc : c.glibc = c'.glibc) (host : Host) :
    effectiveGlibc host c = effectiveGlibc host c' := by
  rw [effectiveGlibc, effectiveGlibc, hglibc]

namespace HeapStrategy

variable {c c' : Config} (host : Host)

/-- Whether a strategy can be used depends on the version that was given. -/
theorem canBeResolved_congr (hglibc : c.glibc = c'.glibc) (strategy : HeapStrategy) :
    strategy.canBeResolved host c = strategy.canBeResolved host c' := by
  cases strategy with
  | debugSymbols => rfl
  | heuristic => rw [canBeResolved_heuristic, canBeResolved_heuristic, effectiveGlibc_congr hglibc]

/-- A selection depends on the mode and on the version that was given. -/
theorem select_congr (hmode : c.resolutionMode = c'.resolutionMode) (hglibc : c.glibc = c'.glibc)
    (stored : HeapStrategy) : stored.select host c = stored.select host c' := by
  -- The fields that may differ are not read, so the two sides are the same term.
  cases c
  cases c'
  cases hmode
  cases hglibc
  rfl

/-- The address of a symbol depends on the version that was given and on the override of that
symbol. -/
theorem resolve_congr (hglibc : c.glibc = c'.glibc) {name : String}
    (hoverride : c.heapAddresses.get? name = c'.heapAddresses.get? name) (strategy : HeapStrategy) :
    strategy.resolve host c name = strategy.resolve host c' name := by
  cases strategy with
  | debugSymbols => rfl
  | heuristic =>
    simp only [resolve, find?, hoverride, effectiveGlibc_congr hglibc host]

/-- The heuristic takes the override of a symbol, if there is one. -/
theorem resolve_of_override {name : String} {a : UInt64}
    (hoverride : c.heapAddresses.get? name = some a) :
    heuristic.resolve host c name = .ok a := by
  simp only [resolve, find?, hoverride, Option.some_or]

end HeapStrategy

/-! ## Settings that differ in one override -/

/-- Settings that differ in nothing but the override of one symbol. -/
structure Config.SameBut (symbol : HeapSymbol) (c c' : Config) : Prop where
  /-- The mode is the same. -/
  resolutionMode : c.resolutionMode = c'.resolutionMode
  /-- The version that was given is the same. -/
  glibc : c.glibc = c'.glibc
  /-- Failures are handed on with full detail by both or by neither. -/
  exceptionVerbose : c.exceptionVerbose = c'.exceptionVerbose
  /-- Failures are handed on for debugging by both or by neither. -/
  exceptionDebugger : c.exceptionDebugger = c'.exceptionDebugger
  /-- The overrides are the same under every other name. -/
  others : ∀ name ≠ symbol.symbolName, c.heapAddresses.get? name = c'.heapAddresses.get? name

namespace Config.SameBut

variable {symbol : HeapSymbol} {c c' c'' : Config}

/-- It does not matter which settings are named first. -/
theorem symm (h : SameBut symbol c c') : SameBut symbol c' c :=
  ⟨h.resolutionMode.symm, h.glibc.symm, h.exceptionVerbose.symm, h.exceptionDebugger.symm,
    fun name hname => (h.others name hname).symm⟩

/-- Settings that differ from the same ones in that override differ from each other in no more. -/
theorem trans (h : SameBut symbol c c') (h' : SameBut symbol c' c'') : SameBut symbol c c'' :=
  ⟨h.resolutionMode.trans h'.resolutionMode, h.glibc.trans h'.glibc,
    h.exceptionVerbose.trans h'.exceptionVerbose, h.exceptionDebugger.trans h'.exceptionDebugger,
    fun name hname => (h.others name hname).trans (h'.others name hname)⟩

/-- They differ in nothing if they agree on the override too. -/
theorem eq (h : SameBut symbol c c')
    (hoverride : c.heapAddresses.get? symbol.symbolName = c'.heapAddresses.get? symbol.symbolName) :
    c = c' := by
  refine ext_get (fun s => ?_) fun name hname => h.others name (hname symbol)
  cases s with
  | resolutionMode => exact h.resolutionMode
  | glibc => exact h.glibc
  | exceptionVerbose => exact h.exceptionVerbose
  | exceptionDebugger => exact h.exceptionDebugger
  | address other =>
    by_cases hsymbol : other = symbol
    · rw [hsymbol]
      exact hoverride
    · exact h.others other.symbolName (mt HeapSymbol.symbolName_inj.1 hsymbol)

end Config.SameBut

/-- Giving a heap symbol an address, or taking it away, changes nothing but that override. -/
theorem Config.put_address_sameBut (c : Config) (symbol : HeapSymbol) (given : Option UInt64) :
    SameBut symbol c (c.put (.address symbol) given) := by
  have hothers : ∀ name ≠ symbol.symbolName, c.heapAddresses.get? name =
      (c.put (.address symbol) given).heapAddresses.get? name := fun name hname =>
    ((c.get?_put_address symbol given name).trans (if_neg hname)).symm
  cases given with
  | some a => exact ⟨rfl, rfl, rfl, rfl, hothers⟩
  | none => exact ⟨rfl, rfl, rfl, rfl, hothers⟩

/-- What a text gives a heap symbol is put by the name of its setting. -/
theorem Config.set_address (c : Config) (symbol : HeapSymbol) {text : String}
    {given : Option UInt64} (h : givenAddress text = .ok given) :
    c.set symbol.settingName text = .ok (c.put (.address symbol) given) :=
  (c.set_eq_ok_iff symbol.settingName text _).2
    ⟨.address symbol, given, rfl, (givenAddress_eq_ok_iff text given).1 h, rfl⟩

/-! ## Overrides -/

/-- What settings that differ in the override of one symbol agree on, for one host: all but where
the heuristic finds that symbol. -/
structure AgreeBut (host : Host) (symbol : HeapSymbol) (c c' : Config) : Prop where
  /-- The heuristic finds every other symbol where it was found before, or fails as before. -/
  others : ∀ name ≠ symbol.symbolName,
    HeapStrategy.heuristic.resolve host c' name = HeapStrategy.heuristic.resolve host c name
  /-- Debug symbols find every symbol where it was found before, or fail as before. -/
  debugSymbols : ∀ name,
    HeapStrategy.debugSymbols.resolve host c' name = HeapStrategy.debugSymbols.resolve host c name
  /-- The strategies that can be used are the same. -/
  usable : ∀ strategy : HeapStrategy,
    strategy.canBeResolved host c' = strategy.canBeResolved host c
  /-- The version that is assumed is the same. -/
  version : effectiveGlibc host c' = effectiveGlibc host c
  /-- Every selection is the same, with what is stored and what is told. -/
  selection : ∀ stored : HeapStrategy, stored.select host c' = stored.select host c

/-- Settings that differ in one override agree on all but that symbol. -/
theorem Config.SameBut.agreeBut {symbol : HeapSymbol} {c c' : Config} (h : SameBut symbol c c')
    (host : Host) : AgreeBut host symbol c c' where
  others name hname := HeapStrategy.resolve_congr host h.symm.glibc (h.symm.others name hname) _
  debugSymbols _ := rfl
  usable := HeapStrategy.canBeResolved_congr host h.symm.glibc
  version := effectiveGlibc_congr h.symm.glibc host
  selection := HeapStrategy.select_congr host h.symm.resolutionMode h.symm.glibc

/-- An address that is not zero is taken under the setting of a heap symbol, and then the heuristic
finds that symbol there. All else stays as it was, for every host: the other symbols, what debug
symbols find, which strategies can be used, the version and every selection. The address zero is
taken afterwards, whatever override there is by then, and every symbol is found as in the settings
that are the same but have no override of that symbol. -/
theorem Config.overrides_reach_one_symbol (c : Config) (symbol : HeapSymbol) {text : String}
    {a : UInt64} (htext : AddressSpells Numeral.Denotes text a) (ha : a ≠ 0) :
    ∃ c', c.set symbol.settingName text = .ok c' ∧ SameBut symbol c c' ∧
      (∀ host, HeapStrategy.heuristic.resolve host c' symbol.symbolName = .ok a ∧
        AgreeBut host symbol c c') ∧
      ∀ zero, AddressSpells Numeral.Denotes zero 0 → ∀ before, SameBut symbol c before →
        ∃ after, before.set symbol.settingName zero = .ok after ∧ SameBut symbol c after ∧
          after.heapAddresses.get? symbol.symbolName = none ∧
          ∀ without, SameBut symbol c without →
            without.heapAddresses.get? symbol.symbolName = none →
            ∀ host (strategy : HeapStrategy) name,
              strategy.resolve host after name = strategy.resolve host without name := by
  refine ⟨c.put (.address symbol) (some a), ?_, c.put_address_sameBut symbol (some a),
    fun host => ⟨?_, (c.put_address_sameBut symbol (some a)).agreeBut host⟩, ?_⟩
  · exact c.set_address symbol ((givenAddress_eq_ok_iff text _).2 ⟨a, htext, (if_neg ha).symm⟩)
  · exact HeapStrategy.resolve_of_override host (c.get_put_self (.address symbol) (some a))
  · intro zero hzero before hbefore
    have hafter : SameBut symbol c (before.put (.address symbol) none) :=
      hbefore.trans (before.put_address_sameBut symbol none)
    have hnone : (before.put (.address symbol) none).heapAddresses.get? symbol.symbolName = none :=
      before.get_put_self (.address symbol) none
    refine ⟨before.put (.address symbol) none, ?_, hafter, hnone, ?_⟩
    · exact before.set_address symbol ((givenAddress_eq_ok_iff zero _).2 ⟨0, hzero, rfl⟩)
    · -- There is one way to be the same and have no override.
      intro without hwithout hnone' host strategy name
      rw [(hafter.symm.trans hwithout).eq (hnone.trans hnone'.symm)]

/-- Where an address of the thread cache was stored, another one takes its place, and the address
zero makes the lookup fail as it does without one. The main arena is found where it was. -/
theorem Config.overrides_reach_the_thread_cache :
    let c : Config := { heapAddresses := .ofList [("main_arena", 4096), ("tcache", 0)] }
    let host := Dispatcher.versionedHost
    AddressSpells Numeral.Denotes " 0X20" 32 ∧ AddressSpells Numeral.Denotes "00" 0 ∧
      ∃ c', c.set "tcache" " 0X20" = .ok c' ∧
        HeapStrategy.heuristic.resolve host c' "tcache" = .ok 32 ∧
        HeapStrategy.heuristic.resolve host c' "main_arena" = .ok 4096 ∧
        ∃ after, c'.set "tcache" "00" = .ok after ∧
          HeapStrategy.heuristic.resolve host after "tcache" =
            .error (.symbolUnresolvable "tcache") := by
  intro c host
  have htext : AddressSpells Numeral.Denotes " 0X20" 32 :=
    (addressOfString_eq_ok_iff _ _).1 (by cbv)
  have hzero : AddressSpells Numeral.Denotes "00" 0 := (addressOfString_eq_ok_iff _ _).1 (by cbv)
  obtain ⟨c', hset, hsame, heffect, hback⟩ :=
    c.overrides_reach_one_symbol .tcache htext (by decide)
  obtain ⟨hfound, hagree⟩ := heffect host
  obtain ⟨after, hafter, -, -, hwithout⟩ := hback "00" hzero c' hsame
  refine ⟨htext, hzero, c', hset, hfound, (hagree.others "main_arena" (by decide)).trans rfl,
    after, hafter, ?_⟩
  have hsame' : SameBut .tcache c { heapAddresses := .ofList [("main_arena", 4096)] } := by
    refine ⟨rfl, rfl, rfl, rfl, fun name hname => ?_⟩
    exact (NameMap.get?_insert _ "tcache" 0 name).trans (if_neg hname)
  exact (hwithout _ hsame' rfl host .heuristic "tcache").trans rfl

end DebugShell
