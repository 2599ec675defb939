import DebugShell.Config.Stored
import DebugShell.Heap.Strategy
import DebugShell.Proofs.SettingTexts

/-!
# Which overrides show

An operator sees the settings as they are described: nine texts, five of them for the addresses that
override heap symbols. The texts tell the values apart (`Setting.write_injective`), so the address
of a heap symbol never hides: it shows as `0` exactly if there is none.

What can hide is an address under another name. No request gives one, but settings that were stored
are taken as they are, with any name and with addresses that are zero
(`stored_overrides_can_be_zero_or_hidden`). Requests only ever mend that, symbol by symbol
(`get_afterRequests_cases`). `overrides_show_where_mended` says when they have mended it all, and
that settings tell the operator everything from then on.
-/

namespace DebugShell

/-- Different versions are shown by different texts, and so is the absence of one. -/
theorem versionText_injective : Function.Injective versionText := by
  intro v w h
  cases v with
  | none =>
    cases w with
    | none => rfl
    | some w => exact absurd h.symm (versionText_ne_auto w)
  | some v =>
    cases w with
    | none => exact absurd h (versionText_ne_auto v)
    | some w => rw [injective_of_read Version.ofString_toString h]

/-- Different values of a setting are shown by different texts. -/
theorem Setting.write_injective (s : Setting) : Function.Injective s.write := by
  cases s with
  | resolutionMode => exact injective_of_read ResolutionMode.ofString_toString
  | glibc => exact versionText_injective
  | exceptionVerbose => exact injective_of_read switchOfString_switchText
  | exceptionDebugger => exact injective_of_read switchOfString_switchText
  | address symbol => exact addressText_injective

namespace Config

/-- A text shows for a setting exactly if it is the one for the value. -/
theorem mem_describe_iff (c : Config) (s : Setting) (text : String) :
    (s.name, text) ∈ c.describe ↔ s.write (c.get s) = text := by
  rw [describe_eq, List.mem_map]
  constructor
  · rintro ⟨s', -, heq⟩
    obtain rfl := Setting.name_inj.1 (congrArg Prod.fst heq)
    exact congrArg Prod.snd heq
  · rintro rfl
    exact ⟨s, s.mem_all, rfl⟩

/-- Settings that show alike have the same values. -/
theorem get_of_describe {c c' : Config} (h : c.describe = c'.describe) (s : Setting) :
    c.get s = c'.get s := by
  have hmem : (s.name, s.write (c.get s)) ∈ c'.describe := by
    rw [← h, mem_describe_iff]
  exact (s.write_injective ((mem_describe_iff c' s _).1 hmem)).symm

/-- The address of a heap symbol shows as `0` exactly if there is none. -/
theorem shows_zero_iff (c : Config) (symbol : HeapSymbol) :
    (symbol.settingName, "0") ∈ c.describe ↔ c.heapAddresses.get? symbol.symbolName = none := by
  have hshown := c.mem_describe_iff (.address symbol) "0"
  have htext : (Setting.address symbol).write (c.get (.address symbol)) = "0" ↔
      c.heapAddresses.get? symbol.symbolName = none :=
    addressText_injective.eq_iff (b := none)
  exact hshown.trans htext

/-- Proper settings that show alike are equal. -/
theorem eq_of_describe {c c' : Config} (hc : c.IsProper) (hc' : c'.IsProper)
    (h : c.describe = c'.describe) : c = c' := by
  refine ext_get (get_of_describe h) fun name hname => ?_
  rw [hc.get?_eq_none hname, hc'.get?_eq_none hname]

/-! ## What requests mend -/

/-- A setting is asked for by a request that is accepted. -/
def Mended (requests : List SettingRequest) (s : Setting) : Prop :=
  ∃ r ∈ requests, isAccepted r = true ∧ r.1 = s.name

/-- One request more sets what the others set, and the setting that it names if it is accepted. -/
theorem mended_cons_iff (r : SettingRequest) (requests : List SettingRequest) (s : Setting) :
    Mended (r :: requests) s ↔ isAccepted r = true ∧ r.1 = s.name ∨ Mended requests s := by
  simp only [Mended, List.mem_cons, or_and_right, exists_or, exists_eq_left]

/-- After a request, a setting has a proper value if the request set it, and else the value that it
had. -/
theorem get_afterRequest_cases (c : Config) (r : SettingRequest) (s : Setting) :
    (isAccepted r = true ∧ r.1 = s.name) ∧ s.Proper ((c.afterRequest r).get s) ∨
      ¬(isAccepted r = true ∧ r.1 = s.name) ∧ (c.afterRequest r).get s = c.get s := by
  rcases c.afterRequest_cases r with ⟨hrefused, hsame⟩ | ⟨⟨s', v⟩, haccepted, hname, hproper, hput⟩
  · right
    rw [hrefused, hsame]
    exact ⟨fun h => Bool.noConfusion h.1, rfl⟩
  · rw [hput]
    by_cases hs : s = s'
    · subst hs
      left
      rw [get_put_self]
      exact ⟨⟨haccepted, hname.symm⟩, hproper⟩
    · right
      refine ⟨fun h => hs ?_, get_put_of_ne _ hs _⟩
      exact Setting.name_inj.1 (h.2.symm.trans hname.symm)

/-- After requests, a setting has a proper value if one of them set it, and else the value that it
had. -/
theorem get_afterRequests_cases (c : Config) (requests : List SettingRequest) (s : Setting) :
    Mended requests s ∧ s.Proper ((c.afterRequests requests).get s) ∨
      ¬Mended requests s ∧ (c.afterRequests requests).get s = c.get s := by
  induction requests generalizing c with
  | nil =>
    right
    refine ⟨?_, rfl⟩
    rintro ⟨r, hr, -⟩
    cases hr
  | cons r rest ih =>
    rw [mended_cons_iff]
    change _ ∧ s.Proper (((c.afterRequest r).afterRequests rest).get s) ∨
      _ ∧ ((c.afterRequest r).afterRequests rest).get s = c.get s
    rcases ih (c.afterRequest r) with ⟨hrest, hproper⟩ | ⟨hrest, hsame⟩
    · exact .inl ⟨.inr hrest, hproper⟩
    · rw [hsame]
      rcases c.get_afterRequest_cases r s with ⟨hr, hproper⟩ | ⟨hr, hget⟩
      · exact .inl ⟨.inl hr, hproper⟩
      · exact .inr ⟨fun h => h.elim hr hrest, hget⟩

/-- Requests leave the addresses under other names than those of heap symbols. -/
theorem get?_afterRequests_of_unknown (c : Config) (requests : List SettingRequest) {name : String}
    (h : ∀ symbol : HeapSymbol, name ≠ symbol.symbolName) :
    (c.afterRequests requests).heapAddresses.get? name = c.heapAddresses.get? name := by
  induction requests generalizing c with
  | nil => rfl
  | cons r rest ih =>
    refine (ih (c.afterRequest r)).trans ?_
    rcases c.afterRequest_cases r with ⟨-, hsame⟩ | ⟨change, -, -, -, hput⟩
    · rw [hsame]
    · rw [hput, get?_put_of_unknown _ _ _ h]

/-- Settings are proper after requests exactly if each address that was not proper is one that the
requests set. -/
theorem isProper_afterRequests_iff (c : Config) (requests : List SettingRequest) :
    (c.afterRequests requests).IsProper ↔
      ∀ name a, c.heapAddresses.get? name = some a →
        (a ≠ 0 ∧ ∃ symbol : HeapSymbol, name = symbol.symbolName) ∨
          ∃ symbol : HeapSymbol, name = symbol.symbolName ∧
            Mended requests (.address symbol) := by
  constructor
  · intro hproper name a ha
    -- What the requests did not set is still there, and so it was proper before.
    by_cases hknown : ∃ symbol : HeapSymbol, name = symbol.symbolName
    · obtain ⟨symbol, rfl⟩ := hknown
      rcases c.get_afterRequests_cases requests (.address symbol) with ⟨hset, -⟩ | ⟨-, hsame⟩
      · exact .inr ⟨symbol, rfl, hset⟩
      · exact .inl (hproper symbol.symbolName a (hsame.trans ha))
    · have hsame := c.get?_afterRequests_of_unknown requests fun symbol heq =>
        hknown ⟨symbol, heq⟩
      exact .inl (hproper name a (hsame.trans ha))
  · intro hmended name a ha
    -- What the requests set is proper, and what they did not set is what it was.
    by_cases hknown : ∃ symbol : HeapSymbol, name = symbol.symbolName
    · obtain ⟨symbol, rfl⟩ := hknown
      refine ⟨?_, symbol, rfl⟩
      rcases c.get_afterRequests_cases requests (.address symbol) with
        ⟨-, hproper⟩ | ⟨hnot, hsame⟩
      · rintro rfl
        exact hproper ha
      · rcases hmended symbol.symbolName a (hsame.symm.trans ha) with h | ⟨symbol', hname, hset⟩
        · exact h.1
        · rw [← HeapSymbol.symbolName_inj.1 hname] at hset
          exact absurd hset hnot
    · have hsame := c.get?_afterRequests_of_unknown requests fun symbol heq =>
        hknown ⟨symbol, heq⟩
      rcases hmended name a (hsame.symm.trans ha) with h | ⟨symbol, hname, -⟩
      · exact h
      · exact absurd ⟨symbol, hname⟩ hknown

/-- Settings from anywhere, also such as were stored, have only proper overrides after requests
exactly if the requests set each heap symbol whose override was not proper, and no override was
there under another name. In any case an override of a heap symbol shows, and settings that show
alike find the same addresses for the heap symbols. If their overrides are proper, they find the
same address for every symbol. -/
theorem overrides_show_where_mended (c : Config) (requests : List SettingRequest) :
    ((c.afterRequests requests).IsProper ↔
      ∀ name a, c.heapAddresses.get? name = some a →
        (a ≠ 0 ∧ ∃ symbol : HeapSymbol, name = symbol.symbolName) ∨
          ∃ symbol : HeapSymbol, name = symbol.symbolName ∧
            Mended requests (.address symbol)) ∧
    (∀ symbol : HeapSymbol, (symbol.settingName, "0") ∈ (c.afterRequests requests).describe ↔
      (c.afterRequests requests).heapAddresses.get? symbol.symbolName = none) ∧
    ∀ c' : Config, (c.afterRequests requests).describe = c'.describe →
      (∀ host (symbol : HeapSymbol),
        HeapStrategy.heuristic.resolve host (c.afterRequests requests) symbol.symbolName =
          HeapStrategy.heuristic.resolve host c' symbol.symbolName) ∧
      ((c.afterRequests requests).IsProper → c'.IsProper → ∀ host symbol,
        HeapStrategy.heuristic.resolve host (c.afterRequests requests) symbol =
          HeapStrategy.heuristic.resolve host c' symbol) := by
  refine ⟨c.isProper_afterRequests_iff requests, (c.afterRequests requests).shows_zero_iff, ?_⟩
  intro c' hshown
  refine ⟨fun host symbol => ?_, fun hc hc' host symbol => ?_⟩
  · -- Looking an address up reads the version and the override of that symbol, and both show.
    have hglibc : (c.afterRequests requests).glibc = c'.glibc := get_of_describe hshown .glibc
    have haddress : (c.afterRequests requests).heapAddresses.get? symbol.symbolName =
        c'.heapAddresses.get? symbol.symbolName := get_of_describe hshown (.address symbol)
    simp only [HeapStrategy.resolve, HeapStrategy.find?, effectiveGlibc, hglibc, haddress]
  · rw [eq_of_describe hc hc' hshown]

/-- Stored settings can hold an override that is zero, and one that shows nowhere and takes effect
all the same. -/
theorem stored_overrides_can_be_zero_or_hidden :
    (∃ c, Config.decoder.ofText r#"{"heap_addresses":{"main_arena":0}}"# = .ok c ∧
      c.heapAddresses.get? "main_arena" = some 0 ∧ ("main-arena", "0x0") ∈ c.describe) ∧
    ∃ c, Config.decoder.ofText r#"{"heap_addresses":{"top_pad":4096}}"# = .ok c ∧
      c.describe = ({} : Config).describe ∧
      ∀ host : Host, HeapStrategy.heuristic.resolve host c "top_pad" = .ok 4096 ∧
        (host.glibcVersion = none →
          HeapStrategy.heuristic.resolve host {} "top_pad" =
            .error (.symbolUnresolvable "top_pad")) := by
  refine ⟨⟨{ heapAddresses := .ofList [("main_arena", 0)] }, rfl, rfl, by decide⟩,
    ⟨{ heapAddresses := .ofList [("top_pad", 4096)] }, rfl, by decide, fun host => ⟨rfl, ?_⟩⟩⟩
  intro hglibc
  simp [HeapStrategy.resolve, HeapStrategy.find?, effectiveGlibc, hglibc]

end Config

end DebugShell
