import DebugShell.Config
import DebugShell.Proofs.NameMap
import Mathlib.Data.List.Nodup

/-!
# A setting is read and put by itself

Each setting has a value of its own type (`Setting.Value`), which is read from a text, shown as a
text, and kept in one place of the settings. `Config.get` and `Config.put` go to that place: what
was put is got (`get_put_self`), and the other settings are left as they were (`get_put_of_ne`).
Together with the addresses that no setting speaks of, the values are all there is (`ext_get`). So
of two values for one setting the second stays (`put_put`), and values for two settings can be put
in either order (`put_comm`).

To change a setting is to read a value and to put it. What is read depends on the name and the text
alone (`Change.requested`), and what is put does not depend on where the value came from
(`set_eq`).
-/

namespace DebugShell

/-! ## Names -/

/-- Every heap symbol is listed. -/
theorem HeapSymbol.mem_all (symbol : HeapSymbol) : symbol ∈ all := by
  cases symbol <;> decide

/-- No two heap symbols have the same name. -/
theorem HeapSymbol.symbolName_inj {a b : HeapSymbol} : a.symbolName = b.symbolName ↔ a = b := by
  have hnames : (all.map symbolName).Nodup := by decide
  exact ⟨fun h => List.inj_on_of_nodup_map hnames a.mem_all b.mem_all h, congrArg symbolName⟩

namespace Setting

/-- Every setting is listed. -/
theorem mem_all (s : Setting) : s ∈ all := by
  cases s with
  | address symbol =>
    exact List.mem_append_right _ (List.mem_map_of_mem symbol.mem_all)
  | _ => decide

/-- No two settings have the same name. -/
theorem name_inj {s s' : Setting} : s.name = s'.name ↔ s = s' := by
  have hnames : (all.map name).Nodup := by decide
  exact ⟨fun h => List.inj_on_of_nodup_map hnames s.mem_all s'.mem_all h, congrArg name⟩

/-- A name is found to be that of a setting exactly if the setting has it. -/
theorem named?_eq_some_iff (n : String) (s : Setting) : named? n = some s ↔ s.name = n := by
  constructor
  · intro h
    simpa using List.find?_some h
  · rintro rfl
    -- The setting found has the name, and no other setting has it.
    have hfound : (named? s.name).isSome = true := by
      rw [named?, List.find?_isSome]
      exact ⟨s, s.mem_all, beq_self_eq_true _⟩
    obtain ⟨s', hs'⟩ := Option.isSome_iff_exists.1 hfound
    have hname : s'.name = s.name := by simpa using List.find?_some hs'
    rw [hs', name_inj.1 hname]

/-- The setting that has a name is found by it. -/
theorem named?_name (s : Setting) : named? s.name = some s :=
  (named?_eq_some_iff s.name s).2 rfl

end Setting

/-! ## Values -/

/-- The version that a text gives. The empty text takes the given one away. -/
def givenVersion (text : String) : Except ValueError (Option Version) :=
  if text = "" then .ok none
  else match Version.ofString text with
    | .ok v => .ok (some v)
    | .error e => .error (.notVersion e)

/-- The text that shows the version that was given. -/
def versionText : Option Version → String
  | some v => toString v
  | none => "(auto)"

/-- The address that a text gives a heap symbol. Zero takes the given one away. -/
def givenAddress (text : String) : Except ValueError (Option UInt64) :=
  match addressOfString text with
  | .ok a => .ok (if a = 0 then none else some a)
  | .error e => .error e

/-- The text that shows the address that was given. -/
def addressText : Option UInt64 → String
  | some a => Numeral.hex a.toNat
  | none => "0"

namespace Setting

/-- What a setting can be set to. The version and the addresses may be missing. -/
def Value : Setting → Type
  | .resolutionMode => ResolutionMode
  | .glibc => Option Version
  | .exceptionVerbose => Bool
  | .exceptionDebugger => Bool
  | .address _ => Option UInt64

/-- The value that a text gives a setting. -/
def read : (s : Setting) → String → Except ValueError s.Value
  | .resolutionMode => ResolutionMode.ofString
  | .glibc => givenVersion
  | .exceptionVerbose => switchOfString
  | .exceptionDebugger => switchOfString
  | .address _ => givenAddress

/-- The text that shows a value of a setting. -/
def write : (s : Setting) → s.Value → String
  | .resolutionMode => fun mode : ResolutionMode => toString mode
  | .glibc => versionText
  | .exceptionVerbose => Config.switchText
  | .exceptionDebugger => Config.switchText
  | .address _ => addressText

end Setting

namespace Config

/-! ## Getting and putting -/

/-- The value of a setting. -/
def get (c : Config) : (s : Setting) → s.Value
  | .resolutionMode => c.resolutionMode
  | .glibc => c.glibc
  | .exceptionVerbose => c.exceptionVerbose
  | .exceptionDebugger => c.exceptionDebugger
  | .address symbol => c.heapAddresses.get? symbol.symbolName

/-- The settings with another value for one of them. -/
def put (c : Config) : (s : Setting) → s.Value → Config
  | .resolutionMode, mode => { c with resolutionMode := mode }
  | .glibc, version => { c with glibc := version }
  | .exceptionVerbose, b => { c with exceptionVerbose := b }
  | .exceptionDebugger, b => { c with exceptionDebugger := b }
  | .address symbol, some a =>
    { c with heapAddresses := c.heapAddresses.insert symbol.symbolName a }
  | .address symbol, none =>
    { c with heapAddresses := c.heapAddresses.erase symbol.symbolName }

/-- Giving a heap symbol an address, or taking it away, changes what is known of that symbol. -/
theorem get?_put_address (c : Config) (symbol : HeapSymbol) (a : Option UInt64) (name : String) :
    (c.put (.address symbol) a).heapAddresses.get? name =
      if name = symbol.symbolName then a else c.heapAddresses.get? name := by
  cases a with
  | some a => exact NameMap.get?_insert c.heapAddresses symbol.symbolName a name
  | none => exact NameMap.get?_erase c.heapAddresses symbol.symbolName name

/-- No setting changes an address under a name that is not that of a heap symbol. -/
theorem get?_put_of_unknown (c : Config) (s : Setting) (v : s.Value) {name : String}
    (h : ∀ symbol : HeapSymbol, name ≠ symbol.symbolName) :
    (c.put s v).heapAddresses.get? name = c.heapAddresses.get? name := by
  cases s with
  | address symbol => exact (c.get?_put_address symbol v name).trans (if_neg (h symbol))
  | _ => rfl

/-- What was put is got. -/
theorem get_put_self (c : Config) (s : Setting) (v : s.Value) : (c.put s v).get s = v := by
  cases s with
  | address symbol => exact (c.get?_put_address symbol v _).trans (if_pos rfl)
  | _ => rfl

/-- Putting a value of one setting leaves the values of the others as they were. -/
theorem get_put_of_ne (c : Config) {s s' : Setting} (h : s' ≠ s) (v : s.Value) :
    (c.put s v).get s' = c.get s' := by
  cases s with
  | address symbol =>
    cases s' with
    | address other =>
      have hname : other.symbolName ≠ symbol.symbolName := fun heq =>
        h (congrArg Setting.address (HeapSymbol.symbolName_inj.1 heq))
      exact (c.get?_put_address symbol v _).trans (if_neg hname)
    | _ => cases v <;> rfl
  | resolutionMode =>
    cases s' with
    | resolutionMode => exact absurd rfl h
    | _ => rfl
  | glibc =>
    cases s' with
    | glibc => exact absurd rfl h
    | _ => rfl
  | exceptionVerbose =>
    cases s' with
    | exceptionVerbose => exact absurd rfl h
    | _ => rfl
  | exceptionDebugger =>
    cases s' with
    | exceptionDebugger => exact absurd rfl h
    | _ => rfl

/-- Settings with the same values are equal, if they agree on the addresses that no setting speaks
of. -/
theorem ext_get {c c' : Config} (h : ∀ s, c.get s = c'.get s)
    (hunknown : ∀ name, (∀ symbol : HeapSymbol, name ≠ symbol.symbolName) →
      c.heapAddresses.get? name = c'.heapAddresses.get? name) : c = c' := by
  have haddresses : c.heapAddresses = c'.heapAddresses := by
    refine NameMap.ext_get? fun name => ?_
    by_cases hname : ∃ symbol : HeapSymbol, name = symbol.symbolName
    · obtain ⟨symbol, rfl⟩ := hname
      exact h (.address symbol)
    · exact hunknown name fun symbol heq => hname ⟨symbol, heq⟩
  have hmode : c.resolutionMode = c'.resolutionMode := h .resolutionMode
  have hglibc : c.glibc = c'.glibc := h .glibc
  have hverbose : c.exceptionVerbose = c'.exceptionVerbose := h .exceptionVerbose
  have hdebugger : c.exceptionDebugger = c'.exceptionDebugger := h .exceptionDebugger
  obtain ⟨⟩ := c
  obtain ⟨⟩ := c'
  simp only at hmode hglibc hverbose hdebugger haddresses
  rw [hmode, hglibc, hverbose, hdebugger, haddresses]

/-- Of two values for one setting the second stays. -/
theorem put_put (c : Config) (s : Setting) (v w : s.Value) : (c.put s v).put s w = c.put s w := by
  refine ext_get (fun s' => ?_) fun name hname => ?_
  · by_cases hs : s' = s
    · subst hs
      rw [get_put_self, get_put_self]
    · rw [get_put_of_ne _ hs, get_put_of_ne _ hs, get_put_of_ne _ hs]
  · rw [get?_put_of_unknown _ _ _ hname, get?_put_of_unknown _ _ _ hname,
      get?_put_of_unknown _ _ _ hname]

/-- Values for two settings can be put in either order. -/
theorem put_comm (c : Config) {s s' : Setting} (h : s ≠ s') (v : s.Value) (w : s'.Value) :
    (c.put s v).put s' w = (c.put s' w).put s v := by
  refine ext_get (fun other => ?_) fun name hname => ?_
  · by_cases hs : other = s
    · subst hs
      rw [get_put_of_ne _ h, get_put_self, get_put_self]
    · by_cases hs' : other = s'
      · subst hs'
        rw [get_put_self, get_put_of_ne _ hs, get_put_self]
      · rw [get_put_of_ne _ hs', get_put_of_ne _ hs, get_put_of_ne _ hs, get_put_of_ne _ hs']
  · simp only [get?_put_of_unknown _ _ _ hname]

/-! ## Changing a setting by name -/

/-- Setting a setting from a text is reading the value and putting it. -/
theorem assign_eq (c : Config) (s : Setting) (text : String) :
    c.assign s text = (s.read text).map (c.put s) := by
  cases s with
  | resolutionMode =>
    change _ = (ResolutionMode.ofString text).map fun mode => { c with resolutionMode := mode }
    unfold assign
    cases ResolutionMode.ofString text <;> rfl
  | glibc =>
    change _ = (givenVersion text).map fun version => { c with glibc := version }
    unfold assign givenVersion
    dsimp only
    split
    · rfl
    · cases Version.ofString text <;> rfl
  | exceptionVerbose =>
    change _ = (switchOfString text).map fun b => { c with exceptionVerbose := b }
    unfold assign
    cases switchOfString text <;> rfl
  | exceptionDebugger =>
    change _ = (switchOfString text).map fun b => { c with exceptionDebugger := b }
    unfold assign
    cases switchOfString text <;> rfl
  | address symbol =>
    change _ = (givenAddress text).map (c.put (.address symbol))
    unfold assign givenAddress
    cases addressOfString text with
    | error e => rfl
    | ok a =>
      change (if a = 0 then Except.ok _ else Except.ok _) = Except.ok _
      -- Zero takes the address away, in both.
      by_cases ha : a = 0
      · rw [if_pos ha, if_pos ha]
        rfl
      · rw [if_neg ha, if_neg ha]
        rfl

/-- A setting is shown by the text for its value. -/
theorem valueText_eq (c : Config) (s : Setting) : c.valueText s = s.write (c.get s) := by
  cases s with
  | glibc =>
    change _ = versionText c.glibc
    unfold valueText
    cases c.glibc <;> rfl
  | address symbol =>
    change _ = addressText (c.heapAddresses.get? symbol.symbolName)
    unfold valueText
    dsimp only
    cases c.heapAddresses.get? symbol.symbolName <;> rfl
  | _ => rfl

end Config

/-- A change of one setting: which, and the value that it is to have. -/
abbrev Change := (s : Setting) × s.Value

/-- The change that is asked for by the name of a setting and the text of a value. -/
def Change.requested (name value : String) : Except ConfigError Change :=
  match Setting.named? name with
  | none => .error (.unknownSetting name)
  | some s =>
    match s.read value with
    | .ok v => .ok ⟨s, v⟩
    | .error reason => .error (.invalidValue name value reason)

/-- The change that is asked for is one of the setting with that name. -/
theorem Change.name_of_requested {name value : String} {change : Change}
    (h : requested name value = .ok change) : change.1.name = name := by
  unfold requested at h
  split at h
  · cases h
  · rename_i s hs
    split at h
    · cases h
      exact (Setting.named?_eq_some_iff name s).1 hs
    · cases h

/-- Under the name of a setting, the change that is asked for is the value that is read. -/
theorem Change.requested_name {s : Setting} {value : String} {v : s.Value}
    (h : s.read value = .ok v) : requested s.name value = .ok ⟨s, v⟩ := by
  unfold requested
  rw [Setting.named?_name]
  dsimp only
  rw [h]

/-- Under the name of a setting, a text that is not read is refused. -/
theorem Change.requested_name_error {s : Setting} {value : String} {reason : ValueError}
    (h : s.read value = .error reason) :
    requested s.name value = .error (.invalidValue s.name value reason) := by
  unfold requested
  rw [Setting.named?_name]
  dsimp only
  rw [h]

/-- Changing a setting by name is putting the value that is asked for. Whether there is one does
not depend on the settings. -/
theorem Config.set_eq (c : Config) (name value : String) :
    c.set name value = (Change.requested name value).map fun change => c.put change.1 change.2 := by
  unfold set Change.requested
  cases Setting.named? name with
  | none => rfl
  | some s =>
    dsimp only
    rw [assign_eq]
    cases s.read value <;> rfl

/-! ## Requests -/

/-- A request to change a setting: the name of the setting and the text of the value. -/
abbrev SettingRequest := String × String

/-- A request is accepted if the settings of the start take it. -/
def isAccepted (r : SettingRequest) : Bool :=
  (({} : Config).set r.1 r.2).isOk

/-- A request is accepted exactly if a change is asked for. -/
theorem isAccepted_iff (r : SettingRequest) :
    isAccepted r = true ↔ ∃ change, Change.requested r.1 r.2 = .ok change := by
  unfold isAccepted
  rw [Config.set_eq]
  cases Change.requested r.1 r.2 with
  | ok change => exact ⟨fun _ => ⟨change, rfl⟩, fun _ => rfl⟩
  | error e =>
    constructor
    · intro h
      cases h
    · rintro ⟨change, h⟩
      cases h

/-- A request that asks for no change is not accepted. -/
theorem isAccepted_of_error {r : SettingRequest} {e : ConfigError}
    (h : Change.requested r.1 r.2 = .error e) : isAccepted r = false := by
  unfold isAccepted
  rw [Config.set_eq, h]
  rfl

end DebugShell
