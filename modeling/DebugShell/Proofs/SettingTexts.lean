import DebugShell.Proofs.Settings
import DebugShell.Proofs.ValueTexts

/-!
# Settings are rebuilt from what shows of them

What shows of the settings is one text for each of them. The text that shows a value asks for that
value when it is given back, but for two kinds of values. A version that is not given shows as
`(auto)` and is asked for by the empty text (`Setting.retyped`). The address zero shows as `0x0`,
and to ask for it is to take the address away; such a value is not proper, and no request leaves one
behind.

Giving all texts back to the settings of the start therefore copies the values one by one
(`Config.foldlM_retyped`), and that makes the whole of the settings if they have no address under a
name that no setting speaks of. Settings that were made by requests have none
(`Config.IsProper.afterRequests`).
-/

namespace DebugShell

/-! ## Texts that show values are read back -/

/-- The text that shows a version is not the one that shows that none is given. -/
theorem versionText_ne_auto (v : Version) : versionText (some v) ≠ "(auto)" := by
  intro h
  have hread := v.ofString_toString
  rw [versionText] at h
  rw [h] at hread
  cases hread

/-- A version that was given is read back from the text that shows it. -/
theorem givenVersion_versionText (v : Version) :
    givenVersion (versionText (some v)) = .ok (some v) := by
  have hread := v.ofString_toString
  have hne : toString v ≠ "" := by
    intro h
    rw [h] at hread
    cases hread
  rw [versionText, givenVersion, if_neg hne, hread]

/-- No text gives the address zero. -/
theorem givenAddress_ne_zero {text : String} {a : Option UInt64}
    (h : givenAddress text = .ok a) : a ≠ some 0 := by
  unfold givenAddress at h
  split at h
  · rename_i b _
    rw [Except.ok.injEq] at h
    subst h
    by_cases hb : b = 0
    · simp [hb]
    · simp [hb]
  · cases h

/-- An address other than zero, or its absence, is read back from the text that shows it. -/
theorem givenAddress_addressText {a : Option UInt64} (h : a ≠ some 0) :
    givenAddress (addressText a) = .ok a := by
  cases a with
  | none => rfl
  | some a =>
    have ha : a ≠ 0 := fun heq => h (congrArg some heq)
    rw [addressText, givenAddress, addressOfString_hex]
    dsimp only
    rw [if_neg ha]

/-- Different addresses are shown by different texts, zero and the absence of one included. -/
theorem addressText_injective : Function.Injective addressText := by
  have hmarked (a : UInt64) : addressText (some a) ≠ addressText none := by
    intro h
    have hlist := congrArg String.toList h
    rw [addressText, Numeral.toList_hex] at hlist
    cases hlist
  intro a b h
  cases a with
  | none =>
    cases b with
    | none => rfl
    | some b => exact absurd h.symm (hmarked b)
  | some a =>
    cases b with
    | none => exact absurd h (hmarked a)
    | some b => rw [injective_of_read addressOfString_hex h]

namespace Setting

/-- What a text can set a setting to: no address is zero, which stands for none. -/
def Proper : (s : Setting) → s.Value → Prop
  | .address _ => fun a : Option UInt64 => a ≠ some 0
  | _ => fun _ => True

/-- Reading yields proper values. -/
theorem proper_of_read {s : Setting} {text : String} {v : s.Value} (h : s.read text = .ok v) :
    Proper s v := by
  cases s with
  | address symbol => exact givenAddress_ne_zero h
  | _ => trivial

/-- What is asked for is proper. -/
theorem proper_of_requested {name value : String} {change : Change}
    (h : Change.requested name value = .ok change) : change.1.Proper change.2 := by
  unfold Change.requested at h
  split at h
  · cases h
  · split at h
    · rename_i s _ v hread
      cases h
      exact proper_of_read hread
    · cases h

/-- The text that is to be given for the one that shows a value: nothing for a version that is not
given, and otherwise the same. -/
def retyped (e : String × String) : String × String :=
  if e = ("glibc", "(auto)") then ("glibc", "") else e

/-- A proper value is what is asked for by the text that shows it. -/
theorem requested_retyped {s : Setting} {v : s.Value} (h : Proper s v) :
    Change.requested (retyped (s.name, s.write v)).1 (retyped (s.name, s.write v)).2 =
      .ok ⟨s, v⟩ := by
  -- Only the version has a text that is not given back as it is.
  have hkept (hs : s ≠ .glibc) (hread : s.read (s.write v) = .ok v) :
      Change.requested (retyped (s.name, s.write v)).1 (retyped (s.name, s.write v)).2 =
        .ok ⟨s, v⟩ := by
    have hne : (s.name, s.write v) ≠ ("glibc", "(auto)") := fun heq =>
      hs (name_inj.1 (congrArg Prod.fst heq))
    rw [retyped, if_neg hne]
    exact Change.requested_name hread
  cases s with
  | resolutionMode => exact hkept nofun (ResolutionMode.ofString_toString v)
  | glibc =>
    cases v with
    | none => rfl
    | some v =>
      have hne : ("glibc", versionText (some v)) ≠ ("glibc", "(auto)") := fun heq =>
        versionText_ne_auto v (congrArg Prod.snd heq)
      change Change.requested (retyped ("glibc", versionText (some v))).1
        (retyped ("glibc", versionText (some v))).2 = _
      rw [retyped, if_neg hne]
      exact Change.requested_name (s := .glibc) (givenVersion_versionText v)
  | exceptionVerbose => exact hkept nofun (switchOfString_switchText v)
  | exceptionDebugger => exact hkept nofun (switchOfString_switchText v)
  | address symbol => exact hkept nofun (givenAddress_addressText h)

end Setting

namespace Config

/-! ## Settings that were made by requests -/

/-- The settings after a request. One that is refused leaves them as they were. -/
def afterRequest (c : Config) (r : SettingRequest) : Config :=
  match c.set r.1 r.2 with
  | .ok c' => c'
  | .error _ => c

/-- The settings after requests that were made one after another. -/
def afterRequests (c : Config) (requests : List SettingRequest) : Config :=
  requests.foldl afterRequest c

/-- Every address that is given is one that a setting can give: it is that of a heap symbol, and it
is not zero. -/
def IsProper (c : Config) : Prop :=
  ∀ name a, c.heapAddresses.get? name = some a →
    a ≠ 0 ∧ ∃ symbol : HeapSymbol, name = symbol.symbolName

/-- A request leaves the settings as they were if it is not accepted, and else puts a proper value
of the setting that it names. -/
theorem afterRequest_cases (c : Config) (r : SettingRequest) :
    isAccepted r = false ∧ c.afterRequest r = c ∨
      ∃ change : Change, isAccepted r = true ∧ change.1.name = r.1 ∧ change.1.Proper change.2 ∧
        c.afterRequest r = c.put change.1 change.2 := by
  unfold afterRequest
  rw [set_eq]
  cases hchange : Change.requested r.1 r.2 with
  | error e => exact .inl ⟨isAccepted_of_error hchange, rfl⟩
  | ok change =>
    exact .inr ⟨change, (isAccepted_iff r).2 ⟨change, hchange⟩, Change.name_of_requested hchange,
      Setting.proper_of_requested hchange, rfl⟩

/-- Giving a heap symbol an address other than zero, or taking it away, keeps settings proper. -/
theorem IsProper.put_address {c : Config} (h : c.IsProper) (symbol : HeapSymbol)
    {given : Option UInt64} (hgiven : given ≠ some 0) :
    (c.put (.address symbol) given).IsProper := by
  intro name a ha
  rw [get?_put_address] at ha
  split at ha
  · rename_i hname
    refine ⟨?_, symbol, hname⟩
    rintro rfl
    exact hgiven ha
  · exact h name a ha

/-- Putting a proper value keeps settings proper. -/
theorem IsProper.put {c : Config} (h : c.IsProper) {s : Setting} {v : s.Value} (hv : s.Proper v) :
    (c.put s v).IsProper := by
  cases s with
  | address symbol => exact h.put_address symbol hv
  | _ => exact h

/-- Proper settings have no address under a name that is not that of a heap symbol. -/
theorem IsProper.get?_eq_none {c : Config} (h : c.IsProper) {name : String}
    (hname : ∀ symbol : HeapSymbol, name ≠ symbol.symbolName) :
    c.heapAddresses.get? name = none := by
  cases ha : c.heapAddresses.get? name with
  | none => rfl
  | some a =>
    obtain ⟨-, symbol, hsymbol⟩ := h name a ha
    exact absurd hsymbol (hname symbol)

/-- Requests keep settings proper. -/
theorem IsProper.afterRequests {c : Config} (h : c.IsProper) (requests : List SettingRequest) :
    (c.afterRequests requests).IsProper := by
  induction requests generalizing c with
  | nil => exact h
  | cons r rest ih =>
    refine ih (c := c.afterRequest r) ?_
    rcases c.afterRequest_cases r with ⟨-, hsame⟩ | ⟨change, -, -, hproper, hput⟩
    · rw [hsame]
      exact h
    · rw [hput]
      exact h.put hproper

/-- The settings of the start are proper. -/
theorem isProper_initial : ({} : Config).IsProper := by
  intro name a ha
  cases ha

/-- Proper settings hold a proper value for every setting. -/
theorem IsProper.get {c : Config} (h : c.IsProper) (s : Setting) : s.Proper (c.get s) := by
  cases s with
  | address symbol =>
    intro hzero
    exact (h symbol.symbolName 0 hzero).1 rfl
  | _ => trivial

/-! ## Rebuilding settings -/

/-- All settings by name with the texts that show their values. -/
theorem describe_eq (c : Config) :
    c.describe = Setting.all.map fun s => (s.name, s.write (c.get s)) := by
  simp only [describe, valueText_eq]

/-- The settings with the values that other settings have for those that are listed. -/
def copied (c c₀ : Config) (listed : List Setting) : Config :=
  listed.foldl (fun c' s => c'.put s (c.get s)) c₀

/-- A setting that is listed has the value that is copied, and the others stay as they were. -/
theorem get_copied (c c₀ : Config) (listed : List Setting) (s : Setting) :
    (c.copied c₀ listed).get s = if s ∈ listed then c.get s else c₀.get s := by
  induction listed generalizing c₀ with
  | nil => rfl
  | cons head rest ih =>
    change (c.copied (c₀.put head (c.get head)) rest).get s = _
    rw [ih]
    by_cases hhead : s = head
    · subst hhead
      simp [get_put_self]
    · simp [hhead, get_put_of_ne _ hhead]

/-- Copying leaves the addresses that no setting speaks of. -/
theorem get?_copied_of_unknown (c c₀ : Config) (listed : List Setting) {name : String}
    (h : ∀ symbol : HeapSymbol, name ≠ symbol.symbolName) :
    (c.copied c₀ listed).heapAddresses.get? name = c₀.heapAddresses.get? name := by
  induction listed generalizing c₀ with
  | nil => rfl
  | cons head rest ih => exact (ih (c₀.put head (c.get head))).trans (get?_put_of_unknown _ _ _ h)

/-- Giving back the texts that show proper settings is accepted and copies their values. -/
theorem foldlM_retyped {c : Config} (h : c.IsProper) (c₀ : Config) (listed : List Setting) :
    ((listed.map fun s => (s.name, s.write (c.get s))).map Setting.retyped).foldlM
      (fun c' e => c'.set e.1 e.2) c₀ = .ok (c.copied c₀ listed) := by
  induction listed generalizing c₀ with
  | nil => rfl
  | cons s rest ih =>
    have hset : c₀.set (Setting.retyped (s.name, s.write (c.get s))).1
        (Setting.retyped (s.name, s.write (c.get s))).2 = .ok (c₀.put s (c.get s)) := by
      rw [set_eq, Setting.requested_retyped (h.get s)]
      rfl
    rw [List.map_cons, List.map_cons, List.foldlM_cons, hset]
    exact ih (c₀.put s (c.get s))

/-- Proper settings are copied whole by copying all of them. -/
theorem copied_all {c : Config} (h : c.IsProper) : c.copied {} Setting.all = c := by
  -- The settings are copied; under other names neither side has an address.
  refine ext_get (fun s => ?_) fun name hname => ?_
  · rw [get_copied, if_pos s.mem_all]
  · rw [get?_copied_of_unknown _ _ _ hname, h.get?_eq_none hname]
    rfl

/-- Proper settings are rebuilt from what shows of them. -/
theorem IsProper.rebuilt {c : Config} (h : c.IsProper) :
    (c.describe.map Setting.retyped).foldlM (fun c' e => c'.set e.1 e.2) ({} : Config) = .ok c := by
  rw [describe_eq, foldlM_retyped h, copied_all h]

/-- Settings that were made by requests hold no addresses but those of heap symbols, and none that
is zero. What shows of them, given back setting by setting, is accepted and rebuilds them. So
settings that were made by requests are equal if they show alike. -/
theorem shown_settings_rebuild_the_settings (requests : List SettingRequest) :
    (∀ name a, (({} : Config).afterRequests requests).heapAddresses.get? name = some a →
      a ≠ 0 ∧ ∃ symbol : HeapSymbol, name = symbol.symbolName) ∧
    ((({} : Config).afterRequests requests).describe.map Setting.retyped).foldlM
      (fun c e => c.set e.1 e.2) ({} : Config) = .ok (({} : Config).afterRequests requests) ∧
    ∀ others : List SettingRequest,
      (({} : Config).afterRequests others).describe =
        (({} : Config).afterRequests requests).describe →
      ({} : Config).afterRequests others = ({} : Config).afterRequests requests := by
  have hproper := isProper_initial.afterRequests requests
  refine ⟨hproper, hproper.rebuilt, fun others hshown => ?_⟩
  have hothers := (isProper_initial.afterRequests others).rebuilt
  rw [hshown, hproper.rebuilt] at hothers
  exact (Except.ok.inj hothers).symm

end Config

end DebugShell
