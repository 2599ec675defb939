import DebugShell.Proofs.Blank
import DebugShell.Proofs.Numeral
import DebugShell.Proofs.Settings

/-!
# The values that settings take

Each setting has a syntax for its values: a word for the modes and the switches, two numerals with a
point between them for the version, and a numeral for an address. `Setting.Spells` says so for any
notion of a numeral, and apart from the readers. What is documented are plain numerals
(`Setting.Documents`). What the readers take are numerals that may have a plus sign in front
(`Setting.read_eq_ok_iff`), and that is all the difference there is: a value is documented exactly
if it is taken and has no plus sign in it (`Setting.documents_iff`).

A request is accepted exactly if its value is taken by the setting that it names, and then that
value is put. Otherwise it is refused for the name or for the value. So requests are accepted just
where the value is documented, unless there is a plus sign in it
(`settings_take_what_they_document`, `signed_values_are_taken`).
-/

namespace DebugShell

/-! ## Spellings -/

/-- Which texts are numerals: in a base, below a bound, of a number. -/
abbrev NumeralSyntax := Nat → Nat → List Char → Nat → Prop

/-- The text is the word for a mode, in any case. -/
def ResolutionMode.Spells (text : String) : ResolutionMode → Prop
  | .auto => lowered text = "auto"
  | .force => lowered text = "force"

/-- The text is a word for a Boolean, in any case. -/
def SwitchSpells (text : String) : Bool → Prop
  | true => lowered text ∈ ["on", "1", "yes", "true", "enable"]
  | false => lowered text ∈ ["off", "0", "no", "false", "disable"]

/-- The text is two decimal numerals of 32 bits with a point between them, among blanks. -/
def Version.Spells (numeral : NumeralSyntax) (text : String) (v : Version) : Prop :=
  ∃ major minor, Text.trim text.toList = major ++ '.' :: minor ∧
    numeral 10 UInt32.size major v.major.toNat ∧ numeral 10 UInt32.size minor v.minor.toNat

/-- The text is a decimal numeral of 64 bits, or a hexadecimal one behind a mark, among blanks. -/
def AddressSpells (numeral : NumeralSyntax) (text : String) (a : UInt64) : Prop :=
  numeral 10 UInt64.size (Text.trim text.toList) a.toNat ∨
    ∃ x digits, (x = 'x' ∨ x = 'X') ∧ Text.trim text.toList = '0' :: x :: digits ∧
      numeral 16 UInt64.size digits a.toNat

/-- The text spells a value of a setting. The empty text spells that no version is given, and zero
that no address is. -/
def Setting.Spells (numeral : NumeralSyntax) (text : String) : (s : Setting) → s.Value → Prop
  | .resolutionMode, mode => ResolutionMode.Spells text mode
  | .glibc, version => text = "" ∧ version = none ∨
      ∃ v, version = some v ∧ Version.Spells numeral text v
  | .exceptionVerbose, b => SwitchSpells text b
  | .exceptionDebugger, b => SwitchSpells text b
  | .address _, given => ∃ a, AddressSpells numeral text a ∧
      given = if a = 0 then none else some a

/-- The text is documented as a value of a setting: its numerals are digits and nothing else. -/
def Setting.Documents (s : Setting) (text : String) (v : s.Value) : Prop :=
  s.Spells Numeral.Plain text v

/-! ## What is read is what is spelled -/

/-- A mode is read from the words for it. -/
theorem ResolutionMode.ofString_eq_ok_iff (text : String) (mode : ResolutionMode) :
    ofString text = .ok mode ↔ mode.Spells text := by
  unfold ofString
  split
  · rename_i h
    cases mode <;> simp [Spells, h]
  · rename_i h
    cases mode <;> simp [Spells, h]
  · rename_i hauto hforce
    cases mode with
    | auto => exact iff_of_false nofun hauto
    | force => exact iff_of_false nofun hforce

/-- A Boolean is read from the words for it. -/
theorem switchOfString_eq_ok_iff (text : String) (b : Bool) :
    switchOfString text = .ok b ↔ SwitchSpells text b := by
  have hapart : ∀ word ∈ ["off", "0", "no", "false", "disable"],
      word ∉ ["on", "1", "yes", "true", "enable"] := by decide
  unfold switchOfString
  dsimp only
  split
  · rename_i hon
    cases b with
    | true => exact iff_of_true rfl hon
    | false => exact iff_of_false nofun fun hoff => hapart _ hoff hon
  · rename_i hon
    split
    · rename_i hoff
      cases b with
      | true => exact iff_of_false nofun hon
      | false => exact iff_of_true rfl hoff
    · rename_i hoff
      cases b with
      | true => exact iff_of_false nofun hon
      | false => exact iff_of_false nofun hoff

/-- A number of a version is read from the texts that denote it. -/
theorem Version.part?_eq_some_iff (cs : List Char) (n : UInt32) :
    part? cs = some n ↔ Numeral.Denotes 10 UInt32.size cs n.toNat :=
  Numeral.map_unsigned?_eq_some_iff (by decide) (fun _ => UInt32.ofNat_toNat)
    (fun _ h => UInt32.toNat_ofNat_of_lt' h) cs n

/-- A text is cut at its first point. -/
theorem Version.cut_at_point (cs : List Char) {major minor : List Char} (h : '.' ∉ major)
    (hcs : cs = major ++ '.' :: minor) :
    cs.takeWhile (· != '.') = major ∧ cs.dropWhile (· != '.') = '.' :: minor := by
  have hmajor : ∀ c ∈ major, (c != '.') = true := by
    intro c hc
    rw [bne_iff_ne]
    rintro rfl
    exact h hc
  rw [hcs, List.takeWhile_append_of_pos hmajor, List.dropWhile_append_of_pos hmajor]
  simp

/-- A version is read from the texts that spell it. -/
theorem Version.ofString_eq_ok_iff (text : String) (v : Version) :
    ofString text = .ok v ↔ v.Spells Numeral.Denotes text := by
  constructor
  · intro h
    unfold ofString at h
    dsimp only at h
    split at h
    · cases h
    · rename_i point minor hdrop
      split at h
      · cases h
      · cases h
      · rename_i a b ha hb
        obtain rfl := Except.ok.inj h
        -- What the first number stops at is a point.
        have hpoint : point = '.' := by
          have hhead := List.head?_dropWhile_not (· != '.') (Text.trim text.toList)
          rw [hdrop] at hhead
          simpa using hhead
        have hcut : Text.trim text.toList =
            (Text.trim text.toList).takeWhile (· != '.') ++ '.' :: minor := by
          rw [← hpoint, ← hdrop, hpoint]
          exact List.takeWhile_append_dropWhile.symm
        exact ⟨_, minor, hcut, (part?_eq_some_iff _ a).1 ha, (part?_eq_some_iff _ b).1 hb⟩
  · rintro ⟨major, minor, htext, hmajor, hminor⟩
    have hpoint : '.' ∉ major := by
      intro hmem
      rcases hmajor.mem (by decide) '.' hmem with hplus | hdigit
      · cases hplus
      · cases hdigit
    obtain ⟨htake, hdrop⟩ := cut_at_point _ hpoint htext
    unfold ofString
    dsimp only
    rw [htake, hdrop]
    dsimp only
    rw [(part?_eq_some_iff major v.major).2 hmajor, (part?_eq_some_iff minor v.minor).2 hminor]

/-- An address is read from the texts that spell it. -/
theorem addressOfString_eq_ok_iff (text : String) (a : UInt64) :
    addressOfString text = .ok a ↔ AddressSpells Numeral.Denotes text a := by
  unfold addressOfString AddressSpells
  dsimp only
  cases hmark : Numeral.afterHexMark? (Text.trim text.toList) with
  | none =>
    have hunmarked : ¬∃ x digits, (x = 'x' ∨ x = 'X') ∧
        Text.trim text.toList = '0' :: x :: digits ∧
        Numeral.Denotes 16 UInt64.size digits a.toNat := by
      rintro ⟨x, digits, hx, htext, -⟩
      rw [(Numeral.afterHexMark?_eq_some_iff _ digits).2 ⟨x, hx, htext⟩] at hmark
      cases hmark
    rw [or_iff_left hunmarked, ← Numeral.map_ofNat_unsigned?_eq_some_iff (by decide)]
    dsimp only
    cases Numeral.unsigned? 10 UInt64.size (Text.trim text.toList) with
    | none => simp
    | some n => simp
  | some digits =>
    obtain ⟨x, hx, htext⟩ := (Numeral.afterHexMark?_eq_some_iff _ _).1 hmark
    have hmarked : (∃ x digits, (x = 'x' ∨ x = 'X') ∧
        Text.trim text.toList = '0' :: x :: digits ∧
        Numeral.Denotes 16 UInt64.size digits a.toNat) ↔
        Numeral.Denotes 16 UInt64.size digits a.toNat := by
      constructor
      · rintro ⟨x', digits', -, htext', h⟩
        rw [htext] at htext'
        cases htext'
        exact h
      · intro h
        exact ⟨x, digits, hx, htext, h⟩
    -- By itself the text denotes no number, for its mark.
    rw [or_iff_right (Numeral.not_denotes_of_afterHexMark? (by decide) hmark), hmarked,
      ← Numeral.map_ofNat_unsigned?_eq_some_iff (by decide)]
    dsimp only
    cases Numeral.unsigned? 16 UInt64.size digits with
    | none => simp
    | some n => simp

/-- The version that a text gives is the one that it spells, and the empty text gives none. -/
theorem givenVersion_eq_ok_iff (text : String) (given : Option Version) :
    givenVersion text = .ok given ↔ text = "" ∧ given = none ∨
      ∃ v, given = some v ∧ v.Spells Numeral.Denotes text := by
  simp only [← Version.ofString_eq_ok_iff]
  unfold givenVersion
  split
  · -- The empty text spells no version.
    rename_i hempty
    subst hempty
    have hnone : ∀ v, Version.ofString "" ≠ .ok v := nofun
    simp only [hnone, and_false, exists_false, or_false, true_and, Except.ok.injEq]
    exact eq_comm
  · rename_i hne
    simp only [hne, false_and, false_or]
    cases Version.ofString text with
    | error e => simp
    | ok v => simp [eq_comm]

/-- The address that a text gives is the one that it spells, and none for zero. -/
theorem givenAddress_eq_ok_iff (text : String) (given : Option UInt64) :
    givenAddress text = .ok given ↔
      ∃ a, AddressSpells Numeral.Denotes text a ∧ given = if a = 0 then none else some a := by
  simp only [← addressOfString_eq_ok_iff]
  unfold givenAddress
  cases addressOfString text with
  | error e => simp
  | ok a =>
    simp only [Except.ok.injEq, exists_eq_left']
    exact eq_comm

/-- A setting takes the texts that spell a value of it, where numerals may have a plus sign in
front. -/
theorem Setting.read_eq_ok_iff (s : Setting) (text : String) (v : s.Value) :
    s.read text = .ok v ↔ s.Spells Numeral.Denotes text v := by
  cases s with
  | resolutionMode => exact ResolutionMode.ofString_eq_ok_iff text v
  | glibc => exact givenVersion_eq_ok_iff text v
  | exceptionVerbose => exact switchOfString_eq_ok_iff text v
  | exceptionDebugger => exact switchOfString_eq_ok_iff text v
  | address symbol => exact givenAddress_eq_ok_iff text v

/-! ## What is documented is what is spelled without a plus sign -/

/-- A text whose word is free of plus signs has none in it. -/
theorem not_mem_plus_of_lowered {text word : String} (h : lowered text = word)
    (hword : '+' ∉ word.toList) : '+' ∉ text.toList := by
  intro hplus
  refine hword ?_
  rw [← h, lowered, String.toList_ofList]
  exact List.mem_map_of_mem hplus

/-- The words for modes have no plus sign in them. -/
theorem ResolutionMode.Spells.not_mem_plus {text : String} {mode : ResolutionMode}
    (h : mode.Spells text) : '+' ∉ text.toList := by
  cases mode with
  | auto => exact not_mem_plus_of_lowered h (by decide)
  | force => exact not_mem_plus_of_lowered h (by decide)

/-- The words for Booleans have no plus sign in them. -/
theorem SwitchSpells.not_mem_plus {text : String} {b : Bool} (h : SwitchSpells text b) :
    '+' ∉ text.toList := by
  have hwords : ∀ word ∈ ["on", "1", "yes", "true", "enable"] ++
      ["off", "0", "no", "false", "disable"], '+' ∉ word.toList := by decide
  refine not_mem_plus_of_lowered rfl (hwords _ ?_)
  cases b with
  | true => exact List.mem_append_left _ h
  | false => exact List.mem_append_right _ h

/-- Versions of plain numerals have no plus sign in them. -/
theorem Version.Spells.not_mem_plus {text : String} {v : Version}
    (h : v.Spells Numeral.Plain text) : '+' ∉ text.toList := by
  obtain ⟨major, minor, htext, hmajor, hminor⟩ := h
  rw [← Text.mem_trim rfl, htext, List.mem_append, List.mem_cons]
  rintro (hplus | hpoint | hplus)
  · exact hmajor.not_mem_plus (by decide) hplus
  · cases hpoint
  · exact hminor.not_mem_plus (by decide) hplus

/-- Addresses of plain numerals have no plus sign in them. -/
theorem AddressSpells.not_mem_plus {text : String} {a : UInt64}
    (h : AddressSpells Numeral.Plain text a) : '+' ∉ text.toList := by
  rw [← Text.mem_trim rfl]
  obtain hdecimal | ⟨x, digits, hx, htext, hdigits⟩ := h
  · exact hdecimal.not_mem_plus (by decide)
  · rw [htext, List.mem_cons, List.mem_cons]
    rintro (hzero | hletter | hplus)
    · cases hzero
    · rcases hx with rfl | rfl <;> cases hletter
    · exact hdigits.not_mem_plus (by decide) hplus

/-- What is spelled with numerals of one syntax is spelled with those of another, if the numerals
within the text are numerals of both. -/
theorem Setting.Spells.imp {numeral numeral' : NumeralSyntax} {s : Setting} {text : String}
    {v : s.Value} (hnumeral : ∀ base bound cs n, (∀ c ∈ cs, c ∈ text.toList) →
      numeral base bound cs n → numeral' base bound cs n)
    (h : s.Spells numeral text v) : s.Spells numeral' text v := by
  have htrim : ∀ c ∈ Text.trim text.toList, c ∈ text.toList := fun c hc =>
    (Text.trimStart_suffix _).subset ((Text.trimEnd_isPrefix _).subset hc)
  cases s with
  | resolutionMode => exact h
  | glibc =>
    refine Or.imp_right ?_ h
    rintro ⟨v, hv, major, minor, hcut, hmajor, hminor⟩
    rw [hcut] at htrim
    refine ⟨v, hv, major, minor, hcut, hnumeral _ _ _ _ (fun c hc => htrim c ?_) hmajor,
      hnumeral _ _ _ _ (fun c hc => htrim c ?_) hminor⟩
    · exact List.mem_append_left _ hc
    · exact List.mem_append_right _ (List.mem_cons_of_mem _ hc)
  | exceptionVerbose => exact h
  | exceptionDebugger => exact h
  | address symbol =>
    obtain ⟨a, ha, hgiven⟩ := h
    refine ⟨a, ?_, hgiven⟩
    obtain hdecimal | ⟨x, digits, hx, hmark, hdigits⟩ := ha
    · exact .inl (hnumeral _ _ _ _ htrim hdecimal)
    · rw [hmark] at htrim
      refine .inr ⟨x, digits, hx, hmark, hnumeral _ _ _ _ (fun c hc => htrim c ?_) hdigits⟩
      exact List.mem_cons_of_mem _ (List.mem_cons_of_mem _ hc)

/-- A value is documented exactly if it is spelled and has no plus sign in it. -/
theorem Setting.documents_iff (s : Setting) (text : String) (v : s.Value) :
    s.Documents text v ↔ s.Spells Numeral.Denotes text v ∧ '+' ∉ text.toList := by
  constructor
  · intro h
    refine ⟨h.imp fun base bound cs n _ hn => (Numeral.denotes_iff base bound cs n).2 (.inl hn), ?_⟩
    cases s with
    | resolutionMode => exact ResolutionMode.Spells.not_mem_plus h
    | glibc =>
      obtain ⟨rfl, -⟩ | ⟨version, -, hversion⟩ := h
      · exact List.not_mem_nil
      · exact hversion.not_mem_plus
    | exceptionVerbose => exact SwitchSpells.not_mem_plus h
    | exceptionDebugger => exact SwitchSpells.not_mem_plus h
    | address symbol =>
      obtain ⟨a, ha, -⟩ := h
      exact ha.not_mem_plus
  · rintro ⟨h, hplus⟩
    exact h.imp fun base bound cs n hcs hn =>
      (Numeral.denotes_iff_plain fun hmem => hplus (hcs '+' hmem)).1 hn

/-! ## Requests -/

/-- A request is accepted exactly if its value is spelled for the setting that it names, and then
that value is put. -/
theorem Config.set_eq_ok_iff (c : Config) (name value : String) (c' : Config) :
    c.set name value = .ok c' ↔
      ∃ s v, s.name = name ∧ s.Spells Numeral.Denotes value v ∧ c' = c.put s v := by
  rw [set_eq]
  constructor
  · intro h
    cases hrequested : Change.requested name value with
    | error e =>
      rw [hrequested] at h
      cases h
    | ok change =>
      obtain ⟨s, v⟩ := change
      rw [hrequested] at h
      obtain rfl := Except.ok.inj h
      obtain rfl := Change.name_of_requested hrequested
      refine ⟨s, v, rfl, (s.read_eq_ok_iff value v).1 ?_, rfl⟩
      cases hread : s.read value with
      | error reason =>
        rw [Change.requested_name_error hread] at hrequested
        cases hrequested
      | ok w =>
        rw [Change.requested_name hread] at hrequested
        cases hrequested
        rfl
  · rintro ⟨s, v, rfl, hspelled, rfl⟩
    rw [Change.requested_name ((s.read_eq_ok_iff value v).2 hspelled)]
    rfl

/-- A request under a name that no setting has is refused for the name. -/
theorem Config.set_of_unknown (c : Config) {name : String} (value : String)
    (h : ∀ s : Setting, s.name ≠ name) : c.set name value = .error (.unknownSetting name) := by
  have hnone : Setting.named? name = none := by
    rw [Option.eq_none_iff_forall_ne_some]
    intro s hs
    exact h s ((Setting.named?_eq_some_iff name s).1 hs)
  rw [set, hnone]

/-- A request whose value is not spelled for the setting that it names is refused for the value. -/
theorem Config.set_of_not_spelled (c : Config) {s : Setting} {value : String}
    (h : ∀ v, ¬s.Spells Numeral.Denotes value v) :
    ∃ reason, c.set s.name value = .error (.invalidValue s.name value reason) := by
  cases hread : s.read value with
  | ok v => exact absurd ((s.read_eq_ok_iff value v).1 hread) (h v)
  | error reason =>
    refine ⟨reason, ?_⟩
    rw [set_eq, Change.requested_name_error hread]
    rfl

/-- A request is accepted exactly if its value is documented for the setting that it names, and then
the documented value is put, unless a value with a plus sign in it is accepted. What is accepted in
general are the values that are spelled where a numeral may have a plus sign in front. They are
documented exactly if they have none. Every other request is refused, for the name if no setting has
it, else for the value. -/
theorem Config.settings_take_what_they_document (c : Config) (name value : String) :
    ((∀ c', c.set name value = .ok c' ↔
        ∃ s v, s.name = name ∧ s.Documents value v ∧ c' = c.put s v) ↔
      ('+' ∈ value.toList → ∀ c', c.set name value ≠ .ok c')) ∧
    (∀ c', c.set name value = .ok c' ↔
      ∃ s v, s.name = name ∧ s.Spells Numeral.Denotes value v ∧ c' = c.put s v) ∧
    (∀ (s : Setting) v, s.Documents value v ↔
      s.Spells Numeral.Denotes value v ∧ '+' ∉ value.toList) ∧
    ((∀ s : Setting, s.name ≠ name) → c.set name value = .error (.unknownSetting name)) ∧
    ∀ s : Setting, s.name = name → (∀ v, ¬s.Spells Numeral.Denotes value v) →
      ∃ reason, c.set name value = .error (.invalidValue name value reason) := by
  refine ⟨⟨?_, ?_⟩, c.set_eq_ok_iff name value, fun s => s.documents_iff value,
    c.set_of_unknown value, ?_⟩
  · intro hdocumented hplus c' hset
    obtain ⟨s, v, -, hv, -⟩ := (hdocumented c').1 hset
    exact ((s.documents_iff value v).1 hv).2 hplus
  · intro hrefused c'
    constructor
    · intro hset
      have hplus : '+' ∉ value.toList := fun hplus => hrefused hplus c' hset
      obtain ⟨s, v, hname, hv, hput⟩ := (c.set_eq_ok_iff name value c').1 hset
      exact ⟨s, v, hname, (s.documents_iff value v).2 ⟨hv, hplus⟩, hput⟩
    · rintro ⟨s, v, hname, hv, hput⟩
      exact (c.set_eq_ok_iff name value c').2
        ⟨s, v, hname, ((s.documents_iff value v).1 hv).1, hput⟩
  · rintro s rfl hnone
    exact c.set_of_not_spelled hnone

/-- A plus sign in front of a number is taken, in a version and behind the mark of an address, and
no value is documented that has one. -/
theorem Config.signed_values_are_taken :
    (({} : Config).set "glibc" "+2.31" = .ok (({} : Config).put .glibc (some ⟨2, 31⟩)) ∧
      ∀ v, ¬Setting.glibc.Documents "+2.31" v) ∧
    (({} : Config).set "main-arena" "0x+10" =
        .ok (({} : Config).put (.address .mainArena) (some (16 : UInt64))) ∧
      ∀ v, ¬(Setting.address .mainArena).Documents "0x+10" v) := by
  have hplus (s : Setting) (text : String) (h : '+' ∈ text.toList) (v : s.Value) :
      ¬s.Documents text v := fun hv => ((s.documents_iff text v).1 hv).2 h
  exact ⟨⟨by cbv, hplus _ _ (by decide)⟩, ⟨by cbv, hplus _ _ (by decide)⟩⟩

end DebugShell
