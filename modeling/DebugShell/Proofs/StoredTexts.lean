import DebugShell.Json.Tree
import DebugShell.Program
import DebugShell.Proofs.RecordTexts
import DebugShell.Proofs.StoredForms

/-!
# Stored forms are read back from their texts

Settings and descriptions of targets are kept in files, as texts of their JSON forms. Their decoders
read texts as they decode values (`Config.decoder_readsAlike`, `Target.decoder_readsAlike`), so what
holds of the forms holds of the files: from any text of a form, with any spaces and any spellings of
its characters, and also where fields are left out, the program loads the value that the form is of.
The forms do have texts (`HasText`): the one that is written without spaces is one of them.
-/

namespace DebugShell

namespace Json

/-! ## Values by their own texts -/

/-- The number of a control character, in four digits. -/
theorem writes_controlNumber {n : Nat} (h : n < 32) :
    (Text.padLeftWith '0' 4 (Nat.toDigits 16 n)).length = 4 ∧
      Numeral.Writes 16 (Text.padLeftWith '0' 4 (Nat.toDigits 16 n)) n := by
  have hdigits : ∀ n < 32, (Text.padLeftWith '0' 4 (Nat.toDigits 16 n)).length = 4 ∧
      Numeral.digits? 16 (Text.padLeftWith '0' 4 (Nat.toDigits 16 n)) = some n := by decide
  exact ⟨(hdigits n h).1, (Numeral.digits?_eq_some_iff (by decide) _ n).1 (hdigits n h).2⟩

/-- A character is spelled by what stands for it in a quoted text. -/
theorem spellsChar_quotedChar (c : Char) : SpellsChar c (quotedChar c).toList := by
  unfold quotedChar
  split_ifs with hquote hslash hfeed hreturn htab hcontrol
  · subst hquote
    exact .letter rfl
  · subst hslash
    exact .letter rfl
  · subst hfeed
    exact .letter rfl
  · subst hreturn
    exact .letter rfl
  · subst htab
    exact .letter rfl
  · have hlt : c.toNat < 32 := hcontrol
    obtain ⟨hlength, hnumber⟩ := writes_controlNumber hlt
    have hspells := SpellsChar.number hlength hnumber (by omega)
    rw [Char.ofNat_toNat] at hspells
    rw [String.toList_append, String.toList_ofList, String.toList_ofList]
    exact hspells
  · rw [Char.toString, String.toList_singleton]
    exact .plain hquote hslash hcontrol

/-- A text is spelled character by character. -/
theorem quotes_flatMap (cs : List Char) :
    Quotes cs (cs.flatMap fun c => (quotedChar c).toList) := by
  induction cs with
  | nil => exact .nil
  | cons c cs ih => exact .cons (spellsChar_quotedChar c) ih

/-- A quoted text has its characters between quotes. -/
theorem toList_quotedText (text : String) : (quotedText text).toList =
    '"' :: (text.toList.flatMap (fun c => (quotedChar c).toList) ++ ['"']) := by
  rw [quotedText, String.toList_append, String.toList_append, String.toList_join, List.flatMap_map]
  rfl

/-- The text of the value writes it. -/
def HasText (json : Json) : Prop :=
  Writes json json.text.toList

/-- What writes a value is a text of it. -/
theorem HasText.isTextOf {json : Json} (h : HasText json) : IsTextOf json.text json :=
  ⟨[], json.text.toList, [], spaces_nil, h, spaces_nil, (List.append_nil _).symm⟩

theorem hasText_null : HasText .null := .null

theorem hasText_bool (b : Bool) : HasText (.bool b) := by
  cases b
  · exact .false
  · exact .true

theorem hasText_integer (value : Int) : HasText (.integer value) :=
  .integer value

theorem hasText_string (text : String) : HasText (.string text) := by
  rw [HasText, Json.text, toList_quotedText]
  exact .string (quotes_flatMap text.toList)

/-- Items are written with commas between them. -/
theorem writesItems_intercalate {first : Bool} {gap : List Char} (hgap : Gap first gap)
    {items : List Json} (hitems : ∀ item ∈ items, HasText item) (hne : items ≠ []) :
    WritesItems first items (gap ++ [','].intercalate (items.map (·.text.toList))) := by
  induction items generalizing first gap with
  | nil => exact absurd rfl hne
  | cons json items ih =>
    have hjson : HasText json := hitems json List.mem_cons_self
    have hrest : ∀ item ∈ items, HasText item := fun j hj => hitems j (List.mem_cons_of_mem _ hj)
    cases items with
    | nil =>
      have hlast := WritesItems.cons hgap hjson (.nil spaces_nil)
      rw [List.append_nil] at hlast
      rw [List.map_cons, List.map_nil, List.intercalate_singleton]
      exact hlast
    | cons item items =>
      have hmore := ih (.comma spaces_nil spaces_nil) hrest (List.cons_ne_nil _ _)
      rw [List.map_cons, List.map_cons, List.intercalate_cons_cons, List.append_assoc]
      exact .cons hgap hjson hmore

/-- Entries are written with commas between them. -/
theorem writesEntries_intercalate {first : Bool} {gap : List Char} (hgap : Gap first gap)
    {entries : List (String × Json)} (hentries : ∀ entry ∈ entries, HasText entry.2)
    (hne : entries ≠ []) : WritesEntries first entries (gap ++ [','].intercalate
      (entries.map fun entry => (quotedText entry.1 ++ ":" ++ entry.2.text).toList)) := by
  induction entries generalizing first gap with
  | nil => exact absurd rfl hne
  | cons entry entries ih =>
    obtain ⟨name, json⟩ := entry
    have hjson : HasText json := hentries (name, json) List.mem_cons_self
    have hrest : ∀ entry ∈ entries, HasText entry.2 :=
      fun e he => hentries e (List.mem_cons_of_mem _ he)
    have hname := quotes_flatMap name.toList
    have hentry : (quotedText name ++ ":" ++ json.text).toList =
        '"' :: (name.toList.flatMap (fun c => (quotedChar c).toList) ++
          '"' :: ':' :: json.text.toList) := by
      rw [String.toList_append, String.toList_append, toList_quotedText]
      simp
    cases entries with
    | nil =>
      have hlast := WritesEntries.cons hgap hname spaces_nil spaces_nil hjson (.nil spaces_nil)
      rw [List.append_nil] at hlast
      rw [List.map_cons, List.map_nil, List.intercalate_singleton, hentry]
      exact hlast
    | cons entry entries =>
      have hmore := ih (.comma spaces_nil spaces_nil) hrest (List.cons_ne_nil _ _)
      have hcons := WritesEntries.cons hgap hname spaces_nil spaces_nil hjson hmore
      rw [List.map_cons, List.map_cons, List.intercalate_cons_cons, hentry]
      simpa using hcons

/-- The texts of the items are those that the text of a list is made of. -/
theorem itemTexts_eq_map (items : List Json) : itemTexts items = items.map text := by
  induction items with
  | nil => rfl
  | cons item items ih => rw [itemTexts, ih, List.map_cons]

/-- The texts of the entries are those that the text of an object is made of. -/
theorem entryTexts_eq_map (entries : List (String × Json)) :
    entryTexts entries = entries.map fun entry => quotedText entry.1 ++ ":" ++ entry.2.text := by
  induction entries with
  | nil => rfl
  | cons entry entries ih => rw [entryTexts, ih, List.map_cons]

theorem hasText_list {items : List Json} (h : ∀ item ∈ items, HasText item) :
    HasText (.list items) := by
  have htext : (Json.list items).text.toList =
      '[' :: ([','].intercalate (items.map (·.text.toList)) ++ [']']) := by
    rw [text, String.toList_append, String.toList_append, String.toList_intercalate,
      itemTexts_eq_map, List.map_map]
    rfl
  rw [HasText, htext]
  by_cases hne : items = []
  · subst hne
    exact .list (.nil spaces_nil)
  · exact .list (writesItems_intercalate (.first spaces_nil) h hne)

theorem hasText_object {entries : List (String × Json)} (hnames : (entries.map (·.1)).Nodup)
    (h : ∀ entry ∈ entries, HasText entry.2) : HasText (.object entries) := by
  have htext : (Json.object entries).text.toList = '{' :: ([','].intercalate
      (entries.map fun entry => (quotedText entry.1 ++ ":" ++ entry.2.text).toList) ++ ['}']) := by
    rw [text, String.toList_append, String.toList_append, String.toList_intercalate,
      entryTexts_eq_map, List.map_map]
    rfl
  rw [HasText, htext]
  by_cases hne : entries = []
  · subst hne
    exact .object hnames (.nil spaces_nil)
  · exact .object hnames (writesEntries_intercalate (.first spaces_nil) h hne)

/-- An object has a text also without some of its entries. -/
theorem hasText_without {entries : List (String × Json)} (hnames : (entries.map (·.1)).Nodup)
    (h : ∀ entry ∈ entries, HasText entry.2) (removed : List String) :
    HasText ((Json.object entries).without removed) :=
  hasText_object (hnames.sublist (List.filter_sublist.map _))
    fun entry hentry => h entry (List.mem_of_mem_filter hentry)

theorem hasText_ofOption {α : Type} {form : α → Json} (h : ∀ a, HasText (form a))
    (value : Option α) : HasText (ofOption form value) := by
  cases value with
  | none => exact hasText_null
  | some a => exact h a

end Json

open Json Json.Decoder

/-- The names of a map are distinct, so it has a text. -/
theorem NameMap.hasText_toJson {α : Type} {form : α → Json} (h : ∀ a, HasText (form a))
    (m : NameMap α) : HasText (m.toJson form) := by
  refine hasText_object ?_ fun entry hentry => ?_
  · rw [List.map_map]
    exact List.pairwise_map.2 (m.sorted.imp String.ne_of_lt)
  · obtain ⟨e, -, rfl⟩ := List.mem_map.1 hentry
    exact h e.2

/-! ## Settings -/

theorem ResolutionMode.decoder_readsAlike : decoder.ReadsAlike :=
  oneOf_readsAlike storedNames

theorem Version.decoder_readsAlike : decoder.ReadsAlike :=
  string_readsAlike.refine _

namespace Config

/-- The fields of settings are read as they are decoded. -/
theorem fields_readAlike : ∀ field ∈ layout.fields, field.decoder.ReadsAlike := by
  simp only [layout, List.forall_mem_cons]
  exact ⟨ResolutionMode.decoder_readsAlike.map _, Version.decoder_readsAlike.optional.map _,
    bool_readsAlike.map _, bool_readsAlike.map _, uint64_readsAlike.nameMap.map _, nofun⟩

/-- The order in which settings are set does not matter. -/
theorem fields_commute : layout.fields.Pairwise Field.Commutes := by
  simp only [layout, List.pairwise_cons, List.forall_mem_cons, List.not_mem_nil,
    IsEmpty.forall_iff, implies_true, List.Pairwise.nil, and_true]
  and_intros
  all_goals exact Field.commutes_of fun _ _ _ => rfl

/-- Settings are read from a text as they are decoded. -/
theorem decoder_readsAlike : decoder.ReadsAlike :=
  Layout.readsAlike fields_readAlike (by decide) fields_commute

/-- What is left of the form of settings has a text. -/
theorem hasText_toJson (c : Config) (removed : List String) :
    HasText (c.toJson.without removed) := by
  have hnames : (layout.fields.map (·.name)).Nodup := by decide
  refine hasText_without ?_ ?_ removed
  · exact hnames
  · simp only [List.forall_mem_cons]
    exact ⟨hasText_string _, hasText_ofOption (fun v => hasText_string _) _, hasText_bool _,
      hasText_bool _, NameMap.hasText_toJson (fun word => hasText_integer _) _, nofun⟩

/-- Settings are read back from the text of what is left of their form. -/
theorem ofText_text (c : Config) (removed : List String) :
    decoder.ofText (c.toJson.without removed).text = .ok (c.withDefaults removed) :=
  decoder_readsAlike.ofText_eq_ok (c.hasText_toJson removed).isTextOf (c.ofJson?_without removed)

end Config

/-! ## Descriptions of targets -/

namespace Session

/-- The fields of a session are read as they are decoded. -/
theorem fields_readAlike : ∀ field ∈ layout.fields, field.decoder.ReadsAlike := by
  simp only [layout, List.forall_mem_cons]
  exact ⟨bool_readsAlike.map _, bool_readsAlike.map _, string_readsAlike.map _,
    bool_readsAlike.map _, bool_readsAlike.map _, bool_readsAlike.map _, bool_readsAlike.map _,
    bool_readsAlike.map _, bool_readsAlike.map _, nofun⟩

/-- The order in which the fields of a session are set does not matter. -/
theorem fields_commute : layout.fields.Pairwise Field.Commutes := by
  simp only [layout, List.pairwise_cons, List.forall_mem_cons, List.not_mem_nil,
    IsEmpty.forall_iff, implies_true, List.Pairwise.nil, and_true]
  and_intros
  all_goals exact Field.commutes_of fun _ _ _ => rfl

/-- A session is read from a text as it is decoded. -/
theorem decoder_readsAlike : decoder.ReadsAlike :=
  Layout.readsAlike fields_readAlike (by decide) fields_commute

/-- What is left of the form of a session has a text. -/
theorem hasText_toJson (s : Session) (removed : List String) :
    HasText (s.toJson.without removed) := by
  have hnames : (layout.fields.map (·.name)).Nodup := by decide
  refine hasText_without ?_ ?_ removed
  · exact hnames
  · simp only [List.forall_mem_cons]
    exact ⟨hasText_bool _, hasText_bool _, hasText_string _, hasText_bool _, hasText_bool _,
      hasText_bool _, hasText_bool _, hasText_bool _, hasText_bool _, nofun⟩

end Session

namespace CallSite

/-- A call site is read from a text as it is decoded. -/
theorem decoder_readsAlike : decoder.ReadsAlike := by
  refine Layout.readsAlike ?_ (by decide) ?_
  · simp only [layout, List.forall_mem_cons]
    exact ⟨uint64_readsAlike.map _, string_readsAlike.map _, nofun⟩
  · simp only [layout, List.pairwise_cons, List.forall_mem_cons, List.not_mem_nil,
      IsEmpty.forall_iff, implies_true, List.Pairwise.nil, and_true]
    exact Field.commutes_of fun _ _ _ => rfl

/-- The form of a call site has a text. -/
theorem hasText_toJson (s : CallSite) : HasText s.toJson := by
  refine hasText_object (show ["address", "callee"].Nodup by decide) ?_
  simp only [List.forall_mem_cons]
  exact ⟨hasText_integer _, hasText_string _, nofun⟩

end CallSite

namespace Target

/-- The fields of a description are read as they are decoded. -/
theorem fields_readAlike : ∀ field ∈ layout.fields, field.decoder.ReadsAlike := by
  simp only [layout, List.forall_mem_cons]
  exact ⟨Session.decoder_readsAlike.map _, uint64_readsAlike.nameMap.map _,
    uint64_readsAlike.nameMap.map _, uint64_readsAlike.nameMap.map _,
    string_readsAlike.list.map _, Version.decoder_readsAlike.optional.map _,
    string_readsAlike.optional.map _, string_readsAlike.optional.map _,
    string_readsAlike.nameMap.map _, CallSite.decoder_readsAlike.list.map _, nofun⟩

/-- The order in which the fields of a description are set does not matter. -/
theorem fields_commute : layout.fields.Pairwise Field.Commutes := by
  simp only [layout, List.pairwise_cons, List.forall_mem_cons, List.not_mem_nil,
    IsEmpty.forall_iff, implies_true, List.Pairwise.nil, and_true]
  and_intros
  all_goals exact Field.commutes_of fun _ _ _ => rfl

/-- A description is read from a text as it is decoded. -/
theorem decoder_readsAlike : decoder.ReadsAlike :=
  Layout.readsAlike fields_readAlike (by decide) fields_commute

/-- What is left of the form of a description has a text. -/
theorem hasText_toJson (t : Target) (removed removedOfSession : List String) :
    HasText ((t.toJson.mapEntry "session" (·.without removedOfSession)).without removed) := by
  have hnames : (layout.fields.map (·.name)).Nodup := by decide
  rw [mapEntry_session]
  refine hasText_without ?_ ?_ removed
  · exact hnames
  · have hwords (m : NameMap UInt64) : HasText (m.toJson wordJson) :=
      m.hasText_toJson fun word => hasText_integer _
    have htext (text : Option String) : HasText (ofOption .string text) :=
      hasText_ofOption hasText_string text
    simp only [parts, List.map_cons, List.forall_mem_cons]
    refine ⟨t.session.hasText_toJson removedOfSession, hwords _, hwords _, hwords _,
      hasText_list fun item hitem => ?_, hasText_ofOption (fun v => hasText_string _) _, htext _,
      htext _, t.decompiled.hasText_toJson hasText_string, hasText_list fun item hitem => ?_, nofun⟩
    · obtain ⟨text, -, rfl⟩ := List.mem_map.1 hitem
      exact hasText_string text
    · obtain ⟨site, -, rfl⟩ := List.mem_map.1 hitem
      exact site.hasText_toJson

/-- A description is read back from the text of what is left of its form. -/
theorem ofText_text (t : Target) (removed removedOfSession : List String) :
    decoder.ofText
        ((t.toJson.mapEntry "session" (·.without removedOfSession)).without removed).text =
      .ok (t.withDefaults removed removedOfSession) :=
  decoder_readsAlike.ofText_eq_ok (t.hasText_toJson removed removedOfSession).isTextOf
    (t.ofJson?_without removed removedOfSession)

end Target

/-! ## Files -/

namespace Program

/-- Settings are loaded from a file in which their form is written, whole or without some fields. -/
theorem loadConfig_of_isTextOf (s : Surroundings) {path text : String}
    (hfile : s.fileText path = .ok text) (c : Config) (removed : List String)
    (htext : IsTextOf text (c.toJson.without removed)) :
    loadConfig s (some path) = .ok (c.withDefaults removed) := by
  have hread := Config.decoder_readsAlike.ofText_eq_ok htext (c.ofJson?_without removed)
  rw [loadConfig, hfile]
  dsimp only
  rw [hread]
  rfl

/-- The description of a target is loaded from a file in which its form is written, whole or without
some fields, of its session as well. -/
theorem loadTarget_of_isTextOf (s : Surroundings) {path text : String}
    (hfile : s.fileText path = .ok text) (t : Target) (removed removedOfSession : List String)
    (htext : IsTextOf text
      ((t.toJson.mapEntry "session" (·.without removedOfSession)).without removed)) :
    loadTarget s (some path) = .ok (t.withDefaults removed removedOfSession) := by
  have hread := Target.decoder_readsAlike.ofText_eq_ok htext
    (t.ofJson?_without removed removedOfSession)
  rw [loadTarget, hfile]
  dsimp only
  rw [hread]

end Program

end DebugShell
