import DebugShell.Config.Stored
import DebugShell.Proofs.NameMap
import DebugShell.Proofs.ValueTexts

/-!
# Decoders take back what was encoded

`Decoder.TakesBack` says of a decoder and of a way to write values in JSON that each written value
is decoded as itself. It holds of the simple forms, and it is handed on to options, lists and maps
from names.

A record is decoded field by field, and a field that the object lacks keeps what the record starts
with. So what is decoded from an object that holds some of the fields is told by a fold over the
fields, each of which sets its own value or nothing (`Layout.ofJson?_without`). A `RecordPart` is
what this needs to know of a field: the value that its entry is decoded as, and that setting a field
to its own value changes nothing.
-/

namespace DebugShell.Json

/-! ## Objects without some of their entries -/

/-- An object without the entries of some names. -/
def without (json : Json) (names : List String) : Json :=
  match json with
  | .object entries => .object (entries.filter fun e => e.1 ∉ names)
  | other => other

/-- An object with the values of one name changed. -/
def mapEntry (json : Json) (name : String) (f : Json → Json) : Json :=
  match json with
  | .object entries => .object (entries.map fun e => if e.1 = name then (e.1, f e.2) else e)
  | other => other

/-- Taking no name out changes nothing. -/
theorem without_nil (json : Json) : json.without [] = json := by
  cases json with
  | object entries => simp [without]
  | null | bool _ | integer _ | decimal _ | string _ | list _ => rfl

/-- Looking a name up after some names were taken out. -/
theorem lookup_without (names : List String) (entries : List (String × Json)) (name : String) :
    (entries.filter fun e => e.1 ∉ names).lookup name =
      if name ∈ names then none else entries.lookup name := by
  induction entries with
  | nil => simp
  | cons head rest ih =>
    obtain ⟨n, json⟩ := head
    by_cases hn : n ∈ names
    · rw [List.filter_cons_of_neg (by simpa using hn), ih]
      by_cases hname : name ∈ names
      · rw [if_pos hname, if_pos hname]
      · have hne : (name == n) = false := by
          rw [beq_eq_false_iff_ne]
          exact fun heq => hname (heq ▸ hn)
        rw [if_neg hname, if_neg hname, List.lookup_cons, hne]
    · rw [List.filter_cons_of_pos (by simpa using hn), List.lookup_cons, List.lookup_cons, ih]
      by_cases heq : name = n
      · subst heq
        simp [hn]
      · have hne : (name == n) = false := by simpa using heq
        rw [hne]

/-! ## Values -/

namespace Decoder

variable {α : Type} {d : Decoder α} {form : α → Json}

/-- The decoder takes what is written for a value as that value. -/
def TakesBack (d : Decoder α) (form : α → Json) : Prop :=
  ∀ a, d.ofJson? (form a) = some a

/-- Decoding a list item by item takes each item back. -/
theorem TakesBack.mapM (h : d.TakesBack form) (as : List α) :
    (as.map form).mapM d.ofJson? = some as := by
  induction as with
  | nil => rfl
  | cons a as ih =>
    rw [List.map_cons, List.mapM_cons, h a, ih]
    rfl

theorem bool_takesBack : bool.TakesBack .bool :=
  fun _ => rfl

theorem string_takesBack : string.TakesBack .string :=
  fun _ => rfl

/-- Every word is in the range of words. -/
theorem uint64?_toNat (word : UInt64) : uint64? word.toNat = some word := by
  have hrange : 0 ≤ (word.toNat : Int) ∧ (word.toNat : Int) < UInt64.size :=
    ⟨Int.natCast_nonneg _, Int.ofNat_lt.2 word.toNat_lt_size⟩
  rw [uint64?, if_pos hrange, Int.toNat_natCast, UInt64.ofNat_toNat]

theorem uint64_takesBack : uint64.TakesBack wordJson := by
  intro word
  simp only [wordJson, uint64, uint64?_toNat]

/-- An absent value and a present one are told apart if no present value is written as absent. -/
theorem TakesBack.optional (h : d.TakesBack form) (hnull : ∀ a, form a ≠ .null) :
    d.optional.TakesBack (.ofOption form) := by
  intro value
  cases value with
  | none => rfl
  | some a =>
    have hread : d.optional.ofJson? (form a) = (d.ofJson? (form a)).map some := by
      cases hform : form a with
      | null => exact absurd hform (hnull a)
      | bool _ | integer _ | decimal _ | string _ | list _ | object _ => rfl
    change d.optional.ofJson? (form a) = _
    rw [hread, h a, Option.map_some]

/-- Values that are written as others are read back from these. -/
theorem TakesBack.refine {β : Type} (h : d.TakesBack form) {parse : α → Except String β}
    {write : β → α} (hparse : ∀ b, parse (write b) = .ok b) :
    (d.refine parse).TakesBack fun b => form (write b) := by
  intro b
  change ((d.ofJson? (form (write b))).bind fun a => (parse a).toOption) = some b
  rw [h, Option.bind_some, hparse]
  rfl

theorem TakesBack.list (h : d.TakesBack form) :
    d.list.TakesBack fun as => .list (as.map form) :=
  h.mapM

/-- A map is written by its listing, and is the map of that listing. -/
theorem TakesBack.nameMap (h : d.TakesBack form) : d.nameMap.TakesBack (NameMap.toJson form) := by
  intro m
  have hentries (entries : List (String × α)) :
      ((entries.map fun e => (e.1, form e.2)).mapM fun e =>
        (d.ofJson? e.2).map fun a => (e.1, a)) = some entries := by
    induction entries with
    | nil => rfl
    | cons head rest ih =>
      rw [List.map_cons, List.mapM_cons, h head.2, ih]
      rfl
  -- The entries come back in the order of the listing, in which no name stands twice.
  change Option.map NameMap.ofList _ = some m
  rw [hentries, Option.map_some, NameMap.ofList_toList]

end Decoder

/-! ## Records -/

/-- A field of a record as it stands in an object: its entry there, and the value that the entry is
decoded as. -/
structure RecordPart (σ : Type) where
  /-- The name of the field. -/
  name : String
  /-- The values of the field. -/
  Value : Type
  /-- The decoder of its values. -/
  decoder : Decoder Value
  /-- The record with the field set. -/
  set : Value → σ → σ
  /-- The value of the field in a record. -/
  get : σ → Value
  /-- What stands in the object. -/
  json : Json
  /-- The value that this is decoded as. -/
  value : Value
  /-- Setting the field to its own value changes nothing. -/
  set_get : ∀ r, set (get r) r = r
  /-- What stands in the object is decoded as the value. -/
  decodes : decoder.ofJson? json = some value

namespace RecordPart

variable {σ : Type}

/-- The part that a field of a record makes, written in the form that its decoder takes back. -/
def stored {α : Type} {d : Decoder α} {form : α → Json} (h : d.TakesBack form) (name : String)
    (set : α → σ → σ) (get : σ → α) (set_get : ∀ r, set (get r) r = r) (r : σ) : RecordPart σ :=
  ⟨name, α, d, set, get, form (get r), get r, set_get, h (get r)⟩

/-- The field of the layout. -/
def field (p : RecordPart σ) : Field σ :=
  .of p.name p.decoder p.set

/-- The entry of the object. -/
def entry (p : RecordPart σ) : String × Json :=
  (p.name, p.json)

/-- The record with the field set, if the field is not among those that were taken out. -/
def fill (removed : List String) (r : σ) (p : RecordPart σ) : σ :=
  p.set (if p.name ∈ removed then p.get r else p.value) r

/-- In an object made of fields of different names, each field's entry is found. -/
theorem lookup_entries {parts : List (RecordPart σ)} (hnames : (parts.map name).Nodup)
    {p : RecordPart σ} (hp : p ∈ parts) : (parts.map entry).lookup p.name = some p.json := by
  induction parts with
  | nil => cases hp
  | cons head rest ih =>
    obtain ⟨hhead, hrest⟩ := List.nodup_cons.1 hnames
    rw [List.map_cons, entry, List.lookup_cons]
    rcases List.mem_cons.1 hp with rfl | hp
    · rw [beq_self_eq_true]
    · have hne : (p.name == head.name) = false := by
        rw [beq_eq_false_iff_ne]
        exact fun heq => hhead (List.mem_map.2 ⟨p, hp, heq⟩)
      rw [hne]
      exact ih hrest hp

/-- A field that was taken out is left as it is. -/
theorem fill_of_mem {removed : List String} {p : RecordPart σ} (h : p.name ∈ removed) (r : σ) :
    p.fill removed r = r := by
  rw [fill, if_pos h, p.set_get]

/-- Any other field gets its value. -/
theorem fill_of_not_mem {removed : List String} {p : RecordPart σ} (h : p.name ∉ removed) (r : σ) :
    p.fill removed r = p.set p.value r := by
  rw [fill, if_neg h]

end RecordPart

namespace Layout

variable {σ : Type} {layout : Layout σ} {removed : List String}

/-- One step of decoding: the entry of the first field is decoded, or the field passed over if it
was taken out. -/
theorem ofEntries?_cons {entries : List (String × Json)} {p : RecordPart σ}
    (hlookup : entries.lookup p.name = if p.name ∈ removed then none else some p.json)
    (hrequired : layout.required = true → removed = []) (fields : List (Field σ)) (r : σ) :
    layout.ofEntries? entries (p.field :: fields) r =
      layout.ofEntries? entries fields (p.fill removed r) := by
  have hname : p.field.name = p.name := rfl
  have hdecodes : p.field.decoder.ofJson? p.json = some (p.set p.value) := by
    change (p.decoder.ofJson? p.json).map p.set = _
    rw [p.decodes, Option.map_some]
  rw [ofEntries?, hname, hlookup]
  by_cases h : p.name ∈ removed
  · -- Something was taken out, so it is a record whose fields may be missing.
    have hoptional : layout.required ≠ true := by
      intro hreq
      rw [hrequired hreq] at h
      exact absurd h List.not_mem_nil
    rw [if_pos h, p.fill_of_mem h]
    exact if_neg hoptional
  · rw [if_neg h, p.fill_of_not_mem h]
    change Option.bind (p.field.decoder.ofJson? p.json) _ = _
    rw [hdecodes, Option.bind_some]

/-- Decoding the fields that are left sets those of them that were not taken out. -/
theorem ofEntries?_parts {entries : List (String × Json)} {left : List (RecordPart σ)}
    (hlookup : ∀ p ∈ left,
      entries.lookup p.name = if p.name ∈ removed then none else some p.json)
    (hrequired : layout.required = true → removed = []) (r : σ) :
    layout.ofEntries? entries (left.map RecordPart.field) r =
      some (left.foldl (RecordPart.fill removed) r) := by
  -- The record grows with each field, while the object that is decoded stays the same.
  induction left generalizing r with
  | nil => rfl
  | cons p left ih =>
    have hleft : ∀ q ∈ left,
        entries.lookup q.name = if q.name ∈ removed then none else some q.json :=
      fun q hq => hlookup q (List.mem_cons_of_mem _ hq)
    rw [List.map_cons, ofEntries?_cons (hlookup p List.mem_cons_self) hrequired]
    exact ih hleft (p.fill removed r)

/-- Decoding an object that holds all fields but those taken out. Records whose fields all have to
be given are decoded only if none was taken out. -/
theorem ofJson?_without (layout : Layout σ) (parts : List (RecordPart σ)) (removed : List String)
    (hfields : layout.fields = parts.map RecordPart.field)
    (hnames : (layout.fields.map (·.name)).Nodup)
    (hrequired : layout.required = true → removed = []) :
    layout.decoder.ofJson? ((object (parts.map RecordPart.entry)).without removed) =
      some (parts.foldl (RecordPart.fill removed) layout.initial) := by
  have hlookup : ∀ p ∈ parts,
      ((parts.map RecordPart.entry).filter fun e => e.1 ∉ removed).lookup p.name =
        if p.name ∈ removed then none else some p.json := by
    intro p hp
    rw [hfields, List.map_map] at hnames
    rw [lookup_without, RecordPart.lookup_entries hnames hp]
  change layout.ofEntries? _ layout.fields layout.initial = _
  rw [hfields]
  exact ofEntries?_parts hlookup hrequired layout.initial

end Layout

end DebugShell.Json
