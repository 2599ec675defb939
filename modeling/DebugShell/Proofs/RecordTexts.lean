import DebugShell.Proofs.ReadAlike

/-!
# Records are read as they are decoded

An object is decoded into a record in the order of the fields, and read in the order of its entries,
where an entry that is no field's is passed over. The two come to the same since fields that differ
change different parts of the record (`Field.Commutes`), so an entry may be decoded before all
others (`Layout.ofRest?_cons`). A list is decoded and read in the order of the fields.
-/

namespace DebugShell.Json

variable {α β σ : Type} {rest spaces : List Char}

/-! ## Fields -/

/-- Whatever two fields are set to, the order in which they are set does not matter. -/
def Field.Commutes (field field' : Field σ) : Prop :=
  ∀ ⦃json json' : Json⦄ ⦃update update' : σ → σ⦄, field.decoder.ofJson? json = some update →
    field'.decoder.ofJson? json' = some update' → ∀ s, update (update' s) = update' (update s)

/-- Fields commute if they change a record in ways that do. -/
theorem Field.commutes_of {name name' : String} {d : Decoder α} {d' : Decoder β}
    {change : α → σ → σ} {change' : β → σ → σ}
    (h : ∀ a b s, change a (change' b s) = change' b (change a s)) :
    (Field.of name d change).Commutes (.of name' d' change') := by
  intro json json' update update' hupdate hupdate' s
  obtain ⟨a, -, rfl⟩ := Option.map_eq_some_iff.1 hupdate
  obtain ⟨b, -, rfl⟩ := Option.map_eq_some_iff.1 hupdate'
  exact h a b s

namespace Layout

variable {layout : Layout σ}

/-! ## Objects, entry by entry -/

/-- A record with those fields set that the entries give which are left of an object, where some
fields have been given before. -/
def ofRest? (layout : Layout σ) (given : List String) (entries : List (String × Json)) :
    List (Field σ) → σ → Option σ
  | [], s => some s
  | field :: fields, s =>
    match entries.lookup field.name with
    | some json =>
      (field.decoder.ofJson? json).bind fun update =>
        layout.ofRest? given entries fields (update s)
    | none =>
      if layout.required ∧ field.name ∉ given then none
      else layout.ofRest? given entries fields s

/-- At first no fields have been given. -/
theorem ofRest?_nil (entries : List (String × Json)) (fields : List (Field σ)) (s : σ) :
    layout.ofRest? [] entries fields s = layout.ofEntries? entries fields s := by
  induction fields generalizing s with
  | nil => rfl
  | cons field fields ih =>
    have hgiven : (layout.required = true ∧ field.name ∉ ([] : List String)) ↔
        layout.required = true := and_iff_left List.not_mem_nil
    cases hlookup : entries.lookup field.name with
    | none => simp only [ofRest?, ofEntries?, hlookup, hgiven, ih]
    | some json => simp only [ofRest?, ofEntries?, hlookup, ih]

/-- An entry that is no field's does not matter. -/
theorem ofRest?_cons_of_unknown {name : String} {fields : List (Field σ)}
    (hname : ∀ field ∈ fields, field.name ≠ name) (given : List String) (json : Json)
    (entries : List (String × Json)) (s : σ) :
    layout.ofRest? given ((name, json) :: entries) fields s =
      layout.ofRest? given entries fields s := by
  induction fields generalizing s with
  | nil => rfl
  | cons field fields ih =>
    have hne : (field.name == name) = false :=
      beq_eq_false_iff_ne.2 (hname field List.mem_cons_self)
    have hfields : ∀ f ∈ fields, f.name ≠ name := fun f hf => hname f (List.mem_cons_of_mem _ hf)
    simp only [ofRest?, List.lookup_cons, hne, ih hfields]

/-- A name that is no field's does not matter among those that have been given. -/
theorem ofRest?_given {name : String} {fields : List (Field σ)}
    (hname : ∀ field ∈ fields, field.name ≠ name) (given : List String)
    (entries : List (String × Json)) (s : σ) :
    layout.ofRest? (name :: given) entries fields s = layout.ofRest? given entries fields s := by
  induction fields generalizing s with
  | nil => rfl
  | cons field fields ih =>
    have hmem : field.name ∈ name :: given ↔ field.name ∈ given := by
      rw [List.mem_cons, or_iff_right (hname field List.mem_cons_self)]
    have hfields : ∀ f ∈ fields, f.name ≠ name := fun f hf => hname f (List.mem_cons_of_mem _ hf)
    simp only [ofRest?, hmem, ih hfields]

/-- The entry of a field may be decoded before all others. -/
theorem ofRest?_cons {fields : List (Field σ)} {field : Field σ} (hfield : field ∈ fields)
    (hnames : (fields.map (·.name)).Nodup) (hcommute : fields.Pairwise Field.Commutes)
    {given : List String} {entries : List (String × Json)}
    (hnew : field.name ∉ entries.map (·.1)) (json : Json) (s : σ) :
    layout.ofRest? given ((field.name, json) :: entries) fields s =
      (field.decoder.ofJson? json).bind fun update =>
        layout.ofRest? (field.name :: given) entries fields (update s) := by
  have hlookup : entries.lookup field.name = none :=
    List.lookup_eq_none_iff.2 fun entry hentry => by
      rw [bne_iff_ne]
      exact fun heq => hnew (List.mem_map.2 ⟨entry, hentry, heq.symm⟩)
  induction fields generalizing s with
  | nil => cases hfield
  | cons head fields ih =>
    obtain ⟨hhead, hnames⟩ := List.nodup_cons.1 hnames
    obtain ⟨hcommutes, hcommute⟩ := List.pairwise_cons.1 hcommute
    have hothers : ∀ f ∈ fields, f.name ≠ head.name :=
      fun f hf heq => hhead (List.mem_map.2 ⟨f, hf, heq⟩)
    rcases List.mem_cons.1 hfield with rfl | hmem
    · have hgiven : ¬(layout.required = true ∧ field.name ∉ field.name :: given) :=
        fun h => h.2 List.mem_cons_self
      simp only [ofRest?, List.lookup_cons, beq_self_eq_true, hlookup, if_neg hgiven,
        ofRest?_cons_of_unknown hothers, ofRest?_given hothers]
    · have hne : head.name ≠ field.name := (hothers field hmem).symm
      have hgiven : head.name ∈ field.name :: given ↔ head.name ∈ given := by
        rw [List.mem_cons, or_iff_right hne]
      have hbeq : (head.name == field.name) = false := beq_eq_false_iff_ne.2 hne
      simp only [ofRest?, List.lookup_cons, hbeq, hgiven, ih hmem hnames hcommute]
      cases entries.lookup head.name with
      | none =>
        dsimp only
        split
        · cases field.decoder.ofJson? json <;> rfl
        · rfl
      | some json' =>
        -- The two fields are set in one order and in the other.
        dsimp only
        cases hupdate : field.decoder.ofJson? json with
        | none => cases head.decoder.ofJson? json' <;> rfl
        | some update =>
          cases hupdate' : head.decoder.ofJson? json' with
          | none => rfl
          | some update' =>
            rw [Option.bind_some, Option.bind_some, Option.bind_some, Option.bind_some,
              hcommutes field hmem hupdate' hupdate]

/-- At the end, the record is complete unless a field is missing. -/
theorem ofRest?_of_end (given : List String) (fields : List (Field σ)) (s : σ) :
    layout.ofRest? given [] fields s =
      match fields.find? fun field => layout.required && field.name ∉ given with
      | some _ => none
      | none => some s := by
  induction fields with
  | nil => rfl
  | cons field fields ih =>
    rw [List.find?_cons]
    by_cases hmissing : layout.required = true ∧ field.name ∉ given
    · have htrue : (layout.required && decide (field.name ∉ given)) = true := by
        simpa using hmissing
      rw [htrue]
      exact if_pos hmissing
    · have hfalse : (layout.required && decide (field.name ∉ given)) = false := by
        rw [Bool.eq_false_iff]
        simpa using hmissing
      rw [hfalse]
      exact (if_neg hmissing).trans ih

/-! ## Reading objects -/

/-- The entries of an object are read into a record, up to the closing bracket. -/
theorem reads_readEntries (hfields : ∀ field ∈ layout.fields, field.decoder.ReadsAlike)
    (hnames : (layout.fields.map (·.name)).Nodup)
    (hcommute : layout.fields.Pairwise Field.Commutes) (rest : List Char) {first : Bool}
    {entries : List (String × Json)} {cs : List Char} (hwrites : WritesEntries first entries cs)
    (hdistinct : (entries.map (·.1)).Nodup) {given : List String}
    (hnew : given.Disjoint (entries.map (·.1))) {fuel : Nat} (hfuel : entries.length < fuel)
    (s : σ) :
    Reads (layout.readEntries fuel first given s) (cs ++ '}' :: rest) ('}' :: rest)
      (layout.ofRest? given entries layout.fields s) := by
  obtain ⟨fuel, rfl⟩ := Nat.exists_eq_add_one_of_ne_zero (Nat.ne_zero_of_lt hfuel)
  induction entries generalizing first cs given fuel s with
  | nil =>
    cases hwrites with
    | nil hspaces =>
      refine ((yields_moreEntries_of_end first hspaces rest).bind _).reads ?_
      rw [ofRest?_of_end, if_neg Bool.false_ne_true]
      cases layout.fields.find? fun field => layout.required && field.name ∉ given with
      | some field => exact fails_reject _ _
      | none => exact yields_pure s _
  | cons entry entries ih =>
    cases hwrites with
    | @cons _ name json _ gap quoted spaces spaces' spelled more hgap hname hspaces hspaces' hjson
        hrest =>
      obtain ⟨hhead, htail⟩ := List.nodup_cons.1 hdistinct
      obtain ⟨fuel, rfl⟩ := Nat.exists_eq_add_one_of_ne_zero
        (Nat.ne_zero_of_lt (Nat.lt_of_succ_lt_succ hfuel))
      obtain ⟨hgiven, hothers⟩ := List.disjoint_cons_right.1 hnew
      simp only [List.append_assoc, List.cons_append]
      refine ((yields_moreEntries hgap _).bind _).reads ?_
      rw [if_pos rfl]
      refine ((hname.yields_quoted _).bind _).reads ?_
      cases hfind : layout.fields.find? (·.name = name) with
      | none =>
        have hunknown : ∀ field ∈ layout.fields, field.name ≠ name := by
          simpa using List.find?_eq_none.1 hfind
        rw [ofRest?_cons_of_unknown hunknown]
        refine ((yields_colon hspaces _).bind _).reads ?_
        refine ((hjson.yields_skip hspaces' (hrest.ends rest)).bind _).reads ?_
        exact ih hrest htail hothers s fuel (Nat.lt_of_succ_lt_succ hfuel)
      | some field =>
        have hmem : field ∈ layout.fields := List.mem_of_find?_eq_some hfind
        obtain rfl : field.name = name := by simpa using List.find?_some hfind
        have hnever : (field.name :: given).Disjoint (entries.map (·.1)) :=
          List.disjoint_cons_left.2 ⟨hhead, hothers⟩
        rw [ofRest?_cons hmem hnames hcommute hhead]
        dsimp only
        rw [if_neg hgiven]
        refine ((yields_colon hspaces _).bind _).reads ?_
        refine (hfields field hmem hjson hspaces' (hrest.ends rest)).bind fun update _ => ?_
        exact ih hrest htail hnever (update s) fuel (Nat.lt_of_succ_lt_succ hfuel)

/-! ## Reading lists -/

/-- Where another item begins the list does not end. -/
theorem fails_listEnd {first : Bool} {gap : List Char} (hgap : Gap first gap) {json : Json}
    {c : Char} (hc : Begins json c) (tail : List Char) : Fails listEnd (gap ++ c :: tail) := by
  cases hgap with
  | first hspaces =>
    refine ((yields_afterSpaces_cons hspaces hc.isSpace tail).bind _).fails ?_
    split
    · exact fails_failNext _ _
    · exact absurd (Option.some.inj ‹_›) hc.ne_mark.1
    · exact absurd (Option.some.inj ‹_›) hc.ne_mark.2
    · exact fails_failNext _ _
  | comma hspaces hafter =>
    rw [List.append_assoc]
    refine ((yields_afterSpaces_cons hspaces rfl _).bind _).fails ?_
    refine ((yields_advance ',' _).bind _).fails ?_
    refine ((yields_afterSpaces_cons hafter hc.isSpace tail).bind _).fails ?_
    split
    · exact fails_failNext _ _
    · exact fails_failNext _ _

/-- The items of a list are read into a record, with the closing bracket. -/
theorem reads_readItems {fields : List (Field σ)}
    (hfields : ∀ field ∈ fields, field.decoder.ReadsAlike) (rest : List Char) {first : Bool}
    {items : List Json} {cs : List Char} (hwrites : WritesItems first items cs) (s : σ) :
    Reads (enclosed (layout.readItems fields first s) listEnd) (cs ++ ']' :: rest) rest
      (layout.ofItems? fields items s) := by
  induction fields generalizing first items cs s with
  | nil =>
    cases hwrites with
    | nil hspaces => exact .enclosed (yields_pure s _) (yields_listEnd hspaces rest)
    | @cons _ json items gap _ more hgap hjson hrest =>
      obtain ⟨c, tail, rfl, hc⟩ := hjson.exists_cons
      rw [List.append_assoc, List.append_assoc]
      exact (yields_pure s _).enclosed_fails (fails_listEnd hgap hc _)
  | cons field fields ih =>
    cases hwrites with
    | nil hspaces =>
      refine (((yields_moreItems_of_end first hspaces rest).bind _).enclosed _).reads ?_
      rw [if_neg Bool.false_ne_true, ofItems?]
      split
      · exact Fails.enclosed (fails_reject _ _) _
      · exact .enclosed (yields_pure s _) (yields_listEnd spaces_nil rest)
    | @cons _ json items gap _ more hgap hjson hrest =>
      obtain ⟨c, tail, rfl, hc⟩ := hjson.exists_cons
      rw [List.append_assoc, List.append_assoc]
      have hmore := yields_moreItems hgap hc.isSpace hc.ne_mark.1 (tail ++ (more ++ ']' :: rest))
      refine ((hmore.bind _).enclosed _).reads ?_
      have hread := hfields field List.mem_cons_self hjson spaces_nil (hrest.ends rest)
      rw [if_pos rfl, ofItems?]
      cases hupdate : field.decoder.ofJson? json with
      | none =>
        rw [hupdate] at hread
        exact Fails.enclosed (Fails.bind hread _) _
      | some update =>
        rw [hupdate] at hread
        refine ((Yields.bind hread _).enclosed _).reads ?_
        exact ih (fun f hf => hfields f (List.mem_cons_of_mem _ hf)) hrest (update s)

/-! ## Records -/

/-- A record is read as it is decoded if its fields are, if they have different names, and if the
order in which they are set does not matter. -/
theorem readsAlike (hfields : ∀ field ∈ layout.fields, field.decoder.ReadsAlike)
    (hnames : (layout.fields.map (·.name)).Nodup)
    (hcommute : layout.fields.Pairwise Field.Commutes) : layout.decoder.ReadsAlike := by
  intro json cs hwrites spaces rest hspaces hrest
  refine .placing (Decoder.reads_start hwrites hspaces fun c tail htext hc => ?_)
  split
  · obtain ⟨entries, rfl⟩ := hc.tells.object rfl
    cases hwrites with
    | object hdistinct hentries =>
      have hread := reads_readEntries hfields hnames hcommute rest hentries hdistinct
        (List.disjoint_nil_left _) (hentries.length_lt ('}' :: rest)) layout.initial
      rw [ofRest?_nil] at hread
      rw [List.cons_append, List.append_assoc]
      refine ((yields_advance '{' _).bind _).reads ?_
      exact .enclosed (.get fun _ => hread) (yields_objectEnd rest)
  · obtain ⟨items, rfl⟩ := hc.tells.list rfl
    cases hwrites with
    | list hitems =>
      rw [List.cons_append, List.append_assoc]
      refine ((yields_advance '[' _).bind _).reads ?_
      exact reads_readItems hfields rest hitems layout.initial
  · have hnone : layout.decoder.ofJson? json = none := by
      cases json with
      | list _ | object _ => exact absurd hc ‹_›
      | null | bool _ | integer _ | decimal _ | string _ => rfl
    rw [hnone]
    exact fails_mismatch _ _

end Layout

end DebugShell.Json
