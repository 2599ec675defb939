import DebugShell.Proofs.SkippedTexts

/-!
# Decoders read texts as they decode values

A decoder knows the JSON form of its values twice: as a value to be decoded, and as a text to be
read. `Decoder.ReadsAlike` says that the two agree: from a text that writes a JSON value, whatever
spaces and spellings it has, the reader yields what the value is decoded as, and it fails if the
value is not decoded. That is so of the simple decoders, and it is handed on to those that are built
from others.
-/

namespace DebugShell.Json

variable {α β : Type} {rest spaces : List Char}

/-! ## Words -/

/-- The word that a number is, if it is an integer in range. -/
def toWord : Number → Reader UInt64
  | .integer value =>
    match Decoder.uint64? value with
    | some word => return word
    | none => reject (.wrongValue (.integer value) "u64")
  | .decimal value => reject (.wrongType (Number.decimal value).found "u64")

/-- An integer is a word if it is in range. -/
theorem reads_toWord (value : Int) (rest : List Char) :
    Reads (toWord (.integer value)) rest rest (Decoder.uint64? value) := by
  rw [toWord]
  cases Decoder.uint64? value with
  | some word => exact yields_pure word rest
  | none => exact fails_reject _ _

/-- A number that is no integer is no word. -/
theorem NoInteger.fails {r : Reader Number} (h : NoInteger r) (cs : List Char) :
    Fails (r >>= toWord) cs := by
  intro offset
  rw [run_bind]
  rcases hrun : r.run ⟨cs, offset⟩ with ⟨_ | number, cursor⟩
  · exact ⟨_, _, rfl⟩
  · cases number with
    | integer value => exact absurd hrun (h _ _ _)
    | decimal value => exact ⟨_, _, rfl⟩

/-- The digits of an integer are read as a word, behind its sign, if it is in range. -/
theorem reads_number_of_integer (value : Int) (hrest : Ends rest) :
    Reads (number (decide (value < 0)) >>= toWord) (Nat.toDigits 10 value.natAbs ++ rest) rest
      (Decoder.uint64? value) := by
  have hdigits := Numeral.valueFrom_toDigits (by decide) (by decide : 10 ≤ 16) value.natAbs
  have hnumber := (number_goesOn (isWhole_toDigits value.natAbs) hrest.not_mem_head?.1
    (decide (value < 0))).trans (afterIntegral_goesOn hrest _ _)
  refine (hnumber.bind toWord).reads ?_
  by_cases hlt : value.natAbs < UInt64.size
  · rw [boundedDigits_of_lt hdigits hlt, wholeNumber, if_pos rfl]
    by_cases hneg : value < 0
    · -- A negative integer is read as it is or as none, and is no word in both cases.
      have hnone : Decoder.uint64? value = none := if_neg fun h => absurd hneg (not_lt.2 h.1)
      rw [decide_eq_true hneg, if_neg (by decide)]
      split
      · have hvalue : -(value.natAbs : Int) = value := by omega
        rw [hvalue]
        exact ((yields_pure _ rest).bind toWord).reads (reads_toWord value rest)
      · rw [hnone]
        exact (noInteger_afterDigits _ _ _).fails rest
    · have hvalue : (value.natAbs : Int) = value := by omega
      rw [decide_eq_false hneg, if_pos (by decide), hvalue]
      exact ((yields_pure _ rest).bind toWord).reads (reads_toWord value rest)
  · have hleft := boundedDigits_of_le hdigits (by decide) (not_lt.1 hlt)
    have hnone : Decoder.uint64? value = none := if_neg fun h => by omega
    rw [wholeNumber, if_neg hleft, hnone]
    exact (noInteger_afterDigits _ _ _).fails rest

/-- A number that is not written as an integer is no word. -/
theorem Literal.fails_number (l : Literal) (hl : ¬l.IsInteger) (hrest : Ends rest) :
    Fails (number l.negative >>= toWord) (l.whole ++ (l.fraction ++ (l.exponent ++ rest))) := by
  obtain ⟨r, mid, hgoes, hnone⟩ := l.exists_noInteger hl hrest
  have hnumber := number_goesOn l.isWhole (l.isDigit_head? hrest) l.negative
  exact ((hnumber.trans hgoes).bind toWord).fails (hnone.fails mid)

/-- Where a number begins its sign is read first. -/
theorem Literal.goesOn_number (l : Literal) {c : Char} {tail : List Char}
    (htext : l.text = c :: tail) (f : Number → Reader α) (rest : List Char) :
    (c = '-' || isDigit c) = true ∧
      GoesOn (if c = '-' then advance >>= fun _ => number (c = '-') >>= f
        else number (c = '-') >>= f) (l.text ++ rest) (number l.negative >>= f)
        (l.whole ++ (l.fraction ++ (l.exponent ++ rest))) := by
  have happend : l.text ++ rest =
      signOf l.negative ++ (l.whole ++ (l.fraction ++ (l.exponent ++ rest))) := by
    simp only [text, List.append_assoc]
  obtain ⟨d, digits, hwhole, hd⟩ := l.isWhole.1.exists_cons
  rw [happend]
  rw [text, hwhole] at htext
  cases hsign : l.negative with
  | true =>
    rw [hsign] at htext
    obtain rfl : '-' = c := (List.cons.inj htext).1
    refine ⟨rfl, ?_⟩
    rw [if_pos rfl]
    exact (yields_advance '-' _).bind _
  | false =>
    rw [hsign] at htext
    obtain rfl : d = c := (List.cons.inj htext).1
    have hne : d ≠ '-' := ne_of_isDigit hd rfl
    refine ⟨by rw [hd, Bool.or_true], ?_⟩
    rw [if_neg hne, decide_eq_false hne]
    exact .refl _ _

namespace Decoder

variable {d : Decoder α}

/-- From a text that writes a value, the decoder reads what it decodes the value as. -/
def ReadsAlike (d : Decoder α) : Prop :=
  ∀ ⦃json : Json⦄ ⦃cs : List Char⦄, Writes json cs → ∀ ⦃spaces rest : List Char⦄, Spaces spaces →
    Ends rest → Reads d.reader (spaces ++ (cs ++ rest)) rest (d.ofJson? json)

/-- A reader that looks at the first character of a value is told its kind. -/
theorem reads_start {json : Json} {cs : List Char} (h : Writes json cs) (hspaces : Spaces spaces)
    {f : Char → Reader α} {answer : Option α}
    (hf : ∀ c tail, cs = c :: tail → Begins json c → Reads (f c) (cs ++ rest) rest answer) :
    Reads (start >>= f) (spaces ++ (cs ++ rest)) rest answer := by
  obtain ⟨c, tail, rfl, hc⟩ := h.exists_cons
  exact ((yields_start hspaces hc.isSpace _).bind _).reads (hf c tail rfl hc)

/-! ## Simple values -/

theorem bool_readsAlike : bool.ReadsAlike := by
  intro json cs h spaces rest hspaces _
  refine .placing (reads_start h hspaces fun c tail htext hc => ?_)
  split
  · obtain rfl := hc.tells.true rfl
    cases h
    refine ((yields_advance 't' _).bind _).reads ?_
    exact ((yields_word ['r', 'u', 'e'] rest).bind _).reads (yields_pure true rest)
  · obtain rfl := hc.tells.false rfl
    cases h
    refine ((yields_advance 'f' _).bind _).reads ?_
    exact ((yields_word ['a', 'l', 's', 'e'] rest).bind _).reads (yields_pure false rest)
  · have hnone : bool.ofJson? json = none := by
      cases json with
      | bool b => cases b <;> exact absurd hc ‹_›
      | null | integer _ | decimal _ | string _ | list _ | object _ => rfl
    rw [hnone]
    exact fails_mismatch _ _

/-- A text is read, and any other value is not. -/
theorem reads_textOr (expected : String) {json : Json} {cs : List Char} (h : Writes json cs)
    (hspaces : Spaces spaces) :
    Reads (textOr expected) (spaces ++ (cs ++ rest)) rest (string.ofJson? json) := by
  refine reads_start h hspaces fun c tail htext hc => ?_
  split
  · obtain ⟨text, rfl⟩ := hc.tells.string rfl
    cases h with
    | string hquotes =>
      rw [List.cons_append, List.append_assoc]
      exact hquotes.yields_quoted rest
  · have hnone : string.ofJson? json = none := by
      cases json with
      | string _ => exact absurd hc ‹_›
      | null | bool _ | integer _ | decimal _ | list _ | object _ => rfl
    rw [hnone]
    exact fails_mismatch _ _

theorem string_readsAlike : string.ReadsAlike :=
  fun _ _ h _ _ hspaces _ => .placing (reads_textOr "a string" h hspaces)

theorem uint64_readsAlike : uint64.ReadsAlike := by
  intro json cs h spaces rest hspaces hrest
  refine .placing (reads_start h hspaces fun c tail htext hc => ?_)
  cases h with
  | integer value =>
    rw [toList_toString_int] at htext ⊢
    obtain ⟨hstart, hgoes⟩ := (Literal.ofInt value).goesOn_number htext toWord rest
    rw [if_pos hstart]
    exact hgoes.reads (reads_number_of_integer value hrest)
  | @decimal l hl =>
    obtain ⟨hstart, hgoes⟩ := l.goesOn_number htext toWord rest
    rw [if_pos hstart]
    exact hgoes.fails (l.fails_number hl hrest)
  | null | true | false | string _ | list _ | object _ _ =>
    cases hc
    exact fails_mismatch _ _

/-! ## Values that are built from others -/

theorem ReadsAlike.map (h : d.ReadsAlike) (f : α → β) : (d.map f).ReadsAlike :=
  fun _ _ hwrites _ _ hspaces hrest => (h hwrites hspaces hrest).map f

theorem ReadsAlike.refine (h : d.ReadsAlike) (parse : α → Except String β) :
    (d.refine parse).ReadsAlike := by
  intro json cs hwrites spaces rest hspaces hrest
  refine (h hwrites hspaces hrest).bind fun a _ => ?_
  cases parse a with
  | ok b => exact yields_pure b rest
  | error text => exact fails_reject _ _

theorem ReadsAlike.optional (h : d.ReadsAlike) : d.optional.ReadsAlike := by
  intro json cs hwrites spaces rest hspaces hrest
  obtain ⟨c, tail, rfl, hc⟩ := hwrites.exists_cons
  refine ((yields_afterSpaces_cons hspaces hc.isSpace _).bind _).reads ?_
  split
  · obtain rfl := Option.some.inj ‹_›
    obtain rfl := hc.tells.null rfl
    cases hwrites
    refine ((yields_advance 'n' _).bind _).reads ?_
    exact ((yields_word ['u', 'l', 'l'] rest).bind _).reads (yields_pure none rest)
  · have hpresent : d.optional.ofJson? json = (d.ofJson? json).map some := by
      cases json with
      | null => exact absurd (congrArg some hc) ‹_›
      | bool _ | integer _ | decimal _ | string _ | list _ | object _ => rfl
    rw [hpresent, Option.map_eq_bind]
    exact (h hwrites spaces_nil hrest).bind fun a _ => yields_pure (some a) rest

/-- The items of a list are read, up to the closing bracket. -/
theorem ReadsAlike.itemsFrom (h : d.ReadsAlike) (rest : List Char) (read : List α)
    {items : List Json} {cs : List Char} (hwrites : WritesItems read.isEmpty items cs) {fuel : Nat}
    (hfuel : items.length < fuel) :
    Reads (itemsFrom d.reader fuel read) (cs ++ ']' :: rest) (']' :: rest)
      ((items.mapM d.ofJson?).map (read.reverse ++ ·)) := by
  obtain ⟨fuel, rfl⟩ := Nat.exists_eq_add_one_of_ne_zero (Nat.ne_zero_of_lt hfuel)
  induction items generalizing cs read fuel with
  | nil =>
    cases hwrites with
    | nil hspaces =>
      have hread : Yields (pure read.reverse) (']' :: rest) (read.reverse ++ []) (']' :: rest) := by
        rw [List.append_nil]
        exact yields_pure read.reverse _
      exact ((yields_moreItems_of_end _ hspaces rest).bind _).reads hread
  | cons json items ih =>
    cases hwrites with
    | @cons _ _ _ gap spelled more hgap hjson hrest =>
      obtain ⟨c, tail, rfl, hc⟩ := hjson.exists_cons
      -- The item that is read stands last among those read so far.
      have hsplit : ((json :: items).mapM d.ofJson?).map (read.reverse ++ ·) =
          (d.ofJson? json).bind fun a =>
            (items.mapM d.ofJson?).map ((a :: read).reverse ++ ·) := by
        rw [List.mapM_cons]
        cases d.ofJson? json with
        | none => rfl
        | some a =>
          cases items.mapM d.ofJson? with
          | none => rfl
          | some as => simp
      rw [hsplit, List.append_assoc, List.append_assoc]
      refine ((yields_moreItems hgap hc.isSpace hc.ne_mark.1 _).bind _).reads ?_
      refine (h hjson spaces_nil (hrest.ends rest)).bind fun a _ => ?_
      obtain ⟨fuel, rfl⟩ := Nat.exists_eq_add_one_of_ne_zero
        (Nat.ne_zero_of_lt (Nat.lt_of_succ_lt_succ hfuel))
      exact ih (a :: read) hrest fuel (Nat.lt_of_succ_lt_succ hfuel)

/-- The items of a list are read with its brackets. -/
theorem ReadsAlike.items (h : d.ReadsAlike) (rest : List Char) {items : List Json} {cs : List Char}
    (hwrites : WritesItems true items cs) :
    Reads (Json.items d.reader) ('[' :: (cs ++ ']' :: rest)) rest (items.mapM d.ofJson?) := by
  have hread := h.itemsFrom rest [] hwrites (hwrites.length_lt (']' :: rest))
  have hall : (items.mapM d.ofJson?).map ([].reverse ++ ·) = items.mapM d.ofJson? := by
    cases items.mapM d.ofJson? <;> rfl
  rw [hall] at hread
  refine ((yields_advance '[' _).bind _).reads ?_
  exact .enclosed (.get fun _ => hread) (yields_listEnd spaces_nil rest)

theorem ReadsAlike.list (h : d.ReadsAlike) : d.list.ReadsAlike := by
  intro json cs hwrites spaces rest hspaces hrest
  refine .placing (reads_start hwrites hspaces fun c tail htext hc => ?_)
  split
  · obtain ⟨items, rfl⟩ := hc.tells.list rfl
    cases hwrites with
    | list hitems =>
      rw [List.cons_append, List.append_assoc]
      exact h.items rest hitems
  · have hnone : d.list.ofJson? json = none := by
      cases json with
      | list _ => exact absurd hc ‹_›
      | null | bool _ | integer _ | decimal _ | string _ | object _ => rfl
    rw [hnone]
    exact fails_mismatch _ _

/-- The entries of an object are read, up to the closing bracket. -/
theorem ReadsAlike.entriesFrom (h : d.ReadsAlike) (rest : List Char) (read : List (String × α))
    {entries : List (String × Json)} {cs : List Char}
    (hwrites : WritesEntries read.isEmpty entries cs) {fuel : Nat}
    (hfuel : entries.length < fuel) :
    Reads (entriesFrom d.reader fuel read) (cs ++ '}' :: rest) ('}' :: rest)
      ((entries.mapM fun e => (d.ofJson? e.2).map fun a => (e.1, a)).map (read.reverse ++ ·)) := by
  obtain ⟨fuel, rfl⟩ := Nat.exists_eq_add_one_of_ne_zero (Nat.ne_zero_of_lt hfuel)
  induction entries generalizing cs read fuel with
  | nil =>
    cases hwrites with
    | nil hspaces =>
      have hread : Yields (pure read.reverse) ('}' :: rest) (read.reverse ++ []) ('}' :: rest) := by
        rw [List.append_nil]
        exact yields_pure read.reverse _
      exact ((yields_moreEntries_of_end _ hspaces rest).bind _).reads hread
  | cons entry entries ih =>
    cases hwrites with
    | @cons _ name json _ gap quoted spaces spaces' spelled more hgap hname hspaces hspaces' hjson
        hrest =>
      have hsplit : (((name, json) :: entries).mapM fun e => (d.ofJson? e.2).map fun a =>
          (e.1, a)).map (read.reverse ++ ·) = (d.ofJson? json).bind fun a =>
            (entries.mapM fun e => (d.ofJson? e.2).map fun a => (e.1, a)).map
              (((name, a) :: read).reverse ++ ·) := by
        rw [List.mapM_cons]
        cases d.ofJson? json with
        | none => rfl
        | some a =>
          cases entries.mapM fun e => (d.ofJson? e.2).map fun a => (e.1, a) with
          | none => rfl
          | some as => simp
      rw [hsplit]
      simp only [List.append_assoc, List.cons_append]
      refine ((yields_moreEntries hgap _).bind _).reads ?_
      refine ((hname.yields_quoted _).bind _).reads ?_
      refine ((yields_colon hspaces _).bind _).reads ?_
      refine (h hjson hspaces' (hrest.ends rest)).bind fun a _ => ?_
      obtain ⟨fuel, rfl⟩ := Nat.exists_eq_add_one_of_ne_zero
        (Nat.ne_zero_of_lt (Nat.lt_of_succ_lt_succ hfuel))
      exact ih ((name, a) :: read) hrest fuel (Nat.lt_of_succ_lt_succ hfuel)

/-- The entries of an object are read with its brackets. -/
theorem ReadsAlike.entries (h : d.ReadsAlike) (rest : List Char) {entries : List (String × Json)}
    {cs : List Char} (hwrites : WritesEntries true entries cs) :
    Reads (Json.entries d.reader) ('{' :: (cs ++ '}' :: rest)) rest
      (entries.mapM fun e => (d.ofJson? e.2).map fun a => (e.1, a)) := by
  have hread := h.entriesFrom rest [] hwrites (hwrites.length_lt ('}' :: rest))
  have hall (answer : Option (List (String × α))) : answer.map ([].reverse ++ ·) = answer := by
    cases answer <;> rfl
  rw [hall] at hread
  refine ((yields_advance '{' _).bind _).reads ?_
  exact .enclosed (.get fun _ => hread) (yields_objectEnd rest)

theorem ReadsAlike.nameMap (h : d.ReadsAlike) : d.nameMap.ReadsAlike := by
  intro json cs hwrites spaces rest hspaces hrest
  refine .placing (reads_start hwrites hspaces fun c tail htext hc => ?_)
  split
  · obtain ⟨entries, rfl⟩ := hc.tells.object rfl
    cases hwrites with
    | object _ hentries =>
      rw [List.cons_append, List.append_assoc]
      change Reads _ _ _ (Option.map NameMap.ofList _)
      rw [Option.map_eq_bind]
      exact (h.entries rest hentries).bind fun read _ => yields_pure (NameMap.ofList read) rest
  · have hnone : d.nameMap.ofJson? json = none := by
      cases json with
      | object _ => exact absurd hc ‹_›
      | null | bool _ | integer _ | decimal _ | string _ | list _ => rfl
    rw [hnone]
    exact fails_mismatch _ _

/-! ## Alternatives -/

/-- The name of an alternative is read. -/
theorem reads_alternative (names : List (String × α)) {json : Json} {cs : List Char}
    (h : Writes json cs) (hspaces : Spaces spaces) :
    Reads (alternative names) (spaces ++ (cs ++ rest)) rest
      ((string.ofJson? json).bind fun name => names.lookup name) := by
  refine .placing ((reads_textOr _ h hspaces).bind fun name _ => ?_)
  cases names.lookup name with
  | some a => exact yields_pure a rest
  | none => exact fails_reject _ _

/-- A quoted name of an alternative is read. -/
theorem reads_name (names : List (String × α)) {name : String} {quoted : List Char}
    (h : Quotes name.toList quoted) (hspaces : Spaces spaces) :
    Reads (alternative names) (spaces ++ '"' :: (quoted ++ '"' :: rest)) rest
      (names.lookup name) := by
  have hread : Reads (alternative names) (spaces ++ ('"' :: (quoted ++ ['"']) ++ rest)) rest
      ((some name).bind fun name => names.lookup name) :=
    reads_alternative names (.string h) hspaces
  rwa [List.cons_append, List.append_assoc] at hread

/-- The value that is no value. -/
def absent? : Json → Option Unit
  | .null => some ()
  | _ => none

/-- The absence of a value is read, and any other value is not. -/
theorem reads_absence {json : Json} {cs : List Char} (h : Writes json cs)
    (hspaces : Spaces spaces) :
    Reads absence (spaces ++ (cs ++ rest)) rest (absent? json) := by
  refine .placing (reads_start h hspaces fun c tail htext hc => ?_)
  split
  · obtain rfl := hc.tells.null rfl
    cases h
    exact ((yields_advance 'n' _).bind _).reads (yields_word ['u', 'l', 'l'] rest)
  · have hnone : absent? json = none := by
      cases json with
      | null => exact absurd hc ‹_›
      | bool _ | integer _ | decimal _ | string _ | list _ | object _ => rfl
    rw [hnone]
    exact fails_mismatch _ _

/-- An object without entries has no name. -/
theorem fails_alternative (names : List (String × α)) (hspaces : Spaces spaces)
    (rest : List Char) : Fails (alternative names) (spaces ++ '}' :: rest) := by
  have hread : Reads (textOr "variant identifier") (spaces ++ '}' :: rest) rest none :=
    ((yields_start hspaces rfl rest).bind _).fails (fails_mismatch _ _)
  change Reads _ _ rest (none.bind fun name => names.lookup name)
  exact .placing (hread.bind fun _ => nofun)

/-- An object stands for an alternative if its only entry binds the name to no value. -/
theorem oneOf_ofJson?_object (names : List (String × α)) (name : String) (json : Json)
    (more : List (String × Json)) : (oneOf names).ofJson? (.object ((name, json) :: more)) =
      (names.lookup name).bind fun a => (absent? json).bind fun _ =>
        if more = [] then some a else none := by
  cases hlookup : names.lookup name with
  | none => cases json <;> cases more <;> first | rfl | exact hlookup
  | some a => cases json <;> cases more <;> first | rfl | exact hlookup

theorem oneOf_readsAlike (names : List (String × α)) : (oneOf names).ReadsAlike := by
  intro json cs hwrites spaces rest hspaces hrest
  refine reads_start hwrites hspaces fun c tail htext hc => ?_
  split
  · obtain ⟨text, rfl⟩ := hc.tells.string rfl
    have hread : Reads (alternative names) ([] ++ (cs ++ rest)) rest
        ((string.ofJson? (.string text)).bind fun name => names.lookup name) :=
      reads_alternative names hwrites spaces_nil
    exact hread
  · obtain ⟨entries, rfl⟩ := hc.tells.object rfl
    cases hwrites with
    | object _ hentries =>
      rw [List.cons_append, List.append_assoc]
      refine ((yields_advance '{' _).bind _).reads ?_
      cases hentries with
      | nil hinside => exact (fails_alternative names hinside rest).bind _
      | cons hgap hname hcolon hvalue hjson hmore =>
        cases hgap with
        | first hgap =>
          rw [oneOf_ofJson?_object]
          simp only [List.append_assoc, List.cons_append]
          refine (reads_name names hname hgap).bind fun a _ => ?_
          refine ((yields_colon hcolon _).bind _).reads ?_
          refine (reads_absence hjson hvalue).bind fun _ _ => ?_
          -- The closing bracket has to be next.
          cases hmore with
          | nil hinside =>
            refine ((yields_afterSpaces_cons hinside rfl rest).bind _).reads ?_
            exact ((yields_advance '}' rest).bind _).reads (yields_pure a rest)
          | cons hgap' _ _ _ _ _ =>
            cases hgap' with
            | comma hinside _ =>
              rw [List.append_assoc, List.append_assoc]
              exact ((yields_afterSpaces_cons hinside rfl _).bind _).fails (fails_failHere _ _)
  · have hnone : (oneOf names).ofJson? json = none := by
      cases json with
      | string _ | object _ => exact absurd hc ‹_›
      | null | bool _ | integer _ | decimal _ | list _ => rfl
    rw [hnone]
    exact fails_failNext _ _

/-! ## Texts as a whole -/

/-- A text of a value is read as the value is decoded. -/
theorem ReadsAlike.ofText (h : d.ReadsAlike) {text : String} {json : Json}
    (htext : IsTextOf text json) : (d.ofText text).toOption = d.ofJson? json := by
  obtain ⟨before, cs, after, hbefore, hwrites, hafter, htext⟩ := htext
  have hend : Yields afterSpaces? after none [] := by
    have hseen : Yields afterSpaces? (after ++ []) none [] := yields_afterSpaces hafter nofun
    rwa [List.append_nil] at hseen
  have hwhole : Reads (do
      let a ← d.reader
      if (← afterSpaces?).isSome then failNext .trailingCharacters
      return a) text.toList [] ((d.ofJson? json).bind some) := by
    rw [htext]
    exact (h hwrites hbefore (ends_of_spaces hafter)).bind fun a _ =>
      (hend.bind _).yields (yields_pure a [])
  rw [Option.bind_fun_some] at hwhole
  unfold Decoder.ofText
  dsimp only
  cases hjson : d.ofJson? json with
  | none =>
    rw [hjson] at hwhole
    obtain ⟨fault, cursor, hrun⟩ := hwhole 0
    rw [hrun]
    rfl
  | some a =>
    rw [hjson] at hwhole
    obtain ⟨offset, hrun⟩ := hwhole 0
    rw [hrun]
    rfl

/-- If the value is decoded, its texts are read. -/
theorem ReadsAlike.ofText_eq_ok (h : d.ReadsAlike) {text : String} {json : Json}
    (htext : IsTextOf text json) {a : α} (hjson : d.ofJson? json = some a) :
    d.ofText text = .ok a := by
  have hread := h.ofText htext
  rw [hjson] at hread
  cases hof : d.ofText text with
  | error e =>
    rw [hof] at hread
    cases hread
  | ok a' =>
    rw [hof] at hread
    rw [Option.some.inj hread]

end Decoder

end DebugShell.Json
