import DebugShell.Proofs.JsonParts

/-!
# Values are skipped as a whole

A value that nobody asked for is read over, whatever it is, and the reader stands behind it
(`Writes.yields_skip`). The skipping does not recur with the values: it is one loop over the text,
with a stack of the lists and objects that it is in and a bound on its steps. `Skips` says of a
text that the loop gets over it with two steps for a character at most, and `SkipsInside` says so
of the inside of a list or an object; both are proved along the grammar.
-/

namespace DebugShell.Json

variable {rest spaces : List Char}

/-! ## Numbers -/

/-- The digits before the fraction are skipped. -/
theorem yields_skipWhole {whole : List Char} (hwhole : IsWhole whole)
    (hrest : ∀ c ∈ rest.head?, isDigit c = false) : Yields skipWhole (whole ++ rest) () rest := by
  obtain ⟨c, digits, rfl, hc⟩ := hwhole.1.exists_cons
  refine ((yields_peek _).bind _).yields ?_
  dsimp only [List.cons_append, List.head?_cons]
  by_cases hzero : c = '0'
  · subst hzero
    obtain rfl : digits = [] := List.tail_eq_of_cons_eq (hwhole.2 rfl)
    have hnone : ¬rest.head?.any isDigit = true := by
      simpa [Option.any_eq_true] using hrest
    rw [if_pos rfl]
    refine ((yields_advance _ _).bind _).yields (((yields_peek _).bind _).yields ?_)
    rw [List.nil_append, if_neg hnone]
    exact yields_pure () rest
  · rw [if_neg hzero, if_pos hc]
    have htake : Reads (takeWhile isDigit) (c :: digits ++ rest) rest (some (c :: digits)) :=
      yields_takeWhile hwhole.1.2 hrest
    exact htake.map _

/-- The digits of a fraction or an exponent are skipped. -/
theorem yields_skipDigits {digits : List Char} (h : IsDigits digits)
    (hrest : ∀ c ∈ rest.head?, isDigit c = false) :
    Yields (do if (← takeWhile isDigit) = [] then failNext .badNumber : Reader Unit)
      (digits ++ rest) () rest := by
  refine ((yields_takeWhile h.2 hrest).bind _).yields ?_
  rw [if_neg h.1]
  exact yields_pure () rest

/-- A fraction is skipped. -/
theorem IsFraction.yields_skip {fraction : List Char} (h : IsFraction fraction)
    (hrest : ∀ c ∈ rest.head?, isDigit c = false) (hpoint : rest.head? ≠ some '.') :
    Yields skipFraction (fraction ++ rest) () rest := by
  refine ((yields_peek _).bind _).yields ?_
  cases h with
  | missing =>
    rw [List.nil_append, if_neg hpoint]
    exact yields_pure () rest
  | given hdigits =>
    rw [List.cons_append, List.head?_cons, if_pos rfl]
    exact ((yields_advance '.' _).bind _).yields (yields_skipDigits hdigits hrest)

/-- An exponent is skipped. -/
theorem IsExponent.yields_skip {exponent : List Char} (h : IsExponent exponent)
    (hrest : Ends rest) : Yields skipExponent (exponent ++ rest) () rest := by
  obtain ⟨hdigit, -, he, hE⟩ := hrest.not_mem_head?
  refine ((yields_peek _).bind _).yields ?_
  cases h with
  | missing =>
    rw [List.nil_append, if_neg (not_or.2 ⟨he, hE⟩)]
    exact yields_pure () rest
  | @given mark sign digits hmark hsign hdigits =>
    have hmark' : some mark = some 'e' ∨ some mark = some 'E' :=
      hmark.imp (congrArg some) (congrArg some)
    have hskip := yields_skipDigits hdigits hdigit
    rw [List.cons_append, List.head?_cons, if_pos hmark']
    refine ((yields_advance mark _).bind _).yields (((yields_peek _).bind _).yields ?_)
    rcases hsign with rfl | rfl | rfl
    · obtain ⟨c, digits, rfl, hc⟩ := hdigits.exists_cons
      have hunsigned : ¬(([] ++ c :: digits ++ rest).head? = some '+' ∨
          ([] ++ c :: digits ++ rest).head? = some '-') := by
        rintro (hsign | hsign)
        · exact ne_of_isDigit hc rfl (Option.some.inj hsign)
        · exact ne_of_isDigit hc rfl (Option.some.inj hsign)
      rw [if_neg hunsigned]
      exact hskip
    · exact ((yields_advance '+' _).bind _).yields hskip
    · exact ((yields_advance '-' _).bind _).yields hskip

/-- A number is skipped after its sign. -/
theorem Literal.yields_skip (l : Literal) (hrest : Ends rest) :
    Yields skipNumber (l.whole ++ (l.fraction ++ (l.exponent ++ rest))) () rest := by
  refine ((yields_skipWhole l.isWhole (l.isDigit_head? hrest)).bind _).yields ?_
  obtain ⟨hdigit, hpoint⟩ := l.isExponent.head?_append hrest
  refine ((l.isFraction.yields_skip hdigit hpoint).bind _).yields ?_
  exact l.isExponent.yields_skip hrest

/-! ## Quoted texts -/

/-- An escape by number is skipped. -/
theorem skipQuotedFrom_goesOn_of_number {digits : List Char} {n : Nat} (hdigits : digits.length = 4)
    (hn : Numeral.Writes 16 digits n) (fuel : Nat) (more : List Char) :
    GoesOn (skipQuotedFrom (fuel + 1)) ('\\' :: 'u' :: (digits ++ more)) (skipQuotedFrom fuel)
      more := by
  have hfour : Reads fourDigits (digits ++ more) more (some n) := yields_fourDigits hdigits hn
  have hskip : Yields (discard fourDigits) (digits ++ more) () more := hfour.map _
  refine ((yields_peek _).bind _).trans (((yields_advance '\\' _).bind _).trans ?_)
  refine ((yields_peek _).bind _).trans (((yields_advance 'u' _).bind _).trans ?_)
  exact hskip.bind _

/-- A character is skipped in whatever way it is spelled. -/
theorem SpellsChar.skipQuotedFrom_goesOn {c : Char} {spelled : List Char}
    (h : SpellsChar c spelled) : ∃ steps ≤ spelled.length, ∀ fuel more,
      GoesOn (skipQuotedFrom (fuel + steps)) (spelled ++ more) (skipQuotedFrom fuel) more := by
  cases h with
  | plain hquote hslash hcontrol =>
    refine ⟨1, Nat.le_refl 1, fun fuel more => ?_⟩
    refine ((yields_peek _).bind _).trans ?_
    dsimp only [List.cons_append, List.head?_cons]
    split
    · cases ‹some c = none›
    · exact absurd (Option.some.inj ‹_›) hquote
    · exact absurd (Option.some.inj ‹_›) hslash
    · obtain rfl := Option.some.inj ‹_›
      rw [if_neg hcontrol]
      exact (yields_advance c more).bind _
  | @letter letter _ hletter =>
    refine ⟨1, Nat.le_succ 1, fun fuel more => ?_⟩
    refine ((yields_peek _).bind _).trans (((yields_advance '\\' _).bind _).trans ?_)
    refine ((yields_peek _).bind _).trans ?_
    dsimp only [List.cons_append, List.head?_cons]
    split
    · cases ‹some letter = none›
    · obtain rfl := Option.some.inj ‹_›
      cases hletter
    · obtain rfl := Option.some.inj ‹_›
      rw [hletter, if_pos Option.isSome_some]
      exact (yields_advance _ more).bind _
  | number hdigits hn _ =>
    exact ⟨1, Nat.succ_le_succ (Nat.zero_le _), skipQuotedFrom_goesOn_of_number hdigits hn⟩
  | @pair digits digits' n m hdigits hn _ hdigits' hm _ =>
    refine ⟨2, Nat.succ_le_succ (Nat.succ_le_succ (Nat.zero_le _)), fun fuel more => ?_⟩
    simp only [List.cons_append, List.append_assoc]
    exact (skipQuotedFrom_goesOn_of_number hdigits hn (fuel + 1) _).trans
      (skipQuotedFrom_goesOn_of_number hdigits' hm fuel more)

/-- The characters of a quoted text are skipped, up to the closing quote. -/
theorem Quotes.yields_skipQuotedFrom {cs spelled : List Char} (h : Quotes cs spelled)
    (rest : List Char) {fuel : Nat} (hfuel : spelled.length < fuel) :
    Yields (skipQuotedFrom fuel) (spelled ++ '"' :: rest) () rest := by
  induction h generalizing fuel with
  | nil =>
    obtain ⟨fuel, rfl⟩ := Nat.exists_eq_add_one_of_ne_zero (Nat.ne_zero_of_lt hfuel)
    exact ((yields_peek _).bind _).yields (yields_advance '"' rest)
  | @cons c cs spelled more hc _ ih =>
    obtain ⟨steps, hsteps, hskip⟩ := hc.skipQuotedFrom_goesOn
    rw [List.length_append] at hfuel
    obtain ⟨left, rfl⟩ := Nat.exists_eq_add_of_le' (show steps ≤ fuel by omega)
    rw [List.append_assoc]
    exact (hskip left _).yields (ih (by omega))

/-- A quoted text is skipped. -/
theorem Quotes.yields_skipQuoted {cs spelled : List Char} (h : Quotes cs spelled)
    (rest : List Char) : Yields skipQuoted ('"' :: (spelled ++ '"' :: rest)) () rest := by
  have hlt : spelled.length < (spelled ++ '"' :: rest).length + 1 := by
    simp only [List.length_append]
    omega
  refine ((yields_advance _ _).bind _).yields ?_
  change Reads _ _ _ (some ())
  exact .get fun _ => h.yields_skipQuotedFrom rest hlt

/-! ## Values -/

/-- `Skips cs`: whatever stands around it, the text is skipped as one value. Each step of the
skipping accounts for half a character, and one half is left over. -/
def Skips (cs : List Char) : Prop :=
  ∃ steps < 2 * cs.length, ∀ fuel around {spaces rest : List Char}, Spaces spaces → Ends rest →
    GoesOn (skipFrom (fuel + steps) .beforeValue around) (spaces ++ (cs ++ rest))
      (skipFrom fuel .afterValue around) rest

/-- The bracket that opens a list or an object. -/
def Enclosure.opening : Enclosure → Char
  | .list => '['
  | .object => '{'

/-- The bracket that closes a list or an object. -/
def Enclosure.closing : Enclosure → Char
  | .list => ']'
  | .object => '}'

/-- The position before an item or an entry that is the first or not. -/
def Position.before (first : Bool) : Position :=
  if first then .opened else .afterValue

/-- `SkipsInside inner first cs`: the text is skipped as what is left inside of a list or an object,
with the closing bracket. -/
def SkipsInside (inner : Enclosure) (first : Bool) (cs : List Char) : Prop :=
  ∃ steps ≤ 2 * cs.length + 1, ∀ fuel around (rest : List Char),
    GoesOn (skipFrom (fuel + steps) (.before first) (inner :: around)) (cs ++ inner.closing :: rest)
      (skipFrom fuel .afterValue around) rest

/-- A text is skipped if it is skipped in one step. -/
theorem skips_of_step {cs : List Char} (hne : cs ≠ [])
    (h : ∀ fuel around {spaces rest : List Char}, Spaces spaces → Ends rest →
      GoesOn (skipFrom (fuel + 1) .beforeValue around) (spaces ++ (cs ++ rest))
        (skipFrom fuel .afterValue around) rest) : Skips cs := by
  have hpos := List.length_pos_iff.2 hne
  exact ⟨1, by omega, h⟩

/-- A number is skipped. -/
theorem Literal.skips (l : Literal) : Skips l.text := by
  obtain ⟨c, digits, hwhole, hc⟩ := l.isWhole.1.exists_cons
  have hsign : l.text = signOf l.negative ++ c :: (digits ++ (l.fraction ++ l.exponent)) := by
    rw [text, hwhole, List.cons_append]
  have hne : l.text ≠ [] := by
    rw [hsign]
    exact List.append_ne_nil_of_right_ne_nil _ (List.cons_ne_nil _ _)
  refine skips_of_step hne fun fuel around spaces rest hspaces hrest => ?_
  have hskip : Yields skipNumber (c :: (digits ++ (l.fraction ++ l.exponent)) ++ rest) () rest := by
    have hyields := l.yields_skip hrest
    rw [hwhole] at hyields
    simpa only [List.cons_append, List.append_assoc] using hyields
  rw [hsign]
  cases l.negative with
  | true =>
    refine ((yields_afterSpaces_cons hspaces rfl _).bind _).trans ?_
    exact ((yields_advance '-' _).bind _).trans (hskip.bind _)
  | false =>
    refine ((yields_afterSpaces_cons hspaces (isSpace_of_isDigit hc) _).bind _).trans ?_
    split
    · cases ‹some c = none›
    · exact absurd (Option.some.inj ‹_›) (ne_of_isDigit hc rfl)
    · exact absurd (Option.some.inj ‹_›) (ne_of_isDigit hc rfl)
    · obtain rfl := Option.some.inj ‹_›
      rw [if_neg (ne_of_isDigit hc rfl), if_neg (ne_of_isDigit hc rfl),
        if_neg (ne_of_isDigit hc rfl), if_neg (ne_of_isDigit hc rfl),
        if_neg (ne_of_isDigit hc rfl), if_pos hc]
      exact hskip.bind _

/-- A quoted text is skipped. -/
theorem Quotes.skips {cs spelled : List Char} (h : Quotes cs spelled) :
    Skips ('"' :: (spelled ++ ['"'])) := by
  refine skips_of_step (List.cons_ne_nil _ _) fun fuel around spaces rest hspaces _ => ?_
  rw [List.cons_append, List.append_assoc]
  refine ((yields_afterSpaces_cons hspaces rfl _).bind _).trans ?_
  exact (h.yields_skipQuoted rest).bind _

/-- A list or an object is skipped with what is inside of it. -/
theorem SkipsInside.skips {inner : Enclosure} {cs : List Char} (h : SkipsInside inner true cs) :
    Skips (inner.opening :: (cs ++ [inner.closing])) := by
  obtain ⟨steps, hsteps, hskip⟩ := h
  refine ⟨steps + 1, ?_, fun fuel around spaces rest hspaces _ => ?_⟩
  · simp only [List.length_cons, List.length_append]
    omega
  · have hopening : isSpace inner.opening = false := by cases inner <;> rfl
    have hseen := yields_afterSpaces_cons hspaces hopening (cs ++ inner.closing :: rest)
    rw [List.cons_append, List.append_assoc]
    cases inner
    all_goals
      refine (hseen.bind _).trans ?_
      exact ((yields_advance _ _).bind _).trans (hskip fuel around rest)

/-- At the end the closing bracket is skipped. -/
theorem skipsInside_of_spaces (inner : Enclosure) (first : Bool) (hspaces : Spaces spaces) :
    SkipsInside inner first spaces := by
  refine ⟨1, by omega, fun fuel around rest => ?_⟩
  have hclosing : isSpace inner.closing = false := by cases inner <;> rfl
  have hseen := yields_afterSpaces_cons hspaces hclosing rest
  cases inner <;> cases first <;> exact (hseen.bind _).trans ((yields_advance _ rest).bind _)

/-- What is left of a list or an object begins with an item or an entry, of which `lead` stands
before the value `cs`. -/
structure Leads (inner : Enclosure) (lead cs : List Char) : Prop where
  /-- The first character is neither a space nor the closing bracket. -/
  head : ∃ c tail, lead ++ cs = c :: tail ∧ isSpace c = false ∧ c ≠ inner.closing
  /-- What stands before the value is skipped, up to spaces. -/
  skipName : ∀ {spaces : List Char}, Spaces spaces → ∀ rest, ∃ spaces', Spaces spaces' ∧
    Yields (skipName inner) (spaces ++ (lead ++ (cs ++ rest))) () (spaces' ++ (cs ++ rest))

/-- Where an item or an entry begins, its value is next, after the comma and the name. -/
theorem Leads.skipFrom_goesOn {inner : Enclosure} {lead cs : List Char} (h : Leads inner lead cs)
    {first : Bool} {gap : List Char} (hgap : Gap first gap) (fuel : Nat) (around : List Enclosure)
    (rest : List Char) : ∃ spaces, Spaces spaces ∧
      GoesOn (skipFrom (fuel + 1) (.before first) (inner :: around)) (gap ++ (lead ++ (cs ++ rest)))
        (skipFrom fuel .beforeValue (inner :: around)) (spaces ++ (cs ++ rest)) := by
  obtain ⟨c, tail, htext, hspace, hc⟩ := h.head
  have hcons : lead ++ (cs ++ rest) = c :: (tail ++ rest) := by
    rw [← List.append_assoc, htext, List.cons_append]
  cases hgap with
  | first hspaces =>
    obtain ⟨spaces', hspaces', hname⟩ := h.skipName spaces_nil rest
    refine ⟨spaces', hspaces', ?_⟩
    rw [List.nil_append] at hname
    rw [hcons] at hname ⊢
    refine ((yields_afterSpaces_cons hspaces hspace _).bind _).trans ?_
    cases inner
    all_goals
      dsimp only [Enclosure.closing] at hc
      dsimp only
      rw [if_neg hc, if_pos (show Position.before true = .opened from rfl)]
      exact hname.bind _
  | comma hspaces hafter =>
    obtain ⟨spaces', hspaces', hname⟩ := h.skipName hafter rest
    refine ⟨spaces', hspaces', ?_⟩
    rw [List.append_assoc]
    refine ((yields_afterSpaces_cons hspaces rfl _).bind _).trans ?_
    cases inner <;> exact ((yields_advance ',' _).bind _).trans (hname.bind _)

/-- An item or an entry is skipped, and then what is left. -/
theorem Leads.skipsInside {inner : Enclosure} {lead cs more : List Char} (h : Leads inner lead cs)
    {first : Bool} {gap : List Char} (hgap : Gap first gap) (hskips : Skips cs)
    (hends : ∀ rest, Ends (more ++ inner.closing :: rest)) (hmore : SkipsInside inner false more) :
    SkipsInside inner first (gap ++ (lead ++ (cs ++ more))) := by
  obtain ⟨steps, hsteps, hskip⟩ := hskips
  obtain ⟨steps', hsteps', hskip'⟩ := hmore
  refine ⟨steps' + steps + 1, ?_, fun fuel around rest => ?_⟩
  · simp only [List.length_append]
    omega
  · obtain ⟨spaces, hspaces, hstep⟩ := h.skipFrom_goesOn hgap (fuel + steps' + steps) around
      (more ++ inner.closing :: rest)
    rw [show fuel + (steps' + steps + 1) = fuel + steps' + steps + 1 by omega]
    simp only [List.append_assoc]
    refine hstep.trans ?_
    exact (hskip (fuel + steps') (inner :: around) hspaces (hends rest)).trans
      (hskip' fuel around rest)

/-- Nothing stands before an item of a list but spaces. -/
theorem Writes.leads_list {json : Json} {cs : List Char} (h : Writes json cs) :
    Leads .list [] cs where
  head := by
    obtain ⟨c, tail, htext, hc⟩ := h.exists_cons
    exact ⟨c, tail, htext, hc.isSpace, hc.ne_mark.1⟩
  skipName hspaces rest := ⟨_, hspaces, yields_pure () _⟩

/-- Before the value of an entry there are its name and a colon. -/
theorem Quotes.leads_object {name quoted : List Char} (h : Quotes name quoted)
    (hspaces : Spaces spaces) {spaces' : List Char} (hspaces' : Spaces spaces') (cs : List Char) :
    Leads .object ('"' :: (quoted ++ '"' :: (spaces ++ ':' :: spaces'))) cs where
  head := ⟨'"', _, rfl, rfl, by decide⟩
  skipName hbefore rest := by
    refine ⟨spaces', hspaces', ?_⟩
    simp only [List.cons_append, List.append_assoc]
    refine ((yields_afterSpaces_cons hbefore rfl _).bind _).yields ?_
    exact ((h.yields_skipQuoted _).bind _).yields (yields_colon hspaces _)

mutual

/-- A text that writes a value is skipped. -/
theorem Writes.skips {json : Json} {cs : List Char} (h : Writes json cs) : Skips cs := by
  match json, h with
  | _, .null =>
    refine skips_of_step (List.cons_ne_nil _ _) fun fuel around spaces rest hspaces _ => ?_
    refine ((yields_afterSpaces_cons hspaces rfl _).bind _).trans ?_
    exact ((yields_advance 'n' _).bind _).trans ((yields_word ['u', 'l', 'l'] rest).bind _)
  | _, .true =>
    refine skips_of_step (List.cons_ne_nil _ _) fun fuel around spaces rest hspaces _ => ?_
    refine ((yields_afterSpaces_cons hspaces rfl _).bind _).trans ?_
    exact ((yields_advance 't' _).bind _).trans ((yields_word ['r', 'u', 'e'] rest).bind _)
  | _, .false =>
    refine skips_of_step (List.cons_ne_nil _ _) fun fuel around spaces rest hspaces _ => ?_
    refine ((yields_afterSpaces_cons hspaces rfl _).bind _).trans ?_
    exact ((yields_advance 'f' _).bind _).trans ((yields_word ['a', 'l', 's', 'e'] rest).bind _)
  | _, .integer value =>
    rw [toList_toString_int]
    exact (Literal.ofInt value).skips
  | _, .decimal (l := l) _ => exact l.skips
  | _, .string htext => exact htext.skips
  | .list items, .list hitems => exact (WritesItems.skips hitems).skips
  | .object entries, .object _ hentries => exact (WritesEntries.skips hentries).skips

/-- What is left of a list is skipped. -/
theorem WritesItems.skips {first : Bool} {items : List Json} {cs : List Char}
    (h : WritesItems first items cs) : SkipsInside .list first cs := by
  match items, h with
  | [], .nil hspaces => exact skipsInside_of_spaces .list first hspaces
  | _ :: _, .cons hgap hjson hrest =>
    exact hjson.leads_list.skipsInside hgap (Writes.skips hjson) hrest.ends
      (WritesItems.skips hrest)

/-- What is left of an object is skipped. -/
theorem WritesEntries.skips {first : Bool} {entries : List (String × Json)} {cs : List Char}
    (h : WritesEntries first entries cs) : SkipsInside .object first cs := by
  match entries, h with
  | [], .nil hspaces => exact skipsInside_of_spaces .object first hspaces
  | (_, _) :: _, .cons hgap hname hspaces hspaces' hjson hrest =>
    have hskips := (hname.leads_object hspaces hspaces' _).skipsInside hgap (Writes.skips hjson)
      hrest.ends (WritesEntries.skips hrest)
    simpa only [List.cons_append, List.append_assoc] using hskips

end

/-- A value that is written behind spaces is skipped. -/
theorem Writes.yields_skip {json : Json} {cs : List Char} (h : Writes json cs)
    (hspaces : Spaces spaces) (hrest : Ends rest) :
    Yields skip (spaces ++ (cs ++ rest)) () rest := by
  obtain ⟨steps, hsteps, hskip⟩ := h.skips
  change Reads _ _ _ (some ())
  refine .get fun _ => ?_
  obtain ⟨left, hleft⟩ : ∃ left,
      2 * (spaces ++ (cs ++ rest)).length + 2 = left + 1 + steps := by
    refine ⟨2 * (spaces ++ (cs ++ rest)).length + 1 - steps, ?_⟩
    simp only [List.length_append]
    omega
  dsimp only
  rw [hleft]
  exact (hskip (left + 1) [] hspaces hrest).yields (yields_pure () rest)

end DebugShell.Json
