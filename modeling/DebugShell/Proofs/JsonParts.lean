import DebugShell.Proofs.JsonTexts

/-!
# Reading the parts of JSON texts

What the readers of numbers, of quoted texts and of the marks between the parts come to on a text
that writes them.
-/

namespace DebugShell.Json

variable {α : Type} {rest : List Char}

/-! ## Numbers -/

/-- Reading on makes a number no smaller. -/
theorem le_of_valueFrom {n v : Nat} {cs : List Char} (h : Numeral.valueFrom 10 n cs = some v) :
    n ≤ v := by
  induction cs generalizing n with
  | nil => exact (Option.some.inj h).le
  | cons c cs ih =>
    obtain ⟨d, -, hrest⟩ := Option.bind_eq_some_iff.1 h
    have hle := ih hrest
    omega

/-- Below the bound all digits are read. -/
theorem boundedDigits_of_lt {bound n v : Nat} {cs : List Char}
    (h : Numeral.valueFrom 10 n cs = some v) (hv : v < bound) :
    boundedDigits bound n cs = (v, 0) := by
  induction cs generalizing n with
  | nil => rw [boundedDigits, Option.some.inj h]
  | cons c cs ih =>
    obtain ⟨d, hd, hrest⟩ := Option.bind_eq_some_iff.1 h
    have hlt : n * 10 + d < bound := (le_of_valueFrom hrest).trans_lt hv
    rw [boundedDigits, hd, Option.getD_some, if_pos hlt, ih hrest]

/-- From the bound on some digits are left over. -/
theorem boundedDigits_of_le {bound n v : Nat} {cs : List Char}
    (h : Numeral.valueFrom 10 n cs = some v) (hn : n < bound) (hv : bound ≤ v) :
    (boundedDigits bound n cs).2 ≠ 0 := by
  induction cs generalizing n with
  | nil =>
    obtain rfl := Option.some.inj h
    exact absurd hn hv.not_gt
  | cons c cs ih =>
    obtain ⟨d, hd, hrest⟩ := Option.bind_eq_some_iff.1 h
    rw [boundedDigits, hd, Option.getD_some]
    split
    · rename_i hlt
      exact ih hrest hlt
    · exact Nat.succ_ne_zero _

/-- Where a value ends, there is no digit, no point and no mark of an exponent. -/
theorem Ends.not_mem_head? (h : Ends rest) :
    (∀ c ∈ rest.head?, isDigit c = false) ∧ rest.head? ≠ some '.' ∧ rest.head? ≠ some 'e' ∧
      rest.head? ≠ some 'E' := by
  have hhead : ∀ c ∈ rest.head?, isDigit c = false ∧ c ≠ '.' ∧ c ≠ 'e' ∧ c ≠ 'E' := by
    intro c hc
    rcases h c hc with hspace | rfl | rfl | rfl
    · simp only [isSpace, Bool.or_eq_true, beq_iff_eq, or_assoc] at hspace
      rcases hspace with rfl | rfl | rfl | rfl <;> decide
    all_goals decide
  exact ⟨fun c hc => (hhead c hc).1, fun hc => (hhead _ hc).2.1 rfl,
    fun hc => (hhead _ hc).2.2.1 rfl, fun hc => (hhead _ hc).2.2.2 rfl⟩

/-- The whole part of a number is read. -/
theorem number_goesOn {whole : List Char} (hwhole : IsWhole whole)
    (hrest : ∀ c ∈ rest.head?, isDigit c = false) (negative : Bool) :
    GoesOn (number negative) (whole ++ rest) (afterIntegral negative whole) rest := by
  obtain ⟨c, digits, rfl, hc⟩ := hwhole.1.exists_cons
  refine ((yields_peek _).bind _).trans ?_
  dsimp only [List.cons_append, List.head?_cons]
  by_cases hzero : c = '0'
  · subst hzero
    obtain rfl : digits = [] := List.tail_eq_of_cons_eq (hwhole.2 rfl)
    have hnone : ¬rest.head?.any isDigit = true := by
      simpa [Option.any_eq_true] using hrest
    rw [if_pos rfl]
    refine ((yields_advance _ _).bind _).trans (((yields_peek _).bind _).trans ?_)
    rw [List.nil_append, if_neg hnone]
    exact .refl _ _
  · rw [if_neg hzero, if_pos hc]
    exact (yields_takeWhile hwhole.1.2 hrest).bind _

/-- What a number is that ends after its whole part, by the digits and by what of them was left
over. -/
def wholeNumber (negative : Bool) (n left : Nat) : Reader Number :=
  if left = 0 then
    if !negative then return .integer n
    else if 0 < n ∧ n ≤ UInt64.size / 2 then return .integer (-n)
    else afterDigits negative n 0
  else afterDigits negative n left

theorem afterIntegral_goesOn (h : Ends rest) (negative : Bool) (whole : List Char) :
    GoesOn (afterIntegral negative whole) rest
      (wholeNumber negative (boundedDigits UInt64.size 0 whole).1
        (boundedDigits UInt64.size 0 whole).2) rest := by
  obtain ⟨-, hpoint, he, hE⟩ := h.not_mem_head?
  refine ((yields_peek rest).bind _).trans ?_
  dsimp only
  split
  · exact absurd ‹_› hpoint
  · exact absurd ‹_› he
  · exact absurd ‹_› hE
  · exact .refl _ _

/-- The reader yields no integer. -/
def NoInteger (r : Reader Number) : Prop :=
  ∀ cursor v cursor', r.run cursor ≠ (.ok (.integer v), cursor')

theorem NoInteger.bind {r : Reader α} {f : α → Reader Number} (h : ∀ a, NoInteger (f a)) :
    NoInteger (r >>= f) := by
  intro cursor v cursor'
  rw [run_bind]
  rcases r.run cursor with ⟨_ | a, mid⟩
  · exact nofun
  · exact h a mid v cursor'

theorem noInteger_decimal (x : Float) : NoInteger (pure (.decimal x)) :=
  fun _ _ _ => nofun

theorem noInteger_throw (fault : Fault) : NoInteger (throw fault) :=
  fun _ _ _ => nofun

theorem noInteger_failHere (reason : Reason) : NoInteger (failHere reason) :=
  .bind fun _ => noInteger_throw _

theorem noInteger_failNext (reason : Reason) : NoInteger (failNext reason) :=
  .bind fun _ => noInteger_throw _

/-- A step that is taken or left out does not matter. -/
theorem NoInteger.afterOptional {p : Prop} [Decidable p] {r : Reader Unit}
    {f : Unit → Reader Number} (h : ∀ u, NoInteger (f u)) :
    NoInteger (if p then r >>= f else f ()) := by
  split
  · exact .bind h
  · exact h ()

/-- A number with an exponent is no integer. -/
theorem noInteger_exponentPart (negative : Bool) (n : Nat) (e : Int) :
    NoInteger (exponentPart negative n e) := by
  refine .bind fun _ => .bind fun sign => .afterOptional fun _ => .bind fun c => ?_
  dsimp only
  split
  · exact noInteger_failHere _
  · split
    · refine .bind fun digits => ?_
      split
      · split
        · exact .bind fun _ => noInteger_throw _
        · exact noInteger_decimal _
      · split
        · exact noInteger_decimal _
        · exact noInteger_failHere _
    · exact noInteger_failNext _

/-- A number that is too large for a word, or has a fraction, is no integer. -/
theorem noInteger_afterDigits (negative : Bool) (n : Nat) (e : Int) :
    NoInteger (afterDigits negative n e) := by
  refine .bind fun c => ?_
  split
  · exact noInteger_exponentPart negative n e
  · exact noInteger_exponentPart negative n e
  · split
    · exact noInteger_decimal _
    · exact noInteger_failHere _

/-- Where an exponent may stand there is no digit and no point. -/
theorem IsExponent.head?_append {exponent : List Char} (h : IsExponent exponent)
    (hrest : Ends rest) : (∀ c ∈ (exponent ++ rest).head?, isDigit c = false) ∧
      (exponent ++ rest).head? ≠ some '.' := by
  cases h with
  | missing => exact ⟨hrest.not_mem_head?.1, hrest.not_mem_head?.2.1⟩
  | given hmark _ _ =>
    rcases hmark with rfl | rfl
    · exact ⟨by rintro c ⟨⟩; rfl, nofun⟩
    · exact ⟨by rintro c ⟨⟩; rfl, nofun⟩

/-- Where a fraction may stand there is no digit. -/
theorem Literal.isDigit_head? (l : Literal) (hrest : Ends rest) :
    ∀ c ∈ (l.fraction ++ (l.exponent ++ rest)).head?, isDigit c = false := by
  obtain ⟨_, _, _, _, -, hfraction, hexponent⟩ := l
  cases hfraction with
  | missing => exact (hexponent.head?_append hrest).1
  | given _ =>
    rintro c ⟨⟩
    rfl

/-- A literal that is none of an integer is not read as an integer. -/
theorem Literal.exists_noInteger (l : Literal) (hl : ¬l.IsInteger) (h : Ends rest) :
    ∃ r mid, GoesOn (afterIntegral l.negative l.whole) (l.fraction ++ (l.exponent ++ rest)) r mid ∧
      NoInteger r := by
  revert hl
  obtain ⟨negative, whole, fraction, exponent, -, hfraction, hexponent⟩ := l
  intro hl
  dsimp only
  cases hfraction with
  | given _ =>
    refine ⟨_, _, (yields_peek _).bind _, .bind fun _ => .bind fun digits => ?_⟩
    split
    · refine .bind fun c => ?_
      split
      · exact noInteger_failNext _
      · exact noInteger_failHere _
    · exact noInteger_afterDigits negative _ _
  | missing =>
    cases hexponent with
    | given hmark _ _ =>
      refine ⟨_, _, (yields_peek _).bind _, ?_⟩
      rcases hmark with rfl | rfl <;> exact noInteger_exponentPart negative _ _
    | missing =>
      -- Only a negative zero is left.
      obtain ⟨rfl, rfl⟩ : negative = true ∧ whole = ['0'] :=
        not_not.1 fun hzero => hl ⟨rfl, rfl, hzero⟩
      exact ⟨_, _, afterIntegral_goesOn h true ['0'], noInteger_afterDigits true 0 0⟩

/-! ## Quoted texts -/

/-- Each character takes a byte at least. -/
theorem length_le_utf8Length (cs : List Char) : cs.length ≤ utf8Length cs := by
  induction cs with
  | nil => exact Nat.le_refl 0
  | cons c cs ih =>
    have hpos := c.utf8Size_pos
    rw [List.length_cons, utf8Length]
    omega

/-- Four hexadecimal digits are read as their number. -/
theorem yields_fourDigits {digits : List Char} {n : Nat} (hdigits : digits.length = 4)
    (hn : Numeral.Writes 16 digits n) : Yields fourDigits (digits ++ rest) n rest := by
  have hread : Numeral.digits? 16 digits = some n :=
    (Numeral.digits?_eq_some_iff (by decide) digits n).2 hn
  have hlong := length_le_utf8Length digits
  change Reads fourDigits (digits ++ rest) rest (some n)
  refine .get fun offset => ?_
  simp only [List.take_left' hdigits, List.drop_left' hdigits, hread]
  rw [if_neg (by omega)]
  exact ((yields_set _ rest _).bind _).yields (yields_pure n rest)

/-- The second half of a pair begins with its marks. -/
theorem yields_surrogateMark (mark : Char) (cs : List Char) :
    Yields (surrogateMark mark) (mark :: cs) () cs := by
  refine ((yields_peek _).bind _).yields ?_
  dsimp only [List.head?_cons]
  rw [if_pos rfl]
  exact yields_advance mark cs

/-- A character is read from its number. -/
theorem yields_numberedChar {digits : List Char} {n : Nat} (hdigits : digits.length = 4)
    (hn : Numeral.Writes 16 digits n) (hchar : ¬(0xD800 ≤ n ∧ n ≤ 0xDFFF)) :
    Yields numberedChar (digits ++ rest) (Char.ofNat n) rest := by
  refine ((yields_fourDigits hdigits hn).bind _).yields ?_
  rw [if_neg (by omega), if_neg (by omega)]
  exact yields_pure _ rest

/-- A character is read from the numbers of its two surrogates. -/
theorem yields_numberedChar_of_pair {digits digits' : List Char} {n m : Nat}
    (hdigits : digits.length = 4) (hn : Numeral.Writes 16 digits n)
    (hlead : 0xD800 ≤ n ∧ n ≤ 0xDBFF) (hdigits' : digits'.length = 4)
    (hm : Numeral.Writes 16 digits' m) (htrail : 0xDC00 ≤ m ∧ m ≤ 0xDFFF) :
    Yields numberedChar (digits ++ '\\' :: 'u' :: (digits' ++ rest))
      (Char.ofNat ((n - 0xD800) * 0x400 + (m - 0xDC00) + 0x10000)) rest := by
  refine ((yields_fourDigits hdigits hn).bind _).yields ?_
  rw [if_neg (by omega), if_pos hlead]
  refine ((yields_surrogateMark '\\' _).bind _).yields ?_
  refine ((yields_surrogateMark 'u' _).bind _).yields ?_
  refine ((yields_fourDigits hdigits' hm).bind _).yields ?_
  rw [if_pos htrail]
  exact yields_pure _ rest

/-- A letter behind a backslash is read as the character it stands for. -/
theorem yields_escapedChar {letter c : Char} (h : escaped? letter = some c) :
    Yields escapedChar (letter :: rest) c rest := by
  refine ((yields_peek _).bind _).yields ?_
  dsimp only [List.head?_cons]
  split
  · cases ‹some letter = none›
  · obtain rfl := Option.some.inj ‹_›
    cases h
  · obtain rfl := Option.some.inj ‹_›
    rw [h]
    exact ((yields_advance _ rest).bind _).yields (yields_pure c rest)

/-- Behind a backslash and a `u`, a character is read by its number. -/
theorem escapedChar_goesOn (cs : List Char) : GoesOn escapedChar ('u' :: cs) numberedChar cs :=
  ((yields_peek _).bind _).trans ((yields_advance 'u' cs).bind _)

/-- An escape is read as one character. -/
theorem quotedFrom_goesOn_of_escape {c : Char} {cs mid : List Char}
    (h : Yields escapedChar cs c mid) (fuel : Nat) (read : List Char) :
    GoesOn (quotedFrom (fuel + 1) read) ('\\' :: cs) (quotedFrom fuel (c :: read)) mid :=
  ((yields_peek _).bind _).trans (((yields_advance '\\' cs).bind _).trans (h.bind _))

/-- A character is read from its spelling. -/
theorem SpellsChar.quotedFrom_goesOn {c : Char} {spelled : List Char} (h : SpellsChar c spelled)
    (fuel : Nat) (read more : List Char) :
    GoesOn (quotedFrom (fuel + 1) read) (spelled ++ more) (quotedFrom fuel (c :: read)) more := by
  cases h with
  | plain hquote hslash hcontrol =>
    refine ((yields_peek _).bind _).trans ?_
    dsimp only [List.cons_append, List.head?_cons]
    split
    · cases ‹some c = none›
    · exact absurd (Option.some.inj ‹_›) hquote
    · exact absurd (Option.some.inj ‹_›) hslash
    · obtain rfl := Option.some.inj ‹_›
      rw [if_neg hcontrol]
      exact (yields_advance c more).bind _
  | letter hletter => exact quotedFrom_goesOn_of_escape (yields_escapedChar hletter) fuel read
  | @number digits n hdigits hn hchar =>
    have hread : Yields escapedChar ('u' :: (digits ++ more)) (Char.ofNat n) more :=
      (escapedChar_goesOn _).yields (yields_numberedChar hdigits hn hchar)
    exact quotedFrom_goesOn_of_escape hread fuel read
  | @pair digits digits' n m hdigits hn hlead hdigits' hm htrail =>
    have hread : Yields escapedChar ('u' :: (digits ++ '\\' :: 'u' :: (digits' ++ more)))
        (Char.ofNat ((n - 0xD800) * 0x400 + (m - 0xDC00) + 0x10000)) more :=
      (escapedChar_goesOn _).yields
        (yields_numberedChar_of_pair hdigits hn hlead hdigits' hm htrail)
    rw [List.cons_append, List.cons_append, List.append_assoc]
    exact quotedFrom_goesOn_of_escape hread fuel read

/-- The characters of a quoted text are read from their spelling, up to the closing quote. -/
theorem Quotes.yields_quotedFrom {cs spelled : List Char} (h : Quotes cs spelled)
    (rest read : List Char) {fuel : Nat} (hfuel : cs.length < fuel) :
    Yields (quotedFrom fuel read) (spelled ++ '"' :: rest) (read.reverse ++ cs) rest := by
  obtain ⟨fuel, rfl⟩ := Nat.exists_eq_add_one_of_ne_zero (Nat.ne_zero_of_lt hfuel)
  induction h generalizing read fuel with
  | nil =>
    rw [List.append_nil]
    exact ((yields_peek _).bind _).yields
      (((yields_advance '"' rest).bind _).yields (yields_pure read.reverse rest))
  | @cons c cs spelled more hc h ih =>
    -- The character that is read stands last among those read so far.
    obtain ⟨fuel, rfl⟩ := Nat.exists_eq_add_one_of_ne_zero
      (Nat.ne_zero_of_lt (Nat.lt_of_succ_lt_succ hfuel))
    have hmore := ih (c :: read) fuel (Nat.lt_of_succ_lt_succ hfuel)
    rw [List.reverse_cons, List.append_assoc] at hmore
    rw [List.append_assoc]
    exact (hc.quotedFrom_goesOn (fuel + 1) read _).yields hmore

/-- Each character takes one character at least. -/
theorem Quotes.length_le {cs spelled : List Char} (h : Quotes cs spelled) :
    cs.length ≤ spelled.length := by
  induction h with
  | nil => exact Nat.le_refl 0
  | cons hc _ ih =>
    cases hc <;> simp only [List.length_cons, List.length_append] at ih ⊢ <;> omega

/-- A quoted text is read. -/
theorem Quotes.yields_quoted {text : String} {spelled : List Char}
    (h : Quotes text.toList spelled) (rest : List Char) :
    Yields quoted ('"' :: (spelled ++ '"' :: rest)) text rest := by
  have hfrom : Yields (quotedFrom ((spelled ++ '"' :: rest).length + 1) [])
      (spelled ++ '"' :: rest) text.toList rest :=
    h.yields_quotedFrom rest [] (by have := h.length_le; simp only [List.length_append]; omega)
  refine ((yields_advance _ _).bind _).yields ?_
  change Reads _ _ _ (some text)
  refine .get fun offset => (hfrom.bind _).reads ?_
  rw [String.ofList_toList]
  exact yields_pure text rest

/-! ## Marks between the parts -/

variable {first : Bool} {gap spaces : List Char}

/-- Before another item of a list the comma is read, unless the item is the first. -/
theorem yields_moreItems (hgap : Gap first gap) {c : Char} (hspace : isSpace c = false)
    (hc : c ≠ ']') (rest : List Char) :
    Yields (moreItems first) (gap ++ c :: rest) true (c :: rest) := by
  cases hgap with
  | first h =>
    refine ((yields_afterSpaces_cons h hspace rest).bind _).yields ?_
    dsimp only
    rw [if_neg hc, if_pos rfl]
    exact yields_pure true _
  | comma h h' =>
    rw [List.append_assoc]
    refine ((yields_afterSpaces_cons h rfl _).bind _).yields ?_
    dsimp only
    rw [if_neg (by decide), if_neg Bool.false_ne_true, if_pos rfl]
    refine ((yields_advance ',' _).bind _).yields ?_
    refine ((yields_afterSpaces_cons h' hspace rest).bind _).yields ?_
    split
    · cases ‹some c = none›
    · exact absurd (Option.some.inj ‹_›) hc
    · exact yields_pure true _

/-- After the last item there is no other one. -/
theorem yields_moreItems_of_end (first : Bool) (hspaces : Spaces spaces) (rest : List Char) :
    Yields (moreItems first) (spaces ++ ']' :: rest) false (']' :: rest) :=
  ((yields_afterSpaces_cons hspaces rfl rest).bind _).yields (yields_pure false _)

/-- The closing bracket of a list is read. -/
theorem yields_listEnd (hspaces : Spaces spaces) (rest : List Char) :
    Yields listEnd (spaces ++ ']' :: rest) () rest :=
  ((yields_afterSpaces_cons hspaces rfl rest).bind _).yields (yields_advance ']' rest)

/-- Before another entry of an object the comma is read, unless the entry is the first. -/
theorem yields_moreEntries (hgap : Gap first gap) (rest : List Char) :
    Yields (moreEntries first) (gap ++ '"' :: rest) true ('"' :: rest) := by
  cases hgap with
  | first h =>
    exact ((yields_afterSpaces_cons h rfl rest).bind _).yields (yields_pure true _)
  | comma h h' =>
    rw [List.append_assoc]
    refine ((yields_afterSpaces_cons h rfl _).bind _).yields ?_
    refine ((yields_advance ',' _).bind _).yields ?_
    exact ((yields_afterSpaces_cons h' rfl rest).bind _).yields (yields_pure true _)

/-- After the last entry there is no other one. -/
theorem yields_moreEntries_of_end (first : Bool) (hspaces : Spaces spaces) (rest : List Char) :
    Yields (moreEntries first) (spaces ++ '}' :: rest) false ('}' :: rest) :=
  ((yields_afterSpaces_cons hspaces rfl rest).bind _).yields (yields_pure false _)

/-- The closing bracket of an object is read. -/
theorem yields_objectEnd (rest : List Char) : Yields objectEnd ('}' :: rest) () rest :=
  ((yields_afterSpaces_cons spaces_nil rfl rest).bind _).yields (yields_advance '}' rest)

/-- The colon after a name is read. -/
theorem yields_colon (hspaces : Spaces spaces) (rest : List Char) :
    Yields colon (spaces ++ ':' :: rest) () rest :=
  ((yields_afterSpaces_cons hspaces rfl _).bind _).yields (yields_advance ':' rest)

end DebugShell.Json
