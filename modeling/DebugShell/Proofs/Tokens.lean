import DebugShell.Proofs.Grammar

/-!
# Reading tokens

Cutting a text into tokens yields tokens that it writes (`written_of_tokensFrom`), and it yields
every list of tokens that the text writes without two operands next to each other
(`tokensFrom_of_written`). The condition cannot be left out, since a text may write its tokens in
several ways: `ab` is one symbol, or the symbols `a` and `b`.

A name or a number is taken as long as it goes on. So a spelled operand is read as itself only if
what follows does not go on with it (`Stops`), and this is what a token that is no operand, a space
or the end of the text ensures.
-/

namespace DebugShell.Expression

/-! ## Classes of characters -/

/-- The code points that a name can start with. -/
theorem isNameStart_iff (c : Char) : isNameStart c = true ↔
    65 ≤ c.toNat ∧ c.toNat ≤ 90 ∨ 97 ≤ c.toNat ∧ c.toNat ≤ 122 ∨ c.toNat = 95 := by
  have hunderscore : c = '_' ↔ c.toNat = 95 := by rw [← Char.toNat_inj]; rfl
  have hupper : c.isUpper = true ↔ 65 ≤ c.toNat ∧ c.toNat ≤ 90 := by
    have hdef : c.isUpper = decide ('A'.val ≤ c.val ∧ c.val ≤ 'Z'.val) := rfl
    rw [hdef, decide_eq_true_eq, UInt32.le_iff_toNat_le, UInt32.le_iff_toNat_le]
    rfl
  have hlower : c.isLower = true ↔ 97 ≤ c.toNat ∧ c.toNat ≤ 122 := by
    have hdef : c.isLower = (decide ('a'.val ≤ c.val) && decide (c.val ≤ 'z'.val)) := rfl
    rw [hdef, Bool.and_eq_true, decide_eq_true_eq, decide_eq_true_eq, UInt32.le_iff_toNat_le,
      UInt32.le_iff_toNat_le]
    rfl
  have hdef : isNameStart c = (c.isUpper || c.isLower || c == '_') := rfl
  rw [hdef, Bool.or_eq_true, Bool.or_eq_true, hupper, hlower, beq_iff_eq, hunderscore, or_assoc]

/-- The code points that a name can go on with. -/
theorem isNameChar_iff (c : Char) : isNameChar c = true ↔
    isNameStart c = true ∨ 48 ≤ c.toNat ∧ c.toNat ≤ 57 ∨ c = '.' := by
  have hdigit : c.isDigit = true ↔ 48 ≤ c.toNat ∧ c.toNat ≤ 57 := by
    have hdef : c.isDigit = (decide ('0'.val ≤ c.val) && decide (c.val ≤ '9'.val)) := rfl
    rw [hdef, Bool.and_eq_true, decide_eq_true_eq, decide_eq_true_eq, UInt32.le_iff_toNat_le,
      UInt32.le_iff_toNat_le]
    rfl
  have hdef : isNameChar c = (c.isAlpha || c.isDigit || c == '_' || c == '.') := rfl
  rw [hdef, isNameStart]
  simp only [Bool.or_eq_true, beq_iff_eq, hdigit]
  tauto

/-- The code points of the decimal digits. -/
theorem isDigit_ten_iff (c : Char) :
    Numeral.isDigit 10 c = true ↔ 48 ≤ c.toNat ∧ c.toNat ≤ 57 := by
  simp only [Numeral.isDigit, Numeral.digit?, Option.isSome_filter]
  split_ifs <;> simp only [Option.any_some, Option.any_none, decide_eq_true_eq, Bool.false_eq_true,
    false_iff] <;> omega

/-- The digits of a number belong to the characters that a name can go on with. -/
theorem isNameChar_of_isDigit {base : Nat} {c : Char} (h : Numeral.isDigit base c = true) :
    isNameChar c = true := by
  by_contra hname
  rw [isNameChar_iff, isNameStart_iff] at hname
  push Not at hname
  unfold Numeral.isDigit Numeral.digit? at h
  dsimp only at h
  rw [if_neg (by omega), if_neg (by omega), if_neg (by omega)] at h
  cases h

/-- A character that a name can start with is none that a name only goes on with. -/
theorem isDigit_ten_of_isNameStart {c : Char} (h : isNameStart c = true) :
    Numeral.isDigit 10 c = false := by
  rw [isNameStart_iff] at h
  rw [Bool.eq_false_iff, ne_eq, isDigit_ten_iff]
  omega

/-- The characters that can stand between the operands of an expression: spaces and signs. -/
def breaks : List Char :=
  spaces ++ ['+', '-', '*', '(', ')']

/-- A space is a break. -/
theorem mem_breaks_of_mem_spaces {c : Char} (h : c ∈ spaces) : c ∈ breaks :=
  List.mem_append_left _ h

/-- A break is no character of a name. -/
theorem isNameChar_of_mem_breaks {c : Char} (h : c ∈ breaks) : isNameChar c = false := by
  have hall : breaks.all (fun d => !isNameChar d) = true := by decide
  have hc := List.all_eq_true.1 hall c h
  rwa [Bool.not_eq_true'] at hc

/-- A character of a name is no space. -/
theorem isSpace_of_isNameChar {c : Char} (h : isNameChar c = true) : isSpace c = false := by
  by_contra hspace
  rw [Bool.not_eq_false] at hspace
  rw [isNameChar_of_mem_breaks (mem_breaks_of_mem_spaces ((isSpace_iff c).1 hspace))] at h
  cases h

/-! ## One token -/

section TokenAt

variable {c : Char} (rest : List Char)

/-- Where a name can start, the longest name there is read as a symbol. -/
theorem tokenAt?_name (h : isNameStart c = true) : tokenAt? c rest =
    some (.symbol (String.ofList (c :: rest.takeWhile isNameChar)),
      (rest.takeWhile isNameChar).length) := by
  -- The tests for signs come first, and no sign can start a name.
  have hsign {d : Char} (hd : isNameStart d = false) : c ≠ d := by
    rintro rfl
    rw [h] at hd
    cases hd
  unfold tokenAt?
  rw [if_neg (hsign rfl), if_neg (hsign rfl), if_neg (hsign rfl), if_neg (hsign rfl),
    if_neg (hsign rfl), if_pos h]

/-- Behind the mark of registers the longest name there is read, if one can start there. -/
theorem tokenAt?_mark : tokenAt? '$' rest =
    if rest.head?.any isNameStart then
      some (.register (String.ofList (rest.takeWhile isNameChar)),
        (rest.takeWhile isNameChar).length)
    else none := rfl

/-- The hexadecimal digits at the start of a text, behind a mark. -/
def hexDigits (cs : List Char) : List Char :=
  match Numeral.afterHexMark? cs with
  | some digits => digits.takeWhile (Numeral.isDigit 16)
  | none => []

/-- Where a decimal digit stands, a number is read: the hexadecimal one, or if there is none, the
decimal one. -/
theorem tokenAt?_digit (h : Numeral.isDigit 10 c = true) : tokenAt? c rest =
    if hexDigits (c :: rest) = [] then
      (number? 10 (c :: rest.takeWhile (Numeral.isDigit 10))).map fun n =>
        (.number n, (rest.takeWhile (Numeral.isDigit 10)).length)
    else
      (number? 16 (hexDigits (c :: rest))).map fun n =>
        (.number n, (hexDigits (c :: rest)).length + 1) := by
  -- All other tests come first: signs and marks are no digits, and no name starts with a digit.
  have hsign {d : Char} (hd : Numeral.isDigit 10 d = false) : c ≠ d := by
    rintro rfl
    rw [h] at hd
    cases hd
  have hname : ¬isNameStart c = true := by
    intro hc
    rw [isDigit_ten_of_isNameStart hc] at h
    cases h
  unfold tokenAt?
  rw [if_neg (hsign rfl), if_neg (hsign rfl), if_neg (hsign rfl), if_neg (hsign rfl),
    if_neg (hsign rfl), if_neg hname, if_neg (hsign rfl), if_pos h]
  rfl

end TokenAt

/-- A token that is read starts with a sign, with a name, with a mark or with a digit. -/
theorem tokenAt?_cases {c : Char} {rest : List Char} {t : Token} {n : Nat}
    (h : tokenAt? c rest = some (t, n)) : (n = 0 ∧ Spells t [c] ∧ t.isOperand = false) ∨
      isNameStart c = true ∨ c = '$' ∨ Numeral.isDigit 10 c = true := by
  by_cases hplus : c = '+'
  · subst hplus
    cases h
    exact .inl ⟨rfl, .plus, rfl⟩
  by_cases hminus : c = '-'
  · subst hminus
    cases h
    exact .inl ⟨rfl, .minus, rfl⟩
  by_cases htimes : c = '*'
  · subst htimes
    cases h
    exact .inl ⟨rfl, .times, rfl⟩
  by_cases hopening : c = '('
  · subst hopening
    cases h
    exact .inl ⟨rfl, .opening, rfl⟩
  by_cases hclosing : c = ')'
  · subst hclosing
    cases h
    exact .inl ⟨rfl, .closing, rfl⟩
  -- No other token is read where none of the remaining tests holds.
  by_contra hout
  simp only [not_or] at hout
  obtain ⟨-, hname, hmark, hdigit⟩ := hout
  unfold tokenAt? at h
  rw [if_neg hplus, if_neg hminus, if_neg htimes, if_neg hopening, if_neg hclosing,
    if_neg hname, if_neg hmark, if_neg hdigit] at h
  cases h

/-- The numbers that are read from digits are those below the bound that the digits write. -/
theorem number?_eq_some_iff {base : Nat} (hbase : base ≤ 16) (cs : List Char) (n : Nat) :
    number? base cs = some n ↔ Numeral.Writes base cs n ∧ n < 2 ^ 127 := by
  have hbound : numberBound = 2 ^ 127 := rfl
  rw [number?, Option.filter_eq_some_iff, Numeral.digits?_eq_some_iff hbase, decide_eq_true_eq,
    hbound]

/-- What is taken from the start of a text while a test holds is a start of the text. -/
theorem take_length_takeWhile (p : Char → Bool) (cs : List Char) :
    cs.take (cs.takeWhile p).length = cs.takeWhile p :=
  (List.prefix_iff_eq_take.1 (List.takeWhile_prefix p)).symm

/-- Hexadecimal digits that are read stand behind a mark. -/
theorem exists_mark_of_hexDigits {c : Char} {rest : List Char}
    (h : hexDigits (c :: rest) ≠ []) : ∃ x digits, (x = 'x' ∨ x = 'X') ∧ c = '0' ∧
      rest = x :: digits ∧ hexDigits (c :: rest) = digits.takeWhile (Numeral.isDigit 16) := by
  unfold hexDigits at h ⊢
  cases hmark : Numeral.afterHexMark? (c :: rest) with
  | none =>
    rw [hmark] at h
    exact absurd rfl h
  | some digits =>
    obtain ⟨x, hx, hsplit⟩ := (Numeral.afterHexMark?_eq_some_iff _ _).1 hmark
    obtain ⟨rfl, rfl⟩ := List.cons.inj hsplit
    exact ⟨x, digits, hx, rfl, rfl, rfl⟩

/-- What is read as a token spells it. -/
theorem spells_of_tokenAt? {c : Char} {rest : List Char} {t : Token} {n : Nat}
    (h : tokenAt? c rest = some (t, n)) : Spells t (c :: rest.take n) := by
  rcases tokenAt?_cases h with ⟨rfl, hspells, -⟩ | hname | rfl | hdigit
  · exact hspells
  · -- A symbol.
    rw [tokenAt?_name rest hname] at h
    obtain ⟨rfl, rfl⟩ := Prod.mk.inj (Option.some.inj h)
    rw [take_length_takeWhile]
    exact .symbol ((isName_cons_iff _ _).2 ⟨hname, fun d hd => List.mem_takeWhile_imp hd⟩)
  · -- A register.
    rw [tokenAt?_mark] at h
    split_ifs at h with hstart
    obtain ⟨rfl, rfl⟩ := Prod.mk.inj (Option.some.inj h)
    rw [take_length_takeWhile]
    -- The longest name behind the mark is one because its first character can start a name.
    cases rest with
    | nil => cases hstart
    | cons d rest =>
      have hd : isNameStart d = true := hstart
      have hlonger : isNameChar d = true := (isNameChar_iff d).2 (.inl hd)
      rw [List.takeWhile_cons_of_pos hlonger]
      exact .register ((isName_cons_iff _ _).2 ⟨hd, fun d' hd' => List.mem_takeWhile_imp hd'⟩)
  · -- A number, in base ten or behind a hexadecimal mark.
    rw [tokenAt?_digit rest hdigit] at h
    split_ifs at h with hhex
    · obtain ⟨value, hvalue, hpair⟩ := Option.map_eq_some_iff.1 h
      obtain ⟨rfl, rfl⟩ := Prod.mk.inj hpair
      obtain ⟨hwrites, hbound⟩ := (number?_eq_some_iff (by decide) _ _).1 hvalue
      rw [take_length_takeWhile]
      exact .decimal hwrites hbound
    · obtain ⟨value, hvalue, hpair⟩ := Option.map_eq_some_iff.1 h
      obtain ⟨rfl, rfl⟩ := Prod.mk.inj hpair
      obtain ⟨hwrites, hbound⟩ := (number?_eq_some_iff le_rfl _ _).1 hvalue
      obtain ⟨x, digits, hx, rfl, rfl, hdigits⟩ := exists_mark_of_hexDigits hhex
      rw [hdigits] at hwrites ⊢
      rw [List.take_succ_cons, take_length_takeWhile]
      exact .hexadecimal hx hwrites hbound

/-- A name has a first character. -/
theorem IsName.exists_cons {cs : List Char} (h : IsName cs) :
    ∃ first rest, cs = first :: rest := by
  cases cs with
  | nil => cases h
  | cons first rest => exact ⟨first, rest, rfl⟩

/-- Every character of a name can go on with one. -/
theorem IsName.isNameChar {cs : List Char} (h : IsName cs) :
    ∀ c ∈ cs, isNameChar c = true := by
  obtain ⟨first, rest, rfl⟩ := h.exists_cons
  obtain ⟨hfirst, hrest⟩ := (isName_cons_iff first rest).1 h
  intro c hc
  rcases List.mem_cons.1 hc with rfl | hc
  · exact (isNameChar_iff c).2 (.inl hfirst)
  · exact hrest c hc

/-! ## A spelled token is read as itself -/

/-- `Stops cs`: the text ends here, or a break stands here, so that no operand goes on into it. -/
def Stops (cs : List Char) : Prop :=
  ∀ c ∈ cs.head?, c ∈ breaks

/-- A run of characters of names is taken up to where it stops. -/
theorem Stops.takeWhile_append {p : Char → Bool} (hp : ∀ c, p c = true → isNameChar c = true)
    {run cs : List Char} (hrun : ∀ c ∈ run, p c = true) (hs : Stops cs) :
    (run ++ cs).takeWhile p = run := by
  rw [List.takeWhile_append_of_pos hrun]
  cases cs with
  | nil => exact List.append_nil run
  | cons c cs =>
    have hc : ¬p c = true := by
      intro h
      have hname := hp c h
      rw [isNameChar_of_mem_breaks (hs c rfl)] at hname
      cases hname
    rw [List.takeWhile_cons_of_neg hc, List.append_nil]

/-- Decimal digits are not followed by hexadecimal ones behind a mark. -/
theorem hexDigits_of_decimal {digits cs : List Char}
    (h : ∀ c ∈ digits, Numeral.isDigit 10 c = true) (hs : Stops cs) (hne : digits ≠ []) :
    hexDigits (digits ++ cs) = [] := by
  by_contra hhex
  obtain ⟨first, digits, rfl⟩ := List.exists_cons_of_ne_nil hne
  obtain ⟨x, after, hx, -, hrest, -⟩ := exists_mark_of_hexDigits hhex
  -- The `x` of the mark is no decimal digit, and it would go on with a number.
  cases digits with
  | nil =>
    have hcs : cs = x :: after := hrest
    have hbreak : x ∈ breaks := hs x (by rw [hcs, List.head?_cons]; rfl)
    rcases hx with rfl | rfl <;> exact absurd hbreak (by decide)
  | cons d digits =>
    obtain ⟨rfl, -⟩ := List.cons.inj hrest
    have hd := h d (List.mem_cons_of_mem _ List.mem_cons_self)
    rcases hx with rfl | rfl <;> cases hd

/-- `ReadAs t lexeme cs`: in front of `cs`, the characters `lexeme` are read as the token. -/
def ReadAs (t : Token) (lexeme cs : List Char) : Prop :=
  ∃ c rest, lexeme = c :: rest ∧ isSpace c = false ∧ tokenAt? c (rest ++ cs) = some (t, rest.length)

/-- A spelled token is read as itself, in front of a text that does not go on with it. -/
theorem Spells.readAs {t : Token} {lexeme cs : List Char} (h : Spells t lexeme)
    (hs : t.isOperand = true → Stops cs) : ReadAs t lexeme cs := by
  cases h with
  | @decimal _ n hwrites hbound =>
    -- The digits are taken as a whole, and no hexadecimal mark is seen among them.
    have hdigits := hwrites.isDigit (by decide)
    have hhex := hexDigits_of_decimal hdigits (hs rfl) hwrites.ne_nil
    obtain ⟨c, rest, rfl⟩ := List.exists_cons_of_ne_nil hwrites.ne_nil
    rw [List.cons_append] at hhex
    have hc : Numeral.isDigit 10 c = true := hdigits c List.mem_cons_self
    have htake : (rest ++ cs).takeWhile (Numeral.isDigit 10) = rest :=
      (hs rfl).takeWhile_append (fun _ => isNameChar_of_isDigit)
        fun d hd => hdigits d (List.mem_cons_of_mem c hd)
    refine ⟨c, rest, rfl, isSpace_of_isNameChar (isNameChar_of_isDigit hc), ?_⟩
    rw [tokenAt?_digit _ hc, if_pos hhex, htake, (number?_eq_some_iff (by decide) _ _).2
      ⟨hwrites, hbound⟩, Option.map_some]
  | @hexadecimal x digits n hx hwrites hbound =>
    have htake : (digits ++ cs).takeWhile (Numeral.isDigit 16) = digits :=
      (hs rfl).takeWhile_append (fun _ => isNameChar_of_isDigit) (hwrites.isDigit le_rfl)
    have hhex : hexDigits ('0' :: (x :: digits ++ cs)) = digits := by
      have hmark : Numeral.afterHexMark? ('0' :: x :: (digits ++ cs)) = some (digits ++ cs) :=
        (Numeral.afterHexMark?_eq_some_iff _ _).2 ⟨x, hx, rfl⟩
      rw [hexDigits, List.cons_append, hmark]
      exact htake
    refine ⟨'0', x :: digits, rfl, rfl, ?_⟩
    rw [tokenAt?_digit _ rfl, hhex, if_neg hwrites.ne_nil, (number?_eq_some_iff le_rfl _ _).2
      ⟨hwrites, hbound⟩, Option.map_some, List.length_cons]
  | @register name hname =>
    obtain ⟨first, rest, rfl⟩ := hname.exists_cons
    obtain ⟨hfirst, -⟩ := (isName_cons_iff first rest).1 hname
    have htake := (hs rfl).takeWhile_append (fun _ h => h) hname.isNameChar
    refine ⟨'$', first :: rest, rfl, rfl, ?_⟩
    rw [tokenAt?_mark, htake, List.cons_append, List.head?_cons, Option.any_some, if_pos hfirst]
  | @symbol _ hname =>
    obtain ⟨first, rest, rfl⟩ := hname.exists_cons
    obtain ⟨hfirst, hrest⟩ := (isName_cons_iff first rest).1 hname
    have htake := (hs rfl).takeWhile_append (fun _ h => h) hrest
    have hspace := isSpace_of_isNameChar (hname.isNameChar first List.mem_cons_self)
    refine ⟨first, rest, rfl, hspace, ?_⟩
    rw [tokenAt?_name _ hfirst, htake]
  | plus | minus | times | opening | closing => exact ⟨_, [], rfl, rfl, rfl⟩

/-! ## All tokens of a text -/

/-- Tokens that are read are written. -/
theorem written_of_tokensFrom {skip : Nat} {cs : List Char} {ts : List Token}
    (h : tokensFrom skip cs = some ts) : Written ts (cs.drop skip) := by
  -- By induction on the text, where the characters of a token that was read are dropped one by one.
  induction cs generalizing skip ts with
  | nil =>
    rw [tokensFrom] at h
    obtain rfl := Option.some.inj h
    rw [List.drop_nil]
    exact .nil
  | cons c rest ih =>
    cases skip with
    | succ skip => exact ih h
    | zero =>
      rw [List.drop_zero]
      rw [tokensFrom] at h
      split_ifs at h with hspace
      · exact .space ((isSpace_iff c).1 hspace) (ih h)
      · split at h
        · rename_i t length htoken
          obtain ⟨ts', hrest, rfl⟩ := Option.map_eq_some_iff.1 h
          have hsplit : c :: rest = (c :: rest.take length) ++ rest.drop length := by
            rw [List.cons_append, List.take_append_drop]
          rw [hsplit]
          exact .token (spells_of_tokenAt? htoken) (ih hrest)
        · cases h

/-- The characters of a token that has been read are passed over. -/
theorem tokensFrom_length (lexeme cs : List Char) :
    tokensFrom lexeme.length (lexeme ++ cs) = tokensFrom 0 cs := by
  induction lexeme with
  | nil => rfl
  | cons c rest ih => exact ih

/-- In front of a token that is no operand, and at the end, no operand goes on. -/
theorem Written.stops {ts : List Token} {cs : List Char} (h : Written ts cs)
    (ht : ∀ t ∈ ts.head?, t.isOperand = false) : Stops cs := by
  cases h with
  | nil =>
    rintro c hc
    cases hc
  | space hc _ =>
    rintro d hd
    obtain rfl := Option.some.inj hd
    exact mem_breaks_of_mem_spaces hc
  | @token t ts lexeme cs hspells _ =>
    have hoperand := ht t rfl
    rintro d hd
    cases hspells with
    | decimal _ _ | hexadecimal _ _ _ | register _ | symbol _ => cases hoperand
    | plus | minus | times | opening | closing =>
      obtain rfl := Option.some.inj hd
      decide

/-- No operand goes on into what follows it, if no operands stand next to each other. -/
theorem Written.stops_of_apart {t : Token} {ts : List Token} {cs : List Char} (h : Written ts cs)
    (hapart : Apart (t :: ts)) (ht : t.isOperand = true) : Stops cs := by
  refine h.stops fun u hu => ?_
  rw [Bool.eq_false_iff]
  exact fun hu' => (List.isChain_cons.1 hapart).1 u hu ⟨ht, hu'⟩

/-- Tokens that are written with no operands next to each other are read. -/
theorem tokensFrom_of_written {ts : List Token} {cs : List Char} (h : Written ts cs)
    (hapart : Apart ts) : tokensFrom 0 cs = some ts := by
  induction h with
  | nil => rfl
  | space hc _ ih => rw [tokensFrom, if_pos ((isSpace_iff _).2 hc), ih hapart]
  | @token t ts lexeme cs hspells hwritten ih =>
    -- The token is read as itself, and reading goes on right behind its spelling.
    obtain ⟨c, rest, rfl, hspace, htoken⟩ := hspells.readAs (hwritten.stops_of_apart hapart)
    rw [List.cons_append, tokensFrom, if_neg (by rw [hspace]; decide), htoken]
    dsimp only
    rw [tokensFrom_length, ih hapart.tail, Option.map_some]

end DebugShell.Expression
