import DebugShell.Text.Numeral
import DebugShell.Proofs.Blank
import Mathlib.Data.List.Forall2
import Mathlib.Data.Nat.Digits.Defs
import Mathlib.Tactic.IntervalCases

/-!
# Numerals read back

The digits that write a number are read as that number, in every base up to sixteen
(`valueFrom_toDigits`). Reading is a fold over the digits (`valueFrom_append`), so the argument goes
by the last digit, which is how `Nat.toDigits` produces them. A sign or a blank is no digit, so a
written number is one word and is read whole.

What reading accepts is said apart from it: a text writes a number (`Writes`) when its characters
are digits and the number is their value in the sense of `Nat.ofDigits`. Reading yields just the
numbers that are written (`digits?_eq_some_iff`). Where a sign may be read as well, a text denotes a
number (`Denotes`) when it writes one plainly or behind one plus sign (`denotes_iff`).
-/

namespace DebugShell.Numeral

/-! ## Digits that are produced are read back -/

/-- The digits after a run of digits are read on from the value of the run. -/
theorem valueFrom_append (base acc : Nat) (cs ds : List Char) :
    valueFrom base acc (cs ++ ds) = (valueFrom base acc cs).bind fun v => valueFrom base v ds := by
  induction cs generalizing acc with
  | nil => rfl
  | cons c cs ih =>
    rw [List.cons_append, valueFrom, valueFrom]
    cases digit? base c with
    | none => rfl
    | some d => exact ih (acc * base + d)

/-- Every character of a run that has a value is a digit. -/
theorem isDigit_of_valueFrom {base acc v : Nat} {cs : List Char}
    (h : valueFrom base acc cs = some v) : ∀ c ∈ cs, isDigit base c = true := by
  induction cs generalizing acc with
  | nil =>
    intro c hc
    cases hc
  | cons c cs ih =>
    obtain ⟨d, hd, hrest⟩ := Option.bind_eq_some_iff.1 h
    intro c' hc'
    rcases List.mem_cons.1 hc' with rfl | hc'
    · rw [isDigit, hd]
      rfl
    · exact ih hrest c' hc'

/-- The character that writes a digit has its value. -/
theorem digit?_digitChar {base d : Nat} (hbase : base ≤ 16) (hd : d < base) :
    digit? base d.digitChar = some d := by
  have hvalue : digit? 16 d.digitChar = some d := by
    have hd16 : d < 16 := by omega
    interval_cases d <;> rfl
  -- The base only decides whether the value counts.
  unfold digit? at hvalue ⊢
  rw [Option.filter_eq_some_iff] at hvalue ⊢
  exact ⟨hvalue.1, by simpa using hd⟩

/-- The digits of a number are read as the number. -/
theorem valueFrom_toDigits {base : Nat} (hbase : 1 < base) (hbase' : base ≤ 16) (n : Nat) :
    valueFrom base 0 (Nat.toDigits base n) = some n := by
  induction n using Nat.strongRecOn with
  | ind n ih =>
    rw [Nat.toDigits_eq_if hbase]
    split
    · rename_i hlt
      rw [valueFrom, digit?_digitChar hbase' hlt, Option.bind_some, Nat.zero_mul, Nat.zero_add]
      rfl
    · -- The digits before the last write the quotient, and the last one writes the remainder.
      rename_i hle
      have hquotient : n / base < n := Nat.div_lt_self (by omega) hbase
      have hlast : n % base < base := Nat.mod_lt n (by omega)
      rw [valueFrom_append, ih _ hquotient, Option.bind_some, valueFrom,
        digit?_digitChar hbase' hlast, Option.bind_some, valueFrom, Nat.mul_comm, Nat.div_add_mod]

/-- A sign is no digit. -/
theorem isDigit_plus (base : Nat) : isDigit base '+' = false := rfl

/-- A number below the bound is read back from its digits. -/
theorem unsigned?_toDigits {base bound n : Nat} (hbase : 1 < base) (hbase' : base ≤ 16)
    (hn : n < bound) : unsigned? base bound (Nat.toDigits base n) = some n := by
  have hvalue := valueFrom_toDigits hbase hbase' n
  have hnil : Nat.toDigits base n ≠ [] := Nat.toDigits_ne_nil
  generalize Nat.toDigits base n = cs at hvalue hnil
  have hdigits : digits? base cs = some n := by rw [digits?, if_neg hnil, hvalue]
  unfold unsigned?
  split
  · -- No digits start with a sign.
    have hplus := isDigit_of_valueFrom hvalue '+' List.mem_cons_self
    rw [isDigit_plus] at hplus
    cases hplus
  · dsimp only
    rw [hdigits, Option.filter_some, if_pos (by simpa using hn)]

/-- A digit is no blank. -/
theorem isBlank_of_isDigit {base : Nat} {c : Char} (h : isDigit base c = true) :
    Text.isBlank c = false := by
  by_contra hblank
  have hrange : 48 ≤ c.toNat ∧ c.toNat ≤ 57 ∨ 97 ≤ c.toNat ∧ c.toNat ≤ 122 ∨
      65 ≤ c.toNat ∧ c.toNat ≤ 90 := by
    by_contra hout
    push Not at hout
    unfold isDigit digit? at h
    dsimp only at h
    rw [if_neg (by omega), if_neg (by omega), if_neg (by omega)] at h
    cases h
  rw [Bool.not_eq_false, Text.isBlank] at hblank
  simp only [Bool.or_eq_true, Bool.and_eq_true, decide_eq_true_eq, beq_iff_eq] at hblank
  omega

/-- The digits of a number are no blanks. -/
theorem isBlank_of_mem_toDigits {base : Nat} (hbase : 1 < base) (hbase' : base ≤ 16) {n : Nat}
    {c : Char} (hc : c ∈ Nat.toDigits base n) : Text.isBlank c = false :=
  isBlank_of_isDigit (isDigit_of_valueFrom (valueFrom_toDigits hbase hbase' n) c hc)

/-! ## The numbers that are read are those that are written -/

/-- `Digit base c d`: the character is a digit of the base, in either case, and `d` is its value. -/
def Digit (base : Nat) (c : Char) (d : Nat) : Prop :=
  d < base ∧ c.toLower = d.digitChar

/-- `Writes base cs n`: the characters are digits of the base, at least one, and `n` is the number
that they write, the first digit counting most. -/
def Writes (base : Nat) (cs : List Char) (n : Nat) : Prop :=
  ∃ ds : List Nat, ds ≠ [] ∧ List.Forall₂ (Digit base) cs ds ∧ n = Nat.ofDigits base ds.reverse

/-- The code point of a letter in lower case. -/
theorem toNat_toLower (c : Char) :
    c.toLower.toNat = if 65 ≤ c.toNat ∧ c.toNat ≤ 90 then c.toNat + 32 else c.toNat := by
  have hrange : c.val ≥ 'A'.val ∧ c.val ≤ 'Z'.val ↔ 65 ≤ c.toNat ∧ c.toNat ≤ 90 := by
    rw [ge_iff_le, UInt32.le_iff_toNat_le, UInt32.le_iff_toNat_le]
    rfl
  unfold Char.toLower
  split
  · rename_i h
    rw [if_pos (hrange.1 h)]
    have hle : c.val.toNat ≤ 90 := (hrange.1 h).2
    change (c.val + 32).toNat = c.val.toNat + 32
    rw [UInt32.toNat_add]
    change (c.val.toNat + 32) % 4294967296 = c.val.toNat + 32
    omega
  · rename_i h
    rw [if_neg fun hc => h (hrange.2 hc)]

/-- The code point of the character that writes a digit. -/
theorem toNat_digitChar {d : Nat} (h : d < 16) :
    d.digitChar.toNat = if d < 10 then d + 48 else d + 87 := by
  interval_cases d <;> rfl

/-- A character is read as a digit exactly if it is one. -/
theorem digit?_eq_some_iff {base : Nat} (hbase : base ≤ 16) (c : Char) (d : Nat) :
    digit? base c = some d ↔ Digit base c d := by
  unfold digit? Digit
  dsimp only
  rw [Option.filter_eq_some_iff, decide_eq_true_eq, and_comm]
  refine and_congr_right fun hd => ?_
  rw [← Char.toNat_inj, toNat_toLower, toNat_digitChar (by omega)]
  split_ifs <;> simp only [Option.some.injEq, false_iff] <;> omega

/-- Digits are read, after digits of value `acc`, as the number that they write behind those. -/
theorem valueFrom_eq_some_iff {base : Nat} (hbase : base ≤ 16) (acc : Nat) (cs : List Char)
    (n : Nat) : valueFrom base acc cs = some n ↔ ∃ ds, List.Forall₂ (Digit base) cs ds ∧
      n = Nat.ofDigits base ds.reverse + base ^ ds.length * acc := by
  induction cs generalizing acc with
  | nil =>
    simp only [valueFrom, List.forall₂_nil_left_iff, exists_eq_left, List.reverse_nil,
      Nat.ofDigits_nil, List.length_nil, pow_zero, one_mul, zero_add, Option.some.injEq]
    exact eq_comm
  | cons c cs ih =>
    simp only [valueFrom, Option.bind_eq_some_iff, digit?_eq_some_iff hbase, ih,
      List.forall₂_cons_left_iff]
    constructor
    · rintro ⟨d, hd, ds, hds, rfl⟩
      refine ⟨d :: ds, ⟨d, ds, hd, hds, rfl⟩, ?_⟩
      rw [Nat.ofDigits_reverse_cons, List.length_cons]
      ring
    · rintro ⟨-, ⟨d, ds, hd, hds, rfl⟩, rfl⟩
      refine ⟨d, hd, ds, hds, ?_⟩
      rw [Nat.ofDigits_reverse_cons, List.length_cons]
      ring

/-- A text is read as a number exactly if it writes the number. -/
theorem digits?_eq_some_iff {base : Nat} (hbase : base ≤ 16) (cs : List Char) (n : Nat) :
    digits? base cs = some n ↔ Writes base cs n := by
  unfold digits? Writes
  split
  · rename_i h
    subst h
    simp only [reduceCtorEq, false_iff, not_exists, not_and]
    intro ds hds h
    exact absurd (List.forall₂_nil_left_iff.1 h) hds
  · rename_i hne
    rw [valueFrom_eq_some_iff hbase]
    refine exists_congr fun ds => ?_
    rw [Nat.mul_zero, Nat.add_zero]
    refine ⟨fun h => ⟨?_, h⟩, fun h => h.2⟩
    rintro rfl
    exact hne (List.forall₂_nil_right_iff.1 h.1)

/-- What writes a number is not empty. -/
theorem Writes.ne_nil {base n : Nat} {cs : List Char} (h : Writes base cs n) : cs ≠ [] := by
  obtain ⟨ds, hne, hds, -⟩ := h
  rintro rfl
  exact hne (List.forall₂_nil_left_iff.1 hds)

/-- What writes a number consists of digits. -/
theorem Writes.isDigit {base n : Nat} (hbase : base ≤ 16) {cs : List Char}
    (h : Writes base cs n) : ∀ c ∈ cs, isDigit base c = true := by
  have hread := (digits?_eq_some_iff hbase cs n).2 h
  rw [digits?, if_neg h.ne_nil] at hread
  exact isDigit_of_valueFrom hread

/-- `Denotes base bound cs n`: the text is digits that write `n`, with at most one `+` in front, and
`n` is below the bound. -/
def Denotes (base bound : Nat) (cs : List Char) (n : Nat) : Prop :=
  n < bound ∧ ∃ digits, (cs = digits ∨ cs = '+' :: digits) ∧ Writes base digits n

/-- A text is read as a number below the bound exactly if it denotes one. -/
theorem unsigned?_eq_some_iff {base : Nat} (hbase : base ≤ 16) (bound : Nat) (cs : List Char)
    (n : Nat) : unsigned? base bound cs = some n ↔ Denotes base bound cs n := by
  unfold unsigned? Denotes
  dsimp only
  rw [Option.filter_eq_some_iff, decide_eq_true_eq, digits?_eq_some_iff hbase, and_comm]
  refine and_congr_right fun _ => ?_
  split
  · rename_i rest
    constructor
    · intro h
      exact ⟨rest, .inr rfl, h⟩
    · rintro ⟨digits, hsplit | hsplit, h⟩
      · -- Digits do not start with a sign.
        subst hsplit
        have hplus := h.isDigit hbase '+' List.mem_cons_self
        rw [isDigit_plus] at hplus
        cases hplus
      · cases hsplit
        exact h
  · rename_i hunsigned
    constructor
    · intro h
      exact ⟨cs, .inl rfl, h⟩
    · rintro ⟨digits, rfl | rfl, h⟩
      · exact h
      · exact absurd rfl (hunsigned digits)

/-- What denotes a number consists of digits and at most a plus sign. -/
theorem Denotes.mem {base bound n : Nat} (hbase : base ≤ 16) {cs : List Char}
    (h : Denotes base bound cs n) : ∀ c ∈ cs, c = '+' ∨ isDigit base c = true := by
  obtain ⟨-, digits, rfl | rfl, hdigits⟩ := h
  · exact fun c hc => .inr (hdigits.isDigit hbase c hc)
  · exact List.forall_mem_cons.2 ⟨.inl rfl, fun c hc => .inr (hdigits.isDigit hbase c hc)⟩

/-- What denotes a number is not empty, and holds no blanks. -/
theorem Denotes.isWord {base bound n : Nat} (hbase : base ≤ 16) {cs : List Char}
    (h : Denotes base bound cs n) : cs ≠ [] ∧ ∀ c ∈ cs, Text.isBlank c = false := by
  obtain ⟨-, digits, hsplit, hdigits⟩ := h
  have hblank : ∀ c ∈ digits, Text.isBlank c = false :=
    fun c hc => isBlank_of_isDigit (hdigits.isDigit hbase c hc)
  rcases hsplit with rfl | rfl
  · exact ⟨hdigits.ne_nil, hblank⟩
  · exact ⟨List.cons_ne_nil _ _, List.forall_mem_cons.2 ⟨by decide, hblank⟩⟩

/-- `Plain base bound cs n`: the text is digits that write `n` and nothing else, and `n` is below
the bound. -/
def Plain (base bound : Nat) (cs : List Char) (n : Nat) : Prop :=
  n < bound ∧ Writes base cs n

/-- Digits that write a number are no sign. -/
theorem Plain.not_mem_plus {base bound n : Nat} (hbase : base ≤ 16) {cs : List Char}
    (h : Plain base bound cs n) : '+' ∉ cs := by
  intro hplus
  have hdigit := h.2.isDigit hbase '+' hplus
  rw [isDigit_plus] at hdigit
  cases hdigit

/-- What denotes a number is written plainly, or behind one `+`. -/
theorem denotes_iff (base bound : Nat) (cs : List Char) (n : Nat) :
    Denotes base bound cs n ↔
      Plain base bound cs n ∨ ∃ digits, cs = '+' :: digits ∧ Plain base bound digits n := by
  constructor
  · rintro ⟨hlt, digits, rfl | rfl, hdigits⟩
    · exact .inl ⟨hlt, hdigits⟩
    · exact .inr ⟨digits, rfl, hlt, hdigits⟩
  · rintro (⟨hlt, hdigits⟩ | ⟨digits, rfl, hlt, hdigits⟩)
    · exact ⟨hlt, cs, .inl rfl, hdigits⟩
    · exact ⟨hlt, digits, .inr rfl, hdigits⟩

/-- A text without a `+` denotes a number exactly if it writes it plainly. -/
theorem denotes_iff_plain {base bound n : Nat} {cs : List Char} (h : '+' ∉ cs) :
    Denotes base bound cs n ↔ Plain base bound cs n := by
  rw [denotes_iff]
  refine or_iff_left ?_
  rintro ⟨digits, rfl, -⟩
  exact h List.mem_cons_self

/-- A machine number is read from the texts that denote it, if it stands for the numbers below the
bound. -/
theorem map_unsigned?_eq_some_iff {α : Type} {base bound : Nat} {ofNat : Nat → α} {toNat : α → Nat}
    (hbase : base ≤ 16) (hread : ∀ v, ofNat (toNat v) = v)
    (hwritten : ∀ n, n < bound → toNat (ofNat n) = n) (cs : List Char) (v : α) :
    (unsigned? base bound cs).map ofNat = some v ↔ Denotes base bound cs (toNat v) := by
  simp only [Option.map_eq_some_iff, unsigned?_eq_some_iff hbase]
  constructor
  · rintro ⟨n, hn, rfl⟩
    rwa [hwritten n hn.1]
  · intro h
    exact ⟨toNat v, h, hread v⟩

/-- A word of 64 bits is read from the texts that denote it. -/
theorem map_ofNat_unsigned?_eq_some_iff {base : Nat} (hbase : base ≤ 16) (cs : List Char)
    (v : UInt64) : (unsigned? base UInt64.size cs).map .ofNat = some v ↔
      Denotes base UInt64.size cs v.toNat :=
  map_unsigned?_eq_some_iff hbase (fun _ => UInt64.ofNat_toNat)
    (fun _ h => UInt64.toNat_ofNat_of_lt' h) cs v

/-- A hexadecimal mark is `0x` or `0X`. -/
theorem afterHexMark?_eq_some_iff (cs ds : List Char) : afterHexMark? cs = some ds ↔
    ∃ x, (x = 'x' ∨ x = 'X') ∧ cs = '0' :: x :: ds := by
  constructor
  · intro h
    unfold afterHexMark? at h
    split at h
    · obtain rfl := Option.some.inj h
      exact ⟨'x', .inl rfl, rfl⟩
    · obtain rfl := Option.some.inj h
      exact ⟨'X', .inr rfl, rfl⟩
    · cases h
  · rintro ⟨x, rfl | rfl, rfl⟩ <;> rfl

/-- What has a hexadecimal mark in front denotes no number by itself. -/
theorem not_denotes_of_afterHexMark? {base bound n : Nat} (hbase : base ≤ 16) {cs ds : List Char}
    (hmark : afterHexMark? cs = some ds) : ¬Denotes base bound cs n := by
  obtain ⟨x, hx, rfl⟩ := (afterHexMark?_eq_some_iff cs ds).1 hmark
  intro h
  rcases h.mem hbase x (by simp) with hplus | hdigit
  · rcases hx with rfl | rfl <;> cases hplus
  · -- The letter of the mark writes no digit below sixteen.
    obtain ⟨d, hd⟩ := Option.isSome_iff_exists.1 hdigit
    obtain ⟨hlt, hletter⟩ := (digit?_eq_some_iff hbase x d).1 hd
    have hlower : x.toLower = 'x' := by rcases hx with rfl | rfl <;> rfl
    have hvalue : 'x'.toNat = if d < 10 then d + 48 else d + 87 := by
      rw [← hlower, hletter, toNat_digitChar (by omega)]
    change 120 = _ at hvalue
    split at hvalue <;> omega

/-! ## The characters of written numbers -/

/-- The characters of a written number. -/
theorem toList_toString (n : Nat) : (toString n).toList = Nat.toDigits 10 n := by
  rw [Nat.toString_eq_ofList_toDigits, String.toList_ofList]

/-- The characters of a hexadecimal numeral. -/
theorem toList_hex (n : Nat) : (hex n).toList = '0' :: 'x' :: Nat.toDigits 16 n := by
  have hmark : "0x".toList = ['0', 'x'] := rfl
  rw [hex, String.toList_append, hmark, String.toList_ofList]
  rfl

/-! ## Hexadecimal numerals -/

/-- What writes a number writes no other. -/
theorem Writes.unique {base n m : Nat} (hbase : base ≤ 16) {cs : List Char}
    (h : Writes base cs n) (h' : Writes base cs m) : m = n := by
  have hread := (digits?_eq_some_iff hbase cs n).2 h
  have hread' := (digits?_eq_some_iff hbase cs m).2 h'
  exact Option.some.inj (hread'.symm.trans hread)

/-- The digits of a number write it. -/
theorem writes_toDigits {base : Nat} (hbase : 1 < base) (hbase' : base ≤ 16) (n : Nat) :
    Writes base (Nat.toDigits base n) n := by
  rw [← digits?_eq_some_iff hbase', digits?, if_neg Nat.toDigits_ne_nil]
  exact valueFrom_toDigits hbase hbase' n

/-- `WritesHex cs n`: the text is digits that write `n` in base sixteen, behind the mark `0x`. -/
def WritesHex (cs : List Char) (n : Nat) : Prop :=
  ∃ digits, cs = '0' :: 'x' :: digits ∧ Writes 16 digits n

/-- `WritesSigned cs v`: the text writes `v` in base sixteen. In front of the mark stands a minus
sign if `v` is negative, and nothing else. -/
inductive WritesSigned : List Char → Int → Prop
  /-- The number is not negative. -/
  | plain {cs : List Char} {n : Nat} (h : WritesHex cs n) : WritesSigned cs n
  /-- The number is negative. -/
  | negative {cs : List Char} {n : Nat} (h : WritesHex cs n) (hn : 0 < n) :
    WritesSigned ('-' :: cs) (-n)

/-- What writes a number behind a mark writes no other. -/
theorem WritesHex.unique {cs : List Char} {n m : Nat} (h : WritesHex cs n)
    (h' : WritesHex cs m) : m = n := by
  obtain ⟨digits, rfl, hn⟩ := h
  obtain ⟨digits', hdigits, hm⟩ := h'
  cases hdigits
  exact hn.unique (by decide) hm

/-- It consists of the mark's letter and digits. -/
theorem WritesHex.mem {cs : List Char} {n : Nat} (h : WritesHex cs n) :
    ∀ c ∈ cs, c = 'x' ∨ isDigit 16 c = true := by
  obtain ⟨digits, rfl, hn⟩ := h
  have hdigits : ∀ c ∈ digits, c = 'x' ∨ isDigit 16 c = true :=
    fun c hc => .inr (hn.isDigit (by decide) c hc)
  exact List.forall_mem_cons.2 ⟨.inr rfl, List.forall_mem_cons.2 ⟨.inl rfl, hdigits⟩⟩

/-- There is no minus sign in it. -/
theorem WritesHex.not_mem_minus {cs : List Char} {n : Nat} (h : WritesHex cs n) : '-' ∉ cs := by
  intro hminus
  rcases h.mem '-' hminus with hletter | hdigit
  · cases hletter
  · cases hdigit

/-- What writes an integer writes no other. -/
theorem WritesSigned.unique {cs : List Char} {v w : Int} (h : WritesSigned cs v)
    (h' : WritesSigned cs w) : w = v := by
  cases h with
  | plain h =>
    cases h' with
    | plain h' => rw [h.unique h']
    | negative => exact absurd List.mem_cons_self h.not_mem_minus
  | negative h =>
    cases h' with
    | plain h' => exact absurd List.mem_cons_self h'.not_mem_minus
    | negative h' => rw [h.unique h']

/-- It consists of minus signs, the mark's letter and digits. -/
theorem WritesSigned.mem {cs : List Char} {v : Int} (h : WritesSigned cs v) :
    ∀ c ∈ cs, c = '-' ∨ c = 'x' ∨ isDigit 16 c = true := by
  cases h with
  | plain h => exact fun c hc => .inr (h.mem c hc)
  | negative h => exact List.forall_mem_cons.2 ⟨.inl rfl, fun c hc => .inr (h.mem c hc)⟩

/-- The hexadecimal numeral of a number writes it. -/
theorem writesHex_hex (n : Nat) : WritesHex (hex n).toList n :=
  ⟨_, toList_hex n, writes_toDigits (by decide) (by decide) n⟩

/-- The hexadecimal numeral of an integer writes it. -/
theorem writesSigned_signedHex (v : Int) : WritesSigned (signedHex v).toList v := by
  have hmagnitude : WritesHex (hex v.natAbs).toList v.natAbs := writesHex_hex v.natAbs
  unfold signedHex
  split
  · rename_i hnegative
    have hminus : ("-" ++ hex v.natAbs).toList = '-' :: (hex v.natAbs).toList := by
      rw [String.toList_append]
      rfl
    have hpos : 0 < v.natAbs := by omega
    have hv : -(v.natAbs : Int) = v := by omega
    rw [hminus, ← hv, Int.natAbs_neg, Int.natAbs_natCast]
    exact .negative hmagnitude hpos
  · rename_i hnonneg
    have hv : (v.natAbs : Int) = v := by omega
    have hplain : WritesSigned (hex v.natAbs).toList (v.natAbs : Int) := .plain hmagnitude
    rwa [hv] at hplain

end DebugShell.Numeral
