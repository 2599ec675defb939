import DebugShell.Proofs.Numeral
import DebugShell.Proofs.Readers

/-!
# The texts that write JSON values

`Writes` says which texts write a value, apart from any reader: with any spaces around the parts,
and with any of the spellings that a character has in quotes. An integer has one spelling, and any
other number is its own literal. An object is written without a name standing twice.
-/

namespace DebugShell.Json

/-! ## Numbers -/

/-- One decimal digit or more, and nothing else. -/
def IsDigits (cs : List Char) : Prop :=
  cs ≠ [] ∧ ∀ c ∈ cs, isDigit c = true

/-- The whole part of a number: digits, which start with a zero only if it is all there is. -/
def IsWhole (cs : List Char) : Prop :=
  IsDigits cs ∧ (cs.head? = some '0' → cs = ['0'])

/-- The fraction of a number, where there is one. -/
inductive IsFraction : List Char → Prop
  /-- No fraction. -/
  | missing : IsFraction []
  /-- A point and digits. -/
  | given {digits : List Char} (h : IsDigits digits) : IsFraction ('.' :: digits)

/-- The exponent of a number, where there is one. -/
inductive IsExponent : List Char → Prop
  /-- No exponent. -/
  | missing : IsExponent []
  /-- A mark, a sign or none, and digits. -/
  | given {mark : Char} {sign digits : List Char} (hmark : mark = 'e' ∨ mark = 'E')
    (hsign : sign = [] ∨ sign = ['+'] ∨ sign = ['-']) (h : IsDigits digits) :
    IsExponent (mark :: (sign ++ digits))

/-- A number as it is written, part by part. -/
structure Literal where
  /-- Whether there is a minus sign in front. -/
  negative : Bool
  /-- The digits before the fraction. -/
  whole : List Char
  /-- The fraction. -/
  fraction : List Char
  /-- The exponent. -/
  exponent : List Char
  /-- The digits start with a zero only if it is all there is. -/
  isWhole : IsWhole whole
  /-- The fraction has its point and its digits, or is missing. -/
  isFraction : IsFraction fraction
  /-- The exponent has its mark and its digits, or is missing. -/
  isExponent : IsExponent exponent

/-- The minus sign of a number, if it has one. -/
def signOf (negative : Bool) : List Char :=
  if negative then ['-'] else []

/-- The characters of a literal. -/
def Literal.text (l : Literal) : List Char :=
  signOf l.negative ++ (l.whole ++ (l.fraction ++ l.exponent))

/-- Whether a literal stands for an integer. A negative zero does not. -/
def Literal.IsInteger (l : Literal) : Prop :=
  l.fraction = [] ∧ l.exponent = [] ∧ ¬(l.negative = true ∧ l.whole = ['0'])

/-! ## Quoted texts -/

/-- `SpellsChar c spelled`: between quotes, a character may be spelled so. -/
inductive SpellsChar : Char → List Char → Prop
  /-- A character that stands for itself. -/
  | plain {c : Char} (hquote : c ≠ '"') (hslash : c ≠ '\\') (hcontrol : ¬c < ' ') :
    SpellsChar c [c]
  /-- A character by its letter. -/
  | letter {letter c : Char} (h : escaped? letter = some c) : SpellsChar c ['\\', letter]
  /-- A character by its number. -/
  | number {digits : List Char} {n : Nat} (hdigits : digits.length = 4)
    (hn : Numeral.Writes 16 digits n) (hchar : ¬(0xD800 ≤ n ∧ n ≤ 0xDFFF)) :
    SpellsChar (Char.ofNat n) ('\\' :: 'u' :: digits)
  /-- A character beyond the first 65536, by the numbers of two surrogates. -/
  | pair {digits digits' : List Char} {n m : Nat} (hdigits : digits.length = 4)
    (hn : Numeral.Writes 16 digits n) (hlead : 0xD800 ≤ n ∧ n ≤ 0xDBFF)
    (hdigits' : digits'.length = 4) (hm : Numeral.Writes 16 digits' m)
    (htrail : 0xDC00 ≤ m ∧ m ≤ 0xDFFF) :
    SpellsChar (Char.ofNat ((n - 0xD800) * 0x400 + (m - 0xDC00) + 0x10000))
      ('\\' :: 'u' :: (digits ++ '\\' :: 'u' :: digits'))

/-- `Quotes cs spelled`: between quotes, the characters are spelled so. -/
inductive Quotes : List Char → List Char → Prop
  /-- No characters. -/
  | nil : Quotes [] []
  /-- A character, and those after it. -/
  | cons {c : Char} {cs spelled more : List Char} (hc : SpellsChar c spelled)
    (h : Quotes cs more) : Quotes (c :: cs) (spelled ++ more)

/-! ## Values -/

/-- What stands before an item of a list or an entry of an object. -/
inductive Gap : Bool → List Char → Prop
  /-- Before the first one there are spaces. -/
  | first {spaces : List Char} (h : Spaces spaces) : Gap true spaces
  /-- Before any other one there is a comma among spaces. -/
  | comma {spaces spaces' : List Char} (h : Spaces spaces) (h' : Spaces spaces') :
    Gap false (spaces ++ ',' :: spaces')

mutual

/-- `Writes json cs`: the text `cs` writes the value, from its first character to its last. -/
inductive Writes : Json → List Char → Prop
  /-- No value. -/
  | null : Writes .null ['n', 'u', 'l', 'l']
  /-- A true Boolean. -/
  | true : Writes (.bool true) ['t', 'r', 'u', 'e']
  /-- A false Boolean. -/
  | false : Writes (.bool false) ['f', 'a', 'l', 's', 'e']
  /-- An integer. -/
  | integer (value : Int) : Writes (.integer value) (toString value).toList
  /-- Any other number. -/
  | decimal {l : Literal} (h : ¬l.IsInteger) : Writes (.decimal (.ofList l.text)) l.text
  /-- A text. -/
  | string {text : String} {spelled : List Char} (h : Quotes text.toList spelled) :
    Writes (.string text) ('"' :: (spelled ++ ['"']))
  /-- A list. -/
  | list {items : List Json} {spelled : List Char} (h : WritesItems true items spelled) :
    Writes (.list items) ('[' :: (spelled ++ [']']))
  /-- An object, in which no name stands twice. -/
  | object {entries : List (String × Json)} {spelled : List Char}
    (hnames : (entries.map (·.1)).Nodup) (h : WritesEntries true entries spelled) :
    Writes (.object entries) ('{' :: (spelled ++ ['}']))

/-- `WritesItems first items cs`: the text writes the items that are left of a list, the first of
which is the first of all or not, up to the closing bracket. -/
inductive WritesItems : Bool → List Json → List Char → Prop
  /-- No items. -/
  | nil {first : Bool} {spaces : List Char} (h : Spaces spaces) : WritesItems first [] spaces
  /-- An item, and those after it. -/
  | cons {first : Bool} {json : Json} {rest : List Json} {gap spelled more : List Char}
    (hgap : Gap first gap) (h : Writes json spelled) (hrest : WritesItems false rest more) :
    WritesItems first (json :: rest) (gap ++ (spelled ++ more))

/-- `WritesEntries first entries cs`: the text writes the entries that are left of an object, the
first of which is the first of all or not, up to the closing bracket. -/
inductive WritesEntries : Bool → List (String × Json) → List Char → Prop
  /-- No entries. -/
  | nil {first : Bool} {spaces : List Char} (h : Spaces spaces) : WritesEntries first [] spaces
  /-- An entry, and those after it. -/
  | cons {first : Bool} {name : String} {json : Json} {rest : List (String × Json)}
    {gap quoted spaces spaces' spelled more : List Char} (hgap : Gap first gap)
    (hname : Quotes name.toList quoted) (hspaces : Spaces spaces) (hspaces' : Spaces spaces')
    (h : Writes json spelled) (hrest : WritesEntries false rest more) :
    WritesEntries first ((name, json) :: rest)
      (gap ++ '"' :: (quoted ++ '"' :: (spaces ++ ':' :: (spaces' ++ (spelled ++ more)))))

end

/-- The text writes the value, with any spaces around it. -/
def IsTextOf (text : String) (json : Json) : Prop :=
  ∃ before cs after, Spaces before ∧ Writes json cs ∧ Spaces after ∧
    text.toList = before ++ (cs ++ after)

/-! ## Characters of the texts -/

/-- What is no digit is different from one. -/
theorem ne_of_isDigit {c d : Char} (h : isDigit c = true) (hd : isDigit d = false) : c ≠ d := by
  rintro rfl
  rw [hd] at h
  cases h

/-- A digit is no space. -/
theorem isSpace_of_isDigit {c : Char} (h : isDigit c = true) : isSpace c = false := by
  have hblank : c ≠ ' ' ∧ c ≠ '\t' ∧ c ≠ '\r' ∧ c ≠ '\n' :=
    ⟨ne_of_isDigit h rfl, ne_of_isDigit h rfl, ne_of_isDigit h rfl, ne_of_isDigit h rfl⟩
  simpa [isSpace, and_assoc] using hblank

/-- Digits have a first one. -/
theorem IsDigits.exists_cons {cs : List Char} (h : IsDigits cs) :
    ∃ c rest, cs = c :: rest ∧ isDigit c = true := by
  obtain ⟨c, rest, rfl⟩ := List.exists_cons_of_ne_nil h.1
  exact ⟨c, rest, rfl, h.2 c List.mem_cons_self⟩

/-- The digits of a number. -/
theorem isDigits_toDigits (n : Nat) : IsDigits (Nat.toDigits 10 n) :=
  ⟨Nat.toDigits_ne_nil,
    Numeral.isDigit_of_valueFrom (Numeral.valueFrom_toDigits (by decide) (by decide) n)⟩

/-- Only zero is written with a zero in front. -/
theorem isWhole_toDigits (n : Nat) : IsWhole (Nat.toDigits 10 n) := by
  refine ⟨isDigits_toDigits n, ?_⟩
  induction n using Nat.strongRecOn with
  | ind n ih =>
    rw [Nat.toDigits_eq_if (by decide)]
    split
    · rename_i hlt
      intro hzero
      rw [Option.some.inj hzero]
    · -- The digits in front of the last one write a smaller number, which is not zero.
      rename_i hle
      intro hzero
      obtain ⟨c, rest, hsplit, -⟩ := (isDigits_toDigits (n / 10)).exists_cons
      have hquotient : Nat.toDigits 10 (n / 10) = ['0'] := by
        refine ih (n / 10) (by omega) ?_
        rw [hsplit] at hzero ⊢
        exact hzero
      have hvalue := Numeral.valueFrom_toDigits (by decide) (by decide : 10 ≤ 16) (n / 10)
      rw [hquotient] at hvalue
      have : 0 = n / 10 := Option.some.inj hvalue
      omega

/-- The literal of an integer. -/
def Literal.ofInt (value : Int) : Literal where
  negative := decide (value < 0)
  whole := Nat.toDigits 10 value.natAbs
  fraction := []
  exponent := []
  isWhole := isWhole_toDigits value.natAbs
  isFraction := .missing
  isExponent := .missing

/-- An integer is written by its sign and its digits. -/
theorem toList_toString_int (value : Int) :
    (toString value).toList = (Literal.ofInt value).text := by
  rw [Literal.text, Literal.ofInt, List.append_nil, List.append_nil]
  cases value with
  | ofNat n => exact Numeral.toList_toString n
  | negSucc n =>
    have hminus : toString (Int.negSucc n) = "-" ++ toString (n + 1) := rfl
    rw [hminus, String.toList_append, Numeral.toList_toString,
      decide_eq_true (Int.negSucc_lt_zero n)]
    rfl

/-! ## How the texts begin and end -/

/-- The character that the texts of a value begin with. -/
def Begins : Json → Char → Prop
  | .null, c => c = 'n'
  | .bool true, c => c = 't'
  | .bool false, c => c = 'f'
  | .integer _, c => c = '-' ∨ isDigit c = true
  | .decimal _, c => c = '-' ∨ isDigit c = true
  | .string _, c => c = '"'
  | .list _, c => c = '['
  | .object _, c => c = '{'

/-- The first character of a text is no space. -/
theorem Begins.isSpace {json : Json} {c : Char} (h : Begins json c) : isSpace c = false := by
  cases json with
  | integer _ | decimal _ =>
    rcases h with rfl | h
    · rfl
    · exact isSpace_of_isDigit h
  | bool b => cases b <;> (cases h; rfl)
  | null | string _ | list _ | object _ => cases h; rfl

/-- No text begins with a mark that may follow an item of a list. -/
theorem Begins.ne_mark {json : Json} {c : Char} (h : Begins json c) : c ≠ ']' ∧ c ≠ ',' := by
  cases json with
  | integer _ | decimal _ =>
    rcases h with rfl | h
    · decide
    · exact ⟨ne_of_isDigit h rfl, ne_of_isDigit h rfl⟩
  | bool b => cases b <;> (cases h; decide)
  | null | string _ | list _ | object _ => cases h; decide

/-- What a first character that is a letter, a quote or a bracket tells of the value. -/
structure Tells (json : Json) (c : Char) : Prop where
  /-- No value. -/
  null : c = 'n' → json = .null
  /-- A true Boolean. -/
  true : c = 't' → json = .bool true
  /-- A false Boolean. -/
  false : c = 'f' → json = .bool false
  /-- A text. -/
  string : c = '"' → ∃ text, json = .string text
  /-- A list. -/
  list : c = '[' → ∃ items, json = .list items
  /-- An object. -/
  object : c = '{' → ∃ entries, json = .object entries

/-- The first character of a text tells the kind of the value. -/
theorem Begins.tells {json : Json} {c : Char} (h : Begins json c) : Tells json c := by
  cases json with
  | integer _ | decimal _ =>
    have hne : ∀ d, d ≠ '-' → isDigit d = false → c ≠ d := by
      rintro d hminus hdigit rfl
      exact h.elim hminus fun hc => ne_of_isDigit hc hdigit rfl
    refine ⟨?_, ?_, ?_, ?_, ?_, ?_⟩
    all_goals exact fun hc => absurd hc (hne _ (by decide) rfl)
  | bool b => cases b <;> (cases h; refine ⟨?_, ?_, ?_, ?_, ?_, ?_⟩ <;> simp)
  | null | string _ | list _ | object _ => cases h; refine ⟨?_, ?_, ?_, ?_, ?_, ?_⟩ <;> simp

/-- A literal begins with its sign or with a digit. -/
theorem Literal.exists_cons (l : Literal) :
    ∃ c rest, l.text = c :: rest ∧ (c = '-' ∨ isDigit c = true) := by
  obtain ⟨c, rest, hwhole, hc⟩ := l.isWhole.1.exists_cons
  cases hsign : l.negative with
  | true =>
    refine ⟨'-', l.whole ++ (l.fraction ++ l.exponent), ?_, .inl rfl⟩
    rw [text, hsign]
    rfl
  | false =>
    refine ⟨c, rest ++ (l.fraction ++ l.exponent), ?_, .inr hc⟩
    rw [text, hsign, hwhole]
    rfl

/-- A text begins as the texts of its value do. -/
theorem Writes.exists_cons {json : Json} {cs : List Char} (h : Writes json cs) :
    ∃ c rest, cs = c :: rest ∧ Begins json c := by
  cases h with
  | null | true | false | string _ | list _ | object _ _ => exact ⟨_, _, rfl, rfl⟩
  | integer value =>
    obtain ⟨c, rest, htext, hc⟩ := (Literal.ofInt value).exists_cons
    exact ⟨c, rest, (toList_toString_int value).trans htext, hc⟩
  | @decimal l _ => exact l.exists_cons

/-- What may follow a value: nothing, a space, a comma or a closing bracket. -/
def Ends (rest : List Char) : Prop :=
  ∀ c ∈ rest.head?, isSpace c = true ∨ c = ',' ∨ c = ']' ∨ c = '}'

/-- After spaces, one of these marks ends a value. -/
theorem ends_append {spaces : List Char} (hspaces : Spaces spaces) {c : Char}
    (hc : c = ',' ∨ c = ']' ∨ c = '}') (rest : List Char) : Ends (spaces ++ c :: rest) := by
  cases spaces with
  | nil =>
    rintro c' ⟨⟩
    exact .inr hc
  | cons space spaces =>
    rintro c' ⟨⟩
    exact .inl (hspaces _ List.mem_cons_self)

/-- Spaces at the end of a text end a value. -/
theorem ends_of_spaces {spaces : List Char} (hspaces : Spaces spaces) : Ends spaces :=
  fun c hc => .inl (hspaces c (List.mem_of_mem_head? hc))

/-- What is left of a list ends an item. -/
theorem WritesItems.ends {items : List Json} {cs : List Char} (h : WritesItems false items cs)
    (rest : List Char) : Ends (cs ++ ']' :: rest) := by
  cases h with
  | nil hspaces => exact ends_append hspaces (.inr (.inl rfl)) rest
  | cons hgap _ _ =>
    cases hgap with
    | comma hspaces _ =>
      rw [List.append_assoc, List.append_assoc]
      exact ends_append hspaces (.inl rfl) _

/-- What is left of an object ends the value of an entry. -/
theorem WritesEntries.ends {entries : List (String × Json)} {cs : List Char}
    (h : WritesEntries false entries cs) (rest : List Char) : Ends (cs ++ '}' :: rest) := by
  cases h with
  | nil hspaces => exact ends_append hspaces (.inr (.inr rfl)) rest
  | cons hgap _ _ _ _ _ =>
    cases hgap with
    | comma hspaces _ =>
      rw [List.append_assoc, List.append_assoc]
      exact ends_append hspaces (.inl rfl) _

/-- Each item takes a character at least. -/
theorem WritesItems.length_lt {first : Bool} {items : List Json} {cs : List Char}
    (h : WritesItems first items cs) (rest : List Char) :
    items.length < (cs ++ rest).length + 1 := by
  induction items generalizing first cs with
  | nil => exact Nat.succ_pos _
  | cons json items ih =>
    cases h with
    | cons _ hjson hrest =>
      obtain ⟨c, tail, rfl, -⟩ := hjson.exists_cons
      have hlt := ih hrest
      simp only [List.length_append, List.length_cons] at hlt ⊢
      omega

/-- Each entry takes a character at least. -/
theorem WritesEntries.length_lt {first : Bool} {entries : List (String × Json)} {cs : List Char}
    (h : WritesEntries first entries cs) (rest : List Char) :
    entries.length < (cs ++ rest).length + 1 := by
  induction entries generalizing first cs with
  | nil => exact Nat.succ_pos _
  | cons entry entries ih =>
    cases h with
    | cons _ _ _ _ _ hrest =>
      have hlt := ih hrest
      simp only [List.length_append, List.length_cons] at hlt ⊢
      omega

end DebugShell.Json
