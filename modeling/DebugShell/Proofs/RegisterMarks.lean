import DebugShell.Proofs.MarkedNames
import DebugShell.Proofs.Parsing

/-!
# Marking the registers of an expression

Register names are marked in the text of an expression, word by word, and what is evaluated is the
expression of the marked text. If no point sets a register name apart from the rest of a name, this
is the expression with registers in the place of the symbols that have names of registers
(`marking_agrees_with_substitution`). Where one does so, the names say what happens instead: the
symbol becomes a register of its whole name, or the marked text is no expression, since the grammar
never puts a mark right behind a point (`Written.isChain`).

A spelled token is marked apart from its neighbours, because operands are followed by breaks. So the
marked text writes the marked tokens (`Written.marked`), by induction on how the text is written,
and a phrase remains one when registers take the place of symbols (`Phrase.withRegisters`).
-/

namespace DebugShell

namespace Expression

open Registers (markWords NoWord)

/-! ## Registers in the place of symbols -/

/-- The names of the registers and symbols of an expression, from left to right. -/
def names : Expression → List String
  | .number _ => []
  | .register name => [name]
  | .symbol name => [name]
  | .neg operand => operand.names
  | .binary _ left right => left.names ++ right.names

/-- The names of the symbols of an expression, from left to right. -/
def symbols : Expression → List String
  | .number _ => []
  | .register _ => []
  | .symbol name => [name]
  | .neg operand => operand.symbols
  | .binary _ left right => left.symbols ++ right.symbols

/-- An expression with registers in the place of the symbols whose names pass a test. -/
def withRegisters (test : String → Bool) : Expression → Expression
  | .number n => .number n
  | .register name => .register name
  | .symbol name => if test name then .register name else .symbol name
  | .neg operand => .neg (operand.withRegisters test)
  | .binary op left right => .binary op (left.withRegisters test) (right.withRegisters test)

/-- Expressions differ as little as the tests on their symbols do. -/
theorem withRegisters_congr {test test' : String → Bool} {e : Expression}
    (h : ∀ name ∈ e.symbols, test name = test' name) :
    e.withRegisters test = e.withRegisters test' := by
  induction e with
  | number n => rfl
  | register name => rfl
  | symbol name => rw [withRegisters, withRegisters, h name (List.mem_singleton.2 rfl)]
  | neg operand ih => rw [withRegisters, withRegisters, ih h]
  | binary op left right ihl ihr =>
    have hl := ihl fun name hname => h name (List.mem_append_left _ hname)
    have hr := ihr fun name hname => h name (List.mem_append_right _ hname)
    rw [withRegisters, withRegisters, hl, hr]

/-- The name of a token. -/
def Token.name? : Token → Option String
  | .register name => some name
  | .symbol name => some name
  | _ => none

/-- A token, a register in the place of a symbol whose name passes a test. -/
def Token.withRegisters (test : String → Bool) : Token → Token
  | .symbol name => if test name then .register name else .symbol name
  | t => t

/-- The names in a phrase are those of its tree. -/
theorem Phrase.names {rule : Rule} {ts : List Token} {e : Expression} (h : Phrase rule ts e) :
    ts.filterMap Token.name? = e.names := by
  induction h with
  | number _ | register _ | symbol _ => rfl
  | parentheses _ ih =>
    rw [List.filterMap_cons_none rfl, List.filterMap_append, ih]
    exact List.append_nil _
  | negation _ ih => exact ih
  | factor _ ih | product _ ih => exact ih
  | times _ _ ihl ihr | plus _ _ ihl ihr | minus _ _ ihl ihr =>
    rw [List.filterMap_append, ihl]
    exact congrArg (_ ++ ·) ihr

/-- With registers for symbols a phrase stays one, and its tree has them too. -/
theorem Phrase.withRegisters {rule : Rule} {ts : List Token} {e : Expression}
    (test : String → Bool) (h : Phrase rule ts e) :
    Phrase rule (ts.map (Token.withRegisters test)) (e.withRegisters test) := by
  induction h with
  | number n => exact .number n
  | register name => exact .register name
  | symbol name =>
    rw [List.map_singleton, Token.withRegisters, Expression.withRegisters]
    split
    · exact .register name
    · exact .symbol name
  | parentheses _ ih =>
    rw [List.map_cons, List.map_append]
    exact ih.parentheses
  | negation _ ih => exact ih.negation
  | factor _ ih => exact ih.factor
  | times _ _ ihl ihr =>
    rw [List.map_append]
    exact ihl.times ihr
  | product _ ih => exact ih.product
  | plus _ _ ihl ihr =>
    rw [List.map_append]
    exact ihl.plus ihr
  | minus _ _ ihl ihr =>
    rw [List.map_append]
    exact ihl.minus ihr

/-! ## Marking a text -/

/-- A number is spelled with digits and letters, of which the first is a decimal digit. -/
theorem Spells.exists_digit {n : Nat} {lexeme : List Char} (h : Spells (.number n) lexeme) :
    ∃ first rest, lexeme = first :: rest ∧ Numeral.isDigit 10 first = true ∧
      ∀ c ∈ first :: rest, isNameChar c = true ∧ c ≠ '.' := by
  have hdigit {base : Nat} {c : Char} (hc : Numeral.isDigit base c = true) :
      isNameChar c = true ∧ c ≠ '.' := by
    refine ⟨isNameChar_of_isDigit hc, ?_⟩
    rintro rfl
    cases hc
  cases h with
  | decimal hwrites _ =>
    have hdigits := hwrites.isDigit (by decide)
    obtain ⟨first, rest, rfl⟩ := List.exists_cons_of_ne_nil hwrites.ne_nil
    exact ⟨first, rest, rfl, hdigits first List.mem_cons_self, fun c hc => hdigit (hdigits c hc)⟩
  | @hexadecimal x digits _ hx hwrites _ =>
    refine ⟨'0', x :: digits, rfl, rfl, ?_⟩
    intro c hc
    rcases List.mem_cons.1 hc with rfl | hc
    · decide
    rcases List.mem_cons.1 hc with rfl | hc
    · rcases hx with rfl | rfl <;> decide
    · exact hdigit (hwrites.isDigit le_rfl c hc)

section Marked

variable {listed : List String} (hplain : ∀ name ∈ listed, IsPlain name)

include hplain

/-- A spelled token is marked apart from what follows it. -/
theorem markWords_lexeme {t : Token} {lexeme cs : List Char} (h : Spells t lexeme)
    (hs : t.isOperand = true → Stops cs) :
    markWords (registerWords listed) none (lexeme ++ cs) =
      markWords (registerWords listed) none lexeme ++
        markWords (registerWords listed) none cs := by
  have hempty := nil_not_mem_registerWords hplain
  by_cases ht : t.isOperand = true
  · -- What follows an operand is a break or the end, where no word goes on.
    have hnoword : NoWord cs := by
      rw [NoWord]
      cases hhead : cs.head? with
      | none => rfl
      | some c => exact (open_of_mem_breaks (hs ht c hhead)).1
    exact Registers.markWords_append hempty none lexeme hnoword
  · -- A sign is copied, whatever follows it.
    have hsign {c : Char} (hc : c ∈ breaks) :
        markWords (registerWords listed) none ([c] ++ cs) =
          markWords (registerWords listed) none [c] ++
            markWords (registerWords listed) none cs := by
      obtain ⟨hword, hmark⟩ := open_of_mem_breaks hc
      rw [List.singleton_append, Registers.markWords_cons_of_open hempty hword hmark,
        Registers.markWords_cons_of_open hempty hword hmark]
      rfl
    cases h with
    | decimal _ _ | hexadecimal _ _ _ | register _ | symbol _ => exact absurd rfl ht
    | plus | minus | times | opening | closing => exact hsign (by decide)

/-- A spelled number is copied, since no name of a register starts with a digit. -/
theorem markWords_number {n : Nat} {lexeme : List Char} (h : Spells (.number n) lexeme) :
    markWords (registerWords listed) none lexeme = lexeme := by
  obtain ⟨first, rest, rfl, hfirst, hchars⟩ := h.exists_digit
  have hwords : ∀ c ∈ first :: rest, Text.isWordChar c = true := fun c hc =>
    isWordChar_of_isNameChar (hchars c hc).1 (hchars c hc).2
  have hother : ¬isRegister listed (String.ofList (first :: rest)) = true := by
    intro hregister
    obtain ⟨hname, -⟩ := isPlain_of_isRegister hplain hregister
    rw [String.toList_ofList] at hname
    rw [isDigit_ten_of_isNameStart ((isName_cons_iff _ _).1 hname).1] at hfirst
    cases hfirst
  rw [markWords_part hplain hwords, if_neg hother]

/-- Marking a token that is not divided spells the token with a register for a symbol whose name
starts with that of a register. -/
theorem Spells.marked {t : Token} {lexeme : List Char} (h : Spells t lexeme)
    (hundivided : ∀ name ∈ t.name?, ¬Divided listed name) :
    Spells (t.withRegisters fun name => (parts name).head?.any (isRegister listed))
      (markWords (registerWords listed) none lexeme) := by
  have hempty := nil_not_mem_registerWords hplain
  cases t with
  | number n =>
    rw [markWords_number hplain h]
    exact h
  | register name =>
    cases h with
    | register hname =>
      rw [Registers.markWords_mark hempty,
        markWords_marked_name hplain hname.isNameChar (hundivided _ rfl)]
      exact .register hname
  | symbol name =>
    cases h with
    | symbol hname =>
      rw [markWords_name hplain hname.isNameChar (hundivided _ rfl), Token.withRegisters]
      split_ifs
      · exact .register hname
      · exact .symbol hname
  | plus | minus | times | opening | closing =>
    cases h
    rw [Registers.markWords_cons_of_open hempty (by decide) (by decide)]
    constructor

/-- Where no name is divided, marking a text writes the tokens with registers for the symbols whose
names start with that of a register. -/
theorem Written.marked {ts : List Token} {cs : List Char} (h : Written ts cs) (hapart : Apart ts)
    (hundivided : ∀ name ∈ ts.filterMap Token.name?, ¬Divided listed name) :
    Written (ts.map (Token.withRegisters fun name => (parts name).head?.any (isRegister listed)))
      (markWords (registerWords listed) none cs) := by
  induction h with
  | nil => exact .nil
  | space hc _ ih =>
    obtain ⟨hword, hmark⟩ := open_of_mem_breaks (mem_breaks_of_mem_spaces hc)
    rw [Registers.markWords_cons_of_open (nil_not_mem_registerWords hplain) hword hmark]
    exact .space hc (ih hapart hundivided)
  | @token t ts lexeme cs hspells hwritten ih =>
    have hfirst : ∀ name ∈ t.name?, ¬Divided listed name := fun name hname =>
      hundivided name (List.mem_filterMap.2 ⟨t, List.mem_cons_self, hname⟩)
    have hothers : ∀ name ∈ ts.filterMap Token.name?, ¬Divided listed name := by
      intro name hname
      obtain ⟨u, hu, huname⟩ := List.mem_filterMap.1 hname
      exact hundivided name (List.mem_filterMap.2 ⟨u, List.mem_cons_of_mem t hu, huname⟩)
    rw [markWords_lexeme hplain hspells (hwritten.stops_of_apart hapart), List.map_cons]
    exact .token (hspells.marked hplain hfirst) (ih hapart.tail hothers)

/-- Where a name is divided, marking puts a mark right behind a point. -/
theorem Written.infix_of_divided {ts : List Token} {cs : List Char} (h : Written ts cs)
    (hapart : Apart ts) {name : String} (hname : name ∈ ts.filterMap Token.name?)
    (hdivided : Divided listed name) :
    ['.', '$'] <:+: markWords (registerWords listed) none cs := by
  induction h with
  | nil => cases hname
  | space hc _ ih =>
    obtain ⟨hword, hmark⟩ := open_of_mem_breaks (mem_breaks_of_mem_spaces hc)
    rw [Registers.markWords_cons_of_open (nil_not_mem_registerWords hplain) hword hmark]
    exact (ih hapart hname).trans (List.suffix_cons _ _).isInfix
  | @token t ts lexeme cs hspells hwritten ih =>
    rw [markWords_lexeme hplain hspells (hwritten.stops_of_apart hapart)]
    obtain ⟨u, hu, huname⟩ := List.mem_filterMap.1 hname
    rcases List.mem_cons.1 hu with rfl | hu
    · -- The name is that of the first token, which is a register or a symbol.
      refine List.infix_append_of_infix_left ?_
      cases hspells with
      | register hcs =>
        obtain rfl := Option.some.inj huname
        have hinner := Expression.infix_of_divided hplain hcs.isNameChar hdivided (some '$')
        rw [Registers.markWords_mark (nil_not_mem_registerWords hplain)]
        exact hinner.trans (List.suffix_cons _ _).isInfix
      | symbol hcs =>
        obtain rfl := Option.some.inj huname
        exact Expression.infix_of_divided hplain hcs.isNameChar hdivided none
      | decimal _ _ | hexadecimal _ _ _ | plus | minus | times | opening | closing => cases huname
    · have hrest := ih hapart.tail (List.mem_filterMap.2 ⟨u, hu, huname⟩)
      exact List.infix_append_of_infix_right hrest

end Marked

/-! ## No mark stands right behind a point -/

/-- `MarkAfterPoint c d`: `c` is a point and `d` a mark. -/
def MarkAfterPoint (c d : Char) : Prop :=
  c = '.' ∧ d = '$'

/-- Where no mark stands but in front, none stands right behind a point. -/
theorem isChain_of_unmarked (first : Char) {rest : List Char} (h : ∀ c ∈ rest, c ≠ '$') :
    (first :: rest).IsChain fun c d => ¬MarkAfterPoint c d := by
  induction rest generalizing first with
  | nil => exact List.isChain_singleton first
  | cons c rest ih =>
    have hc : ¬MarkAfterPoint first c := fun hpoint => h c List.mem_cons_self hpoint.2
    exact List.isChain_cons_cons.2 ⟨hc, ih c fun d hd => h d (List.mem_cons_of_mem c hd)⟩

/-- The characters of names are no marks. -/
theorem ne_mark_of_isNameChar {c : Char} (h : isNameChar c = true) : c ≠ '$' := by
  rintro rfl
  cases h

/-- A mark stands only in front of a spelled token, and no sign is a point. -/
theorem Spells.exists_cons {t : Token} {lexeme : List Char} (h : Spells t lexeme) :
    ∃ first rest, lexeme = first :: rest ∧ (∀ c ∈ rest, c ≠ '$') ∧
      (t.isOperand = false → rest = [] ∧ first ≠ '.') := by
  cases t with
  | number n =>
    obtain ⟨first, rest, rfl, -, hchars⟩ := h.exists_digit
    refine ⟨first, rest, rfl, ?_, nofun⟩
    exact fun c hc => ne_mark_of_isNameChar (hchars c (List.mem_cons_of_mem first hc)).1
  | register name =>
    cases h with
    | register hname =>
      exact ⟨'$', _, rfl, fun c hc => ne_mark_of_isNameChar (hname.isNameChar c hc), nofun⟩
  | symbol name =>
    cases h with
    | symbol hname =>
      obtain ⟨first, rest, rfl⟩ := hname.exists_cons
      refine ⟨first, rest, rfl, ?_, nofun⟩
      exact fun c hc => ne_mark_of_isNameChar (hname.isNameChar c (List.mem_cons_of_mem first hc))
  | plus | minus | times | opening | closing =>
    cases h
    exact ⟨_, [], rfl, fun c hc => absurd hc List.not_mem_nil, fun _ => ⟨rfl, by decide⟩⟩

/-- Where tokens are written with no operands next to each other, no mark stands right behind a
point. -/
theorem Written.isChain {ts : List Token} {cs : List Char} (h : Written ts cs)
    (hapart : Apart ts) : cs.IsChain fun c d => ¬MarkAfterPoint c d := by
  induction h with
  | nil => exact .nil
  | @space ts c cs hc _ ih =>
    refine List.isChain_cons.2 ⟨?_, ih hapart⟩
    rintro d - ⟨rfl, -⟩
    exact absurd hc (by decide)
  | @token t ts lexeme cs hspells hwritten ih =>
    obtain ⟨first, rest, rfl, hrest, hsign⟩ := hspells.exists_cons
    refine List.isChain_append.2 ⟨isChain_of_unmarked first hrest, ih hapart.tail, ?_⟩
    rintro c hc d hd ⟨rfl, rfl⟩
    -- Behind an operand stands a break, which is no mark, and no other token ends in a point.
    by_cases ht : t.isOperand = true
    · exact absurd (hwritten.stops_of_apart hapart ht '$' hd) (by decide)
    · obtain ⟨rfl, hfirst⟩ := hsign (Bool.eq_false_iff.2 ht)
      exact hfirst (Option.some.inj hc)

/-- A text with a mark right behind a point is no expression. -/
theorem not_derives_of_mark_after_point {text : String} (h : ['.', '$'] <:+: text.toList) :
    ¬∃ e, Derives text e := by
  rintro ⟨e, tokens, hwritten, hphrase⟩
  have hchain := hwritten.isChain hphrase.apart
  obtain ⟨before, after, hsplit⟩ := h
  rw [← hsplit, List.append_assoc, List.isChain_append] at hchain
  exact (List.isChain_cons_cons.1 hchain.2.1).1 ⟨rfl, rfl⟩

end Expression

namespace Target

open Expression

variable {t : Target} {text : String} {e : Expression}

/-- Where no name is divided, the marked text has the value of the expression with registers for the
symbols whose names start with that of a register. -/
theorem evaluate_withMarks (hplain : ∀ name ∈ t.registers.names, IsPlain name)
    (hparse : parse text = .ok e)
    (hundivided : ∀ name ∈ e.names, ¬Divided t.registers.names name) :
    t.evaluate (Registers.withMarks text t.registers.names) =
      t.valueOf (e.withRegisters fun name =>
        (parts name).head?.any (isRegister t.registers.names)) := by
  obtain ⟨tokens, hwritten, hphrase⟩ := (parse_eq_ok_iff text e).1 hparse
  rw [← hphrase.names] at hundivided
  -- The marked text writes the tokens with registers, and these derive the expression with them.
  have hmarked := hwritten.marked hplain hphrase.apart hundivided
  rw [registerWords, ← Registers.toList_withMarks (words_registerWords hplain)] at hmarked
  have hderives : Derives (Registers.withMarks text t.registers.names)
      (e.withRegisters fun name => (parts name).head?.any (isRegister t.registers.names)) :=
    ⟨_, hmarked, hphrase.withRegisters _⟩
  rw [evaluate, (parse_eq_ok_iff _ _).2 hderives]
  rfl

/-- Where a name is divided, the marked text is no expression. -/
theorem evaluate_withMarks_of_divided (hplain : ∀ name ∈ t.registers.names, IsPlain name)
    (hparse : parse text = .ok e) {name : String} (hname : name ∈ e.names)
    (hdivided : Divided t.registers.names name) :
    t.evaluate (Registers.withMarks text t.registers.names) =
      .error (.malformed (Registers.withMarks text t.registers.names).trimBlanks) := by
  obtain ⟨tokens, hwritten, hphrase⟩ := (parse_eq_ok_iff text e).1 hparse
  rw [← hphrase.names] at hname
  have hmark := hwritten.infix_of_divided hplain hphrase.apart hname hdivided
  rw [registerWords, ← Registers.toList_withMarks (words_registerWords hplain)] at hmark
  rw [evaluate, parse_eq_malformed (not_derives_of_mark_after_point hmark)]
  rfl

/-- Marking the registers in the text of an expression agrees with putting registers, in the
expression, in the place of the symbols that have their names, as long as no point sets a register
name apart from the rest of a name. Where one does so in front of a point, the symbol is read as the
register of the whole name. Where one does so behind a point, the marked text is no expression. -/
theorem marking_agrees_with_substitution (hplain : ∀ name ∈ t.registers.names, IsPlain name)
    (hparse : parse text = .ok e) :
    ((∀ name ∈ e.names, ¬Divided t.registers.names name) →
      (∀ name ∈ e.symbols, ¬Led t.registers.names name) →
        t.evaluate (Registers.withMarks text t.registers.names) =
          t.valueOf (e.withRegisters (isRegister t.registers.names))) ∧
    ((∀ name ∈ e.names, ¬Divided t.registers.names name) →
      t.evaluate (Registers.withMarks text t.registers.names) =
        t.valueOf (e.withRegisters fun name =>
          (parts name).head?.any (isRegister t.registers.names))) ∧
    ((∃ name ∈ e.names, Divided t.registers.names name) →
      t.evaluate (Registers.withMarks text t.registers.names) =
        .error (.malformed (Registers.withMarks text t.registers.names).trimBlanks)) := by
  refine ⟨?_, evaluate_withMarks hplain hparse, ?_⟩
  · intro hundivided hunled
    have hsame : e.withRegisters (isRegister t.registers.names) =
        e.withRegisters fun name => (parts name).head?.any (isRegister t.registers.names) :=
      withRegisters_congr fun name hname => isRegister_eq_of_not_led hplain (hunled name hname)
    rw [hsame]
    exact evaluate_withMarks hplain hparse hundivided
  · rintro ⟨name, hname, hdivided⟩
    exact evaluate_withMarks_of_divided hplain hparse hname hdivided

/-- A live target with points in the names of symbols, one of which starts with a register name. -/
def pointed : Target where
  session := { processAlive := true }
  registers := .ofList [("r1", 7), ("r10", 100), ("rsp", 4096)]
  symbols := .ofList [("r1_base", 50), ("r1.x", 40), ("s.r", 3)]

/-- Marking agrees with substitution beside longer names and a point that sets no register name
apart. It makes a register of a symbol that starts with a register name and a point, and leaves no
expression of one in which a register name follows a point. -/
theorem marking_with_and_without_points :
    pointed.evaluate (Registers.withMarks "r1*2 + (sp - r1_base) + s.r" pointed.registers.names) =
        .ok 4063 ∧
      pointed.evaluate (Registers.withMarks "sp - r1.x" pointed.registers.names) =
        .error (.other "Invalid register `r1.x'") ∧
      pointed.evaluate (Registers.withMarks "sp - s.r1" pointed.registers.names) =
        .error (.malformed
          (Registers.withMarks "sp - s.r1" pointed.registers.names).trimBlanks) := by
  have hplain : ∀ name ∈ pointed.registers.names, IsPlain name := by decide
  have hsum : parse "r1*2 + (sp - r1_base) + s.r" = .ok (.binary .add
      (.binary .add (.binary .mul (.symbol "r1") (.number 2))
        (.binary .sub (.symbol "sp") (.symbol "r1_base"))) (.symbol "s.r")) := rfl
  have hled : parse "sp - r1.x" = .ok (.binary .sub (.symbol "sp") (.symbol "r1.x")) := rfl
  have hdivided : parse "sp - s.r1" = .ok (.binary .sub (.symbol "sp") (.symbol "s.r1")) := rfl
  refine ⟨?_, ?_, ?_⟩
  · exact (marking_agrees_with_substitution hplain hsum).1 (by decide) (by decide)
  · exact (marking_agrees_with_substitution hplain hled).2.1 (by decide)
  · exact (marking_agrees_with_substitution hplain hdivided).2.2 ⟨"s.r1", by decide, by decide⟩

/-- Marking does not leave a symbol alone whose name has that of a register in front of a point: the
marked text is refused where substitution has a value. -/
theorem marking_disagrees_before_points :
    (∀ name ∈ pointed.registers.names, IsPlain name) ∧ pointed.session.processAlive = true ∧
      parse "r10 + r1.x" = .ok (.binary .add (.symbol "r10") (.symbol "r1.x")) ∧
      pointed.evaluate (Registers.withMarks "r10 + r1.x" pointed.registers.names) =
        .error (.other "Invalid register `r1.x'") ∧
      pointed.valueOf ((Expression.binary .add (.symbol "r10") (.symbol "r1.x")).withRegisters
        (isRegister pointed.registers.names)) = .ok 140 := by
  have hplain : ∀ name ∈ pointed.registers.names, IsPlain name := by decide
  have hparse : parse "r10 + r1.x" = .ok (.binary .add (.symbol "r10") (.symbol "r1.x")) := rfl
  have hmarked := evaluate_withMarks hplain hparse (by decide)
  exact ⟨hplain, rfl, hparse, hmarked, by decide +kernel⟩

end Target

end DebugShell
