import DebugShell.Proofs.Arguments
import DebugShell.Proofs.Numeral

/-!
# Numbers in base sixteen, and all other words

A parameter that takes a number in base sixteen or an expression takes a hexadecimal literal for
what it writes, and asks no host (`coerce_of_hex`). A literal is digits behind an optional
mark. The numeral reader lets one plus sign stand in front of the digits, and so such a word is read
in base sixteen as well, although it is neither a literal nor an expression
(`signed_number_is_no_expression`).

For every other word the parameter is one that takes an expression. Its coercion shows nowhere in
the declaration that the words of a line are matched with, and so the whole line is parsed as if the
parameter took expressions only: to the same arguments or the same text, with the same expressions
handed to the host (`hex_arguments_are_literals_or_expressions`).
-/

namespace DebugShell.ArgumentSpec

/-! ## Literals -/

/-- The word is the characters `cs`, behind a hexadecimal mark or by themselves. -/
def Unmarks (word : String) (cs : List Char) : Prop :=
  word.toList = cs ∨ ∃ x, (x = 'x' ∨ x = 'X') ∧ word.toList = '0' :: x :: cs

/-- The word is a hexadecimal literal of `v`: one or more digits behind an optional mark, and
nothing else. -/
def IsHexLiteral (word : String) (v : UInt64) : Prop :=
  ∃ digits, Unmarks word digits ∧ Numeral.Plain 16 UInt64.size digits v.toNat

/-- The word would be a hexadecimal literal of `v` but for a plus sign in front of the digits. -/
def IsSignedHex (word : String) (v : UInt64) : Prop :=
  ∃ digits, Unmarks word ('+' :: digits) ∧ Numeral.Plain 16 UInt64.size digits v.toNat

/-- The number that a word denotes in base sixteen is that of what stands behind its mark, or of the
word if it has none. -/
theorem hex?_eq_some_iff_denotes (word : String) (v : UInt64) :
    hex? word = some v ↔ ∃ cs, Unmarks word cs ∧ Numeral.Denotes 16 UInt64.size cs v.toNat := by
  unfold hex? Unmarks
  dsimp only
  rw [Numeral.map_ofNat_unsigned?_eq_some_iff (by decide)]
  cases hmark : Numeral.afterHexMark? word.toList with
  | none =>
    constructor
    · intro h
      exact ⟨_, .inl rfl, h⟩
    · rintro ⟨cs, rfl | hmarked, h⟩
      · exact h
      · rw [(Numeral.afterHexMark?_eq_some_iff _ cs).2 hmarked] at hmark
        cases hmark
  | some digits =>
    constructor
    · intro h
      exact ⟨digits, .inr ((Numeral.afterHexMark?_eq_some_iff _ _).1 hmark), h⟩
    · rintro ⟨cs, rfl | hmarked, h⟩
      · -- What denotes a number has no mark in front.
        exact absurd h (Numeral.not_denotes_of_afterHexMark? (by decide) hmark)
      · rw [(Numeral.afterHexMark?_eq_some_iff _ cs).2 hmarked] at hmark
        obtain rfl := Option.some.inj hmark
        exact h

/-- A word is read in base sixteen if it is a literal, or is one but for a plus sign. -/
theorem hex?_eq_some_iff (word : String) (v : UInt64) :
    hex? word = some v ↔ IsHexLiteral word v ∨ IsSignedHex word v := by
  rw [hex?_eq_some_iff_denotes]
  simp only [Numeral.denotes_iff, and_or_left, exists_or]
  refine or_congr_right ⟨?_, ?_⟩
  · rintro ⟨cs, hword, digits, rfl, h⟩
    exact ⟨digits, hword, h⟩
  · rintro ⟨digits, hword, h⟩
    exact ⟨_, hword, digits, rfl, h⟩

/-- A literal has no plus sign. -/
theorem IsHexLiteral.not_mem_plus {word : String} {v : UInt64} (h : IsHexLiteral word v) :
    '+' ∉ word.toList := by
  obtain ⟨digits, hword, hplain⟩ := h
  have hdigits := hplain.not_mem_plus (by decide)
  rcases hword with hword | ⟨x, hx, hword⟩
  · rw [hword]
    exact hdigits
  · rw [hword]
    rcases hx with rfl | rfl <;> simpa using hdigits

/-- What is a literal but for a plus sign has one. -/
theorem IsSignedHex.mem_plus {word : String} {v : UInt64} (h : IsSignedHex word v) :
    '+' ∈ word.toList := by
  obtain ⟨digits, hword | ⟨x, -, hword⟩, -⟩ := h
  · rw [hword]
    exact List.mem_cons_self
  · rw [hword]
    exact List.mem_cons_of_mem _ (List.mem_cons_of_mem _ List.mem_cons_self)

/-- A word is read in base sixteen just as the literal that it is, or not at all, exactly if it is
not a literal but for a plus sign. -/
theorem hex?_reads_literals_iff (word : String) :
    (∀ v, hex? word = some v ↔ IsHexLiteral word v) ↔ ∀ v, ¬IsSignedHex word v := by
  constructor
  · intro hliterals v hsigned
    have hread := (hex?_eq_some_iff word v).2 (.inr hsigned)
    exact ((hliterals v).1 hread).not_mem_plus hsigned.mem_plus
  · intro hunsigned v
    rw [hex?_eq_some_iff]
    exact or_iff_left (hunsigned v)

/-! ## One word -/

section Word

variable (host : Host) (p : Param) {word : String} {v : UInt64}

/-- A word that is read in base sixteen is the number that it denotes. -/
theorem coerce_of_hex (h : hex? word = some v) :
    coerce host (p.withCoercion .hexOrExpression) word = ⟨[], .ok (.int v)⟩ := by
  rw [coerce, Param.withCoercion]
  dsimp only
  rw [h]

/-- Any other word is an expression. -/
theorem coerce_of_not_hex (h : hex? word = none) :
    coerce host (p.withCoercion .hexOrExpression) word =
      coerce host (p.withCoercion .expressionOrAbort) word := by
  rw [coerce, coerce, Param.withCoercion, Param.withCoercion]
  dsimp only
  rw [h]
  rfl

end Word

/-! ## A whole line -/

/-- The declaration of a parameter among others. -/
def among (spec : ArgumentSpec) (before after : List Param) (p : Param) : ArgumentSpec :=
  { spec with params := before ++ p :: after }

/-- A parameter can be exchanged for one of the same name that gets the same. -/
theorem collect_exchange (host : Host) (given : Given) (before after : List Param) {p q : Param}
    (hname : p.name = q.name) (h : valueOf host given p = valueOf host given q) :
    collect host given (before ++ p :: after) = collect host given (before ++ q :: after) := by
  induction before with
  | nil =>
    change collect host given (p :: after) = collect host given (q :: after)
    rw [collect, collect, h, hname]
  | cons r before ih =>
    change collect host given (r :: (before ++ p :: after)) =
      collect host given (r :: (before ++ q :: after))
    rw [collect, collect, ih]

/-- A parameter that takes a number in base sixteen or an expression gets what it would as one that
takes an expression, if its word is not read in base sixteen. -/
theorem valueOf_of_not_hex (host : Host) (given : Given) (p : Param)
    (h : ∀ word, given.Gives p word → hex? word = none) :
    valueOf host given (p.withCoercion .hexOrExpression) =
      valueOf host given (p.withCoercion .expressionOrAbort) := by
  have hflag (coercion : Coercion) : (p.withCoercion coercion).isFlag = p.isFlag := rfl
  have hname (coercion : Coercion) : (p.withCoercion coercion).name = p.name := rfl
  have hdefault (coercion : Coercion) : (p.withCoercion coercion).default = p.default := rfl
  rw [valueOf, valueOf]
  simp only [hflag, hname, hdefault]
  cases hp : p.isFlag with
  | true => rfl
  | false =>
    cases hword : given.word p.name with
    | none => rfl
    | some word =>
      dsimp only
      rw [coerce_of_not_hex host p (h word ⟨hp, hword⟩)]

section Exchange

variable (spec : ArgumentSpec) (name : String) (before after : List Param) (p : Param)
  (coercion coercion' : Coercion)

/-- The declaration that words are matched with does not show a parameter's coercion. -/
theorem toOptions_withCoercion :
    (spec.among before after (p.withCoercion coercion)).toOptions name =
      (spec.among before after (p.withCoercion coercion')).toOptions name := by
  have harg : (p.withCoercion coercion).toArg = (p.withCoercion coercion').toArg := rfl
  simp only [among, toOptions, List.map_append, List.map_cons, harg]

/-- Two coercions that make the same of the word that a line gives lead to the same arguments, or
to the same text. -/
theorem parse_withCoercion {host : Host} {line : String}
    (h : ∀ found, ((spec.among before after (p.withCoercion coercion)).toOptions name).matchWords
        line.argumentWords = .ok found →
      valueOf host (.ofMatches found) (p.withCoercion coercion) =
        valueOf host (.ofMatches found) (p.withCoercion coercion')) :
    (spec.among before after (p.withCoercion coercion)).parse name host line =
      (spec.among before after (p.withCoercion coercion')).parse name host line := by
  have hoptions := toOptions_withCoercion spec name before after p coercion coercion'
  cases hmatch : ((spec.among before after (p.withCoercion coercion)).toOptions name).matchWords
      line.argumentWords with
  | error e =>
    have hother := hmatch
    rw [hoptions] at hother
    rw [parse, parse, hmatch, hother]
    simp only [abort, hoptions]
  | ok found =>
    have hother := hmatch
    rw [hoptions] at hother
    have hcollect : collect host (.ofMatches found)
        (spec.among before after (p.withCoercion coercion)).params =
        collect host (.ofMatches found)
          (spec.among before after (p.withCoercion coercion')).params :=
      collect_exchange host (.ofMatches found) before after rfl (h found hmatch)
    rw [parse_of_match hmatch, parse_of_match hother, hcollect]
    simp only [abort, hoptions]

end Exchange

/-- A word is read in base sixteen as the literal that it is, and only then, unless it is a literal
but for a plus sign in front of its digits: that is read as well. No host is asked for what is read.
For any other word, what is made of it and the expressions handed to the host are those of a
parameter that takes an expression. So a line that gives such a word is parsed as if the parameter
took an expression, also where that ends in a text that refuses it. -/
theorem hex_arguments_are_literals_or_expressions (host : Host) (p : Param) (word : String) :
    ((∀ v, hex? word = some v ↔ IsHexLiteral word v) ↔ ∀ v, ¬IsSignedHex word v) ∧
    (∀ v, hex? word = some v ↔ IsHexLiteral word v ∨ IsSignedHex word v) ∧
    (∀ v, IsHexLiteral word v ∨ IsSignedHex word v →
      coerce host (p.withCoercion .hexOrExpression) word = ⟨[], .ok (.int v)⟩) ∧
    ((∀ v, ¬IsHexLiteral word v ∧ ¬IsSignedHex word v) →
      coerce host (p.withCoercion .hexOrExpression) word =
        coerce host (p.withCoercion .expressionOrAbort) word) ∧
    ∀ (spec : ArgumentSpec) name line before after,
      (∀ found, ((spec.among before after (p.withCoercion .hexOrExpression)).toOptions
          name).matchWords line.argumentWords = .ok found →
        ∀ given, (Given.ofMatches found).Gives p given →
          ∀ v, ¬IsHexLiteral given v ∧ ¬IsSignedHex given v) →
      (spec.among before after (p.withCoercion .hexOrExpression)).parse name host line =
        (spec.among before after (p.withCoercion .expressionOrAbort)).parse name host line := by
  have hnone {word : String} (h : ∀ v, ¬IsHexLiteral word v ∧ ¬IsSignedHex word v) :
      hex? word = none := by
    rw [Option.eq_none_iff_forall_ne_some]
    intro v hv
    rcases (hex?_eq_some_iff word v).1 hv with hliteral | hsigned
    · exact (h v).1 hliteral
    · exact (h v).2 hsigned
  refine ⟨hex?_reads_literals_iff word, hex?_eq_some_iff word, fun v h => ?_, fun h => ?_, ?_⟩
  · exact coerce_of_hex host p ((hex?_eq_some_iff word v).2 h)
  · exact coerce_of_not_hex host p (hnone h)
  · intro spec name line before after h
    refine parse_withCoercion spec name before after p _ _ fun found hmatch => ?_
    exact valueOf_of_not_hex host (.ofMatches found) p fun given hgiven =>
      hnone (h found hmatch given hgiven)

/-- A number with a plus sign in front is no literal, and no expression either: a parameter that
takes an expression refuses it. All the same it is read in base sixteen, where that is tried. -/
theorem signed_number_is_no_expression :
    (∀ v, ¬IsHexLiteral "+10" v) ∧
    coerce (({} : Target).host []) (startAddress.withCoercion .hexOrExpression) "+10" =
      ⟨[], .ok (.int 16)⟩ ∧
    coerce (({} : Target).host []) (startAddress.withCoercion .expressionOrAbort) "+10" =
      ⟨["+10"], .error "argument address: Incorrect address (or GDB expression): +10"⟩ := by
  refine ⟨fun v h => ?_, ?_, ?_⟩
  · exact h.not_mem_plus (by decide)
  · exact coerce_of_hex _ _ (by cbv)
  · have htried : Coercer.Attempts (({} : Target).host []) "+10" ["+10"]
        (.error (.malformed "+10")) := .of_no_registers rfl (by decide +kernel) rfl
    exact expressionOrAbort_eq _ _ htried

end DebugShell.ArgumentSpec
