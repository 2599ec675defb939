import DebugShell.Expression
import DebugShell.Proofs.Numeral
import Mathlib.Data.List.Chain

/-!
# The grammar of expressions

What it means that a text writes an expression, said without a way of reading it. A text is made of
spelled tokens with spaces between and around them (`Written`), and the tokens form a phrase of the
grammar (`Phrase`), whose three rules are those of sums, products and factors. The left operand of
an operator is a phrase of the operator's own rule, and the right one of the rule below, so both
chains lean to the left.

The grammar never puts two operands next to each other (`Phrase.apart`). This is why it does no harm
that a reader takes each name and number as long as it can: what a longer token swallows would have
been an operand beside an operand.
-/

namespace DebugShell.Expression

/-! ## Tokens in a text -/

/-- The characters that may stand between tokens. -/
def spaces : List Char :=
  [' ', '\t', '\r', '\n']

/-- A name: a letter or an underscore, then letters, digits, underscores and points. -/
def IsName : List Char → Prop
  | [] => False
  | first :: rest => (first.isAlpha = true ∨ first = '_') ∧
    ∀ c ∈ rest, c.isAlphanum = true ∨ c = '_' ∨ c = '.'

/-- `Spells token cs`: the characters `cs` write the token. -/
inductive Spells : Token → List Char → Prop
  /-- A number by its decimal digits. -/
  | decimal {cs : List Char} {n : Nat} (h : Numeral.Writes 10 cs n) (hn : n < 2 ^ 127) :
    Spells (.number n) cs
  /-- A number by its hexadecimal digits, behind a mark. -/
  | hexadecimal {x : Char} {cs : List Char} {n : Nat} (hx : x = 'x' ∨ x = 'X')
    (h : Numeral.Writes 16 cs n) (hn : n < 2 ^ 127) : Spells (.number n) ('0' :: x :: cs)
  /-- A register by its name, right behind a mark. -/
  | register {cs : List Char} (h : IsName cs) : Spells (.register (String.ofList cs)) ('$' :: cs)
  /-- A symbol by its name. -/
  | symbol {cs : List Char} (h : IsName cs) : Spells (.symbol (String.ofList cs)) cs
  /-- A plus sign. -/
  | plus : Spells .plus ['+']
  /-- A minus sign. -/
  | minus : Spells .minus ['-']
  /-- An asterisk. -/
  | times : Spells .times ['*']
  /-- An opening parenthesis. -/
  | opening : Spells .opening ['(']
  /-- A closing parenthesis. -/
  | closing : Spells .closing [')']

/-- `Written tokens cs`: the characters `cs` are the spelled tokens, in order, with any number of
spaces before, between and behind them. -/
inductive Written : List Token → List Char → Prop
  /-- No tokens. -/
  | nil : Written [] []
  /-- A space in front. -/
  | space {tokens : List Token} {c : Char} {cs : List Char} (hc : c ∈ spaces)
    (h : Written tokens cs) : Written tokens (c :: cs)
  /-- A token in front. -/
  | token {token : Token} {tokens : List Token} {lexeme cs : List Char} (ht : Spells token lexeme)
    (h : Written tokens cs) : Written (token :: tokens) (lexeme ++ cs)

/-- The reader goes by the same spaces. -/
theorem isSpace_iff (c : Char) : isSpace c = true ↔ c ∈ spaces := by
  simp only [isSpace, spaces, Bool.or_eq_true, beq_iff_eq, List.mem_cons, List.not_mem_nil,
    or_false, or_assoc]

/-- The reader goes by the same characters of names. -/
theorem isName_cons_iff (first : Char) (rest : List Char) : IsName (first :: rest) ↔
    isNameStart first = true ∧ ∀ c ∈ rest, isNameChar c = true := by
  simp only [IsName, isNameStart, isNameChar, Bool.or_eq_true, beq_iff_eq, or_assoc]

instance (cs : List Char) : Decidable (IsName cs) :=
  match cs with
  | [] => inferInstanceAs (Decidable False)
  | first :: rest =>
    decidable_of_iff (isNameStart first = true ∧ rest.all isNameChar = true)
      ((and_congr_right fun _ => List.all_eq_true).trans (isName_cons_iff first rest).symm)

/-! ## Phrases -/

/-- The rules of the grammar. -/
inductive Rule where
  /-- Sums and differences of products. -/
  | sum
  /-- Products of factors. -/
  | product
  /-- Operands, parentheses and negations. -/
  | factor
  deriving DecidableEq, Repr

/-- `Phrase rule tokens e`: the rule derives the tokens, and `e` is the tree of the derivation. -/
inductive Phrase : Rule → List Token → Expression → Prop
  /-- A number is a factor. -/
  | number (n : Nat) : Phrase .factor [.number n] (.number n)
  /-- A register is a factor. -/
  | register (name : String) : Phrase .factor [.register name] (.register name)
  /-- A symbol is a factor. -/
  | symbol (name : String) : Phrase .factor [.symbol name] (.symbol name)
  /-- A sum in parentheses is a factor. -/
  | parentheses {ts : List Token} {e : Expression} (h : Phrase .sum ts e) :
    Phrase .factor (.opening :: (ts ++ [.closing])) e
  /-- A factor behind a minus sign is a factor. -/
  | negation {ts : List Token} {e : Expression} (h : Phrase .factor ts e) :
    Phrase .factor (.minus :: ts) (.neg e)
  /-- A factor is a product. -/
  | factor {ts : List Token} {e : Expression} (h : Phrase .factor ts e) : Phrase .product ts e
  /-- A product goes on with a factor. -/
  | times {ls rs : List Token} {l r : Expression} (hl : Phrase .product ls l)
    (hr : Phrase .factor rs r) : Phrase .product (ls ++ .times :: rs) (.binary .mul l r)
  /-- A product is a sum. -/
  | product {ts : List Token} {e : Expression} (h : Phrase .product ts e) : Phrase .sum ts e
  /-- A sum goes on with a product that is added. -/
  | plus {ls rs : List Token} {l r : Expression} (hl : Phrase .sum ls l)
    (hr : Phrase .product rs r) : Phrase .sum (ls ++ .plus :: rs) (.binary .add l r)
  /-- A sum goes on with a product that is subtracted. -/
  | minus {ls rs : List Token} {l r : Expression} (hl : Phrase .sum ls l)
    (hr : Phrase .product rs r) : Phrase .sum (ls ++ .minus :: rs) (.binary .sub l r)

/-- `Derives text e`: the text is a sum of the grammar, and `e` is the tree of the derivation. -/
def Derives (text : String) (e : Expression) : Prop :=
  ∃ tokens, Written tokens text.toList ∧ Phrase .sum tokens e

/-! ## No two operands stand next to each other -/

/-- Whether a token is an operand by itself. -/
def Token.isOperand : Token → Bool
  | .number _ | .register _ | .symbol _ => true
  | _ => false

/-- No two neighbours are operands. -/
def Apart (tokens : List Token) : Prop :=
  tokens.IsChain fun t u => ¬(t.isOperand = true ∧ u.isOperand = true)

/-- Tokens around one that is no operand are apart if those on its two sides are. -/
theorem Apart.around {ls rs : List Token} {t : Token} (hl : Apart ls) (ht : t.isOperand = false)
    (hr : Apart rs) : Apart (ls ++ t :: rs) := by
  refine List.isChain_append.2 ⟨hl, List.isChain_cons.2 ⟨?_, hr⟩, ?_⟩
  · rintro u - ⟨h, -⟩
    rw [ht] at h
    cases h
  · rintro s - u hu ⟨-, h⟩
    rw [List.head?_cons, Option.mem_some_iff] at hu
    rw [← hu, ht] at h
    cases h

/-- No tokens are apart. -/
theorem Apart.nil : Apart [] := List.IsChain.nil

/-- Tokens that are apart remain so without the first. -/
theorem Apart.tail {t : Token} {ts : List Token} (h : Apart (t :: ts)) : Apart ts :=
  (List.isChain_cons.1 h).2

/-- The tokens of a phrase are apart. -/
theorem Phrase.apart {rule : Rule} {tokens : List Token} {e : Expression}
    (h : Phrase rule tokens e) : Apart tokens := by
  -- By induction on the derivation: parentheses and signs stand between the operands of its parts.
  induction h with
  | number _ | register _ | symbol _ => exact List.isChain_singleton _
  | parentheses _ ih => exact Apart.nil.around rfl (ih.around rfl Apart.nil)
  | negation _ ih => exact Apart.nil.around rfl ih
  | factor _ ih | product _ ih => exact ih
  | times _ _ ihl ihr | plus _ _ ihl ihr | minus _ _ ihl ihr => exact ihl.around rfl ihr

end DebugShell.Expression
