import DebugShell.Coercion
import DebugShell.Proofs.Parsing
import Mathlib.Data.Int.ModEq
import Mathlib.Data.List.Permutation

/-!
# Evaluation is exact, and coercion takes it modulo `2 ^ 64`

A target evaluates an expression in 128-bit arithmetic, and stops at the first subexpression that
has no value or leaves the range. Here this is compared with arithmetic on all integers.
`Target.HasValue` gives an expression its exact value, and says nothing of ranges. `Target.Fault`
says what is wrong with a subexpression by itself: a register or a symbol that is not there, or an
exact value out of range. Evaluation yields the exact value if no subexpression is at fault, and
otherwise the error of the first that is (`evaluation_is_exact`).

The order is that of `Expression.subexpressions`, in which the operands of an operation stand before
it. So the faults of `left ++ right ++ [whole]` are those of a list, and the induction goes through
with two lemmas about the first fault of a list that is cut in two (`FirstFault.append`,
`FirstFault.append_of_faultless`). Expressions that are parsed have numbers below `2 ^ 127` only
(`Expression.numbersBounded_of_parse`), so that a number is never at fault.
-/

namespace DebugShell

namespace Expression

/-! ## Subexpressions -/

/-- The subexpressions of an expression in the order in which they are evaluated: operands before
what is made of them, and left ones before right ones. The expression itself is the last. -/
def subexpressions : Expression → List Expression
  | .number n => [.number n]
  | .register name => [.register name]
  | .symbol name => [.symbol name]
  | .neg operand => operand.subexpressions ++ [.neg operand]
  | .binary op left right =>
    left.subexpressions ++ right.subexpressions ++ [.binary op left right]

/-- All numbers in an expression are below `2 ^ 127`. -/
def NumbersBounded (e : Expression) : Prop :=
  ∀ n, .number n ∈ e.subexpressions → n < 2 ^ 127

/-- The operand of a negation has bounded numbers if the negation has. -/
theorem NumbersBounded.operand {e : Expression} (h : (neg e).NumbersBounded) :
    e.NumbersBounded :=
  fun n hn => h n (List.mem_append_left _ hn)

/-- The operands of an operation have bounded numbers if the operation has. -/
theorem NumbersBounded.operands {op : Operator} {l r : Expression}
    (h : (binary op l r).NumbersBounded) : l.NumbersBounded ∧ r.NumbersBounded := by
  refine ⟨fun n hn => h n ?_, fun n hn => h n ?_⟩
  · exact List.mem_append_left _ (List.mem_append_left _ hn)
  · exact List.mem_append_left _ (List.mem_append_right _ hn)

/-- The numbers of an operation are those of its operands. -/
theorem numbersBounded_binary {op : Operator} {l r : Expression} (hl : l.NumbersBounded)
    (hr : r.NumbersBounded) : (binary op l r).NumbersBounded := by
  intro n hn
  simp only [subexpressions, List.mem_append, List.mem_singleton, reduceCtorEq, or_false] at hn
  rcases hn with hn | hn
  · exact hl n hn
  · exact hr n hn

/-- The tree of a phrase has bounded numbers if the tokens of the phrase have. -/
theorem Phrase.numbersBounded {rule : Rule} {ts : List Token} {e : Expression}
    (h : Phrase rule ts e) (hts : ∀ n, .number n ∈ ts → n < 2 ^ 127) : e.NumbersBounded := by
  induction h with
  | number n =>
    intro m hm
    exact hts m (by simpa [subexpressions] using hm)
  | register name | symbol name =>
    intro m hm
    simp [subexpressions] at hm
  | parentheses _ ih => exact ih fun n hn => hts n (by simp [hn])
  | negation _ ih =>
    intro n hn
    simp only [subexpressions, List.mem_append, List.mem_singleton, reduceCtorEq, or_false] at hn
    exact ih (fun m hm => hts m (List.mem_cons_of_mem _ hm)) n hn
  | factor _ ih | product _ ih => exact ih hts
  | times _ _ ihl ihr | plus _ _ ihl ihr | minus _ _ ihl ihr =>
    exact numbersBounded_binary (ihl fun n hn => hts n (by simp [hn]))
      (ihr fun n hn => hts n (by simp [hn]))

/-- The numbers that are written in a text are below `2 ^ 127`. -/
theorem Written.numbersBounded {ts : List Token} {cs : List Char} (h : Written ts cs) :
    ∀ n, .number n ∈ ts → n < 2 ^ 127 := by
  induction h with
  | nil => exact fun n hn => absurd hn List.not_mem_nil
  | space _ _ ih => exact ih
  | token hspells _ ih =>
    intro n hn
    rcases List.mem_cons.1 hn with rfl | hn
    · cases hspells with
      | decimal _ hlt => exact hlt
      | hexadecimal _ _ hlt => exact hlt
    · exact ih n hn

/-- An expression that is parsed has bounded numbers. -/
theorem numbersBounded_of_parse {text : String} {e : Expression} (h : parse text = .ok e) :
    e.NumbersBounded := by
  obtain ⟨tokens, hwritten, hphrase⟩ := (parse_eq_ok_iff text e).1 h
  exact hphrase.numbersBounded hwritten.numbersBounded

end Expression

namespace Target

open Expression

/-! ## Exact values and faults -/

/-- `t.HasValue e v`: the registers and symbols of `e` are known to the target, and `v` is what `e`
comes to in the arithmetic of all integers. -/
inductive HasValue (t : Target) : Expression → Int → Prop
  /-- A number is its own value. -/
  | number (n : Nat) : HasValue t (.number n) n
  /-- A register has the value that it holds. -/
  | register {name : String} {a : UInt64} (h : t.register name = .ok a) :
    HasValue t (.register name) a.toNat
  /-- A symbol has its address for a value. -/
  | symbol {name : String} {a : UInt64} (h : t.symbol name = .ok a) :
    HasValue t (.symbol name) a.toNat
  /-- A negation. -/
  | neg {e : Expression} {v : Int} (h : HasValue t e v) : HasValue t (.neg e) (-v)
  /-- A sum. -/
  | add {l r : Expression} {v w : Int} (hl : HasValue t l v) (hr : HasValue t r w) :
    HasValue t (.binary .add l r) (v + w)
  /-- A difference. -/
  | sub {l r : Expression} {v w : Int} (hl : HasValue t l v) (hr : HasValue t r w) :
    HasValue t (.binary .sub l r) (v - w)
  /-- A product. -/
  | mul {l r : Expression} {v w : Int} (hl : HasValue t l v) (hr : HasValue t r w) :
    HasValue t (.binary .mul l r) (v * w)

/-- The values of 128-bit signed arithmetic. -/
def InRange (v : Int) : Prop :=
  -2 ^ 127 ≤ v ∧ v ≤ 2 ^ 127 - 1

/-- The error of an operation whose value is out of range. -/
def overflow : HostError :=
  .other "Integer overflow in expression."

/-- `t.Fault e error`: something is wrong with `e` itself, and `error` says what. -/
inductive Fault (t : Target) : Expression → HostError → Prop
  /-- A register that cannot be read. -/
  | register {name : String} {error : HostError} (h : t.register name = .error error) :
    Fault t (.register name) error
  /-- A symbol that is not known. -/
  | symbol {name : String} {error : HostError} (h : t.symbol name = .error error) :
    Fault t (.symbol name) error
  /-- An exact value that is out of range. -/
  | overflow {e : Expression} {v : Int} (h : t.HasValue e v) (hv : ¬InRange v) :
    Fault t e overflow

/-- Nothing is wrong with any expression of a list. -/
def Faultless (t : Target) (es : List Expression) : Prop :=
  ∀ e ∈ es, ∀ error, ¬t.Fault e error

/-- `t.FirstFault es error`: some expression of the list is at fault with that error, and none in
front of it is at fault. -/
def FirstFault (t : Target) (es : List Expression) (error : HostError) : Prop :=
  ∃ before e after, es = before ++ e :: after ∧ t.Faultless before ∧ t.Fault e error

/-- `t.Computes e v`: every register and symbol of `e` is known, the exact value of every
subexpression is in range, and `v` is that of the whole. -/
structure Computes (t : Target) (e : Expression) (v : Int) : Prop where
  /-- The registers can be read. -/
  registers : ∀ name, .register name ∈ e.subexpressions → ∃ a, t.register name = .ok a
  /-- The symbols are known. -/
  symbols : ∀ name, .symbol name ∈ e.subexpressions → ∃ a, t.symbol name = .ok a
  /-- The exact values are in range. -/
  ranges : ∀ s ∈ e.subexpressions, ∀ w, t.HasValue s w → InRange w
  /-- The value is the exact one. -/
  value : t.HasValue e v

variable {t : Target}

/-- An expression has at most one exact value. -/
theorem HasValue.unique {e : Expression} {v w : Int} (hv : t.HasValue e v) (hw : t.HasValue e w) :
    v = w := by
  induction hv generalizing w with
  | number n =>
    cases hw
    rfl
  | register h =>
    cases hw with
    | register h' => rw [Except.ok.inj (h.symm.trans h')]
  | symbol h =>
    cases hw with
    | symbol h' => rw [Except.ok.inj (h.symm.trans h')]
  | neg _ ih =>
    cases hw with
    | neg h' => rw [ih h']
  | add _ _ ihl ihr =>
    cases hw with
    | add hl' hr' => rw [ihl hl', ihr hr']
  | sub _ _ ihl ihr =>
    cases hw with
    | sub hl' hr' => rw [ihl hl', ihr hr']
  | mul _ _ ihl ihr =>
    cases hw with
    | mul hl' hr' => rw [ihl hl', ihr hr']

/-- An operation has the exact value that its operator computes. -/
theorem hasValue_binary {l r : Expression} {v w : Int} (op : Operator) (hl : t.HasValue l v)
    (hr : t.HasValue r w) : t.HasValue (.binary op l r) (op.apply v w) := by
  cases op with
  | add => exact .add hl hr
  | sub => exact .sub hl hr
  | mul => exact .mul hl hr

/-- An expression is at fault in one way only. -/
theorem Fault.unique {e : Expression} {a b : HostError} (ha : t.Fault e a) (hb : t.Fault e b) :
    a = b := by
  cases ha with
  | register h =>
    cases hb with
    | register h' => exact Except.error.inj (h.symm.trans h')
    | overflow hvalue _ =>
      cases hvalue with
      | register h' => cases h.symm.trans h'
  | symbol h =>
    cases hb with
    | symbol h' => exact Except.error.inj (h.symm.trans h')
    | overflow hvalue _ =>
      cases hvalue with
      | symbol h' => cases h.symm.trans h'
  | overflow hvalue _ =>
    cases hb with
    | register h' =>
      cases hvalue with
      | register h => cases h.symm.trans h'
    | symbol h' =>
      cases hvalue with
      | symbol h => cases h.symm.trans h'
    | overflow _ _ => rfl

/-- An expression whose exact value is in range is not at fault. -/
theorem not_fault_of_inRange {e : Expression} {v : Int} (h : t.HasValue e v) (hv : InRange v)
    (error : HostError) : ¬t.Fault e error := by
  intro hfault
  cases hfault with
  | register hreg =>
    cases h with
    | register hreg' => cases hreg.symm.trans hreg'
  | symbol hsym =>
    cases h with
    | symbol hsym' => cases hsym.symm.trans hsym'
  | overflow h' hout => exact hout (h.unique h' ▸ hv)

/-! ## The first fault of a list -/

/-- A list without faults goes on without faults. -/
theorem Faultless.append {es fs : List Expression} (hes : t.Faultless es) (hfs : t.Faultless fs) :
    t.Faultless (es ++ fs) := by
  intro e he
  rcases List.mem_append.1 he with he | he
  · exact hes e he
  · exact hfs e he

/-- The first fault of a list is that of every longer list. -/
theorem FirstFault.append {es : List Expression} {error : HostError} (h : t.FirstFault es error)
    (fs : List Expression) : t.FirstFault (es ++ fs) error := by
  obtain ⟨before, e, after, rfl, hbefore, he⟩ := h
  exact ⟨before, e, after ++ fs, by simp only [List.append_assoc, List.cons_append], hbefore, he⟩

/-- Behind a list without faults, the first fault is that of the rest. -/
theorem FirstFault.append_of_faultless {es fs : List Expression} {error : HostError}
    (hes : t.Faultless es) (h : t.FirstFault fs error) : t.FirstFault (es ++ fs) error := by
  obtain ⟨before, e, after, rfl, hbefore, he⟩ := h
  exact ⟨es ++ before, e, after, by rw [List.append_assoc], hes.append hbefore, he⟩

/-- An expression at fault is the first fault of the list of it alone. -/
theorem Fault.firstFault {e : Expression} {error : HostError} (h : t.Fault e error) :
    t.FirstFault [e] error :=
  ⟨[], e, [], rfl, fun _ he => absurd he List.not_mem_nil, h⟩

/-- A list with a first fault is not without faults. -/
theorem FirstFault.not_faultless {es : List Expression} {error : HostError}
    (h : t.FirstFault es error) : ¬t.Faultless es := by
  obtain ⟨before, e, after, rfl, -, he⟩ := h
  exact fun hes => hes e (List.mem_append_right _ List.mem_cons_self) error he

/-- A list has one first fault only. -/
theorem FirstFault.unique {es : List Expression} {a b : HostError} (ha : t.FirstFault es a)
    (hb : t.FirstFault es b) : a = b := by
  obtain ⟨before, e, after, rfl, hbefore, he⟩ := ha
  obtain ⟨before', e', after', hsplit, hbefore', he'⟩ := hb
  -- Either both lists in front are the same, or the longer one has the fault of the other in it.
  rcases List.append_eq_append_iff.1 hsplit with ⟨gap, rfl, hgap⟩ | ⟨gap, rfl, hgap⟩
  · cases gap with
    | nil =>
      cases hgap
      exact he.unique he'
    | cons f gap =>
      cases hgap
      exact absurd he (hbefore' e (by simp) a)
  · cases gap with
    | nil =>
      cases hgap
      exact he.unique he'
    | cons f gap =>
      cases hgap
      exact absurd he' (hbefore e' (by simp) b)

/-! ## Evaluation -/

/-- What evaluation comes to: a value that is exact where nothing is at fault, or else the error of
the first fault. -/
def Explains (t : Target) (e : Expression) : Except HostError Int → Prop
  | .ok v => t.HasValue e v ∧ t.Faultless e.subexpressions
  | .error error => t.FirstFault e.subexpressions error

/-- A value is in range exactly if evaluation lets it pass. -/
theorem inValueRange_iff (v : Int) : inValueRange v = true ↔ InRange v := by
  have hbound : (Expression.numberBound : Int) = 2 ^ 127 := rfl
  simp only [inValueRange, InRange, Bool.and_eq_true, decide_eq_true_eq, hbound]
  omega

/-- Where the operands of an operation have been evaluated, the check of its exact value finds the
one fault that can be left. -/
theorem explains_checkedValue {e : Expression} {es : List Expression} {v : Int}
    (hsub : e.subexpressions = es ++ [e]) (hes : t.Faultless es) (hv : t.HasValue e v) :
    t.Explains e (checkedValue v) := by
  unfold checkedValue
  split
  · rename_i hin
    have hrange := (inValueRange_iff v).1 hin
    refine ⟨hv, ?_⟩
    rw [hsub]
    refine hes.append fun f hf => ?_
    rw [List.mem_singleton.1 hf]
    exact not_fault_of_inRange hv hrange
  · rename_i hout
    have hfault : t.Fault e overflow := .overflow hv (mt (inValueRange_iff v).2 hout)
    unfold Explains
    dsimp only
    rw [hsub]
    exact .append_of_faultless hes hfault.firstFault

/-- A word of 64 bits is in range. -/
theorem inRange_toNat (a : UInt64) : InRange a.toNat := by
  have hlt := a.toNat_lt
  unfold InRange
  omega

/-- A register or a symbol that is looked up, and is its only subexpression, is at fault exactly if
it is not found. -/
theorem explains_lookup {e : Expression} {found : Except HostError UInt64}
    (hsub : e.subexpressions = [e]) (hvalue : ∀ a, found = .ok a → t.HasValue e a.toNat)
    (hfault : ∀ error, found = .error error → t.Fault e error) :
    t.Explains e (found.map fun a => (a.toNat : Int)) := by
  cases found with
  | ok a =>
    refine ⟨hvalue a rfl, fun f hf => ?_⟩
    rw [hsub, List.mem_singleton] at hf
    rw [hf]
    exact not_fault_of_inRange (hvalue a rfl) (inRange_toNat a)
  | error error =>
    have hfirst := (hfault error rfl).firstFault
    rw [← hsub] at hfirst
    exact hfirst

/-- Evaluation is explained by exact values and faults. -/
theorem explains_valueOf (t : Target) {e : Expression} (he : e.NumbersBounded) :
    t.Explains e (t.valueOf e) := by
  induction e with
  | number n =>
    -- A number is not checked when it is evaluated: the reader has refused those out of range.
    have hlt : n < 2 ^ 127 := he n List.mem_cons_self
    refine ⟨.number n, fun f hf => ?_⟩
    rw [List.mem_singleton.1 hf]
    exact not_fault_of_inRange (.number n) ⟨by omega, by omega⟩
  | register name => exact explains_lookup rfl (fun a h => .register h) fun error h => .register h
  | symbol name => exact explains_lookup rfl (fun a h => .symbol h) fun error h => .symbol h
  | neg operand ih =>
    have hoperand := ih he.operand
    cases hv : t.valueOf operand with
    | error error =>
      rw [hv] at hoperand
      have hvalue : t.valueOf (.neg operand) = .error error := by rw [valueOf, hv]; rfl
      rw [hvalue]
      exact hoperand.append _
    | ok v =>
      rw [hv] at hoperand
      have hvalue : t.valueOf (.neg operand) = checkedValue (-v) := by rw [valueOf, hv]; rfl
      rw [hvalue]
      exact explains_checkedValue rfl hoperand.2 (.neg hoperand.1)
  | binary op l r ihl ihr =>
    obtain ⟨hboundl, hboundr⟩ := he.operands
    have hleft := ihl hboundl
    have hright := ihr hboundr
    cases hv : t.valueOf l with
    | error error =>
      -- The right operand is not evaluated, and its subexpressions come after the left ones.
      rw [hv] at hleft
      have hvalue : t.valueOf (.binary op l r) = .error error := by rw [valueOf, hv]; rfl
      rw [hvalue]
      exact (hleft.append _).append _
    | ok v =>
      rw [hv] at hleft
      cases hw : t.valueOf r with
      | error error =>
        rw [hw] at hright
        have hvalue : t.valueOf (.binary op l r) = .error error := by rw [valueOf, hv, hw]; rfl
        rw [hvalue]
        exact FirstFault.append (.append_of_faultless hleft.2 hright) _
      | ok w =>
        rw [hw] at hright
        have hvalue : t.valueOf (.binary op l r) = checkedValue (op.apply v w) := by
          rw [valueOf, hv, hw]; rfl
        rw [hvalue]
        exact explains_checkedValue rfl (hleft.2.append hright.2)
          (hasValue_binary op hleft.1 hright.1)

/-- Nothing is at fault in an expression that has an exact value exactly if the value can be
computed. -/
theorem computes_iff {e : Expression} {v : Int} :
    t.Computes e v ↔ t.HasValue e v ∧ t.Faultless e.subexpressions := by
  constructor
  · intro h
    refine ⟨h.value, fun s hs error hfault => ?_⟩
    cases hfault with
    | register hmissing =>
      obtain ⟨a, hfound⟩ := h.registers _ hs
      cases hfound.symm.trans hmissing
    | symbol hmissing =>
      obtain ⟨a, hfound⟩ := h.symbols _ hs
      cases hfound.symm.trans hmissing
    | overflow hvalue hout => exact hout (h.ranges s hs _ hvalue)
  · rintro ⟨hvalue, hfaultless⟩
    refine ⟨fun name hname => ?_, fun name hname => ?_, fun s hs w hw => ?_, hvalue⟩
    · cases hfound : t.register name with
      | ok a => exact ⟨a, rfl⟩
      | error error => exact absurd (.register hfound) (hfaultless _ hname error)
    · cases hfound : t.symbol name with
      | ok a => exact ⟨a, rfl⟩
      | error error => exact absurd (.symbol hfound) (hfaultless _ hname error)
    · by_contra hout
      exact hfaultless s hs overflow (.overflow hw hout)

section Bounded

variable {e : Expression} (he : e.NumbersBounded)
include he

/-- Evaluation yields a value exactly if the value can be computed. -/
theorem valueOf_eq_ok_iff (v : Int) : t.valueOf e = .ok v ↔ t.Computes e v := by
  have hexplains := t.explains_valueOf he
  rw [computes_iff]
  constructor
  · intro h
    rw [h] at hexplains
    exact hexplains
  · rintro ⟨hvalue, hfaultless⟩
    cases hresult : t.valueOf e with
    | ok w =>
      rw [hresult] at hexplains
      rw [hvalue.unique hexplains.1]
    | error error =>
      rw [hresult] at hexplains
      exact absurd hfaultless (FirstFault.not_faultless hexplains)

/-- Evaluation yields an error exactly if it is that of the first fault. -/
theorem valueOf_eq_error_iff (error : HostError) :
    t.valueOf e = .error error ↔ t.FirstFault e.subexpressions error := by
  have hexplains := t.explains_valueOf he
  constructor
  · intro h
    rw [h] at hexplains
    exact hexplains
  · intro h
    cases hresult : t.valueOf e with
    | ok v =>
      rw [hresult] at hexplains
      exact absurd hexplains.2 h.not_faultless
    | error other =>
      rw [hresult] at hexplains
      rw [h.unique hexplains]

end Bounded

end Target

/-! ## Coercion -/

namespace Coercer

/-- A token has a value for a host: its own, or, if it has none as it stands, the one that it gets
when its register names are marked. -/
inductive Yields (host : Host) (token : String) (v : Int) : Prop
  /-- It has a value as it stands. -/
  | verbatim (h : host.evaluate token = .ok v)
  /-- It has a value once its register names are marked. -/
  | marked {error : HostError} (hfirst : host.evaluate token = .error error)
    (h : host.evaluate (Registers.withMarks token host.registerNames) = .ok v)

/-- The word that an integer is taken as is congruent to it. -/
theorem toNat_ofInt_modEq (v : Int) : ((UInt64.ofInt v).toNat : Int) ≡ v [ZMOD 2 ^ 64] := by
  have hnonneg : 0 ≤ v % 2 ^ 64 := Int.emod_nonneg v (by decide)
  have hlt : v % 2 ^ 64 < 2 ^ 64 := Int.emod_lt_of_pos v (by decide)
  have hword : (UInt64.ofInt v).toNat = (v % 2 ^ 64).toNat := by
    rw [UInt64.ofInt, UInt64.toNat_ofNat']
    exact Nat.mod_eq_of_lt (by omega)
  calc ((UInt64.ofInt v).toNat : Int) = v % 2 ^ 64 := by rw [hword, Int.toNat_of_nonneg hnonneg]
    _ ≡ v [ZMOD 2 ^ 64] := Int.mod_modEq v (2 ^ 64)

/-- One of the two attempts at a token finds the value that it has. -/
theorem attempt_of_yields (c : Coercer) {token : String} {v : Int}
    (h : Yields c.host token v) : (c.attempt token).value = .ok (.ofInt v) := by
  cases h with
  | verbatim h => rw [attempt, evaluate, h, Except.map]
  | @marked error hfirst h =>
    have hne : Registers.withMarks token c.host.registerNames ≠ token := by
      intro heq
      rw [heq, hfirst] at h
      cases h
    rw [attempt, evaluate, hfirst, Except.map]
    dsimp only
    rw [if_neg hne, evaluate, h, Except.map]

/-- So whatever is to become of a failure, the token is turned into its value modulo `2 ^ 64`. -/
theorem fix_of_yields (c : Coercer) {token : String} {v : Int} (h : Yields c.host token v)
    (options : FixOptions) : (c.fix token options).result = .ok (some (.int (.ofInt v))) := by
  rw [fix, c.attempt_of_yields h]

end Coercer

/-- Evaluation is exact: the value of a parsed expression is the one that it has in the arithmetic
of all integers, if its registers and symbols are known and all values on the way are in range.
Otherwise it is refused with the error of the first subexpression at fault. A token that has a
value, as it stands or with its register names marked, is turned into the 64-bit word that is
congruent to the value. -/
theorem evaluation_is_exact :
    (∀ (t : Target) (text : String) (e : Expression), Expression.parse text = .ok e →
      (∀ v, t.valueOf e = .ok v ↔ t.Computes e v) ∧
        ∀ error, t.valueOf e = .error error ↔ t.FirstFault e.subexpressions error) ∧
    ∀ (c : Coercer) (token : String) (v : Int), Coercer.Yields c.host token v →
      ∃ w : UInt64, (w.toNat : Int) ≡ v [ZMOD 2 ^ 64] ∧
        (∀ options, (c.fix token options).result = .ok (some (.int w))) ∧
        (c.fixInt token).value = .ok w ∧ (c.sloppyParse token).value = .int w := by
  constructor
  · intro t text e hparse
    have hbounded := Expression.numbersBounded_of_parse hparse
    exact ⟨Target.valueOf_eq_ok_iff hbounded, Target.valueOf_eq_error_iff hbounded⟩
  · intro c token v h
    refine ⟨.ofInt v, Coercer.toNat_ofInt_modEq v, c.fix_of_yields h, ?_, ?_⟩
    · rw [Coercer.fixInt, c.fix_of_yields h]
    · rw [Coercer.sloppyParse, c.fix_of_yields h]

namespace Target

open Expression

/-- A live target with one register and no symbols. -/
def seven : Target where
  session := { processAlive := true }
  registers := .ofList [("rax", 7)]

/-- The lowest value that there is. -/
def lowest : Expression :=
  .binary .sub (.neg (.number 0x7fffffffffffffffffffffffffffffff)) (.number 1)

/-- The lowest value can be computed and not be negated, and that is found out before a symbol that
is missing further on. A token with a register that has no mark, and a value below zero, becomes the
highest word. -/
theorem lowest_value_computed_and_not_negated :
    parse "-0x7fffffffffffffffffffffffffffffff - 1" = .ok lowest ∧
      seven.Computes lowest (-2 ^ 127) ∧
      parse "-(-0x7fffffffffffffffffffffffffffffff - 1) * main" =
        .ok (.binary .mul (.neg lowest) (.symbol "main")) ∧
      seven.FirstFault (binary .mul (.neg lowest) (.symbol "main")).subexpressions overflow ∧
      Coercer.Yields (seven.host []) "rax - 8" (-1) ∧
      (Coercer.fixInt ⟨seven.host [], false⟩ "rax - 8").value = .ok 0xffffffffffffffff := by
  have hlowest : parse "-0x7fffffffffffffffffffffffffffffff - 1" = .ok lowest := by
    decide +kernel
  have hnegated : parse "-(-0x7fffffffffffffffffffffffffffffff - 1) * main" =
      .ok (.binary .mul (.neg lowest) (.symbol "main")) := by
    decide +kernel
  have hnames : Registers.searchNames ["rax"] = ["pc", "rax", "sp"] := by cbv
  have hmarked : Registers.withMarks "rax - 8" ["rax"] = "$rax - 8" := by
    rw [Registers.withMarks, hnames]
    rfl
  have hyields : Coercer.Yields (seven.host []) "rax - 8" (-1) := by
    have hvalue : seven.evaluate (Registers.withMarks "rax - 8" ["rax"]) = .ok (-1) := by
      rw [hmarked]
      decide +kernel
    have hbare : seven.evaluate "rax - 8" = .error (.noSymbol "rax") := by decide +kernel
    exact .marked hbare hvalue
  refine ⟨hlowest, ?_, hnegated, ?_, hyields, ?_⟩
  · exact ((evaluation_is_exact.1 seven _ _ hlowest).1 _).1 (by decide +kernel)
  · exact ((evaluation_is_exact.1 seven _ _ hnegated).2 _).1 (by decide +kernel)
  · obtain ⟨w, hword, -, hfix, -⟩ := evaluation_is_exact.2 ⟨seven.host [], false⟩ _ _ hyields
    have hlt := w.toNat_lt
    have hhighest : w.toNat = (0xffffffffffffffff : UInt64).toNat := by
      change w.toNat = 0xffffffffffffffff
      unfold Int.ModEq at hword
      omega
    rw [hfix, UInt64.toNat_inj.1 hhighest]

end Target

end DebugShell
