import DebugShell.Proofs.Evaluation

/-!
# A dead process has no registers

A description may list registers although its process is not alive. They are out of reach then: the
look-up of a register fails before the description is consulted (`register_of_dead`), whatever the
name and whatever is listed. An expression is evaluated from the look-ups of its registers and its
symbols alone (`valueOf_congr`), so two dead targets with the same symbols answer every text alike.

An expression with a register anywhere in it has no value on a dead target, since the register is at
fault by itself. It need not be the register that the error is about. Evaluation goes from left to
right and stops at the first fault, so that a missing symbol or a value out of range may come before
(`evaluate_of_dead`).
-/

namespace DebugShell.Target

open Expression

/-- The error of a register that is asked for while there is no live process. -/
def noRegisters : HostError :=
  .other "No registers."

/-- An expression is evaluated from the look-ups of registers and symbols, and from nothing else
that a target describes. -/
theorem valueOf_congr {t u : Target} (hregister : ∀ name, t.register name = u.register name)
    (hsymbol : ∀ name, t.symbol name = u.symbol name) (e : Expression) :
    t.valueOf e = u.valueOf e := by
  induction e with
  | number n => rfl
  | register name => rw [valueOf, valueOf, hregister]
  | symbol name => rw [valueOf, valueOf, hsymbol]
  | neg operand ih => rw [valueOf, valueOf, ih]
  | binary op l r ihl ihr => rw [valueOf, valueOf, ihl, ihr]

section Dead

variable {t : Target} (hdead : t.session.processAlive = false)
include hdead

/-- A dead process has no register to look up. -/
theorem register_of_dead (name : String) : t.register name = .error noRegisters := by
  unfold register
  rw [hdead]
  rfl

/-- A register is at fault in every expression that it occurs in. -/
theorem fault_of_dead (name : String) : t.Fault (.register name) noRegisters :=
  .register (register_of_dead hdead name)

/-- A text with a register in it is refused: for that it has a register, or for what is wrong with a
subexpression that comes before any register. -/
theorem evaluate_of_dead {text : String} {e : Expression} (hparse : parse text = .ok e)
    {name : String} (hname : .register name ∈ e.subexpressions) :
    ∃ error, t.evaluate text = .error error ∧
      (error = noRegisters ∨ ∃ before s after, e.subexpressions = before ++ s :: after ∧
        t.Fault s error ∧ ∀ other, .register other ∉ before ++ [s]) := by
  have hbounded := numbersBounded_of_parse hparse
  have heval : t.evaluate text = t.valueOf e := by
    unfold evaluate
    rw [hparse]
    rfl
  rw [heval]
  cases hvalue : t.valueOf e with
  | ok v =>
    -- A value would take the value of the register.
    have hcomputes := (valueOf_eq_ok_iff hbounded v).1 hvalue
    obtain ⟨a, hfound⟩ := hcomputes.registers name hname
    have hmissing := register_of_dead hdead name
    rw [hfound] at hmissing
    cases hmissing
  | error error =>
    refine ⟨error, rfl, ?_⟩
    obtain ⟨before, s, after, hsplit, hbefore, hfault⟩ :=
      (valueOf_eq_error_iff hbounded error).1 hvalue
    by_cases hs : ∃ other, s = .register other
    · obtain ⟨other, rfl⟩ := hs
      exact .inl (hfault.unique (fault_of_dead hdead other))
    · refine .inr ⟨before, s, after, hsplit, hfault, fun other hother => ?_⟩
      rcases List.mem_append.1 hother with hother | hother
      · -- What comes before the first fault is not at fault.
        have hsound : ¬t.Fault (.register other) noRegisters := hbefore _ hother noRegisters
        exact hsound (fault_of_dead hdead other)
      · have hsame : .register other = s := List.mem_singleton.1 hother
        exact hs ⟨other, hsame.symm⟩

end Dead

/-- Dead targets with the same symbols evaluate every text alike, whatever registers they list. On
such a target no text with a register in it has a value. -/
theorem dead_processes_leak_no_register {t u : Target} (ht : t.session.processAlive = false)
    (hu : u.session.processAlive = false) (hsymbols : t.symbols = u.symbols) :
    (∀ text, t.evaluate text = u.evaluate text) ∧
    ∀ text e name, parse text = .ok e → .register name ∈ e.subexpressions →
      ∃ error, t.evaluate text = .error error ∧
        (error = noRegisters ∨ ∃ before s after, e.subexpressions = before ++ s :: after ∧
          t.Fault s error ∧ ∀ other, .register other ∉ before ++ [s]) := by
  have hregister : ∀ name, t.register name = u.register name := fun name => by
    rw [register_of_dead ht, register_of_dead hu]
  have hsymbol : ∀ name, t.symbol name = u.symbol name := fun name => by
    unfold symbol
    rw [hsymbols]
  constructor
  · intro text
    have hvalue : t.valueOf = u.valueOf := funext (valueOf_congr hregister hsymbol)
    unfold evaluate
    rw [hvalue]
  · intro text e name hparse hname
    exact evaluate_of_dead ht hparse hname

/-- A target with a register and a symbol, whose process is alive or dead. -/
def departed (alive : Bool) (rax : UInt64) : Target where
  session := { processAlive := alive }
  registers := .ofList [("rax", rax)]
  symbols := .ofList [("main", 0x401000)]

/-- Alive, such targets are told apart by the value of the register. Dead, they are not by any text,
and of a sum of a missing symbol and the register it is the symbol that is missed. -/
theorem departed_targets_are_not_told_apart :
    (departed true 7).evaluate "main + $rax" = .ok 0x401007 ∧
      (departed true 8).evaluate "main + $rax" = .ok 0x401008 ∧
      (∀ text, (departed false 7).evaluate text = (departed false 8).evaluate text) ∧
      (departed false 7).evaluate "main + $rax" = .error noRegisters ∧
      (departed false 7).evaluate "win + $rax" = .error (.noSymbol "win") ∧
      ∃ error, (departed false 7).evaluate "win + $rax" = .error error ∧
        (error = noRegisters ∨ ∃ before s after,
          subexpressions (.binary .add (.symbol "win") (.register "rax")) =
            before ++ s :: after ∧
          (departed false 7).Fault s error ∧ ∀ other, .register other ∉ before ++ [s]) := by
  obtain ⟨hsame, hrefused⟩ :=
    dead_processes_leak_no_register (t := departed false 7) (u := departed false 8) rfl rfl rfl
  have hparse : parse "win + $rax" = .ok (.binary .add (.symbol "win") (.register "rax")) := by
    decide +kernel
  exact ⟨by decide +kernel, by decide +kernel, hsame, by decide +kernel, by decide +kernel,
    hrefused _ _ "rax" hparse (by simp [subexpressions])⟩

end DebugShell.Target
