import DebugShell.Proofs.Evaluation

/-!
# All coercions share their attempts

A token is handed to the host as it stands. If that fails and the token reads differently with its
register names marked, it is handed over once more with the marks, and nothing else is handed over.
`Coercer.Attempts` says so apart from the algorithm: which expressions were tried, and what came of
the last one. A token and a host determine both (`Attempts.unique`, `exists_attempts`).

The options only decide what becomes of a failure. `Coercer.FixContract` says this of each option,
and of the two coercions that are built on it: `fixInt`, which hands a failure on, and
`sloppyParse`, which keeps the token. So the three agree on every token that has a value, and on
what the host is asked (`coercions_share_their_attempts`).
-/

namespace DebugShell.Coercer

/-- `Attempts host token tried outcome`: the expressions `tried` are handed to the host for the
token, in this order, and `outcome` is what comes of the last of them. -/
inductive Attempts (host : Host) (token : String) : List String → Except HostError Int → Prop
  /-- The token has a value as it stands. -/
  | verbatim {v : Int} (h : host.evaluate token = .ok v) : Attempts host token [token] (.ok v)
  /-- It has none, and there is nothing in it to mark. -/
  | unmarked {e : HostError} (h : host.evaluate token = .error e)
    (hsame : Registers.withMarks token host.registerNames = token) :
    Attempts host token [token] (.error e)
  /-- It has none, and it is tried again with its register names marked. -/
  | marked {e : HostError} {outcome : Except HostError Int}
    (hfirst : host.evaluate token = .error e)
    (hne : Registers.withMarks token host.registerNames ≠ token)
    (h : host.evaluate (Registers.withMarks token host.registerNames) = outcome) :
    Attempts host token [token, Registers.withMarks token host.registerNames] outcome

/-- The attempts at a token are determined by the host and the token. -/
theorem Attempts.unique {host : Host} {token : String} {tried tried' : List String}
    {outcome outcome' : Except HostError Int} (h : Attempts host token tried outcome)
    (h' : Attempts host token tried' outcome') : tried' = tried ∧ outcome' = outcome := by
  cases h with
  | verbatim h =>
    cases h' with
    | verbatim h' => exact ⟨rfl, h'.symm.trans h⟩
    | unmarked h' => cases h.symm.trans h'
    | marked hfirst' => cases h.symm.trans hfirst'
  | unmarked h hsame =>
    cases h' with
    | verbatim h' => cases h.symm.trans h'
    | unmarked h' => exact ⟨rfl, h'.symm.trans h⟩
    | marked _ hne => exact absurd hsame hne
  | marked hfirst hne h =>
    cases h' with
    | verbatim h' => cases hfirst.symm.trans h'
    | unmarked _ hsame => exact absurd hsame hne
    | marked _ _ h' => exact ⟨rfl, h'.symm.trans h⟩

/-- What was tried and what came of it is what the attempts at a token record. -/
theorem attempt_eq (c : Coercer) {token : String} {tried : List String}
    {outcome : Except HostError Int} (h : Attempts c.host token tried outcome) :
    c.attempt token = ⟨tried, outcome.map .ofInt⟩ := by
  cases h with
  | verbatim h =>
    rw [attempt, evaluate, h]
    rfl
  | unmarked h hsame =>
    rw [attempt, evaluate, h, Except.map]
    dsimp only
    rw [if_pos hsame]
  | marked hfirst hne h =>
    rw [attempt, evaluate, hfirst, Except.map]
    dsimp only
    rw [if_neg hne, evaluate, h]

/-- There are attempts at every token. -/
theorem exists_attempts (host : Host) (token : String) :
    ∃ tried outcome, Attempts host token tried outcome := by
  cases h : host.evaluate token with
  | ok v => exact ⟨_, _, .verbatim h⟩
  | error e =>
    by_cases hsame : Registers.withMarks token host.registerNames = token
    · exact ⟨_, _, .unmarked h hsame⟩
    · exact ⟨_, _, .marked h hsame rfl⟩

/-- A host without registers marks only `pc` and `sp`. A token without a value that has neither in
it is tried once. -/
theorem Attempts.of_no_registers {host : Host} {token : String} {e : HostError}
    (hnone : host.registerNames = []) (h : host.evaluate token = .error e)
    (hsame : Registers.markFrom ["pc", "sp"] none 0 token.toList = token.toList) :
    Attempts host token [token] (.error e) := by
  have hnames : Registers.searchNames [] = ["pc", "sp"] := by cbv
  refine .unmarked h ?_
  rw [hnone, Registers.withMarks, hnames, hsame, String.ofList_toList]

/-! ## What becomes of the outcome -/

section Outcomes

variable (c : Coercer) {token : String} {tried : List String}

/-- A value is given whatever the options, and nothing is reported. -/
theorem fix_of_ok {v : Int} (h : Attempts c.host token tried (.ok v)) (options : FixOptions) :
    c.fix token options = ⟨tried, [], .ok (some (.int (.ofInt v)))⟩ := by
  rw [fix, c.attempt_eq h]
  rfl

/-- A failure is treated as the options say. -/
theorem fix_of_error {e : HostError} (h : Attempts c.host token tried (.error e))
    (options : FixOptions) :
    c.fix token options =
      ⟨tried, if !options.quiet && c.reports then [.error e.message] else [],
        if options.reraise then .error e
        else if options.sloppy then .ok (some (.raw token))
        else .ok none⟩ := by
  rw [fix, c.attempt_eq h]
  rfl

/-- The value of a token is its integer. -/
theorem fixInt_of_ok {v : Int} (h : Attempts c.host token tried (.ok v)) :
    c.fixInt token = ⟨tried, .ok (.ofInt v)⟩ := by
  rw [fixInt, c.fix_of_ok h]

/-- A failure is handed on. -/
theorem fixInt_of_error {e : HostError} (h : Attempts c.host token tried (.error e)) :
    c.fixInt token = ⟨tried, .error e⟩ := by
  rw [fixInt, c.fix_of_error h]
  rfl

/-- The value of a token stands for the token. -/
theorem sloppyParse_of_ok {v : Int} (h : Attempts c.host token tried (.ok v)) :
    c.sloppyParse token = ⟨tried, .int (.ofInt v)⟩ := by
  rw [sloppyParse, c.fix_of_ok h]

/-- A token without a value stands for itself. -/
theorem sloppyParse_of_error {e : HostError} (h : Attempts c.host token tried (.error e)) :
    c.sloppyParse token = ⟨tried, .raw token⟩ := by
  rw [sloppyParse, c.fix_of_error h]
  rfl

end Outcomes

/-! ## The contract -/

/-- What a caller can rely on when a token is coerced, where the expressions `tried` are handed to
the host and `outcome` comes of the last one. -/
structure FixContract (c : Coercer) (token : String) (tried : List String)
    (outcome : Except HostError Int) : Prop where
  /-- The host is handed the token, then the token with its register names marked if the first
  attempt failed and the marks make a difference, and nothing else. -/
  attempts : Attempts c.host token tried outcome
  /-- The options make no difference to what the host is handed. -/
  fix_evaluated : ∀ options, (c.fix token options).evaluated = tried
  /-- If the last attempt succeeds, its integer is the answer, modulo `2 ^ 64`, and nothing is
  reported. -/
  succeeded : ∀ v, outcome = .ok v → ∃ w : UInt64, (w.toNat : Int) ≡ v [ZMOD 2 ^ 64] ∧
    ∀ options, (c.fix token options).result = .ok (some (.int w)) ∧
      (c.fix token options).output = []
  /-- If it fails, its failure is reported once, if it is not to be kept quiet and there is a
  console. -/
  reported : ∀ e, outcome = .error e → ∀ options, (c.fix token options).output =
    if options.quiet = false ∧ c.reports = true then [.error e.message] else []
  /-- It is handed on if that is asked for. -/
  reraised : ∀ e, outcome = .error e → ∀ options, options.reraise = true →
    (c.fix token options).result = .error e
  /-- Otherwise the token is kept, as it was typed, if that is asked for. -/
  kept : ∀ e, outcome = .error e → ∀ options, options.reraise = false → options.sloppy = true →
    (c.fix token options).result = .ok (some (.raw token))
  /-- Otherwise there is no answer. -/
  dropped : ∀ e, outcome = .error e → ∀ options, options.reraise = false →
    options.sloppy = false → (c.fix token options).result = .ok none
  /-- Asking for an integer hands the same to the host. -/
  fixInt_evaluated : (c.fixInt token).evaluated = tried
  /-- So does asking for an integer or the token. -/
  sloppyParse_evaluated : (c.sloppyParse token).evaluated = tried
  /-- The token has an integer exactly if it is that integer when the token may be kept. -/
  fixInt_iff_sloppyParse : ∀ w, (c.fixInt token).value = .ok w ↔
    (c.sloppyParse token).value = .int w
  /-- It has an integer exactly if that is the answer when nothing is asked for. -/
  fixInt_iff_fix : ∀ w, (c.fixInt token).value = .ok w ↔
    (c.fix token).result = .ok (some (.int w))
  /-- Asking for an integer fails exactly if the token is kept when it may be. -/
  fixInt_fails_iff : (∃ e, (c.fixInt token).value = .error e) ↔
    (c.sloppyParse token).value = .raw token
  /-- It fails as the last attempt does. -/
  fixInt_error_iff : ∀ e, (c.fixInt token).value = .error e ↔ outcome = .error e

/-- The contract is met where the last attempt succeeds. -/
theorem fixContract_of_ok (c : Coercer) {token : String} {tried : List String} {v : Int}
    (h : Attempts c.host token tried (.ok v)) : c.FixContract token tried (.ok v) where
  attempts := h
  fix_evaluated options := by rw [c.fix_of_ok h]
  succeeded v' hv := by
    obtain rfl := Except.ok.inj hv
    refine ⟨.ofInt v, toNat_ofInt_modEq v, fun options => ?_⟩
    rw [c.fix_of_ok h]
    exact ⟨rfl, rfl⟩
  reported e he := by cases he
  reraised e he := by cases he
  kept e he := by cases he
  dropped e he := by cases he
  fixInt_evaluated := by rw [c.fixInt_of_ok h]
  sloppyParse_evaluated := by rw [c.sloppyParse_of_ok h]
  fixInt_iff_sloppyParse w := by simp only [c.fixInt_of_ok h, c.sloppyParse_of_ok h,
    Except.ok.injEq, Fixed.int.injEq]
  fixInt_iff_fix w := by simp only [c.fixInt_of_ok h, c.fix_of_ok h, Except.ok.injEq,
    Option.some.injEq, Fixed.int.injEq]
  fixInt_fails_iff := by simp only [c.fixInt_of_ok h, c.sloppyParse_of_ok h, reduceCtorEq,
    exists_false]
  fixInt_error_iff e := by simp only [c.fixInt_of_ok h, reduceCtorEq]

/-- The contract is met where the last attempt fails. -/
theorem fixContract_of_error (c : Coercer) {token : String} {tried : List String} {e : HostError}
    (h : Attempts c.host token tried (.error e)) : c.FixContract token tried (.error e) where
  attempts := h
  fix_evaluated options := by rw [c.fix_of_error h]
  succeeded v hv := by cases hv
  reported e' he options := by
    obtain rfl := Except.error.inj he
    simp only [c.fix_of_error h, Bool.and_eq_true, Bool.not_eq_true']
  reraised e' he options hraise := by
    obtain rfl := Except.error.inj he
    simp only [c.fix_of_error h, hraise, if_true]
  kept e' he options hraise hsloppy := by
    simp only [c.fix_of_error h, hraise, hsloppy, Bool.false_eq_true, if_false, if_true]
  dropped e' he options hraise hsloppy := by
    simp only [c.fix_of_error h, hraise, hsloppy, Bool.false_eq_true, if_false]
  fixInt_evaluated := by rw [c.fixInt_of_error h]
  sloppyParse_evaluated := by rw [c.sloppyParse_of_error h]
  fixInt_iff_sloppyParse w := by simp only [c.fixInt_of_error h, c.sloppyParse_of_error h,
    reduceCtorEq]
  fixInt_iff_fix w := by
    have hdefault : (c.fix token).result = .ok none := by rw [c.fix_of_error h]; rfl
    simp only [c.fixInt_of_error h, hdefault, Except.ok.injEq, reduceCtorEq]
  fixInt_fails_iff := by simp only [c.fixInt_of_error h, c.sloppyParse_of_error h,
    Except.error.injEq, exists_eq']
  fixInt_error_iff e' := by simp only [c.fixInt_of_error h, Except.error.injEq]

/-- Whatever is to become of a failure, a token is coerced by the same attempts, and their outcome
decides the answer. -/
theorem coercions_share_their_attempts (c : Coercer) (token : String) :
    ∃ tried outcome, c.FixContract token tried outcome ∧
      ∀ tried' outcome', Attempts c.host token tried' outcome' →
        tried' = tried ∧ outcome' = outcome := by
  obtain ⟨tried, outcome, h⟩ := exists_attempts c.host token
  refine ⟨tried, outcome, ?_, fun _ _ => h.unique⟩
  cases outcome with
  | ok v => exact c.fixContract_of_ok h
  | error e => exact c.fixContract_of_error h

end DebugShell.Coercer
