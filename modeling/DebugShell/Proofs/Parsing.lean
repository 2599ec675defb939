import DebugShell.Proofs.Tokens
import DebugShell.Target

/-!
# Parsing accepts exactly the grammar

A text is parsed as an expression exactly if it derives the expression in the grammar. Every other
text is refused as malformed, and no text derives two expressions
(`parsing_accepts_exactly_the_grammar`).

Which tokens are read from a text is settled already. That the walk over them gets through every
phrase is an induction on the derivation: from wherever a factor is expected, the tokens of a factor
supply it (`Phrase.run`). For the converse, each state of the walk says which tokens brought it
there (`Walk.Reads`): what awaits a factor is a sum that ends in a sign, a product that ends in an
asterisk, and minus signs, once for each open parenthesis. One step keeps this up to date
(`Walk.Reads.step`), and a walk that can end has read one sum (`Walk.Reads.result`).
-/

namespace DebugShell.Expression

/-- Negations can be added on the inside as well. -/
theorem negated_neg (n : Nat) (e : Expression) : negated n (.neg e) = negated (n + 1) e := by
  induction n with
  | zero => rfl
  | succ n ih => exact congrArg Expression.neg ih

/-! ## Every phrase is walked through -/

/-- A walk over two lists of tokens is a walk over the first and then over the second. -/
theorem Walk.run_append (w : Walk) (ts us : List Token) :
    w.run (ts ++ us) = (w.run ts).bind fun w => w.run us := by
  induction ts generalizing w with
  | nil => rfl
  | cons t ts ih =>
    rw [List.cons_append, Walk.run, Walk.run, Option.bind_assoc]
    exact Option.bind_congr fun w' _ => ih w'

/-- `Walk.Gathers rule ts e`: wherever the rule may start, the tokens `ts` lead the walk on to where
`e` has been gathered by the rule. -/
def Walk.Gathers : Rule → List Token → Expression → Prop
  | .factor, ts, e => ∀ awaiting outer,
    (Walk.expectFactor awaiting outer).run ts = some (.supply awaiting outer e)
  | .product, ts, e => ∀ sum outer,
    (Walk.expectFactor ⟨sum, none, 0⟩ outer).run ts = some (.afterProduct sum e outer)
  | .sum, ts, e => ∀ outer, ∃ sum product, joined sum product = e ∧
    (Walk.expectFactor {} outer).run ts = some (.afterProduct sum product outer)

/-- A sum is gathered on behind a sign at which the walk turns to the next product. -/
theorem Walk.Gathers.sum_then {ls rs : List Token} {l r : Expression} {t : Token} {op : Operator}
    (hstep : ∀ sum product outer, Walk.step (.afterProduct sum product outer) t =
      some (.expectFactor ⟨some (joined sum product, op), none, 0⟩ outer))
    (hl : Walk.Gathers .sum ls l) (hr : Walk.Gathers .product rs r) :
    Walk.Gathers .sum (ls ++ t :: rs) (.binary op l r) := by
  intro outer
  obtain ⟨sum, product, hjoined, hrun⟩ := hl outer
  refine ⟨some (l, op), r, rfl, ?_⟩
  rw [Walk.run_append, hrun, Option.bind_some, Walk.run, hstep, Option.bind_some, hjoined]
  exact hr (some (l, op)) outer

/-- The walk gets through every phrase, and gathers its tree. -/
theorem Phrase.run {rule : Rule} {ts : List Token} {e : Expression} (h : Phrase rule ts e) :
    Walk.Gathers rule ts e := by
  induction h with
  | number n => exact fun awaiting outer => rfl
  | register name => exact fun awaiting outer => rfl
  | symbol name => exact fun awaiting outer => rfl
  | @parentheses ts e _ ih =>
    -- The inner sum is gathered while the outer factor waits, and closing it supplies the factor.
    intro awaiting outer
    obtain ⟨sum, product, hjoined, hrun⟩ := ih (awaiting :: outer)
    have hopen : (Walk.expectFactor awaiting outer).run (.opening :: (ts ++ [.closing])) =
        (Walk.expectFactor {} (awaiting :: outer)).run (ts ++ [.closing]) := rfl
    rw [hopen, Walk.run_append, hrun, Option.bind_some, ← hjoined]
    rfl
  | @negation ts e _ ih =>
    -- The minus sign is counted with those in front, and negates the factor before they do.
    intro awaiting outer
    have hsupply : Walk.supply awaiting outer (.neg e) =
        .supply { awaiting with negations := awaiting.negations + 1 } outer e := by
      rw [Walk.supply, Walk.supply, negated_neg]
    rw [hsupply]
    exact ih { awaiting with negations := awaiting.negations + 1 } outer
  | factor _ ih => exact fun sum outer => ih ⟨sum, none, 0⟩ outer
  | @times ls rs l r _ _ ihl ihr =>
    -- Behind the asterisk the product so far awaits the factor.
    intro sum outer
    rw [Walk.run_append, ihl sum outer, Option.bind_some]
    exact ihr ⟨sum, some l, 0⟩ outer
  | product _ ih => exact fun outer => ⟨none, _, rfl, ih none outer⟩
  | plus _ _ ihl ihr => exact ihl.sum_then (fun _ _ _ => rfl) ihr
  | minus _ _ ihl ihr => exact ihl.sum_then (fun _ _ _ => rfl) ihr

/-! ## What has been read -/

/-- The tokens of a sum so far, with the sign behind it. -/
inductive SumSoFar : Option (Expression × Operator) → List Token → Prop
  /-- There is no sum yet. -/
  | start : SumSoFar none []
  /-- A sum to which a product will be added. -/
  | plus {ls : List Token} {l : Expression} (h : Phrase .sum ls l) :
    SumSoFar (some (l, .add)) (ls ++ [.plus])
  /-- A sum from which a product will be subtracted. -/
  | minus {ls : List Token} {l : Expression} (h : Phrase .sum ls l) :
    SumSoFar (some (l, .sub)) (ls ++ [.minus])

/-- The tokens of a product so far, with the asterisk behind it. -/
inductive ProductSoFar : Option Expression → List Token → Prop
  /-- There is no product yet. -/
  | start : ProductSoFar none []
  /-- A product that goes on with a factor. -/
  | times {ls : List Token} {l : Expression} (h : Phrase .product ls l) :
    ProductSoFar (some l) (ls ++ [.times])

/-- The tokens of what awaits a factor. -/
inductive Awaiting.Reads : Awaiting → List Token → Prop
  /-- The sum so far, then the product so far, then the minus signs. -/
  | mk {sum : Option (Expression × Operator)} {product : Option Expression} {n : Nat}
    {ss ps : List Token} (hs : SumSoFar sum ss) (hp : ProductSoFar product ps) :
    Awaiting.Reads ⟨sum, product, n⟩ (ss ++ (ps ++ List.replicate n .minus))

/-- The tokens up to the innermost parenthesis that is open. -/
inductive OuterReads : List Awaiting → List Token → Prop
  /-- No parenthesis is open. -/
  | nil : OuterReads [] []
  /-- A parenthesis inside those that are open. -/
  | cons {awaiting : Awaiting} {outer : List Awaiting} {us ts : List Token}
    (ho : OuterReads outer us) (ha : awaiting.Reads ts) :
    OuterReads (awaiting :: outer) (us ++ (ts ++ [.opening]))

/-- `w.Reads ts`: the tokens that lead from the start to `w` are `ts`. -/
inductive Walk.Reads : Walk → List Token → Prop
  /-- What awaits the factor has been read. -/
  | expectFactor {awaiting : Awaiting} {outer : List Awaiting} {us ts : List Token}
    (ho : OuterReads outer us) (ha : awaiting.Reads ts) :
    Walk.Reads (.expectFactor awaiting outer) (us ++ ts)
  /-- The sum so far and a product have been read. -/
  | afterProduct {sum : Option (Expression × Operator)} {product : Expression}
    {outer : List Awaiting} {us ss ps : List Token} (ho : OuterReads outer us)
    (hs : SumSoFar sum ss) (hp : Phrase .product ps product) :
    Walk.Reads (.afterProduct sum product outer) (us ++ (ss ++ ps))

/-- What awaits a factor that stands behind no minus signs. -/
theorem Awaiting.Reads.of_product {sum : Option (Expression × Operator)}
    {product : Option Expression} {ss ps : List Token} (hs : SumSoFar sum ss)
    (hp : ProductSoFar product ps) : Awaiting.Reads ⟨sum, product, 0⟩ (ss ++ ps) := by
  have hreads : Awaiting.Reads ⟨sum, product, 0⟩ (ss ++ (ps ++ List.replicate 0 .minus)) :=
    .mk hs hp
  rwa [List.replicate_zero, List.append_nil] at hreads

/-- Only a sum so far awaits a new product. -/
theorem Awaiting.Reads.of_sum {sum : Option (Expression × Operator)} {ss : List Token}
    (hs : SumSoFar sum ss) : Awaiting.Reads ⟨sum, none, 0⟩ ss := by
  have hreads := Awaiting.Reads.of_product hs .start
  rwa [List.append_nil] at hreads

/-- Nothing awaits the first factor. -/
theorem Awaiting.reads_start : Awaiting.Reads {} [] :=
  .of_sum .start

/-- A sum so far with a last product is a sum. -/
theorem SumSoFar.phrase {sum : Option (Expression × Operator)} {ss ps : List Token}
    {product : Expression} (hs : SumSoFar sum ss) (hp : Phrase .product ps product) :
    Phrase .sum (ss ++ ps) (joined sum product) := by
  cases hs with
  | start => exact hp.product
  | plus h =>
    rw [List.append_assoc, List.singleton_append]
    exact h.plus hp
  | minus h =>
    rw [List.append_assoc, List.singleton_append]
    exact h.minus hp

/-- A factor behind minus signs is a factor. -/
theorem Phrase.negated {fs : List Token} {f : Expression} (n : Nat) (h : Phrase .factor fs f) :
    Phrase .factor (List.replicate n .minus ++ fs) (Expression.negated n f) := by
  induction n with
  | zero => exact h
  | succ n ih => exact ih.negation

/-- A factor that is supplied ends the product that awaited it. -/
theorem Walk.reads_supply {awaiting : Awaiting} {outer : List Awaiting} {us ts fs : List Token}
    {f : Expression} (ho : OuterReads outer us) (ha : awaiting.Reads ts)
    (hf : Phrase .factor fs f) : (Walk.supply awaiting outer f).Reads (us ++ (ts ++ fs)) := by
  obtain @⟨sum, product, n, ss, ps, hs, hp⟩ := ha
  have hnegated := hf.negated n
  rw [List.append_assoc, List.append_assoc]
  cases hp with
  | start => exact .afterProduct ho hs hnegated.factor
  | times h =>
    rw [List.append_assoc, List.singleton_append]
    exact .afterProduct ho hs (h.times hnegated)

/-- A minus sign in front of a factor is one more that awaits it. -/
theorem Awaiting.Reads.minus {awaiting : Awaiting} {ts : List Token} (ha : awaiting.Reads ts) :
    Awaiting.Reads { awaiting with negations := awaiting.negations + 1 } (ts ++ [.minus]) := by
  obtain @⟨sum, product, n, ss, ps, hs, hp⟩ := ha
  have hsigns : ss ++ (ps ++ List.replicate n .minus) ++ [Token.minus] =
      ss ++ (ps ++ List.replicate (n + 1) .minus) := by
    rw [List.replicate_succ', List.append_assoc, List.append_assoc]
  rw [hsigns]
  exact .mk hs hp

/-- Where a factor is expected, a step reads its token. -/
theorem Walk.reads_step_of_expectFactor {awaiting : Awaiting} {outer : List Awaiting}
    {us ts : List Token} {t : Token} {w : Walk} (ho : OuterReads outer us)
    (ha : awaiting.Reads ts) (h : (Walk.expectFactor awaiting outer).step t = some w) :
    w.Reads (us ++ (ts ++ [t])) := by
  cases t with
  | number n =>
    obtain rfl := Option.some.inj h
    exact reads_supply ho ha (.number n)
  | register name =>
    obtain rfl := Option.some.inj h
    exact reads_supply ho ha (.register name)
  | symbol name =>
    obtain rfl := Option.some.inj h
    exact reads_supply ho ha (.symbol name)
  | opening =>
    -- What awaited the factor now awaits the parentheses, and nothing awaits the inner sum.
    obtain rfl := Option.some.inj h
    have hinner := Walk.Reads.expectFactor (.cons ho ha) Awaiting.reads_start
    rwa [List.append_nil] at hinner
  | minus =>
    obtain rfl := Option.some.inj h
    exact .expectFactor ho ha.minus
  | plus | times | closing => cases h

/-- Behind a product, a step reads its token. -/
theorem Walk.reads_step_of_afterProduct {sum : Option (Expression × Operator)}
    {product : Expression} {outer : List Awaiting} {us ss ps : List Token} {t : Token} {w : Walk}
    (ho : OuterReads outer us) (hs : SumSoFar sum ss) (hp : Phrase .product ps product)
    (h : (Walk.afterProduct sum product outer).step t = some w) :
    w.Reads (us ++ (ss ++ ps ++ [t])) := by
  have hsum := hs.phrase hp
  cases t with
  | times =>
    obtain rfl := Option.some.inj h
    rw [List.append_assoc]
    exact .expectFactor ho (.of_product hs (.times hp))
  | plus =>
    obtain rfl := Option.some.inj h
    exact .expectFactor ho (.of_sum (.plus hsum))
  | minus =>
    obtain rfl := Option.some.inj h
    exact .expectFactor ho (.of_sum (.minus hsum))
  | closing =>
    -- The parenthesis that is closed was opened behind what awaits it as a factor.
    cases ho with
    | nil => cases h
    | @cons awaiting outer us' ts ho ha =>
      obtain rfl := Option.some.inj h
      have hread := reads_supply ho ha hsum.parentheses
      have htokens : us' ++ (ts ++ [.opening]) ++ (ss ++ ps ++ [.closing]) =
          us' ++ (ts ++ Token.opening :: (ss ++ ps ++ [.closing])) := by
        rw [List.append_assoc, List.append_assoc, List.singleton_append]
      rw [htokens]
      exact hread
  | number _ | register _ | symbol _ | opening => cases h

/-- A step reads its token. -/
theorem Walk.Reads.step {w w' : Walk} {ts : List Token} {t : Token} (hw : w.Reads ts)
    (h : w.step t = some w') : w'.Reads (ts ++ [t]) := by
  cases hw with
  | expectFactor ho ha =>
    rw [List.append_assoc]
    exact reads_step_of_expectFactor ho ha h
  | afterProduct ho hs hp =>
    rw [List.append_assoc]
    exact reads_step_of_afterProduct ho hs hp h

/-- A walk reads its tokens. -/
theorem Walk.Reads.run {w w' : Walk} {ts us : List Token} (hw : w.Reads ts)
    (h : w.run us = some w') : w'.Reads (ts ++ us) := by
  induction us generalizing w ts with
  | nil =>
    obtain rfl := Option.some.inj h
    rwa [List.append_nil]
  | cons u us ih =>
    obtain ⟨next, hstep, hrest⟩ := Option.bind_eq_some_iff.1 h
    have hread := ih (hw.step hstep) hrest
    rwa [List.append_assoc, List.singleton_append] at hread

/-- A walk that can end has read a sum, which is its result. -/
theorem Walk.Reads.result {w : Walk} {ts : List Token} {e : Expression} (hw : w.Reads ts)
    (h : w.result? = some e) : Phrase .sum ts e := by
  cases hw with
  | expectFactor => cases h
  | afterProduct ho hs hp =>
    -- A walk can end only where no parenthesis is open, and then it has read nothing else.
    cases ho with
    | nil =>
      obtain rfl := Option.some.inj h
      exact hs.phrase hp
    | cons => cases h

/-- Tokens write an expression exactly if they are a sum, and the expression is its tree. -/
theorem ofTokens?_eq_some_iff (ts : List Token) (e : Expression) :
    ofTokens? ts = some e ↔ Phrase .sum ts e := by
  constructor
  · intro h
    obtain ⟨w, hrun, hresult⟩ := Option.bind_eq_some_iff.1 h
    have hstart : Walk.Reads (.expectFactor {} []) [] :=
      .expectFactor .nil Awaiting.reads_start
    exact (hstart.run hrun).result hresult
  · intro h
    obtain ⟨sum, product, hjoined, hrun⟩ := h.run []
    rw [ofTokens?, hrun, Option.bind_some, Walk.result?, hjoined]

/-! ## From a text to its expression -/

/-- The expression of a text is the one that the text derives. -/
theorem ofString?_eq_some_iff (text : String) (e : Expression) :
    ofString? text = some e ↔ Derives text e := by
  unfold ofString?
  rw [Option.bind_eq_some_iff]
  constructor
  · rintro ⟨tokens, htokens, hphrase⟩
    exact ⟨tokens, written_of_tokensFrom htokens, (ofTokens?_eq_some_iff _ _).1 hphrase⟩
  · rintro ⟨tokens, hwritten, hphrase⟩
    exact ⟨tokens, tokensFrom_of_written hwritten hphrase.apart,
      (ofTokens?_eq_some_iff _ _).2 hphrase⟩

/-- Parsing yields the expression that the text derives. -/
theorem parse_eq_ok_iff (text : String) (e : Expression) :
    parse text = .ok e ↔ Derives text e := by
  rw [← ofString?_eq_some_iff, parse]
  cases ofString? text with
  | none => simp only [reduceCtorEq]
  | some e' => rw [Except.ok.injEq, Option.some.injEq]

/-- Differences lean to the left, and products bind closer. -/
example : parse "a - 0x10*-b - $c.d" =
    .ok (.binary .sub (.binary .sub (.symbol "a")
      (.binary .mul (.number 16) (.neg (.symbol "b")))) (.register "c.d")) := rfl

/-- A text that derives no expression is handed back, without the blanks around it. -/
theorem parse_eq_malformed {text : String} (h : ¬∃ e, Derives text e) :
    parse text = .error (.malformed text.trimBlanks) := by
  cases hof : ofString? text with
  | none => rw [parse, hof]
  | some e => exact absurd ⟨e, (ofString?_eq_some_iff text e).1 hof⟩ h

/-- Parsing accepts exactly the grammar: it yields an expression just where the text derives it, any
other text is refused with what it says between blanks, and a text derives at most one expression.
-/
theorem parsing_accepts_exactly_the_grammar (text : String) :
    (∀ e, parse text = .ok e ↔ Derives text e) ∧
      ((¬∃ e, Derives text e) → parse text = .error (.malformed text.trimBlanks)) ∧
      ∀ e e', Derives text e → Derives text e' → e = e' := by
  refine ⟨parse_eq_ok_iff text, parse_eq_malformed, ?_⟩
  intro e e' he he'
  rw [← parse_eq_ok_iff] at he he'
  exact Except.ok.inj (he.symm.trans he')

end DebugShell.Expression
