import DebugShell.Arguments
import DebugShell.Proofs.Coercion
import Mathlib

/-!
# Arguments are given in the order of declaration

Matching the words of a line with a declaration yields a word or none for each parameter, and a
Boolean for each flag (`Given`). The rest is decided parameter by parameter, in the order of
declaration. `Coercion.Makes` and `Coercion.Refuses` say what a coercion makes of a word and when it
refuses one, and `Gets` what a parameter gets: a flag its Boolean, a word what is made of it, and a
parameter without a word its default.

The walk over the declaration goes as far as each parameter gets something. If it comes to the end,
the arguments are all that was got, and if it does not, it stops at the first word that is refused
(`collect_cases`). In both cases the host was asked what each parameter on the way asks by itself,
in the order of the parameters.
-/

namespace DebugShell

open Coercer (Attempts)

/-! ## What becomes of a word -/

/-- `Makes host coercion word tried value`: the coercion makes `value` of the word, and the
expressions `tried` are handed to the host for it. -/
inductive Coercion.Makes (host : Host) : Coercion → String → List String → ArgValue → Prop
  /-- The word itself is taken. -/
  | word (word : String) : Makes host .raw word [] (.str word)
  /-- The word has a value, which is taken. -/
  | value {word : String} {tried : List String} {v : Int}
    (h : Attempts host word tried (.ok v)) :
    Makes host .expression word tried (.int (.ofInt v))
  /-- The word has no value, and is taken itself. -/
  | kept {word : String} {tried : List String} {e : HostError}
    (h : Attempts host word tried (.error e)) : Makes host .expression word tried (.str word)
  /-- The word has to have a value, and has one. -/
  | required {word : String} {tried : List String} {v : Int}
    (h : Attempts host word tried (.ok v)) :
    Makes host .expressionOrAbort word tried (.int (.ofInt v))
  /-- The word is a number in base sixteen. -/
  | hex {word : String} {v : UInt64} (h : ArgumentSpec.hex? word = some v) :
    Makes host .hexOrExpression word [] (.int v)
  /-- The word is no number in base sixteen, and has a value. -/
  | notHex {word : String} {tried : List String} {v : Int} (hhex : ArgumentSpec.hex? word = none)
    (h : Attempts host word tried (.ok v)) :
    Makes host .hexOrExpression word tried (.int (.ofInt v))

/-- `Refuses host coercion word tried`: the coercion makes nothing of the word, and the expressions
`tried` are handed to the host to find that out. -/
inductive Coercion.Refuses (host : Host) : Coercion → String → List String → Prop
  /-- The word has to have a value, and has none. -/
  | required {word : String} {tried : List String} {e : HostError}
    (h : Attempts host word tried (.error e)) : Refuses host .expressionOrAbort word tried
  /-- The word is no number in base sixteen, and has no value. -/
  | notHex {word : String} {tried : List String} {e : HostError}
    (hhex : ArgumentSpec.hex? word = none) (h : Attempts host word tried (.error e)) :
    Refuses host .hexOrExpression word tried

/-- A coercion that can refuse a word: it has to make an integer of it. -/
def Coercion.CanRefuse (coercion : Coercion) : Prop :=
  coercion = .expressionOrAbort ∨ coercion = .hexOrExpression

/-- Only a coercion that can refuse words refuses one, and of that word it makes nothing. -/
theorem Coercion.Refuses.canRefuse {host : Host} {coercion : Coercion} {word : String}
    {tried : List String} (h : coercion.Refuses host word tried) :
    coercion.CanRefuse ∧ ∀ tried' value, ¬coercion.Makes host word tried' value := by
  cases h with
  | required h =>
    refine ⟨.inl rfl, fun tried' value h' => ?_⟩
    cases h' with
    | required h' => cases (h.unique h').2
  | notHex hhex h =>
    refine ⟨.inr rfl, fun tried' value h' => ?_⟩
    cases h' with
    | hex hhex' => cases hhex.symm.trans hhex'
    | notHex _ h' => cases (h.unique h').2

/-- A coercion that can refuse words makes nothing of them but integers. -/
theorem Coercion.Makes.exists_int {host : Host} {coercion : Coercion} {word : String}
    {tried : List String} {value : ArgValue} (h : coercion.Makes host word tried value)
    (hrefuse : coercion.CanRefuse) : ∃ v, value = .int v := by
  cases h with
  | word | value | kept => rcases hrefuse with h | h <;> cases h
  | required | hex | notHex => exact ⟨_, rfl⟩

/-- What is told of a word that a parameter's coercion refuses. -/
def Param.refusal (p : Param) (word : String) : String :=
  s!"argument {p.name}: Incorrect address (or GDB expression): {word}"

namespace ArgumentSpec

/-- A word is made into its value, or refused with the parameter's name, as its value decides. -/
theorem expressionOrAbort_eq (host : Host) (p : Param) {word : String} {tried : List String}
    {outcome : Except HostError Int} (h : Attempts host word tried outcome) :
    expressionOrAbort host p word = ⟨tried, match outcome with
      | .ok v => .ok (.int (.ofInt v))
      | .error _ => .error (p.refusal word)⟩ := by
  cases outcome with
  | ok v => rw [expressionOrAbort, Coercer.fixInt_of_ok ⟨host, false⟩ h]
  | error e =>
    rw [expressionOrAbort, Coercer.fixInt_of_error ⟨host, false⟩ h]
    rfl

/-- A coercion makes something of a word, or it refuses the word. -/
theorem coerce_cases (host : Host) (p : Param) (word : String) :
    (∃ tried value, p.coercion.Makes host word tried value ∧
      coerce host p word = ⟨tried, .ok value⟩) ∨
    ∃ tried, p.coercion.Refuses host word tried ∧
      coerce host p word = ⟨tried, .error (p.refusal word)⟩ := by
  obtain ⟨tried, outcome, h⟩ := Coercer.exists_attempts host word
  unfold coerce
  cases p.coercion with
  | raw => exact .inl ⟨[], _, .word word, rfl⟩
  | expression =>
    cases outcome with
    | ok v => exact .inl ⟨tried, _, .value h, by rw [Coercer.sloppyParse_of_ok ⟨host, false⟩ h]⟩
    | error e =>
      exact .inl ⟨tried, _, .kept h, by rw [Coercer.sloppyParse_of_error ⟨host, false⟩ h]⟩
  | expressionOrAbort =>
    rw [expressionOrAbort_eq host p h]
    cases outcome with
    | ok v => exact .inl ⟨tried, _, .required h, rfl⟩
    | error e => exact .inr ⟨tried, .required h, rfl⟩
  | hexOrExpression =>
    cases hhex : hex? word with
    | some v => exact .inl ⟨[], _, .hex hhex, rfl⟩
    | none =>
      dsimp only
      rw [expressionOrAbort_eq host p h]
      cases outcome with
      | ok v => exact .inl ⟨tried, _, .notHex hhex h, rfl⟩
      | error e => exact .inr ⟨tried, .notHex hhex h, rfl⟩

/-! ## What a parameter gets -/

/-- The line gives a word to a parameter that takes one. -/
def Given.Gives (given : Given) (p : Param) (word : String) : Prop :=
  p.isFlag = false ∧ given.word p.name = some word

/-- `Gets host given p tried value`: the parameter gets `value`, or nothing, and the expressions
`tried` are handed to the host for it. -/
inductive Gets (host : Host) (given : Given) (p : Param) : List String → Option ArgValue → Prop
  /-- A flag gets its Boolean. -/
  | flag (hflag : p.isFlag = true) : Gets host given p [] (some (.bool (given.flag p.name)))
  /-- A parameter that is given a word gets what is made of it. -/
  | word {word : String} {tried : List String} {value : ArgValue} (hword : given.Gives p word)
    (h : p.coercion.Makes host word tried value) : Gets host given p tried (some value)
  /-- A parameter that is given none gets its default, as it is, if it has one. -/
  | absent (hflag : p.isFlag = false) (hword : given.word p.name = none) :
    Gets host given p [] p.default

/-- A parameter gets something or nothing, or its word is refused. -/
theorem valueOf_cases (host : Host) (given : Given) (p : Param) :
    (∃ tried value, Gets host given p tried value ∧ valueOf host given p = ⟨tried, .ok value⟩) ∨
    ∃ word tried, given.Gives p word ∧ p.coercion.Refuses host word tried ∧
      valueOf host given p = ⟨tried, .error (p.refusal word)⟩ := by
  unfold valueOf
  cases hflag : p.isFlag with
  | true => exact .inl ⟨[], _, .flag hflag, rfl⟩
  | false =>
    rw [if_neg Bool.false_ne_true]
    cases hword : given.word p.name with
    | none => exact .inl ⟨[], _, .absent hflag hword, rfl⟩
    | some word =>
      dsimp only
      rcases coerce_cases host p word with ⟨tried, value, h, hcoerce⟩ | ⟨tried, h, hcoerce⟩
      · refine .inl ⟨tried, some value, .word ⟨hflag, hword⟩ h, ?_⟩
        rw [hcoerce]
        rfl
      · refine .inr ⟨word, tried, ⟨hflag, hword⟩, h, ?_⟩
        rw [hcoerce]
        rfl

/-- A parameter that gets something is a flag, or is given a word, or has a default. -/
def Given.Provides (given : Given) (p : Param) : Bool :=
  p.isFlag || (given.word p.name).isSome || p.default.isSome

/-- A parameter gets something exactly if it is provided for. -/
theorem Gets.isSome_eq {host : Host} {given : Given} {p : Param} {tried : List String}
    {value : Option ArgValue} (h : Gets host given p tried value) :
    value.isSome = given.Provides p := by
  unfold Given.Provides
  cases h with
  | flag hflag => rw [hflag]; rfl
  | word hword h => rw [hword.1, hword.2]; rfl
  | absent hflag hword => rw [hflag, hword]; rfl

/-- A parameter that gets something or nothing has no word that is refused. -/
theorem Gets.makes {host : Host} {given : Given} {p : Param} {tried : List String}
    {value : Option ArgValue} (h : Gets host given p tried value) {word : String}
    (hword : given.Gives p word) : ∃ value, p.coercion.Makes host word tried value := by
  cases h with
  | flag hflag => cases hflag.symm.trans hword.1
  | @word word' tried value hword' h =>
    obtain rfl : word' = word := Option.some.inj (hword'.2.symm.trans hword.2)
    exact ⟨value, h⟩
  | absent _ hnone => cases hnone.symm.trans hword.2

/-! ## What a declaration gets -/

/-- What a parameter gets, with the expressions that are handed to the host for it. -/
abbrev Got := List String × Option ArgValue

/-- `GetsAll host given params got`: each parameter gets what stands at its place in `got`. -/
def GetsAll (host : Host) (given : Given) : List Param → List Got → Prop :=
  List.Forall₂ fun p g => Gets host given p g.1 g.2

/-- The arguments that are made of what the parameters get: each value under the name of its
parameter. -/
def bundle (params : List Param) (got : List Got) : List (String × ArgValue) :=
  (List.zipWith (fun p g => (g.2.map (p.name, ·)).toList) params got).flatten

/-- The expressions that are handed to the host for parameters, in the order of the parameters. -/
def allTried (got : List Got) : List String :=
  (got.map (·.1)).flatten

/-- What stops the walk over the parameters at `p`, after `before`: the line gives `p` a word that
its coercion refuses. -/
structure StopsAt (host : Host) (given : Given) (params before : List Param) (p : Param)
    (word : String) (tried : List String) : Prop where
  /-- The parameter stands behind the others. -/
  split : ∃ after, params = before ++ p :: after
  /-- It is given the word. -/
  gives : given.Gives p word
  /-- The word is refused. -/
  refuses : p.coercion.Refuses host word tried

/-- The walk over the parameters comes to the end, or stops at the first word that is refused. -/
theorem collect_cases (host : Host) (given : Given) (params : List Param) :
    (∃ got, GetsAll host given params got ∧
      collect host given params = ⟨allTried got, .ok (bundle params got)⟩) ∨
    ∃ before p word tried got, StopsAt host given params before p word tried ∧
      GetsAll host given before got ∧
      collect host given params = ⟨allTried got ++ tried, .error (p.refusal word)⟩ := by
  induction params with
  | nil => exact .inl ⟨[], .nil, rfl⟩
  | cons p rest ih =>
    rcases valueOf_cases host given p with
      ⟨tried, value, hgets, hvalue⟩ | ⟨word, tried, hgives, hrefuses, hvalue⟩
    · rcases ih with ⟨got, hrest, hcollect⟩ |
        ⟨before, q, word, tried', got, ⟨⟨after, rfl⟩, hgives, hrefuses⟩, hbefore, hcollect⟩
      · refine .inl ⟨(tried, value) :: got, .cons hgets hrest, ?_⟩
        rw [collect, hvalue]
        dsimp only
        rw [hcollect]
        rfl
      · refine .inr ⟨p :: before, q, word, tried', (tried, value) :: got,
          ⟨⟨after, rfl⟩, hgives, hrefuses⟩, .cons hgets hbefore, ?_⟩
        rw [collect, hvalue]
        dsimp only
        rw [hcollect]
        -- What was tried for `p` stands in front of what was tried behind it.
        simp [allTried, Except.map]
    · refine .inr ⟨[], p, word, tried, [], ⟨⟨rest, rfl⟩, hgives, hrefuses⟩, .nil, ?_⟩
      rw [collect, hvalue]
      rfl

/-- The walk reads of a line no more than what it gives to the parameters. -/
theorem collect_congr (host : Host) {given given' : Given} {params : List Param}
    (hflag : ∀ p ∈ params, p.isFlag = true → given'.flag p.name = given.flag p.name)
    (hword : ∀ p ∈ params, p.isFlag = false → given'.word p.name = given.word p.name) :
    collect host given' params = collect host given params := by
  induction params with
  | nil => rfl
  | cons p rest ih =>
    have hvalue : valueOf host given' p = valueOf host given p := by
      unfold valueOf
      cases h : p.isFlag with
      | true =>
        rw [hflag p List.mem_cons_self h]
        rfl
      | false =>
        rw [hword p List.mem_cons_self h]
        rfl
    have hrest := ih (fun q hq => hflag q (List.mem_cons_of_mem p hq))
      fun q hq => hword q (List.mem_cons_of_mem p hq)
    rw [collect, collect, hvalue, hrest]

/-- Each parameter of a declaration gets something or nothing. -/
theorem GetsAll.gets_of_mem {host : Host} {given : Given} {params : List Param} {got : List Got}
    (h : GetsAll host given params got) {p : Param} (hp : p ∈ params) :
    ∃ tried value, Gets host given p tried value := by
  induction h with
  | nil => cases hp
  | @cons q g rest got hq hrest ih =>
    rcases List.mem_cons.1 hp with rfl | hp
    · exact ⟨g.1, g.2, hq⟩
    · exact ih hp

/-- The names in the arguments are those of the parameters that are provided for, in the order of
declaration. -/
theorem map_fst_bundle {host : Host} {given : Given} {params : List Param} {got : List Got}
    (h : GetsAll host given params got) :
    (bundle params got).map (·.1) = (params.filter given.Provides).map (·.name) := by
  induction h with
  | nil => rfl
  | @cons p g rest got hp hrest ih =>
    have hsome := hp.isSome_eq
    have hbundle : bundle (p :: rest) (g :: got) =
        (g.2.map (p.name, ·)).toList ++ bundle rest got := rfl
    rw [hbundle, List.map_append, ih, List.filter_cons, ← hsome]
    cases g.2 <;> rfl

/-! ## The contract -/

/-- What a caller can rely on when a line is parsed that gives `given` to the parameters. -/
structure ParseContract (spec : ArgumentSpec) (name : String) (host : Host) (given : Given)
    (parsed : Traced (Except UsageAborted Arguments)) : Prop where
  /-- There are arguments exactly if an integer is made of each word that is given to a parameter
  which has to be an integer. -/
  accepted_iff : (∃ args, parsed.value = .ok args) ↔
    ∀ p ∈ spec.params, ∀ word, given.Gives p word → p.coercion.CanRefuse →
      ∃ tried v, p.coercion.Makes host word tried (.int v)
  /-- They are what the parameters get, in the order of declaration. The host is handed what is
  tried for each parameter, in this order. -/
  bundled : ∀ args, parsed.value = .ok args → ∃ got, GetsAll host given spec.params got ∧
    args.values = bundle spec.params got ∧ parsed.evaluated = allTried got
  /-- Flags, parameters with a word and parameters with a default are in them, and no others. -/
  provided : ∀ args, parsed.value = .ok args →
    args.values.map (·.1) = (spec.params.filter given.Provides).map (·.name)
  /-- If there are none, the parameter that is named is the first whose word is refused. The host
  is handed what is tried for the parameters up to this one. -/
  refused : ∀ aborted, parsed.value = .error aborted → ∃ before p word tried got,
    StopsAt host given spec.params before p word tried ∧ GetsAll host given before got ∧
    aborted = spec.abort name (.refused (p.refusal word)) ∧
    parsed.evaluated = allTried got ++ tried

section Contract

variable {spec : ArgumentSpec} {name : String} {host : Host} {line : String}
  {found : Options.Matches}

/-- What a line gives to the parameters that its words were matched with. -/
def Given.ofMatches (found : Options.Matches) : Given :=
  ⟨found.value?, found.has⟩

/-- Where the words of a line match the declaration, parsing goes over the parameters. -/
theorem parse_of_match (h : (spec.toOptions name).matchWords line.argumentWords = .ok found) :
    spec.parse name host line =
      ⟨(collect host (.ofMatches found) spec.params).evaluated,
        match (collect host (.ofMatches found) spec.params).value with
        | .ok values => .ok ⟨values⟩
        | .error reason => .error (spec.abort name (.refused reason))⟩ := by
  rw [parse, h]
  rfl

/-- The contract is met where every parameter gets something or nothing. -/
theorem parseContract_of_getsAll {given : Given} {got : List Got}
    (h : GetsAll host given spec.params got) :
    spec.ParseContract name host given ⟨allTried got, .ok ⟨bundle spec.params got⟩⟩ where
  accepted_iff := by
    refine ⟨fun _ p hp word hword hrefuse => ?_, fun _ => ⟨_, rfl⟩⟩
    obtain ⟨tried, value, hgets⟩ := h.gets_of_mem hp
    obtain ⟨value, hmakes⟩ := hgets.makes hword
    obtain ⟨v, rfl⟩ := hmakes.exists_int hrefuse
    exact ⟨tried, v, hmakes⟩
  bundled args hargs := by
    obtain rfl := Except.ok.inj hargs
    exact ⟨got, h, rfl, rfl⟩
  provided args hargs := by
    obtain rfl := Except.ok.inj hargs
    exact map_fst_bundle h
  refused aborted haborted := by cases haborted

/-- The contract is met where a word is refused. -/
theorem parseContract_of_stopsAt {given : Given} {before : List Param} {p : Param} {word : String}
    {tried : List String} {got : List Got}
    (h : StopsAt host given spec.params before p word tried)
    (hbefore : GetsAll host given before got) :
    spec.ParseContract name host given
      ⟨allTried got ++ tried, .error (spec.abort name (.refused (p.refusal word)))⟩ where
  accepted_iff := by
    constructor
    · rintro ⟨args, hargs⟩
      cases hargs
    · intro hall
      -- The word that is refused would have to be made into an integer.
      obtain ⟨after, hsplit⟩ := h.split
      have hp : p ∈ spec.params := by
        rw [hsplit]
        exact List.mem_append_right before List.mem_cons_self
      obtain ⟨hrefuse, hnone⟩ := h.refuses.canRefuse
      obtain ⟨tried', v, hmakes⟩ := hall p hp word h.gives hrefuse
      exact absurd hmakes (hnone tried' _)
  bundled args hargs := by cases hargs
  provided args hargs := by cases hargs
  refused aborted haborted := by
    obtain rfl := Except.error.inj haborted
    exact ⟨before, p, word, tried, got, h, hbefore, rfl, rfl⟩

/-- Parsing a line whose words match the declaration meets the contract. -/
theorem parseContract (h : (spec.toOptions name).matchWords line.argumentWords = .ok found) :
    spec.ParseContract name host (.ofMatches found) (spec.parse name host line) := by
  rw [parse_of_match h]
  rcases collect_cases host (.ofMatches found) spec.params with
    ⟨got, hgets, hcollect⟩ | ⟨before, p, word, tried, got, hstops, hbefore, hcollect⟩
  · rw [hcollect]
    exact parseContract_of_getsAll hgets
  · rw [hcollect]
    exact parseContract_of_stopsAt hstops hbefore

end Contract

/-- Where the words of a line match the declaration, its arguments are decided parameter by
parameter in the order of declaration. Lines that give the same to each parameter, in whatever order
on the line, are parsed alike. -/
theorem parsing_follows_the_declaration (spec : ArgumentSpec) (name : String) (host : Host)
    (line : String) (found : Options.Matches)
    (h : (spec.toOptions name).matchWords line.argumentWords = .ok found) :
    spec.ParseContract name host (.ofMatches found) (spec.parse name host line) ∧
      ∀ (other : String) (found' : Options.Matches),
        (spec.toOptions name).matchWords other.argumentWords = .ok found' →
        (∀ p ∈ spec.params, p.isFlag = true → found'.has p.name = found.has p.name) →
        (∀ p ∈ spec.params, p.isFlag = false → found'.value? p.name = found.value? p.name) →
        spec.parse name host other = spec.parse name host line := by
  refine ⟨parseContract h, fun other found' hother hflag hword => ?_⟩
  have hcollect : collect host (.ofMatches found') spec.params =
      collect host (.ofMatches found) spec.params := collect_congr host hflag hword
  rw [parse_of_match h, parse_of_match hother, hcollect]

/-- An address that can be typed without a mark. -/
def startAddress : Param :=
  (Param.positional "address" "Where to start.").withCoercion .hexOrExpression

/-- A declaration with a parameter of each kind. -/
def dumping : ArgumentSpec where
  params := [startAddress,
    (Param.option "count" "How many words.").withCoercion .expressionOrAbort,
    Param.flag "all" "Also what is not mapped.",
    (Param.optional "label" "What to call it.").withDefault (.str "none")]

/-- What an operator types last can be decided first. The words of `--count y --all zz` and of
`zz --count y --all` are matched in different orders, and both lines are refused for the address,
before the count is looked at. -/
theorem refused_in_the_order_of_declaration :
    (∃ found, (dumping.toOptions "dump").matchWords "--count y --all zz".argumentWords =
        .ok found ∧ found.ids = ["count", "all", "address"] ∧
      dumping.ParseContract "dump" (({} : Target).host []) (.ofMatches found)
        (dumping.parse "dump" (({} : Target).host []) "--count y --all zz")) ∧
    dumping.parse "dump" (({} : Target).host []) "zz --count y --all" =
      dumping.parse "dump" (({} : Target).host []) "--count y --all zz" ∧
    dumping.parse "dump" (({} : Target).host []) "--count y --all zz" =
      ⟨["zz"], .error (dumping.abort "dump" (.refused
        "argument address: Incorrect address (or GDB expression): zz"))⟩ := by
  have hmatch : (dumping.toOptions "dump").matchWords "--count y --all zz".argumentWords =
      .ok [⟨"count", ["y"], 1⟩, ⟨"all", [], 1⟩, ⟨"address", ["zz"], 1⟩] := by cbv
  have hother : (dumping.toOptions "dump").matchWords "zz --count y --all".argumentWords =
      .ok [⟨"address", ["zz"], 1⟩, ⟨"count", ["y"], 1⟩, ⟨"all", [], 1⟩] := by cbv
  obtain ⟨hcontract, hsame⟩ := parsing_follows_the_declaration dumping "dump"
    (({} : Target).host []) "--count y --all zz" _ hmatch
  refine ⟨⟨_, hmatch, rfl, hcontract⟩, hsame _ _ hother (by decide) (by decide), ?_⟩
  have htried : Attempts (({} : Target).host []) "zz" ["zz"] (.error (.noSymbol "zz")) :=
    .of_no_registers rfl (by decide +kernel) rfl
  have hcoerce : coerce (({} : Target).host []) startAddress "zz" =
      ⟨["zz"], .error "argument address: Incorrect address (or GDB expression): zz"⟩ := by
    have hhex : hex? "zz" = none := by cbv
    rw [coerce, startAddress, Param.withCoercion]
    dsimp only
    rw [hhex]
    exact expressionOrAbort_eq _ _ htried
  -- The address is declared first, and is all that is decided.
  have hvalue : valueOf (({} : Target).host [])
      (.ofMatches [⟨"count", ["y"], 1⟩, ⟨"all", [], 1⟩, ⟨"address", ["zz"], 1⟩]) startAddress =
      ⟨["zz"], .error "argument address: Incorrect address (or GDB expression): zz"⟩ := by
    change (⟨(coerce _ startAddress "zz").evaluated, (coerce _ startAddress "zz").value.map some⟩ :
      Traced (Except String (Option ArgValue))) = _
    rw [hcoerce]
    rfl
  rw [parse_of_match hmatch, dumping, collect, hvalue]

end ArgumentSpec

end DebugShell
