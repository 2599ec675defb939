import DebugShell.Shell.Commands
import DebugShell.Proofs.Aliases
import DebugShell.Proofs.Arguments
import DebugShell.Proofs.Matching
import DebugShell.Proofs.Numeral
import DebugShell.Proofs.Quoting

/-!
# Distances are exact

`distance` is given two words, and tells how far the address of the second is from that of the
first. `Measures` says what the line that it tells is read as: two addresses, and two signed
numbers. A line is read in one way at most (`Measures.unique`), and the line for two addresses is
read as these, as the difference of the integers that they are, and as an eighth of it, where what
is left over is dropped (`measures_distanceLine`).

A line of arguments gives the command two words or is refused, since both have to be given
(`exists_gives`). It is refused too if a word has no address. So whenever the body is started, it is
given two addresses (`addresses_of_parse`), and completes. `DistanceContract` puts this together.
-/

namespace DebugShell.Shell

/-! ## What is told is read in one way -/

/-- Where an element is not in what stands in front of it, that is determined, and so is what stands
behind it. -/
theorem cut_unique {α : Type} {a : α} {before before' after after' : List α}
    (h : a ∉ before) (h' : a ∉ before') (heq : before ++ a :: after = before' ++ a :: after') :
    before = before' ∧ after = after' := by
  induction before generalizing before' with
  | nil =>
    cases before' with
    | nil => exact ⟨rfl, (List.cons.inj heq).2⟩
    | cons b rest => exact absurd ((List.cons.inj heq).1 ▸ List.mem_cons_self) h'
  | cons b rest ih =>
    cases before' with
    | nil => exact absurd ((List.cons.inj heq).1 ▸ List.mem_cons_self) h
    | cons b' rest' =>
      obtain ⟨rfl, hcut⟩ := List.cons.inj heq
      have hrest : a ∉ rest := fun hmem => h (List.mem_cons_of_mem b hmem)
      have hrest' : a ∉ rest' := fun hmem => h' (List.mem_cons_of_mem b hmem)
      obtain ⟨rfl, rfl⟩ := ih hrest hrest' hcut
      exact ⟨rfl, rfl⟩

/-- The text is read as a distance from `a` to `b` that is `bytes` bytes and `words` words. -/
def Measures (text : String) (a b : Nat) (bytes words : Int) : Prop :=
  ∃ first second count size : String,
    text = first ++ "->" ++ second ++ " is " ++ count ++ " bytes (" ++ size ++ " words)" ∧
    Numeral.WritesHex first.toList a ∧ Numeral.WritesHex second.toList b ∧
    Numeral.WritesSigned count.toList bytes ∧ Numeral.WritesSigned size.toList words

/-- No numeral has a blank in it. -/
theorem not_mem_blank {cs : List Char}
    (h : ∀ c ∈ cs, c = '-' ∨ c = 'x' ∨ Numeral.isDigit 16 c = true) : ' ' ∉ cs := by
  intro hblank
  rcases h ' ' hblank with hminus | hletter | hdigit
  · cases hminus
  · cases hletter
  · cases hdigit

/-- A text is read in one way at most. -/
theorem Measures.unique {text : String} {a b a' b' : Nat} {bytes words bytes' words' : Int}
    (h : Measures text a b bytes words) (h' : Measures text a' b' bytes' words') :
    a' = a ∧ b' = b ∧ bytes' = bytes ∧ words' = words := by
  obtain ⟨first, second, count, size, rfl, ha, hb, hbytes, hwords⟩ := h
  obtain ⟨first', second', count', size', htext, ha', hb', hbytes', hwords'⟩ := h'
  have hblank {text : String} {n : Nat} (hn : Numeral.WritesHex text.toList n) :
      ' ' ∉ text.toList := not_mem_blank fun c hc => .inr (hn.mem c hc)
  have hcs := congrArg String.toList htext
  have harrow : "->".toList = '-' :: ">".toList := rfl
  have his : " is ".toList = ' ' :: "is ".toList := rfl
  have hunit : " bytes (".toList = ' ' :: "bytes (".toList := rfl
  have hend : " words)".toList = ' ' :: "words)".toList := rfl
  simp only [String.toList_append, List.append_assoc, harrow, his, hunit, hend,
    List.cons_append] at hcs
  -- The first numeral ends at the arrow, and each of the others at a blank.
  obtain ⟨hfirst, hcs⟩ := cut_unique ha.not_mem_minus ha'.not_mem_minus hcs
  obtain ⟨hsecond, hcs⟩ := cut_unique (hblank hb) (hblank hb') (List.append_cancel_left hcs)
  obtain ⟨hcount, hcs⟩ := cut_unique (not_mem_blank hbytes.mem) (not_mem_blank hbytes'.mem)
    (List.append_cancel_left hcs)
  obtain ⟨hsize, -⟩ := cut_unique (not_mem_blank hwords.mem) (not_mem_blank hwords'.mem)
    (List.append_cancel_left hcs)
  rw [← hfirst] at ha'
  rw [← hsecond] at hb'
  rw [← hcount] at hbytes'
  rw [← hsize] at hwords'
  exact ⟨ha.unique ha', hb.unique hb', hbytes.unique hbytes', hwords.unique hwords'⟩

/-- The line for two addresses is read as these, and as their difference in bytes and in words. -/
theorem measures_distanceLine (a b : UInt64) :
    Measures (distanceLine a b) a.toNat b.toNat (b.toNat - a.toNat)
      ((b.toNat - a.toNat : Int).tdiv 8) := by
  refine ⟨Numeral.hex a.toNat, Numeral.hex b.toNat, Numeral.signedHex (b.toNat - a.toNat),
    Numeral.signedHex ((b.toNat - a.toNat : Int).tdiv 8), ?_, Numeral.writesHex_hex _,
    Numeral.writesHex_hex _, Numeral.writesSigned_signedHex _, Numeral.writesSigned_signedHex _⟩
  unfold distanceLine pointerSize
  simp only [String.append_assoc]
  rfl

-- What is left over is dropped on either side of zero.
example : distanceLine 16 1 = "0x10->0x1 is -0xf bytes (-0x1 words)" ∧
    distanceLine 1 16 = "0x1->0x10 is 0xf bytes (0x1 words)" := by decide +kernel

/-! ## Two words -/

/-- The line of arguments gives `x` for the first address and `y` for the second. -/
def GivesWords (argument x y : String) : Prop :=
  ∃ found, (distance.spec.toOptions distance.name).matchWords argument.argumentWords = .ok found ∧
    found.value? "a" = some x ∧ found.value? "b" = some y

/-- A line that matches the declaration gives two words, since both have to be given. -/
theorem exists_gives {argument : String} {found : Options.Matches}
    (h : (distance.spec.toOptions distance.name).matchWords argument.argumentWords = .ok found) :
    ∃ x y, GivesWords argument x y := by
  let spec := distance.spec.toOptions distance.name
  have hword : ∀ id ∈ ["a", "b"], ∃ word, found.value? id = some word := by
    intro id hid
    have hdeclared : ∀ id ∈ ["a", "b"], ∃ arg ∈ spec.positionals, arg.id = id ∧
        arg.required = true ∧ ∀ other ∈ spec.allArgs, other.id = id → other.takesValue = true := by
      decide
    obtain ⟨arg, harg, rfl, hrequired, hvalues⟩ := hdeclared id hid
    exact Options.exists_value_of_required h harg hrequired hvalues
  obtain ⟨x, hx⟩ := hword "a" (by decide)
  obtain ⟨y, hy⟩ := hword "b" (by decide)
  exact ⟨x, y, found, h, hx, hy⟩

/-- Two words that do not begin with a dash are given. -/
theorem gives_of_no_dash {argument x y : String} (h : argument.argumentWords = [x, y])
    (hx : x.toList.head? ≠ some '-') (hy : y.toList.head? ≠ some '-') :
    GivesWords argument x y := by
  refine ⟨[⟨"a", [x], 1⟩, ⟨"b", [y], 1⟩], ?_, rfl, rfl⟩
  have hwords : ∀ word ∈ [x, y], word.toList.head? ≠ some '-' :=
    List.forall_mem_cons.2 ⟨hx, List.forall_mem_singleton.2 hy⟩
  rw [h, Options.Spec.matchWords, Options.readWords_of_no_dash _ _ hwords]
  rfl

/-- Behind the mark that ends the options any two words are given. -/
theorem gives_of_trailing {argument x y : String} (h : argument.argumentWords = ["--", x, y]) :
    GivesWords argument x y := by
  refine ⟨[⟨"a", [x], 1⟩, ⟨"b", [y], 1⟩], ?_, rfl, rfl⟩
  rw [h]
  rfl

/-! ## What is parsed -/

/-- The word has the address `a`: that is what its coercion yields. -/
def HasAddress (host : Host) (word : String) (a : UInt64) : Prop :=
  (Coercer.fixInt ⟨host, false⟩ word).value = .ok a

section Parse

variable {host : Host}

/-- A word has one address at most. -/
theorem HasAddress.unique {word : String} {a b : UInt64} (h : HasAddress host word a)
    (h' : HasAddress host word b) : b = a :=
  Except.ok.inj (h'.symm.trans h)

/-- Where a word has to have a value, its address is made of it. -/
theorem hasAddress_iff (word : String) (a : UInt64) : HasAddress host word a ↔
    ∃ tried, Coercion.Makes host .expressionOrAbort word tried (.int a) := by
  obtain ⟨tried, outcome, h⟩ := Coercer.exists_attempts host word
  unfold HasAddress
  cases outcome with
  | ok v =>
    rw [Coercer.fixInt_of_ok ⟨host, false⟩ h]
    constructor
    · rintro ha
      cases ha
      exact ⟨tried, .required h⟩
    · rintro ⟨tried', hmakes⟩
      cases hmakes with
      | required h' => rw [Except.ok.inj (h.unique h').2]
  | error e =>
    rw [Coercer.fixInt_of_error ⟨host, false⟩ h]
    constructor
    · rintro ha
      cases ha
    · rintro ⟨tried', hmakes⟩
      cases hmakes with
      | required h' => cases (h.unique h').2

/-- A parameter that takes an address gets that of its word. -/
theorem address_of_gets {given : ArgumentSpec.Given} {p : Param} {tried : List String}
    {value : Option ArgValue} (h : ArgumentSpec.Gets host given p tried value) {word : String}
    (hword : given.Gives p word) (hcoercion : p.coercion = .expressionOrAbort) :
    ∃ a, HasAddress host word a ∧ value = some (.int a) := by
  cases h with
  | flag hflag => cases hflag.symm.trans hword.1
  | @word word' tried value hword' hmakes =>
    obtain rfl : word' = word := Option.some.inj (hword'.2.symm.trans hword.2)
    rw [hcoercion] at hmakes
    obtain ⟨a, rfl⟩ := hmakes.exists_int (.inl rfl)
    exact ⟨a, (hasAddress_iff word' a).2 ⟨tried, hmakes⟩, rfl⟩
  | absent _ hnone => cases hnone.symm.trans hword.2

variable {argument x y : String}

/-- The arguments of an accepted line are the addresses of its words. -/
theorem addresses_of_parse (h : GivesWords argument x y) {args : Arguments}
    (hargs : (distance.spec.parse distance.name host argument).value = .ok args) :
    ∃ a b, HasAddress host x a ∧ HasAddress host y b ∧
      args = ⟨[("a", .int a), ("b", .int b)]⟩ := by
  obtain ⟨found, hfound, hx, hy⟩ := h
  obtain ⟨got, hgets, hvalues, -⟩ := (ArgumentSpec.parseContract hfound).bundled args hargs
  -- There are two parameters, and each gets the address of its word.
  obtain ⟨first, rest, hfirst, hrest, rfl⟩ := List.forall₂_cons_left_iff.1 hgets
  obtain ⟨second, none, hsecond, hnone, rfl⟩ := List.forall₂_cons_left_iff.1 hrest
  obtain rfl := List.forall₂_nil_left_iff.1 hnone
  obtain ⟨a, ha, hgotFirst⟩ := address_of_gets hfirst ⟨rfl, hx⟩ rfl
  obtain ⟨b, hb, hgotSecond⟩ := address_of_gets hsecond ⟨rfl, hy⟩ rfl
  refine ⟨a, b, ha, hb, ?_⟩
  have hvalues : args.values = [("a", .int a), ("b", .int b)] := by
    rw [hvalues]
    change (first.2.map ("a", ·)).toList ++ ((second.2.map ("b", ·)).toList ++ []) = _
    rw [hgotFirst, hgotSecond]
    rfl
  cases args
  exact congrArg Arguments.mk hvalues

/-- A line that gives two words is accepted if both have an address. -/
theorem parse_of_addresses (h : GivesWords argument x y) {a b : UInt64}
    (ha : HasAddress host x a) (hb : HasAddress host y b) :
    (distance.spec.parse distance.name host argument).value =
      .ok ⟨[("a", .int a), ("b", .int b)]⟩ := by
  obtain ⟨found, hfound, hx, hy⟩ := h
  have hmade : ∀ p ∈ distance.spec.params, ∀ word,
      (ArgumentSpec.Given.ofMatches found).Gives p word → p.coercion.CanRefuse →
      ∃ tried v, p.coercion.Makes host word tried (.int v) := by
    intro p hp word hword _
    have hcases : p = (Param.positional "a" "The first address.").withCoercion .expressionOrAbort ∨
        p = (Param.positional "b" "The second address.").withCoercion .expressionOrAbort := by
      simpa [distance] using hp
    rcases hcases with rfl | rfl
    · obtain rfl : x = word := Option.some.inj (hx.symm.trans hword.2)
      obtain ⟨tried, hmakes⟩ := (hasAddress_iff x a).1 ha
      exact ⟨tried, a, hmakes⟩
    · obtain rfl : y = word := Option.some.inj (hy.symm.trans hword.2)
      obtain ⟨tried, hmakes⟩ := (hasAddress_iff y b).1 hb
      exact ⟨tried, b, hmakes⟩
  obtain ⟨args, hargs⟩ := (ArgumentSpec.parseContract hfound).accepted_iff.2 hmade
  obtain ⟨a', b', ha', hb', rfl⟩ := addresses_of_parse ⟨found, hfound, hx, hy⟩ hargs
  rw [hargs, ha.unique ha', hb.unique hb']

end Parse

/-! ## What comes of it -/

/-- The report of a distance: the command completes and tells one line, which is read as this. -/
structure TellsDistance (report : Report Nat) (a b : Nat) (bytes words : Int) : Prop where
  /-- The command completes. -/
  completed : report.answer = .ok .completed
  /-- It tells one line, and there is one way to read that. -/
  told : ∃ text, report.output = [.plain text] ∧ ∀ a' b' bytes' words',
    Measures text a' b' bytes' words' ↔ a' = a ∧ b' = b ∧ bytes' = bytes ∧ words' = words

/-- What comes of invoking `distance` on a host, by the line of arguments. -/
structure DistanceContract (host : Host) (report : String → Report Nat) : Prop where
  /-- Any two words can be given behind the mark that ends the options. -/
  given : ∀ x y, ∃ argument : String, argument.argumentWords = ["--", x, y] ∧
    GivesWords argument x y
  /-- They can be given without it if they do not begin with a dash. -/
  given_bare : ∀ argument x y, argument.argumentWords = [x, y] →
    x.toList.head? ≠ some '-' → y.toList.head? ≠ some '-' → GivesWords argument x y
  /-- If two words with addresses are given, it tells their distance in bytes and in words. The
  number of words is what the number of bytes is divided by eight, without what is left over. -/
  measured : ∀ argument x y a b, GivesWords argument x y → HasAddress host x a →
    HasAddress host y b → TellsDistance (report argument) a.toNat b.toNat (b.toNat - a.toNat)
      ((b.toNat - a.toNat : Int).tdiv 8)
  /-- With the words in the other order the numbers change their signs. -/
  swapped : ∀ argument other x y a b, GivesWords argument x y → GivesWords other y x →
    HasAddress host x a → HasAddress host y b → ∃ bytes words,
      TellsDistance (report argument) a.toNat b.toNat bytes words ∧
      TellsDistance (report other) b.toNat a.toNat (-bytes) (-words)
  /-- If the arguments are accepted, two words with addresses are given, and the command completes.
  So there is no line for which its body fails. -/
  accepted : ∀ argument args, (distance.spec.parse distance.name host argument).value = .ok args →
    (report argument).answer = .ok .completed ∧
      ∃ x y a b, GivesWords argument x y ∧ HasAddress host x a ∧ HasAddress host y b
  /-- If they are not, the usage is all that is told. -/
  refused : ∀ argument abort,
    (distance.spec.parse distance.name host argument).value = .error abort →
    (report argument).answer = .ok .usageAborted ∧ (report argument).output = [abort.told]

section Contract

variable {d : Dispatcher Nat} {name : String} (host : Host) (interactive : Bool)
  (hfind : d.registry.find? name = some distance)
include hfind

/-- Two addresses are measured. -/
theorem tells_of_addresses {argument x y : String} (h : GivesWords argument x y) {a b : UInt64}
    (ha : HasAddress host x a) (hb : HasAddress host y b) :
    TellsDistance (d.invoke host name argument interactive) a.toNat b.toNat (b.toNat - a.toNat)
      ((b.toNat - a.toNat : Int).tdiv 8) := by
  have hargs := parse_of_addresses h ha hb
  have hrun : distance.body (d.invocation host argument interactive distance
      ⟨[("a", .int a), ("b", .int b)]⟩) d.memory =
      telling d.memory [.plain (distanceLine a b)] := rfl
  obtain ⟨-, hanswer, houtput⟩ :=
    d.invoke_of_plain interactive hfind hargs (List.forall_mem_nil _) rfl hrun
  refine ⟨hanswer, distanceLine a b, houtput, fun a' b' bytes' words' => ?_⟩
  have hmeasures := measures_distanceLine a b
  constructor
  · exact hmeasures.unique
  · rintro ⟨rfl, rfl, rfl, rfl⟩
    exact hmeasures

/-- Whatever the host, `distance` tells how far apart the addresses of two words are, as an integer,
and fails for no line of arguments. -/
theorem distances_are_exact :
    DistanceContract host fun argument => d.invoke host name argument interactive where
  given := by
    intro x y
    obtain ⟨argument, hwords⟩ := String.exists_argumentWords ["--", x, y]
    exact ⟨argument, hwords, gives_of_trailing hwords⟩
  given_bare := fun _ _ _ => gives_of_no_dash
  measured := by
    intro argument x y a b hgives ha hb
    exact tells_of_addresses host interactive hfind hgives ha hb
  swapped := by
    intro argument other x y a b hgives hother ha hb
    have htells := tells_of_addresses host interactive hfind hgives ha hb
    have hback := tells_of_addresses host interactive hfind hother hb ha
    -- Dividing toward zero goes along with a change of sign.
    have hbytes : (a.toNat - b.toNat : Int) = -(b.toNat - a.toNat) := by omega
    rw [hbytes, Int.neg_tdiv] at hback
    exact ⟨_, _, htells, hback⟩
  accepted := by
    intro argument args hargs
    cases hmatch : (distance.spec.toOptions distance.name).matchWords argument.argumentWords with
    | ok found =>
      obtain ⟨x, y, hgives⟩ := exists_gives hmatch
      obtain ⟨a, b, ha, hb, -⟩ := addresses_of_parse hgives hargs
      have htells := tells_of_addresses host interactive hfind hgives ha hb
      exact ⟨htells.completed, x, y, a, b, hgives, ha, hb⟩
    | error e =>
      -- A line that does not match is not accepted.
      rw [ArgumentSpec.parse, hmatch] at hargs
      cases hargs
  refused := fun argument _ => d.invoke_of_abort host name argument interactive hfind

end Contract

/-- From the last address back to one near the first it is told how far that is, and not how far it
would be around the end. -/
theorem widest_distance_is_told :
    TellsDistance (Dispatcher.measuring.invoke (({} : Target).host []) "dist"
        "0xffffffffffffffff 1" true)
      0xffffffffffffffff 1 (-0xfffffffffffffffe) (-0x1fffffffffffffff) := by
  have hcontract := distances_are_exact (({} : Target).host []) true
    (rfl : Dispatcher.measuring.registry.find? "dist" = some distance)
  have hgives : GivesWords "0xffffffffffffffff 1" "0xffffffffffffffff" "1" :=
    hcontract.given_bare _ _ _ (by decide +kernel) (by decide) (by decide)
  have hlast : HasAddress (({} : Target).host []) "0xffffffffffffffff" 0xffffffffffffffff := by
    unfold HasAddress
    decide +kernel
  have hfirst : HasAddress (({} : Target).host []) "1" 1 := by
    unfold HasAddress
    decide +kernel
  have htells := hcontract.measured _ _ _ _ _ hgives hlast hfirst
  have hbytes : ((1 : UInt64).toNat - (0xffffffffffffffff : UInt64).toNat : Int) =
      -0xfffffffffffffffe := by decide +kernel
  have hwords : (-0xfffffffffffffffe : Int).tdiv 8 = -0x1fffffffffffffff := by decide +kernel
  have hlastValue : (0xffffffffffffffff : UInt64).toNat = 0xffffffffffffffff := by decide +kernel
  have hfirstValue : (1 : UInt64).toNat = 1 := by decide +kernel
  rwa [hbytes, hwords, hlastValue, hfirstValue] at htells

end DebugShell.Shell
