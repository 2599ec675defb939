import DebugShell.Shell.Commands
import DebugShell.Proofs.Evaluation
import DebugShell.Proofs.Messages

/-!
# The source that `ghidra` shows by itself

Without an argument `ghidra` shows the function that the program counter is in. `Nearest` says which
of the symbols that is: none at or below the program counter has a greater address, and of those
with this address it has the greatest name.

The symbols are scanned from the last to the first, and the scan changes its choice for a greater
address only. So of symbols with one address it keeps the one that is listed last, and as the
listing is in ascending order that is the one with the greatest name (`nearestSymbol?_cases`). A
function that was chosen can still have no source. `ShowsCurrentFunction` says what the operator is
told in each case, and in which of them the source.
-/

namespace DebugShell

namespace Shell

/-! ## The nearest symbol -/

/-- Where the program counter is `pc`, it is in the function that begins at a symbol. -/
structure Nearest (symbols : List (String × UInt64)) (pc : Int) (function : String × UInt64) :
    Prop where
  /-- The symbol is one of those that are listed. -/
  listed : function ∈ symbols
  /-- The program counter is not in front of it. -/
  le : (function.2.toNat : Int) ≤ pc
  /-- No other that the program counter is not in front of has a greater address. -/
  greatest : ∀ s ∈ symbols, (s.2.toNat : Int) ≤ pc → s.2 ≤ function.2
  /-- Of those at its address it has the greatest name. -/
  last : ∀ s ∈ symbols, s.2 = function.2 → s.1 ≤ function.1

/-- The program counter is in front of all symbols. -/
def InFront (symbols : List (String × UInt64)) (pc : Int) : Prop :=
  ∀ s ∈ symbols, pc < s.2.toNat

variable {symbols : List (String × UInt64)} {pc : Int}

/-- There is one such symbol at most. -/
theorem Nearest.unique {function other : String × UInt64} (h : Nearest symbols pc function)
    (hother : Nearest symbols pc other) : other = function := by
  have haddress : other.2 = function.2 :=
    UInt64.le_antisymm (h.greatest other hother.listed hother.le)
      (hother.greatest function h.listed h.le)
  have hname : other.1 = function.1 :=
    String.le_antisymm (h.last other hother.listed haddress)
      (hother.last function h.listed haddress.symm)
  exact Prod.ext hname haddress

/-- There is none if the program counter is in front of all symbols. -/
theorem Nearest.not_inFront {function : String × UInt64} (h : Nearest symbols pc function) :
    ¬InFront symbols pc := by
  intro hfront
  have hlt : pc < function.2.toNat := hfront function h.listed
  have hle : (function.2.toNat : Int) ≤ pc := h.le
  omega

/-- One more symbol is the nearest if all others are in front of it or behind the program
counter. -/
theorem nearest_cons {s : String × UInt64} (hs : (s.2.toNat : Int) ≤ pc)
    (hfar : ∀ e ∈ symbols, (e.2.toNat : Int) ≤ pc → e.2 < s.2) :
    Nearest (s :: symbols) pc s where
  listed := List.mem_cons_self
  le := hs
  greatest := by
    rw [List.forall_mem_cons]
    exact ⟨fun _ => UInt64.le_refl _, fun e he hepc => UInt64.le_of_lt (hfar e he hepc)⟩
  last := by
    rw [List.forall_mem_cons]
    refine ⟨fun _ => String.le_refl _, fun e he hsame => ?_⟩
    have hlt : e.2 < s.2 := hfar e he (hsame ▸ hs)
    rw [hsame] at hlt
    exact absurd hlt (UInt64.lt_irrefl _)

/-- The nearest symbol stays so if one more is not nearer and has a smaller name. -/
theorem Nearest.cons {s function : String × UInt64} (h : Nearest symbols pc function)
    (hs : (s.2.toNat : Int) ≤ pc → s.2 ≤ function.2) (hname : s.1 < function.1) :
    Nearest (s :: symbols) pc function where
  listed := List.mem_cons_of_mem s h.listed
  le := h.le
  greatest := by
    rw [List.forall_mem_cons]
    exact ⟨hs, h.greatest⟩
  last := by
    rw [List.forall_mem_cons]
    exact ⟨fun _ => String.not_lt.1 (String.lt_asymm hname), h.last⟩

/-- In a listing in ascending order of the names, the scan finds the nearest symbol. It finds none
if the program counter is in front of all symbols. -/
theorem nearestSymbol?_cases (hsorted : symbols.Pairwise fun s t => s.1 < t.1) (pc : UInt64) :
    (∃ function, nearestSymbol? pc symbols = some function ∧
      Nearest symbols pc.toNat function) ∨
    nearestSymbol? pc symbols = none ∧ InFront symbols pc.toNat := by
  have hle_iff (s : String × UInt64) : s.2 ≤ pc ↔ (s.2.toNat : Int) ≤ pc.toNat := by
    rw [UInt64.le_iff_toNat_le]
    omega
  induction symbols with
  | nil => exact .inr ⟨rfl, List.forall_mem_nil _⟩
  | cons s rest ih =>
    obtain ⟨hnames, hrest⟩ := List.pairwise_cons.1 hsorted
    rw [nearestSymbol?]
    rcases ih hrest with ⟨t, hscan, ht⟩ | ⟨hscan, hfront⟩
    · rw [hscan]
      dsimp only
      split
      · -- The symbol in front is nearer than the nearest of the rest, so than all of them.
        rename_i hnearer
        have hs := (hle_iff s).1 hnearer.1
        exact .inl ⟨s, rfl, nearest_cons hs fun e he hepc =>
          UInt64.lt_of_le_of_lt (ht.greatest e he hepc) hnearer.2⟩
      · -- It is not, and at the same address it has the smaller name.
        rename_i hnearer
        refine .inl ⟨t, rfl, ht.cons (fun hs => ?_) (hnames t ht.listed)⟩
        exact UInt64.not_lt.1 fun hlt => hnearer ⟨(hle_iff s).2 hs, hlt⟩
    · rw [hscan]
      dsimp only
      split
      · rename_i hs
        refine .inl ⟨s, rfl, nearest_cons ((hle_iff s).1 hs) fun e he hepc => ?_⟩
        have hlt := hfront e he
        omega
      · rename_i hs
        rw [hle_iff] at hs
        refine .inr ⟨rfl, ?_⟩
        rw [InFront, List.forall_mem_cons]
        exact ⟨by omega, hfront⟩

/-! ## The function that the program counter is in -/

section CurrentFunction

variable (t : Target) (history : History.Entries)

/-- The program counter is a register, so its value is a machine word. -/
theorem evaluate_pc : t.evaluate "$pc" = (t.register "pc").map fun v => (v.toNat : Int) := by
  have hparse : Expression.parse "$pc" = .ok (.register "pc") := by decide +kernel
  rw [Target.evaluate, hparse]
  rfl

/-- A value of the program counter is read back from the word that it is kept in. -/
theorem toNat_of_evaluate_pc {pc : Int} (h : t.evaluate "$pc" = .ok pc) :
    ((UInt64.ofInt pc).toNat : Int) = pc := by
  rw [evaluate_pc] at h
  cases hpc : t.register "pc" with
  | ok v =>
    rw [hpc] at h
    obtain rfl : (v.toNat : Int) = pc := Except.ok.inj h
    have hmod := Coercer.toNat_ofInt_modEq (v.toNat : Int)
    have hlt := v.toNat_lt
    have hlt' := (UInt64.ofInt (v.toNat : Int)).toNat_lt
    rw [Int.ModEq] at hmod
    omega
  | error e =>
    rw [hpc] at h
    cases h

/-- The scan for the program counter's value. -/
theorem nearestSymbol?_of_evaluate_pc {pc : Int} (h : t.evaluate "$pc" = .ok pc) :
    (∃ function, nearestSymbol? (.ofInt pc) t.symbols.toList = some function ∧
      Nearest t.symbols.toList pc function) ∨
    nearestSymbol? (.ofInt pc) t.symbols.toList = none ∧ InFront t.symbols.toList pc := by
  have hscan := nearestSymbol?_cases t.symbols.sorted (.ofInt pc)
  rwa [toNat_of_evaluate_pc t h] at hscan

/-- The program counter is in the function at the nearest symbol. -/
theorem currentFunction_of_nearest {pc : Int} (hpc : t.evaluate "$pc" = .ok pc)
    {function : String × UInt64} (h : Nearest t.symbols.toList pc function) :
    currentFunction t (t.host history) = .ok function.1 := by
  have hevaluate : (t.host history).evaluate "$pc" = .ok pc := hpc
  rw [currentFunction, hevaluate]
  dsimp only
  rcases nearestSymbol?_of_evaluate_pc t hpc with ⟨other, hscan, hother⟩ | ⟨-, hfront⟩
  · rw [hscan, h.unique hother]
  · exact absurd hfront h.not_inFront

/-- It is in none if it is in front of all symbols. -/
theorem currentFunction_of_inFront {pc : Int} (hpc : t.evaluate "$pc" = .ok pc)
    (h : InFront t.symbols.toList pc) :
    currentFunction t (t.host history) = .error
      (.ofText ("Could not determine the current function at " ++ Numeral.hex pc.toNat)) := by
  have hevaluate : (t.host history).evaluate "$pc" = .ok pc := hpc
  have hword : (UInt64.ofInt pc).toNat = pc.toNat := by
    have hback := toNat_of_evaluate_pc t hpc
    omega
  rw [currentFunction, hevaluate]
  dsimp only
  rcases nearestSymbol?_of_evaluate_pc t hpc with ⟨other, -, hother⟩ | ⟨hscan, -⟩
  · exact absurd h hother.not_inFront
  · rw [hscan, hword]
    rfl

/-- It is in none if it has no value. -/
theorem currentFunction_of_error {e : HostError} (hpc : t.evaluate "$pc" = .error e) :
    currentFunction t (t.host history) = .error (hostFailure e) := by
  have hevaluate : (t.host history).evaluate "$pc" = .error e := hpc
  rw [currentFunction, hevaluate]

end CurrentFunction

/-! ## Showing its source -/

/-- The body of a command told nothing and failed: all that the operator is told is the report of
the failure. -/
structure FailsWith (d : Dispatcher Nat) (c : Command Nat) (failure : Failure)
    (report : Report Nat) : Prop where
  /-- The failure is absorbed, or handed on if the settings ask for that. -/
  answer : report.answer = answerOf d.config (.error failure)
  /-- It is reported, and nothing else is told. -/
  output : report.output = c.afterword d.config none (.error failure)

/-- What comes of invoking `ghidra` without an argument. -/
structure ShowsCurrentFunction (t : Target) (d : Dispatcher Nat) (report : Report Nat) : Prop where
  /-- The body is started. -/
  started : report.started.isSome
  /-- Where the program counter has a value, either there is one nearest symbol, or the program
  counter is in front of all. -/
  located : ∀ pc, t.evaluate "$pc" = .ok pc →
    (∃! function, Nearest t.symbols.toList pc function) ∨ InFront t.symbols.toList pc
  /-- If the function at the nearest symbol has a source, that is told line by line. -/
  shown : ∀ pc function source, t.evaluate "$pc" = .ok pc →
    Nearest t.symbols.toList pc function → t.decompiled.get? function.1 = some source →
    report.answer = .ok .completed ∧ report.output = source.textLines.map .plain
  /-- If it has none, the failure names it. -/
  sourceless : ∀ pc function, t.evaluate "$pc" = .ok pc →
    Nearest t.symbols.toList pc function → t.decompiled.get? function.1 = none →
    FailsWith d (ghidra t) (.ofText ("Could not find function " ++ function.1)) report
  /-- If all symbols are behind the program counter, the failure tells where that is. -/
  nowhere : ∀ pc, t.evaluate "$pc" = .ok pc → InFront t.symbols.toList pc →
    FailsWith d (ghidra t) (.ofText
      ("Could not determine the current function at " ++ Numeral.hex pc.toNat)) report
  /-- If the program counter has no value, the failure is that of the host. -/
  unlocated : ∀ e, t.evaluate "$pc" = .error e → FailsWith d (ghidra t) (.ofText e.message) report

/-- A line without words, or with nothing but the mark that ends the options, is accepted and gives
no function. -/
theorem ghidra_parse_of_no_argument (t : Target) (host : Host) {argument : String}
    (h : argument.argumentWords = [] ∨ argument.argumentWords = ["--"]) :
    ((ghidra t).spec.parse (ghidra t).name host argument).value = .ok {} := by
  rcases h with h | h
  · rw [ArgumentSpec.parse, h]
    rfl
  · rw [ArgumentSpec.parse, h]
    rfl

section Body

variable {t : Target} {i : Invocation} (passed : Nat) (hargs : i.args.str? "func" = none)
include hargs

/-- Without an argument the body shows the source of the current function. -/
theorem ghidra_body_of_current {function : String} (h : currentFunction t i.host = .ok function) :
    (ghidra t).body i passed = showSource t passed function ["$pc"] := by
  dsimp only [ghidra]
  rw [hargs]
  dsimp only
  rw [h]

/-- It fails if there is no current function. -/
theorem ghidra_body_of_error {failure : Failure} (h : currentFunction t i.host = .error failure) :
    (ghidra t).body i passed = failing passed failure ["$pc"] := by
  dsimp only [ghidra]
  rw [hargs]
  dsimp only
  rw [h]

end Body

section Invoke

variable {d : Dispatcher Nat} {t : Target} (history : History.Entries) {name argument : String}
  (interactive : Bool) (hfind : d.registry.find? name = some (ghidra t))
  (hfile : Gate.withFile.holds t.session = true)
  (hargument : argument.argumentWords = [] ∨ argument.argumentWords = ["--"])
include hfind hfile hargument

/-- An invocation without an argument runs the body without arguments. -/
theorem invoke_ghidra {run : BodyRun Nat}
    (hrun : (ghidra t).body (d.invocation (t.host history) argument interactive (ghidra t) {})
      d.memory = run) :
    (d.invoke (t.host history) name argument interactive).started.isSome ∧
      (d.invoke (t.host history) name argument interactive).answer =
        answerOf d.config run.result ∧
      (d.invoke (t.host history) name argument interactive).output =
        run.output ++ (ghidra t).afterword d.config none run.result := by
  have hargs := ghidra_parse_of_no_argument t (t.host history) hargument
  have hgates : ∀ g ∈ (ghidra t).gates, g.holds (t.host history).session = true :=
    List.forall_mem_singleton.2 hfile
  obtain ⟨hstarted, hreport⟩ := d.invoke_of_plain interactive hfind hargs hgates rfl hrun
  rw [hstarted]
  exact ⟨rfl, hreport⟩

/-- Without a current function it fails. -/
theorem invoke_ghidra_of_error {failure : Failure}
    (h : currentFunction t (t.host history) = .error failure) :
    FailsWith d (ghidra t) failure (d.invoke (t.host history) name argument interactive) := by
  obtain ⟨-, hanswer, houtput⟩ := invoke_ghidra history interactive hfind hfile hargument
    (ghidra_body_of_error d.memory rfl h)
  exact ⟨hanswer, houtput⟩

/-- It shows the current function's source. -/
theorem invoke_ghidra_of_source {function source : String}
    (h : currentFunction t (t.host history) = .ok function)
    (hsource : t.decompiled.get? function = some source) :
    (d.invoke (t.host history) name argument interactive).answer = .ok .completed ∧
      (d.invoke (t.host history) name argument interactive).output =
        source.textLines.map .plain := by
  have hshow : showSource t d.memory function ["$pc"] =
      telling d.memory (source.textLines.map .plain) ["$pc"] := by
    rw [showSource, hsource]
  obtain ⟨-, hanswer, houtput⟩ := invoke_ghidra history interactive hfind hfile hargument
    ((ghidra_body_of_current d.memory rfl h).trans hshow)
  exact ⟨hanswer, houtput.trans (List.append_nil _)⟩

/-- If there is no source, it fails. -/
theorem invoke_ghidra_of_no_source {function : String}
    (h : currentFunction t (t.host history) = .ok function)
    (hsource : t.decompiled.get? function = none) :
    FailsWith d (ghidra t) (.ofText ("Could not find function " ++ function))
      (d.invoke (t.host history) name argument interactive) := by
  have hshow : showSource t d.memory function ["$pc"] =
      failing d.memory (.ofText ("Could not find function " ++ function)) ["$pc"] := by
    rw [showSource, hsource]
    rfl
  obtain ⟨-, hanswer, houtput⟩ := invoke_ghidra history interactive hfind hfile hargument
    ((ghidra_body_of_current d.memory rfl h).trans hshow)
  exact ⟨hanswer, houtput⟩

/-- Where a file is loaded, `ghidra` without an argument shows the source of the function at the
nearest symbol that is not behind the program counter. It fails, and shows no source, if there is
no such symbol, if the program counter has no value, or if the function has no source. -/
theorem ghidra_shows_the_current_function :
    ShowsCurrentFunction t d (d.invoke (t.host history) name argument interactive) where
  started := (invoke_ghidra history interactive hfind hfile hargument rfl).1
  located := by
    intro pc hpc
    rcases nearestSymbol?_of_evaluate_pc t hpc with ⟨function, -, hnearest⟩ | ⟨-, hfront⟩
    · exact .inl ⟨function, hnearest, fun other hother => hnearest.unique hother⟩
    · exact .inr hfront
  shown := by
    intro pc function source hpc hnearest hsource
    have hcurrent := currentFunction_of_nearest t history hpc hnearest
    exact invoke_ghidra_of_source history interactive hfind hfile hargument hcurrent hsource
  sourceless := by
    intro pc function hpc hnearest hsource
    have hcurrent := currentFunction_of_nearest t history hpc hnearest
    exact invoke_ghidra_of_no_source history interactive hfind hfile hargument hcurrent hsource
  nowhere := by
    intro pc hpc hfront
    have hcurrent := currentFunction_of_inFront t history hpc hfront
    exact invoke_ghidra_of_error history interactive hfind hfile hargument hcurrent
  unlocated := by
    intro e hpc
    have hcurrent := currentFunction_of_error t history hpc
    exact invoke_ghidra_of_error history interactive hfind hfile hargument hcurrent

end Invoke

/-- A target whose symbols leave gaps and share addresses, and whose program counter goes by the
name of its architecture. -/
def gappy : Target where
  session := { fileLoaded := true, processAlive := true }
  registers := .ofList [("rip", 0x2010)]
  symbols := .ofList [("after", 0x4000), ("alias", 0x2000), ("entry", 0x1000), ("work", 0x2000)]
  decompiled := .ofList [("alias", "alias:"), ("work", "work:\n  ret\n")]

/-- A dispatcher that knows the command `ghidra` for it. -/
def decompiling : Dispatcher Nat :=
  { registry := Registry.afterRegisters {} [ghidra gappy], memory := 0 }

/-- Of the two names for the nearest address the last in order counts. -/
theorem last_name_at_the_nearest_address_is_shown :
    (decompiling.invoke (gappy.host []) "ghidra" " " true).answer = .ok .completed ∧
      (decompiling.invoke (gappy.host []) "ghidra" " " true).output =
        [.plain "work:", .plain "  ret"] := by
  have hcontract : ShowsCurrentFunction gappy decompiling
      (decompiling.invoke (gappy.host []) "ghidra" " " true) :=
    ghidra_shows_the_current_function [] true rfl rfl (.inl (by decide))
  have hpc : gappy.evaluate "$pc" = .ok 0x2010 := by decide +kernel
  have hnearest : Nearest gappy.symbols.toList 0x2010 ("work", 0x2000) :=
    ⟨by decide +kernel, by decide +kernel, by decide +kernel, by decide +kernel⟩
  exact hcontract.shown _ _ "work:\n  ret\n" hpc hnearest (by decide +kernel)

end Shell

end DebugShell
