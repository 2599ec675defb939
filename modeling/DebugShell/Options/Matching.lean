import DebugShell.Options.Error
import DebugShell.Text.Similarity

/-!
# Matching the words of a command line with a declaration

Words are read from left to right. `--name`, `--name=value`, `-n`, `-nvalue`, `-n=value` and bundles
`-abc` give named arguments; any other word is the value of the option before it or the next
positional argument, and so is everything after `--`. An option's value is held back until the next
argument begins, so that an argument without a value is reported then.
-/

namespace DebugShell.Options

/-- An argument that was given, with its values and how often it was given. -/
structure Match where
  /-- The argument's id. -/
  id : String
  /-- Its values. -/
  values : List String := []
  /-- How often it was given. -/
  times : Nat := 1

/-- The arguments that were given, in the order in which they were first given. -/
abbrev Matches := List Match

namespace Matches

/-- The match of an argument. -/
def find? (m : Matches) (id : String) : Option Match :=
  List.find? (fun x : Match => x.id == id) m

/-- Whether an argument was given. -/
def has (m : Matches) (id : String) : Bool :=
  (m.find? id).isSome

/-- The value of an argument that sets one. -/
def value? (m : Matches) (id : String) : Option String :=
  (m.find? id).bind fun x => x.values.head?

/-- The values of an argument that adds them up. -/
def values (m : Matches) (id : String) : List String :=
  ((m.find? id).map (·.values)).getD []

/-- The ids of the arguments that were given. -/
def ids (m : Matches) : List String :=
  m.map fun x : Match => x.id

/-- The matches without an argument. -/
def without (m : Matches) (id : String) : Matches :=
  m.filter fun x : Match => x.id != id

end Matches

/-- How far the words have been read. -/
structure Progress where
  /-- The arguments given so far. -/
  found : Matches := []
  /-- The argument that began last, with the values read for it. -/
  pending : Option (Arg × List String) := none
  /-- The option whose value is expected next. -/
  awaited : Option Arg := none
  /-- The number of positional arguments that began. -/
  places : Nat := 0
  /-- Whether `--` was read. -/
  trailing : Bool := false

namespace Progress

/-- Take note of an argument with the values read for it. The progress is told also where the
argument is not accepted. -/
def accept (p : Progress) (arg : Arg) (values : List String) : Progress × Option Error :=
  match arg.action with
  | .set =>
    if values = [] then (p, some (.noValue arg))
    else if p.found.has arg.id then
      ({ p with found := p.found.without arg.id }, some (.repeated arg))
    else
      ({ p with found := p.found ++ [⟨arg.id, values, 1⟩] },
        if arg.refusesEmpty && values.contains "" then some (.noValue arg) else none)
  | .append =>
    if values = [] then (p, some (.noValue arg))
    else
      match p.found.find? arg.id with
      | some _ =>
        ({ p with found := p.found.map fun x : Match =>
            if x.id == arg.id then { x with values := x.values ++ values } else x }, none)
      | none => ({ p with found := p.found ++ [⟨arg.id, values, 1⟩] }, none)
  | .turnOn =>
    if p.found.has arg.id then
      ({ p with found := p.found.without arg.id }, some (.repeated arg))
    else ({ p with found := p.found ++ [⟨arg.id, [], 1⟩] }, none)
  | .count =>
    let times := ((p.found.find? arg.id).map (·.times)).getD 0
    ({ p with found := p.found.without arg.id ++ [⟨arg.id, [], times + 1⟩] }, none)
  | .help => (p, some .helpRequested)
  | .version => (p, some .versionRequested)

/-- Take note of the argument that began last. -/
def settle (p : Progress) : Progress × Option Error :=
  match p.pending with
  | some (arg, values) => accept { p with pending := none } arg values
  | none => (p, none)

/-- Take note of the argument that began last, or fail. -/
def settled (p : Progress) : Except Error Progress :=
  match p.settle with
  | (p, none) => .ok p
  | (_, some e) => .error e

/-- Take note of the argument that began last and then of one that is complete. -/
def give (p : Progress) (arg : Arg) (values : List String) : Except Error Progress := do
  match (← p.settled).accept arg values with
  | (p, none) => return { p with awaited := none }
  | (_, some e) => .error e

/-- Begin an option whose value is the next word. -/
def await (p : Progress) (arg : Arg) : Except Error Progress := do
  return { ← p.settled with pending := some (arg, []), awaited := some arg }

/-- The arguments given so far that do not have to be given. -/
def usedIds (s : Spec) (p : Progress) : List String :=
  p.found.ids.filter fun id => !(s.positionals.any fun a => a.id == id && a.required)

end Progress

/-- Whether the text after a dash makes a negative number: digits, with at most one dot and one
exponent mark after the first of them, the mark not at the end. -/
def isNumeral (cs : List Char) : Bool :=
  let rec go (first dot mark : Bool) : List Char → Bool
    | [] => true
    | c :: rest =>
      if c.isDigit then go false dot mark rest
      else if c = '.' then !dot && !mark && !first && go false true mark rest
      else if c = 'e' ∨ c = 'E' then !mark && !first && rest != [] && go false dot true rest
      else false
  go true false false cs

/-- Read a word as a value: of the option that awaits one, or of the next positional argument. -/
def readValue (s : Spec) (p : Progress) (word : String) : Except Error Progress :=
  match (if p.trailing then none else p.awaited), p.pending with
  | some _, some (arg, values) =>
    .ok { p with pending := some (arg, values ++ [word]), awaited := none }
  | _, _ =>
    match s.positionals[p.places]? with
    | some arg => do
      return { ← p.settled with
        pending := some (arg, [word]), awaited := none, places := p.places + 1 }
    | none =>
      let asValue := !p.trailing && s.positionals != [] && "-".isPrefixOf word && word != "-"
      .error (.unknown word none asValue [])

/-- Read a word `--name` or `--name=value`. -/
def readLong (s : Spec) (p : Progress) (name : String) (value : Option String) :
    Except Error Progress :=
  match s.byLong? name with
  | some arg =>
    if arg.takesValue then
      match value with
      | some value => p.give arg [value]
      | none => p.await arg
    else
      match value with
      | some value => .error (.extraValue arg value (p.usedIds s ++ [arg.id]))
      | none => p.give arg []
  | none =>
    let p := p.settle.1
    let similar := (Text.mostSimilar? name.toList (s.named.filterMap (·.long))).bind s.byLong?
    let found := match similar with
      | some arg => if p.found.has arg.id then p.found else p.found ++ [⟨arg.id, [], 1⟩]
      | none => p.found
    .error (.unknown ("--" ++ name) (similar.map fun a => "--" ++ a.long.getD "")
      (similar.isNone && s.positionals != []) ({ p with found := found }.usedIds s))

/-- Read the characters of a word after one dash. -/
def readShorts (s : Spec) (p : Progress) : List Char → Except Error Progress
  | [] => .ok { p with awaited := none }
  | c :: rest =>
    match s.byShort? c with
    | some arg =>
      if arg.takesValue then
        match rest with
        | [] => p.await arg
        | '=' :: value => p.give arg [String.ofList value]
        | value => p.give arg [String.ofList value]
      else
        match p.give arg [] with
        | .ok p => readShorts s p rest
        | .error e => .error e
    | none => .error (.unknown ("-" ++ String.singleton c) none (s.positionals != []) [])

/-- Read one word. -/
def readWord (s : Spec) (p : Progress) (word : String) : Except Error Progress :=
  if p.trailing then readValue s p word
  else
    match word.toList with
    | ['-', '-'] => .ok { p with trailing := true }
    | '-' :: '-' :: rest =>
      let name := String.ofList (rest.takeWhile (· != '='))
      match rest.dropWhile (· != '=') with
      | [] => readLong s p name none
      | _ :: value => readLong s p name (some (String.ofList value))
    | '-' :: c :: rest =>
      let takesNegative (arg : Option Arg) : Bool := arg.any (·.allowsNegative)
      if (takesNegative p.awaited || takesNegative s.positionals[p.places]?) &&
          isNumeral (c :: rest) then
        readValue s p word
      else readShorts s p (c :: rest)
    | _ => readValue s p word

/-- Read words from left to right. -/
def readWords (s : Spec) (p : Progress) : List String → Except Error Progress
  | [] => .ok p
  | word :: rest =>
    match readWord s p word with
    | .ok p => readWords s p rest
    | .error e => .error e

/-- The positional arguments that are missing: those that have to be given and were not, and any
that would have to stand in front of one of these. -/
def missingArgs (s : Spec) (found : Matches) : List Arg :=
  let absent := s.positionals.filter fun a => !found.has a.id
  let afterLast := (absent.reverse.dropWhile fun a => !a.required).reverse
  afterLast

/-- The arguments that the words of a command line give, by a declaration. -/
def Spec.matchWords (s : Spec) (words : List String) : Except Error Matches := do
  let p ← (← readWords s {} words).settled
  match missingArgs s p.found with
  | [] => return p.found
  | missing => .error (.missing missing (p.found.ids ++ missing.map (·.id)))

end DebugShell.Options
