/-!
# Shortest decimals

The decimal numeral with the fewest digits that reads back as a given floating-point number, and of
several such the one nearest to it. The number is taken apart into `m * 2 ^ q`; the reals that round
to it form an interval around it, whose ends belong to it when `m` is even. For each number of
digits the two points of the decimal grid next to the number are tried.
-/

namespace DebugShell.Decimal

/-- A number with the ends of the interval of reals that round to it, all three as numerators over
one denominator. -/
structure Neighbourhood where
  /-- The lower end. -/
  low : Nat
  /-- The number. -/
  value : Nat
  /-- The upper end. -/
  high : Nat
  /-- The denominator. -/
  denominator : Nat
  /-- Whether the ends round to the number. -/
  closed : Bool

/-- The neighbourhood of `m * 2 ^ q`, where `m` has at most 53 bits. Below a power of two the
numbers are half as far apart. -/
def Neighbourhood.of (m : Nat) (q : Int) : Neighbourhood :=
  let unit := Nat.pow 2 (q - 2).toNat
  let below := if m = Nat.pow 2 52 ∧ -1074 < q then 1 else 2
  ⟨(4 * m - below) * unit, 4 * m * unit, (4 * m + 2) * unit, Nat.pow 2 (2 - q).toNat, m % 2 = 0⟩

/-- Whether `n * 10 ^ k` rounds to the number. -/
def Neighbourhood.contains (h : Neighbourhood) (n : Nat) (k : Int) : Bool :=
  let point := n * Nat.pow 10 k.toNat * h.denominator
  let scale := Nat.pow 10 (-k).toNat
  if h.closed then h.low * scale ≤ point && point ≤ h.high * scale
  else h.low * scale < point && point < h.high * scale

/-- The least `j` with `numerator * 10 ^ j ≥ denominator`, for a numerator that is smaller. -/
def zerosBefore (numerator denominator : Nat) : Nat → Nat
  | 0 => 0
  | fuel + 1 =>
    if denominator ≤ numerator then 0
    else zerosBefore (numerator * 10) denominator fuel + 1

/-- The exponent of the greatest power of ten that is not above the number. -/
def Neighbourhood.exponent (h : Neighbourhood) : Int :=
  if h.denominator ≤ h.value then (Nat.toDigits 10 (h.value / h.denominator)).length - 1
  else -zerosBefore h.value h.denominator 400

/-- The point of the grid with steps `10 ^ k` that rounds to the number and is next to it. -/
def Neighbourhood.onGrid? (h : Neighbourhood) (k : Int) : Option Nat :=
  let numerator := h.value * Nat.pow 10 (-k).toNat
  let step := h.denominator * Nat.pow 10 k.toNat
  let n := numerator / step
  let rest := numerator % step
  match h.contains n k, h.contains (n + 1) k with
  | true, true =>
    if 2 * rest < step || (2 * rest = step && n % 2 = 0) then some n else some (n + 1)
  | true, false => some n
  | false, true => some (n + 1)
  | false, false => none

/-- Digits with their trailing zeros counted into the exponent. -/
def withoutZeros (n : Nat) (k : Int) : Nat → Nat × Int
  | 0 => (n, k)
  | fuel + 1 => if n % 10 = 0 then withoutZeros (n / 10) (k + 1) fuel else (n, k)

/-- The shortest `n * 10 ^ k` that reads back, for a positive number. -/
def shortest (h : Neighbourhood) : Nat × Int :=
  let e := h.exponent
  let grid (d : Nat) : Option (Nat × Int) := (h.onGrid? (e - d)).map fun n => (n, e - d)
  match (List.range 17).findSome? grid with
  | some (n, k) => withoutZeros n k 20
  | none => (0, 0)

/-- The numeral `n * 10 ^ k`: positional from `10 ^ -5` up to `10 ^ 16` and with at least one digit
after the point, else with an exponent. -/
def numeral (n : Nat) (k : Int) : String :=
  let digits := Nat.toDigits 10 n
  let size : Int := digits.length
  let point := size + k
  if 0 ≤ k ∧ point ≤ 16 then
    String.ofList (digits ++ List.replicate k.toNat '0') ++ ".0"
  else if 0 < point ∧ point ≤ 16 then
    String.ofList (digits.take point.toNat) ++ "." ++ String.ofList (digits.drop point.toNat)
  else if -5 < point ∧ point ≤ 0 then
    "0." ++ String.ofList (List.replicate (-point).toNat '0' ++ digits)
  else
    let mantissa := match digits with
      | [d] => d.toString
      | d :: rest => d.toString ++ "." ++ String.ofList rest
      | [] => ""
    s!"{mantissa}e{point - 1}"

/-- The shortest numeral of a floating-point number that is neither infinite nor undefined. -/
def ofFloat (x : Float) : String :=
  let bits := x.toBits.toNat
  let sign := if bits < Nat.pow 2 63 then "" else "-"
  let exponent : Nat := bits / Nat.pow 2 52 % Nat.pow 2 11
  let fraction : Nat := bits % Nat.pow 2 52
  if exponent = 0 ∧ fraction = 0 then sign ++ "0.0"
  else
    let h :=
      if exponent = 0 then Neighbourhood.of fraction (-1074)
      else Neighbourhood.of (Nat.pow 2 52 + fraction) (Int.ofNat exponent - 1075)
    let (n, k) := shortest h
    sign ++ numeral n k

end DebugShell.Decimal
