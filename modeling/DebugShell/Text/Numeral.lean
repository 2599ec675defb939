/-!
# Numerals

Reading and writing natural numbers in base ten and sixteen. A written number has lower-case
digits and no leading zero; hexadecimal ones are marked `0x`. A read number may have any number of
leading zeros and one leading `+`, and is refused when it reaches the stated bound.
-/

namespace DebugShell.Numeral

/-- The value of a digit, in either case, if it is a digit of the base. -/
def digit? (base : Nat) (c : Char) : Option Nat :=
  let n := c.toNat
  let value :=
    if 48 ≤ n ∧ n ≤ 57 then some (n - 48)
    else if 97 ≤ n ∧ n ≤ 122 then some (n - 87)
    else if 65 ≤ n ∧ n ≤ 90 then some (n - 55)
    else none
  value.filter (· < base)

/-- Whether a character is a digit of the base. -/
def isDigit (base : Nat) (c : Char) : Bool :=
  (digit? base c).isSome

/-- The value of the digits `cs` written after digits of value `acc`. -/
def valueFrom (base acc : Nat) : List Char → Option Nat
  | [] => some acc
  | c :: cs => (digit? base c).bind fun d => valueFrom base (acc * base + d) cs

/-- The value of a nonempty run of digits. -/
def digits? (base : Nat) (cs : List Char) : Option Nat :=
  if cs = [] then none else valueFrom base 0 cs

/-- The number that a text denotes, if it is below the bound: digits, with at most one `+` in
front. -/
def unsigned? (base bound : Nat) (cs : List Char) : Option Nat :=
  let digits := match cs with
    | '+' :: rest => rest
    | _ => cs
  (digits? base digits).filter (· < bound)

/-- The text after a hexadecimal mark `0x` or `0X`, if it has one. -/
def afterHexMark? : List Char → Option (List Char)
  | '0' :: 'x' :: rest => some rest
  | '0' :: 'X' :: rest => some rest
  | _ => none

/-- The hexadecimal numeral of a number, marked `0x`. -/
def hex (n : Nat) : String :=
  "0x" ++ String.ofList (Nat.toDigits 16 n)

/-- The hexadecimal numeral of an integer, with a minus sign before the mark. -/
def signedHex (v : Int) : String :=
  if v < 0 then "-" ++ hex v.natAbs else hex v.natAbs

end DebugShell.Numeral
