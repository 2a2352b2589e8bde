-- SUMMARY: The double nearest to a decimal number, and the fewest digits that read back as it.

/-!
# Shortest decimals

A decimal number is read as the nearest double, ties going to the even one. A double is written with the fewest
digits that are read as the same double; of several, the nearest. All arithmetic is exact.
-/

namespace Unbundle.Decimal

/-- The number `num / den`. -/
structure Ratio where
  num : Nat
  den : Nat
deriving DecidableEq, Repr, Inhabited

namespace Ratio

/-- The number `mantissa * base ^ exponent`. -/
def scaled (mantissa base : Nat) (exponent : Int) : Ratio :=
  if 0 ≤ exponent then ⟨mantissa * Nat.pow base exponent.toNat, 1⟩
  else ⟨mantissa, Nat.pow base exponent.natAbs⟩

def le (a b : Ratio) : Bool := a.num * b.den ≤ b.num * a.den

def lt (a b : Ratio) : Bool := a.num * b.den < b.num * a.den

/-- The quotient `a / b`, rounded down. -/
def floorDiv (a b : Ratio) : Nat := (a.num * b.den) / (a.den * b.num)

/-- The distance of two numbers. -/
def distance (a b : Ratio) : Ratio :=
  let x := a.num * b.den
  let y := b.num * a.den
  ⟨max x y - min x y, a.den * b.den⟩

/-- The nearest natural number, a half going to the even one. -/
def roundEven (a : Ratio) : Nat :=
  let q := a.num / a.den
  let r := 2 * (a.num % a.den)
  if r < a.den then q
  else if a.den < r then q + 1
  else if q % 2 == 0 then q else q + 1

def mulPow2 (a : Ratio) (e : Int) : Ratio :=
  if 0 ≤ e then ⟨a.num * Nat.pow 2 e.toNat, a.den⟩
  else ⟨a.num, a.den * Nat.pow 2 e.natAbs⟩

end Ratio

/-- The double `mantissa * 2 ^ exponent`. -/
structure Binary where
  mantissa : Nat
  exponent : Int
deriving DecidableEq, Repr, Inhabited

namespace Binary

/-- The exponent of the least double. -/
def leastExponent : Int := -1074

/-- The double nearest to a positive number; `none` if it is too large. -/
def nearest? (a : Ratio) : Option Binary :=
  let guess : Int := (a.num.log2 : Int) - (a.den.log2 : Int) - 52
  let guess := if (a.mulPow2 (-guess)).lt ⟨Nat.pow 2 52, 1⟩ then guess - 1 else guess
  let e := max guess leastExponent
  let m := (a.mulPow2 (-e)).roundEven
  let (m, e) := if m == Nat.pow 2 53 then (Nat.pow 2 52, e + 1) else (m, e)
  if 971 < e then none else some ⟨m, e⟩

def value (b : Binary) : Ratio := .scaled b.mantissa 2 b.exponent

/-- The end of the numbers below that are read as this double. -/
def lower (b : Binary) : Ratio :=
  if b.mantissa == Nat.pow 2 52 && leastExponent < b.exponent then
    .scaled (4 * b.mantissa - 1) 2 (b.exponent - 2)
  else .scaled (2 * b.mantissa - 1) 2 (b.exponent - 1)

/-- The end of the numbers above that are read as this double. -/
def upper (b : Binary) : Ratio := .scaled (2 * b.mantissa + 1) 2 (b.exponent - 1)

/-- The number is read as this double. -/
def reads (b : Binary) (a : Ratio) : Bool :=
  if b.mantissa % 2 == 0 then b.lower.le a && a.le b.upper else b.lower.lt a && a.lt b.upper

/-- The digits of a multiple of `10 ^ exponent` next to the double that is read as it. -/
def onGrid? (b : Binary) (exponent : Int) : Option Nat :=
  let v := b.value
  let below := v.floorDiv (.scaled 1 10 exponent)
  let at_ (n : Nat) : Ratio := .scaled n 10 exponent
  match b.reads (at_ below), b.reads (at_ (below + 1)) with
  | true, true => if (v.distance (at_ below)).le (v.distance (at_ (below + 1))) then some below
      else some (below + 1)
  | true, false => some below
  | false, true => some (below + 1)
  | false, false => none

/-- The exponent of the first digit of a positive number, or one less. -/
def firstExponent (b : Binary) : Int :=
  let v := b.value
  let guess : Int := ((Nat.toDigits 10 v.num).length : Int) - (Nat.toDigits 10 v.den).length
  if (Ratio.scaled 1 10 guess).le v then guess else guess - 1

/-- The fewest digits, with the exponent of the last one. -/
def shortest (b : Binary) : Nat × Int :=
  let first := b.firstExponent
  let found := (List.range 18).findSome? fun (k : Nat) =>
    let exponent := first - (k : Int)
    (b.onGrid? exponent).map fun digits => (digits, exponent)
  found.getD (b.mantissa, 0)

end Binary

/-- A number in positional notation, with at least one place after the point. -/
def positional (digits : Nat) (exponent : Int) : String :=
  let text := Nat.toDigits 10 digits
  if 0 ≤ exponent then String.ofList (text ++ List.replicate exponent.toNat '0') ++ ".0"
  else
    let places := exponent.natAbs
    let padded := List.replicate (places + 1 - text.length) '0' ++ text
    String.ofList (padded.take (padded.length - places)) ++ "." ++
      String.ofList (padded.drop (padded.length - places))

/-- The text of the double nearest to `mantissa * 10 ^ exponent`; `none` if that is too large. -/
def text? (mantissa : Nat) (exponent : Int) : Option String :=
  let size : Int := (Nat.toDigits 10 mantissa).length
  if mantissa == 0 || exponent + size < -400 then some "0.0"
  else if 400 < exponent + size then none
  else (Binary.nearest? (.scaled mantissa 10 exponent)).map fun b =>
    if b.mantissa == 0 then "0.0"
    else
      let (digits, exponent) := b.shortest
      positional digits exponent

end Unbundle.Decimal
