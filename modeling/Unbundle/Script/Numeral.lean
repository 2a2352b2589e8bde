-- SUMMARY: The value of a numeric literal, as far as it tells zero and one from other numbers.

/-!
# Numerals

A numeric literal denotes the double nearest to the number it spells. `Numeral.ofText` reads the
spelled number exactly, as `mantissa * 10 ^ exponent`; `isZero` and `isOne` then decide whether the
nearest double is 0 or 1, in integer arithmetic.
-/

namespace Unbundle.Script

/-- The number `mantissa * 10 ^ exponent`. -/
structure Numeral where
  mantissa : Nat
  exponent : Int
deriving DecidableEq, Repr, Inhabited

/-- The value of a digit, for bases up to sixteen. -/
def digit? (base : Nat) (c : Char) : Option Nat :=
  let value? :=
    if '0' ≤ c && c ≤ '9' then some (c.toNat - '0'.toNat)
    else if 'a' ≤ c && c ≤ 'f' then some (c.toNat - 'a'.toNat + 10)
    else if 'A' ≤ c && c ≤ 'F' then some (c.toNat - 'A'.toNat + 10)
    else none
  value?.filter (· < base)

namespace Numeral

/-- The number that a row of digits spells; other characters are passed over. -/
def readDigits (base : Nat) (digits : List Char) : Nat :=
  digits.foldl (fun n c => match digit? base c with | some d => n * base + d | none => n) 0

/-- A decimal literal: integer part, fraction, exponent. -/
def ofDecimal (text : List Char) : Numeral :=
  let whole := text.takeWhile Char.isDigit
  let rest := text.dropWhile Char.isDigit
  let (fraction, rest) := match rest with
    | '.' :: r => (r.takeWhile Char.isDigit, r.dropWhile Char.isDigit)
    | r => ([], r)
  let exponent : Int := match rest with
    | _ :: '-' :: r => -(readDigits 10 r : Int)
    | _ :: r => readDigits 10 r
    | [] => 0
  ⟨readDigits 10 (whole ++ fraction), exponent - fraction.length⟩

/-- The number spelled by a numeric literal. Digits may be grouped by `_`; a leading zero followed
by octal digits only makes an octal number. -/
def ofText (raw : String) : Numeral :=
  match raw.toList.filter (· != '_') with
  | '0' :: 'x' :: r | '0' :: 'X' :: r => ⟨readDigits 16 r, 0⟩
  | '0' :: 'o' :: r | '0' :: 'O' :: r => ⟨readDigits 8 r, 0⟩
  | '0' :: 'b' :: r | '0' :: 'B' :: r => ⟨readDigits 2 r, 0⟩
  | '0' :: c :: r =>
    if (c :: r).all fun d => (digit? 8 d).isSome then ⟨readDigits 8 (c :: r), 0⟩
    else ofDecimal ('0' :: c :: r)
  | text => ofDecimal text

/-- The number of decimal digits. -/
def digitCount (n : Nat) : Nat :=
  (Nat.toDigits 10 n).length

/-- The nearest double is zero: the number is at most half the least positive double. -/
def isZero (n : Numeral) : Bool :=
  n.mantissa == 0 ||
    (n.exponent < 0 &&
      (digitCount n.mantissa + 400 < n.exponent.natAbs ||
        n.mantissa * Nat.pow 2 1075 ≤ Nat.pow 10 n.exponent.natAbs))

/-- The nearest double is one: the number lies between the midpoints to the neighbours of 1. -/
def isOne (n : Numeral) : Bool :=
  if n.exponent < 0 then
    let scale := n.exponent.natAbs
    scale ≤ digitCount n.mantissa + 1 &&
      (Nat.pow 2 54 - 1) * Nat.pow 10 scale ≤ n.mantissa * Nat.pow 2 54 &&
      n.mantissa * Nat.pow 2 53 ≤ (Nat.pow 2 53 + 1) * Nat.pow 10 scale
  else n.mantissa == 1 && n.exponent == 0

end Numeral
end Unbundle.Script
