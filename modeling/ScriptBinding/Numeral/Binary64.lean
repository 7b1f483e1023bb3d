/-!
Binary floating-point numbers of 64 bits, as exact values, and the rounding of a decimal to the
nearest of them.
-/
namespace ScriptBinding

/-- A number of the format. A finite one is `mantissa * 2 ^ exponent`, where the mantissa has 53
bits, or fewer at the least exponent, -1074; zero has both parts zero. -/
inductive Binary64 where
  | nan
  | infinite (negative : Bool)
  | finite (negative : Bool) (mantissa : Nat) (exponent : Int)
deriving DecidableEq

/-- `base ^ exponent`; one for a negative exponent, whose power belongs to the other side of a
fraction. -/
def wholePower (base : Nat) (exponent : Int) : Nat := Nat.pow base exponent.toNat

namespace Binary64

def leastMantissa : Nat := Nat.pow 2 52

/-- The quotient to the nearest integer, a half to the even one. -/
def roundedQuotient (num den : Nat) : Nat :=
  let quotient := num / den
  match compare (2 * (num % den)) den with
  | .lt => quotient
  | .gt => quotient + 1
  | .eq => if quotient % 2 = 0 then quotient else quotient + 1

/-- The number with this mantissa after rounding, which may have reached 2^53. -/
def carried (negative : Bool) (mantissa : Nat) (exponent : Int) : Binary64 :=
  if mantissa = 0 then finite negative 0 0
  else
    let (m, e) :=
      if mantissa < 2 * leastMantissa then (mantissa, exponent) else (leastMantissa, exponent + 1)
    if e > 971 then infinite negative else finite negative m e

/-- The nearest number to `num / den`, both positive. -/
def ofFraction (negative : Bool) (num den : Nat) : Binary64 :=
  let estimate : Int := (Nat.log2 num : Int) - Nat.log2 den - 52
  let scaled (e : Int) : Nat × Nat := (num * wholePower 2 (-e), den * wholePower 2 e)
  let exact : Int :=
    let (n, d) := scaled estimate
    if n < d * leastMantissa then estimate - 1 else estimate
  let exponent := max exact (-1074)
  let (n, d) := scaled exponent
  carried negative (roundedQuotient n d) exponent

/-- The nearest number to `digits * 10 ^ exponent`. Far above the largest and far below the least
number, bounds on the count of decimal digits decide without the power of ten. -/
def ofDecimal (negative : Bool) (digits : Nat) (exponent : Int) : Binary64 :=
  let bits := Nat.log2 digits
  if digits = 0 then finite negative 0 0
  else if ((bits * 3 / 10 : Nat) : Int) + exponent > 310 then infinite negative
  else if ((bits * 4 / 10 + 2 : Nat) : Int) + exponent < -330 then finite negative 0 0
  else ofFraction negative (digits * wholePower 10 exponent) (wholePower 10 (-exponent))

end Binary64

end ScriptBinding
