import ScriptBinding.Numeral.Binary64
import ScriptBinding.Text.CodePoint

/-!
The shortest decimal that reads back to a given binary number, and how it is written: positionally
from 10^-4 to below 10^16, otherwise with a signed exponent of at least two digits. All arithmetic
is exact.
-/
namespace ScriptBinding

/-- `digits * 10 ^ exponent`. -/
structure Decimal where
  digits : Nat
  exponent : Int

namespace Decimal

/-- Compares `a * 10 ^ i` with `n * 2 ^ j`. -/
def compareScaled (a : Nat) (i : Int) (n : Nat) (j : Int) : Ordering :=
  compare (a * wholePower 10 i * wholePower 2 (-j)) (n * wholePower 2 j * wholePower 10 (-i))

/-- The decimal lies among the reals that round to `mantissa * 2 ^ exponent`: up to halfway to each
neighbour, the ends included for an even mantissa. Below a power of two the gap is half as wide. -/
def readsBack (d : Decimal) (mantissa : Nat) (exponent : Int) : Bool :=
  let narrow := mantissa = Binary64.leastMantissa && exponent > -1074
  let low :=
    compareScaled d.digits d.exponent (4 * mantissa - if narrow then 1 else 2) (exponent - 2)
  let high := compareScaled d.digits d.exponent (4 * mantissa + 2) (exponent - 2)
  let closed := mantissa % 2 = 0
  (low = .gt || (closed && low = .eq)) && (high = .lt || (closed && high = .eq))

/-- The least power of ten above `mantissa * 2 ^ exponent`, looked for upwards from `start`. -/
def magnitude (mantissa : Nat) (exponent : Int) (start : Int) : Nat → Int
  | 0 => start
  | steps + 1 =>
    if compareScaled 1 start mantissa exponent = .gt then start
    else magnitude mantissa exponent (start + 1) steps

/-- The multiple of `10 ^ place` nearest to the value that reads back, if one of its two neighbours
there does; of two equally near the even one. -/
def onGrid? (mantissa : Nat) (exponent : Int) (place : Int) : Option Decimal :=
  let num := mantissa * wholePower 2 exponent * wholePower 10 (-place)
  let den := wholePower 2 (-exponent) * wholePower 10 place
  let below : Decimal := ⟨num / den, place⟩
  let above : Decimal := ⟨num / den + 1, place⟩
  match below.readsBack mantissa exponent, above.readsBack mantissa exponent with
  | false, false => none
  | true, false => some below
  | false, true => some above
  | true, true => some ⟨Binary64.roundedQuotient num den, place⟩

def stripZeros (d : Decimal) : Nat → Decimal
  | 0 => d
  | steps + 1 =>
    if d.digits ≠ 0 && d.digits % 10 = 0 then stripZeros ⟨d.digits / 10, d.exponent + 1⟩ steps
    else d

/-- The exact value, written with a power of ten. -/
def exact (mantissa : Nat) (exponent : Int) : Decimal :=
  ⟨mantissa * wholePower 2 exponent * wholePower 5 (-exponent), min exponent 0⟩

/-- The shortest decimal that reads back, the nearest of those. Seventeen digits are enough. -/
def shortest (mantissa : Nat) (exponent : Int) : Decimal :=
  let bits : Int := (Nat.log2 mantissa : Int) + exponent
  let top := magnitude mantissa exponent ((bits * 30103).fdiv 100000 - 1) 5
  let found := (List.range 17).findSome? fun n => onGrid? mantissa exponent (top - (n + 1 : Nat))
  (found.getD (exact mantissa exponent)).stripZeros 20

/-- Positional where the leading digit stands for 10^-4 to 10^15, otherwise scientific. -/
def written (d : Decimal) : Text :=
  let digits := Text.decimal d.digits
  let point : Int := digits.length + d.exponent
  let zeros (n : Int) : Text := List.replicate n.toNat '0'
  if -4 < point && point ≤ 16 then
    if point ≤ 0 then "0." ++ zeros (-point) ++ digits
    else if point ≥ digits.length then digits ++ zeros d.exponent ++ ".0"
    else digits.take point.toNat ++ "." ++ digits.drop point.toNat
  else
    let power := point - 1
    let fraction : Text := if digits.length > 1 then "." ++ digits.drop 1 else []
    let sign : Text := if power < 0 then "-" else "+"
    let size := Text.decimal power.natAbs
    digits.take 1 ++ fraction ++ "e" ++ sign ++ (if size.length < 2 then "0" ++ size else size)

end Decimal

/-- The text of a number: its shortest decimal, always with a point or an exponent. -/
def Binary64.written : Binary64 → Text
  | nan => "NaN"
  | infinite negative => (if negative then "-" else "") ++ ("Infinity" : Text)
  | finite negative mantissa exponent =>
    let magnitude : Text :=
      if mantissa = 0 then "0.0" else (Decimal.shortest mantissa exponent).written
    if negative then "-" ++ magnitude else magnitude

end ScriptBinding
