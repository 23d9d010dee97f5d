import SqlBuilder.Double.Shortest

/-!
# Texts of doubles

One writer for all decimal texts of a double, driven by a record of choices.

* `Layout` : the choices, among them which powers of ten are written positionally;
* `Layout.write` : the text of a double under those choices;
* `Layout.plain` : never an exponent, and whole numbers without a fraction;
* `Layout.json` : the number form of JSON texts, where values without a numeral become `null`;
* `Layout.structural` : the form used by the structural notation of expressions.
-/

namespace SqlBuilder

/-- The choices that fix the text of a double. -/
structure Layout where
  tie : Tie
  /-- Whether a value whose leading digit stands at this power of ten is written positionally. -/
  positional : Int → Bool
  /-- Whether a whole number written positionally keeps the fraction `.0`. -/
  wholeFraction : Bool
  /-- Whether a positive exponent is written with a plus sign. -/
  plusSign : Bool
  nan : String
  infinity : Bool → String

namespace Layout

/-- The sign of a negative value. -/
def sign (negative : Bool) : List Char := if negative then ['-'] else []

/-- Digits with a point after the first `point` of them, padded with zeros on either side. -/
def placePoint (wholeFraction : Bool) (digits : List Char) (point : Int) : List Char :=
  if point ≤ 0 then '0' :: '.' :: (List.replicate (-point).toNat '0' ++ digits)
  else
    let p := point.toNat
    if digits.length ≤ p then
      digits ++ List.replicate (p - digits.length) '0' ++ if wholeFraction then ['.', '0'] else []
    else digits.take p ++ '.' :: digits.drop p

/-- Digits with a point after the first, followed by the exponent of that first digit. -/
def placeExponent (plusSign : Bool) (digits : List Char) (exponent : Int) : List Char :=
  let mantissa := match digits with
    | [] => []
    | [d] => [d]
    | d :: ds => d :: '.' :: ds
  let mark := if exponent < 0 then ['-'] else if plusSign then ['+'] else []
  mantissa ++ 'e' :: (mark ++ Nat.toDigits 10 exponent.natAbs)

/-- The text of a double. -/
def write (l : Layout) (d : Double) : List Char :=
  match d.view with
  | .nan => l.nan.toList
  | .infinite negative => (l.infinity negative).toList
  | .finite negative 0 _ => sign negative ++ '0' :: if l.wholeFraction then ['.', '0'] else []
  | .finite negative significand exponent =>
    let decimal := Double.shortest l.tie significand exponent
    let leading := decimal.point - 1
    sign negative ++
      if l.positional leading then placePoint l.wholeFraction decimal.digits decimal.point
      else placeExponent l.plusSign decimal.digits leading

/-- Plain notation: no exponent however large or small the value, ties go up. -/
def plain : Layout where
  tie := .up
  positional := fun _ => true
  wholeFraction := false
  plusSign := false
  nan := "NaN"
  infinity := fun negative => if negative then "-inf" else "inf"

/-- The number form of JSON texts: positional from `10 ^ -5` up to below `10 ^ 16`, ties to even;
what has no numeral is `null`. -/
def json : Layout where
  tie := .even
  positional := fun e => decide (-5 ≤ e) && decide (e < 16)
  wholeFraction := true
  plusSign := true
  nan := "null"
  infinity := fun _ => "null"

/-- The number form of structural notation: positional from `10 ^ -4` up to below `10 ^ 16`. -/
def structural : Layout where
  tie := .up
  positional := fun e => decide (-4 ≤ e) && decide (e < 16)
  wholeFraction := true
  plusSign := false
  nan := "NaN"
  infinity := fun negative => if negative then "-inf" else "inf"

end Layout

end SqlBuilder
