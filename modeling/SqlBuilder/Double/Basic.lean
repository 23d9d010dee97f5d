/-!
# Double-precision numbers

A floating-point value is carried by its 64 bits, so that equality, storage and hashing never round.
Everything said about its value goes through `Double.view`, which reads the bits as
`significand · 2 ^ exponent`, and everything computed is rounded once, by `Double.ofRatio`.

* `Double.view` : what the bits denote;
* `Double.ofRatio` : the double nearest to a quotient of natural numbers, an exact half going to the
  even neighbour;
* `Double.times`, `Double.dividedBy` : correctly rounded product and quotient;
* `Double.ofSingle` : the value of a 32-bit float, which a double always holds exactly.
-/

namespace SqlBuilder

/-- A floating-point value by the 64 bits of its binary interchange form. -/
structure Double where
  bits : UInt64
  deriving DecidableEq, Repr

namespace Double

/-- What the bits of a double denote. -/
inductive View where
  | nan
  | infinite (negative : Bool)
  | finite (negative : Bool) (significand : Nat) (exponent : Int)
  deriving DecidableEq, Repr

/-- The sign bit, then eleven bits of exponent, then fifty-two bits of fraction. -/
def view (d : Double) : View :=
  let n := d.bits.toNat
  let negative := decide (Nat.pow 2 63 ≤ n)
  let field : Nat := n / Nat.pow 2 52 % Nat.pow 2 11
  let fraction : Nat := n % Nat.pow 2 52
  if field = 2047 then
    if fraction = 0 then .infinite negative else .nan
  else if field = 0 then .finite negative fraction (-1074)
  else .finite negative (Nat.pow 2 52 + fraction) ((field : Int) - 1075)

/-- Not-a-number is the only value that differs from itself. -/
def isNaN (d : Double) : Bool := d.view = .nan

/-- The double with a given sign and a given magnitude, the remaining 63 bits. -/
def ofMagnitude (negative : Bool) (magnitude : Nat) : Double :=
  ⟨UInt64.ofNat (magnitude + if negative then Nat.pow 2 63 else 0)⟩

/-- The magnitude of infinity, one more than that of the largest finite double. -/
def infinityMagnitude : Nat := 2047 * Nat.pow 2 52

/-- The canonical not-a-number. -/
def nan : Double := ⟨0x7ff8000000000000⟩

/-- The value with the other sign. -/
def negate (d : Double) : Double := ⟨d.bits ^^^ 0x8000000000000000⟩

/-! ### Rounding -/

/-- The natural number nearest to `num / den`, an exact half going to the even neighbour. -/
def roundHalfEven (num den : Nat) : Nat :=
  let q := num / den
  let r := num % den
  if 2 * r < den then q else if den < 2 * r then q + 1 else q + q % 2

/-- The numerator and denominator of `num / (den · 2 ^ e)`. -/
def scaleDown (num den : Nat) (e : Int) : Nat × Nat :=
  (num * Nat.pow 2 (-e).toNat, den * Nat.pow 2 e.toNat)

/-- The exponent of the leading bit of `num / den`. -/
def leadingExponent (num den : Nat) : Int :=
  let k := (Nat.log2 num : Int) - Nat.log2 den
  let (n, d) := scaleDown num den k
  if d ≤ n then k else k - 1

/-- The magnitude of the double nearest to `num / den`.  The significand takes fifty-three bits unless
that would need an exponent below the smallest one; a carry out of it moves into the exponent. -/
def magnitudeOfRatio (num den : Nat) : Nat :=
  if num = 0 then 0
  else
    let e := max (leadingExponent num den - 52) (-1074)
    let (n, d) := scaleDown num den e
    min ((e + 1074).toNat * Nat.pow 2 52 + roundHalfEven n d) infinityMagnitude

/-- The double nearest to `num / den` with the given sign. -/
def ofRatio (negative : Bool) (num den : Nat) : Double :=
  ofMagnitude negative (magnitudeOfRatio num den)

/-- The infinity of a sign. -/
def infinity (negative : Bool) : Double := ofMagnitude negative infinityMagnitude

/-- The double nearest to `n · 10 ^ e`.  A value whose leading digit lies hundreds of places beyond
those of every double is infinity or zero, so that no larger power is ever computed. -/
def ofScaled (negative : Bool) (n : Nat) (e : Int) : Double :=
  let leading := (Nat.toDigits 10 n).length + e
  if n = 0 ∨ leading < -400 then ofMagnitude negative 0
  else if 400 < leading then infinity negative
  else ofRatio negative (n * Nat.pow 10 e.toNat) (Nat.pow 10 (-e).toNat)

/-- Whether the value is an infinity. -/
def isInfinite (d : Double) : Bool :=
  match d.view with
  | .infinite _ => true
  | _ => false

/-- Whether the value is a zero of either sign. -/
def isZero (d : Double) : Bool :=
  match d.view with
  | .finite _ 0 _ => true
  | _ => false

/-- The correctly rounded product of two finite doubles; not-a-number otherwise. -/
def times (a b : Double) : Double :=
  match a.view, b.view with
  | .finite s m e, .finite t n f =>
    ofRatio (s != t) (m * n * Nat.pow 2 (e + f).toNat) (Nat.pow 2 (-(e + f)).toNat)
  | _, _ => nan

/-- The correctly rounded quotient of two finite doubles; not-a-number otherwise. -/
def dividedBy (a b : Double) : Double :=
  match a.view, b.view with
  | .finite s m e, .finite t n f =>
    if n = 0 then nan
    else ofRatio (s != t) (m * Nat.pow 2 (e - f).toNat) (n * Nat.pow 2 (f - e).toNat)
  | _, _ => nan

/-! ### Single-precision values -/

/-- The value of a 32-bit float: a sign bit, eight bits of exponent and twenty-three of fraction. -/
def ofSingle (bits : UInt32) : Double :=
  let n := bits.toNat
  let negative := decide (Nat.pow 2 31 ≤ n)
  let field : Nat := n / Nat.pow 2 23 % Nat.pow 2 8
  let fraction : Nat := n % Nat.pow 2 23
  if field = 255 then
    if fraction = 0 then infinity negative else nan
  else if field = 0 then ofRatio negative fraction (Nat.pow 2 149)
  else ofRatio negative ((Nat.pow 2 23 + fraction) * Nat.pow 2 field) (Nat.pow 2 150)

end Double

end SqlBuilder
