import SqlBuilder.Toml.Document
import SqlBuilder.Text.Numeral

/-!
# TOML numbers, dates and times

The scalars that start with a digit or a sign.

* `number` : an integer must fit 64 bits with its sign, a float is the nearest double and must not
  exceed the largest one;
* `moment` : a date, a time of day or both, checked against the calendar and the clock.
-/

namespace SqlBuilder.Toml

/-! ### Groups of digits -/

/-- Further digits of a class; an underscore may stand between two digits and nowhere else. -/
def moreDigits (isDigit : Char → Bool) : List Char → Option (List Char × List Char)
  | [] => some ([], [])
  | ['_'] => none
  | '_' :: c :: cs =>
    if isDigit c then (moreDigits isDigit cs).map fun (ds, r) => (c :: ds, r) else none
  | c :: cs =>
    if isDigit c then (moreDigits isDigit cs).map fun (ds, r) => (c :: ds, r)
    else some ([], c :: cs)

/-- One or more digits of a class, without the underscores between them. -/
def digitGroups (isDigit : Char → Bool) : List Char → Option (List Char × List Char)
  | [] => none
  | c :: cs =>
    if isDigit c then (moreDigits isDigit cs).map fun (ds, r) => (c :: ds, r) else none

/-- Decimal digits of which only a lone one may be zero at the start. -/
def wholeDigits : List Char → Option (List Char × List Char)
  | '0' :: r => some (['0'], r)
  | cs => digitGroups Char.isDigit cs

/-! ### Numbers -/

/-- An optional sign. -/
def sign : List Char → Bool × List Char
  | '-' :: r => (true, r)
  | '+' :: r => (false, r)
  | r => (false, r)

/-- A number with its sign. -/
def signed (negative : Bool) (n : Nat) : Int := if negative then -n else n

/-- The integer that digits spell, if it takes 64 bits. -/
def integer (negative : Bool) (n : Nat) : Option Scalar :=
  let i := signed negative n
  if Text.fitsWord i then some (.integer i) else none

/-- The exponent of a float after its mark. -/
def exponentPart (cs : List Char) : Option (Int × List Char) :=
  let (negative, cs) := sign cs
  (digitGroups Char.isDigit cs).map fun (ds, r) => (signed negative (Text.ofDecimalDigits ds), r)

/-- An optional exponent. -/
def optionalExponent : List Char → Option (Int × List Char)
  | 'e' :: r | 'E' :: r => exponentPart r
  | r => some (0, r)

/-- The float of decimal digits and a power of ten.  Above the largest double there is none; far below
zero it is negative infinity. -/
def float (negative : Bool) (digits : List Char) (exponent : Int) : Option Scalar :=
  let d := Double.ofScaled negative (Text.ofDecimalDigits digits) exponent
  if d.isInfinite && !negative then none else some (.float d)

/-- A decimal number after its sign. -/
def decimalNumber (negative : Bool) (cs : List Char) : Option (Scalar × List Char) :=
  (wholeDigits cs).bind fun (whole, r) =>
    match r with
    | '.' :: r =>
      (digitGroups Char.isDigit r).bind fun (fraction, r) =>
        (optionalExponent r).bind fun (e, r) =>
          (float negative (whole ++ fraction) (e - fraction.length)).map (·, r)
    | 'e' :: _ | 'E' :: _ =>
      (optionalExponent r).bind fun (e, r) => (float negative whole e).map (·, r)
    | r => (integer negative (Text.ofDecimalDigits whole)).map (·, r)

/-- The digits of an integer to a base of at most sixteen, after its mark. -/
def basedNumber (base : Nat) (cs : List Char) : Option (Scalar × List Char) :=
  let isDigit (c : Char) : Bool := (Text.hexDigit? c).any fun d => decide (d < base)
  (digitGroups isDigit cs).bind fun (ds, r) =>
    (Text.ofDigits? base 0 ds).bind fun n => (integer false n).map (·, r)

/-- A number. -/
def number : List Char → Option (Scalar × List Char)
  | '0' :: 'x' :: r => basedNumber 16 r
  | '0' :: 'o' :: r => basedNumber 8 r
  | '0' :: 'b' :: r => basedNumber 2 r
  | cs =>
    let (negative, r) := sign cs
    match r with
    | 'i' :: 'n' :: 'f' :: r => some (.float (.infinity negative), r)
    | 'n' :: 'a' :: 'n' :: r => some (.float .nan, r)
    | r => decimalNumber negative r

/-! ### Dates and times -/

/-- A number of exactly so many digits in a range. -/
def fixedNumber (count low high : Nat) (cs : List Char) : Option (Nat × List Char) :=
  let digits := cs.take count
  let n := Text.ofDecimalDigits digits
  if digits.length = count ∧ digits.all Char.isDigit ∧ low ≤ n ∧ n ≤ high then
    some (n, cs.drop count)
  else none

/-- The text after a character, if it starts with it. -/
def afterMark (mark : Char) : List Char → Option (List Char)
  | c :: r => if c = mark then some r else none
  | [] => none

/-- The number of days of a month. -/
def daysOfMonth (year month : Nat) : Nat :=
  if month = 2 then
    if year % 4 = 0 ∧ (year % 100 ≠ 0 ∨ year % 400 = 0) then 29 else 28
  else if month = 4 ∨ month = 6 ∨ month = 9 ∨ month = 11 then 30
  else 31

/-- The text after a date. -/
def afterDate (cs : List Char) : Option (List Char) := do
  let (year, cs) ← fixedNumber 4 0 9999 cs
  let cs ← afterMark '-' cs
  let (month, cs) ← fixedNumber 2 1 12 cs
  let cs ← afterMark '-' cs
  let (_, cs) ← fixedNumber 2 1 (daysOfMonth year month) cs
  return cs

/-- The text after an optional fraction of a second. -/
def afterFraction : List Char → List Char
  | '.' :: r => if (r.takeWhile Char.isDigit).isEmpty then '.' :: r else r.dropWhile Char.isDigit
  | r => r

/-- The text after a time of day.  The sixty-first second of a minute is a leap second. -/
def afterTime (cs : List Char) : Option (List Char) := do
  let (_, cs) ← fixedNumber 2 0 23 cs
  let cs ← afterMark ':' cs
  let (_, cs) ← fixedNumber 2 0 59 cs
  let cs ← afterMark ':' cs
  let (_, cs) ← fixedNumber 2 0 60 cs
  return afterFraction cs

/-- The text after an optional offset from universal time. -/
def afterOffset : List Char → Option (List Char)
  | 'Z' :: r | 'z' :: r => some r
  | '+' :: r | '-' :: r => do
    let (_, r) ← fixedNumber 2 0 23 r
    let r ← afterMark ':' r
    let (_, r) ← fixedNumber 2 0 59 r
    return r
  | r => some r

/-- The text after a date and, where one follows, the time of day. -/
def afterDateTime (cs : List Char) : Option (List Char) :=
  (afterDate cs).bind fun r =>
    match r with
    | 'T' :: r' | 't' :: r' => (afterTime r').bind afterOffset
    | ' ' :: r' =>
      match afterTime r' with
      | some r'' => afterOffset r''
      | none => some r
    | r => some r

/-- A date, a time of day or both. -/
def moment (cs : List Char) : Option (Scalar × List Char) :=
  ((afterDateTime cs).or (afterTime cs)).map fun r =>
    (.moment (String.ofList (cs.take (cs.length - r.length))), r)

end SqlBuilder.Toml
