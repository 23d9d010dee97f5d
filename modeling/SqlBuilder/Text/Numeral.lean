/-!
# Numerals

Decimal and hexadecimal texts of natural numbers, with padding.

* `decimal` : the decimal digits of a natural number;
* `padded` : the same, filled up with zeros from the left;
* `hexByte` : two hexadecimal digits for a byte;
* `ofDigits?`, `ofHexDigits?` : the number that digits spell;
* `decimal_injective` : different numbers have different digits.
-/

namespace SqlBuilder.Text

/-- The decimal digits of a natural number. -/
def decimal (n : Nat) : List Char := Nat.toDigits 10 n

/-- The decimal digits of an integer, after a minus sign if it is negative. -/
def decimalInt : Int → List Char
  | .ofNat n => decimal n
  | .negSucc n => '-' :: decimal (n + 1)

/-- Digits filled up with zeros from the left to a given width. -/
def padTo (width : Nat) (digits : List Char) : List Char :=
  List.replicate (width - digits.length) '0' ++ digits

/-- The decimal digits of a natural number, at least `width` of them. -/
def padded (width n : Nat) : List Char := padTo width (decimal n)

/-- The lower-case hexadecimal digits of a natural number. -/
def hexadecimal (n : Nat) : List Char := Nat.toDigits 16 n

/-- The two hexadecimal digits of a byte. -/
def hexByte (b : UInt8) : List Char := padTo 2 (hexadecimal b.toNat)

/-- The value of a hexadecimal digit in either case. -/
def hexDigit? (c : Char) : Option Nat :=
  if '0' ≤ c ∧ c ≤ '9' then some (c.toNat - '0'.toNat)
  else if 'a' ≤ c ∧ c ≤ 'f' then some (c.toNat - 'a'.toNat + 10)
  else if 'A' ≤ c ∧ c ≤ 'F' then some (c.toNat - 'A'.toNat + 10)
  else none

/-- The number that digits spell to a base of at most sixteen, read on from `start`. -/
def ofDigits? (base start : Nat) : List Char → Option Nat
  | [] => some start
  | c :: cs =>
    (hexDigit? c).bind fun d => if d < base then ofDigits? base (base * start + d) cs else none

/-- The number that hexadecimal digits spell, read on from `start`. -/
def ofHexDigits? (start : Nat) (digits : List Char) : Option Nat := ofDigits? 16 start digits

/-- The number that decimal digits spell. -/
def ofDecimalDigits (digits : List Char) : Nat := Nat.ofDigitChars 10 digits 0

/-- Whether a number fits 64 bits with its sign. -/
def fitsWord (n : Int) : Bool :=
  decide (-9223372036854775808 ≤ n) && decide (n ≤ 9223372036854775807)

/-! ### Decimal digits determine the number -/

theorem ofDecimalDigits_decimal (n : Nat) : ofDecimalDigits (decimal n) = n :=
  Nat.ofDigitChars_ten_toDigits

theorem decimal_injective {m n : Nat} (h : decimal m = decimal n) : m = n := by
  rw [← ofDecimalDigits_decimal m, h, ofDecimalDigits_decimal]

theorem isDigit_of_mem_decimal {c : Char} {n : Nat} (h : c ∈ decimal n) : c.isDigit = true :=
  Nat.isDigit_of_mem_toDigits (by decide) (by decide) h

theorem decimal_ne_nil (n : Nat) : decimal n ≠ [] := Nat.toDigits_ne_nil

end SqlBuilder.Text
