import SqlBuilder.Program.Type
import SqlBuilder.Value

/-!
# Literals

A literal is written without its type and becomes a value at a type.  Floats are written by the
hexadecimal digits of their bits and bytes by two hexadecimal digits each, so that no value is lost.

* `Literal` : the written forms;
* `Literal.value?` : the value at a type, if the form fits it.
-/

namespace SqlBuilder

/-- The written form of a value. -/
inductive Literal where
  | absent
  | truth (b : Bool)
  | whole (n : Int)
  | text (s : String)
  | moment (t : Instant)
  deriving DecidableEq, Repr

namespace Literal

/-- The bytes that pairs of hexadecimal digits spell. -/
def ofHexPairs? : List Char → Option (List UInt8)
  | [] => some []
  | a :: b :: rest =>
    (Text.ofHexDigits? 0 [a, b]).bind fun n => (ofHexPairs? rest).map (UInt8.ofNat n :: ·)
  | [_] => none

/-- The bits that a given number of hexadecimal digits spell. -/
def ofBits? (digits : Nat) (s : String) : Option Nat :=
  if s.length = digits then Text.ofHexDigits? 0 s.toList else none

/-- The value of a literal at a storage type. -/
def storageValue? : FieldType → Literal → Option Value
  | .bool, .truth b => some (.bool b)
  | .int, .whole n | .bigInt, .whole n => some (.int n)
  | .float, .text s => (ofBits? 8 s).map fun n => .float (.ofSingle (UInt32.ofNat n))
  | .double, .text s => (ofBits? 16 s).map fun n => .float ⟨UInt64.ofNat n⟩
  | .text, .text s => some (.string s)
  | .bytes, .text s => (ofHexPairs? s.toList).map .bytes
  | .timestamp, .moment t => some (.ofInstant t)
  | _, _ => none

/-- The value of a literal at a type.  Where absence is possible it is written as such; a row is never
written, not even as one that is absent. -/
def value? : Ty → Literal → Option Value
  | .scalar f, l => storageValue? f l
  | .row _, _ => none
  | .option t, .absent => if t.isValue then some .null else none
  | .option t, l => value? t l

/-- Only values are written. -/
theorem isValue_of_value? {t : Ty} {l : Literal} {v : Value} (h : l.value? t = some v) :
    t.isValue = true := by
  induction t with
  | scalar f => rfl
  | row e => cases h
  | option t ih =>
    show t.isValue = true
    cases l with
    | absent =>
      rw [value?] at h
      split at h
      · rename_i value
        exact value
      · cases h
    | truth b | whole n | text s | moment i => exact ih h

end Literal

end SqlBuilder
