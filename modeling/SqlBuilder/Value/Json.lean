import SqlBuilder.Json.Reader
import SqlBuilder.Value

/-!
# Values in JSON

Reading a value from its JSON form, in which an object of one member names the case.

* `Value.ofJson?` : the value of a JSON value;
* `Value.parse?` : the value of a JSON text.
-/

namespace SqlBuilder.Value

/-- The byte that a JSON number stands for. -/
def byteOfJson? : Json → Option UInt8
  | .int n => if 0 ≤ n ∧ n < 256 then some (UInt8.ofNat n.toNat) else none
  | _ => none

/-- The value of a JSON value.  Integers take 64 bits with their sign; a whole number may stand for a
float. -/
def ofJson? : Json → Option Value
  | .object [("Bool", .bool b)] => some (.bool b)
  | .object [("Int", .int n)] => if Text.fitsWord n then some (.int n) else none
  | .object [("Float", .int n)] => some (.float (.ofRatio (decide (n < 0)) n.natAbs 1))
  | .object [("Float", .float d)] => some (.float d)
  | .object [("String", .string s)] => some (.string s)
  | .object [("Bytes", .array items)] => (items.mapM byteOfJson?).map .bytes
  | .object [("Timestamp", .string s)] => some (.timestamp s)
  | j => if j.unitName? = some "Null" then some .null else none

/-- The value of a JSON text. -/
def parse? (s : String) : Option Value := (Json.parse? s).bind ofJson?

end SqlBuilder.Value
