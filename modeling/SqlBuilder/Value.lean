import SqlBuilder.Double.Layout
import SqlBuilder.Instant

/-!
# Values

The literals a query carries.  Every value but null is bound as a parameter and never becomes part
of the text of a statement; `Value.text` is its plain notation, for messages and summaries.
-/

namespace SqlBuilder

/-- A literal of a query. -/
inductive Value where
  | null
  | bool (b : Bool)
  | int (n : Int)
  | float (d : Double)
  | string (s : String)
  | bytes (bs : List UInt8)
  /-- A point in time in its internet form. -/
  | timestamp (s : String)
  deriving DecidableEq, Repr

namespace Value

/-- Whether a value is null, the only one written into a statement. -/
def isNull : Value → Bool
  | .null => true
  | _ => false

/-- A text with every single quote written twice. -/
def doubleApostrophes : List Char → List Char
  | [] => []
  | c :: cs => if c = '\'' then '\'' :: '\'' :: doubleApostrophes cs else c :: doubleApostrophes cs

/-- A truth value in lower case. -/
def boolText (b : Bool) : List Char := if b then "true".toList else "false".toList

/-- The plain notation of a value. -/
def text : Value → List Char
  | .null => "NULL".toList
  | .bool b => boolText b
  | .int n => Text.decimalInt n
  | .float d => Layout.plain.write d
  | .string s => '\'' :: (doubleApostrophes s.toList ++ ['\''])
  | .bytes bs => '\'' :: '\\' :: 'x' :: (bs.flatMap Text.hexByte ++ ['\''])
  | .timestamp s => '\'' :: (s.toList ++ ['\''])

/-- Whether a value equals itself, which every value does but not-a-number. -/
def isReflexive : Value → Bool
  | .float d => !d.isNaN
  | _ => true

/-- The value of a point in time. -/
def ofInstant (t : Instant) : Value := .timestamp (String.ofList t.write)

end Value

end SqlBuilder
