import SqlBuilder.Double.Layout
import SqlBuilder.Text.Numeral

/-!
# JSON texts

A JSON value with its object members in order, and its compact text: no blanks, every character
beyond ASCII as it is, control characters escaped.

* `Json` : the values, whole numbers apart from doubles;
* `Json.write` : the compact text;
* `Json.variant` : a named alternative with a payload, an object of one member;
* `Json.unitName?` : the name of an alternative without a payload.
-/

namespace SqlBuilder

/-- A JSON value. -/
inductive Json where
  | null
  | bool (b : Bool)
  | int (n : Int)
  | float (d : Double)
  | string (s : String)
  | array (items : List Json)
  | object (members : List (String × Json))
  deriving Inhabited

namespace Json

/-- A character of a JSON string.  Quotes, backslashes and control characters are escaped, those with
a short escape by it and the others by four hexadecimal digits. -/
def escape (c : Char) : List Char :=
  match c with
  | '"' => ['\\', '"']
  | '\\' => ['\\', '\\']
  | '\x08' => ['\\', 'b']
  | '\x0c' => ['\\', 'f']
  | '\n' => ['\\', 'n']
  | '\r' => ['\\', 'r']
  | '\t' => ['\\', 't']
  | c =>
    if c.toNat < 0x20 then '\\' :: 'u' :: Text.padTo 4 (Text.hexadecimal c.toNat) else [c]

/-- A JSON string. -/
def writeString (s : String) : List Char := '"' :: (s.toList.flatMap escape ++ ['"'])

mutual

/-- The compact text of a value. -/
def write : Json → List Char
  | .null => "null".toList
  | .bool true => "true".toList
  | .bool false => "false".toList
  | .int n => Text.decimalInt n
  | .float d => Layout.json.write d
  | .string s => writeString s
  | .array items => '[' :: (writeItems items ++ [']'])
  | .object members => '\x7b' :: (writeMembers members ++ ['\x7d'])

/-- Array items with commas between them. -/
def writeItems : List Json → List Char
  | [] => []
  | [j] => write j
  | j :: js => write j ++ ',' :: writeItems js

/-- Object members with commas between them. -/
def writeMembers : List (String × Json) → List Char
  | [] => []
  | [(k, j)] => writeString k ++ ':' :: write j
  | (k, j) :: ms => writeString k ++ ':' :: (write j ++ ',' :: writeMembers ms)

end

/-- The compact text of a value as a string. -/
def toText (j : Json) : String := String.ofList j.write

/-- A named alternative that carries a payload. -/
def variant (name : String) (payload : Json) : Json := .object [(name, payload)]

/-- The name of an alternative without a payload: a string, or an object of one member whose payload
is null. -/
def unitName? : Json → Option String
  | .string name => some name
  | .object [(name, .null)] => some name
  | _ => none

/-- A natural number. -/
def nat (n : Nat) : Json := .int n

/-- A payload that may be missing. -/
def optional {α : Type} (f : α → Json) : Option α → Json
  | none => .null
  | some a => f a

end Json

end SqlBuilder
