import SqlBuilder.Json.Basic
import SqlBuilder.Text.CharClass

/-!
# Outlines

An outline names the parts of a value: its cases, records and fields.  It can be written in two ways.

* `Outline.toJson` : as JSON, where a record is an object, a case an object of one member or, without
  a payload, its name;
* `Outline.text` : in structural notation, where every name is shown, as in
  `Field { name: "id", size: Some(3) }`.
-/

namespace SqlBuilder

/-- The named parts of a value. -/
inductive Outline where
  | bool (b : Bool)
  | int (n : Int)
  | float (d : Double)
  | string (s : String)
  | list (items : List Outline)
  | absent
  | present (value : Outline)
  /-- A value that has a type name of its own around it; JSON leaves the name out. -/
  | wrapped (name : String) (value : Outline)
  | record (name : String) (fields : List (String × Outline))
  | unitCase (name : String)
  | valueCase (name : String) (value : Outline)
  | recordCase (name : String) (fields : List (String × Outline))

namespace Outline

/-- A natural number. -/
def nat (n : Nat) : Outline := .int n

/-- A part that may be missing. -/
def optional {α : Type} (f : α → Outline) : Option α → Outline
  | none => .absent
  | some a => .present (f a)

/-! ### JSON -/

mutual

/-- The outline as a JSON value. -/
def toJson : Outline → Json
  | .bool b => .bool b
  | .int n => .int n
  | .float d => .float d
  | .string s => .string s
  | .list items => .array (toJsonItems items)
  | .absent => .null
  | .present v => toJson v
  | .wrapped _ v => toJson v
  | .record _ fields => .object (toJsonFields fields)
  | .unitCase name => .string name
  | .valueCase name v => Json.variant name (toJson v)
  | .recordCase name fields => Json.variant name (.object (toJsonFields fields))

def toJsonItems : List Outline → List Json
  | [] => []
  | o :: os => toJson o :: toJsonItems os

def toJsonFields : List (String × Outline) → List (String × Json)
  | [] => []
  | (name, o) :: fs => (name, toJson o) :: toJsonFields fs

end

/-! ### Structural notation -/

/-- A character between quotes: the usual escapes, and hidden characters by their code point. -/
def escape (c : Char) : List Char :=
  match c with
  | '\x00' => ['\\', '0']
  | '\t' => ['\\', 't']
  | '\r' => ['\\', 'r']
  | '\n' => ['\\', 'n']
  | '\\' => ['\\', '\\']
  | '"' => ['\\', '"']
  | c =>
    if Text.isHidden c then '\\' :: 'u' :: '\x7b' :: (Text.hexadecimal c.toNat ++ ['\x7d'])
    else [c]

/-- A quoted string. -/
def writeString (s : String) : List Char := '"' :: (s.toList.flatMap escape ++ ['"'])

/-- A name with its payload in parentheses. -/
def called (name : String) (payload : List Char) : List Char :=
  name.toList ++ '(' :: (payload ++ [')'])

/-- A name with its fields in braces. -/
def braced (name : String) (fields : List Char) : List Char :=
  name.toList ++ " \x7b ".toList ++ fields ++ " \x7d".toList

mutual

/-- The outline in structural notation. -/
def write : Outline → List Char
  | .bool true => "true".toList
  | .bool false => "false".toList
  | .int n => Text.decimalInt n
  | .float d => Layout.structural.write d
  | .string s => writeString s
  | .list items => '[' :: (writeItems items ++ [']'])
  | .absent => "None".toList
  | .present v => called "Some" (write v)
  | .wrapped name v => called name (write v)
  | .record name fields => braced name (writeFields fields)
  | .unitCase name => name.toList
  | .valueCase name v => called name (write v)
  | .recordCase name fields => braced name (writeFields fields)

def writeItems : List Outline → List Char
  | [] => []
  | [o] => write o
  | o :: os => write o ++ ',' :: ' ' :: writeItems os

def writeFields : List (String × Outline) → List Char
  | [] => []
  | [(name, o)] => name.toList ++ ':' :: ' ' :: write o
  | (name, o) :: fs => name.toList ++ ':' :: ' ' :: (write o ++ ',' :: ' ' :: writeFields fs)

end

/-- The outline in structural notation as a string. -/
def text (o : Outline) : String := String.ofList o.write

end Outline

end SqlBuilder
