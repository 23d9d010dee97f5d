import SqlBuilder.Identifier
import SqlBuilder.Text.Numeral

/-!
# Rendering settings

The dialect of the database and whether names are quoted even where they need not be.

* `Settings.quoting`, `Settings.placeholder` : how names and parameters are written.
-/

namespace SqlBuilder

/-- The dialects of SQL that statements can be written in. -/
inductive Dialect where
  | postgres | sqlite
  deriving DecidableEq, Repr

namespace Dialect

def all : List Dialect := [.postgres, .sqlite]

def name : Dialect → String
  | .postgres => "postgres"
  | .sqlite => "sqlite"

end Dialect

/-- How statements are written. -/
structure Settings where
  dialect : Dialect := .postgres
  quoteAll : Bool := false
  deriving DecidableEq, Repr

namespace Settings

/-- The settings that hold where nothing else is said. -/
def default : Settings := {}

/-- Names are quoted only where needed in Postgres, unless all quoting is asked for. -/
def quoting (s : Settings) : Quoting :=
  match s.dialect, s.quoteAll with
  | .postgres, false => .whenNeeded
  | _, _ => .always

/-- The written form of a name. -/
def writeName (s : Settings) (name : String) : List Char := s.quoting.write name

/-- The mark of the parameter with a given number, counted from one. -/
def placeholder (s : Settings) (number : Nat) : List Char :=
  match s.dialect with
  | .postgres => '$' :: Text.decimal number
  | .sqlite => ['?']

end Settings

end SqlBuilder
