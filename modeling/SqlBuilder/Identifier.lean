import SqlBuilder.Text.CharClass

/-!
# Identifiers

How the name of a table, an alias or a column is written in SQL text.

* `Identifier.quoted` : the name between double quotes, with every double quote inside it doubled;
* `Identifier.needsQuotes` : whether a database would misread the bare name;
* `Quoting.write` : the written form under one of the two habits, quoting always or when needed;
* `Identifier.unquoted_quoted` : the quoted form gives the name back.
-/

namespace SqlBuilder

/-- Words of SQL that are never written bare as a name. -/
def reservedWords : List String :=
  ["order", "group", "user", "table", "select", "from", "where", "join", "left", "right", "inner",
    "outer", "full", "cross", "on", "and", "or", "not", "null", "true", "false", "limit", "offset",
    "as", "in", "is", "like", "between", "having", "union", "all", "distinct", "case", "when",
    "then", "else", "end", "exists", "insert", "update", "delete", "set", "index", "key", "primary",
    "foreign", "references", "default", "constraint", "check"]

namespace Identifier

/-- A text with every double quote written twice. -/
def doubled : List Char → List Char
  | [] => []
  | c :: cs => if c = '"' then '"' :: '"' :: doubled cs else c :: doubled cs

/-- A name between double quotes. -/
def quoted (name : List Char) : List Char := '"' :: (doubled name ++ ['"'])

/-- A character that may stand in a bare name. -/
def isNameChar (c : Char) : Bool := Text.isAlphanumeric c || c == '_'

/-- A name needs quotes when it is empty, a reserved word, starts with a number, has an upper-case
letter (a database folds bare names to lower case) or a character that is no letter, number or
underscore.  A reserved word with capitals in it is caught by its capitals. -/
def needsQuotes (name : List Char) : Bool :=
  reservedWords.contains (String.ofList name) ||
    name.any (fun c => !isNameChar c) ||
    name.any Text.isUppercase ||
    match name with
    | [] => true
    | c :: _ => Text.isNumeric c

end Identifier

/-- The two habits of quoting names. -/
inductive Quoting where
  | always
  | whenNeeded
  deriving DecidableEq, Repr

/-- The written form of a name. -/
def Quoting.write : Quoting → String → List Char
  | .always, name => Identifier.quoted name.toList
  | .whenNeeded, name =>
    if Identifier.needsQuotes name.toList then Identifier.quoted name.toList else name.toList

/-! ### Undoing the quotes -/

namespace Identifier

/-- The text up to the closing quote, with doubled quotes halved, and what follows that quote. -/
def untilQuote : List Char → Option (List Char × List Char)
  | [] => none
  | '"' :: '"' :: cs => (untilQuote cs).map fun r => ('"' :: r.1, r.2)
  | '"' :: cs => some ([], cs)
  | c :: cs => (untilQuote cs).map fun r => (c :: r.1, r.2)

/-- Reading up to the closing quote gives the name, provided no further quote follows. -/
theorem untilQuote_doubled (name rest : List Char) (h : rest.head? ≠ some '"') :
    untilQuote (doubled name ++ '"' :: rest) = some (name, rest) := by
  induction name with
  | nil =>
    cases rest with
    | nil => rfl
    | cons c cs =>
      have hc : c ≠ '"' := by simpa using h
      show untilQuote ('"' :: c :: cs) = _
      rw [untilQuote]
      intro cs' e
      exact hc (List.cons.inj e).1
  | cons c cs ih =>
    by_cases hc : c = '"'
    · simp [doubled, hc, untilQuote, ih]
    · simp [doubled, hc, untilQuote, ih]

/-- The quoted form gives the name back, with nothing left over. -/
theorem unquoted_quoted (name : List Char) :
    untilQuote (quoted name).tail = some (name, []) :=
  untilQuote_doubled name [] (by simp)

end Identifier

end SqlBuilder
