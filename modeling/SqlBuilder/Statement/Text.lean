import SqlBuilder.Statement.Basic

/-!
# Plain notation of expressions

A short text of an expression for messages and summaries.  It names scopes by their alias, shows
literals in plain notation and leaves out what is inside a sub-query.  It is not the text that a
database is given.
-/

namespace SqlBuilder

/-- The plain notation of an operand, and the scope it is a whole row of, if it is one. -/
structure PlainForm where
  row? : Option Scope
  chars : List Char

namespace PlainForm

/-- The notation of an expression that is no row. -/
def plain (chars : List Char) : PlainForm := ⟨none, chars⟩

/-- Texts with commas between them. -/
def commaSeparated (items : List (List Char)) : List Char := [',', ' '].intercalate items

/-- Two operands around an operator. -/
def around (left : PlainForm) (op : String) (right : PlainForm) : List Char :=
  left.chars ++ ' ' :: (op.toList ++ ' ' :: right.chars)

/-- A text in parentheses. -/
def parenthesized (chars : List Char) : List Char := '(' :: (chars ++ [')'])

/-- The notation of a node from the notation of its operands. -/
def ofNode : Node PlainForm → PlainForm
  | .row s => ⟨some s, s.aliasName.toList⟩
  | .field base name =>
    match base.row? with
    | some s => plain (s.aliasName.toList ++ '.' :: name.toList)
    | none => plain (parenthesized base.chars ++ '.' :: name.toList)
  | .literal v => plain v.text
  | .compare l op r => plain (around l op.text r)
  | .logical l op r => plain (parenthesized (around l op.text r))
  | .not e => plain ("NOT ".toList ++ parenthesized e.chars)
  | .arithmetic l op r => plain (parenthesized (around l op.text r))
  | .isNull e => plain (e.chars ++ " IS NULL".toList)
  | .countRows => plain "COUNT(*)".toList
  | .aggregate f d e =>
    plain (f.text.toList ++
      parenthesized ((if d then "DISTINCT ".toList else []) ++ e.chars))
  | .inList e vs n =>
    plain (e.chars ++ (if n then " NOT IN ".toList else " IN ".toList) ++
      parenthesized (commaSeparated (vs.map Value.text)))
  | .coalesce es =>
    plain ("COALESCE".toList ++ parenthesized (commaSeparated (es.map PlainForm.chars)))
  | .subquery _ => plain "(SUBQUERY)".toList
  | .existence _ n => plain ((if n then "NOT ".toList else []) ++ "EXISTS (SUBQUERY)".toList)

end PlainForm

/-- The plain notation of an expression. -/
def Expr.text (e : Expr) : String := String.ofList (e.fold PlainForm.ofNode).chars

end SqlBuilder
