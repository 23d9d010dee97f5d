import SqlBuilder.Operator
import SqlBuilder.Text.Numeral

/-!
# Errors

What can go wrong, by cause, and what a caller is told about it.

* `RenderError` : why a statement has no text;
* `Error` : the errors of the library, which `Error.message?` words;
* `RenderError.toError?` : the error of the library for a cause, which all causes have but one.
-/

namespace SqlBuilder

/-- The clauses that only a statement with result rows may have. -/
inductive RowClause where
  | distinct | grouping | having | ordering | limit | offset
  deriving DecidableEq, Repr

/-- The words that open a clause. -/
def RowClause.text : RowClause → String
  | .distinct => phrase [.DISTINCT]
  | .grouping => phrase [.GROUP, .BY]
  | .having => phrase [.HAVING]
  | .ordering => phrase [.ORDER, .BY]
  | .limit => phrase [.LIMIT]
  | .offset => phrase [.OFFSET]

/-- Why a statement has no text. -/
inductive RenderError where
  | assignmentsOutsideUpdate (kind : StatementKind)
  | noAssignments
  | foreignTarget (field aliasName : String)
  | unsupportedClause (clause : RowClause) (kind : StatementKind)
  | tableCount (kind : StatementKind) (count : Nat)
  | overJoin (kind : StatementKind)
  | danglingRegistration (id : Nat)
  /-- A join that has itself among its operands.  This is no error of the library: to follow the operands
  of such a join never ends, and this cause stands for that. -/
  | endlessJoin (id : Nat)
  | crossJoinWithPredicate
  | rowAsScalar (aliasName : String)
  | subqueryNotSelect (kind : StatementKind)
  deriving DecidableEq, Repr

/-- The errors of the library. -/
inductive Error where
  /-- An ON predicate found no join that waits for one. -/
  | unmatchedPredicate (detail : String)
  /-- A statement that is no UPDATE carries assignments. -/
  | assignmentsOutsideUpdate (kind : StatementKind)
  /-- A statement has a shape without text. -/
  | invalidStatement (detail : String)
  /-- Settings could not be understood. -/
  | settings
  /-- A JSON text could not be understood. -/
  | serialization
  /-- A file could not be read. -/
  | unreadableFile
  deriving DecidableEq, Repr

/-- The wording of an error.  Errors about foreign texts and files are worded elsewhere. -/
def Error.message? : Error → Option String
  | .unmatchedPredicate detail => some ("ON clause without matching JOIN: " ++ detail)
  | .assignmentsOutsideUpdate kind =>
    some ("SET assignments are only valid in UPDATE, found in " ++ kind.text)
  | .invalidStatement detail => some ("Invalid statement: " ++ detail)
  | .settings | .serialization | .unreadableFile => none

namespace RenderError

/-- A number in a message. -/
def numeral (n : Nat) : String := String.ofList (Text.decimal n)

/-- The error of the library for a cause.  There is none for what never ends. -/
def toError? : RenderError → Option Error
  | .assignmentsOutsideUpdate kind => some (.assignmentsOutsideUpdate kind)
  | .noAssignments => some (.invalidStatement "UPDATE without SET assignments")
  | .foreignTarget field aliasName => some (.invalidStatement
      ("SET " ++ field ++ " targets a scope other than the updated table " ++ aliasName))
  | .unsupportedClause clause kind =>
    some (.invalidStatement (clause.text ++ " is not supported in " ++ kind.text))
  | .tableCount kind count =>
    some (.invalidStatement (kind.text ++ " needs exactly one table, found " ++ numeral count))
  | .overJoin kind => some (.invalidStatement (kind.text ++ " over a join is not supported"))
  | .danglingRegistration id => some (.invalidStatement ("dangling registration id " ++ numeral id))
  | .endlessJoin _ => none
  | .crossJoinWithPredicate => some (.invalidStatement "CROSS JOIN cannot take an ON clause")
  | .rowAsScalar aliasName => some (.invalidStatement
      ("whole-row handle " ++ aliasName ++ " used where a scalar is expected"))
  | .subqueryNotSelect kind =>
    some (.invalidStatement ("sub-query must be a SELECT, found " ++ kind.text))

/-- Every cause has an error of the library but the one that stands for what never ends. -/
theorem toError?_eq_none_iff {e : RenderError} : e.toError? = none ↔ ∃ id, e = .endlessJoin id := by
  cases e with
  | endlessJoin id => simp [toError?]
  | _ => simp [toError?]

/-- What a caller is told when a statement has no text; about an endless join, for which the library has
no error, in words of this file. -/
def toError (e : RenderError) : Error := e.toError?.getD (.invalidStatement "endless join")

end RenderError

end SqlBuilder
