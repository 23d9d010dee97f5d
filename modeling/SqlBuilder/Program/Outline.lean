import SqlBuilder.Program.TypedExpr
import SqlBuilder.Statement.Outline

/-!
# Outlines of handles

The handles that a program works with in structural notation: typed expressions, assignments, fields
and tables.  A handle shows what it stands for and leaves its type out.
-/

namespace SqlBuilder

/-- A typed expression. -/
def TypedExpr.outline (e : TypedExpr) : Outline := .wrapped "Expr" e.expr.outline

/-- An assignment, without the row it goes to. -/
def Assignment.handle (a : Assignment Expr) : Outline :=
  .record "Assignment"
    [("field", .string a.field), ("op", .unitCase a.op.name), ("value", a.value.outline)]

/-- A field by its name. -/
def fieldHandle (name : String) : Outline := .wrapped "Field" (.string name)

/-- The table of an entity, whose rows may be missing or not. -/
def Entity.handle (e : Entity) (nullable : Bool) : Outline :=
  .wrapped (if nullable then "NullableTable" else "Table") (.string e.table)

end SqlBuilder
