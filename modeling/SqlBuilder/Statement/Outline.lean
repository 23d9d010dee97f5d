import SqlBuilder.Outline
import SqlBuilder.Statement.Basic

/-!
# Outlines of statements

The parts of values, expressions and statements under the names that data formats know them by.
`Expr.outline` and `Statement.outline` serve both the JSON form and the structural notation.
-/

namespace SqlBuilder

/-- The outline of a value. -/
def Value.outline : Value → Outline
  | .null => .unitCase "Null"
  | .bool b => .valueCase "Bool" (.bool b)
  | .int n => .valueCase "Int" (.int n)
  | .float d => .valueCase "Float" (.float d)
  | .string s => .valueCase "String" (.string s)
  | .bytes bs => .valueCase "Bytes" (.list (bs.map fun b => .nat b.toNat))
  | .timestamp s => .valueCase "Timestamp" (.string s)

def FieldDef.outline (f : FieldDef) : Outline :=
  .record "FieldDef"
    [("name", .string f.name), ("ty", .unitCase f.type.name), ("nullable", .bool f.nullable)]

def Scope.outline (s : Scope) : Outline :=
  .record "ScopeRef"
    [("id", .wrapped "ScopeId" (.nat s.id)), ("table", .string s.table),
      ("alias", .string s.aliasName), ("nullable", .bool s.nullable),
      ("fields", .list (s.fields.map FieldDef.outline))]

/-- The outline of a position in a from-clause. -/
def registrationOutline (id : Nat) : Outline := .wrapped "RegistrationId" (.nat id)

def Registration.outline : Registration Outline → Outline
  | .scope s => .valueCase "Scope" s.outline
  | .join j =>
    .valueCase "Join" (.record "JoinRegistration"
      [("kind", .unitCase j.kind.name), ("left", registrationOutline j.left),
        ("right", registrationOutline j.right), ("on", .optional id j.predicate)])

def FromClause.outline (c : FromClause Outline) : Outline :=
  .record "FromClause"
    [("registrations", .list (c.registrations.map Registration.outline)),
      ("roots", .list (c.roots.map registrationOutline))]

def OrderTerm.outline (t : OrderTerm Outline) : Outline :=
  .record "OrderBy" [("expr", t.expr), ("order", .unitCase t.order.name)]

def Assignment.outline (a : Assignment Outline) : Outline :=
  .record "SetClause"
    [("target", a.target), ("field", .string a.field), ("op", .unitCase a.op.name),
      ("value", a.value)]

/-- The outline of a statement whose expressions are outlined. -/
def Statement.record (q : Statement Outline) : Outline :=
  .record "QueryAst"
    [("statement", .unitCase q.kind.name), ("distinct", .bool q.distinct),
      ("columns", .list q.columns), ("from", q.source.outline), ("wheres", .list q.filters),
      ("group_by", .list q.grouping), ("having", .list q.having),
      ("order_by", .list (q.ordering.map OrderTerm.outline)), ("limit", .optional .nat q.limit),
      ("offset", .optional .nat q.offset),
      ("assignments", .list (q.assignments.map Assignment.outline))]

/-- The outline of a node whose operands are outlined. -/
def Node.outline : Node Outline → Outline
  | .row s => .valueCase "Entity" s.outline
  | .field base name => .recordCase "FieldAccess" [("base", base), ("field", .string name)]
  | .literal v => .valueCase "Literal" v.outline
  | .compare l op r =>
    .recordCase "Compare" [("left", l), ("op", .unitCase op.name), ("right", r)]
  | .logical l op r =>
    .recordCase "Logical" [("left", l), ("op", .unitCase op.name), ("right", r)]
  | .not e => .valueCase "Not" e
  | .arithmetic l op r =>
    .recordCase "Binary" [("left", l), ("op", .unitCase op.name), ("right", r)]
  | .isNull e => .valueCase "IsNull" e
  | .countRows => .unitCase "CountRows"
  | .aggregate f d e =>
    .recordCase "Aggregate" [("func", .unitCase f.name), ("distinct", .bool d), ("arg", e)]
  | .inList e vs n =>
    .recordCase "InList"
      [("expr", e), ("list", .list (vs.map Value.outline)), ("negated", .bool n)]
  | .coalesce es => .valueCase "Coalesce" (.list es)
  | .subquery q => .valueCase "SubSelect" q.record
  | .existence q n => .recordCase "Exists" [("query", q.record), ("negated", .bool n)]

/-- The outline of an expression. -/
def Expr.outline : Expr → Outline := Expr.fold Node.outline

/-- The outline of a statement. -/
def Statement.outline (q : Statement Expr) : Outline := (q.map Expr.outline).record

end SqlBuilder
