import SqlBuilder.Statement.JoinTree

/-!
# What a SELECT says

Two statements may differ and say the same: in how tables are numbered, in tables that nothing
refers to, in whether a whole row is listed or its fields.  The normal form of a SELECT keeps what
its text says and drops the rest.

* `Source`, `Selection`, `Form`, `Normal` : the normal forms of sources, statements and expressions;
* `Reduced.ofNode` : the normal form of an expression from those of its operands;
* `Statement.normalForm` : the normal form of a statement.
-/

namespace SqlBuilder

/-! ### Normal forms -/

/-- A table under an alias, or a join of two sources. -/
inductive Source (ε : Type) where
  | table (table aliasName : String)
  | join (kind : JoinKind) (left right : Source ε) (predicate : Option ε)
  /-- The position at which no table and no finite join stands. -/
  | nowhere

/-- The clauses of a SELECT. -/
structure Selection (ε : Type) where
  distinct : Bool
  columns : List ε
  sources : List (Source ε)
  filters : List ε
  grouping : List ε
  having : List ε
  ordering : List (OrderTerm ε)
  limit : Option Nat
  offset : Option Nat

/-- The forms of an expression.  A table is known by its alias, and membership in an empty list is a
truth value. -/
inductive Form (ε : Type) where
  | row (aliasName : String)
  | field (base : ε) (name : String)
  | literal (v : Value)
  | truth (b : Bool)
  | compare (left : ε) (op : Comparison) (right : ε)
  | logical (left : ε) (op : LogicalOp) (right : ε)
  | not (e : ε)
  | arithmetic (left : ε) (op : Arithmetic) (right : ε)
  | isNull (e : ε)
  | countRows
  | aggregate (f : AggregateFunction) (distinct : Bool) (arg : ε)
  | inList (e : ε) (values : List Value) (negated : Bool)
  | coalesce (args : List ε)
  | subquery (q : Selection ε)
  | existence (q : Selection ε) (negated : Bool)

/-- An expression in normal form. -/
inductive Normal where
  | form (f : Form Normal)

/-- A column of the table under an alias. -/
def Normal.column (aliasName field : String) : Normal :=
  .form (.field (.form (.row aliasName)) field)

/-! ### Reduction -/

/-- An operand in normal form, and the scope it is a whole row of, if it is one. -/
structure Reduced where
  row? : Option Scope
  form : Normal

/-- The columns that an operand of a select list stands for. -/
def Reduced.columns (r : Reduced) : List Normal :=
  match r.row? with
  | some s => s.fields.map fun f => .column s.aliasName f.name
  | none => [r.form]

/-- The normal form of a join tree. -/
def JoinTree.source : JoinTree Reduced → Source Normal
  | .scope s => .table s.table s.aliasName
  | .join kind l r predicate => .join kind l.source r.source (predicate.map Reduced.form)
  | .missing _ | .endless _ => .nowhere

/-- The normal form of a SELECT, given those of its expressions. -/
def Statement.selection (q : Statement Reduced) : Selection Normal where
  distinct := q.distinct
  columns := q.columns.flatMap Reduced.columns
  sources := q.source.trees.map JoinTree.source
  filters := q.filters.map Reduced.form
  grouping := q.grouping.map Reduced.form
  having := q.having.map Reduced.form
  ordering := q.ordering.map (OrderTerm.map Reduced.form)
  limit := q.limit
  offset := q.offset

/-- The normal form of a node, given those of its operands. -/
def Node.form : Node Reduced → Form Normal
  | .row s => .row s.aliasName
  | .field base name => .field base.form name
  | .literal v => .literal v
  | .compare l op r => .compare l.form op r.form
  | .logical l op r => .logical l.form op r.form
  | .not e => .not e.form
  | .arithmetic l op r => .arithmetic l.form op r.form
  | .isNull e => .isNull e.form
  | .countRows => .countRows
  | .aggregate f distinct e => .aggregate f distinct e.form
  | .inList _ [] negated => .truth negated
  | .inList e (v :: vs) negated => .inList e.form (v :: vs) negated
  | .coalesce es => .coalesce (es.map Reduced.form)
  | .subquery q => .subquery q.selection
  | .existence q negated => .existence q.selection negated

/-- The operand that a node makes of its operands. -/
def Reduced.ofNode : Node Reduced → Reduced
  | .row s => ⟨some s, .form (.row s.aliasName)⟩
  | n => ⟨none, .form n.form⟩

/-- An expression reduced to its normal form. -/
def Expr.reduced : Expr → Reduced := Expr.fold Reduced.ofNode

/-- The normal form of a SELECT. -/
def Statement.normalForm (q : Statement Expr) : Selection Normal := (q.map Expr.reduced).selection

end SqlBuilder
