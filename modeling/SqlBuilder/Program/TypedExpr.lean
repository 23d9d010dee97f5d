import SqlBuilder.Program.Literal
import SqlBuilder.Statement.Basic

/-!
# Typed expressions

An expression together with the type of the value it stands for.  The operations here are the only way
to build one: each asks for operands of fitting types and says which type comes out.

* `TypeError` : why an operation does not apply;
* `TypedExpr` : expressions with types;
* `TypedExpr.ofScope`, `TypedExpr.literal`, … : the operations.
-/

namespace SqlBuilder

/-- What an operation asks of an operand. -/
inductive Requirement where
  | type (t : Ty)
  | row
  | optionalRow
  | optional
  | value
  | numeric
  | text
  deriving DecidableEq, Repr

/-- Why a program has no meaning. -/
inductive TypeError where
  | unbound (name : String)
  | unknownField (table field : String)
  | unfit (required : Requirement) (found : Ty)
  | unfitLiteral (type : Ty)
  /-- A sub-query used as a value, or a statement without result rows, has the wrong result. -/
  | unfitResult
  deriving DecidableEq, Repr

/-- An expression and its type. -/
structure TypedExpr where
  type : Ty
  expr : Expr

namespace TypedExpr

/-! ### Requirements -/

/-- The expression of an operand of a given type. -/
def expect (t : Ty) (e : TypedExpr) : Except TypeError Expr :=
  if e.type = t then .ok e.expr else .error (.unfit (.type t) e.type)

/-- Demands a class of types. -/
def require (r : Requirement) (holds : Ty → Bool) (t : Ty) : Except TypeError Unit :=
  if holds t then .ok () else .error (.unfit r t)

/-- The type of a field, either as given or as the entity declares it. -/
def fieldType (e : Entity) (field : String) : Option Ty → Except TypeError Ty
  | some t => .ok t
  | none =>
    match e.field? field with
    | some f => .ok (.ofField f)
    | none => .error (.unknownField e.table field)

/-! ### Rows and fields -/

/-- The row of a scope. -/
def ofScope (s : Scope) : TypedExpr :=
  ⟨.ofRow ⟨s.table, s.fields⟩ s.nullable, .node (.row s)⟩

/-- A field of a row.  A field that is given with its type may hold anything, a row as well. -/
def project (field : String) (given : Option Ty) (e : TypedExpr) : Except TypeError TypedExpr :=
  match e.type with
  | .row entity => do
    let t ← fieldType entity field given
    return ⟨t, .node (.field e.expr field)⟩
  | t => .error (.unfit .row t)

/-- A field of a row that may be missing, and with it the field, which must hold a value. -/
def projectMaybe (field : String) (given : Option Ty) (e : TypedExpr) :
    Except TypeError TypedExpr :=
  match e.type with
  | .option (.row entity) => do
    let t ← fieldType entity field given
    require .value Ty.isValue t
    return ⟨t.orAbsent, .node (.field e.expr field)⟩
  | t => .error (.unfit .optionalRow t)

/-! ### Literals and absence -/

/-- A literal of a type. -/
def literal (t : Ty) (l : Literal) : Except TypeError TypedExpr :=
  match l.value? t with
  | some v => .ok ⟨t, .node (.literal v)⟩
  | none => .error (.unfitLiteral t)

/-- The absent value of a storage type. -/
def nothing (f : FieldType) : TypedExpr := ⟨.option (.scalar f), .node (.literal .null)⟩

/-- The expression as one whose value may be absent. -/
def just (e : TypedExpr) : TypedExpr := ⟨.option e.type, e.expr⟩

/-- Whether a value or a row is absent. -/
def isNothing (e : TypedExpr) : Except TypeError TypedExpr :=
  match e.type with
  | .option _ => .ok ⟨.bool, .node (.isNull e.expr)⟩
  | t => .error (.unfit .optional t)

/-- A value, or another in case it is absent. -/
def coalesce (e instead : TypedExpr) : Except TypeError TypedExpr := do
  require .value Ty.isValue instead.type
  let a ← e.expect (.option instead.type)
  return ⟨instead.type, .node (.coalesce [a, instead.expr])⟩

/-! ### Comparisons -/

/-- What a comparison asks of its operands besides being of one type. -/
def requireComparable : Comparison → Ty → Except TypeError Unit
  | .like => require .text Ty.isText
  | _ => require .value Ty.isValue

/-- A comparison of two values of one type. -/
def compare (op : Comparison) (l r : TypedExpr) : Except TypeError TypedExpr := do
  requireComparable op l.type
  let b ← r.expect l.type
  return ⟨.bool, .node (.compare l.expr op b)⟩

/-- The values of literals of a type. -/
def literals (t : Ty) : List Literal → Except TypeError (List Value)
  | [] => .ok []
  | l :: ls =>
    match l.value? t with
    | some v => do
      let vs ← literals t ls
      return v :: vs
    | none => .error (.unfitLiteral t)

/-- Whether a value is among literals of its type. -/
def inList (e : TypedExpr) (ls : List Literal) (negated : Bool) : Except TypeError TypedExpr := do
  require .value Ty.isValue e.type
  let vs ← literals e.type ls
  return ⟨.bool, .node (.inList e.expr vs negated)⟩

/-! ### Connectives and arithmetic -/

/-- A connective of two truth values. -/
def logical (op : LogicalOp) (l r : TypedExpr) : Except TypeError TypedExpr := do
  let a ← l.expect .bool
  let b ← r.expect .bool
  return ⟨.bool, .node (.logical a op b)⟩

/-- The opposite of a truth value. -/
def not (e : TypedExpr) : Except TypeError TypedExpr := do
  let a ← e.expect .bool
  return ⟨.bool, .node (.not a)⟩

/-- Arithmetic on two numbers of one type. -/
def arithmetic (op : Arithmetic) (l r : TypedExpr) : Except TypeError TypedExpr := do
  require .numeric Ty.isNumeric l.type
  let b ← r.expect l.type
  return ⟨l.type, .node (.arithmetic l.expr op b)⟩

/-! ### Aggregates -/

/-- The number of rows, as a number of a given type. -/
def countRows (n : Ty) : Except TypeError TypedExpr := do
  require .numeric Ty.isNumeric n
  return ⟨n, .node .countRows⟩

/-- The number of values, or of different values, as a number of a given type. -/
def count (distinct : Bool) (n : Ty) (e : TypedExpr) : Except TypeError TypedExpr := do
  require .numeric Ty.isNumeric n
  require .value Ty.isValue e.type
  return ⟨n, .node (.aggregate .count distinct e.expr)⟩

/-- What an aggregate function asks of its argument. -/
def requireAggregable : AggregateFunction → Ty → Except TypeError Unit
  | .sum | .average => require .numeric Ty.isNumeric
  | .count | .minimum | .maximum => require .value Ty.isValue

/-- An aggregate of values of one type; over no rows there is none. -/
def aggregate (f : AggregateFunction) (e : TypedExpr) : Except TypeError TypedExpr := do
  requireAggregable f e.type
  return ⟨e.type.orAbsent, .node (.aggregate f false e.expr)⟩

/-! ### Sub-queries -/

/-- A sub-query of one column as a value. -/
def subquery (t : Ty) (q : Statement Expr) : TypedExpr := ⟨t, .node (.subquery q)⟩

/-- Whether a sub-query has rows, or has none. -/
def existence (q : Statement Expr) (negated : Bool) : TypedExpr :=
  ⟨.bool, .node (.existence q negated)⟩

end TypedExpr

end SqlBuilder
