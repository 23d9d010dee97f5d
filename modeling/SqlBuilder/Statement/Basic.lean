import SqlBuilder.Entity
import SqlBuilder.Value

/-!
# Statements and expressions

A statement holds expressions, and an expression may hold statements.  Both are described once, over
an arbitrary type `ε` of what stands in the place of an expression; an `Expr` is a `Node` whose
places are taken by expressions again.

* `Scope`, `Join`, `Registration`, `FromClause` : what a statement selects from;
* `Statement` : the clauses of a statement;
* `Node`, `Expr` : the forms of expressions;
* `Node.map`, `Statement.map` : replacing what stands in the places;
* `Expr.fold` : computing a result from the bottom up, with `fold_node` as its equation.
-/

namespace SqlBuilder

/-! ### Sources -/

/-- One table brought into a statement, under an alias of its own. -/
structure Scope where
  id : Nat
  table : String
  aliasName : String
  /-- Whether the row may be missing, as on the far side of an outer join. -/
  nullable : Bool
  fields : List FieldDef
  deriving DecidableEq, Repr

/-- A join of two earlier registrations. -/
structure Join (ε : Type) where
  kind : JoinKind
  left : Nat
  right : Nat
  predicate : Option ε

/-- An entry of a from-clause: a table or a join. -/
inductive Registration (ε : Type) where
  | scope (s : Scope)
  | join (j : Join ε)

/-- What a statement selects from.  A registration is known by its position; the roots are the
positions listed at top level. -/
structure FromClause (ε : Type) where
  registrations : List (Registration ε)
  roots : List Nat

/-- The clause that selects from nothing. -/
def FromClause.empty {ε : Type} : FromClause ε := ⟨[], []⟩

/-! ### Statements -/

/-- One directive of an ordering. -/
structure OrderTerm (ε : Type) where
  expr : ε
  order : SortOrder

/-- One assignment `target.field op value`. -/
structure Assignment (ε : Type) where
  target : ε
  field : String
  op : UpdateOp
  value : ε

/-- The clauses of a statement.  The filters are conjoined, and so are the predicates of `having`. -/
structure Statement (ε : Type) where
  kind : StatementKind
  distinct : Bool
  columns : List ε
  source : FromClause ε
  filters : List ε
  grouping : List ε
  having : List ε
  ordering : List (OrderTerm ε)
  limit : Option Nat
  offset : Option Nat
  assignments : List (Assignment ε)

/-- The statement of a kind with no clause yet. -/
def Statement.empty {ε : Type} (kind : StatementKind) : Statement ε where
  kind := kind
  distinct := false
  columns := []
  source := .empty
  filters := []
  grouping := []
  having := []
  ordering := []
  limit := none
  offset := none
  assignments := []

/-! ### Expressions -/

/-- The forms of an expression, with `ε` in the places of its operands. -/
inductive Node (ε : Type) where
  /-- A whole row of a scope. -/
  | row (s : Scope)
  | field (base : ε) (name : String)
  | literal (v : Value)
  | compare (left : ε) (op : Comparison) (right : ε)
  | logical (left : ε) (op : LogicalOp) (right : ε)
  | not (e : ε)
  | arithmetic (left : ε) (op : Arithmetic) (right : ε)
  | isNull (e : ε)
  | countRows
  | aggregate (f : AggregateFunction) (distinct : Bool) (arg : ε)
  | inList (e : ε) (values : List Value) (negated : Bool)
  | coalesce (args : List ε)
  | subquery (q : Statement ε)
  | existence (q : Statement ε) (negated : Bool)

/-- An expression. -/
inductive Expr where
  | node (n : Node Expr)

/-! ### Replacing what stands in the places -/

section Map

variable {α β : Type} (f : α → β)

def Join.map (j : Join α) : Join β := ⟨j.kind, j.left, j.right, j.predicate.map f⟩

def Registration.map : Registration α → Registration β
  | .scope s => .scope s
  | .join j => .join (j.map f)

def FromClause.map (c : FromClause α) : FromClause β :=
  ⟨c.registrations.map (Registration.map f), c.roots⟩

def OrderTerm.map (t : OrderTerm α) : OrderTerm β := ⟨f t.expr, t.order⟩

def Assignment.map (a : Assignment α) : Assignment β :=
  ⟨f a.target, a.field, a.op, f a.value⟩

def Statement.map (q : Statement α) : Statement β where
  kind := q.kind
  distinct := q.distinct
  columns := q.columns.map f
  source := q.source.map f
  filters := q.filters.map f
  grouping := q.grouping.map f
  having := q.having.map f
  ordering := q.ordering.map (OrderTerm.map f)
  limit := q.limit
  offset := q.offset
  assignments := q.assignments.map (Assignment.map f)

def Node.map : Node α → Node β
  | .row s => .row s
  | .field base name => .field (f base) name
  | .literal v => .literal v
  | .compare l op r => .compare (f l) op (f r)
  | .logical l op r => .logical (f l) op (f r)
  | .not e => .not (f e)
  | .arithmetic l op r => .arithmetic (f l) op (f r)
  | .isNull e => .isNull (f e)
  | .countRows => .countRows
  | .aggregate g d e => .aggregate g d (f e)
  | .inList e vs n => .inList (f e) vs n
  | .coalesce es => .coalesce (es.map f)
  | .subquery q => .subquery (q.map f)
  | .existence q n => .existence (q.map f) n

end Map

/-! ### Computing from the bottom up -/

section Fold

variable {α : Type} (alg : Node α → α)

mutual

/-- The result of an expression, computed by `alg` from the results of its operands. -/
def Expr.fold : Expr → α
  | .node n => alg (foldNode n)

/-- A node with the results of its operands. -/
def foldNode : Node Expr → Node α
  | .row s => .row s
  | .field base name => .field (Expr.fold base) name
  | .literal v => .literal v
  | .compare l op r => .compare (Expr.fold l) op (Expr.fold r)
  | .logical l op r => .logical (Expr.fold l) op (Expr.fold r)
  | .not e => .not (Expr.fold e)
  | .arithmetic l op r => .arithmetic (Expr.fold l) op (Expr.fold r)
  | .isNull e => .isNull (Expr.fold e)
  | .countRows => .countRows
  | .aggregate f d e => .aggregate f d (Expr.fold e)
  | .inList e vs n => .inList (Expr.fold e) vs n
  | .coalesce es => .coalesce (foldList es)
  | .subquery q => .subquery (foldStatement q)
  | .existence q n => .existence (foldStatement q) n

/-- The results of a list of expressions. -/
def foldList : List Expr → List α
  | [] => []
  | e :: es => Expr.fold e :: foldList es

def foldOption : Option Expr → Option α
  | none => none
  | some e => some (Expr.fold e)

def foldJoin : Join Expr → Join α
  | ⟨kind, left, right, predicate⟩ => ⟨kind, left, right, foldOption predicate⟩

def foldRegistration : Registration Expr → Registration α
  | .scope s => .scope s
  | .join j => .join (foldJoin j)

def foldRegistrations : List (Registration Expr) → List (Registration α)
  | [] => []
  | r :: rs => foldRegistration r :: foldRegistrations rs

def foldFromClause : FromClause Expr → FromClause α
  | ⟨registrations, roots⟩ => ⟨foldRegistrations registrations, roots⟩

def foldOrderTerm : OrderTerm Expr → OrderTerm α
  | ⟨e, order⟩ => ⟨Expr.fold e, order⟩

def foldOrderTerms : List (OrderTerm Expr) → List (OrderTerm α)
  | [] => []
  | t :: ts => foldOrderTerm t :: foldOrderTerms ts

def foldAssignment : Assignment Expr → Assignment α
  | ⟨target, field, op, value⟩ => ⟨Expr.fold target, field, op, Expr.fold value⟩

def foldAssignments : List (Assignment Expr) → List (Assignment α)
  | [] => []
  | a :: as => foldAssignment a :: foldAssignments as

/-- A statement with the results of its expressions. -/
def foldStatement : Statement Expr → Statement α
  | ⟨kind, distinct, columns, source, filters, grouping, having, ordering, limit, offset,
      assignments⟩ =>
    ⟨kind, distinct, foldList columns, foldFromClause source, foldList filters, foldList grouping,
      foldList having, foldOrderTerms ordering, limit, offset, foldAssignments assignments⟩

end

/-! ### The parts of a fold are maps -/

theorem foldList_eq_map (es : List Expr) : foldList alg es = es.map (Expr.fold alg) := by
  induction es with
  | nil => rfl
  | cons e es ih => simp only [foldList, List.map_cons, ih]

theorem foldOption_eq_map (o : Option Expr) : foldOption alg o = o.map (Expr.fold alg) := by
  cases o <;> rfl

theorem foldRegistration_eq_map (r : Registration Expr) :
    foldRegistration alg r = r.map (Expr.fold alg) := by
  cases r with
  | scope s => rfl
  | join j =>
    obtain ⟨kind, left, right, predicate⟩ := j
    simp only [foldRegistration, foldJoin, Registration.map, Join.map, foldOption_eq_map]

theorem foldRegistrations_eq_map (rs : List (Registration Expr)) :
    foldRegistrations alg rs = rs.map (Registration.map (Expr.fold alg)) := by
  induction rs with
  | nil => rfl
  | cons r rs ih => simp only [foldRegistrations, List.map_cons, ih, foldRegistration_eq_map]

theorem foldFromClause_eq_map (c : FromClause Expr) :
    foldFromClause alg c = c.map (Expr.fold alg) := by
  obtain ⟨registrations, roots⟩ := c
  simp only [foldFromClause, FromClause.map, foldRegistrations_eq_map]

theorem foldOrderTerms_eq_map (ts : List (OrderTerm Expr)) :
    foldOrderTerms alg ts = ts.map (OrderTerm.map (Expr.fold alg)) := by
  induction ts with
  | nil => rfl
  | cons t ts ih =>
    obtain ⟨e, order⟩ := t
    simp only [foldOrderTerms, List.map_cons, ih, foldOrderTerm, OrderTerm.map]

theorem foldAssignments_eq_map (as : List (Assignment Expr)) :
    foldAssignments alg as = as.map (Assignment.map (Expr.fold alg)) := by
  induction as with
  | nil => rfl
  | cons a as ih =>
    obtain ⟨target, field, op, value⟩ := a
    simp only [foldAssignments, List.map_cons, ih, foldAssignment, Assignment.map]

theorem foldStatement_eq_map (q : Statement Expr) :
    foldStatement alg q = q.map (Expr.fold alg) := by
  cases q
  simp only [foldStatement, Statement.map, foldList_eq_map, foldFromClause_eq_map,
    foldOrderTerms_eq_map, foldAssignments_eq_map]

theorem foldNode_eq_map (n : Node Expr) : foldNode alg n = n.map (Expr.fold alg) := by
  cases n <;> simp only [foldNode, Node.map, foldList_eq_map, foldStatement_eq_map]

/-- The result of an expression is that of its node with each operand replaced by its result. -/
theorem Expr.fold_node (n : Node Expr) :
    (Expr.node n).fold alg = alg (n.map (Expr.fold alg)) := by
  rw [Expr.fold, foldNode_eq_map]

end Fold

/-! ### What stands in the places -/

section Parts

variable {α : Type}

def Registration.children : Registration α → List α
  | .scope _ => []
  | .join j => j.predicate.toList

/-- Every expression of a statement, clause by clause. -/
def Statement.children (q : Statement α) : List α :=
  q.columns ++ q.source.registrations.flatMap Registration.children ++ q.filters ++ q.grouping ++
    q.having ++ q.ordering.map OrderTerm.expr ++
    q.assignments.flatMap fun a => [a.target, a.value]

/-- Every operand of a node, expressions of an embedded statement included. -/
def Node.children : Node α → List α
  | .row _ | .literal _ | .countRows => []
  | .field e _ | .not e | .isNull e | .aggregate _ _ e | .inList e _ _ => [e]
  | .compare l _ r | .logical l _ r | .arithmetic l _ r => [l, r]
  | .coalesce es => es
  | .subquery q | .existence q _ => q.children

/-- The values written in a node itself. -/
def Node.values : Node α → List Value
  | .literal v => [v]
  | .inList _ vs _ => vs
  | _ => []

end Parts

/-- The scope that an expression is a whole row of. -/
def Expr.row? : Expr → Option Scope
  | .node (.row s) => some s
  | _ => none

/-- The tables of a from-clause in order of registration. -/
def FromClause.scopes {ε : Type} (c : FromClause ε) : List Scope :=
  c.registrations.filterMap fun
    | .scope s => some s
    | .join _ => none

/-- The joins of a from-clause in order of registration. -/
def FromClause.joins {ε : Type} (c : FromClause ε) : List (Join ε) :=
  c.registrations.filterMap fun
    | .scope _ => none
    | .join j => some j

/-! ### Equality with itself -/

/-- Whether an expression equals itself, which fails only where it holds not-a-number. -/
def Expr.isReflexive : Expr → Bool :=
  Expr.fold fun n => n.values.all Value.isReflexive && n.children.all id

/-- Whether a statement equals itself. -/
def Statement.isReflexive (q : Statement Expr) : Bool := q.children.all Expr.isReflexive

end SqlBuilder
