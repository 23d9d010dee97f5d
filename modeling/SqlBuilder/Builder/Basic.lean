import SqlBuilder.Builder.Alias
import SqlBuilder.Error
import SqlBuilder.Statement.JoinTree
import SqlBuilder.Statement.Text

/-!
# The builder

A builder gathers the clauses of one statement.  Joins wait for their ON predicate on a stack, and an
ON predicate goes to the join that was registered last.

* `Builder` : the statement so far, the joins that wait and the aliases handed out;
* `Builder.introduce`, `Builder.registerJoin` : bringing tables and joins in;
* `Builder.attach` : the ON predicate, with the causes `AttachError` of its failure;
* `Builder.sheltered`, `Builder.reunited` : a fragment with a stack of its own, and its end;
* `Builder.nested`, `Builder.resumed` : a sub-query with the aliases handed on, and its end.
-/

namespace SqlBuilder

/-- The clauses gathered for one statement. -/
structure Builder where
  statement : Statement Expr
  /-- The positions of the joins that wait for an ON predicate, the latest first. -/
  pending : List Nat
  aliases : AliasBook

/-- Why an ON predicate could not be attached. -/
inductive AttachError where
  | noPendingJoin (predicate : Expr)
  /-- A position that waits holds no join. -/
  | notAJoin (id : Nat) (predicate : Expr)

namespace AttachError

/-- What a caller is told when an ON predicate could not be attached. -/
def toError : AttachError → Error
  | .noPendingJoin p =>
    .unmatchedPredicate
      ("no join is waiting for an ON clause (predicate: " ++ p.text ++ ")")
  | .notAJoin id p =>
    .unmatchedPredicate
      ("pending registration " ++ RenderError.numeral id ++ " is not a join (predicate: " ++
        p.text ++ ")")

end AttachError

namespace FromClause

variable {ε : Type}

/-- Adds a registration, which gets the next position. -/
def push (c : FromClause ε) (r : Registration ε) : FromClause ε :=
  { c with registrations := c.registrations ++ [r] }

/-- Stores the predicate of the join at a position; nothing if there is no join. -/
def setPredicate? (c : FromClause ε) (id : Nat) (p : ε) : Option (FromClause ε) :=
  match c.get? id with
  | some (.join j) =>
    some { c with registrations := c.registrations.set id (.join { j with predicate := some p }) }
  | _ => none

end FromClause

namespace Builder

/-- A builder with nothing in it that goes on with given aliases. -/
def startWith (kind : StatementKind) (aliases : AliasBook) : Builder := ⟨.empty kind, [], aliases⟩

/-- A builder with nothing in it. -/
def start (kind : StatementKind) : Builder := startWith kind .empty

/-- Changes the statement. -/
def update (b : Builder) (f : Statement Expr → Statement Expr) : Builder :=
  { b with statement := f b.statement }

/-- The position that the next registration gets. -/
def nextId (b : Builder) : Nat := b.statement.source.registrations.length

/-- Adds a registration. -/
def register (b : Builder) (r : Registration Expr) : Builder :=
  b.update fun q => { q with source := q.source.push r }

/-- The scope that a table gets when it is brought in now. -/
def nextScope (b : Builder) (e : Entity) (nullable : Bool) : Scope :=
  let allocation := b.aliases.allocate e.table
  ⟨allocation.1, e.table, allocation.2.1, nullable, e.fields⟩

/-- Brings a table in under a fresh alias. -/
def introduce (b : Builder) (e : Entity) (nullable : Bool) : Builder :=
  { b.register (.scope (b.nextScope e nullable)) with
    aliases := (b.aliases.allocate e.table).2.2 }

/-- Joins two registrations.  The join waits for its ON predicate, whatever its kind. -/
def registerJoin (b : Builder) (kind : JoinKind) (left right : Nat) : Builder :=
  { b.register (.join ⟨kind, left, right, none⟩) with pending := b.nextId :: b.pending }

/-- Lists a registration at top level. -/
def addRoot (b : Builder) (id : Nat) : Builder :=
  b.update fun q => { q with source := { q.source with roots := q.source.roots ++ [id] } }

/-! ### Clauses -/

/-- Attaches an ON predicate to the latest join that waits for one. -/
def attach (b : Builder) (p : Expr) : Except AttachError Builder :=
  match b.pending with
  | [] => .error (.noPendingJoin p)
  | id :: pending =>
    match b.statement.source.setPredicate? id p with
    | some source => .ok { b.update (fun q => { q with source := source }) with pending := pending }
    | none => .error (.notAJoin id p)

/-- Adds a predicate that rows must meet. -/
def filter (b : Builder) (p : Expr) : Builder :=
  b.update fun q => { q with filters := q.filters ++ [p] }

/-- Adds an expression to group by. -/
def group (b : Builder) (e : Expr) : Builder :=
  b.update fun q => { q with grouping := q.grouping ++ [e] }

/-- Adds a predicate that groups must meet. -/
def having (b : Builder) (p : Expr) : Builder :=
  b.update fun q => { q with having := q.having ++ [p] }

/-- Adds directives to the ordering. -/
def order (b : Builder) (ts : List (OrderTerm Expr)) : Builder :=
  b.update fun q => { q with ordering := q.ordering ++ ts }

/-- Sets the limit, in place of an earlier one. -/
def limit (b : Builder) (n : Nat) : Builder := b.update fun q => { q with limit := some n }

/-- Sets the offset, in place of an earlier one. -/
def offset (b : Builder) (n : Nat) : Builder := b.update fun q => { q with offset := some n }

/-- Asks for different rows only. -/
def distinct (b : Builder) : Builder := b.update fun q => { q with distinct := true }

/-- Adds assignments.  Every kind of statement takes them; only an UPDATE can be rendered with them. -/
def assign (b : Builder) (as : List (Assignment Expr)) : Builder :=
  b.update fun q => { q with assignments := q.assignments ++ as }

/-! ### Fragments and sub-queries -/

/-- The builder as a sheltered fragment sees it: no join waits. -/
def sheltered (b : Builder) : Builder := { b with pending := [] }

/-- The builder after a sheltered fragment: the joins it left waiting lie on top of those that waited
before it. -/
def reunited (after before : Builder) : Builder :=
  { after with pending := after.pending ++ before.pending }

/-- The builder of a sub-query: a SELECT of its own that goes on with the aliases. -/
def nested (b : Builder) : Builder := startWith .select b.aliases

/-- The builder after a sub-query, which hands the aliases back and changes nothing else. -/
def resumed (b inner : Builder) : Builder := { b with aliases := inner.aliases }

/-- The finished statement with its result columns. -/
def finish (b : Builder) (columns : List Expr) : Statement Expr :=
  { b.statement with columns := b.statement.columns ++ columns }

end Builder

end SqlBuilder
