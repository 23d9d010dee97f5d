import SqlBuilder.Builder.Shape
import SqlBuilder.Program.Term

/-!
# Programs

A program builds one statement by a list of steps, each of which is a call on the builder.  Running it
gives the statement, or the error that ended it, and a transcript of what each step did.

* `Step` : the calls, with the bodies of fragments and sub-queries inside them;
* `Step.run`, `runAll` : running steps on a builder.  A step that fails ends the body it stands in,
  unless it is attempted, and then the program goes on by its success or failure;
* `Program.run` : running a whole program.
-/

namespace SqlBuilder

/-- What a sub-query becomes in the statement around it. -/
inductive SubqueryForm where
  /-- The value of its one column. -/
  | scalar (distinct : Bool) (type : Ty)
  /-- Whether it has rows, or has none. -/
  | existence (negated : Bool)

/-- A call on the builder. -/
inductive Step where
  /-- Brings a shape into the statement and binds a variable to each of its rows. -/
  | introduce (shape : Shape String)
  /-- Registers an operand without listing it at top level. -/
  | register (operand : Operand String)
  | define (x : String) (t : Term) (detailed : Bool)
  | list (t : Ty) (ls : List Literal)
  | attach (t : Term)
  | filter (t : Term)
  | group (t : Term)
  | having (t : Term)
  | order (ts : List (SortOrder × Term))
  | limit (n : Nat)
  | offset (n : Nat)
  | distinct
  | assign (row : Term) (as : List (String × UpdateOp × Term)) (detailed : Bool)
  /-- Runs a fragment in place. -/
  | inPlace (body : List Step)
  /-- Runs a fragment with a stack of waiting joins of its own. -/
  | isolated (body : List Step)
  /-- Runs two fragments one after the other, each isolated. -/
  | both (first second : List Step)
  | subquery (x : String) (form : SubqueryForm) (body : List Step) (result : Projection Term)
  | dump
  /-- Makes a call and goes on with one body if it succeeds and with another if it fails. -/
  | attempt (call : Step) (succeeded failed : List Step)

/-- The clauses whose calls have nothing more to tell. -/
inductive Clause where
  | filter | group | having | order | limit | offset | distinct
  deriving DecidableEq, Repr

/-- What a call did. -/
inductive Event (ε : Type) where
  | introduced (scopes : List Scope) (kinds : List JoinKind) (roots : List Nat)
  | registered (id : Nat) (scopes : List Scope)
  | defined (e : TypedExpr) (detailed : Bool)
  | listed (length : Nat)
  /-- A predicate was offered, and the join at this position took it. -/
  | attached (id : Option Nat)
  | clause (c : Clause)
  | assigned (as : List (Assignment Expr)) (detailed : Bool)
  | inPlace (entries : List ε)
  | isolated (entries : List ε)
  | both (first second : List ε)
  | subquery (form : SubqueryForm) (entries : List ε)
  | dumped (q : Statement Expr)

/-- An entry of a transcript: what a call did, how many joins wait after it, and its error if it
failed. -/
inductive Entry where
  | entry (event : Event Entry) (pending : Nat) (failure : Option AttachError)

/-- Where a run stands: the builder, the variables, the transcript so far, and the error that ended
the run if one did. -/
structure Outcome where
  builder : Builder
  env : Env
  entries : List Entry
  failure : Option AttachError

namespace Outcome

/-- The outcome of a call that did one thing. -/
def single (b : Builder) (env : Env) (event : Event Entry) (failure : Option AttachError) :
    Outcome :=
  ⟨b, env, [.entry event b.pending.length failure], failure⟩

/-- The outcome of a call that succeeded. -/
def done (b : Builder) (env : Env) (event : Event Entry) : Outcome := single b env event none

/-- An outcome with earlier entries in front of its own. -/
def after (o : Outcome) (earlier : List Entry) : Outcome :=
  { o with entries := earlier ++ o.entries }

end Outcome

/-! ### Arguments of calls -/

open Evaluation

/-- The expression of a term that is a truth value. -/
def Term.predicate (t : Term) : Evaluation Expr := do
  let e ← t.eval
  fixed (e.expect .bool)

/-- One directive of an ordering. -/
def orderTerm (d : SortOrder × Term) : Evaluation (OrderTerm Expr) := do
  let e ← d.2.eval
  return ⟨e.expr, d.1⟩

/-- What an assignment asks of the type of its field. -/
def requireAssignable : UpdateOp → Ty → Except TypeError Unit
  | .assign, _ => .ok ()
  | _, t => TypedExpr.require .numeric Ty.isNumeric t

/-- One assignment to a field of a row, whose value has the type of the field. -/
def assignment (entity : Entity) (target : Expr) (a : String × UpdateOp × Term) :
    Evaluation (Assignment Expr) := do
  let t ← fixed (TypedExpr.fieldType entity a.1 none)
  fixed (requireAssignable a.2.1 t)
  let e ← a.2.2.eval
  let value ← fixed (e.expect t)
  return ⟨target, a.1, a.2.1, value⟩

/-- Assignments to the fields of a row. -/
def assignments (row : Term) (as : List (String × UpdateOp × Term)) :
    Evaluation (List (Assignment Expr)) := do
  let r ← row.eval
  match r.type with
  | .row entity => each (assignment entity r.expr) as
  | t => fixed (.error (.unfit .row t))

/-- The result columns of a sub-query.  One that is used as a value returns a single expression of the
type it is used at. -/
def subqueryColumns (form : SubqueryForm) (result : Projection Term) : Evaluation (List Expr) := do
  let p ← result.eval
  match form, p with
  | .existence _, p => return p.leaves.map TypedExpr.expr
  | .scalar _ t, .leaf e => do
    fixed (TypedExpr.require .value Ty.isValue t)
    let column ← fixed (e.expect t)
    return [column]
  | .scalar _ _, _ => fixed (.error .unfitResult)

/-- The expression that a finished sub-query becomes. -/
def SubqueryForm.embed (form : SubqueryForm) (q : Statement Expr) : TypedExpr :=
  match form with
  | .scalar _ t => .subquery t q
  | .existence negated => .existence q negated

/-- The statement of a sub-query whose body has run. -/
def SubqueryForm.finish (form : SubqueryForm) (inner : Builder) (columns : List Expr) :
    Statement Expr :=
  match form with
  | .scalar true _ => inner.distinct.finish columns
  | _ => inner.finish columns

/-- The variables bound to the rows of a shape. -/
def bindRows (leaves : List (String × Scope)) (env : Env) : Env :=
  leaves.foldl (fun env l => (l.1, .ofScope l.2) :: env) env

/-! ### Running steps -/

mutual

/-- Runs a call on a builder. -/
def Step.run : Step → Builder → Env → Except TypeError Outcome
  | .introduce shape, b, env =>
    let (b', leaves) := shape.introduce b
    .ok (.done b' (bindRows leaves env)
      (.introduced (leaves.map Prod.snd) shape.kinds b'.statement.source.roots))
  | .register operand, b, env =>
    let r := operand.register b
    .ok (.done r.builder (bindRows r.leaves env) (.registered r.id (r.leaves.map Prod.snd)))
  | .define x t detailed, b, env => do
    let (e, env) ← t.eval env
    return .done b ((x, e) :: env) (.defined e detailed)
  | .list t ls, b, env => do
    let vs ← TypedExpr.literals t ls
    return .done b env (.listed vs.length)
  | .attach t, b, env => do
    let (p, env) ← t.predicate env
    match b.attach p with
    | .ok b' => return .done b' env (.attached b.pending.head?)
    | .error e => return .single b env (.attached none) (some e)
  | .filter t, b, env => do
    let (p, env) ← t.predicate env
    return .done (b.filter p) env (.clause .filter)
  | .group t, b, env => do
    let (e, env) ← t.eval env
    return .done (b.group e.expr) env (.clause .group)
  | .having t, b, env => do
    let (p, env) ← t.predicate env
    return .done (b.having p) env (.clause .having)
  | .order ts, b, env => do
    let (os, env) ← each orderTerm ts env
    return .done (b.order os) env (.clause .order)
  | .limit n, b, env => .ok (.done (b.limit n) env (.clause .limit))
  | .offset n, b, env => .ok (.done (b.offset n) env (.clause .offset))
  | .distinct, b, env => .ok (.done b.distinct env (.clause .distinct))
  | .assign row as detailed, b, env => do
    let (as, env) ← assignments row as env
    return .done (b.assign as) env (.assigned as detailed)
  | .inPlace body, b, env => do
    let o ← runAll body b env
    return .single o.builder o.env (.inPlace o.entries) o.failure
  | .isolated body, b, env => do
    let o ← runAll body b.sheltered env
    return .single (o.builder.reunited b) o.env (.isolated o.entries) o.failure
  | .both first second, b, env => do
    let o ← runAll first b.sheltered env
    let b' := o.builder.reunited b
    match o.failure with
    | some e => return .single b' o.env (.both o.entries []) (some e)
    | none => do
      let o' ← runAll second b'.sheltered o.env
      return .single (o'.builder.reunited b') o'.env (.both o.entries o'.entries) o'.failure
  | .subquery x form body result, b, env => do
    let o ← runAll body b.nested env
    let b' := b.resumed o.builder
    match o.failure with
    | some e => return .single b' o.env (.subquery form o.entries) (some e)
    | none => do
      let (columns, env) ← subqueryColumns form result o.env
      let e := form.embed (form.finish o.builder columns)
      return .done b' ((x, e) :: env) (.subquery form o.entries)
  | .dump, b, env => .ok (.done b env (.dumped b.statement))
  | .attempt call succeeded failed, b, env => do
    let o ← call.run b env
    match o.failure with
    | none => do
      let o' ← runAll succeeded o.builder o.env
      return o'.after o.entries
    | some _ => do
      let o' ← runAll failed o.builder o.env
      return o'.after o.entries

/-- Runs calls one after the other up to the first that fails. -/
def runAll : List Step → Builder → Env → Except TypeError Outcome
  | [], b, env => .ok ⟨b, env, [], none⟩
  | s :: ss, b, env => do
    let o ← s.run b env
    match o.failure with
    | some _ => return o
    | none => do
      let o' ← runAll ss o.builder o.env
      return o'.after o.entries

end

/-! ### Whole programs -/

/-- A program: the kind of statement, the calls that build it, and what it returns. -/
structure Program where
  kind : StatementKind
  body : List Step
  result : Projection Term

/-- What a run leaves behind. -/
structure Transcript where
  entries : List Entry
  result : Except AttachError (Statement Expr)

/-- Whether a statement of a kind may return something. -/
def Projection.fits {α : Type} : Projection α → StatementKind → Bool
  | _, .select => true
  | .unit, _ => true
  | _, _ => false

/-- Runs a program from an empty builder. -/
def Program.run (p : Program) : Except TypeError Transcript :=
  if p.result.fits p.kind then do
    let o ← runAll p.body (.start p.kind) []
    match o.failure with
    | some e => return ⟨o.entries, .error e⟩
    | none => do
      let (r, _) ← p.result.eval o.env
      return ⟨o.entries, .ok (o.builder.finish (r.leaves.map TypedExpr.expr))⟩
  else .error .unfitResult

end SqlBuilder
