import SqlBuilder.Program.Run

/-!
# The calls of a run

Some statements about programs speak of the calls that a run makes: that it brings in tables in one
way only, or never hands a whole row to an operation for values.  This file lists the calls of a run
with the arguments that they get, those of fragments and sub-queries included; calls that no statement
asks about are left out.

* `Call` : the calls that are listed;
* `Term.calls`, `Projection.calls` : those made while a term or the result of a body is evaluated;
* `Step.calls`, `callsAll` : those of a step and of a body, up to the one that fails;
* `Program.calls` : those of a program.
-/

namespace SqlBuilder

/-- A call with its arguments. -/
inductive Call where
  | introduce (shape : Shape String)
  /-- An operand is registered and not listed at top level. -/
  | register (operand : Operand String)
  /-- A predicate is offered to a builder, whether or not a join takes it. -/
  | attach (b : Builder) (p : Expr)
  | group (e : TypedExpr)
  | order (e : TypedExpr)
  | assign
  | isNothing (e : TypedExpr)
  /-- A field of a row is taken, which gives an expression of this type. -/
  | column (t : Ty)

/-! ### Terms -/

/-- The calls made with the result of an evaluation, if it has one. -/
def Evaluation.callsWith {α : Type} (x : Evaluation α) (f : α → Env → List Call) (env : Env) :
    List Call :=
  match x env with
  | .ok (a, env') => f a env'
  | .error _ => []

/-- The calls made in the evaluation of a list. -/
def Evaluation.callsEach {α β : Type} (f : α → Evaluation β) (calls : α → Env → List Call) :
    List α → Env → List Call
  | [], _ => []
  | a :: as, env => calls a env ++ (f a).callsWith (fun _ => callsEach f calls as) env

/-- The calls made in a step that is done a number of times. -/
def Evaluation.callsAgain (step : Evaluation TypedExpr) (calls : Env → List Call) :
    Nat → Env → List Call
  | 0, _ => []
  | n + 1, env => calls env ++ step.callsWith (fun _ => callsAgain step calls n) env

/-- The calls made in the evaluation of a term. -/
def Term.calls : Term → Env → List Call
  | .var _, _ | .literal _ _, _ | .nothing _, _ | .countRows _, _ => []
  | .just e, env | .inList e _ _, env | .not e, env | .count _ _ e, env | .aggregate _ e, env =>
    e.calls env
  | .project e field given, env =>
    e.calls env ++ (Term.project e field given).eval.callsWith (fun a _ => [.column a.type]) env
  | .projectMaybe e field given, env =>
    e.calls env ++ (Term.projectMaybe e field given).eval.callsWith (fun a _ => [.column a.type]) env
  | .isNothing e, env => e.calls env ++ e.eval.callsWith (fun a _ => [.isNothing a]) env
  | .coalesce l r, env | .compare _ l r, env | .logical _ l r, env | .arithmetic _ l r, env =>
    l.calls env ++ l.eval.callsWith (fun _ => r.calls) env
  | .loop times x init body, env =>
    init.calls env ++ init.eval.callsWith (fun a env' =>
      Evaluation.callsAgain (body.eval >>= Evaluation.bindTo x) body.calls times
        ((x, a) :: env')) env

namespace Projection

mutual

/-- The calls made in the evaluation of the result of a body. -/
def calls : Projection Term → Env → List Call
  | .unit, _ => []
  | .leaf t, env => t.calls env
  | .tuple ps, env => callsAll ps env

def callsAll : List (Projection Term) → Env → List Call
  | [], _ => []
  | p :: ps, env => calls p env ++ (eval p).callsWith (fun _ => callsAll ps) env

end

end Projection

/-- The calls made in the evaluation of a directive of an ordering, and the directive itself. -/
def orderCalls (d : SortOrder × Term) (env : Env) : List Call :=
  d.2.calls env ++ d.2.eval.callsWith (fun e _ => [.order e]) env

/-- The calls made in the evaluation of assignments to a row. -/
def assignedCalls (as : List (String × UpdateOp × Term)) (row : TypedExpr) (env : Env) :
    List Call :=
  match row.type with
  | .row entity => Evaluation.callsEach (assignment entity row.expr) (fun a => a.2.2.calls) as env
  | _ => []

/-! ### Steps -/

/-- The calls made after a run, by whether it succeeded. -/
def callsAfter (r : Except TypeError Outcome) (succeeded failed : Outcome → List Call) :
    List Call :=
  match r with
  | .error _ => []
  | .ok o =>
    match o.failure with
    | none => succeeded o
    | some _ => failed o

mutual

/-- The calls of a step. -/
def Step.calls : Step → Builder → Env → List Call
  | .introduce shape, _, _ => [.introduce shape]
  | .register operand, _, _ => [.register operand]
  | .define _ t _, _, env | .filter t, _, env | .having t, _, env => t.calls env
  | .list _ _, _, _ | .limit _, _, _ | .offset _, _, _ | .distinct, _, _ | .dump, _, _ => []
  | .attach t, b, env => t.calls env ++ t.predicate.callsWith (fun p _ => [.attach b p]) env
  | .group t, _, env => t.calls env ++ t.eval.callsWith (fun e _ => [.group e]) env
  | .order ts, _, env => Evaluation.callsEach orderTerm orderCalls ts env
  | .assign row as _, _, env =>
    .assign :: (row.calls env ++ row.eval.callsWith (assignedCalls as) env)
  | .inPlace body, b, env => callsAll body b env
  | .isolated body, b, env => callsAll body b.sheltered env
  | .both first second, b, env =>
    callsAll first b.sheltered env ++
      callsAfter (runAll first b.sheltered env)
        (fun o => callsAll second (o.builder.reunited b).sheltered o.env) (fun _ => [])
  | .subquery _ _ body result, b, env =>
    callsAll body b.nested env ++
      callsAfter (runAll body b.nested env) (fun o => result.calls o.env) (fun _ => [])
  | .attempt call succeeded failed, b, env =>
    call.calls b env ++
      callsAfter (call.run b env) (fun o => callsAll succeeded o.builder o.env)
        (fun o => callsAll failed o.builder o.env)

/-- The calls of a body, up to the one that fails. -/
def callsAll : List Step → Builder → Env → List Call
  | [], _, _ => []
  | s :: ss, b, env =>
    s.calls b env ++
      callsAfter (s.run b env) (fun o => callsAll ss o.builder o.env) (fun _ => [])

end

/-- The calls of a program. -/
def Program.calls (p : Program) : List Call :=
  callsAll p.body (.start p.kind) [] ++
    callsAfter (runAll p.body (.start p.kind) []) (fun o => p.result.calls o.env) (fun _ => [])

end SqlBuilder
