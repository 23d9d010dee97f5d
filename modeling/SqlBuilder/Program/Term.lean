import SqlBuilder.Program.TypedExpr

/-!
# Terms

The expressions a program writes: operations on variables and literals.  Evaluating a term gives a
typed expression; a loop also leaves its variable bound.

* `Term` : the terms;
* `Evaluation` : results that depend on the variables bound so far and may bind more;
* `Term.eval` : the typed expression of a term;
* `Projection` : what a body returns as its result columns, nested in tuples.
-/

namespace SqlBuilder

/-- A term. -/
inductive Term where
  | var (x : String)
  | literal (t : Ty) (l : Literal)
  | nothing (f : FieldType)
  | just (e : Term)
  | project (e : Term) (field : String) (given : Option Ty)
  | projectMaybe (e : Term) (field : String) (given : Option Ty)
  | isNothing (e : Term)
  | coalesce (e instead : Term)
  | compare (op : Comparison) (l r : Term)
  | inList (e : Term) (ls : List Literal) (negated : Bool)
  | logical (op : LogicalOp) (l r : Term)
  | not (e : Term)
  | arithmetic (op : Arithmetic) (l r : Term)
  | countRows (n : Ty)
  | count (distinct : Bool) (n : Ty) (e : Term)
  | aggregate (f : AggregateFunction) (e : Term)
  /-- Binds `x` to `init` and then, a number of times, to `body`. -/
  | loop (times : Nat) (x : String) (init body : Term)

/-- The variables bound so far, the latest binding first. -/
abbrev Env := List (String × TypedExpr)

/-- A result that depends on the variables and may bind more. -/
abbrev Evaluation (α : Type) := StateT Env (Except TypeError) α

namespace Evaluation

/-- The value of a variable. -/
def lookup (x : String) : Evaluation TypedExpr := fun env =>
  match env.lookup x with
  | some e => .ok (e, env)
  | none => .error (.unbound x)

/-- Binds a variable. -/
def bindTo (x : String) (e : TypedExpr) : Evaluation TypedExpr := fun env => .ok (e, (x, e) :: env)

/-- A result that does not depend on variables. -/
def fixed {α : Type} (r : Except TypeError α) : Evaluation α := fun env =>
  match r with
  | .ok a => .ok (a, env)
  | .error e => .error e

/-- Does a computation a number of times after a result is there; the last result counts. -/
def again (step : Evaluation TypedExpr) : Nat → TypedExpr → Evaluation TypedExpr
  | 0, e => pure e
  | n + 1, _ => do
    let e ← step
    again step n e

/-- The results of a list of computations. -/
def each {α β : Type} (f : α → Evaluation β) : List α → Evaluation (List β)
  | [] => pure []
  | a :: as => do
    let b ← f a
    let bs ← each f as
    return b :: bs

/-- A computation after another succeeds exactly when both do. -/
theorem bind_eq_ok {α β : Type} {x : Evaluation α} {f : α → Evaluation β} {env : Env}
    {r : β × Env} :
    (x >>= f) env = .ok r ↔ ∃ a env', x env = .ok (a, env') ∧ f a env' = .ok r := by
  show (x env >>= fun p => f p.1 p.2) = .ok r ↔ _
  cases x env with
  | error e => simp [bind, Except.bind]
  | ok p =>
    show f p.1 p.2 = .ok r ↔ _
    constructor
    · exact fun h => ⟨p.1, p.2, rfl, h⟩
    · rintro ⟨a, env', e, h⟩
      cases e
      exact h

end Evaluation

open Evaluation in
/-- The typed expression of a term. -/
def Term.eval : Term → Evaluation TypedExpr
  | .var x => lookup x
  | .literal t l => fixed (TypedExpr.literal t l)
  | .nothing f => pure (.nothing f)
  | .just e => do
    let a ← e.eval
    return a.just
  | .project e field given => do
    let a ← e.eval
    fixed (a.project field given)
  | .projectMaybe e field given => do
    let a ← e.eval
    fixed (a.projectMaybe field given)
  | .isNothing e => do
    let a ← e.eval
    fixed a.isNothing
  | .coalesce e instead => do
    let a ← e.eval
    let b ← instead.eval
    fixed (a.coalesce b)
  | .compare op l r => do
    let a ← l.eval
    let b ← r.eval
    fixed (TypedExpr.compare op a b)
  | .inList e ls negated => do
    let a ← e.eval
    fixed (a.inList ls negated)
  | .logical op l r => do
    let a ← l.eval
    let b ← r.eval
    fixed (TypedExpr.logical op a b)
  | .not e => do
    let a ← e.eval
    fixed a.not
  | .arithmetic op l r => do
    let a ← l.eval
    let b ← r.eval
    fixed (TypedExpr.arithmetic op a b)
  | .countRows n => fixed (TypedExpr.countRows n)
  | .count distinct n e => do
    let a ← e.eval
    fixed (a.count distinct n)
  | .aggregate f e => do
    let a ← e.eval
    fixed (a.aggregate f)
  | .loop times x init body => do
    let a ← init.eval
    let e ← bindTo x a
    again (do
      let b ← body.eval
      bindTo x b) times e

/-! ### Results of a body -/

/-- What a body returns: nothing, one expression, or a tuple of such results. -/
inductive Projection (α : Type) where
  | unit
  | leaf (a : α)
  | tuple (ps : List (Projection α))

namespace Projection

variable {α : Type}

mutual

/-- The expressions of a result from left to right. -/
def leaves : Projection α → List α
  | .unit => []
  | .leaf a => [a]
  | .tuple ps => leavesAll ps

def leavesAll : List (Projection α) → List α
  | [] => []
  | p :: ps => leaves p ++ leavesAll ps

end

mutual

/-- The typed expressions of a result. -/
def eval : Projection Term → Evaluation (Projection TypedExpr)
  | .unit => pure .unit
  | .leaf t => do
    let e ← t.eval
    return .leaf e
  | .tuple ps => do
    let qs ← evalAll ps
    return .tuple qs

def evalAll : List (Projection Term) → Evaluation (List (Projection TypedExpr))
  | [] => pure []
  | p :: ps => do
    let q ← eval p
    let qs ← evalAll ps
    return q :: qs

end

end Projection

end SqlBuilder
