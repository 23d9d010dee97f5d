import SqlBuilder.Proofs.Calls
import SqlBuilder.Proofs.Results

/-!
# The expressions that terms make

A term makes its expression from those of the variables by the operations on typed expressions.  What
these operations have in common is said here once: which node they make, and of which types the
operands are.

* `Node.isOperation` : the nodes whose operands are values;
* `Made rule env e` : `e` is made from the expressions of `env`, with `rule` kept by the calls that
  are made on the way; operations have values as results, and columns are those of rows or of what a
  column holds;
* **`Term.eval_made`** : the expression of a term is made from those of the variables, and so are the
  expressions of the variables that are bound on the way;
* `Evaluation.each_made`, `Projection.eval_made` : so are lists of expressions and the results of
  bodies;
* `MadeOrder`, `MadeAssignment`, `MadeColumns` : what the arguments of calls are made of.
-/

namespace SqlBuilder

/-! ### Evaluations that succeed -/

/-- Demanding a class of types succeeds for the types of the class. -/
theorem TypedExpr.require_eq_ok {r : Requirement} {holds : Ty → Bool} {t : Ty} {u : Unit} :
    TypedExpr.require r holds t = .ok u ↔ holds t = true := by
  rw [require]
  split
  · rename_i fits
    simp [fits]
  · rename_i unfit
    simp [unfit]

/-- An operand of a given type is there when the type is that of the operand. -/
theorem TypedExpr.expect_eq_ok {t : Ty} {a : TypedExpr} {e : Expr} :
    a.expect t = .ok e ↔ a.type = t ∧ a.expr = e := by
  rw [expect]
  split
  · rename_i same
    simp [same]
  · rename_i other
    simp [other]

/-- A result that does not depend on variables leaves them as they are. -/
theorem Evaluation.fixed_eq_ok {α : Type} {r : Except TypeError α} {env env' : Env} {a : α} :
    Evaluation.fixed r env = .ok (a, env') ↔ r = .ok a ∧ env = env' := by
  cases r with
  | error e => simp [fixed]
  | ok b => simp [fixed]

/-- A computation after a result that does not depend on variables. -/
theorem Evaluation.fixed_bind_eq_ok {α β : Type} {r : Except TypeError α} {f : α → Evaluation β}
    {env : Env} {q : β × Env} : (fixed r >>= f) env = .ok q ↔ ∃ a, r = .ok a ∧ f a env = .ok q := by
  rw [bind_eq_ok]
  constructor
  · rintro ⟨a, env', there, h⟩
    obtain ⟨result, rfl⟩ := fixed_eq_ok.1 there
    exact ⟨a, result, h⟩
  · rintro ⟨a, there, h⟩
    exact ⟨a, env, fixed_eq_ok.2 ⟨there, rfl⟩, h⟩

theorem Evaluation.pure_eq_ok {α : Type} {a b : α} {env env' : Env} :
    (pure a : Evaluation α) env = .ok (b, env') ↔ a = b ∧ env = env' := by
  show Except.ok (a, env) = Except.ok (b, env') ↔ _
  simp

/-- The calls made after an evaluation that succeeds. -/
theorem Evaluation.callsWith_of_ok {α : Type} {x : Evaluation α} {env env' : Env} {a : α}
    (h : x env = .ok (a, env')) (f : α → Env → List Call) : x.callsWith f env = f a env' := by
  rw [callsWith, h]

/-! ### Types of values -/

namespace Ty

theorem isValue_of_isNumeric {t : Ty} (h : t.isNumeric = true) : t.isValue = true := by
  rw [isNumeric] at h
  rw [isValue]
  cases storage : t.storage? with
  | none =>
    rw [storage] at h
    cases h
  | some f => rfl

theorem isValue_of_isText {t : Ty} (h : t.isText = true) : t.isValue = true := by
  rw [isText, Bool.or_eq_true, beq_iff_eq, beq_iff_eq] at h
  rcases h with rfl | rfl
  · rfl
  · rfl

/-- Fields hold values. -/
theorem isValue_ofField (f : FieldDef) : (Ty.ofField f).isValue = true := by
  rw [ofField, ofStorage]
  cases f.nullable with
  | false | true => rfl

theorem isValue_orAbsent (t : Ty) : t.orAbsent.isValue = t.isValue := by
  cases t with
  | scalar f | row e | option t => rfl

end Ty

/-! ### Expressions made from others -/

/-- Whether a node applies to values.  A row is none; a column, the test for absence and a sub-query
stand apart, since they apply to rows too. -/
def Node.isOperation {ε : Type} : Node ε → Bool
  | .row _ | .field _ _ | .isNull _ | .subquery _ | .existence _ _ => false
  | _ => true

/-- Expressions made from those of the variables. -/
inductive Made (rule : Call → Prop) (env : Env) : TypedExpr → Prop where
  | variable {x : String} {e : TypedExpr} : (x, e) ∈ env → Made rule env e
  | just {a : TypedExpr} : Made rule env a → Made rule env a.just
  | column {a : TypedExpr} {t : Ty} {entity : Entity} (name : String) :
      a.type.entity? = some entity → rule (.column t) → Made rule env a →
      Made rule env ⟨t, .node (.field a.expr name)⟩
  | isNothing {a : TypedExpr} :
      rule (.isNothing a) → Made rule env a → Made rule env ⟨.bool, .node (.isNull a.expr)⟩
  | operation {n : Node Expr} {t : Ty} (as : List TypedExpr) :
      t.isValue = true → n.isOperation = true → n.children = as.map TypedExpr.expr →
      (∀ a ∈ as, a.type.isValue = true) → (∀ a ∈ as, Made rule env a) → Made rule env ⟨t, .node n⟩

namespace Made

variable {rule : Call → Prop} {env env' : Env}

/-- What is made from expressions that are made themselves. -/
theorem trans {e : TypedExpr} (bound : ∀ v ∈ env', Made rule env v.2) (h : Made rule env' e) :
    Made rule env e := by
  induction h with
  | «variable» mem => exact bound _ mem
  | just _ ih => exact .just ih
  | column name row kept _ ih => exact .column name row kept ih
  | isNothing kept _ ih => exact .isNothing kept ih
  | operation as value op operands values _ ih => exact .operation as value op operands values ih

/-- The variables are made from themselves. -/
theorem refl (env : Env) : ∀ v ∈ env, Made rule env v.2 := fun _ mem => .variable mem

/-- An operation without operands. -/
theorem constant {n : Node Expr} {t : Ty} (result : t.isValue = true) (op : n.isOperation = true)
    (none : n.children = []) : Made rule env ⟨t, .node n⟩ :=
  .operation [] result op none (fun _ mem => by cases mem) (fun _ mem => by cases mem)

/-- An operation with one operand. -/
theorem unary {n : Node Expr} {a : TypedExpr} {t : Ty} (result : t.isValue = true)
    (op : n.isOperation = true) (one : n.children = [a.expr]) (value : a.type.isValue = true)
    (made : Made rule env a) : Made rule env ⟨t, .node n⟩ := by
  refine .operation [a] result op one (fun b mem => ?_) (fun b mem => ?_)
  · rw [List.mem_singleton.1 mem]
    exact value
  · rw [List.mem_singleton.1 mem]
    exact made

/-- An operation with two operands. -/
theorem binary {n : Node Expr} {a b : TypedExpr} {t : Ty} (result : t.isValue = true)
    (op : n.isOperation = true) (two : n.children = [a.expr, b.expr])
    (value : a.type.isValue = true) (value' : b.type.isValue = true) (made : Made rule env a)
    (made' : Made rule env b) : Made rule env ⟨t, .node n⟩ := by
  refine .operation [a, b] result op two (fun c mem => ?_) (fun c mem => ?_)
  · rcases List.mem_pair.1 mem with rfl | rfl
    · exact value
    · exact value'
  · rcases List.mem_pair.1 mem with rfl | rfl
    · exact made
    · exact made'

end Made

/-! ### Each operation -/

section Operations

open TypedExpr

variable {rule : Call → Prop} {env : Env} {a b e : TypedExpr}

theorem made_literal {t : Ty} {l : Literal} (h : TypedExpr.literal t l = .ok e) :
    Made rule env e := by
  rw [TypedExpr.literal] at h
  split at h
  · rename_i v there
    cases h
    exact .constant (Literal.isValue_of_value? there) rfl rfl
  · cases h

theorem made_project {field : String} {given : Option Ty} (h : a.project field given = .ok e)
    (kept : rule (.column e.type)) (made : Made rule env a) : Made rule env e := by
  rw [project] at h
  split at h
  · rename_i entity type
    obtain ⟨t, _, same⟩ := Except.bind_eq_ok_iff.1 h
    cases same
    have row : a.type.entity? = some entity := by
      rw [type]
      rfl
    exact .column field row kept made
  · cases h

theorem made_projectMaybe {field : String} {given : Option Ty}
    (h : a.projectMaybe field given = .ok e) (kept : rule (.column e.type))
    (made : Made rule env a) : Made rule env e := by
  rw [projectMaybe] at h
  split at h
  · rename_i entity type
    obtain ⟨t, _, h⟩ := Except.bind_eq_ok_iff.1 h
    obtain ⟨_, _, same⟩ := Except.bind_eq_ok_iff.1 h
    cases same
    have row : a.type.entity? = some entity := by
      rw [type]
      rfl
    exact .column field row kept made
  · cases h

theorem made_isNothing (h : a.isNothing = .ok e) (kept : rule (.isNothing a))
    (made : Made rule env a) : Made rule env e := by
  rw [isNothing] at h
  split at h
  · cases h
    exact .isNothing kept made
  · cases h

theorem made_coalesce (h : a.coalesce b = .ok e) (made : Made rule env a)
    (made' : Made rule env b) : Made rule env e := by
  obtain ⟨_, value, h⟩ := Except.bind_eq_ok_iff.1 h
  obtain ⟨x, operand, same⟩ := Except.bind_eq_ok_iff.1 h
  cases same
  rw [require_eq_ok] at value
  obtain ⟨type, rfl⟩ := expect_eq_ok.1 operand
  refine .binary value rfl rfl ?_ value made made'
  rw [type]
  exact value

theorem isValue_of_comparable {op : Comparison} {t : Ty} {u : Unit}
    (h : requireComparable op t = .ok u) : t.isValue = true := by
  cases op with
  | like => exact Ty.isValue_of_isText (require_eq_ok.1 h)
  | _ => exact require_eq_ok.1 h

theorem made_compare {op : Comparison} (h : TypedExpr.compare op a b = .ok e)
    (made : Made rule env a) (made' : Made rule env b) : Made rule env e := by
  obtain ⟨_, comparable, h⟩ := Except.bind_eq_ok_iff.1 h
  obtain ⟨x, operand, same⟩ := Except.bind_eq_ok_iff.1 h
  cases same
  have value := isValue_of_comparable comparable
  obtain ⟨type, rfl⟩ := expect_eq_ok.1 operand
  refine .binary rfl rfl rfl value ?_ made made'
  rw [type]
  exact value

theorem made_inList {ls : List Literal} {negated : Bool} (h : a.inList ls negated = .ok e)
    (made : Made rule env a) : Made rule env e := by
  obtain ⟨_, value, h⟩ := Except.bind_eq_ok_iff.1 h
  obtain ⟨vs, _, same⟩ := Except.bind_eq_ok_iff.1 h
  cases same
  exact .unary rfl rfl rfl (require_eq_ok.1 value) made

theorem made_logical {op : LogicalOp} (h : TypedExpr.logical op a b = .ok e)
    (made : Made rule env a) (made' : Made rule env b) : Made rule env e := by
  obtain ⟨x, left, h⟩ := Except.bind_eq_ok_iff.1 h
  obtain ⟨y, right, same⟩ := Except.bind_eq_ok_iff.1 h
  cases same
  obtain ⟨type, rfl⟩ := expect_eq_ok.1 left
  obtain ⟨type', rfl⟩ := expect_eq_ok.1 right
  refine .binary rfl rfl rfl ?_ ?_ made made'
  · rw [type]
    rfl
  · rw [type']
    rfl

theorem made_not (h : a.not = .ok e) (made : Made rule env a) : Made rule env e := by
  obtain ⟨x, operand, same⟩ := Except.bind_eq_ok_iff.1 h
  cases same
  obtain ⟨type, rfl⟩ := expect_eq_ok.1 operand
  refine .unary rfl rfl rfl ?_ made
  rw [type]
  rfl

theorem made_arithmetic {op : Arithmetic} (h : TypedExpr.arithmetic op a b = .ok e)
    (made : Made rule env a) (made' : Made rule env b) : Made rule env e := by
  obtain ⟨_, numeric, h⟩ := Except.bind_eq_ok_iff.1 h
  obtain ⟨x, operand, same⟩ := Except.bind_eq_ok_iff.1 h
  cases same
  have value := Ty.isValue_of_isNumeric (require_eq_ok.1 numeric)
  obtain ⟨type, rfl⟩ := expect_eq_ok.1 operand
  refine .binary value rfl rfl value ?_ made made'
  rw [type]
  exact value

theorem made_countRows {n : Ty} (h : TypedExpr.countRows n = .ok e) : Made rule env e := by
  obtain ⟨_, numeric, same⟩ := Except.bind_eq_ok_iff.1 h
  cases same
  exact .constant (Ty.isValue_of_isNumeric (require_eq_ok.1 numeric)) rfl rfl

theorem made_count {distinct : Bool} {n : Ty} (h : a.count distinct n = .ok e)
    (made : Made rule env a) : Made rule env e := by
  obtain ⟨_, numeric, h⟩ := Except.bind_eq_ok_iff.1 h
  obtain ⟨_, value, same⟩ := Except.bind_eq_ok_iff.1 h
  cases same
  have result := Ty.isValue_of_isNumeric (require_eq_ok.1 numeric)
  exact .unary result rfl rfl (require_eq_ok.1 value) made

theorem made_aggregate {f : AggregateFunction} (h : a.aggregate f = .ok e)
    (made : Made rule env a) : Made rule env e := by
  obtain ⟨_, aggregable, same⟩ := Except.bind_eq_ok_iff.1 h
  cases same
  have value : a.type.isValue = true := by
    cases f with
    | sum | average => exact Ty.isValue_of_isNumeric (require_eq_ok.1 aggregable)
    | count | minimum | maximum => exact require_eq_ok.1 aggregable
  exact .unary (a.type.isValue_orAbsent.trans value) rfl rfl value made

end Operations

/-! ### Terms -/

/-- The result of an evaluation is good for the variables before it, and all that it binds is made
from them. -/
def Evaluation.Makes {α : Type} (rule : Call → Prop) (Good : Env → α → Prop) (x : Evaluation α)
    (calls : Env → List Call) : Prop :=
  ∀ env a env', x env = .ok (a, env') → (∀ c ∈ calls env, rule c) →
    Good env a ∧ ∀ v ∈ env', Made rule env v.2

section Terms

variable {rule : Call → Prop}

/-- Binding a variable to an expression that is made. -/
theorem made_bound {env env' : Env} {x : String} {e : TypedExpr} (made : Made rule env e)
    (bound : ∀ v ∈ env', Made rule env v.2) : ∀ v ∈ (x, e) :: env', Made rule env v.2 := by
  intro v mem
  rcases List.mem_cons.1 mem with rfl | old
  · exact made
  · exact bound v old

/-- A step that is done again and again. -/
theorem makes_again {x : String} {body : Evaluation TypedExpr} {calls : Env → List Call}
    (makes : body.Makes rule (Made rule) calls) : ∀ (n : Nat) (env : Env) (e last : TypedExpr) (env' : Env),
    Evaluation.again (body >>= Evaluation.bindTo x) n e env = .ok (last, env') →
    (∀ c ∈ Evaluation.callsAgain (body >>= Evaluation.bindTo x) calls n env, rule c) →
    Made rule env e → Made rule env last ∧ ∀ v ∈ env', Made rule env v.2 := by
  intro n
  induction n with
  | zero =>
    intro env e last env' h _ made
    obtain ⟨rfl, rfl⟩ := Evaluation.pure_eq_ok.1 h
    exact ⟨made, .refl _⟩
  | succ n ih =>
    intro env e last env' h kept made
    obtain ⟨a, env₁, ran, h⟩ := Evaluation.bind_eq_ok.1 h
    obtain ⟨b, env₂, evaluated, bound⟩ := Evaluation.bind_eq_ok.1 ran
    cases bound
    rw [Evaluation.callsAgain, Evaluation.callsWith_of_ok ran, List.forall_mem_append] at kept
    obtain ⟨kept_now, kept_later⟩ := kept
    obtain ⟨made_now, bound⟩ := makes _ _ _ evaluated kept_now
    have bound' := made_bound (x := x) made_now bound
    obtain ⟨made_last, bound_last⟩ := ih _ _ _ _ h kept_later (.variable List.mem_cons_self)
    exact ⟨made_last.trans bound', fun v mem => (bound_last v mem).trans bound'⟩

/-- **A term makes its expression from those of the variables**, and all that it binds. -/
theorem Term.eval_made (t : Term) : t.eval.Makes rule (Made rule) t.calls := by
  -- an operand first, then an operation on it that leaves the variables as they are
  have one {s : Term} (ih : s.eval.Makes rule (Made rule) s.calls)
      {f : TypedExpr → Except TypeError TypedExpr} {env env' : Env} {e : TypedExpr}
      (h : (s.eval >>= fun a => Evaluation.fixed (f a)) env = .ok (e, env'))
      (kept : ∀ c ∈ s.calls env, rule c)
      (makes : ∀ a env₁, s.eval env = .ok (a, env₁) → f a = .ok e → Made rule env a →
        Made rule env e) : Made rule env e ∧ ∀ v ∈ env', Made rule env v.2 := by
    obtain ⟨a, env₁, operand, h⟩ := Evaluation.bind_eq_ok.1 h
    obtain ⟨applied, rfl⟩ := Evaluation.fixed_eq_ok.1 h
    obtain ⟨made, bound⟩ := ih _ _ _ operand kept
    exact ⟨makes a env₁ operand applied made, bound⟩
  -- two operands, the second with what the first has bound
  have two {s s' : Term} (ih : s.eval.Makes rule (Made rule) s.calls)
      (ih' : s'.eval.Makes rule (Made rule) s'.calls)
      {f : TypedExpr → TypedExpr → Except TypeError TypedExpr} {env env' : Env} {e : TypedExpr}
      (h : (s.eval >>= fun a => s'.eval >>= fun b => Evaluation.fixed (f a b)) env =
        .ok (e, env'))
      (kept : ∀ c ∈ s.calls env ++ s.eval.callsWith (fun _ => s'.calls) env, rule c)
      (makes : ∀ a b, f a b = .ok e → Made rule env a → Made rule env b → Made rule env e) :
      Made rule env e ∧ ∀ v ∈ env', Made rule env v.2 := by
    obtain ⟨a, env₁, left, h⟩ := Evaluation.bind_eq_ok.1 h
    obtain ⟨b, env₂, right, h⟩ := Evaluation.bind_eq_ok.1 h
    obtain ⟨applied, rfl⟩ := Evaluation.fixed_eq_ok.1 h
    rw [Evaluation.callsWith_of_ok left, List.forall_mem_append] at kept
    obtain ⟨made, bound⟩ := ih _ _ _ left kept.1
    obtain ⟨made', bound'⟩ := ih' _ _ _ right kept.2
    exact ⟨makes a b applied made (made'.trans bound), fun v mem => (bound' v mem).trans bound⟩
  induction t with
  | var x =>
    intro env e env' h _
    rw [Term.eval, Evaluation.lookup] at h
    cases found : env.lookup x with
    | none =>
      rw [found] at h
      cases h
    | some a =>
      rw [found] at h
      cases h
      obtain ⟨earlier, later, split, _⟩ := List.lookup_eq_some_iff.1 found
      rw [split]
      exact ⟨.variable (List.mem_append_right _ List.mem_cons_self), .refl _⟩
  | literal t l =>
    intro env e env' h _
    obtain ⟨value, rfl⟩ := Evaluation.fixed_eq_ok.1 h
    exact ⟨made_literal value, .refl _⟩
  | nothing f =>
    intro env e env' h _
    obtain ⟨rfl, rfl⟩ := Evaluation.pure_eq_ok.1 h
    exact ⟨.constant rfl rfl rfl, .refl _⟩
  | just s ih =>
    intro env e env' h kept
    obtain ⟨a, env₁, operand, h⟩ := Evaluation.bind_eq_ok.1 h
    obtain ⟨rfl, rfl⟩ := Evaluation.pure_eq_ok.1 h
    obtain ⟨made, bound⟩ := ih _ _ _ operand kept
    exact ⟨.just made, bound⟩
  | project s field given ih =>
    intro env e env' h kept
    rw [Term.calls, Evaluation.callsWith_of_ok h, List.forall_mem_append] at kept
    have taken := kept.2 _ (List.mem_singleton_self _)
    exact one ih h kept.1 fun _ _ _ applied => made_project applied taken
  | projectMaybe s field given ih =>
    intro env e env' h kept
    rw [Term.calls, Evaluation.callsWith_of_ok h, List.forall_mem_append] at kept
    have taken := kept.2 _ (List.mem_singleton_self _)
    exact one ih h kept.1 fun _ _ _ applied => made_projectMaybe applied taken
  | isNothing s ih =>
    intro env e env' h kept
    rw [Term.calls, List.forall_mem_append] at kept
    refine one ih h kept.1 fun a env₁ operand applied made => made_isNothing applied ?_ made
    apply kept.2
    rw [Evaluation.callsWith_of_ok operand]
    exact List.mem_singleton_self _
  | coalesce s s' ih ih' =>
    intro env e env' h kept
    exact two ih ih' h kept fun _ _ => made_coalesce
  | compare op s s' ih ih' =>
    intro env e env' h kept
    exact two ih ih' h kept fun _ _ => made_compare
  | inList s ls negated ih =>
    intro env e env' h kept
    exact one ih h kept fun _ _ _ => made_inList
  | logical op s s' ih ih' =>
    intro env e env' h kept
    exact two ih ih' h kept fun _ _ => made_logical
  | not s ih =>
    intro env e env' h kept
    exact one ih h kept fun _ _ _ => made_not
  | arithmetic op s s' ih ih' =>
    intro env e env' h kept
    exact two ih ih' h kept fun _ _ => made_arithmetic
  | countRows n =>
    intro env e env' h _
    obtain ⟨counted, rfl⟩ := Evaluation.fixed_eq_ok.1 h
    exact ⟨made_countRows counted, .refl _⟩
  | count distinct n s ih =>
    intro env e env' h kept
    exact one ih h kept fun _ _ _ => made_count
  | aggregate f s ih =>
    intro env e env' h kept
    exact one ih h kept fun _ _ _ => made_aggregate
  | loop times x init body ih ih' =>
    intro env e env' h kept
    obtain ⟨a, env₁, start, h⟩ := Evaluation.bind_eq_ok.1 h
    obtain ⟨b, env₂, bound, h⟩ := Evaluation.bind_eq_ok.1 h
    cases bound
    rw [Term.calls, Evaluation.callsWith_of_ok start, List.forall_mem_append] at kept
    obtain ⟨made, bound⟩ := ih _ _ _ start kept.1
    have bound' := made_bound (x := x) made bound
    obtain ⟨made_last, bound_last⟩ :=
      makes_again ih' times _ _ _ _ h kept.2 (.variable List.mem_cons_self)
    exact ⟨made_last.trans bound', fun v mem => (bound_last v mem).trans bound'⟩

end Terms

/-! ### Lists and results of bodies -/

section Lists

variable {rule : Call → Prop}

/-- The results of a list, provided a result that is good for variables made from others is good for
those. -/
theorem Evaluation.each_made {α β : Type} {f : α → Evaluation β} {calls : α → Env → List Call}
    {Good : Env → β → Prop}
    (makes : ∀ a, (f a).Makes rule Good (calls a))
    (carry : ∀ env env' b, Good env' b → (∀ v ∈ env', Made rule env v.2) → Good env b)
    (as : List α) :
    (each f as).Makes rule (fun env bs => ∀ b ∈ bs, Good env b) (callsEach f calls as) := by
  induction as with
  | nil =>
    intro env bs env' h _
    obtain ⟨rfl, rfl⟩ := Evaluation.pure_eq_ok.1 h
    refine ⟨fun b mem => ?_, .refl _⟩
    cases mem
  | cons a as ih =>
    intro env bs env' h kept
    obtain ⟨b, env₁, first, h⟩ := Evaluation.bind_eq_ok.1 h
    obtain ⟨rest, env₂, later, same⟩ := Evaluation.bind_eq_ok.1 h
    obtain ⟨rfl, rfl⟩ := Evaluation.pure_eq_ok.1 same
    rw [callsEach, Evaluation.callsWith_of_ok first, List.forall_mem_append] at kept
    obtain ⟨good, bound⟩ := makes a _ _ _ first kept.1
    obtain ⟨good_later, bound_later⟩ := ih _ _ _ later kept.2
    refine ⟨fun c mem => ?_, fun v mem => (bound_later v mem).trans bound⟩
    rcases List.mem_cons.1 mem with rfl | mem
    · exact good
    · exact carry _ _ _ (good_later c mem) bound

namespace Projection

mutual

/-- The expressions of the result of a body are made from the variables. -/
theorem eval_made : ∀ p : Projection Term,
    (eval p).Makes rule (fun env r => ∀ e ∈ r.leaves, Made rule env e) (calls p)
  | .unit => by
    intro env r env' h _
    obtain ⟨rfl, rfl⟩ := Evaluation.pure_eq_ok.1 h
    refine ⟨fun e mem => ?_, .refl _⟩
    cases mem
  | .leaf t => by
    intro env r env' h kept
    obtain ⟨e, env₁, evaluated, same⟩ := Evaluation.bind_eq_ok.1 h
    obtain ⟨rfl, rfl⟩ := Evaluation.pure_eq_ok.1 same
    obtain ⟨made, bound⟩ := t.eval_made _ _ _ evaluated kept
    refine ⟨fun e' mem => ?_, bound⟩
    rw [List.mem_singleton.1 mem]
    exact made
  | .tuple ps => by
    intro env r env' h kept
    obtain ⟨qs, env₁, evaluated, same⟩ := Evaluation.bind_eq_ok.1 h
    obtain ⟨rfl, rfl⟩ := Evaluation.pure_eq_ok.1 same
    exact evalAll_made ps _ _ _ evaluated kept

theorem evalAll_made : ∀ ps : List (Projection Term),
    (evalAll ps).Makes rule (fun env rs => ∀ e ∈ leavesAll rs, Made rule env e) (callsAll ps)
  | [] => by
    intro env rs env' h _
    obtain ⟨rfl, rfl⟩ := Evaluation.pure_eq_ok.1 h
    refine ⟨fun e mem => ?_, .refl _⟩
    cases mem
  | p :: ps => by
    intro env rs env' h kept
    obtain ⟨r, env₁, first, h⟩ := Evaluation.bind_eq_ok.1 h
    obtain ⟨rest, env₂, later, same⟩ := Evaluation.bind_eq_ok.1 h
    obtain ⟨rfl, rfl⟩ := Evaluation.pure_eq_ok.1 same
    rw [callsAll, Evaluation.callsWith_of_ok first, List.forall_mem_append] at kept
    obtain ⟨made, bound⟩ := eval_made p _ _ _ first kept.1
    obtain ⟨made_later, bound_later⟩ := evalAll_made ps _ _ _ later kept.2
    refine ⟨fun e mem => ?_, fun v mem => (bound_later v mem).trans bound⟩
    rw [leavesAll, List.mem_append] at mem
    rcases mem with here | there
    · exact made e here
    · exact (made_later e there).trans bound

end

end Projection

/-! ### Arguments of calls -/

variable (rule) in
/-- A directive of an ordering whose expression is made from the variables. -/
def MadeOrder (env : Env) (d : OrderTerm Expr) : Prop :=
  ∃ e, Made rule env e ∧ rule (.order e) ∧ d.expr = e.expr

variable (rule) in
/-- An assignment to a field of a given row, whose value is made from the variables. -/
def MadeAssignmentTo (target : Expr) (env : Env) (a : Assignment Expr) : Prop :=
  a.target = target ∧ ∃ e, Made rule env e ∧ e.type.isValue = true ∧ a.value = e.expr

variable (rule) in
/-- An assignment to a field of a row, value and row made from the variables. -/
def MadeAssignment (env : Env) (a : Assignment Expr) : Prop :=
  ∃ r, Made rule env r ∧ MadeAssignmentTo rule r.expr env a

variable (rule) in
/-- A result column that is made from the variables. -/
def MadeColumn (env : Env) (c : Expr) : Prop := ∃ e, Made rule env e ∧ c = e.expr

variable (rule) in
/-- The result columns of a sub-query, made from the variables.  One that is used as a value has one
column, which is a value of the same type. -/
def MadeColumns (env : Env) : SubqueryForm → List Expr → Prop
  | .existence _, cs => ∀ c ∈ cs, MadeColumn rule env c
  | .scalar _ t, cs => t.isValue = true ∧ ∃ e, Made rule env e ∧ e.type = t ∧ cs = [e.expr]

theorem MadeColumns.each {env : Env} {form : SubqueryForm} {columns : List Expr}
    (h : MadeColumns rule env form columns) : ∀ c ∈ columns, MadeColumn rule env c := by
  cases form with
  | existence negated => exact h
  | scalar distinct t =>
    obtain ⟨_, e, made, _, rfl⟩ := h
    exact List.forall_mem_singleton.2 ⟨e, made, rfl⟩

theorem MadeOrder.carry {env env' : Env} {d : OrderTerm Expr} (h : MadeOrder rule env' d)
    (bound : ∀ v ∈ env', Made rule env v.2) : MadeOrder rule env d := by
  obtain ⟨e, made, kept, same⟩ := h
  exact ⟨e, made.trans bound, kept, same⟩

theorem MadeAssignmentTo.carry {target : Expr} {env env' : Env} {a : Assignment Expr}
    (h : MadeAssignmentTo rule target env' a) (bound : ∀ v ∈ env', Made rule env v.2) :
    MadeAssignmentTo rule target env a := by
  obtain ⟨same, e, made, value, same'⟩ := h
  exact ⟨same, e, made.trans bound, value, same'⟩

theorem Term.predicate_made (t : Term) :
    t.predicate.Makes rule (fun env p => Made rule env ⟨.bool, p⟩) t.calls := by
  intro env p env' h kept
  obtain ⟨e, env₁, evaluated, h⟩ := Evaluation.bind_eq_ok.1 h
  obtain ⟨operand, rfl⟩ := Evaluation.fixed_eq_ok.1 h
  obtain ⟨type, rfl⟩ := TypedExpr.expect_eq_ok.1 operand
  obtain ⟨made, bound⟩ := t.eval_made _ _ _ evaluated kept
  rw [← type]
  exact ⟨made, bound⟩

theorem orderTerm_made (d : SortOrder × Term) :
    (orderTerm d).Makes rule (MadeOrder rule) (orderCalls d) := by
  intro env o env' h kept
  obtain ⟨e, env₁, evaluated, same⟩ := Evaluation.bind_eq_ok.1 h
  obtain ⟨rfl, rfl⟩ := Evaluation.pure_eq_ok.1 same
  rw [orderCalls, Evaluation.callsWith_of_ok evaluated, List.forall_mem_append] at kept
  obtain ⟨made, bound⟩ := d.2.eval_made _ _ _ evaluated kept.1
  exact ⟨⟨e, made, kept.2 _ (List.mem_singleton_self _), rfl⟩, bound⟩

theorem isValue_of_fieldType {entity : Entity} {field : String} {t : Ty}
    (h : TypedExpr.fieldType entity field none = .ok t) : t.isValue = true := by
  rw [TypedExpr.fieldType] at h
  split at h
  · rename_i f _
    cases h
    exact Ty.isValue_ofField f
  · cases h

theorem assignment_made (entity : Entity) (target : Expr) (a : String × UpdateOp × Term) :
    (assignment entity target a).Makes rule (MadeAssignmentTo rule target) a.2.2.calls := by
  intro env b env' h kept
  obtain ⟨t, declared, h⟩ := Evaluation.fixed_bind_eq_ok.1 h
  obtain ⟨_, _, h⟩ := Evaluation.fixed_bind_eq_ok.1 h
  obtain ⟨e, env₁, evaluated, h⟩ := Evaluation.bind_eq_ok.1 h
  obtain ⟨value, operand, same⟩ := Evaluation.fixed_bind_eq_ok.1 h
  obtain ⟨rfl, rfl⟩ := Evaluation.pure_eq_ok.1 same
  obtain ⟨type, rfl⟩ := TypedExpr.expect_eq_ok.1 operand
  obtain ⟨made, bound⟩ := a.2.2.eval_made _ _ _ evaluated kept
  refine ⟨⟨rfl, e, made, ?_, rfl⟩, bound⟩
  rw [type]
  exact isValue_of_fieldType declared

theorem assignments_made (row : Term) (as : List (String × UpdateOp × Term)) :
    (assignments row as).Makes rule (fun env as => ∀ a ∈ as, MadeAssignment rule env a)
      (fun env => row.calls env ++ row.eval.callsWith (assignedCalls as) env) := by
  intro env assigned env' h kept
  obtain ⟨r, env₁, evaluated, h⟩ := Evaluation.bind_eq_ok.1 h
  obtain ⟨kept, later⟩ := List.forall_mem_append.1 kept
  rw [Evaluation.callsWith_of_ok evaluated, assignedCalls] at later
  obtain ⟨made, bound⟩ := row.eval_made _ _ _ evaluated kept
  cases type : r.type with
  | row entity =>
    rw [type] at h later
    obtain ⟨good, bound'⟩ := Evaluation.each_made (assignment_made entity r.expr)
      (fun _ _ _ => MadeAssignmentTo.carry) as _ _ _ h later
    refine ⟨fun a mem => ⟨r, made, ?_⟩, fun v mem => (bound' v mem).trans bound⟩
    exact (good a mem).carry bound
  | scalar f | option t =>
    rw [type] at h
    obtain ⟨failed, _⟩ := Evaluation.fixed_eq_ok.1 h
    cases failed

theorem orderTerms_made (ts : List (SortOrder × Term)) :
    (Evaluation.each orderTerm ts).Makes rule (fun env os => ∀ o ∈ os, MadeOrder rule env o)
      (Evaluation.callsEach orderTerm orderCalls ts) :=
  Evaluation.each_made orderTerm_made (fun _ _ _ => MadeOrder.carry) ts

theorem subqueryColumns_made (form : SubqueryForm) (result : Projection Term) :
    (subqueryColumns form result).Makes rule (fun env => MadeColumns rule env form) result.calls := by
  intro env columns env' h kept
  obtain ⟨p, env₁, evaluated, h⟩ := Evaluation.bind_eq_ok.1 h
  obtain ⟨made, bound⟩ := Projection.eval_made result _ _ _ evaluated kept
  cases form with
  | existence negated =>
    obtain ⟨rfl, rfl⟩ := Evaluation.pure_eq_ok.1 h
    refine ⟨fun c mem => ?_, bound⟩
    obtain ⟨e, leaf, rfl⟩ := List.mem_map.1 mem
    exact ⟨e, made e leaf, rfl⟩
  | scalar distinct t =>
    cases p with
    | leaf e =>
      obtain ⟨_, value, h⟩ := Evaluation.fixed_bind_eq_ok.1 h
      obtain ⟨column, operand, same⟩ := Evaluation.fixed_bind_eq_ok.1 h
      obtain ⟨rfl, rfl⟩ := Evaluation.pure_eq_ok.1 same
      obtain ⟨type, rfl⟩ := TypedExpr.expect_eq_ok.1 operand
      have column := made e (List.mem_singleton_self _)
      exact ⟨⟨TypedExpr.require_eq_ok.1 value, e, column, type, rfl⟩, bound⟩
    | unit | tuple ps =>
      obtain ⟨failed, _⟩ := Evaluation.fixed_eq_ok.1 h
      cases failed

end Lists

end SqlBuilder
