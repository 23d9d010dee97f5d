import SqlBuilder.Program.Run
import SqlBuilder.Proofs.Results

/-!
# What a fragment needs of its variables

Whether a term has a meaning depends on the types of the variables that it reads and on nothing else.
So a fragment may be taken to other surroundings as long as the variables it needs from outside have
the types they had before.

* `Term.needs`, `Step.needs`, `needsAll` : the variables that are read and not bound before;
* `Step.bound`, `boundAll` : those that are bound after a success;
* `Agree xs env env'` : the variables `xs` have the same types;
* **`Term.eval_agrees`** : where the needed variables agree, a term has no meaning for the same reason
  or expressions of one type, and the variables still agree;
* `Evaluation.Agrees.each`, `Projection.eval_agrees` : the same for lists and results of bodies.
-/

namespace SqlBuilder

/-! ### Variables -/

/-- The variables among `needs` that are not among `bound`. -/
def unbound (needs bound : List String) : List String := needs.filter fun x => !bound.contains x

theorem mem_unbound {x : String} {needs bound : List String} :
    x ∈ unbound needs bound ↔ x ∈ needs ∧ x ∉ bound := by
  rw [unbound, List.mem_filter, Bool.not_eq_true', ← Bool.not_eq_true, List.contains_iff_mem]

/-- The variables that a term reads and does not bind before. -/
def Term.needs : Term → List String
  | .var x => [x]
  | .literal _ _ | .nothing _ | .countRows _ => []
  | .just e | .project e _ _ | .projectMaybe e _ _ | .isNothing e | .inList e _ _ | .not e
  | .count _ _ e | .aggregate _ e => e.needs
  | .coalesce l r | .compare _ l r | .logical _ l r | .arithmetic _ l r => l.needs ++ r.needs
  | .loop _ x init body => init.needs ++ unbound body.needs [x]

/-- The variables that the result of a body reads. -/
def Projection.needs (p : Projection Term) : List String := p.leaves.flatMap Term.needs

/-- The tags of the leaves of an operand. -/
def Operand.tags {τ : Type} : Operand τ → List τ
  | .table _ tag | .nullable _ tag => [tag]
  | .join _ l r => l.tags ++ r.tags

/-- The tags of the leaves of a shape. -/
def Shape.tags {τ : Type} (s : Shape τ) : List τ := s.operands.flatMap Operand.tags

mutual

/-- The variables that a call binds if it succeeds. -/
def Step.bound : Step → List String
  | .introduce shape => shape.tags
  | .register operand => operand.tags
  | .define x _ _ => [x]
  | .inPlace body | .isolated body => boundAll body
  | .both first second => boundAll first ++ boundAll second
  | .subquery x _ body _ => x :: boundAll body
  | .attempt call succeeded failed =>
    (call.bound ++ boundAll succeeded).filter (boundAll failed).contains
  | .list _ _ | .attach _ | .filter _ | .group _ | .having _ | .order _ | .limit _ | .offset _
  | .distinct | .assign _ _ _ | .dump => []

/-- The variables that calls bind if all of them succeed. -/
def boundAll : List Step → List String
  | [] => []
  | s :: ss => s.bound ++ boundAll ss

end

mutual

/-- The variables that a call reads and that were not bound before in it. -/
def Step.needs : Step → List String
  | .introduce _ | .register _ | .list _ _ | .limit _ | .offset _ | .distinct | .dump => []
  | .define _ t _ | .attach t | .filter t | .group t | .having t => t.needs
  | .order ts => ts.flatMap fun d => d.2.needs
  | .assign row as _ => row.needs ++ as.flatMap fun a => a.2.2.needs
  | .inPlace body | .isolated body => needsAll body
  | .both first second => needsAll first ++ unbound (needsAll second) (boundAll first)
  | .subquery _ _ body result => needsAll body ++ unbound result.needs (boundAll body)
  | .attempt call succeeded failed =>
    call.needs ++ unbound (needsAll succeeded) call.bound ++ needsAll failed

/-- The variables that calls read and that were not bound before in them. -/
def needsAll : List Step → List String
  | [] => []
  | s :: ss => s.needs ++ unbound (needsAll ss) s.bound

end

/-- Some variables have the same types, or are unbound in both. -/
def Agree (xs : List String) (env env' : Env) : Prop :=
  ∀ x ∈ xs, (env.lookup x).map TypedExpr.type = (env'.lookup x).map TypedExpr.type

namespace Agree

variable {xs ys : List String} {env env' : Env}

theorem mono (h : Agree xs env env') (fewer : ∀ y ∈ ys, y ∈ xs) : Agree ys env env' :=
  fun y mem => h y (fewer y mem)

/-- A variable is bound to expressions of one type. -/
theorem bound (h : Agree xs env env') (x : String) {e e' : TypedExpr} (same : e.type = e'.type) :
    Agree (x :: xs) ((x, e) :: env) ((x, e') :: env') := by
  intro y mem
  rw [List.lookup_cons, List.lookup_cons]
  cases here : y == x with
  | true => exact congrArg some same
  | false =>
    rcases List.mem_cons.1 mem with rfl | old
    · rw [beq_self_eq_true] at here
      cases here
    · exact h y old

end Agree

/-- What is needed is bound or was needed from outside. -/
theorem mem_append_of_unbound {needs bound xs : List String}
    (enough : ∀ x ∈ unbound needs bound, x ∈ xs) : ∀ x ∈ needs, x ∈ bound ++ xs := by
  intro x mem
  by_cases here : x ∈ bound
  · exact List.mem_append_left _ here
  · exact List.mem_append_right _ (enough x (mem_unbound.2 ⟨mem, here⟩))

/-! ### Operations -/

/-- Two expressions have the same type. -/
def SameType (a b : TypedExpr) : Prop := a.type = b.type

section Operations

open TypedExpr

variable {a a' b b' : TypedExpr}

theorem related_expect (t : Ty) (same : SameType a a') :
    Except.Related (fun _ _ => True) (a.expect t) (a'.expect t) := by
  rw [expect, expect, show a.type = a'.type from same]
  split
  · exact .ok trivial
  · exact .error _

theorem related_project (field : String) (given : Option Ty) (same : SameType a a') :
    Except.Related SameType (a.project field given) (a'.project field given) := by
  rw [project, project, show a.type = a'.type from same]
  split
  · apply (Except.Related.refl _).bind
    rintro t _ rfl
    exact .ok rfl
  · exact .error _

theorem related_projectMaybe (field : String) (given : Option Ty) (same : SameType a a') :
    Except.Related SameType (a.projectMaybe field given) (a'.projectMaybe field given) := by
  rw [projectMaybe, projectMaybe, show a.type = a'.type from same]
  split
  · apply (Except.Related.refl _).bind
    rintro t _ rfl
    apply (Except.Related.refl _).bind
    rintro _ _ rfl
    exact .ok rfl
  · exact .error _

theorem related_isNothing (same : SameType a a') :
    Except.Related SameType a.isNothing a'.isNothing := by
  rw [isNothing, isNothing, show a.type = a'.type from same]
  split
  · exact .ok rfl
  · exact .error _

theorem related_coalesce (same : SameType a a') (same' : SameType b b') :
    Except.Related SameType (a.coalesce b) (a'.coalesce b') := by
  rw [coalesce, coalesce, show b.type = b'.type from same']
  apply (Except.Related.refl _).bind
  rintro _ _ rfl
  apply (related_expect _ same).bind
  intro _ _ _
  exact .ok rfl

theorem related_compare (op : Comparison) (same : SameType a a') (same' : SameType b b') :
    Except.Related SameType (TypedExpr.compare op a b) (TypedExpr.compare op a' b') := by
  rw [TypedExpr.compare, TypedExpr.compare, show a.type = a'.type from same]
  apply (Except.Related.refl _).bind
  rintro _ _ rfl
  apply (related_expect _ same').bind
  intro _ _ _
  exact .ok rfl

theorem related_inList (ls : List Literal) (negated : Bool) (same : SameType a a') :
    Except.Related SameType (a.inList ls negated) (a'.inList ls negated) := by
  rw [inList, inList, show a.type = a'.type from same]
  apply (Except.Related.refl _).bind
  rintro _ _ rfl
  apply (Except.Related.refl _).bind
  rintro vs _ rfl
  exact .ok rfl

theorem related_logical (op : LogicalOp) (same : SameType a a') (same' : SameType b b') :
    Except.Related SameType (TypedExpr.logical op a b) (TypedExpr.logical op a' b') := by
  apply (related_expect _ same).bind
  intro _ _ _
  apply (related_expect _ same').bind
  intro _ _ _
  exact .ok rfl

theorem related_not (same : SameType a a') : Except.Related SameType a.not a'.not := by
  apply (related_expect _ same).bind
  intro _ _ _
  exact .ok rfl

theorem related_arithmetic (op : Arithmetic) (same : SameType a a') (same' : SameType b b') :
    Except.Related SameType (TypedExpr.arithmetic op a b) (TypedExpr.arithmetic op a' b') := by
  rw [arithmetic, arithmetic, show a.type = a'.type from same]
  apply (Except.Related.refl _).bind
  rintro _ _ rfl
  apply (related_expect _ same').bind
  intro _ _ _
  exact .ok rfl

theorem related_count (distinct : Bool) (n : Ty) (same : SameType a a') :
    Except.Related SameType (a.count distinct n) (a'.count distinct n) := by
  rw [count, count, show a.type = a'.type from same]
  apply (Except.Related.refl _).bind
  rintro _ _ rfl
  apply (Except.Related.refl _).bind
  rintro _ _ rfl
  exact .ok rfl

theorem related_aggregate (f : AggregateFunction) (same : SameType a a') :
    Except.Related SameType (a.aggregate f) (a'.aggregate f) := by
  rw [aggregate, aggregate, show a.type = a'.type from same]
  apply (Except.Related.refl _).bind
  rintro _ _ rfl
  exact .ok rfl

end Operations

/-! ### Evaluations -/

/-- Where variables agree, two evaluations fail for the same reason or have related results, and the
variables still agree. -/
def Evaluation.Agrees {α β : Type} (xs : List String) (V : α → β → Prop) (x : Evaluation α)
    (y : Evaluation β) : Prop :=
  ∀ env env', Agree xs env env' →
    Except.Related (fun r s => V r.1 s.1 ∧ Agree xs r.2 s.2) (x env) (y env')

namespace Evaluation.Agrees

variable {α β γ δ : Type} {xs : List String} {V : α → β → Prop} {W : γ → δ → Prop}

theorem pure {a : α} {b : β} (h : V a b) :
    Agrees xs V (Pure.pure a : Evaluation α) (Pure.pure b : Evaluation β) :=
  fun _ _ agree => .ok ⟨h, agree⟩

/-- A result that does not depend on variables. -/
theorem fixed {r : Except TypeError α} {s : Except TypeError β} (h : Except.Related V r s) :
    Agrees xs V (Evaluation.fixed r) (Evaluation.fixed s) := by
  intro env env' agree
  cases h with
  | error e => exact .error e
  | ok value => exact .ok ⟨value, agree⟩

/-- An evaluation after another. -/
theorem bind {x : Evaluation α} {y : Evaluation β} {f : α → Evaluation γ} {g : β → Evaluation δ}
    (h : Agrees xs V x y) (next : ∀ a b, V a b → Agrees xs W (f a) (g b)) :
    Agrees xs W (x >>= f) (y >>= g) := by
  intro env env' agree
  show Except.Related _ (x env >>= fun p => f p.1 p.2) (y env' >>= fun p => g p.1 p.2)
  apply (h env env' agree).bind
  rintro ⟨a, env₁⟩ ⟨b, env₁'⟩ ⟨value, agree₁⟩
  exact next a b value env₁ env₁' agree₁

theorem mono {V' : α → β → Prop} {x : Evaluation α} {y : Evaluation β} (h : Agrees xs V x y)
    (weaker : ∀ a b, V a b → V' a b) : Agrees xs V' x y :=
  fun env env' agree => (h env env' agree).mono fun _ _ both => both.imp_left (weaker _ _)

/-- The evaluations of a list. -/
theorem each {f : α → Evaluation γ} {g : α → Evaluation δ} {as : List α}
    (h : ∀ a ∈ as, Agrees xs W (f a) (g a)) :
    Agrees xs (List.Forall₂ W) (Evaluation.each f as) (Evaluation.each g as) := by
  induction as with
  | nil => exact pure .nil
  | cons a as ih =>
    obtain ⟨first, rest⟩ := List.forall_mem_cons.1 h
    apply first.bind
    intro c d here
    apply (ih rest).bind
    intro cs ds later
    exact pure (.cons here later)

/-- A variable that is bound to related expressions. -/
theorem bindTo {e e' : TypedExpr} (x : String) (same : SameType e e') :
    Agrees xs SameType (Evaluation.bindTo x e) (Evaluation.bindTo x e') :=
  fun _ _ agree => .ok ⟨same, (agree.bound x same).mono fun _ mem => List.mem_cons_of_mem _ mem⟩

/-- A step that is done again and again. -/
theorem again {step step' : Evaluation TypedExpr} (h : Agrees xs SameType step step') :
    ∀ (n : Nat) (e e' : TypedExpr), SameType e e' →
      Agrees xs SameType (Evaluation.again step n e) (Evaluation.again step' n e') := by
  intro n
  induction n with
  | zero =>
    intro e e' same
    exact pure same
  | succ n ih =>
    intro e e' _
    exact h.bind fun a a' same => ih a a' same

end Evaluation.Agrees

open Evaluation (Agrees)

/-! ### Terms -/

/-- **Where the variables that a term needs agree**, it has no meaning for the same reason or
expressions of one type. -/
theorem Term.eval_agrees (t : Term) : ∀ {xs : List String}, (∀ x ∈ t.needs, x ∈ xs) →
    Agrees xs SameType t.eval t.eval := by
  induction t with
  | var x =>
    intro xs enough env env' agree
    have here := agree x (enough x (List.mem_singleton_self x))
    rw [Term.eval, Evaluation.lookup, Evaluation.lookup]
    cases found : env.lookup x with
    | none =>
      cases found' : env'.lookup x with
      | none => exact .error _
      | some e' =>
        rw [found, found'] at here
        cases here
    | some e =>
      cases found' : env'.lookup x with
      | none =>
        rw [found, found'] at here
        cases here
      | some e' =>
        rw [found, found'] at here
        exact .ok ⟨Option.some.inj here, agree⟩
  | literal t l =>
    intro xs _
    exact .fixed ((Except.Related.refl _).mono fun a b same => congrArg TypedExpr.type same)
  | nothing f =>
    intro xs _
    exact .pure rfl
  | just s ih =>
    intro xs enough
    exact (ih enough).bind fun a b same => .pure (congrArg Ty.option same)
  | project s field given ih =>
    intro xs enough
    exact (ih enough).bind fun a b same => .fixed (related_project field given same)
  | projectMaybe s field given ih =>
    intro xs enough
    exact (ih enough).bind fun a b same => .fixed (related_projectMaybe field given same)
  | isNothing s ih =>
    intro xs enough
    exact (ih enough).bind fun a b same => .fixed (related_isNothing same)
  | coalesce s s' ih ih' =>
    intro xs enough
    obtain ⟨first, second⟩ := List.forall_mem_append.1 enough
    exact (ih first).bind fun a b same => (ih' second).bind fun a' b' same' =>
      .fixed (related_coalesce same same')
  | compare op s s' ih ih' =>
    intro xs enough
    obtain ⟨first, second⟩ := List.forall_mem_append.1 enough
    exact (ih first).bind fun a b same => (ih' second).bind fun a' b' same' =>
      .fixed (related_compare op same same')
  | inList s ls negated ih =>
    intro xs enough
    exact (ih enough).bind fun a b same => .fixed (related_inList ls negated same)
  | logical op s s' ih ih' =>
    intro xs enough
    obtain ⟨first, second⟩ := List.forall_mem_append.1 enough
    exact (ih first).bind fun a b same => (ih' second).bind fun a' b' same' =>
      .fixed (related_logical op same same')
  | not s ih =>
    intro xs enough
    exact (ih enough).bind fun a b same => .fixed (related_not same)
  | arithmetic op s s' ih ih' =>
    intro xs enough
    obtain ⟨first, second⟩ := List.forall_mem_append.1 enough
    exact (ih first).bind fun a b same => (ih' second).bind fun a' b' same' =>
      .fixed (related_arithmetic op same same')
  | countRows n =>
    intro xs _
    exact .fixed ((Except.Related.refl _).mono fun a b same => congrArg TypedExpr.type same)
  | count distinct n s ih =>
    intro xs enough
    exact (ih enough).bind fun a b same => .fixed (related_count distinct n same)
  | aggregate f s ih =>
    intro xs enough
    exact (ih enough).bind fun a b same => .fixed (related_aggregate f same)
  | loop times x init body ih ih' =>
    intro xs enough env env' agree
    obtain ⟨first, later⟩ := List.forall_mem_append.1 enough
    -- the variable of the loop is bound when its body is reached
    have step : Agrees (x :: xs) SameType (body.eval >>= Evaluation.bindTo x)
        (body.eval >>= Evaluation.bindTo x) :=
      (ih' (mem_append_of_unbound later)).bind fun a b same => .bindTo x same
    apply (ih first env env' agree).bind
    rintro ⟨a, env₁⟩ ⟨a', env₁'⟩ ⟨same, agree₁⟩
    have agree₂ : Agree (x :: xs) ((x, a) :: env₁) ((x, a') :: env₁') := agree₁.bound x same
    apply (step.again times a a' same _ _ agree₂).mono
    rintro ⟨e, env₃⟩ ⟨e', env₃'⟩ ⟨same, agree₃⟩
    exact ⟨same, agree₃.mono fun _ mem => List.mem_cons_of_mem x mem⟩

/-! ### Results of bodies -/

namespace Projection

/-- The one expression that a result consists of, if it is no tuple. -/
def single? {α : Type} : Projection α → Option α
  | .leaf a => some a
  | _ => none

/-- Two results are expressions of one type, or neither is an expression. -/
def SameType (p q : Projection TypedExpr) : Prop :=
  p.single?.map TypedExpr.type = q.single?.map TypedExpr.type

variable {xs : List String}

mutual

/-- Where the variables that the result of a body needs agree, it has no meaning for the same reason
or results of one type. -/
theorem eval_agrees : ∀ p : Projection Term, (∀ x ∈ p.needs, x ∈ xs) →
    Agrees xs Projection.SameType (eval p) (eval p)
  | .unit, _ => .pure rfl
  | .leaf t, enough => by
    rw [needs, leaves, List.flatMap_singleton] at enough
    exact (t.eval_agrees enough).bind fun a b same => .pure (congrArg some same)
  | .tuple ps, enough => (evalAll_agrees ps enough).bind fun _ _ _ => .pure rfl

theorem evalAll_agrees : ∀ ps : List (Projection Term),
    (∀ x ∈ (leavesAll ps).flatMap Term.needs, x ∈ xs) →
    Agrees xs (fun _ _ => True) (evalAll ps) (evalAll ps)
  | [], _ => .pure trivial
  | p :: ps, enough => by
    rw [leavesAll, List.flatMap_append] at enough
    obtain ⟨first, rest⟩ := List.forall_mem_append.1 enough
    exact (eval_agrees p first).bind fun _ _ _ => (evalAll_agrees ps rest).bind fun _ _ _ =>
      .pure trivial

end

end Projection

/-! ### Arguments of calls -/

section Arguments

variable {xs : List String}

theorem Term.predicate_agrees (t : Term) (enough : ∀ x ∈ t.needs, x ∈ xs) :
    Agrees xs (fun _ _ => True) t.predicate t.predicate :=
  (t.eval_agrees enough).bind fun _ _ same => .fixed (related_expect _ same)

theorem orderTerms_agree (ts : List (SortOrder × Term))
    (enough : ∀ x ∈ ts.flatMap fun d => d.2.needs, x ∈ xs) :
    Agrees xs (List.Forall₂ fun _ _ => True) (Evaluation.each orderTerm ts)
      (Evaluation.each orderTerm ts) := by
  apply Agrees.each
  intro d mem
  have enough_here : ∀ x ∈ d.2.needs, x ∈ xs := fun x here =>
    enough x (List.mem_flatMap.2 ⟨d, mem, here⟩)
  exact (d.2.eval_agrees enough_here).bind fun _ _ _ => .pure trivial

theorem assignment_agrees (entity : Entity) (target target' : Expr) (a : String × UpdateOp × Term)
    (enough : ∀ x ∈ a.2.2.needs, x ∈ xs) :
    Agrees xs (fun _ _ => True) (assignment entity target a) (assignment entity target' a) := by
  apply (Agrees.fixed (.refl _)).bind
  rintro t _ rfl
  apply (Agrees.fixed (.refl _)).bind
  rintro _ _ rfl
  apply (a.2.2.eval_agrees enough).bind
  intro e e' same
  apply (Agrees.fixed (related_expect t same)).bind
  intro _ _ _
  exact .pure trivial

theorem assignments_agree (row : Term) (as : List (String × UpdateOp × Term))
    (enough : ∀ x ∈ row.needs, x ∈ xs) (enough' : ∀ x ∈ as.flatMap fun a => a.2.2.needs, x ∈ xs) :
    Agrees xs (fun _ _ => True) (assignments row as) (assignments row as) := by
  apply (row.eval_agrees enough).bind
  intro r r' same
  rw [show r.type = r'.type from same]
  cases r'.type with
  | row entity =>
    have each : Agrees xs (List.Forall₂ fun _ _ => True)
        (Evaluation.each (assignment entity r.expr) as)
        (Evaluation.each (assignment entity r'.expr) as) := by
      apply Agrees.each
      intro a mem
      exact assignment_agrees entity _ _ a fun x here =>
        enough' x (List.mem_flatMap.2 ⟨a, mem, here⟩)
    exact each.mono fun _ _ _ => trivial
  | scalar f | option t => exact .fixed (.error _)

theorem subqueryColumns_agree (form : SubqueryForm) (result : Projection Term)
    (enough : ∀ x ∈ result.needs, x ∈ xs) :
    Agrees xs (fun _ _ => True) (subqueryColumns form result) (subqueryColumns form result) := by
  apply (Projection.eval_agrees result enough).bind
  intro p p' same
  cases form with
  | existence negated => exact .pure trivial
  | scalar distinct t =>
    cases p with
    | leaf e =>
      cases p' with
      | leaf e' =>
        apply (Agrees.fixed (.refl _)).bind
        rintro _ _ rfl
        apply (Agrees.fixed (related_expect t (Option.some.inj same))).bind
        intro _ _ _
        exact .pure trivial
      | unit | tuple ps => cases same
    | unit | tuple ps =>
      cases p' with
      | leaf e' => cases same
      | unit | tuple ps => exact .fixed (.error _)

end Arguments

end SqlBuilder
