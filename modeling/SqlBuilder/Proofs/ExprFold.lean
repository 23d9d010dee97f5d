import Mathlib.Data.List.Forall2
import SqlBuilder.Statement.JoinTree

/-!
# Induction over expressions

Expressions stand in statements and statements in expressions.  Both inductions are one: an
expression is a node, and everything that stands in the node, in an embedded statement too, is
smaller.

* `Expr.node_induction` : what holds of a node when it holds of all that stands in it holds of every
  expression;
* **`Expr.fold_related`** : two computations from the bottom up whose steps keep a relation are
  related on every expression;
* `Statement.map_related` : so they are in all places of a statement.
-/

namespace SqlBuilder

/-! ### What stands in a node is smaller -/

theorem Registration.sizeOf_lt_of_mem_children {r : Registration Expr} {e : Expr}
    (h : e ∈ r.children) : sizeOf e < sizeOf r := by
  cases r with
  | scope s => cases h
  | join j =>
    obtain ⟨kind, left, right, predicate⟩ := j
    have here : predicate = some e := Option.mem_toList.1 h
    rw [here, Registration.join.sizeOf_spec, Join.mk.sizeOf_spec, Option.some.sizeOf_spec]
    omega

theorem Statement.sizeOf_lt_of_mem_children {q : Statement Expr} {e : Expr} (h : e ∈ q.children) :
    sizeOf e < sizeOf q := by
  obtain ⟨kind, distinct, columns, ⟨registrations, roots⟩, filters, grouping, having_, ordering,
    limit, offset, assignments⟩ := q
  simp only [Statement.children, List.mem_append, List.mem_flatMap, List.mem_map] at h
  rw [Statement.mk.sizeOf_spec, FromClause.mk.sizeOf_spec]
  rcases h with
    (((((column | ⟨r, mem, child⟩) | filter) | group) | having_) | ⟨t, mem, rfl⟩) | ⟨a, mem, child⟩
  · have := List.sizeOf_lt_of_mem column
    omega
  · have := List.sizeOf_lt_of_mem mem
    have := Registration.sizeOf_lt_of_mem_children child
    omega
  · have := List.sizeOf_lt_of_mem filter
    omega
  · have := List.sizeOf_lt_of_mem group
    omega
  · have := List.sizeOf_lt_of_mem having_
    omega
  · have := List.sizeOf_lt_of_mem mem
    obtain ⟨expr, order⟩ := t
    rw [OrderTerm.mk.sizeOf_spec] at this
    show sizeOf expr < _
    omega
  · have := List.sizeOf_lt_of_mem mem
    obtain ⟨target, field, op, value⟩ := a
    rw [Assignment.mk.sizeOf_spec] at this
    simp only [List.mem_cons, List.not_mem_nil, or_false] at child
    rcases child with rfl | rfl
    · omega
    · omega

theorem Node.sizeOf_lt_of_mem_children {n : Node Expr} {e : Expr} (h : e ∈ n.children) :
    sizeOf e < sizeOf n := by
  cases n with
  | coalesce es =>
    have : sizeOf e < sizeOf es := List.sizeOf_lt_of_mem h
    rw [Node.coalesce.sizeOf_spec]
    omega
  | subquery q =>
    have := Statement.sizeOf_lt_of_mem_children h
    rw [Node.subquery.sizeOf_spec]
    omega
  | existence q negated =>
    have := Statement.sizeOf_lt_of_mem_children h
    rw [Node.existence.sizeOf_spec]
    omega
  | row s | literal v | countRows => cases h
  | field base | not base | isNull base | aggregate f d base | inList base =>
    rcases List.mem_singleton.1 h with rfl
    simp only [Node.field.sizeOf_spec, Node.not.sizeOf_spec, Node.isNull.sizeOf_spec,
      Node.aggregate.sizeOf_spec, Node.inList.sizeOf_spec]
    omega
  | compare l op r | logical l op r | arithmetic l op r =>
    simp only [Node.children, List.mem_cons, List.not_mem_nil, or_false] at h
    simp only [Node.compare.sizeOf_spec, Node.logical.sizeOf_spec, Node.arithmetic.sizeOf_spec]
    rcases h with rfl | rfl
    · omega
    · omega

/-- What holds of a node whenever it holds of all that stands in it holds of every expression. -/
theorem Expr.node_induction {P : Expr → Prop}
    (step : ∀ n : Node Expr, (∀ e ∈ n.children, P e) → P (.node n)) : ∀ e, P e
  | .node n => step n fun e _ => Expr.node_induction step e
termination_by e => sizeOf e
decreasing_by
  have := Node.sizeOf_lt_of_mem_children ‹e ∈ n.children›
  rw [Expr.node.sizeOf_spec]
  omega

/-! ### Related in every place -/

section Related

variable {α β γ : Type} (R : α → β → Prop)

/-- Registrations alike but for what stands in the place of a predicate. -/
inductive Registration.Related : Registration α → Registration β → Prop where
  | scope (s : Scope) : Related (.scope s) (.scope s)
  | join (kind : JoinKind) (left right : Nat) {p : Option α} {q : Option β} :
      Option.Rel R p q → Related (.join ⟨kind, left, right, p⟩) (.join ⟨kind, left, right, q⟩)

/-- Statements alike but for what stands in the places. -/
structure Statement.Related (p : Statement α) (q : Statement β) : Prop where
  kind : p.kind = q.kind
  distinct : p.distinct = q.distinct
  columns : List.Forall₂ R p.columns q.columns
  registrations : List.Forall₂ (Registration.Related R) p.source.registrations
    q.source.registrations
  roots : p.source.roots = q.source.roots
  filters : List.Forall₂ R p.filters q.filters
  grouping : List.Forall₂ R p.grouping q.grouping
  having_ : List.Forall₂ R p.having q.having
  ordering : List.Forall₂ (fun t u => R t.expr u.expr ∧ t.order = u.order) p.ordering q.ordering
  limit : p.limit = q.limit
  offset : p.offset = q.offset
  assignments : List.Forall₂
    (fun a b => R a.target b.target ∧ a.field = b.field ∧ a.op = b.op ∧ R a.value b.value)
    p.assignments q.assignments

/-- Nodes alike but for what stands in the places. -/
inductive Node.Related : Node α → Node β → Prop where
  | row (s : Scope) : Related (.row s) (.row s)
  | field {a : α} {b : β} (name : String) : R a b → Related (.field a name) (.field b name)
  | literal (v : Value) : Related (.literal v) (.literal v)
  | compare {a a' : α} {b b' : β} (op : Comparison) :
      R a b → R a' b' → Related (.compare a op a') (.compare b op b')
  | logical {a a' : α} {b b' : β} (op : LogicalOp) :
      R a b → R a' b' → Related (.logical a op a') (.logical b op b')
  | not {a : α} {b : β} : R a b → Related (.not a) (.not b)
  | arithmetic {a a' : α} {b b' : β} (op : Arithmetic) :
      R a b → R a' b' → Related (.arithmetic a op a') (.arithmetic b op b')
  | isNull {a : α} {b : β} : R a b → Related (.isNull a) (.isNull b)
  | countRows : Related .countRows .countRows
  | aggregate {a : α} {b : β} (f : AggregateFunction) (distinct : Bool) :
      R a b → Related (.aggregate f distinct a) (.aggregate f distinct b)
  | inList {a : α} {b : β} (vs : List Value) (negated : Bool) :
      R a b → Related (.inList a vs negated) (.inList b vs negated)
  | coalesce {as : List α} {bs : List β} : List.Forall₂ R as bs → Related (.coalesce as) (.coalesce bs)
  | subquery {p : Statement α} {q : Statement β} :
      Statement.Related R p q → Related (.subquery p) (.subquery q)
  | existence {p : Statement α} {q : Statement β} (negated : Bool) :
      Statement.Related R p q → Related (.existence p negated) (.existence q negated)

variable {R} {f : γ → α} {g : γ → β}

/-- Two images of a list are related when those of its members are. -/
theorem forall₂_map_of_forall_mem {δ α β : Type} {R : α → β → Prop} {f : δ → α} {g : δ → β}
    {l : List δ} (h : ∀ e ∈ l, R (f e) (g e)) : List.Forall₂ R (l.map f) (l.map g) := by
  rw [List.forall₂_map_left_iff, List.forall₂_map_right_iff]
  exact List.forall₂_same.2 h

/-- Lists related to the same list are related, provided their members are. -/
theorem forall₂_of_common {δ α β : Type} {R : δ → α → Prop} {S : δ → β → Prop} {T : α → β → Prop}
    (h : ∀ d a b, R d a → S d b → T a b) {ds : List δ} {as : List α} {bs : List β}
    (left : List.Forall₂ R ds as) (right : List.Forall₂ S ds bs) : List.Forall₂ T as bs := by
  induction left generalizing bs with
  | nil =>
    cases right
    exact .nil
  | cons first rest ih =>
    cases right with
    | cons first' rest' => exact .cons (h _ _ _ first first') (ih rest')

/-- Two images of a statement are related when those of all that stands in it are. -/
theorem Statement.map_related {q : Statement γ} (h : ∀ e ∈ q.children, R (f e) (g e)) :
    Statement.Related R (q.map f) (q.map g) := by
  have member : ∀ e, e ∈ q.columns ∨ (∃ r ∈ q.source.registrations, e ∈ r.children) ∨
      e ∈ q.filters ∨ e ∈ q.grouping ∨ e ∈ q.having ∨ (∃ t ∈ q.ordering, t.expr = e) ∨
      (∃ a ∈ q.assignments, e = a.target ∨ e = a.value) → R (f e) (g e) := by
    intro e mem
    refine h e ?_
    simp only [Statement.children, List.mem_append, List.mem_flatMap, List.mem_map, List.mem_cons,
      List.not_mem_nil, or_false, or_assoc]
    exact mem
  refine ⟨rfl, rfl, ?columns, ?registrations, rfl, ?filters, ?grouping, ?having, ?ordering, rfl, rfl,
    ?assignments⟩
  case columns => exact forall₂_map_of_forall_mem fun e he => member e (by simp [he])
  case registrations =>
    refine forall₂_map_of_forall_mem fun r hr => ?_
    cases r with
    | scope s => exact .scope s
    | join j =>
      obtain ⟨kind, left, right, predicate⟩ := j
      refine .join kind left right ?_
      cases predicate with
      | none => exact .none
      | some e => exact .some (member e (Or.inr (Or.inl ⟨_, hr, List.mem_singleton_self e⟩)))
  case filters => exact forall₂_map_of_forall_mem fun e he => member e (by simp [he])
  case grouping => exact forall₂_map_of_forall_mem fun e he => member e (by simp [he])
  case having => exact forall₂_map_of_forall_mem fun e he => member e (by simp [he])
  case ordering =>
    refine forall₂_map_of_forall_mem fun t ht => ⟨member t.expr ?_, rfl⟩
    grind
  case assignments =>
    refine forall₂_map_of_forall_mem fun a ha => ⟨member a.target ?_, rfl, rfl, member a.value ?_⟩
    · grind
    · grind

/-- Two images of a node are related when those of all that stands in it are. -/
theorem Node.map_related {n : Node γ} (h : ∀ e ∈ n.children, R (f e) (g e)) :
    Node.Related R (n.map f) (n.map g) := by
  cases n with
  | row s => exact .row s
  | field base name => exact .field name (h base (by simp [children]))
  | literal v => exact .literal v
  | compare l op r => exact .compare op (h l (by simp [children])) (h r (by simp [children]))
  | logical l op r => exact .logical op (h l (by simp [children])) (h r (by simp [children]))
  | not e => exact .not (h e (by simp [children]))
  | arithmetic l op r => exact .arithmetic op (h l (by simp [children])) (h r (by simp [children]))
  | isNull e => exact .isNull (h e (by simp [children]))
  | countRows => exact .countRows
  | aggregate func distinct e => exact .aggregate func distinct (h e (by simp [children]))
  | inList e vs negated => exact .inList vs negated (h e (by simp [children]))
  | coalesce es => exact .coalesce (forall₂_map_of_forall_mem h)
  | subquery q => exact .subquery (Statement.map_related h)
  | existence q negated => exact .existence negated (Statement.map_related h)

/-- **Two computations whose steps keep a relation are related on every expression.** -/
theorem Expr.fold_related {f : Node α → α} {g : Node β → β}
    (step : ∀ m n, Node.Related R m n → R (f m) (g n)) (e : Expr) : R (e.fold f) (e.fold g) := by
  induction e using Expr.node_induction with
  | step n ih =>
    rw [Expr.fold_node, Expr.fold_node]
    exact step _ _ (Node.map_related ih)

/-- So they are in all places of a statement. -/
theorem Statement.fold_related {f : Node α → α} {g : Node β → β}
    (step : ∀ m n, Node.Related R m n → R (f m) (g n)) (q : Statement Expr) :
    Statement.Related R (q.map (Expr.fold f)) (q.map (Expr.fold g)) :=
  Statement.map_related fun e _ => Expr.fold_related step e

/-! ### Equal in every place -/

/-- Lists whose members are related one by one are equal where relation is equality. -/
theorem eq_of_forall₂ {δ : Type} {R : δ → δ → Prop} (equal : ∀ a b, R a b → a = b) {as bs : List δ}
    (h : List.Forall₂ R as bs) : as = bs := by
  induction h with
  | nil => rfl
  | cons first _ ih => rw [equal _ _ first, ih]

theorem Registration.Related.eq {r s : Registration α} (h : Registration.Related Eq r s) : r = s := by
  cases h with
  | scope s => rfl
  | join kind left right predicate =>
    cases predicate with
    | none => rfl
    | some same => rw [same]

/-- Statements with the same in all places are the same. -/
theorem Statement.Related.eq {p q : Statement α} (h : Statement.Related Eq p q) : p = q := by
  obtain ⟨kind, distinct, columns, registrations, roots, filters, grouping, having_, ordering, limit,
    offset, assignments⟩ := h
  obtain ⟨_, _, _, ⟨_, _⟩, _, _, _, _, _, _, _⟩ := p
  obtain ⟨_, _, _, ⟨_, _⟩, _, _, _, _, _, _, _⟩ := q
  have same {as bs : List α} (h : List.Forall₂ Eq as bs) : as = bs :=
    eq_of_forall₂ (fun _ _ same => same) h
  have terms := eq_of_forall₂ (fun (t u : OrderTerm α) h => by
    obtain ⟨expr, order⟩ := h
    cases t
    cases u
    exact congr (congrArg _ expr) order) ordering
  have assigned := eq_of_forall₂ (fun (a b : Assignment α) h => by
    obtain ⟨target, field, op, value⟩ := h
    cases a
    cases b
    exact congr (congr (congr (congrArg _ target) field) op) value) assignments
  simp only [Statement.mk.injEq, FromClause.mk.injEq]
  exact ⟨kind, distinct, same columns, ⟨eq_of_forall₂ (fun _ _ h => h.eq) registrations, roots⟩,
    same filters, same grouping, same having_, terms, limit, offset, assigned⟩

/-- Nodes with the same in all places are the same. -/
theorem Node.Related.eq {m n : Node α} (h : Node.Related Eq m n) : m = n := by
  cases h with
  | row s | literal v | countRows => rfl
  | field name same | aggregate f distinct same | inList vs negated same => rw [same]
  | not same | isNull same => rw [same]
  | compare op left right | logical op left right | arithmetic op left right => rw [left, right]
  | coalesce each => rw [eq_of_forall₂ (fun _ _ same => same) each]
  | subquery related | existence negated related => rw [related.eq]

/-! ### Join trees -/

variable (R) in
/-- Join trees alike but for what stands in the place of a predicate. -/
inductive JoinTree.Related : JoinTree α → JoinTree β → Prop where
  | scope (s : Scope) : Related (.scope s) (.scope s)
  | join (kind : JoinKind) {l r : JoinTree α} {l' r' : JoinTree β} {p : Option α} {q : Option β} :
      Related l l' → Related r r' → Option.Rel R p q → Related (.join kind l r p) (.join kind l' r' q)
  | missing (id : Nat) : Related (.missing id) (.missing id)
  | endless (id : Nat) : Related (.endless id) (.endless id)

/-- Related lists are related position by position. -/
theorem forall₂_getElem? {α β : Type} {R : α → β → Prop} {as : List α} {bs : List β}
    (h : List.Forall₂ R as bs) : ∀ i : Nat, Option.Rel R as[i]? bs[i]? := by
  induction h with
  | nil =>
    intro i
    exact .none
  | cons first rest ih =>
    intro i
    cases i with
    | zero => exact .some first
    | succ i => exact ih i

theorem FromClause.treeWithin_related {c : FromClause α} {c' : FromClause β}
    (h : List.Forall₂ (Registration.Related R) c.registrations c'.registrations) :
    ∀ depth id, JoinTree.Related R (c.treeWithin depth id) (c'.treeWithin depth id) := by
  intro depth
  induction depth with
  | zero =>
    intro id
    exact .endless id
  | succ depth ih =>
    intro id
    have here : Option.Rel (Registration.Related R) (c.get? id) (c'.get? id) :=
      forall₂_getElem? h id
    rw [treeWithin, treeWithin]
    generalize c.get? id = found at here ⊢
    generalize c'.get? id = found' at here ⊢
    cases here with
    | none => exact .missing id
    | some related =>
      cases related with
      | scope s => exact .scope s
      | join kind left right predicate => exact .join kind (ih left) (ih right) predicate

/-- The trees at top level of related from-clauses are related. -/
theorem Statement.Related.trees {p : Statement α} {q : Statement β}
    (h : Statement.Related R p q) :
    List.Forall₂ (JoinTree.Related R) p.source.trees q.source.trees := by
  rw [FromClause.trees, FromClause.trees, ← h.roots]
  refine forall₂_map_of_forall_mem fun id _ => ?_
  rw [FromClause.tree, FromClause.tree, h.registrations.length_eq]
  exact FromClause.treeWithin_related h.registrations _ id

end Related

end SqlBuilder
