import Mathlib.Data.List.Perm.Subperm
import Mathlib.Logic.Relation
import SqlBuilder.Proofs.ExprFold

/-!
# Well-shaped statements

What a statement must look like to have a text, said without the renderer.  Like statements
themselves, shapes are described over an arbitrary type of what stands in the places of expressions:
all that counts is which of them are whole rows and which are scalars.

* `FromClause.Fits` : a registration that exists, lies on no cycle and has no predicate that it must
  not have; `FromClause.WellShaped` asks this of all that the roots lead to;
* **`FromClause.tree_eq_of_ends`** : operands are followed as deep as is needed, unless that never ends;
* `Statement.SelectShaped`, `Statement.UpdateShaped`, `Statement.DeleteShaped` : each kind;
* `Node.Scalar` : the nodes that stand for one value, with **`Expr.renderable_node`**
  as the equation of `Expr.Renderable`;
* `Statement.Related.shaped_iff`, `Node.Related.scalar_iff` : a shape depends on nothing else.
-/

namespace SqlBuilder

variable {ε : Type}

/-! ### Sources -/

namespace FromClause

/-- A join stands at the one position, and the other is one of its operands. -/
def Operates (c : FromClause ε) (id operand : Nat) : Prop :=
  ∃ j, c.get? id = some (.join j) ∧ (operand = j.left ∨ operand = j.right)

/-- A position may be reached from a root: something is registered there, which does not contain
itself, and a predicate is a scalar and not that of a cross join. -/
@[mk_iff]
structure Fits (scalar : ε → Prop) (c : FromClause ε) (id : Nat) : Prop where
  registered : id < c.registrations.length
  acyclic : ¬ Relation.TransGen c.Operates id id
  predicates : ∀ j, c.get? id = some (.join j) → ∀ p, j.predicate = some p →
    j.kind ≠ .cross ∧ scalar p

/-- Every position that a root leads to fits. -/
def WellShaped (scalar : ε → Prop) (c : FromClause ε) : Prop :=
  ∀ root ∈ c.roots, ∀ id, Relation.ReflTransGen c.Operates root id → c.Fits scalar id

end FromClause

/-! ### Following operands -/

namespace FromClause

section Depth

variable {c : FromClause ε} {P : Nat → Nat → Prop}

/-- What holds of a position within some depth, and of its operands within a smaller one, holds of all
that the position leads to. -/
theorem exists_of_transGen
    (down : ∀ depth id, P depth id → ∀ operand, c.Operates id operand → ∃ less < depth, P less operand)
    {id below : Nat} (path : Relation.TransGen c.Operates id below) :
    ∀ depth, P depth id → ∃ less < depth, P less below := by
  induction path using Relation.TransGen.head_induction_on with
  | single step => exact fun depth h => down depth _ h _ step
  | head step _ ih =>
    intro depth h
    obtain ⟨first, less, h⟩ := down depth _ h _ step
    obtain ⟨second, less', h⟩ := ih first h
    exact ⟨second, Nat.lt_trans less' less, h⟩

/-- Such a position does not lead back to itself. -/
theorem acyclic_of_down
    (down : ∀ depth id, P depth id → ∀ operand, c.Operates id operand → ∃ less < depth, P less operand)
    {id : Nat} : ∀ depth, P depth id → ¬ Relation.TransGen c.Operates id id := by
  intro depth
  induction depth using Nat.strongRecOn with
  | _ depth ih =>
    intro h cycle
    obtain ⟨less, smaller, h⟩ := exists_of_transGen down cycle depth h
    exact ih less smaller h cycle

/-- A position with an operand is registered. -/
theorem Operates.registered {id operand : Nat} (h : c.Operates id operand) :
    id < c.registrations.length := by
  obtain ⟨j, at_id, _⟩ := h
  exact (List.getElem?_eq_some_iff.1 at_id).1

/-- **Without a cycle no path is longer than there are registrations**: what holds of a position one
level further up than of its operands holds of a root within this depth. -/
theorem of_acyclic {root : Nat}
    (up : ∀ depth id, Relation.ReflTransGen c.Operates root id →
      (∀ operand, c.Operates id operand → P depth operand) → P (depth + 1) id)
    (acyclic : ∀ id, Relation.ReflTransGen c.Operates root id → ¬ Relation.TransGen c.Operates id id) :
    P (c.registrations.length + 1) root := by
  -- the positions above one are all different, so there are no more of them than registrations
  have within : ∀ (depth id : Nat) (above : List Nat), Relation.ReflTransGen c.Operates root id →
      above.Nodup → (∀ a ∈ above, Relation.TransGen c.Operates a id) →
      c.registrations.length < above.length + depth → P depth id := by
    intro depth
    induction depth with
    | zero =>
      intro id above _ distinct path enough
      have registered : above ⊆ List.range c.registrations.length := by
        intro a mem
        obtain ⟨operand, step, _⟩ := Relation.TransGen.head'_iff.1 (path a mem)
        exact List.mem_range.2 step.registered
      have := (List.Nodup.subperm distinct registered).length_le
      rw [List.length_range] at this
      omega
    | succ depth ih =>
      intro id above reached distinct path enough
      have fresh : id ∉ above := fun mem => acyclic id reached (path id mem)
      refine up depth id reached fun operand step => ?_
      have path' : ∀ a ∈ id :: above, Relation.TransGen c.Operates a operand :=
        List.forall_mem_cons.2 ⟨.single step, fun a mem => (path a mem).tail step⟩
      refine ih operand (id :: above) (reached.tail step) (List.nodup_cons.2 ⟨fresh, distinct⟩) path' ?_
      rw [List.length_cons]
      omega
  exact within _ root [] .refl List.nodup_nil (List.forall_mem_nil _) (by simp)

end Depth

end FromClause

/-- Whether following the operands came to an end everywhere in a tree. -/
def JoinTree.ends : JoinTree ε → Bool
  | .scope _ | .missing _ => true
  | .endless _ => false
  | .join _ l r _ => l.ends && r.ends

namespace FromClause

variable {c : FromClause ε}

/-- A tree ends if those of the operands do, one level down. -/
theorem ends_treeWithin_succ (depth id : Nat) : (c.treeWithin (depth + 1) id).ends = true ↔
    ∀ operand, c.Operates id operand → (c.treeWithin depth operand).ends = true := by
  rw [treeWithin]
  simp only [Operates]
  cases c.get? id with
  | none => simp [JoinTree.ends]
  | some r =>
    cases r with
    | scope s => simp [JoinTree.ends]
    | join j => simp [JoinTree.ends]

/-- A tree that ends leads to no cycle. -/
theorem acyclic_of_ends {depth root id : Nat} (h : (c.treeWithin depth root).ends = true)
    (path : Relation.ReflTransGen c.Operates root id) : ¬ Relation.TransGen c.Operates id id := by
  have down : ∀ depth id, (c.treeWithin depth id).ends = true → ∀ operand, c.Operates id operand →
      ∃ less < depth, (c.treeWithin less operand).ends = true := by
    intro depth id h operand step
    cases depth with
    | zero => cases h
    | succ depth => exact ⟨depth, depth.lt_succ_self, (ends_treeWithin_succ depth id).1 h operand step⟩
  rcases Relation.reflTransGen_iff_eq_or_transGen.1 path with rfl | path
  · exact acyclic_of_down down depth h
  · obtain ⟨less, _, h⟩ := exists_of_transGen down path depth h
    exact acyclic_of_down down less h

/-- The tree at a position ends if and only if the position leads to no cycle. -/
theorem ends_tree_iff (c : FromClause ε) (root : Nat) : (c.tree root).ends = true ↔
    ∀ id, Relation.ReflTransGen c.Operates root id → ¬ Relation.TransGen c.Operates id id :=
  ⟨fun h _ => acyclic_of_ends h,
    of_acyclic (P := fun depth id => (c.treeWithin depth id).ends = true) fun depth id _ =>
      (ends_treeWithin_succ depth id).2⟩

/-- Trees that end are the same at all depths. -/
theorem treeWithin_eq_of_ends {depth depth' id : Nat} (h : (c.treeWithin depth id).ends = true)
    (h' : (c.treeWithin depth' id).ends = true) : c.treeWithin depth id = c.treeWithin depth' id := by
  induction depth generalizing depth' id with
  | zero => cases h
  | succ depth ih =>
    cases depth' with
    | zero => cases h'
    | succ depth' =>
      have inside := (ends_treeWithin_succ depth id).1 h
      have inside' := (ends_treeWithin_succ depth' id).1 h'
      rw [treeWithin, treeWithin]
      cases at_id : c.get? id with
      | none => rfl
      | some r =>
        cases r with
        | scope s => rfl
        | join j =>
          have left := ih (inside j.left ⟨j, at_id, .inl rfl⟩) (inside' j.left ⟨j, at_id, .inl rfl⟩)
          have right := ih (inside j.right ⟨j, at_id, .inr rfl⟩) (inside' j.right ⟨j, at_id, .inr rfl⟩)
          simp only [left, right]

/-- **The bound on the depth loses nothing.**  If following the operands ends at all, it ends within this
bound, and with the same tree; what is left is a join among whose operands one never comes to an end. -/
theorem tree_eq_of_ends {depth root : Nat} (h : (c.treeWithin depth root).ends = true) :
    c.tree root = c.treeWithin depth root :=
  treeWithin_eq_of_ends ((c.ends_tree_iff root).2 fun _ => acyclic_of_ends h) h

end FromClause

/-! ### Statements -/

namespace Statement

/-- None of the clauses that only result rows have. -/
@[mk_iff]
structure Rowless (q : Statement ε) : Prop where
  distinct : q.distinct = false
  grouping : q.grouping = []
  having_ : q.having = []
  ordering : q.ordering = []
  limit : q.limit = none
  offset : q.offset = none

/-- A statement without result rows over one table and nothing else. -/
@[mk_iff]
structure Targets (q : Statement ε) (s : Scope) : Prop where
  rowless : q.Rowless
  only : ∃ root, q.source.roots = [root] ∧ q.source.get? root = some (.scope s)

end Statement

section Kinds

variable (row? : ε → Option Scope) (scalar : ε → Prop)

/-- The target of an assignment is the whole row of a table, and what is assigned is a scalar. -/
def Assignment.Fits (s : Scope) (a : Assignment ε) : Prop :=
  (∃ t, row? a.target = some t ∧ t.id = s.id) ∧ scalar a.value

namespace Statement

/-- What a SELECT looks like. -/
@[mk_iff]
structure SelectShaped (q : Statement ε) : Prop where
  unassigned : q.assignments = []
  columns : ∀ c ∈ q.columns, (∃ s, row? c = some s) ∨ scalar c
  source : q.source.WellShaped scalar
  filters : ∀ p ∈ q.filters, scalar p
  grouping : ∀ e ∈ q.grouping, scalar e
  having_ : ∀ p ∈ q.having, scalar p
  ordering : ∀ t ∈ q.ordering, scalar t.expr

/-- What an UPDATE looks like. -/
@[mk_iff]
structure UpdateShaped (q : Statement ε) : Prop where
  assigned : q.assignments ≠ []
  target : ∃ s, q.Targets s ∧ ∀ a ∈ q.assignments, a.Fits row? scalar s
  filters : ∀ p ∈ q.filters, scalar p

/-- What a DELETE looks like. -/
@[mk_iff]
structure DeleteShaped (q : Statement ε) : Prop where
  unassigned : q.assignments = []
  target : ∃ s, q.Targets s
  filters : ∀ p ∈ q.filters, scalar p

/-- What a statement of each kind looks like. -/
def Shaped (q : Statement ε) : Prop :=
  match q.kind with
  | .select => q.SelectShaped row? scalar
  | .update => q.UpdateShaped row? scalar
  | .delete => q.DeleteShaped scalar

end Statement

end Kinds

/-! ### Expressions -/

/-- A node that stands for one value.  A whole row does not, although its fields do.  Membership in
the empty list does whatever its operand is, which has no part in it. -/
def Node.Scalar (row? : ε → Option Scope) (scalar : ε → Prop) : Node ε → Prop
  | .row _ => False
  | .field base _ => (∃ s, row? base = some s) ∨ scalar base
  | .inList _ [] _ => True
  | .subquery q | .existence q _ => q.kind = .select ∧ q.SelectShaped row? scalar
  | n => ∀ e ∈ n.children, scalar e

/-- All that counts of an expression for the shape of what it stands in. -/
structure Role where
  row? : Option Scope
  Scalar : Prop

/-- The role of a node, given those of its operands. -/
def Role.ofNode (n : Node Role) : Role where
  row? := match n with
    | .row s => some s
    | _ => none
  Scalar := n.Scalar Role.row? Role.Scalar

def Expr.role : Expr → Role := Expr.fold Role.ofNode

/-- An expression that stands for one value, as do all parts of it that are written. -/
def Expr.Renderable (e : Expr) : Prop := e.role.Scalar

/-- A statement of expressions that looks like one of its kind. -/
def Statement.WellShaped (q : Statement Expr) : Prop := q.Shaped Expr.row? Expr.Renderable

/-! ### Shapes of related statements -/

section Related

variable {α β : Type} {R : α → β → Prop}

/-- A property of all members of a list, and of all members of a related one. -/
theorem forall_mem_iff_of_forall₂ {as : List α} {bs : List β} {P : α → Prop} {Q : β → Prop}
    (h : List.Forall₂ R as bs) (same : ∀ a b, R a b → (P a ↔ Q b)) :
    (∀ a ∈ as, P a) ↔ ∀ b ∈ bs, Q b := by
  induction h with
  | nil => simp
  | cons first rest ih =>
    rw [List.forall_mem_cons, List.forall_mem_cons, same _ _ first, ih]

theorem eq_nil_iff_of_forall₂ {as : List α} {bs : List β} (h : List.Forall₂ R as bs) :
    as = [] ↔ bs = [] := by
  rw [← List.length_eq_zero_iff, ← List.length_eq_zero_iff, h.length_eq]

/-- At each position of related from-clauses stands the same table, or a join of the same kind and
operands. -/
theorem FromClause.get?_related {c : FromClause α} {c' : FromClause β}
    (h : List.Forall₂ (Registration.Related R) c.registrations c'.registrations) (id : Nat) :
    Option.Rel (Registration.Related R) (c.get? id) (c'.get? id) :=
  forall₂_getElem? h id

theorem FromClause.operates_eq {c : FromClause α} {c' : FromClause β}
    (h : List.Forall₂ (Registration.Related R) c.registrations c'.registrations) :
    c.Operates = c'.Operates := by
  funext id operand
  have here := FromClause.get?_related h id
  rw [Operates, Operates]
  generalize c.get? id = found at here ⊢
  generalize c'.get? id = found' at here ⊢
  cases here with
  | none => simp
  | some related =>
    cases related with
    | scope s => simp
    | join kind left right predicate => simp

variable {row₁ : α → Option Scope} {row₂ : β → Option Scope} {scalar₁ : α → Prop}
  {scalar₂ : β → Prop}

theorem FromClause.fits_iff_of_related {c : FromClause α} {c' : FromClause β}
    (h : List.Forall₂ (Registration.Related R) c.registrations c'.registrations)
    (same : ∀ a b, R a b → (scalar₁ a ↔ scalar₂ b)) (id : Nat) :
    c.Fits scalar₁ id ↔ c'.Fits scalar₂ id := by
  have here := FromClause.get?_related h id
  rw [fits_iff, fits_iff, operates_eq h, h.length_eq]
  generalize c.get? id = found at here ⊢
  generalize c'.get? id = found' at here ⊢
  cases here with
  | none => simp
  | some related =>
    cases related with
    | scope s => simp
    | join kind left right predicate =>
      cases predicate with
      | none => simp
      | some related => simp [same _ _ related]

namespace Statement.Related

variable {p : Statement α} {q : Statement β}

theorem source_iff (h : Statement.Related R p q) (same : ∀ a b, R a b → (scalar₁ a ↔ scalar₂ b)) :
    p.source.WellShaped scalar₁ ↔ q.source.WellShaped scalar₂ := by
  rw [FromClause.WellShaped, FromClause.WellShaped, h.roots, FromClause.operates_eq h.registrations]
  simp only [FromClause.fits_iff_of_related h.registrations same]

theorem selectShaped_iff (h : Statement.Related R p q) (rows : ∀ a b, R a b → row₁ a = row₂ b)
    (same : ∀ a b, R a b → (scalar₁ a ↔ scalar₂ b)) :
    p.SelectShaped row₁ scalar₁ ↔ q.SelectShaped row₂ scalar₂ := by
  have columns : (∀ c ∈ p.columns, (∃ s, row₁ c = some s) ∨ scalar₁ c) ↔
      ∀ c ∈ q.columns, (∃ s, row₂ c = some s) ∨ scalar₂ c :=
    forall_mem_iff_of_forall₂ h.columns fun a b r => by rw [rows a b r, same a b r]
  have ordering : (∀ t ∈ p.ordering, scalar₁ t.expr) ↔ ∀ t ∈ q.ordering, scalar₂ t.expr :=
    forall_mem_iff_of_forall₂ h.ordering fun t u r => same _ _ r.1
  rw [Statement.selectShaped_iff, Statement.selectShaped_iff, columns, ordering, h.source_iff same,
    eq_nil_iff_of_forall₂ h.assignments, forall_mem_iff_of_forall₂ h.filters same,
    forall_mem_iff_of_forall₂ h.grouping same, forall_mem_iff_of_forall₂ h.having_ same]

/-- Related targets fit the same table. -/
theorem assignments_iff (h : Statement.Related R p q) (rows : ∀ a b, R a b → row₁ a = row₂ b)
    (same : ∀ a b, R a b → (scalar₁ a ↔ scalar₂ b)) (s : Scope) :
    (∀ a ∈ p.assignments, a.Fits row₁ scalar₁ s) ↔ ∀ a ∈ q.assignments, a.Fits row₂ scalar₂ s := by
  refine forall_mem_iff_of_forall₂ h.assignments fun a b r => ?_
  obtain ⟨target, _, _, value⟩ := r
  rw [Assignment.Fits, Assignment.Fits, rows _ _ target, same _ _ value]

theorem targets_iff (h : Statement.Related R p q) (s : Scope) : p.Targets s ↔ q.Targets s := by
  have table (root : Nat) : p.source.get? root = some (.scope s) ↔
      q.source.get? root = some (.scope s) := by
    have here := FromClause.get?_related h.registrations root
    generalize p.source.get? root = found at here ⊢
    generalize q.source.get? root = found' at here ⊢
    cases here with
    | none => simp
    | some related =>
      cases related with
      | scope s' => simp
      | join kind left right predicate => simp
  rw [Statement.targets_iff, Statement.targets_iff, rowless_iff, rowless_iff, h.distinct, h.limit,
    h.offset, h.roots, eq_nil_iff_of_forall₂ h.grouping, eq_nil_iff_of_forall₂ h.having_,
    eq_nil_iff_of_forall₂ h.ordering]
  simp only [table]

theorem shaped_iff (h : Statement.Related R p q) (rows : ∀ a b, R a b → row₁ a = row₂ b)
    (same : ∀ a b, R a b → (scalar₁ a ↔ scalar₂ b)) :
    p.Shaped row₁ scalar₁ ↔ q.Shaped row₂ scalar₂ := by
  have filters := forall_mem_iff_of_forall₂ h.filters same
  have unassigned := eq_nil_iff_of_forall₂ h.assignments
  rw [Shaped, Shaped, h.kind]
  cases q.kind with
  | select => exact h.selectShaped_iff rows same
  | update =>
    simp only [updateShaped_iff, ne_eq, filters, unassigned, h.targets_iff,
      h.assignments_iff rows same]
  | delete => simp only [deleteShaped_iff, filters, unassigned, h.targets_iff]

end Statement.Related

/-- Related nodes are both scalars or both not. -/
theorem Node.Related.scalar_iff {m : Node α} {n : Node β} (h : Node.Related R m n)
    (rows : ∀ a b, R a b → row₁ a = row₂ b) (same : ∀ a b, R a b → (scalar₁ a ↔ scalar₂ b)) :
    m.Scalar row₁ scalar₁ ↔ n.Scalar row₂ scalar₂ := by
  cases h with
  | row s => exact Iff.rfl
  | @field a b name r =>
    show (∃ s, row₁ a = some s) ∨ scalar₁ a ↔ (∃ s, row₂ b = some s) ∨ scalar₂ b
    rw [rows a b r, same a b r]
  | literal v | countRows => simp [Node.Scalar, Node.children]
  | compare op l r | logical op l r | arithmetic op l r =>
    simp [Node.Scalar, Node.children, same _ _ l, same _ _ r]
  | not r | isNull r | aggregate f d r => simp [Node.Scalar, Node.children, same _ _ r]
  | inList vs negated r =>
    cases vs with
    | nil => exact Iff.rfl
    | cons v vs => simp [Node.Scalar, Node.children, same _ _ r]
  | coalesce each => exact forall_mem_iff_of_forall₂ each same
  | subquery r | existence negated r => exact and_congr (by rw [r.kind]) (r.selectShaped_iff rows same)

end Related

/-! ### Renderable expressions -/

theorem Statement.map_id (q : Statement ε) : q.map id = q := by
  have registration : Registration.map (id : ε → ε) = id := by
    funext r
    cases r with
    | scope s => rfl
    | join j => simp [Registration.map, Join.map]
  have term : OrderTerm.map (id : ε → ε) = id := rfl
  have assignment : Assignment.map (id : ε → ε) = id := rfl
  simp [Statement.map, FromClause.map, registration, term, assignment]

theorem Node.map_id (n : Node ε) : n.map id = n := by
  cases n with
  | coalesce es => simp [Node.map]
  | subquery q => rw [Node.map, Statement.map_id]
  | existence q negated => rw [Node.map, Statement.map_id]
  | _ => rfl

theorem Expr.row?_role (e : Expr) : e.role.row? = e.row? := by
  obtain ⟨n⟩ := e
  rw [role, Expr.fold_node]
  cases n with
  | _ => rfl

/-- **What makes an expression renderable** is its outermost form, and what stands in it. -/
theorem Expr.renderable_node (n : Node Expr) :
    (Expr.node n).Renderable ↔ n.Scalar Expr.row? Expr.Renderable := by
  have related : Node.Related (fun f e => f = Expr.role e) (n.map Expr.role) (n.map id) :=
    Node.map_related fun e _ => rfl
  rw [Node.map_id] at related
  rw [Renderable, role, Expr.fold_node]
  refine related.scalar_iff ?_ ?_
  · rintro f e rfl
    exact e.row?_role
  · rintro f e rfl
    exact Iff.rfl

end SqlBuilder
