import SqlBuilder.Proofs.NeededVariables
import SqlBuilder.Proofs.SourceTrees

/-!
# What a shape brings in

A shape is a forest of tables and joins, and a from-clause is a list.  Introducing a shape writes the
forest into the list, operands before their join and the left one before the right one, and joins
store their operands as positions of the list.  Nothing is lost on the way: the tree at each new root
is the operand that was introduced.

* `Operand.postorder` : the tables and joins of an operand in order of registration;
* `Operand.registrationAt` : the registration of a table or join at a position;
* `JoinTree.operand?` : the operand that a tree reads back as;
* `Shape.Placed` : all that introducing a shape does to a builder;
* `Operand.operand?_treeWithin` : an operand that was written down reads back as itself, whatever
  stands before and after it;
* **`Shape.introduce_placed`** : each shape is placed in whatever builder it is introduced to.
-/

namespace SqlBuilder

/-! ### Operands as lists -/

namespace Operand

variable {τ σ : Type}

/-- Replaces the tags. -/
def map (f : τ → σ) : Operand τ → Operand σ
  | .table e tag => .table e (f tag)
  | .nullable e tag => .nullable e (f tag)
  | .join k l r => .join k (l.map f) (r.map f)

/-- How many tables and joins there are. -/
def size : Operand τ → Nat
  | .table _ _ | .nullable _ _ => 1
  | .join _ l r => l.size + r.size + 1

/-- The tables and joins, each join after its operands and the left operand before the right one. -/
def postorder : Operand τ → List (Operand τ)
  | .table e tag => [.table e tag]
  | .nullable e tag => [.nullable e tag]
  | .join k l r => l.postorder ++ r.postorder ++ [.join k l r]

/-- Whether this is a join. -/
def isJoin : Operand τ → Bool
  | .join _ _ _ => true
  | _ => false

@[simp] theorem length_postorder (o : Operand τ) : o.postorder.length = o.size := by
  induction o with
  | table e tag => rfl
  | nullable e tag => rfl
  | join k l r ihl ihr =>
    rw [postorder, List.length_append, List.length_append, ihl, ihr]
    rfl

/-- The registration of a table or join at a position.  The right operand of a join ends just before
it, and the left operand just before the right one begins. -/
def registrationAt : Operand (τ × Scope) → Nat → Registration Expr
  | .table _ (_, s), _ | .nullable _ (_, s), _ => .scope s
  | .join k _ r, id => .join ⟨k, id - 1 - r.size, id - 1, none⟩

/-- The registrations of tables and joins from a position on. -/
def registrationsFrom (nodes : List (Operand (τ × Scope))) (first : Nat) :
    List (Registration Expr) :=
  (nodes.zipIdx first).map fun node => node.1.registrationAt node.2

/-- The positions of the joins among tables and joins from a position on. -/
def joinsFrom (nodes : List (Operand τ)) (first : Nat) : List Nat :=
  (nodes.zipIdx first).filterMap fun node => if node.1.isJoin then some node.2 else none

/-- The positions of operands that are written down one after the other from a position on. -/
def rootsFrom : List (Operand τ) → Nat → List Nat
  | [], _ => []
  | o :: os, first => (first + o.size - 1) :: rootsFrom os (first + o.size)

/-- The scopes are those of the tables. -/
def Describes : Operand (τ × Scope) → Prop
  | .table e (_, s) => s.table = e.table ∧ s.fields = e.fields ∧ s.nullable = false
  | .nullable e (_, s) => s.table = e.table ∧ s.fields = e.fields ∧ s.nullable = true
  | .join _ l r => l.Describes ∧ r.Describes

end Operand

/-- The operand that a tree reads back as, with the scopes for tags; nothing if the tree has a
predicate, or a position that stands for nothing. -/
def JoinTree.operand? {ε : Type} : JoinTree ε → Option (Operand Scope)
  | .scope s => some (if s.nullable then .nullable ⟨s.table, s.fields⟩ s else .table ⟨s.table, s.fields⟩ s)
  | .join k l r none =>
    match l.operand?, r.operand? with
    | some left, some right => some (.join k left right)
    | _, _ => none
  | _ => none

namespace Builder

/-- The statement with registrations and roots appended. -/
def enlarged (b : Builder) (rs : List (Registration Expr)) (roots : List Nat) : Statement Expr :=
  { b.statement with source := ⟨b.source.registrations ++ rs, b.source.roots ++ roots⟩ }

/-- Statements are enlarged one after the other. -/
theorem enlarged_enlarged {b b' : Builder} {rs : List (Registration Expr)} {roots : List Nat}
    (h : b'.statement = b.enlarged rs roots) (rs' : List (Registration Expr)) (roots' : List Nat) :
    b'.enlarged rs' roots' = b.enlarged (rs ++ rs') (roots ++ roots') := by
  rw [enlarged, source, h, enlarged, enlarged, ← List.append_assoc, ← List.append_assoc]

theorem statement_register (b : Builder) (r : Registration Expr) :
    (b.register r).statement = b.enlarged [r] [] := by
  rw [enlarged, List.append_nil]
  rfl

theorem statement_addRoot (b : Builder) (id : Nat) :
    (b.addRoot id).statement = b.enlarged [] [id] := by
  rw [enlarged, List.append_nil]
  rfl

end Builder

/-! ### Writing down -/

namespace Operand

variable {τ : Type}

theorem registrationsFrom_append (nodes more : List (Operand (τ × Scope))) (first : Nat) :
    registrationsFrom (nodes ++ more) first =
      registrationsFrom nodes first ++ registrationsFrom more (first + nodes.length) := by
  rw [registrationsFrom, List.zipIdx_append, List.map_append]
  rfl

theorem joinsFrom_append (nodes more : List (Operand τ)) (first : Nat) :
    joinsFrom (nodes ++ more) first =
      joinsFrom nodes first ++ joinsFrom more (first + nodes.length) := by
  rw [joinsFrom, List.zipIdx_append, List.filterMap_append]
  rfl

@[simp] theorem length_registrationsFrom (nodes : List (Operand (τ × Scope))) (first : Nat) :
    (registrationsFrom nodes first).length = nodes.length := by
  rw [registrationsFrom, List.length_map, List.length_zipIdx]

/-- A join is written down after its operands. -/
theorem registrationsFrom_postorder_join (k : JoinKind) (l r : Operand (τ × Scope)) (first : Nat) :
    registrationsFrom (join k l r).postorder first =
      registrationsFrom l.postorder first ++ registrationsFrom r.postorder (first + l.size) ++
        [.join ⟨k, first + l.size - 1, first + l.size + r.size - 1, none⟩] := by
  have left : first + (l.postorder ++ r.postorder).length - 1 - r.size = first + l.size - 1 := by
    rw [List.length_append, length_postorder, length_postorder]
    omega
  have right : first + (l.postorder ++ r.postorder).length - 1 = first + l.size + r.size - 1 := by
    rw [List.length_append, length_postorder, length_postorder, Nat.add_assoc]
  rw [postorder, registrationsFrom_append, registrationsFrom_append, length_postorder]
  show _ ++ [Registration.join ⟨k, first + (l.postorder ++ r.postorder).length - 1 - r.size,
    first + (l.postorder ++ r.postorder).length - 1, none⟩] = _
  rw [left, right]

/-- The last of the joins is the join itself. -/
theorem joinsFrom_postorder_join (k : JoinKind) (l r : Operand τ) (first : Nat) :
    joinsFrom (join k l r).postorder first =
      joinsFrom l.postorder first ++ joinsFrom r.postorder (first + l.size) ++
        [first + l.size + r.size] := by
  rw [postorder, joinsFrom_append, joinsFrom_append, length_postorder, List.length_append,
    length_postorder, length_postorder, ← Nat.add_assoc]
  rfl

example (e : Entity) : joinsFrom (postorder (.join .inner (.join .leftOuter (.table e ())
    (.nullable e ())) (.table e ()))) 4 = [6, 8] := rfl

/-- What the registration of an operand does to a builder: `placed` is the operand with the scope of
each table beside its tag. -/
structure PlacedAt (o : Operand τ) (b : Builder) (placed : Operand (τ × Scope)) : Prop where
  shape : placed.map Prod.fst = o
  describes : placed.Describes
  leaves : (o.register b).leaves = placed.tags
  /-- The operand itself comes last. -/
  id : (o.register b).id + 1 = b.nextId + placed.size
  statement : (o.register b).builder.statement =
    b.enlarged (registrationsFrom placed.postorder b.nextId) []
  pending : (o.register b).builder.pending = (joinsFrom placed.postorder b.nextId).reverse ++ b.pending

namespace PlacedAt

variable {b : Builder}

theorem nextId {o : Operand τ} {placed : Operand (τ × Scope)} (h : o.PlacedAt b placed) :
    (o.register b).builder.nextId = b.nextId + placed.size := by
  rw [Builder.nextId, h.statement, ← length_postorder placed, ← length_registrationsFrom _ b.nextId]
  exact List.length_append

/-- A table is one registration. -/
theorem table (e : Entity) (tag : τ) :
    (Operand.table e tag).PlacedAt b (.table e (tag, b.nextScope e false)) where
  shape := rfl
  describes := ⟨rfl, rfl, rfl⟩
  leaves := rfl
  id := rfl
  statement := b.statement_register _
  pending := rfl

theorem nullable (e : Entity) (tag : τ) :
    (Operand.nullable e tag).PlacedAt b (.nullable e (tag, b.nextScope e true)) where
  shape := rfl
  describes := ⟨rfl, rfl, rfl⟩
  leaves := rfl
  id := rfl
  statement := b.statement_register _
  pending := rfl

/-- A join is registered after its operands, and waits on top of the joins among them. -/
theorem join (k : JoinKind) {l r : Operand τ} {left right : Operand (τ × Scope)}
    (hl : l.PlacedAt b left) (hr : r.PlacedAt (l.register b).builder right) :
    (Operand.join k l r).PlacedAt b (.join k left right) where
  shape := by rw [map, hl.shape, hr.shape]
  describes := ⟨hl.describes, hr.describes⟩
  leaves := by rw [register, tags, hl.leaves, hr.leaves]
  id := by
    show (r.register (l.register b).builder).builder.nextId + 1 = b.nextId + (left.size + right.size + 1)
    rw [hr.nextId, hl.nextId]
    omega
  statement := by
    have left_id : (l.register b).id = b.nextId + left.size - 1 := by
      have := hl.id
      omega
    have right_id : (r.register (l.register b).builder).id = b.nextId + left.size + right.size - 1 := by
      have := hr.id
      rw [hl.nextId] at this
      omega
    show ((r.register (l.register b).builder).builder.register (.join ⟨k, (l.register b).id,
      (r.register (l.register b).builder).id, none⟩)).statement = _
    rw [Builder.statement_register, Builder.enlarged_enlarged hr.statement,
      Builder.enlarged_enlarged hl.statement, registrationsFrom_postorder_join, ← left_id, ← right_id,
      ← hl.nextId]
    simp only [List.append_assoc, List.append_nil]
  pending := by
    rw [joinsFrom_postorder_join, List.reverse_append, List.reverse_append, List.append_assoc,
      List.append_assoc, ← hl.pending, ← hl.nextId, ← hr.pending, ← hr.nextId]
    rfl

end PlacedAt

/-- Each operand is placed in whatever builder it is registered with. -/
theorem register_placed (o : Operand τ) : ∀ b : Builder, ∃ placed, o.PlacedAt b placed := by
  induction o with
  | table e tag => exact fun b => ⟨_, .table e tag⟩
  | nullable e tag => exact fun b => ⟨_, .nullable e tag⟩
  | join k l r ihl ihr =>
    intro b
    obtain ⟨left, hl⟩ := ihl b
    obtain ⟨right, hr⟩ := ihr (l.register b).builder
    exact ⟨_, .join k hl hr⟩

end Operand

/-! ### Reading back -/

namespace Operand

variable {τ : Type}

/-- A table that was written down is a tree of its own. -/
theorem treeWithin_scope {c : FromClause Expr} {before after : List (Registration Expr)} {s : Scope}
    (written : c.registrations = before ++ [.scope s] ++ after) {depth : Nat} (deep : 0 < depth) :
    c.treeWithin depth before.length = .scope s := by
  have here : c.get? before.length = some (.scope s) := by
    rw [FromClause.get?, written, List.append_assoc, List.getElem?_append_right (Nat.le_refl _),
      Nat.sub_self]
    rfl
  obtain ⟨depth, rfl⟩ := Nat.exists_eq_succ_of_ne_zero (Nat.ne_of_gt deep)
  rw [FromClause.treeWithin, here]

/-- **An operand that was written down reads back as itself**, whatever stands before and after it. -/
theorem operand?_treeWithin (o : Operand (τ × Scope)) (described : o.Describes) :
    ∀ (c : FromClause Expr) (before after : List (Registration Expr)) (depth : Nat),
      c.registrations = before ++ registrationsFrom o.postorder before.length ++ after →
      o.size ≤ depth →
      (c.treeWithin depth (before.length + o.size - 1)).operand? = some (o.map Prod.snd) := by
  induction o with
  | table e tag =>
    intro c before after depth written deep
    obtain ⟨tag, s⟩ := tag
    obtain ⟨table, fields, nullable⟩ := described
    rw [size, Nat.add_sub_cancel, treeWithin_scope written deep, JoinTree.operand?]
    simp [nullable, map, table, fields]
  | nullable e tag =>
    intro c before after depth written deep
    obtain ⟨tag, s⟩ := tag
    obtain ⟨table, fields, nullable⟩ := described
    rw [size, Nat.add_sub_cancel, treeWithin_scope written deep, JoinTree.operand?]
    simp [nullable, map, table, fields]
  | join k l r ihl ihr =>
    intro c before after depth written deep
    obtain ⟨depth, rfl⟩ := Nat.exists_eq_succ_of_ne_zero (Nat.ne_of_gt (Nat.zero_lt_of_lt deep))
    rw [registrationsFrom_postorder_join] at written
    have deep' : l.size + r.size ≤ depth := Nat.le_of_succ_le_succ deep
    -- the left operand has the right one and the join behind it, the right operand the left one before it
    have left := ihl described.1 c before
      (registrationsFrom r.postorder (before.length + l.size) ++
        [.join ⟨k, before.length + l.size - 1, before.length + l.size + r.size - 1, none⟩] ++ after)
      depth (by simpa using written) (by omega)
    have right := ihr described.2 c (before ++ registrationsFrom l.postorder before.length)
      ([.join ⟨k, before.length + l.size - 1, before.length + l.size + r.size - 1, none⟩] ++ after)
      depth (by simpa using written) (by omega)
    have here : c.get? (before.length + l.size + r.size) =
        some (.join ⟨k, before.length + l.size - 1, before.length + l.size + r.size - 1, none⟩) := by
      have length : (before ++ registrationsFrom l.postorder before.length ++
          registrationsFrom r.postorder (before.length + l.size)).length =
          before.length + l.size + r.size := by
        simp [Nat.add_assoc]
      rw [FromClause.get?, written, ← List.append_assoc, ← List.append_assoc, List.append_assoc _ _ after,
        List.getElem?_append_right (Nat.le_of_eq length), length, Nat.sub_self]
      rfl
    rw [List.length_append, length_registrationsFrom, length_postorder] at right
    show (c.treeWithin (depth + 1) (before.length + (l.size + r.size))).operand? = _
    rw [← Nat.add_assoc, FromClause.treeWithin, here, JoinTree.operand?, left, right]
    rfl

/-- Operands that were written down one after the other read back at their roots. -/
theorem operand?_trees (c : FromClause Expr) (after : List (Registration Expr)) :
    ∀ (os : List (Operand (τ × Scope))) (before : List (Registration Expr)),
      (∀ o ∈ os, o.Describes) →
      c.registrations = before ++ registrationsFrom (os.flatMap postorder) before.length ++ after →
      (rootsFrom os before.length).map (fun id => (c.tree id).operand?) =
        os.map fun o => some (o.map Prod.snd) := by
  intro os
  induction os with
  | nil =>
    intro before _ _
    rfl
  | cons o os ih =>
    intro before described written
    rw [List.flatMap_cons, registrationsFrom_append, length_postorder] at written
    have length : (before ++ registrationsFrom o.postorder before.length).length =
        before.length + o.size := by
      rw [List.length_append, length_registrationsFrom, length_postorder]
    have deep : o.size ≤ c.registrations.length + 1 := by
      rw [written]
      simp
      omega
    have first := o.operand?_treeWithin (described o (List.mem_cons_self ..)) c before
      (registrationsFrom (os.flatMap postorder) (before.length + o.size) ++ after) _
      (by simpa using written) deep
    have rest := ih (before ++ registrationsFrom o.postorder before.length)
      (fun o' later => described o' (List.mem_cons_of_mem _ later))
      (by rw [length]; simpa using written)
    rw [length] at rest
    rw [rootsFrom, List.map_cons, List.map_cons, rest]
    exact congrArg (· :: _) first

end Operand

/-- **All that introducing a shape does to a builder**: `placed` is the shape with the scope of each
table beside its tag. -/
structure Shape.Placed {τ : Type} (s : Shape τ) (b : Builder) (placed : List (Operand (τ × Scope))) :
    Prop where
  /-- Without the scopes it is the shape. -/
  shape : placed.map (Operand.map Prod.fst) = s.operands
  /-- The caller gets the scope of each table at the place of the table. -/
  handles : (s.introduce b).2 = placed.flatMap Operand.tags
  /-- In the statement there is one registration more for each table and each join, in post-order, and
  one root more for each operand. -/
  statement : (s.introduce b).1.statement =
    b.enlarged (Operand.registrationsFrom (placed.flatMap Operand.postorder) b.nextId)
      (Operand.rootsFrom placed b.nextId)
  /-- The new joins wait, the last one on top. -/
  pending : (s.introduce b).1.pending =
    (Operand.joinsFrom (placed.flatMap Operand.postorder) b.nextId).reverse ++ b.pending
  /-- The tree at each new root reads back as the operand. -/
  readBack : (Operand.rootsFrom placed b.nextId).map
      (fun id => ((s.introduce b).1.source.tree id).operand?) =
    placed.map fun o => some (o.map Prod.snd)

namespace Shape

variable {τ : Type}

/-- What introducing operands one after the other does to a builder. -/
structure PlacedAll (os : List (Operand τ)) (b : Builder) (placed : List (Operand (τ × Scope))) :
    Prop where
  shape : placed.map (Operand.map Prod.fst) = os
  describes : ∀ o ∈ placed, o.Describes
  handles : (introduceAll os b).2 = placed.flatMap Operand.tags
  statement : (introduceAll os b).1.statement =
    b.enlarged (Operand.registrationsFrom (placed.flatMap Operand.postorder) b.nextId)
      (Operand.rootsFrom placed b.nextId)
  pending : (introduceAll os b).1.pending =
    (Operand.joinsFrom (placed.flatMap Operand.postorder) b.nextId).reverse ++ b.pending

theorem PlacedAll.nil (b : Builder) : PlacedAll ([] : List (Operand τ)) b [] where
  shape := rfl
  describes o mem := by cases mem
  handles := rfl
  statement := by
    show b.statement = { b.statement with source := ⟨b.source.registrations ++ [], b.source.roots ++ []⟩ }
    rw [List.append_nil, List.append_nil]
    rfl
  pending := rfl

/-- One operand more in front. -/
theorem PlacedAll.cons {o : Operand τ} {os : List (Operand τ)} {b : Builder}
    {first : Operand (τ × Scope)} {rest : List (Operand (τ × Scope))} (h : o.PlacedAt b first)
    (hs : PlacedAll os ((o.register b).builder.addRoot (o.register b).id) rest) :
    PlacedAll (o :: os) b (first :: rest) where
  shape := by rw [List.map_cons, h.shape, hs.shape]
  describes o' mem := by
    rcases List.mem_cons.1 mem with rfl | later
    · exact h.describes
    · exact hs.describes o' later
  handles := by rw [introduceAll, h.leaves, hs.handles, List.flatMap_cons]
  statement := by
    have listed : ((o.register b).builder.addRoot (o.register b).id).statement =
        b.enlarged (Operand.registrationsFrom first.postorder b.nextId) [(o.register b).id] := by
      rw [Builder.statement_addRoot, Builder.enlarged_enlarged h.statement, List.append_nil,
        List.nil_append]
    have id : (o.register b).id = b.nextId + first.size - 1 := by
      have := h.id
      omega
    rw [introduceAll, hs.statement, Builder.enlarged_enlarged listed, List.flatMap_cons,
      Operand.registrationsFrom_append, Operand.length_postorder, Operand.rootsFrom, ← id, ← h.nextId]
    rfl
  pending := by
    rw [List.flatMap_cons, Operand.joinsFrom_append, Operand.length_postorder, List.reverse_append,
      List.append_assoc, ← h.pending, ← h.nextId]
    exact hs.pending

/-- Operands are placed one after the other. -/
theorem introduceAll_placed : ∀ (os : List (Operand τ)) (b : Builder),
    ∃ placed, PlacedAll os b placed := by
  intro os
  induction os with
  | nil => exact fun b => ⟨[], .nil b⟩
  | cons o os ih =>
    intro b
    obtain ⟨first, h⟩ := o.register_placed b
    obtain ⟨rest, hs⟩ := ih ((o.register b).builder.addRoot (o.register b).id)
    exact ⟨first :: rest, .cons h hs⟩

/-- **A shape is placed in whatever builder it is introduced to.**  Its tables and joins are registered
in post-order, its joins wait in that order, each of its operands is a root that reads back as the
operand, and nothing else changes but the aliases. -/
theorem introduce_placed (s : Shape τ) (b : Builder) : ∃ placed, s.Placed b placed := by
  obtain ⟨placed, h⟩ := introduceAll_placed s.operands b
  refine ⟨placed, ?_⟩
  have written : (s.introduce b).1.source.registrations = b.source.registrations ++
      Operand.registrationsFrom (placed.flatMap Operand.postorder) b.nextId ++ [] := by
    rw [List.append_nil, Builder.source]
    exact congrArg (fun q => q.source.registrations) h.statement
  exact {
    shape := h.shape
    handles := h.handles
    statement := h.statement
    pending := h.pending
    readBack := Operand.operand?_trees _ [] placed b.source.registrations h.describes written }

end Shape

end SqlBuilder
