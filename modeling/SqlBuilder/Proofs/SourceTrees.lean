import SqlBuilder.Proofs.AliasSupply
import SqlBuilder.Proofs.BuilderSession
import SqlBuilder.Proofs.Course

/-!
# The join trees of a builder

A join is registered after its operands, so that the trees of a from-clause are finite, and a
registration that comes later leaves the trees that are there as they are.

* `FromClause.Grounded` : joins have earlier operands, and the roots are registered;
* `Grounded.tree_push` : one registration more changes none of the trees that are there;
* `Builder.Extends` : nothing but the from-clause differs, and it has no predicate more;
* `Operand.register_rooted` : an operand registers a tree whose tables are its leaves;
* **`Course.grounded`** : calls keep the from-clause of a builder grounded;
* **`Course.listed`** : calls that list all that they register at top level keep each table listed
  exactly once.
-/

namespace SqlBuilder

namespace FromClause

variable {ε : Type}

/-- Joins have earlier operands, and the roots are registered. -/
structure Grounded (c : FromClause ε) : Prop where
  operands : ∀ i (j : Join ε), c.get? i = some (.join j) → j.left < i ∧ j.right < i
  roots : ∀ r ∈ c.roots, r < c.registrations.length

theorem lt_length_of_get? {c : FromClause ε} {i : Nat} {r : Registration ε}
    (h : c.get? i = some r) : i < c.registrations.length :=
  (List.getElem?_eq_some_iff.1 h).1

theorem get?_push_of_lt {c : FromClause ε} {i : Nat} (h : i < c.registrations.length)
    (r : Registration ε) : (c.push r).get? i = c.get? i :=
  List.getElem?_append_left h

theorem get?_push_length (c : FromClause ε) (r : Registration ε) :
    (c.push r).get? c.registrations.length = some r :=
  List.getElem?_concat_length

theorem length_push (c : FromClause ε) (r : Registration ε) :
    (c.push r).registrations.length = c.registrations.length + 1 := by
  show (c.registrations ++ [r]).length = _
  rw [List.length_append, List.length_singleton]

/-- What stands at a position after one registration more. -/
theorem get?_push_eq_some {c : FromClause ε} {r r' : Registration ε} {i : Nat}
    (h : (c.push r).get? i = some r') :
    c.get? i = some r' ∨ i = c.registrations.length ∧ r' = r := by
  rcases Nat.lt_or_ge i c.registrations.length with early | late
  · rw [get?_push_of_lt early] at h
    exact .inl h
  · have bound := lt_length_of_get? h
    rw [length_push] at bound
    obtain rfl : i = c.registrations.length := by omega
    rw [get?_push_length] at h
    cases h
    exact .inr ⟨rfl, rfl⟩

namespace Grounded

variable {c : FromClause ε}

theorem empty : (FromClause.empty : FromClause ε).Grounded where
  operands i j at_i := by cases at_i
  roots r mem := by cases mem

/-- One registration more, which has earlier operands if it is a join. -/
theorem push (h : c.Grounded) {r : Registration ε}
    (earlier : ∀ j : Join ε, r = .join j →
      j.left < c.registrations.length ∧ j.right < c.registrations.length) :
    (c.push r).Grounded where
  operands i j at_i := by
    rcases get?_push_eq_some at_i with old | ⟨rfl, new⟩
    · exact h.operands i j old
    · exact earlier j new.symm
  roots r' mem := by
    have := h.roots r' mem
    rw [length_push]
    omega

/-- A registration is listed at top level. -/
theorem addRoot (h : c.Grounded) {id : Nat} (registered : id < c.registrations.length) :
    Grounded { c with roots := c.roots ++ [id] } where
  operands := h.operands
  roots r mem := by
    rcases List.mem_append.1 mem with old | new
    · exact h.roots r old
    · rw [List.mem_singleton.1 new]
      exact registered

/-- A join gets a predicate. -/
theorem setPredicate (h : c.Grounded) {i : Nat} {j : Join ε} (at_i : c.get? i = some (.join j))
    (p : Option ε) :
    Grounded { c with
      registrations := c.registrations.set i (.join { j with predicate := p }) } where
  operands k j' at_k := by
    have at_k' : (c.registrations.set i (.join { j with predicate := p }))[k]? = some (.join j') :=
      at_k
    rw [List.getElem?_set] at at_k'
    split at at_k'
    · rename_i here
      rw [if_pos (lt_length_of_get? at_i)] at at_k'
      cases at_k'
      rw [← here]
      exact h.operands i j at_i
    · exact h.operands k j' at_k'
  roots r mem := by
    show r < (c.registrations.set i _).length
    rw [List.length_set]
    exact h.roots r mem

/-! ### Trees -/

/-- A tree is finite, so that any depth beyond its position is enough. -/
theorem treeWithin_eq (h : c.Grounded) : ∀ depth depth' id : Nat, id < depth → id < depth' →
    c.treeWithin depth id = c.treeWithin depth' id := by
  intro depth
  induction depth with
  | zero =>
    intro depth' id lt
    omega
  | succ depth ih =>
    intro depth' id lt lt'
    obtain ⟨depth', rfl⟩ : ∃ d, depth' = d + 1 := ⟨depth' - 1, by omega⟩
    rw [treeWithin, treeWithin]
    split
    · rfl
    · rfl
    · rename_i j at_id
      obtain ⟨left, right⟩ := h.operands id j at_id
      rw [ih depth' j.left (by omega) (by omega), ih depth' j.right (by omega) (by omega)]

/-- One registration more changes no tree of earlier ones. -/
theorem treeWithin_push (h : c.Grounded) (r : Registration ε) :
    ∀ depth id : Nat, id < c.registrations.length →
      (c.push r).treeWithin depth id = c.treeWithin depth id := by
  intro depth
  induction depth with
  | zero =>
    intro id _
    rfl
  | succ depth ih =>
    intro id lt
    rw [treeWithin, treeWithin, get?_push_of_lt lt]
    split
    · rfl
    · rfl
    · rename_i j at_id
      obtain ⟨left, right⟩ := h.operands id j at_id
      rw [ih j.left (by omega), ih j.right (by omega)]

theorem tree_push (h : c.Grounded) (r : Registration ε) {id : Nat}
    (lt : id < c.registrations.length) : (c.push r).tree id = c.tree id := by
  rw [tree, length_push, h.treeWithin_push r _ id lt]
  exact h.treeWithin_eq _ _ id (by omega) (by omega)

/-- The tree of a join has the trees of its operands. -/
theorem tree_join (h : c.Grounded) {id : Nat} {j : Join ε} (at_id : c.get? id = some (.join j)) :
    c.tree id = .join j.kind (c.tree j.left) (c.tree j.right) j.predicate := by
  have lt := lt_length_of_get? at_id
  obtain ⟨left, right⟩ := h.operands id j at_id
  rw [tree, treeWithin, at_id]
  show JoinTree.join j.kind _ _ _ = _
  rw [tree, tree, h.treeWithin_eq _ (c.registrations.length + 1) j.left (by omega) (by omega),
    h.treeWithin_eq _ (c.registrations.length + 1) j.right (by omega) (by omega)]

end Grounded

theorem tree_scope {c : FromClause ε} {id : Nat} {s : Scope} (at_id : c.get? id = some (.scope s)) :
    c.tree id = .scope s := by
  rw [tree, treeWithin, at_id]

end FromClause

/-- A registration without its predicate. -/
def Registration.bare {ε : Type} : Registration ε → Registration Unit
  | .scope s => .scope s
  | .join j => .join ⟨j.kind, j.left, j.right, none⟩

namespace FromClause

/-- The tables of a tree do not depend on predicates. -/
theorem scopes_treeWithin_of_bare {α β : Type} {c : FromClause α} {c' : FromClause β}
    (same : ∀ i, (c.get? i).map Registration.bare = (c'.get? i).map Registration.bare) :
    ∀ depth id, (c.treeWithin depth id).scopes = (c'.treeWithin depth id).scopes := by
  intro depth
  induction depth with
  | zero =>
    intro id
    rfl
  | succ depth ih =>
    intro id
    have here := same id
    rw [treeWithin, treeWithin]
    cases at_id : c.get? id with
    | none =>
      cases at_id' : c'.get? id with
      | none => rfl
      | some r' =>
        rw [at_id, at_id'] at here
        cases here
    | some r =>
      cases at_id' : c'.get? id with
      | none =>
        rw [at_id, at_id'] at here
        cases here
      | some r' =>
        rw [at_id, at_id', Option.map_some, Option.map_some, Option.some.injEq] at here
        cases r with
        | scope s =>
          cases r' with
          | scope s' =>
            cases here
            rfl
          | join j' => cases here
        | join j =>
          cases r' with
          | scope s' => cases here
          | join j' =>
            injection here with joins
            injection joins with kind left right _
            show (c.treeWithin depth j.left).scopes ++ (c.treeWithin depth j.right).scopes =
              (c'.treeWithin depth j'.left).scopes ++ (c'.treeWithin depth j'.right).scopes
            rw [ih, ih, left, right]

theorem scopes_tree_of_bare {α β : Type} {c : FromClause α} {c' : FromClause β}
    (length : c.registrations.length = c'.registrations.length)
    (same : ∀ i, (c.get? i).map Registration.bare = (c'.get? i).map Registration.bare) (id : Nat) :
    (c.tree id).scopes = (c'.tree id).scopes := by
  rw [tree, tree, length]
  exact scopes_treeWithin_of_bare same _ id

/-- The tables listed at top level, tree by tree from left to right. -/
def listed {ε : Type} (c : FromClause ε) : List Scope := c.trees.flatMap JoinTree.scopes

/-- The tables listed at top level do not depend on predicates. -/
theorem listed_of_bare {α β : Type} {c : FromClause α} {c' : FromClause β}
    (length : c.registrations.length = c'.registrations.length) (roots : c.roots = c'.roots)
    (same : ∀ i, (c.get? i).map Registration.bare = (c'.get? i).map Registration.bare) :
    c.listed = c'.listed := by
  rw [listed, listed, trees, trees, roots, List.flatMap_map, List.flatMap_map]
  congr
  funext id
  exact scopes_tree_of_bare length same id

/-- Replacing what stands in the place of predicates changes no listed table. -/
theorem listed_map {α β : Type} (f : α → β) (c : FromClause α) : (c.map f).listed = c.listed := by
  refine listed_of_bare (List.length_map _) rfl fun i => ?_
  show ((c.registrations.map (Registration.map f))[i]?).map _ = (c.registrations[i]?).map _
  rw [List.getElem?_map, Option.map_map]
  congr
  funext r
  cases r with
  | scope s => rfl
  | join j => rfl

end FromClause

/-! ### Operands and shapes -/

namespace Builder

/-- The from-clause of a builder. -/
def source (b : Builder) : FromClause Expr := b.statement.source

end Builder

/-- What the registration of an operand does to a from-clause that is grounded. -/
structure Operand.Rooted {τ : Type} (b : Builder) (r : Operand.Registered τ) : Prop where
  grounded : r.builder.source.Grounded
  registered : r.id < r.builder.nextId
  length : b.nextId ≤ r.builder.nextId
  roots : r.builder.source.roots = b.source.roots
  earlier : ∀ i < b.nextId, r.builder.source.tree i = b.source.tree i
  leaves : (r.builder.source.tree r.id).scopes = r.leaves.map Prod.snd

/-- A table is a tree with one leaf. -/
theorem Operand.Rooted.table {τ : Type} {b : Builder} (h : b.source.Grounded) (e : Entity)
    (nullable : Bool) (tag : τ) :
    Operand.Rooted b ⟨b.introduce e nullable, b.nextId, [(tag, b.nextScope e nullable)]⟩ where
  grounded := h.push fun j same => by cases same
  registered := by
    show b.nextId < (b.source.push _).registrations.length
    rw [FromClause.length_push]
    exact Nat.lt_succ_self _
  length := by
    show b.nextId ≤ (b.source.push _).registrations.length
    rw [FromClause.length_push]
    exact Nat.le_succ _
  roots := rfl
  earlier i lt := h.tree_push _ lt
  leaves := by
    have at_id := b.source.get?_push_length (.scope (b.nextScope e nullable))
    show ((b.source.push _).tree b.source.registrations.length).scopes = _
    rw [FromClause.tree_scope at_id]
    rfl

/-- A join is a tree with the leaves of its operands. -/
theorem Operand.Rooted.join {τ : Type} {b : Builder} {l r : Operand.Registered τ} (kind : JoinKind)
    (left : Operand.Rooted b l) (right : Operand.Rooted l.builder r) :
    Operand.Rooted b ⟨r.builder.registerJoin kind l.id r.id, r.builder.nextId,
      l.leaves ++ r.leaves⟩ := by
  have left_lt : l.id < l.builder.nextId := left.registered
  have left_lt' : l.id < r.builder.nextId := Nat.lt_of_lt_of_le left_lt right.length
  have right_lt : r.id < r.builder.nextId := right.registered
  have unchanged {i : Nat} (lt : i < r.builder.nextId) :
      (r.builder.registerJoin kind l.id r.id).source.tree i = r.builder.source.tree i :=
    right.grounded.tree_push _ lt
  have length : (r.builder.registerJoin kind l.id r.id).nextId = r.builder.nextId + 1 :=
    r.builder.source.length_push _
  have grounded : (r.builder.registerJoin kind l.id r.id).source.Grounded := by
    apply right.grounded.push
    intro j same
    cases same
    exact ⟨left_lt', right_lt⟩
  constructor
  case grounded => exact grounded
  case registered => exact length.symm ▸ Nat.lt_succ_self _
  case length =>
    have le := left.length
    have le' := right.length
    show b.nextId ≤ (r.builder.registerJoin kind l.id r.id).nextId
    omega
  case roots => exact right.roots.trans left.roots
  case earlier =>
    intro i lt
    have le := left.length
    have le' := right.length
    rw [unchanged (by omega), right.earlier i (by omega), left.earlier i lt]
  case leaves =>
    have at_id := r.builder.source.get?_push_length (.join ⟨kind, l.id, r.id, none⟩)
    show ((r.builder.registerJoin kind l.id r.id).source.tree
      r.builder.source.registrations.length).scopes = (l.leaves ++ r.leaves).map Prod.snd
    rw [grounded.tree_join at_id, JoinTree.scopes, unchanged left_lt', unchanged right_lt,
      right.earlier _ left_lt, left.leaves, right.leaves]
    exact List.map_append.symm

/-- **An operand registers a tree whose tables are its leaves**, and changes no earlier tree. -/
theorem Operand.register_rooted {τ : Type} (o : Operand τ) :
    ∀ b : Builder, b.source.Grounded → Operand.Rooted b (o.register b) := by
  induction o with
  | table e tag =>
    intro b h
    exact .table h e false tag
  | nullable e tag =>
    intro b h
    exact .table h e true tag
  | join kind l r ihl ihr =>
    intro b h
    exact .join kind (ihl b h) (ihr _ (ihl b h).grounded)

namespace Builder

/-- Every table is listed at top level, once and in order of registration. -/
structure Listed (b : Builder) : Prop where
  grounded : b.source.Grounded
  listed : b.source.listed = b.scopes

/-- A builder with nothing in it lists all that it holds. -/
theorem Listed.startWith (kind : StatementKind) (aliases : AliasBook) :
    (Builder.startWith kind aliases).Listed := ⟨.empty, rfl⟩

/-- An operand that is registered and then listed. -/
theorem Listed.addRoot {τ : Type} {b : Builder} {r : Operand.Registered τ} (h : b.Listed)
    (rooted : Operand.Rooted b r) (scopes : r.builder.scopes = b.scopes ++ r.leaves.map Prod.snd) :
    (r.builder.addRoot r.id).Listed where
  grounded := rooted.grounded.addRoot rooted.registered
  listed := by
    -- a tree does not depend on what is listed
    have listing (i : Nat) : ((r.builder.addRoot r.id).source.tree i).scopes =
        (r.builder.source.tree i).scopes := by
      apply FromClause.scopes_tree_of_bare
      · rfl
      · exact fun _ => rfl
    have old : b.source.roots.flatMap (fun i => (r.builder.source.tree i).scopes) = b.scopes := by
      rw [← h.listed, FromClause.listed, FromClause.trees, List.flatMap_map]
      refine List.flatMap_congr fun i mem => ?_
      rw [rooted.earlier i (h.grounded.roots i mem)]
    have roots : (r.builder.addRoot r.id).source.roots = b.source.roots ++ [r.id] :=
      congrArg (· ++ [r.id]) rooted.roots
    rw [FromClause.listed, FromClause.trees, List.flatMap_map, roots]
    show (b.source.roots ++ [r.id]).flatMap
      (fun i => ((r.builder.addRoot r.id).source.tree i).scopes) = r.builder.scopes
    simp only [listing]
    rw [List.flatMap_append, old, List.flatMap_singleton, rooted.leaves, scopes]

end Builder

/-- Shapes keep a from-clause grounded. -/
theorem Shape.introduce_grounded {τ : Type} (s : Shape τ) (b : Builder) (h : b.source.Grounded) :
    (s.introduce b).1.source.Grounded := by
  have all : ∀ (os : List (Operand τ)) (b : Builder), b.source.Grounded →
      (introduceAll os b).1.source.Grounded := by
    intro os
    induction os with
    | nil =>
      intro b h
      exact h
    | cons o os ih =>
      intro b h
      have rooted := o.register_rooted b h
      exact ih _ (rooted.grounded.addRoot rooted.registered)
  exact all s.operands b h

/-- Shapes list all that they register. -/
theorem Shape.introduce_listed {τ : Type} (s : Shape τ) (b : Builder) (h : b.Listed) :
    (s.introduce b).1.Listed := by
  have all : ∀ (os : List (Operand τ)) (b : Builder), b.Listed → (introduceAll os b).1.Listed := by
    intro os
    induction os with
    | nil =>
      intro b h
      exact h
    | cons o os ih =>
      intro b h
      exact ih _ (h.addRoot (o.register_rooted b h.grounded) (o.register_scopes b))
  exact all s.operands b h

/-! ### What stays as it is -/

namespace Builder

/-- Nothing but the from-clause differs, and it has no predicate more. -/
structure Extends (b b' : Builder) : Prop where
  predicates : ∀ i (j : Join Expr) p, b'.registration? i = some (.join j) →
    j.predicate = some p → b.registration? i = some (.join j)
  clauses : ∃ source, b'.statement = { b.statement with source := source }

namespace Extends

variable {b b' : Builder}

theorem refl (b : Builder) : Extends b b := ⟨fun _ _ _ at_i _ => at_i, _, rfl⟩

/-- One registration more, which has no predicate. -/
theorem register (h : Extends b b') {r : Registration Expr}
    (bare : ∀ (j : Join Expr) p, r = .join j → j.predicate ≠ some p) :
    Extends b (b'.register r) where
  predicates i j p at_i has := by
    rcases FromClause.get?_push_eq_some at_i with old | ⟨_, new⟩
    · exact h.predicates i j p old has
    · exact absurd has (bare j p new.symm)
  clauses := by
    obtain ⟨source, same⟩ := h.clauses
    have here : (b'.register r).statement =
      { b'.statement with source := b'.statement.source.push r } := rfl
    rw [here, same]
    exact ⟨_, rfl⟩

theorem introduce (h : Extends b b') (e : Entity) (nullable : Bool) :
    Extends b (b'.introduce e nullable) := by
  have new := h.register (r := .scope (b'.nextScope e nullable)) fun j p same => by cases same
  exact ⟨new.predicates, new.clauses⟩

theorem registerJoin (h : Extends b b') (kind : JoinKind) (left right : Nat) :
    Extends b (b'.registerJoin kind left right) := by
  have new := h.register (r := .join ⟨kind, left, right, none⟩) fun j p same => by
    cases same
    exact fun has => by cases has
  exact ⟨new.predicates, new.clauses⟩

theorem addRoot (h : Extends b b') (id : Nat) : Extends b (b'.addRoot id) where
  predicates := h.predicates
  clauses := by
    obtain ⟨source, same⟩ := h.clauses
    have here : (b'.addRoot id).statement = { b'.statement with
      source := { b'.statement.source with roots := b'.statement.source.roots ++ [id] } } := rfl
    rw [here, same]
    exact ⟨_, rfl⟩

end Extends

/-- An operand that is registered. -/
theorem extends_register {τ : Type} (o : Operand τ) (b : Builder) :
    Extends b (o.register b).builder := by
  refine o.register_preserves (P := Extends b) ?_ ?_ b (.refl b)
  · intro b' e nullable h
    exact h.introduce e nullable
  · intro b' kind left right h
    exact h.registerJoin kind left right

/-- A shape that is brought in. -/
theorem extends_introduce {τ : Type} (s : Shape τ) (b : Builder) : Extends b (s.introduce b).1 := by
  refine s.introduce_preserves (P := Extends b) ?_ ?_ ?_ b (.refl b)
  · intro b' e nullable h
    exact h.introduce e nullable
  · intro b' kind left right h
    exact h.registerJoin kind left right
  · intro b' id h
    exact h.addRoot id

end Builder

/-! ### Every course -/

namespace Builder

/-- An ON predicate changes nothing but a predicate. -/
theorem bare_attach {b b' : Builder} {p : Expr} (attached : b.attach p = .ok b') (i : Nat) :
    (b'.source.get? i).map Registration.bare = (b.source.get? i).map Registration.bare := by
  obtain ⟨k, rest, j, _, at_k, rfl⟩ := attach_eq_ok_iff.1 attached
  show ((b.source.registrations.set k _)[i]?).map _ = _
  rw [List.getElem?_set]
  have at_k' : b.source.get? k = some (.join j) := at_k
  split
  · rename_i here
    rw [if_pos (FromClause.lt_length_of_get? at_k'), ← here, at_k']
    rfl
  · rfl

/-- It changes no table. -/
theorem scopes_attach {b b' : Builder} {p : Expr} (attached : b.attach p = .ok b') :
    b'.scopes = b.scopes := by
  obtain ⟨own, scopes, sub⟩ := (Change.attach p attached).scopes
  rw [scopes, List.sublist_nil.1 sub, List.append_nil]

theorem grounded_attach {b b' : Builder} {p : Expr} (attached : b.attach p = .ok b')
    (h : b.source.Grounded) : b'.source.Grounded := by
  obtain ⟨k, rest, j, _, at_k, rfl⟩ := attach_eq_ok_iff.1 attached
  exact h.setPredicate at_k (some p)

theorem Listed.attach {b b' : Builder} {p : Expr} (h : b.Listed) (attached : b.attach p = .ok b') :
    b'.Listed where
  grounded := grounded_attach attached h.grounded
  listed := by
    have bare := bare_attach attached
    rw [scopes_attach attached, ← h.listed]
    obtain ⟨k, rest, j, _, at_k, rfl⟩ := attach_eq_ok_iff.1 attached
    exact FromClause.listed_of_bare List.length_set rfl bare

end Builder

namespace Course

variable {rule : Call → Prop} {b b' : Builder} {env env' : Env}

/-- **Calls keep the from-clause of a builder grounded.** -/
theorem grounded (h : Course rule b env b' env') :
    b.source.Grounded → b'.source.Grounded := by
  induction h with
  | andThen _ _ ih₁ ih₂ => exact fun now => ih₂ (ih₁ now)
  | introduce shape b env _ => exact shape.introduce_grounded b
  | register operand b env _ => exact fun now => (operand.register_rooted b now).grounded
  | attach _ _ attached => exact Builder.grounded_attach attached
  | isolated _ ih => exact ih
  | evaluate | filter | group | having | order | limit | offset | distinct | assign | abandoned |
    subquery => exact id

/-- **Calls that list all that they register at top level** keep each table listed exactly once. -/
theorem listed (only : ∀ operand, ¬ rule (.register operand)) (h : Course rule b env b' env') :
    b.Listed → b'.Listed := by
  induction h with
  | andThen _ _ ih₁ ih₂ => exact fun now => ih₂ (ih₁ now)
  | introduce shape b env _ => exact shape.introduce_listed b
  | register operand b env kept => exact absurd kept (only operand)
  | attach _ _ attached => exact fun now => now.attach attached
  | isolated _ ih => exact fun now => ⟨(ih ⟨now.1, now.2⟩).1, (ih ⟨now.1, now.2⟩).2⟩
  | evaluate | filter | group | having | order | limit | offset | distinct | assign | abandoned |
    subquery => exact fun now => ⟨now.1, now.2⟩

end Course

end SqlBuilder
