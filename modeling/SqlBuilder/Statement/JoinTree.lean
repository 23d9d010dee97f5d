import SqlBuilder.Statement.Basic

/-!
# Join trees

A from-clause stores joins by the positions of their operands.  A join tree is what one of its
positions stands for: the table or join found there, with the operands of a join in place.

* `JoinTree` : tables and joins, and leaves for positions that stand for nothing;
* `FromClause.isJoinAt` : whether a join stands at a position;
* `FromClause.tree` : the tree at a position.
-/

namespace SqlBuilder

/-- What a position of a from-clause stands for. -/
inductive JoinTree (ε : Type) where
  | scope (s : Scope)
  | join (kind : JoinKind) (left right : JoinTree ε) (predicate : Option ε)
  /-- No registration has this position. -/
  | missing (id : Nat)
  /-- The join at this position has itself among its operands. -/
  | endless (id : Nat)

namespace JoinTree

/-- Whether a tree is a join, and so needs parentheses as a right operand. -/
def isJoin {ε : Type} : JoinTree ε → Bool
  | .join _ _ _ _ => true
  | _ => false

/-- The tables of a tree from left to right. -/
def scopes {ε : Type} : JoinTree ε → List Scope
  | .scope s => [s]
  | .join _ l r _ => l.scopes ++ r.scopes
  | .missing _ | .endless _ => []

end JoinTree

namespace FromClause

variable {ε : Type}

/-- The registration at a position. -/
def get? (c : FromClause ε) (id : Nat) : Option (Registration ε) := c.registrations[id]?

/-- Whether a join stands at a position. -/
def isJoinAt (c : FromClause ε) (id : Nat) : Bool :=
  match c.get? id with
  | some (.join _) => true
  | _ => false

/-- The tree at a position, following operands at most `depth` levels down. -/
def treeWithin (c : FromClause ε) : Nat → Nat → JoinTree ε
  | 0, id => .endless id
  | depth + 1, id =>
    match c.get? id with
    | none => .missing id
    | some (.scope s) => .scope s
    | some (.join j) =>
      .join j.kind (c.treeWithin depth j.left) (c.treeWithin depth j.right) j.predicate

theorem isJoin_treeWithin_succ (c : FromClause ε) (depth id : Nat) :
    (c.treeWithin (depth + 1) id).isJoin = c.isJoinAt id := by
  rw [treeWithin, isJoinAt]
  split <;> simp_all [JoinTree.isJoin]

/-- The tree at a position.  A path that meets no position twice is at most one longer than there are
registrations, so a path that goes deeper has come back to one of its joins. -/
def tree (c : FromClause ε) (id : Nat) : JoinTree ε :=
  c.treeWithin (c.registrations.length + 1) id

/-- The trees at top level. -/
def trees (c : FromClause ε) : List (JoinTree ε) := c.roots.map c.tree

end FromClause

end SqlBuilder
