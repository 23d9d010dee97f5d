import SqlBuilder.Builder.Basic

/-!
# Shapes

What a single call brings into a statement: a table, a join tree, or several of these side by side.
The leaves carry tags of a type of the caller's choice, by which the caller gets the scopes back.

* `Operand`, `Shape` : the shapes;
* `Operand.register` : registers the leaves and joins of an operand, leaves before their join and
  left before right;
* `Shape.introduce` : registers a shape and lists each of its operands at top level.
-/

namespace SqlBuilder

/-- A table or a tree of joins. -/
inductive Operand (τ : Type) where
  | table (e : Entity) (tag : τ)
  /-- A table whose row may be missing. -/
  | nullable (e : Entity) (tag : τ)
  | join (kind : JoinKind) (left right : Operand τ)

/-- One operand, or several side by side. -/
inductive Shape (τ : Type) where
  | single (o : Operand τ)
  | tuple (os : List (Operand τ))

namespace Operand

variable {τ : Type}

/-- The kinds of the joins, each before those of its operands. -/
def kinds : Operand τ → List JoinKind
  | .table _ _ | .nullable _ _ => []
  | .join k l r => k :: (l.kinds ++ r.kinds)

/-- What registering an operand gives: its position and the scopes of its leaves, left to right. -/
structure Registered (τ : Type) where
  builder : Builder
  id : Nat
  leaves : List (τ × Scope)

/-- Registers an operand and everything below it. -/
def register : Operand τ → Builder → Registered τ
  | .table e tag, b => ⟨b.introduce e false, b.nextId, [(tag, b.nextScope e false)]⟩
  | .nullable e tag, b => ⟨b.introduce e true, b.nextId, [(tag, b.nextScope e true)]⟩
  | .join k l r, b =>
    let left := l.register b
    let right := r.register left.builder
    ⟨right.builder.registerJoin k left.id right.id, right.builder.nextId,
      left.leaves ++ right.leaves⟩

end Operand

namespace Shape

variable {τ : Type}

/-- The operands of a shape. -/
def operands : Shape τ → List (Operand τ)
  | .single o => [o]
  | .tuple os => os

/-- The kinds of the joins of a shape. -/
def kinds (s : Shape τ) : List JoinKind := s.operands.flatMap Operand.kinds

/-- Registers operands one after the other, each at top level. -/
def introduceAll : List (Operand τ) → Builder → Builder × List (τ × Scope)
  | [], b => (b, [])
  | o :: os, b =>
    let first := o.register b
    let rest := introduceAll os (first.builder.addRoot first.id)
    (rest.1, first.leaves ++ rest.2)

/-- Registers a shape; gives the scopes of its leaves, left to right. -/
def introduce (s : Shape τ) (b : Builder) : Builder × List (τ × Scope) :=
  introduceAll s.operands b

end Shape

end SqlBuilder
