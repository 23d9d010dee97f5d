import SqlBuilder.Program.Run
import SqlBuilder.Proofs.PendingJoins

/-!
# Builders that hold the same from two positions on

When a fragment runs on two builders, what it registers differs in its numbers only: positions are
counted on from different numbers of registrations, and aliases come from different books.

* `SameOffset m n i j` : `i` lies as far behind `m` as `j` behind `n`;
* `Registration.Aligned m n` : the same table, or the same join with its operands at the same offsets;
* `Builder.Aligned m n` : from `m` and from `n` on two builders hold the same registrations, and the
  same joins wait;
* `Builder.Aligned.start` : where a fragment begins, any two builders are aligned;
* **`Builder.Aligned.attach_succeeds_iff`**, **`Builder.Aligned.attach`** : aligned builders take an ON
  predicate or refuse it, and it goes to the join at the same offset;
* `Builder.Aligned.registerOperand`, `Builder.Aligned.introduceShape` : they stay aligned when
  operands and shapes come in.
-/

namespace SqlBuilder

/-! ### Positions and registrations -/

/-- Positions at one distance from two starting points. -/
def SameOffset (m n i j : Nat) : Prop := ∃ d, i = m + d ∧ j = n + d

/-- Tables of one entity, under whatever number and alias. -/
def Scope.Alike (s t : Scope) : Prop :=
  s.table = t.table ∧ s.nullable = t.nullable ∧ s.fields = t.fields

/-- Registrations of the same table, or joins of the same kind whose operands lie at the same offsets
and which both have a predicate or both wait for one. -/
inductive Registration.Aligned (m n : Nat) : Registration Expr → Registration Expr → Prop where
  | scope {s t : Scope} : s.Alike t → Aligned m n (.scope s) (.scope t)
  | join (kind : JoinKind) {l l' r r' : Nat} {p p' : Option Expr} : SameOffset m n l l' →
      SameOffset m n r r' → p.isSome = p'.isSome →
      Aligned m n (.join ⟨kind, l, r, p⟩) (.join ⟨kind, l', r', p'⟩)

/-- Two builders that hold the same from given positions on. -/
structure Builder.Aligned (m n : Nat) (b b' : Builder) : Prop where
  length : SameOffset m n b.nextId b'.nextId
  registrations : ∀ d, Option.Rel (Registration.Aligned m n) (b.registration? (m + d))
    (b'.registration? (n + d))
  pending : List.Forall₂ (SameOffset m n) b.pending b'.pending

/-- A table gets scopes that are alike from whatever books. -/
theorem nextScope_alike (b b' : Builder) (e : Entity) (nullable : Bool) :
    (b.nextScope e nullable).Alike (b'.nextScope e nullable) := ⟨rfl, rfl, rfl⟩

/-- An ON predicate succeeds exactly when the position on top of the stack holds a join. -/
theorem Builder.exists_attach_iff {b : Builder} {p : Expr} :
    (∃ b₁, b.attach p = .ok b₁) ↔
      ∃ i, b.pending.head? = some i ∧ ∃ j : Join Expr, b.registration? i = some (.join j) := by
  constructor
  · rintro ⟨b₁, attached⟩
    obtain ⟨i, j, top, at_i, _⟩ := registration?_attach attached
    exact ⟨i, top, j, at_i⟩
  · rintro ⟨i, top, j, at_i⟩
    obtain ⟨rest, stack⟩ := List.head?_eq_some_iff.1 top
    exact ⟨_, attach_eq_ok_iff.2 ⟨i, rest, j, stack, at_i, rfl⟩⟩

namespace Builder.Aligned

variable {m n : Nat} {b b' : Builder}

/-- A call that touches neither the stack nor the registrations. -/
theorem unchanged {b₁ b₁' : Builder} (h : Aligned m n b b')
    (registrations : b₁.statement.source.registrations = b.statement.source.registrations)
    (registrations' : b₁'.statement.source.registrations = b'.statement.source.registrations)
    (pending : b₁.pending = b.pending) (pending' : b₁'.pending = b'.pending) :
    Aligned m n b₁ b₁' := by
  have same : b₁.registration? = b.registration? := by
    funext i
    show b₁.statement.source.registrations[i]? = b.statement.source.registrations[i]?
    rw [registrations]
  have same' : b₁'.registration? = b'.registration? := by
    funext i
    show b₁'.statement.source.registrations[i]? = b'.statement.source.registrations[i]?
    rw [registrations']
  refine ⟨?_, fun d => ?_, ?_⟩
  · show SameOffset m n b₁.statement.source.registrations.length
      b₁'.statement.source.registrations.length
    rw [registrations, registrations']
    exact h.length
  · rw [same, same']
    exact h.registrations d
  · rw [pending, pending']
    exact h.pending

/-- A fragment begins. -/
theorem sheltered (h : Aligned m n b b') : Aligned m n b.sheltered b'.sheltered :=
  ⟨h.length, h.registrations, .nil⟩

/-- A fragment is over. -/
theorem reunited {inner inner' : Builder} (h : Aligned m n b b') (within : Aligned m n inner inner') :
    Aligned m n (inner.reunited b) (inner'.reunited b') :=
  ⟨within.length, within.registrations, List.rel_append within.pending h.pending⟩

/-- Nothing is registered behind the last registration. -/
theorem start (b b' : Builder) : Aligned b.nextId b'.nextId b.sheltered b'.sheltered where
  length := ⟨0, rfl, rfl⟩
  registrations d := by
    have beyond : b.sheltered.registration? (b.nextId + d) = none :=
      List.getElem?_eq_none (Nat.le_add_right _ _)
    have beyond' : b'.sheltered.registration? (b'.nextId + d) = none :=
      List.getElem?_eq_none (Nat.le_add_right _ _)
    rw [beyond, beyond']
    exact .none
  pending := .nil

/-- A sub-query begins with nothing in it. -/
theorem nested (b b' : Builder) : Aligned 0 0 b.nested b'.nested := start b.nested b'.nested

/-- One registration more on either side. -/
theorem register (h : Aligned m n b b') {r r' : Registration Expr}
    (new : Registration.Aligned m n r r') : Aligned m n (b.register r) (b'.register r') where
  length := by
    obtain ⟨k, length, length'⟩ := h.length
    refine ⟨k + 1, ?_, ?_⟩
    · rw [nextId_register, length]
      omega
    · rw [nextId_register, length']
      omega
  registrations d := by
    obtain ⟨k, length, length'⟩ := h.length
    rw [registration?_register, registration?_register, length, length']
    by_cases here : d = k
    · rw [if_pos (by omega), if_pos (by omega)]
      exact .some new
    · rw [if_neg (by omega), if_neg (by omega)]
      exact h.registrations d
  pending := h.pending

theorem introduce (h : Aligned m n b b') (e : Entity) (nullable : Bool) :
    Aligned m n (b.introduce e nullable) (b'.introduce e nullable) := by
  have new : Aligned m n (b.register (.scope (b.nextScope e nullable)))
      (b'.register (.scope (b'.nextScope e nullable))) :=
    h.register (.scope (nextScope_alike b b' e nullable))
  exact ⟨new.length, new.registrations, new.pending⟩

theorem registerJoin (h : Aligned m n b b') (kind : JoinKind) {l l' r r' : Nat}
    (left : SameOffset m n l l') (right : SameOffset m n r r') :
    Aligned m n (b.registerJoin kind l r) (b'.registerJoin kind l' r') := by
  have new : Aligned m n (b.register (.join ⟨kind, l, r, none⟩))
      (b'.register (.join ⟨kind, l', r', none⟩)) := h.register (.join kind left right rfl)
  exact ⟨new.length, new.registrations, .cons h.length h.pending⟩

/-- A join gets a predicate on either side. -/
theorem setPredicate (h : Aligned m n b b') {d : Nat} {j j' : Join Expr} {p p' : Expr}
    (at_d : b.registration? (m + d) = some (.join j))
    (at_d' : b'.registration? (n + d) = some (.join j')) {b₁ b₁' : Builder}
    (length : b₁.nextId = b.nextId) (length' : b₁'.nextId = b'.nextId)
    (registrations : ∀ i, b₁.registration? i =
      if i = m + d then some (.join { j with predicate := some p }) else b.registration? i)
    (registrations' : ∀ i, b₁'.registration? i =
      if i = n + d then some (.join { j' with predicate := some p' }) else b'.registration? i)
    (pending : List.Forall₂ (SameOffset m n) b₁.pending b₁'.pending) : Aligned m n b₁ b₁' where
  length := by
    rw [length, length']
    exact h.length
  registrations k := by
    rw [registrations, registrations']
    by_cases here : k = d
    · rw [if_pos (by omega), if_pos (by omega)]
      have old := h.registrations d
      rw [at_d, at_d'] at old
      cases old with
      | some aligned =>
        cases aligned with
        | join kind left right _ => exact .some (.join kind left right rfl)
    · rw [if_neg (by omega), if_neg (by omega)]
      exact h.registrations k
  pending := pending

/-- The joins on top of the two stacks lie at one offset, if any join waits. -/
theorem head? (h : Aligned m n b b') :
    Option.Rel (SameOffset m n) b.pending.head? b'.pending.head? := by
  have waiting := h.pending
  generalize b.pending = stack at waiting ⊢
  generalize b'.pending = stack' at waiting ⊢
  cases waiting with
  | nil => exact .none
  | cons here _ => exact .some here

/-- Joins stand at the same offsets. -/
theorem join_iff (h : Aligned m n b b') (d : Nat) :
    (∃ j : Join Expr, b.registration? (m + d) = some (.join j)) ↔
      ∃ j : Join Expr, b'.registration? (n + d) = some (.join j) := by
  have here := h.registrations d
  generalize b.registration? (m + d) = r at here ⊢
  generalize b'.registration? (n + d) = r' at here ⊢
  cases here with
  | none => simp
  | some aligned =>
    cases aligned with
    | scope _ => simp
    | join kind _ _ _ => simp

/-- **Aligned builders take an ON predicate or refuse it**, whatever the predicate is. -/
theorem attach_succeeds_iff (h : Aligned m n b b') (p p' : Expr) :
    (∃ b₁, b.attach p = .ok b₁) ↔ ∃ b₁', b'.attach p' = .ok b₁' := by
  have top := h.head?
  rw [exists_attach_iff, exists_attach_iff]
  generalize b.pending.head? = i at top ⊢
  generalize b'.pending.head? = i' at top ⊢
  cases top with
  | none => simp
  | some here =>
    obtain ⟨d, rfl, rfl⟩ := here
    simpa using h.join_iff d

/-- **Builders that take an ON predicate stay aligned.** -/
theorem attach (h : Aligned m n b b') {p p' : Expr} {b₁ b₁' : Builder}
    (attached : b.attach p = .ok b₁) (attached' : b'.attach p' = .ok b₁') :
    Aligned m n b₁ b₁' := by
  obtain ⟨i, j, top, at_i, rest, length, registrations⟩ := registration?_attach attached
  obtain ⟨i', j', top', at_i', rest', length', registrations'⟩ := registration?_attach attached'
  have same := h.head?
  rw [top, top'] at same
  cases same with
  | some here =>
    obtain ⟨d, rfl, rfl⟩ := here
    apply h.setPredicate at_i at_i' length length' registrations registrations'
    rw [rest, rest', ← List.drop_one, ← List.drop_one]
    exact List.forall₂_drop 1 h.pending

end Builder.Aligned

/-! ### Operands and shapes -/

/-- Leaves with the same tag whose scopes are alike. -/
def LeafAlike {τ : Type} (l l' : τ × Scope) : Prop := l.1 = l'.1 ∧ l.2.Alike l'.2

namespace Builder.Aligned

variable {τ : Type} {m n : Nat}

/-- **An operand that comes in on two sides** gets positions of one offset and scopes that are
alike. -/
theorem registerOperand (o : Operand τ) : ∀ {b b' : Builder}, Aligned m n b b' →
    Aligned m n (o.register b).builder (o.register b').builder ∧
      SameOffset m n (o.register b).id (o.register b').id ∧
      List.Forall₂ LeafAlike (o.register b).leaves (o.register b').leaves := by
  induction o with
  | table e tag =>
    intro b b' h
    exact ⟨h.introduce e false, h.length, .cons ⟨rfl, nextScope_alike b b' e false⟩ .nil⟩
  | nullable e tag =>
    intro b b' h
    exact ⟨h.introduce e true, h.length, .cons ⟨rfl, nextScope_alike b b' e true⟩ .nil⟩
  | join kind l r ihl ihr =>
    intro b b' h
    obtain ⟨after_left, left, leaves⟩ := ihl h
    obtain ⟨after_right, right, leaves'⟩ := ihr after_left
    exact ⟨after_right.registerJoin kind left right, after_right.length,
      List.rel_append leaves leaves'⟩

/-- **A shape that comes in on two sides.** -/
theorem introduceShape (s : Shape τ) {b b' : Builder} (h : Aligned m n b b') :
    Aligned m n (s.introduce b).1 (s.introduce b').1 ∧
      List.Forall₂ LeafAlike (s.introduce b).2 (s.introduce b').2 := by
  rw [Shape.introduce, Shape.introduce]
  induction s.operands generalizing b b' with
  | nil => exact ⟨h, .nil⟩
  | cons o os ih =>
    obtain ⟨after, _, leaves⟩ := registerOperand o h
    have listed : Aligned m n ((o.register b).builder.addRoot (o.register b).id)
        ((o.register b').builder.addRoot (o.register b').id) := after.unchanged rfl rfl rfl rfl
    obtain ⟨last, leaves'⟩ := ih listed
    exact ⟨last, List.rel_append leaves leaves'⟩

end Builder.Aligned

end SqlBuilder
