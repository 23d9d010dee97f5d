import SqlBuilder.Proofs.RenderSuccess
import SqlBuilder.Proofs.SourceForest

/-!
# Which shapes can be given their ON predicates

Every join waits for a predicate, cross joins too, and a predicate goes to the join that was registered
last.  A cross join must not get one.  So the other joins can be reached exactly as long as no cross
join is registered after one of them.

* `Shape.order` : the kinds of the joins in order of registration, `CrossFirst` the condition on it;
* `Builder.attachAll`, `Builder.offerAll` : several ON predicates, which all find a join or need not;
* `Builder.Serves` : which join got which predicate, with `Serves.registrations` as its specification;
* `Builder.Awaits` : the joins of a shape that was just brought in, all of which wait;
* `Builder.Predicated` : the joins have the predicates chosen for them, and the statement has a text;
* **`Shape.predicated_iff_crossFirst`** : a shape can be given its predicates exactly when its cross
  joins come first.
-/

namespace SqlBuilder

/-! ### The order of registration -/

/-- The kinds of the joins in order of registration, each after those of its operands. -/
def Operand.order {τ : Type} : Operand τ → List JoinKind
  | .table _ _ | .nullable _ _ => []
  | .join kind l r => l.order ++ r.order ++ [kind]

/-- The kinds of the joins of a shape in order of registration. -/
def Shape.order {τ : Type} (s : Shape τ) : List JoinKind := s.operands.flatMap Operand.order

/-- No cross join comes after a join of another kind. -/
def CrossFirst (kinds : List JoinKind) : Prop :=
  kinds.Pairwise fun earlier later => later = .cross → earlier = .cross

instance (kinds : List JoinKind) : Decidable (CrossFirst kinds) :=
  inferInstanceAs (Decidable (kinds.Pairwise _))

/-- The cross joins come first when the list can be cut between them and the others. -/
theorem crossFirst_iff (kinds : List JoinKind) :
    CrossFirst kinds ↔ ∃ crosses others, kinds = crosses ++ others ∧
      (∀ k ∈ crosses, k = .cross) ∧ ∀ k ∈ others, k ≠ .cross := by
  constructor
  · intro h
    induction kinds with
    | nil => exact ⟨[], [], rfl, by simp, by simp⟩
    | cons kind kinds ih =>
      obtain ⟨after, rest⟩ := List.pairwise_cons.1 h
      by_cases cross : kind = .cross
      · obtain ⟨crosses, others, rfl, all, none⟩ := ih rest
        exact ⟨kind :: crosses, others, rfl, List.forall_mem_cons.2 ⟨cross, all⟩, none⟩
      · refine ⟨[], kind :: kinds, rfl, by simp, List.forall_mem_cons.2 ⟨cross, ?_⟩⟩
        exact fun k mem same => cross (after k mem same)
  · rintro ⟨crosses, others, rfl, all, none⟩
    refine List.pairwise_append.2 ⟨?_, ?_, ?_⟩
    · exact List.pairwise_of_forall_mem_list fun k mem _ _ _ => all k mem
    · exact List.pairwise_of_forall_mem_list fun _ _ k mem same => absurd same (none k mem)
    · exact fun k mem _ _ _ => all k mem

/-! ### Several predicates -/

namespace Builder

/-- Several ON predicates, each of which finds a join. -/
def attachAll (b : Builder) (ps : List Expr) : Except AttachError Builder := ps.foldlM attach b

/-- An ON predicate that changes nothing if no join waits. -/
def offer (b : Builder) (p : Expr) : Builder :=
  match b.attach p with
  | .ok b' => b'
  | .error _ => b

/-- Several ON predicates, some of which may find no join. -/
def offerAll (b : Builder) (ps : List Expr) : Builder := ps.foldl offer b

/-- From one builder to another joins were served with predicates, in this order. -/
inductive Serves : Builder → List (Nat × Expr) → Builder → Prop where
  | done (b : Builder) : Serves b [] b
  | next {b b₁ b' : Builder} {i : Nat} {p : Expr} {served : List (Nat × Expr)} :
      b.pending.head? = some i → b.attach p = .ok b₁ → Serves b₁ served b' →
        Serves b ((i, p) :: served) b'

namespace Serves

variable {b b' : Builder} {served : List (Nat × Expr)}

/-- The joins that are served waited on top. -/
theorem pending (h : Serves b served b') : b.pending = served.map Prod.fst ++ b'.pending := by
  induction h with
  | done b => rfl
  | @next b b₁ b' i p served top attached _ ih =>
    obtain ⟨_, _, _, _, rest, _⟩ := registration?_attach attached
    rw [List.map_cons, List.cons_append, ← ih, rest]
    exact (List.cons_head?_tail top).symm

/-- Joins keep their kind, and their predicate is one they were served with, or the old one if there was
none. -/
theorem registrations (h : Serves b served b') : ∀ (i : Nat) (j' : Join Expr),
    b'.registration? i = some (.join j') → ∃ j, b.registration? i = some (.join j) ∧
      j'.kind = j.kind ∧ (j'.predicate = j.predicate ∧ i ∉ served.map Prod.fst ∨
        ∃ p, (i, p) ∈ served ∧ j'.predicate = some p) := by
  induction h with
  | done b => exact fun i j' at_i => ⟨j', at_i, rfl, .inl ⟨rfl, by simp⟩⟩
  | @next b b₁ b' k p served top attached _ ih =>
    intro i j' at_i
    obtain ⟨k', j, top', at_k, _, _, found⟩ := registration?_attach attached
    obtain rfl : k = k' := Option.some.inj (top.symm.trans top')
    obtain ⟨j₁, at_i₁, kind, predicate⟩ := ih i j' at_i
    rw [found] at at_i₁
    by_cases here : i = k
    · subst here
      rw [if_pos rfl] at at_i₁
      cases at_i₁
      refine ⟨j, at_k, kind, .inr ?_⟩
      rcases predicate with ⟨same, _⟩ | ⟨q, mem, same⟩
      · exact ⟨p, List.mem_cons_self, same⟩
      · exact ⟨q, List.mem_cons_of_mem _ mem, same⟩
    · rw [if_neg here] at at_i₁
      refine ⟨j₁, at_i₁, kind, ?_⟩
      rcases predicate with ⟨same, unserved⟩ | ⟨q, mem, same⟩
      · exact .inl ⟨same, by simp [here, unserved]⟩
      · exact .inr ⟨q, List.mem_cons_of_mem _ mem, same⟩

/-- Where predicates are chosen by position, exactly the joins that are served get theirs. -/
theorem registrations_of_choose {taken : List Nat} {choose : Nat → Expr}
    (h : Serves b (taken.map fun i => (i, choose i)) b') {i : Nat} {j' : Join Expr}
    (at_i' : b'.registration? i = some (.join j')) :
    ∃ j, b.registration? i = some (.join j) ∧ j'.kind = j.kind ∧
      (i ∉ taken ∧ j'.predicate = j.predicate ∨ i ∈ taken ∧ j'.predicate = some (choose i)) := by
  obtain ⟨j, at_i, kind, ⟨same, unserved⟩ | ⟨p, served, has⟩⟩ := h.registrations i j' at_i'
  · rw [List.map_map] at unserved
    exact ⟨j, at_i, kind, .inl ⟨fun mem => unserved (List.mem_map.2 ⟨i, mem, rfl⟩), same⟩⟩
  · obtain ⟨k, mem, found⟩ := List.mem_map.1 served
    cases found
    exact ⟨j, at_i, kind, .inr ⟨mem, has⟩⟩

/-- No join goes away. -/
theorem joins (h : Serves b served b') : ∀ (i : Nat) (j : Join Expr),
    b.registration? i = some (.join j) → ∃ j', b'.registration? i = some (.join j') := by
  induction h with
  | done b => exact fun i j at_i => ⟨j, at_i⟩
  | next top attached _ ih =>
    intro i j at_i
    obtain ⟨k, j', _, _, _, _, found⟩ := registration?_attach attached
    by_cases here : i = k
    · exact ih i _ ((found i).trans (if_pos here))
    · exact ih i j ((found i).trans ((if_neg here).trans at_i))

/-- Nothing but the from-clause changes, and no root does. -/
theorem clauses (h : Serves b served b') :
    ∃ source, b'.statement = { b.statement with source := source } := by
  induction h with
  | done b => exact ⟨_, rfl⟩
  | next _ attached _ ih =>
    obtain ⟨source, same⟩ := ih
    obtain ⟨_, _, _, _, _, rfl⟩ := attach_eq_ok_iff.1 attached
    exact ⟨source, same⟩

theorem listing (h : Serves b served b') (now : b.Listing) : b'.Listing := by
  induction h with
  | done b => exact now
  | next _ attached _ ih =>
    apply ih
    obtain ⟨order, same⟩ := postfix_attach attached now
    rwa [Listing, same]

/-- Predicates that all find a join. -/
theorem attachAll (h : Serves b served b') : b.attachAll (served.map Prod.snd) = .ok b' := by
  induction h with
  | done b => rfl
  | next _ attached _ ih =>
    rw [Builder.attachAll, List.map_cons, List.foldlM_cons, attached]
    exact ih

end Serves

/-- Whatever predicates are offered, some joins are served. -/
theorem exists_serves_offerAll (ps : List Expr) : ∀ b : Builder,
    ∃ served, Serves b served (b.offerAll ps) := by
  induction ps with
  | nil => exact fun b => ⟨[], .done b⟩
  | cons p ps ih =>
    intro b
    obtain ⟨served, rest⟩ := ih (b.offer p)
    cases attached : b.attach p with
    | error e =>
      have same : b.offer p = b := by rw [offer, attached]
      rw [same] at rest
      exact ⟨served, by rwa [offerAll, List.foldl_cons, same]⟩
    | ok b₁ =>
      have same : b.offer p = b₁ := by rw [offer, attached]
      rw [same] at rest
      obtain ⟨i, _, top, _⟩ := registration?_attach attached
      exact ⟨(i, p) :: served, .next top attached (by rwa [offerAll, List.foldl_cons, same])⟩

/-- Any number of joins on top can be served. -/
theorem exists_serves (choose : Nat → Expr) (taken : List Nat) : ∀ {b : Builder} {rest : List Nat},
    b.pending = taken ++ rest → (∀ i ∈ taken, ∃ j, b.registration? i = some (.join j)) →
      ∃ b', Serves b (taken.map fun i => (i, choose i)) b' ∧ b'.pending = rest := by
  induction taken with
  | nil =>
    intro b rest stack _
    exact ⟨b, .done b, stack⟩
  | cons i taken ih =>
    intro b rest stack joins
    obtain ⟨⟨j, at_i⟩, others⟩ := List.forall_mem_cons.1 joins
    obtain ⟨b₁, attached⟩ : ∃ b₁, b.attach (choose i) = .ok b₁ :=
      ⟨_, attach_eq_ok_iff.2 ⟨i, taken ++ rest, j, stack, at_i, rfl⟩⟩
    obtain ⟨k, j', _, _, tail, _, found⟩ := registration?_attach attached
    have stack₁ : b₁.pending = taken ++ rest := by rw [tail, stack]; rfl
    have joins₁ : ∀ k ∈ taken, ∃ j, b₁.registration? k = some (.join j) := by
      intro l mem
      by_cases here : l = k
      · exact ⟨_, (found l).trans (if_pos here)⟩
      · obtain ⟨j, at_l⟩ := others l mem
        exact ⟨j, (found l).trans ((if_neg here).trans at_l)⟩
    obtain ⟨b', serves, left⟩ := ih stack₁ joins₁
    exact ⟨b', .next (by rw [stack]; rfl) attached serves, left⟩

/-! ### The joins that wait -/

/-- The kind of the join at a position. -/
def kindAt? (b : Builder) (i : Nat) : Option JoinKind :=
  match b.registration? i with
  | some (.join j) => some j.kind
  | _ => none

theorem kindAt?_eq_some_iff {b : Builder} {i : Nat} {kind : JoinKind} :
    b.kindAt? i = some kind ↔ ∃ j, b.registration? i = some (.join j) ∧ j.kind = kind := by
  rw [kindAt?]
  cases b.registration? i with
  | none => simp
  | some r =>
    cases r with
    | scope s => simp
    | join j => simp

/-- All joins wait, each once, and they are of the given kinds, the latest first. -/
structure Awaits (b : Builder) (kinds : List JoinKind) : Prop where
  kinds : b.pending.map b.kindAt? = kinds.map some
  waits : ∀ i j, b.registration? i = some (.join j) → i ∈ b.pending ∧ j.predicate = none
  distinct : b.pending.Nodup

namespace Awaits

variable {b : Builder} {kinds : List JoinKind}

theorem startWith (kind : StatementKind) (aliases : AliasBook) :
    (Builder.startWith kind aliases).Awaits [] where
  kinds := rfl
  waits i j at_i := by cases at_i
  distinct := List.nodup_nil

/-- A position that waits holds a join of one of the kinds. -/
theorem exists_join (h : b.Awaits kinds) {i : Nat} (mem : i ∈ b.pending) :
    ∃ j, b.registration? i = some (.join j) := by
  have found : b.kindAt? i ∈ kinds.map some := h.kinds ▸ List.mem_map_of_mem mem
  obtain ⟨kind, _, same⟩ := List.mem_map.1 found
  obtain ⟨j, at_i, _⟩ := kindAt?_eq_some_iff.1 same.symm
  exact ⟨j, at_i⟩

/-- The kinds of some of the joins. -/
theorem kind_mem_iff {ids : List Nat} (same : ids.map b.kindAt? = kinds.map some) {kind : JoinKind} :
    kind ∈ kinds ↔ ∃ i ∈ ids, ∃ j, b.registration? i = some (.join j) ∧ j.kind = kind := by
  have found : kind ∈ kinds ↔ some kind ∈ kinds.map some := by simp
  rw [found, ← same, List.mem_map]
  simp only [kindAt?_eq_some_iff]

/-- The kinds stay when something is registered. -/
theorem kinds_register (h : b.Awaits kinds) (r : Registration Expr) :
    b.pending.map (b.register r).kindAt? = kinds.map some := by
  rw [← h.kinds]
  refine List.map_congr_left fun i mem => ?_
  obtain ⟨j, at_i⟩ := h.exists_join mem
  have lt := lt_nextId_of_registration? at_i
  rw [kindAt?, registration?_register, if_neg (by omega), kindAt?]

theorem introduce (h : b.Awaits kinds) (e : Entity) (nullable : Bool) :
    (b.introduce e nullable).Awaits kinds where
  kinds := h.kinds_register _
  waits i j at_i := by
    have at_i' : (b.register (.scope (b.nextScope e nullable))).registration? i = some (.join j) := at_i
    rw [registration?_register] at at_i'
    split at at_i'
    · cases at_i'
    · exact h.waits i j at_i'
  distinct := h.distinct

theorem registerJoin (h : b.Awaits kinds) (kind : JoinKind) (left right : Nat) :
    (b.registerJoin kind left right).Awaits (kind :: kinds) where
  kinds := by
    have new : (b.register (.join ⟨kind, left, right, none⟩)).kindAt? b.nextId = some kind := by
      rw [kindAt?, registration?_register, if_pos rfl]
    show (b.nextId :: b.pending).map (b.register (.join ⟨kind, left, right, none⟩)).kindAt? = _
    rw [List.map_cons, new, h.kinds_register, List.map_cons]
  waits i j at_i := by
    have at_i' : (b.register (.join ⟨kind, left, right, none⟩)).registration? i = some (.join j) := at_i
    show i ∈ b.nextId :: b.pending ∧ _
    rw [registration?_register] at at_i'
    split at at_i'
    · rename_i here
      cases at_i'
      exact ⟨List.mem_cons.2 (.inl here), rfl⟩
    · obtain ⟨mem, none⟩ := h.waits i j at_i'
      exact ⟨List.mem_cons_of_mem _ mem, none⟩
  distinct := by
    refine List.nodup_cons.2 ⟨fun mem => ?_, h.distinct⟩
    obtain ⟨j, at_i⟩ := h.exists_join mem
    exact Nat.lt_irrefl _ (lt_nextId_of_registration? at_i)

end Awaits

end Builder

/-- The joins of an operand wait on top of those that waited before. -/
theorem Operand.register_awaits {τ : Type} (o : Operand τ) : ∀ {b : Builder} {kinds : List JoinKind},
    b.Awaits kinds → (o.register b).builder.Awaits (o.order.reverse ++ kinds) := by
  induction o with
  | table e tag =>
    intro b kinds h
    exact h.introduce e false
  | nullable e tag =>
    intro b kinds h
    exact h.introduce e true
  | join kind l r ihl ihr =>
    intro b kinds h
    have joined := (ihr (ihl h)).registerJoin kind (l.register b).id
      (r.register (l.register b).builder).id
    have stacked : (Operand.join kind l r).order.reverse ++ kinds =
        kind :: (r.order.reverse ++ (l.order.reverse ++ kinds)) := by
      simp [order]
    rw [stacked]
    exact joined

/-- So do the joins of a shape. -/
theorem Shape.introduce_awaits {τ : Type} (s : Shape τ) {b : Builder} {kinds : List JoinKind}
    (h : b.Awaits kinds) : (s.introduce b).1.Awaits (s.order.reverse ++ kinds) := by
  have all : ∀ (os : List (Operand τ)) (b : Builder) (kinds : List JoinKind), b.Awaits kinds →
      (introduceAll os b).1.Awaits ((os.flatMap Operand.order).reverse ++ kinds) := by
    intro os
    induction os with
    | nil =>
      intro b kinds h
      exact h
    | cons o os ih =>
      intro b kinds h
      have first := o.register_awaits h
      have rest := ih ((o.register b).builder.addRoot (o.register b).id) _
        ⟨first.kinds, first.waits, first.distinct⟩
      have stacked : ((o :: os).flatMap Operand.order).reverse ++ kinds =
          (os.flatMap Operand.order).reverse ++ (o.order.reverse ++ kinds) := by
        simp
      rw [stacked]
      exact rest
  exact all s.operands b kinds h

/-! ### Shapes -/

/-- A SELECT into which a shape was brought and nothing else. -/
def Shape.select {τ : Type} (s : Shape τ) (aliases : AliasBook) : Builder :=
  (s.introduce (.startWith .select aliases)).1

namespace Builder

/-- From one builder to another every join but the cross joins has got the predicate chosen for its
position, and the statement with the given result columns has a text. -/
structure Predicated (b b' : Builder) (choose : Nat → Expr) (columns : List Expr) : Prop where
  chosen : ∀ i j, b.registration? i = some (.join j) → j.kind ≠ .cross →
    ∃ j', b'.registration? i = some (.join j') ∧ j'.predicate = some (choose i)
  renders : ∀ s, ∃ sql, (b'.finish columns).render s = .ok sql

/-- A SELECT of nothing but tables and columns has a text exactly when the predicates of its joins have
one, and no cross join has a predicate. -/
theorem render_finish_succeeds {b : Builder} {columns : List Expr} (listing : b.Listing)
    (clauses : ∃ source, b.statement = { Statement.empty .select with source := source })
    (listable : ∀ c ∈ columns, (∃ s, c.row? = some s) ∨ c.Renderable) (s : Settings) :
    Succeeds ((b.finish columns).render s) ↔ ∀ i j, b.registration? i = some (.join j) →
      ∀ p, j.predicate = some p → j.kind ≠ .cross ∧ p.Renderable := by
  obtain ⟨source, same⟩ := clauses
  have select : (b.finish columns).kind = .select := by rw [finish, same]; rfl
  have shape : (b.finish columns).WellShaped ↔ b.source.WellShaped Expr.Renderable := by
    rw [Statement.WellShaped, Statement.Shaped, select, Statement.selectShaped_iff, finish, same,
      Builder.source, same]
    simp only [Statement.empty, List.nil_append, List.not_mem_nil, false_implies, implies_true,
      and_true, true_and]
    exact and_iff_right listable
  exact ((b.finish columns).succeeds_render s).trans
    ((b.finish columns).tokens_succeeds.trans (shape.trans listing.wellShaped_iff))

end Builder

namespace Shape

variable {τ : Type} (shape : Shape τ) (aliases : AliasBook)

theorem select_awaits : (shape.select aliases).Awaits shape.order.reverse := by
  have waiting := shape.introduce_awaits (Builder.Awaits.startWith .select aliases)
  rwa [List.append_nil] at waiting

theorem select_listing : (shape.select aliases).Listing := by
  have fresh : FromClause.Postfix (Builder.startWith .select aliases).source.registrations [] := .nil
  obtain ⟨new, order, roots⟩ := shape.introduce_postfix (Builder.startWith .select aliases) fresh
  rw [List.nil_append] at order
  have listed : (shape.select aliases).source.roots = new := roots
  rw [Builder.Listing, listed]
  exact order

theorem select_clauses :
    ∃ source, (shape.select aliases).statement = { Statement.empty .select with source := source } :=
  (Builder.extends_introduce shape (Builder.startWith .select aliases)).clauses

variable {shape aliases}

/-- When joins of a shape are served, it depends on them whether the statement has a text. -/
theorem render_served {b' : Builder} {served : List (Nat × Expr)} {columns : List Expr}
    (serves : Builder.Serves (shape.select aliases) served b')
    (listable : ∀ c ∈ columns, (∃ s, c.row? = some s) ∨ c.Renderable) (s : Settings) :
    Succeeds ((b'.finish columns).render s) ↔ ∀ i j, b'.registration? i = some (.join j) →
      ∀ p, j.predicate = some p → j.kind ≠ .cross ∧ p.Renderable := by
  refine Builder.render_finish_succeeds (serves.listing (shape.select_listing aliases)) ?_ listable s
  obtain ⟨source, fresh⟩ := shape.select_clauses aliases
  obtain ⟨source', same⟩ := serves.clauses
  exact ⟨source', by rw [same, fresh]⟩

section

variable {choose : Nat → Expr} {columns : List Expr}

/-- **A shape whose cross joins come first can be given its predicates.** -/
theorem exists_predicated (first : CrossFirst shape.order)
    (scalar : ∀ i j, (shape.select aliases).registration? i = some (.join j) →
      j.kind ≠ .cross → (choose i).Renderable)
    (listable : ∀ c ∈ columns, (∃ s, c.row? = some s) ∨ c.Renderable) :
    ∃ ps b', (shape.select aliases).attachAll ps = .ok b' ∧
      (shape.select aliases).Predicated b' choose columns := by
  obtain ⟨crosses, others, order, all, none⟩ := (crossFirst_iff _).1 first
  have awaits := shape.select_awaits aliases
  have kinds := awaits.kinds
  rw [order, List.reverse_append, List.map_append] at kinds
  -- the joins that are no cross joins lie on top of the stack, and they are served
  obtain ⟨taken, rest, stack, taken_kinds, rest_kinds⟩ := List.map_eq_append_iff.1 kinds
  have joins : ∀ i ∈ taken, ∃ j, (shape.select aliases).registration? i = some (.join j) :=
    fun i mem => awaits.exists_join (by rw [stack]; exact List.mem_append_left _ mem)
  obtain ⟨b', serves, _⟩ := Builder.exists_serves choose taken stack joins
  refine ⟨_, b', serves.attachAll, ?chosen, ?renders⟩
  case chosen =>
    intro i j at_i differs
    have mem : i ∈ taken := by
      have waits := (awaits.waits i j at_i).1
      rw [stack, List.mem_append] at waits
      refine waits.resolve_right fun other => ?_
      have cross := (Builder.Awaits.kind_mem_iff rest_kinds).2 ⟨i, other, j, at_i, rfl⟩
      exact differs (all _ (List.mem_reverse.1 cross))
    obtain ⟨j', at_i'⟩ := serves.joins i j at_i
    obtain ⟨_, _, _, ⟨unserved, _⟩ | ⟨_, has⟩⟩ := serves.registrations_of_choose at_i'
    · exact absurd mem unserved
    · exact ⟨j', at_i', has⟩
  case renders =>
    intro s
    refine (render_served serves listable s).2 fun i j' at_i' p has => ?_
    obtain ⟨j, at_i, kind, ⟨_, same⟩ | ⟨mem, same⟩⟩ := serves.registrations_of_choose at_i'
    · rw [same, (awaits.waits i j at_i).2] at has
      cases has
    · rw [same] at has
      cases has
      have other := (Builder.Awaits.kind_mem_iff taken_kinds).2 ⟨i, mem, j, at_i, rfl⟩
      have differs := none _ (List.mem_reverse.1 other)
      exact ⟨kind ▸ differs, scalar i j at_i differs⟩

/-- **No other shape can**, whatever predicates are offered. -/
theorem crossFirst_of_predicated
    (listable : ∀ c ∈ columns, (∃ s, c.row? = some s) ∨ c.Renderable) {ps : List Expr}
    (h : (shape.select aliases).Predicated ((shape.select aliases).offerAll ps) choose columns) :
    CrossFirst shape.order := by
  obtain ⟨served, serves⟩ := Builder.exists_serves_offerAll ps (shape.select aliases)
  have awaits := shape.select_awaits aliases
  have stack := serves.pending
  have distinct := awaits.distinct
  have kinds := awaits.kinds
  rw [stack] at distinct kinds
  rw [List.map_append] at kinds
  obtain ⟨others, crosses, order, others_kinds, crosses_kinds⟩ := List.map_eq_append_iff.1 kinds.symm
  refine (crossFirst_iff _).2 ⟨crosses.reverse, others.reverse, ?_, ?_, ?_⟩
  · rw [← List.reverse_append, ← order, List.reverse_reverse]
  · intro kind mem
    obtain ⟨i, waiting, j, at_i, rfl⟩ :=
      (Builder.Awaits.kind_mem_iff crosses_kinds.symm).1 (List.mem_reverse.1 mem)
    by_contra differs
    obtain ⟨j', at_i', has⟩ := h.chosen i j at_i differs
    obtain ⟨j₀, at_i₀, _, ⟨same, _⟩ | ⟨p, taken, _⟩⟩ := serves.registrations i j' at_i'
    · rw [has, (awaits.waits i j₀ at_i₀).2] at same
      cases same
    · have twice := (List.nodup_append.1 distinct).2.2 i (List.mem_map_of_mem taken) i waiting
      exact twice rfl
  · intro kind mem
    obtain ⟨i, taken, j, at_i, rfl⟩ :=
      (Builder.Awaits.kind_mem_iff others_kinds.symm).1 (List.mem_reverse.1 mem)
    obtain ⟨j', at_i'⟩ := serves.joins i j at_i
    obtain ⟨j₀, at_i₀, kind, ⟨_, unserved⟩ | ⟨p, _, has⟩⟩ := serves.registrations i j' at_i'
    · exact absurd taken unserved
    · rw [at_i] at at_i₀
      cases at_i₀
      rw [← kind]
      exact ((render_served serves listable .default).1 (h.renders .default) i j' at_i' p has).1

/-- **A shape can be given its ON predicates exactly when its cross joins come first.**  If no cross join
is registered after a join of another kind, predicates of one's choice for the other joins can be
attached, and then the statement has a text; otherwise no predicates that are offered lead there. -/
theorem predicated_iff_crossFirst (shape : Shape τ) (aliases : AliasBook)
    (scalar : ∀ i j, (shape.select aliases).registration? i = some (.join j) →
      j.kind ≠ .cross → (choose i).Renderable)
    (listable : ∀ c ∈ columns, (∃ s, c.row? = some s) ∨ c.Renderable) :
    (CrossFirst shape.order → ∃ ps b', (shape.select aliases).attachAll ps = .ok b' ∧
      (shape.select aliases).Predicated b' choose columns) ∧
    ∀ ps, (shape.select aliases).Predicated ((shape.select aliases).offerAll ps) choose columns →
      CrossFirst shape.order :=
  ⟨fun first => exists_predicated first scalar listable,
    fun _ predicated => crossFirst_of_predicated listable predicated⟩

end

/-- A node of a graph under an alias of its own. -/
def graphNode (x : String) : Operand String := .table ⟨"node", [⟨"id", .int, false⟩]⟩ x

/-- Two nodes are the same. -/
def sameNode : Expr :=
  let node (id : Nat) (aliasName : String) : Expr :=
    .node (.field (.node (.row ⟨id, "node", aliasName, false, [⟨"id", .int, false⟩]⟩)) "id")
  .node (.compare (node 0 "node") .equal (node 1 "node2"))

theorem sameNode_renderable : sameNode.Renderable := by
  simp [sameNode, Expr.renderable_node, Node.Scalar, Node.children, Expr.row?]

/-- An inner join of which a cross join is the left operand. -/
def crossBelow : Shape String :=
  .single (.join .inner (.join .cross (graphNode "a") (graphNode "b")) (graphNode "c"))

/-- The inner join gets its predicate. -/
theorem predicated_iff_crossFirst_crossBelow :
    CrossFirst crossBelow.order ∧ ∃ ps b', (crossBelow.select .empty).attachAll ps = .ok b' ∧
      (crossBelow.select .empty).Predicated b' (fun _ => sameNode) [] := by
  have first : CrossFirst crossBelow.order := by decide
  have given := predicated_iff_crossFirst crossBelow .empty
    (fun _ _ _ _ => sameNode_renderable) (fun c (mem : c ∈ []) => absurd mem List.not_mem_nil)
  exact ⟨first, given.1 first⟩

/-- A cross join of which an inner join is the left operand. -/
def crossAbove : Shape String :=
  .single (.join .cross (.join .inner (graphNode "a") (graphNode "b")) (graphNode "c"))

/-- The inner join can not get its predicate, since the cross join would have to get one first. -/
theorem crossAbove_not_predicated : sameNode.Renderable ∧
    ¬ ∃ ps, (crossAbove.select .empty).Predicated ((crossAbove.select .empty).offerAll ps)
      (fun _ => sameNode) [] := by
  refine ⟨sameNode_renderable, ?_⟩
  rintro ⟨ps, predicated⟩
  have first := crossFirst_of_predicated (by simp) predicated
  exact absurd first (by decide)

end Shape

end SqlBuilder
