import Mathlib.Order.Bounds.Basic
import SqlBuilder.Proofs.BuilderSession

/-!
# Joins that wait for their predicate

A builder keeps the joins without a predicate on a stack, and an isolated fragment works on a stack
of its own.  The stack is no more than a way to find them: at every moment it lists the joins without
a predicate among those registered since the innermost fragment began.

* `Builder.WaitsFrom b start i` : the join at position `i` has no predicate, and `start ≤ i`;
* `Builder.PendingFrom b start` : the stack lists exactly these, the latest first;
* `Builder.Grows` : what calls may do to registrations that are there;
* **`Session.Sound.of_reaches`** : moves keep the stacks of a session exact;
* **`Session.pendingExact_of_reaches`** : the stack, the success of an ON predicate, the join that
  takes it, and the permanence of a predicate once stored.
-/

namespace SqlBuilder

namespace Builder

/-- A join without a predicate stands at the position, which is no earlier than `start`. -/
def WaitsFrom (b : Builder) (start i : Nat) : Prop :=
  start ≤ i ∧ ∃ j : Join Expr, b.registration? i = some (.join j) ∧ j.predicate = none

/-- The stack lists exactly the joins without a predicate from a position on, the latest first. -/
structure PendingFrom (b : Builder) (start : Nat) : Prop where
  latest_first : b.pending.Pairwise (· > ·)
  mem_iff : ∀ i, i ∈ b.pending ↔ b.WaitsFrom start i

/-- What calls may do to the registrations of a builder: nothing changes before `start`, no
registration goes away, and a join that has its predicate stays as it is. -/
structure Grows (start : Nat) (b b' : Builder) : Prop where
  before : ∀ i < start, b'.registration? i = b.registration? i
  length : b.nextId ≤ b'.nextId
  stored : ∀ i (j : Join Expr) p, b.registration? i = some (.join j) → j.predicate = some p →
    b'.registration? i = some (.join j)

namespace Grows

/-- Registrations that stay the same have grown. -/
theorem of_registrations_eq {b b' : Builder} (start : Nat)
    (h : b'.statement.source.registrations = b.statement.source.registrations) :
    Grows start b b' := by
  have same : ∀ i, b'.registration? i = b.registration? i := by
    intro i
    show b'.statement.source.registrations[i]? = b.statement.source.registrations[i]?
    rw [h]
  exact ⟨fun i _ => same i, (congrArg List.length h).ge, fun i j p at_i _ => by rw [same, at_i]⟩

theorem trans {start : Nat} {b₁ b₂ b₃ : Builder} (h₁ : Grows start b₁ b₂) (h₂ : Grows start b₂ b₃) :
    Grows start b₁ b₃ where
  before i hi := (h₂.before i hi).trans (h₁.before i hi)
  length := h₁.length.trans h₂.length
  stored i j p at_i has := h₂.stored i j p (h₁.stored i j p at_i has) has

end Grows

/-- From one builder to another the stack stays exact and the registrations only grow. -/
structure Keeps (start : Nat) (b b' : Builder) : Prop where
  pending : b'.PendingFrom start
  grows : Grows start b b'

/-! ### One registration more -/

theorem lt_nextId_of_registration? {b : Builder} {i : Nat} {r : Registration Expr}
    (h : b.registration? i = some r) : i < b.nextId :=
  (List.getElem?_eq_some_iff.1 h).1

/-- A position that waits holds a registration. -/
theorem WaitsFrom.lt_nextId {b : Builder} {start i : Nat} (h : b.WaitsFrom start i) :
    i < b.nextId := by
  obtain ⟨_, j, at_i, _⟩ := h
  exact lt_nextId_of_registration? at_i

/-- The registrations after one more. -/
theorem registration?_register (b : Builder) (r : Registration Expr) (i : Nat) :
    (b.register r).registration? i = if i = b.nextId then some r else b.registration? i := by
  show (b.statement.source.registrations ++ [r])[i]? = _
  split
  · rename_i here
    rw [here]
    exact List.getElem?_concat_length
  · rename_i elsewhere
    rcases Nat.lt_or_ge i b.nextId with early | late
    · exact List.getElem?_append_left early
    · have beyond : b.nextId + 1 ≤ i := by omega
      have none_before : b.registration? i = none := List.getElem?_eq_none late
      rw [none_before]
      refine List.getElem?_eq_none ?_
      rw [List.length_append, List.length_singleton]
      exact beyond

theorem nextId_register (b : Builder) (r : Registration Expr) :
    (b.register r).nextId = b.nextId + 1 := by
  show (b.statement.source.registrations ++ [r]).length = _
  rw [List.length_append, List.length_singleton]
  rfl

theorem grows_register {b : Builder} {start : Nat} (r : Registration Expr)
    (le : start ≤ b.nextId) : Grows start b (b.register r) where
  before i hi := by
    rw [registration?_register, if_neg (by omega)]
  length := by
    rw [nextId_register]
    omega
  stored i j p at_i _ := by
    have lt := lt_nextId_of_registration? at_i
    rw [registration?_register, if_neg (by omega), at_i]

/-- A table leaves the joins that wait as they are. -/
theorem PendingFrom.introduce {b : Builder} {start : Nat} (h : b.PendingFrom start) (e : Entity)
    (nullable : Bool) : (b.introduce e nullable).PendingFrom start where
  latest_first := h.latest_first
  mem_iff i := by
    show i ∈ b.pending ↔ (b.register (.scope (b.nextScope e nullable))).WaitsFrom start i
    rw [h.mem_iff, WaitsFrom, WaitsFrom, registration?_register]
    by_cases new : i = b.nextId
    · have none_before : b.registration? i = none := List.getElem?_eq_none new.ge
      rw [if_pos new, none_before]
      simp
    · rw [if_neg new]

/-- A new join waits, and it is the latest. -/
theorem PendingFrom.registerJoin {b : Builder} {start : Nat} (h : b.PendingFrom start)
    (le : start ≤ b.nextId) (kind : JoinKind) (left right : Nat) :
    (b.registerJoin kind left right).PendingFrom start where
  latest_first := by
    show (b.nextId :: b.pending).Pairwise (· > ·)
    refine List.pairwise_cons.2 ⟨fun i hi => ?_, h.latest_first⟩
    exact ((h.mem_iff i).1 hi).lt_nextId
  mem_iff i := by
    show i ∈ b.nextId :: b.pending ↔
      (b.register (.join ⟨kind, left, right, none⟩)).WaitsFrom start i
    rw [List.mem_cons, h.mem_iff, WaitsFrom, WaitsFrom, registration?_register]
    by_cases new : i = b.nextId
    · rw [if_pos new]
      simp [new, le]
    · rw [if_neg new]
      simp [new]

/-! ### The predicate of a join -/

/-- The registrations after one join has got its predicate. -/
theorem registration?_attach {b b' : Builder} {p : Expr} (h : b.attach p = .ok b') :
    ∃ i, ∃ j : Join Expr, b.pending.head? = some i ∧ b.registration? i = some (.join j) ∧
      b'.pending = b.pending.tail ∧ b'.nextId = b.nextId ∧
      ∀ k, b'.registration? k =
        if k = i then some (.join { j with predicate := some p }) else b.registration? k := by
  obtain ⟨i, rest, j, stack, at_i, rfl⟩ := attach_eq_ok_iff.1 h
  refine ⟨i, j, by rw [stack]; rfl, at_i, by rw [stack]; rfl, List.length_set, fun k => ?_⟩
  show (b.statement.source.registrations.set i _)[k]? = _
  rw [List.getElem?_set]
  have lt : i < b.statement.source.registrations.length := lt_nextId_of_registration? at_i
  by_cases here : k = i
  · rw [if_pos here, if_pos here.symm, if_pos lt]
  · rw [if_neg here, if_neg (Ne.symm here)]
    rfl

theorem PendingFrom.keeps_attach {b b' : Builder} {start : Nat} {p : Expr}
    (h : b.PendingFrom start) (attached : b.attach p = .ok b') : Keeps start b b' := by
  obtain ⟨i, j, top, at_i, rest, length, registrations⟩ := registration?_attach attached
  obtain ⟨tail, stack⟩ : ∃ tail, b.pending = i :: tail := by
    cases stack : b.pending with
    | nil =>
      rw [stack] at top
      cases top
    | cons i' tail =>
      rw [stack] at top
      cases top
      exact ⟨tail, rfl⟩
  have sorted := h.latest_first
  rw [stack] at sorted
  obtain ⟨below, sorted⟩ := List.pairwise_cons.1 sorted
  obtain ⟨from_start, j', at_i', unbound⟩ := (h.mem_iff i).1 (by rw [stack]; exact List.mem_cons_self)
  refine ⟨⟨?_, fun k => ?_⟩, ⟨fun k hk => ?_, length.ge, fun k j'' q at_k has => ?_⟩⟩
  · rw [rest, stack]
    exact sorted
  · have old := h.mem_iff k
    rw [stack, List.mem_cons] at old
    rw [rest, stack, List.tail_cons, WaitsFrom, registrations]
    by_cases here : k = i
    · rw [if_pos here]
      refine ⟨fun hk => ?_, ?_⟩
      · have := below k hk
        omega
      · rintro ⟨_, j'', e, open_join⟩
        cases e
        cases open_join
    · rw [if_neg here]
      rw [WaitsFrom] at old
      simpa only [here, false_or] using old
  · rw [registrations, if_neg (by omega)]
  · -- a join that has a predicate does not wait, so it is not the one on top
    have elsewhere : k ≠ i := by
      rintro rfl
      rw [at_k] at at_i'
      cases at_i'
      rw [unbound] at has
      cases has
    rw [registrations, if_neg elsewhere, at_k]

/-! ### Isolated fragments -/

/-- A fragment begins with no join registered and none waiting. -/
theorem pendingFrom_sheltered (b : Builder) : b.sheltered.PendingFrom b.nextId where
  latest_first := List.Pairwise.nil
  mem_iff i := by
    show i ∈ [] ↔ _
    constructor
    · intro h
      cases h
    · intro h
      have late := h.1
      have early : i < b.nextId := h.lt_nextId
      omega

/-- After a fragment the joins it left waiting lie on top of those that waited before. -/
theorem PendingFrom.reunited {b inner : Builder} {start : Nat} (h : b.PendingFrom start)
    (le : start ≤ b.nextId) (within : inner.PendingFrom b.nextId)
    (before : ∀ i < b.nextId, inner.registration? i = b.registration? i) :
    (inner.reunited b).PendingFrom start where
  latest_first := by
    show (inner.pending ++ b.pending).Pairwise (· > ·)
    refine List.pairwise_append.2 ⟨within.latest_first, h.latest_first, fun i hi k hk => ?_⟩
    have late := ((within.mem_iff i).1 hi).1
    have early := ((h.mem_iff k).1 hk).lt_nextId
    show k < i
    omega
  mem_iff i := by
    show i ∈ inner.pending ++ b.pending ↔ inner.WaitsFrom start i
    rw [List.mem_append, within.mem_iff, h.mem_iff, WaitsFrom, WaitsFrom, WaitsFrom]
    rcases Nat.lt_or_ge i b.nextId with early | late
    · rw [before i early]
      constructor
      · rintro (⟨late, _⟩ | waits)
        · omega
        · exact waits
      · exact Or.inr
    · have none_before : b.registration? i = none := List.getElem?_eq_none late
      rw [none_before]
      constructor
      · rintro (⟨_, waits⟩ | ⟨_, j, e, _⟩)
        · exact ⟨by omega, waits⟩
        · cases e
      · rintro ⟨_, waits⟩
        exact Or.inl ⟨late, waits⟩

/-! ### Every change -/

namespace Keeps

variable {b b' : Builder} {start : Nat}

theorem introduce (le : start ≤ b.nextId) (h : Keeps start b b') (e : Entity) (nullable : Bool) :
    Keeps start b (b'.introduce e nullable) where
  pending := h.pending.introduce e nullable
  grows :=
    have new := grows_register (.scope (b'.nextScope e nullable)) (le.trans h.grows.length)
    h.grows.trans (new.trans (.of_registrations_eq start rfl))

theorem registerJoin (le : start ≤ b.nextId) (h : Keeps start b b') (kind : JoinKind)
    (left right : Nat) : Keeps start b (b'.registerJoin kind left right) where
  pending := h.pending.registerJoin (le.trans h.grows.length) kind left right
  grows :=
    have new := grows_register (.join ⟨kind, left, right, none⟩) (le.trans h.grows.length)
    h.grows.trans (new.trans (.of_registrations_eq start rfl))

/-- A call that touches neither the stack nor the registrations. -/
theorem unchanged {b'' : Builder} (h : Keeps start b b')
    (registrations : b''.statement.source.registrations = b'.statement.source.registrations)
    (pending : b''.pending = b'.pending) : Keeps start b b'' where
  pending := by
    have same : ∀ i, b''.registration? i = b'.registration? i := by
      intro i
      show b''.statement.source.registrations[i]? = b'.statement.source.registrations[i]?
      rw [registrations]
    refine ⟨?_, fun i => ?_⟩
    · rw [pending]
      exact h.pending.latest_first
    · rw [pending, h.pending.mem_iff, WaitsFrom, WaitsFrom, same]
  grows := h.grows.trans (.of_registrations_eq start registrations)

end Keeps

/-- **Every change keeps the stack exact** and lets the registrations only grow. -/
theorem Change.keeps {b b' : Builder} {ss : List Scope} (h : Change b ss b') :
    ∀ start ≤ b.nextId, b.PendingFrom start → Keeps start b b' := by
  induction h with
  | andThen h₁ h₂ ih₁ ih₂ =>
    intro start le now
    have keeps₁ := ih₁ start le now
    have keeps₂ := ih₂ start (le.trans keeps₁.grows.length) keeps₁.pending
    exact ⟨keeps₂.pending, keeps₁.grows.trans keeps₂.grows⟩
  | introduce shape b =>
    intro start le now
    refine shape.introduce_preserves (P := Keeps start b) ?_ ?_ ?_ b
      ⟨now, .of_registrations_eq start rfl⟩
    · intro b' e nullable keeps
      exact keeps.introduce le e nullable
    · intro b' kind left right keeps
      exact keeps.registerJoin le kind left right
    · intro b' id keeps
      exact keeps.unchanged rfl rfl
  | register operand b =>
    intro start le now
    refine operand.register_preserves (P := Keeps start b) ?_ ?_ b
      ⟨now, .of_registrations_eq start rfl⟩
    · intro b' e nullable keeps
      exact keeps.introduce le e nullable
    · intro b' kind left right keeps
      exact keeps.registerJoin le kind left right
  | attach p attached =>
    intro start le now
    exact now.keeps_attach attached
  | clause source pending aliases =>
    intro start le now
    have start_here : Keeps start _ _ := ⟨now, .of_registrations_eq start rfl⟩
    exact start_here.unchanged (congrArg FromClause.registrations source) pending
  | @isolated b inner ss h ih =>
    intro start le now
    have keeps := ih b.nextId (Nat.le_refl _) b.pendingFrom_sheltered
    refine ⟨now.reunited le keeps.pending keeps.grows.before, ?_⟩
    refine ⟨fun i hi => ?_, keeps.grows.length, keeps.grows.stored⟩
    exact keeps.grows.before i (by omega)
  | subquery h ih =>
    intro start le now
    have start_here : Keeps start _ _ := ⟨now, .of_registrations_eq start rfl⟩
    exact start_here.unchanged rfl rfl

end Builder

/-! ### Every session -/

namespace Session

open Builder

/-- The stack of a builder is exact, and so is that of each builder in which a running fragment
began; the fragment has changed nothing that was registered before it. -/
def SoundWithin : Builder → List Builder → Prop
  | b, [] => b.PendingFrom 0
  | b, outer :: frames =>
    Keeps outer.nextId outer.sheltered b ∧ SoundWithin outer frames

/-- The stacks of a session are exact. -/
def Sound (m : Session) : Prop := SoundWithin m.builder m.frames

theorem Sound.pendingFrom {m : Session} (h : m.Sound) : m.builder.PendingFrom m.frameStart := by
  obtain ⟨b, frames⟩ := m
  cases frames with
  | nil => exact h
  | cons outer frames => exact h.1.pending

/-- The innermost fragment began within what is registered. -/
theorem Sound.frameStart_le {m : Session} (h : m.Sound) : m.frameStart ≤ m.builder.nextId := by
  obtain ⟨b, frames⟩ := m
  cases frames with
  | nil => exact Nat.zero_le _
  | cons outer frames => exact h.1.grows.length

/-- What keeps the stack of the innermost fragment exact keeps a session sound. -/
theorem Sound.of_keeps {b b' : Builder} {frames : List Builder} (h : Sound ⟨b, frames⟩)
    (keeps : Keeps (frameStart ⟨b, frames⟩) b b') : Sound ⟨b', frames⟩ := by
  cases frames with
  | nil => exact keeps.pending
  | cons outer frames =>
    obtain ⟨inside, around⟩ := h
    exact ⟨⟨keeps.pending, inside.grows.trans keeps.grows⟩, around⟩

/-- **A move keeps a session sound**, and every predicate that was stored. -/
theorem Move.sound {m m' : Session} (h : Move m m') (sound : m.Sound) :
    m'.Sound ∧ Grows 0 m.builder m'.builder := by
  cases h with
  | @call b frames s env o ran =>
    have keeps := (s.run_change b env o ran).keeps _ sound.frameStart_le sound.pendingFrom
    have grows := keeps.grows
    refine ⟨sound.of_keeps keeps, ⟨fun i hi => ?_, grows.length, grows.stored⟩⟩
    omega
  | enter b frames =>
    exact ⟨⟨⟨b.pendingFrom_sheltered, .of_registrations_eq _ rfl⟩, sound⟩,
      .of_registrations_eq 0 rfl⟩
  | leave b outer frames =>
    have inside : Keeps outer.nextId outer.sheltered b := sound.1
    have around : Sound ⟨outer, frames⟩ := sound.2
    have le : frameStart ⟨outer, frames⟩ ≤ outer.nextId := around.frameStart_le
    have here := around.pendingFrom
    refine ⟨around.of_keeps ⟨here.reunited le inside.pending inside.grows.before, ?_⟩,
      .of_registrations_eq 0 rfl⟩
    refine ⟨fun i hi => ?_, inside.grows.length, inside.grows.stored⟩
    exact inside.grows.before i (by omega)

theorem sound_opening (kind : StatementKind) (aliases : AliasBook) :
    (opening kind aliases).Sound := by
  refine ⟨List.Pairwise.nil, fun i => ?_⟩
  constructor
  · intro h
    cases h
  · intro h
    exact absurd h.lt_nextId (Nat.not_lt_zero i)

/-- **Every session that moves lead to from a sound one is sound**, and it has kept every predicate
that was stored. -/
theorem Sound.of_reaches {m m' : Session} (sound : m.Sound) (h : m.Reaches m') :
    m'.Sound ∧ Grows 0 m.builder m'.builder := by
  induction h with
  | refl => exact ⟨sound, .of_registrations_eq 0 rfl⟩
  | tail _ move ih =>
    obtain ⟨sound', grows⟩ := ih
    obtain ⟨sound'', grows'⟩ := move.sound sound'
    exact ⟨sound'', grows.trans grows'⟩

end Session

/-! ### What follows for ON -/

namespace Builder

/-- Where the stack is exact, an ON predicate succeeds exactly when some join waits. -/
theorem PendingFrom.attach_succeeds_iff {b : Builder} {start : Nat} (h : b.PendingFrom start)
    (p : Expr) : (∃ b', b.attach p = .ok b') ↔ ∃ i, b.WaitsFrom start i := by
  constructor
  · rintro ⟨b', attached⟩
    obtain ⟨i, rest, j, stack, _⟩ := attach_eq_ok_iff.1 attached
    exact ⟨i, (h.mem_iff i).1 (by rw [stack]; exact List.mem_cons_self)⟩
  · rintro ⟨i, waits⟩
    have listed := (h.mem_iff i).2 waits
    cases stack : b.pending with
    | nil =>
      rw [stack] at listed
      cases listed
    | cons top rest =>
      obtain ⟨_, j, at_top, _⟩ := (h.mem_iff top).1 (by rw [stack]; exact List.mem_cons_self)
      exact ⟨_, attach_eq_ok_iff.2 ⟨top, rest, j, stack, at_top, rfl⟩⟩

/-- Where the stack is exact, the position on top of it is the greatest that waits. -/
theorem PendingFrom.isGreatest_top {b : Builder} {start top : Nat} {rest : List Nat}
    (h : b.PendingFrom start) (stack : b.pending = top :: rest) :
    IsGreatest {i | b.WaitsFrom start i} top := by
  refine ⟨(h.mem_iff top).1 (by rw [stack]; exact List.mem_cons_self), fun i waits => ?_⟩
  have listed := (h.mem_iff i).2 waits
  have sorted := h.latest_first
  rw [stack] at sorted listed
  rcases List.mem_cons.1 listed with here | below
  · exact here.le
  · exact ((List.pairwise_cons.1 sorted).1 i below).le

/-- Where the stack is exact, an ON predicate fails only for want of a join. -/
theorem PendingFrom.attach_error {b : Builder} {start : Nat} (h : b.PendingFrom start) {p : Expr}
    {e : AttachError} (failed : b.attach p = .error e) : e = .noPendingJoin p := by
  cases stack : b.pending with
  | nil =>
    rw [attach, stack] at failed
    cases failed
    rfl
  | cons top rest =>
    obtain ⟨_, j, at_top, _⟩ := (h.mem_iff top).1 (by rw [stack]; exact List.mem_cons_self)
    rw [attach_eq_ok_iff.2 ⟨top, rest, j, stack, at_top, rfl⟩] at failed
    cases failed

end Builder

/-- What a session knows about its joins. -/
structure Session.PendingExact (m : Session) : Prop where
  /-- The stack, read from the bottom, lists positions in increasing order. -/
  increasing : m.builder.pending.reverse.Pairwise (· < ·)
  /-- The stack lists exactly the joins without a predicate among the registrations made since the
  innermost running fragment began. -/
  mem_iff : ∀ i, i ∈ m.builder.pending ↔ m.builder.WaitsFrom m.frameStart i
  /-- An ON predicate succeeds exactly when there is such a join. -/
  attach_succeeds_iff : ∀ p, (∃ b, m.builder.attach p = .ok b) ↔
    ∃ i, m.builder.WaitsFrom m.frameStart i
  /-- It goes to the latest of them and leaves the stack, and nothing else changes. -/
  attach_takes_latest : ∀ p b, m.builder.attach p = .ok b →
    ∃ i, ∃ j : Join Expr, IsGreatest {i | m.builder.WaitsFrom m.frameStart i} i ∧
      m.builder.registration? i = some (.join j) ∧
      b = { m.builder with
        statement := { m.builder.statement with
          source := { m.builder.statement.source with
            registrations := m.builder.statement.source.registrations.set i
              (.join { j with predicate := some p }) } }
        pending := m.builder.pending.tail }
  /-- No position on the stack turns out to hold no join. -/
  attach_finds_join : ∀ p i q, m.builder.attach p ≠ .error (.notAJoin i q)
  /-- A predicate stays where it was stored, wherever further moves lead. -/
  stored : ∀ m', m.Reaches m' → ∀ i (j : Join Expr) p,
    m.builder.registration? i = some (.join j) → j.predicate = some p →
      m'.builder.registration? i = some (.join j)
  /-- A body may run here, and where it ends is a session of this kind again. -/
  runs : ∀ body env o, runAll body m.builder env = .ok o → m.Reaches ⟨o.builder, m.frames⟩

/-- **The stack of waiting joins is exact at every moment** of every session that calls and isolated
fragments lead to from an empty builder, be it that of a statement or of a sub-query. -/
theorem Session.pendingExact_of_reaches {kind : StatementKind} {aliases : AliasBook} {m : Session}
    (reached : (Session.opening kind aliases).Reaches m) : m.PendingExact := by
  obtain ⟨sound, _⟩ := (sound_opening kind aliases).of_reaches reached
  have now := sound.pendingFrom
  constructor
  case increasing =>
    rw [List.pairwise_reverse]
    exact now.latest_first
  case mem_iff => exact now.mem_iff
  case attach_succeeds_iff => exact now.attach_succeeds_iff
  case attach_takes_latest =>
    intro p b attached
    obtain ⟨i, rest, j, stack, at_i, rfl⟩ := Builder.attach_eq_ok_iff.1 attached
    refine ⟨i, j, now.isGreatest_top stack, at_i, ?_⟩
    rw [stack]
    rfl
  case attach_finds_join =>
    intro p i q failed
    cases now.attach_error failed
  case stored =>
    intro m' later
    exact (sound.of_reaches later).2.stored
  case runs =>
    intro body env o ran
    exact reaches_runAll m.frames body m.builder env o ran

/-- A table joined with itself. -/
def selfJoin (kind : JoinKind) : Shape String :=
  .single (.join kind (.table ⟨"node", []⟩ "left") (.table ⟨"node", []⟩ "right"))

/-- A join waits, and inside an isolated fragment that still runs another one does. -/
def Session.joinInFragment : Session :=
  let outer := ((selfJoin .inner).introduce (.start .select)).1
  ⟨((selfJoin .cross).introduce outer.sheltered).1, [outer]⟩

/-- Inside the fragment only its own join waits. -/
theorem Session.pendingExact_joinInFragment :
    (opening .select .empty).Reaches joinInFragment ∧ joinInFragment.builder.pending = [5] ∧
      joinInFragment.frameStart = 3 ∧ joinInFragment.PendingExact := by
  have outer : Move (opening .select .empty) ⟨_, []⟩ :=
    .call (.introduce (selfJoin .inner)) [] rfl
  have inner : Move ⟨_, _⟩ joinInFragment :=
    .call (.introduce (selfJoin .cross)) [] rfl
  have reached : (opening .select .empty).Reaches joinInFragment :=
    .tail (.tail (.single outer) (.enter _ [])) inner
  exact ⟨reached, rfl, rfl, pendingExact_of_reaches reached⟩

end SqlBuilder
