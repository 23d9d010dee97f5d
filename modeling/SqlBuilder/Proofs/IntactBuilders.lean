import SqlBuilder.Proofs.AliasSupply
import SqlBuilder.Proofs.PendingJoins

/-!
# What failures and sub-queries leave alone

An ON predicate takes a position off the stack before it looks for the join there, and a sub-query
takes the aliases along and hands them back when its body is over.  Either could lose something when
it fails.  It does not: no position without a join ever waits, and the aliases come back with all that
the body added to them, wherever it ended.

* `Builder.attachInPlace` : an ON predicate, with the builder that a failure leaves behind;
* `AliasBook.Remembers` : neither the number nor the alias of a table is handed out again;
* `Session.reaches_issues` : moves only add to the aliases;
* `Session.Embedded` : all that a sub-query does to the builder around it;
* **`Session.intact_of_reaches`** : failed ON predicates leave a builder as it was, and sub-queries
  leave all of it but the aliases.
-/

namespace SqlBuilder

open AliasBook (Accumulates Issues)
open Builder (Change)

/-! ### ON predicates -/

namespace Builder

/-- The builder after an ON predicate was offered, and the error if there was one.  The position on
top is taken off the stack first, and only then the join is looked for. -/
def attachInPlace (b : Builder) (p : Expr) : Builder × Option AttachError :=
  match b.pending with
  | [] => (b, some (.noPendingJoin p))
  | id :: pending =>
    let popped := { b with pending := pending }
    match popped.statement.source.setPredicate? id p with
    | some source => (popped.update fun q => { q with source := source }, none)
    | none => (popped, some (.notAJoin id p))

theorem attachInPlace_of_ok {b b' : Builder} {p : Expr} (h : b.attach p = .ok b') :
    b.attachInPlace p = (b', none) := by
  unfold attach at h
  unfold attachInPlace
  cases stack : b.pending with
  | nil =>
    rw [stack] at h
    cases h
  | cons id pending =>
    rw [stack] at h
    cases found : b.statement.source.setPredicate? id p with
    | none =>
      simp only [found] at h
      cases h
    | some source =>
      simp only [found] at h ⊢
      cases h
      rfl

/-- Where the stack is exact, nothing is taken off it by a predicate that fails. -/
theorem PendingFrom.attachInPlace_of_error {b : Builder} {start : Nat} (h : b.PendingFrom start)
    {p : Expr} {e : AttachError} (failed : b.attach p = .error e) :
    b.attachInPlace p = (b, some e) := by
  cases h.attach_error failed
  unfold attach at failed
  unfold attachInPlace
  cases stack : b.pending with
  | nil => rfl
  | cons id pending =>
    rw [stack] at failed
    cases found : b.statement.source.setPredicate? id p with
    | none =>
      simp only [found] at failed
      cases failed
    | some source =>
      simp only [found] at failed
      cases failed

end Builder

/-! ### Aliases that are remembered -/

namespace AliasBook

/-- Neither the number nor the alias of a table is handed out again. -/
structure Remembers (a : AliasBook) (t : Scope) : Prop where
  id : t.id < a.nextScope
  alias_name : t.aliasName ∈ a.issued

/-- From one book to another the given tables got aliases that the first did not have, and no alias
was taken back. -/
structure Renews (before : AliasBook) (tables : List Scope) (after : AliasBook) : Prop where
  kept : before.issued ⊆ after.issued
  fresh : ∀ t ∈ tables, t.aliasName ∉ before.issued

theorem Renews.accumulates : Accumulates Renews where
  none a := ⟨List.Subset.refl _, fun t mem => by cases mem⟩
  trans h₁ h₂ := by
    refine ⟨List.Subset.trans h₁.kept h₂.kept, fun t mem => ?_⟩
    rcases List.mem_append.1 mem with first | second
    · exact h₁.fresh t first
    · exact fun old => h₂.fresh t second (h₁.kept old)
  introduce b e nullable := by
    refine ⟨List.subset_cons_self _ _, fun t mem => ?_⟩
    rw [List.mem_singleton.1 mem]
    exact candidate_firstFree_not_mem _ _ _

namespace Issues

variable {before after : AliasBook} {tables : List Scope}

/-- The tables that were handed a number and an alias are remembered. -/
theorem remembers (h : Issues before tables after) : ∀ t ∈ tables, after.Remembers t := by
  intro t mem
  have numbered : t.id ∈ tables.map Scope.id := List.mem_map_of_mem mem
  have named : t.aliasName ∈ (tables.map Scope.aliasName).reverse :=
    List.mem_reverse.2 (List.mem_map_of_mem mem)
  rw [h.ids, List.mem_range'_1] at numbered
  constructor
  · rw [h.nextScope]
    exact numbered.2
  · rw [h.issued]
    exact List.mem_append_left _ named

/-- What is remembered stays so. -/
theorem keeps (h : Issues before tables after) {t : Scope} (old : before.Remembers t) :
    after.Remembers t where
  id := by
    rw [h.nextScope]
    exact Nat.lt_add_right _ old.id
  alias_name := by
    rw [h.issued]
    exact List.mem_append_right _ old.alias_name

end Issues

/-- A table that is remembered shares neither its number nor its alias with a later one. -/
theorem Remembers.apart {before after : AliasBook} {tables : List Scope} {t : Scope}
    (old : before.Remembers t) (issues : Issues before tables after)
    (renews : Renews before tables after) :
    ∀ t' ∈ tables, t'.id ≠ t.id ∧ t'.aliasName ≠ t.aliasName := by
  intro t' mem
  have numbered : t'.id ∈ tables.map Scope.id := List.mem_map_of_mem mem
  rw [issues.ids, List.mem_range'_1] at numbered
  have lt := old.id
  constructor
  · omega
  · intro same
    exact renews.fresh t' mem (same ▸ old.alias_name)

end AliasBook

/-! ### Sessions -/

namespace Session

/-- A move hands out numbers and aliases, and takes none back. -/
theorem Move.issues {m m' : Session} (h : Move m m') :
    ∃ tables, Issues m.builder.aliases tables m'.builder.aliases := by
  cases h with
  | @call b frames s env o ran => exact ⟨_, (s.run_change b env o ran).issues⟩
  | enter b frames => exact ⟨[], .none _⟩
  | leave b outer frames => exact ⟨[], .none _⟩

theorem reaches_issues {m m' : Session} (h : m.Reaches m') :
    ∃ tables, Issues m.builder.aliases tables m'.builder.aliases := by
  induction h with
  | refl => exact ⟨[], .none _⟩
  | tail _ move ih =>
    obtain ⟨ss, before⟩ := ih
    obtain ⟨ts, now⟩ := move.issues
    exact ⟨ss ++ ts, before.trans now⟩

/-- **All that a sub-query does to the builder around it**, be it that its body succeeded or that it
failed at some call. -/
structure Embedded (m : Session) (o : Outcome) : Prop where
  statement : o.builder.statement = m.builder.statement
  pending : o.builder.pending = m.builder.pending
  /-- The aliases are those of before and those of the tables that the body brought in, of its own
  sub-queries too, whichever of them failed. -/
  issues : Issues m.builder.aliases (scopesOfAll o.entries) o.builder.aliases
  remembers : ∀ t ∈ scopesOfAll o.entries, o.builder.aliases.Remembers t
  /-- No table that any later call brings in shares a number or an alias with one of them. -/
  apart : ∀ m' : Session, Reaches ⟨o.builder, m.frames⟩ m' →
    ∀ (s : Step) (env : Env) (o' : Outcome), s.run m'.builder env = .ok o' →
      ∀ t ∈ scopesOfAll o.entries, ∀ t' ∈ scopesOfAll o'.entries,
        t'.id ≠ t.id ∧ t'.aliasName ≠ t.aliasName

/-- A sub-query gives back the aliases, however its body ended, and touches nothing else. -/
theorem resumed_of_subquery {b : Builder} {x : String} {form : SubqueryForm} {body : List Step}
    {result : Projection Term} {env : Env} {o : Outcome}
    (ran : (Step.subquery x form body result).run b env = .ok o) :
    ∃ inner, runAll body b.nested env = .ok inner ∧ o.builder = b.resumed inner.builder := by
  rw [Step.run] at ran
  obtain ⟨inner, ran_body, rest⟩ := Except.bind_eq_ok_iff.1 ran
  refine ⟨inner, ran_body, ?_⟩
  cases failed : inner.failure with
  | some e =>
    simp only [failed] at rest
    cases rest
    rfl
  | none =>
    simp only [failed] at rest
    obtain ⟨columns, _, rest⟩ := Except.bind_eq_ok_iff.1 rest
    cases rest
    rfl

theorem embedded_of_run (m : Session) {x : String} {form : SubqueryForm} {body : List Step}
    {result : Projection Term} {env : Env} {o : Outcome}
    (ran : (Step.subquery x form body result).run m.builder env = .ok o) : m.Embedded o := by
  obtain ⟨inner, _, resumed⟩ := resumed_of_subquery ran
  have issues := (Step.run_change _ _ _ _ ran).issues
  constructor
  case statement => rw [resumed]; rfl
  case pending => rw [resumed]; rfl
  case issues => exact issues
  case remembers => exact issues.remembers
  case apart =>
    intro m' later s env' o' ran' t mem
    obtain ⟨between, handed⟩ := reaches_issues later
    have change := s.run_change _ _ _ ran'
    exact (handed.keeps (issues.remembers t mem)).apart change.issues
      (change.accumulates AliasBook.Renews.accumulates)

/-- **What failures and sub-queries leave alone.** -/
structure Intact (m : Session) : Prop where
  /-- An ON predicate that fails takes nothing off the stack. -/
  attachInPlace : ∀ p, m.builder.attachInPlace p =
    match m.builder.attach p with
    | .ok b => (b, none)
    | .error e => (m.builder, some e)
  /-- A call for an ON predicate that fails leaves the builder as it was. -/
  attach : ∀ t env o e, (Step.attach t).run m.builder env = .ok o → o.failure = some e →
    o.builder = m.builder
  /-- A sub-query leaves all but the aliases, and these remember its tables. -/
  subquery : ∀ x form body result env o,
    (Step.subquery x form body result).run m.builder env = .ok o → m.Embedded o

/-- **Failures leave a builder intact** at every moment of every session, be it that of a statement or
of a sub-query. -/
theorem intact_of_reaches {kind : StatementKind} {aliases : AliasBook} {m : Session}
    (reached : (opening kind aliases).Reaches m) : m.Intact := by
  obtain ⟨sound, _⟩ := (sound_opening kind aliases).of_reaches reached
  constructor
  case attachInPlace =>
    intro p
    cases attached : m.builder.attach p with
    | ok b => exact Builder.attachInPlace_of_ok attached
    | error e => exact sound.pendingFrom.attachInPlace_of_error attached
  case attach =>
    intro t env o e ran failed
    rw [Step.run] at ran
    obtain ⟨⟨p, env'⟩, _, rest⟩ := Except.bind_eq_ok_iff.1 ran
    cases attached : m.builder.attach p with
    | ok b =>
      simp only [attached] at rest
      cases rest
      cases failed
    | error e' =>
      simp only [attached] at rest
      cases rest
      rfl
  case subquery =>
    intro x form body result env o ran
    exact m.embedded_of_run ran

/-- A join waits for its predicate. -/
def joinWaiting : Session := ⟨((selfJoin .inner).introduce (.start .select)).1, []⟩

/-- A sub-query that fails after a sub-query of its own has failed. -/
def failingTwice : Step :=
  let table (name : String) : Step := .introduce (.single (.table ⟨name, []⟩ name))
  let attach : Step := .attach (.literal .bool (.truth true))
  .subquery "x" (.existence false)
    [table "node", .attempt (.subquery "y" (.existence true) [table "node2", attach] .unit) [] [],
      attach] .unit

/-- The join still waits after both failures, and both tables are remembered. -/
theorem intact_joinWaiting :
    (opening .select .empty).Reaches joinWaiting ∧ joinWaiting.Intact ∧
      ∃ o, failingTwice.run joinWaiting.builder [] = .ok o ∧ o.failure.isSome = true ∧
        o.builder.pending = [2] ∧ (scopesOfAll o.entries).map Scope.aliasName = ["node3", "node22"] ∧
        o.builder.aliases.issued = ["node22", "node3", "node2", "node"] := by
  have reached : (opening .select .empty).Reaches joinWaiting :=
    .single (.call (.introduce (selfJoin .inner)) [] rfl)
  exact ⟨reached, intact_of_reaches reached, _, rfl, rfl, rfl, rfl, rfl⟩

end Session

end SqlBuilder
