import SqlBuilder.Proofs.AlignedRuns
import SqlBuilder.Proofs.TakenPredicates

/-!
# Fragments and their surroundings

An isolated fragment sees no join but its own.  So what it does in one builder it does in any other,
only at other positions, and two fragments that share no variables may change places.

* `Footprint` : what a fragment leaves behind, `Footprint.Alike` : the same from another start;
* `IsolatedAlike` : one isolated fragment in two builders;
* `PairRun` : a pair of fragments, compared with each of them alone;
* `EitherOrder` : a pair of fragments in one order and in the other;
* **`Step.fragment_independent`** : the effect of a fragment depends neither on the builder in which it
  runs nor on a fragment before it.
-/

namespace SqlBuilder

/-! ### Footprints -/

/-- What a fragment leaves behind: the registrations of a builder from `start` up to `stop`, a
transcript, and the joins that it left waiting. -/
structure Footprint where
  builder : Builder
  start : Nat
  stop : Nat
  entries : List Entry
  waiting : List Nat

namespace Footprint

/-- The transcript tells which ON call gave a join its predicate: it names only joins of the fragment,
none of them twice, and exactly those that have a predicate. -/
structure Told (f : Footprint) : Prop where
  nodup : (takenAll f.entries).Nodup
  own : ∀ i ∈ takenAll f.entries, f.start ≤ i ∧ i < f.stop
  hasPredicate_iff : ∀ i, f.start ≤ i → i < f.stop →
    (f.builder.HasPredicate i ↔ i ∈ takenAll f.entries)

/-- A fragment leaves the same from two starting positions: as many registrations, each the same; the
same calls, of which each ON call gave its predicate to the join at the same offset; and the same joins
waiting. -/
structure Alike (f f' : Footprint) : Prop where
  stop : SameOffset f.start f'.start f.stop f'.stop
  registrations : ∀ d, f.start + d < f.stop → Option.Rel (Registration.Aligned f.start f'.start)
    (f.builder.registration? (f.start + d)) (f'.builder.registration? (f'.start + d))
  entries : EntriesAligned f.start f'.start f.entries f'.entries
  told : f.Told
  told' : f'.Told
  waiting : List.Forall₂ (SameOffset f.start f'.start) f.waiting f'.waiting

/-- What an isolated fragment left behind that ran on a builder up to an outcome. -/
def ofRun (b : Builder) (o : Outcome) : Footprint :=
  ⟨o.builder.reunited b, b.nextId, o.builder.nextId, o.entries, o.builder.pending⟩

variable {b b' : Builder} {o o' : Outcome} {f f' : Footprint}

/-- No join has a predicate before the fragment begins, so all that have one got it from the fragment. -/
theorem told_ofRun {ss : List Step} {env : Env} (ran : runAll ss b.sheltered env = .ok o) :
    (ofRun b o).Told := by
  have takes := runAll_takes ran (Nat.le_refl b.nextId) b.pendingFrom_sheltered
  refine ⟨takes.nodup, fun i mem => ⟨(takes.new i mem).1, ?_⟩, fun i late _ => ?_⟩
  · obtain ⟨j, at_i, _⟩ := (takes.hasPredicate_iff i).2 (.inr mem)
    exact Builder.lt_nextId_of_registration? at_i
  · refine (takes.hasPredicate_iff i).trans (or_iff_right ?_)
    rintro ⟨j, at_i, _⟩
    exact absurd (Builder.lt_nextId_of_registration? at_i) (Nat.not_lt.2 late)

/-- Aligned runs leave the same. -/
theorem alike_ofRun {ss : List Step} {env env' : Env} {xs bound : List String}
    (h : Outcome.Aligned b.nextId b'.nextId xs bound o o')
    (ran : runAll ss b.sheltered env = .ok o) (ran' : runAll ss b'.sheltered env' = .ok o') :
    (ofRun b o).Alike (ofRun b' o') where
  stop := h.builder.length
  registrations d _ := h.builder.registrations d
  entries := h.entries
  told := told_ofRun ran
  told' := told_ofRun ran'
  waiting := h.builder.pending

/-- What was left stays, as long as its registrations stay. -/
theorem Alike.of_kept (h : f.Alike f')
    (kept : ∀ i < f.stop, b.registration? i = f.builder.registration? i) :
    Alike { f with builder := b } f' where
  stop := h.stop
  registrations d early := by
    show Option.Rel _ (b.registration? (f.start + d)) _
    rw [kept _ early]
    exact h.registrations d early
  entries := h.entries
  told.nodup := h.told.nodup
  told.own := h.told.own
  told.hasPredicate_iff i late early :=
    (Builder.hasPredicate_congr (kept i early)).trans (h.told.hasPredicate_iff i late early)
  told' := h.told'
  waiting := h.waiting

end Footprint

/-! ### One fragment in two builders -/

/-- An isolated fragment in two builders: it fails in both or in neither, and what it leaves in the
one, on top of the joins that waited before, is what it leaves in the other. -/
structure IsolatedAlike (b b' : Builder) (o o' : Outcome) : Prop where
  succeeds : o.failure = none ↔ o'.failure = none
  leaves : ∃ es es' left left' count count',
    o.entries = [.entry (.isolated es) count o.failure] ∧
    o'.entries = [.entry (.isolated es') count' o'.failure] ∧
    o.builder.pending = left ++ b.pending ∧ o'.builder.pending = left' ++ b'.pending ∧
    Footprint.Alike ⟨o.builder, b.nextId, o.builder.nextId, es, left⟩
      ⟨o'.builder, b'.nextId, o'.builder.nextId, es', left'⟩

/-- An isolated fragment does the same in all builders. -/
theorem Step.isolated_alike (fragment : List Step) (b b' : Builder) {env env' : Env}
    (agree : Agree (needsAll fragment) env env') :
    Except.Related (IsolatedAlike b b') ((Step.isolated fragment).run b env)
      ((Step.isolated fragment).run b' env') := by
  rw [Step.run, Step.run]
  apply (runAll_aligned fragment (.start b b') (fun _ mem => mem) agree).traced.bind
  rintro o o' ⟨within, ran, ran'⟩
  exact .ok ⟨within.succeeds_iff, o.entries, o'.entries, o.builder.pending, o'.builder.pending, _, _,
    rfl, rfl, rfl, rfl, Footprint.alike_ofRun within ran ran'⟩

/-! ### Two fragments -/

/-- A pair of fragments, compared with each of them alone: the first leaves exactly what it leaves
alone, and so does the second from its own start on, unless the first fails. -/
structure PairRun (b : Builder) (first second o : Outcome) : Prop where
  succeeds : o.failure = none ↔ first.failure = none ∧ second.failure = none
  kept : ∀ i < first.builder.nextId, o.builder.registration? i = first.builder.registration? i
  leaves : ∃ es left count, o.entries = [.entry (.both first.entries es) count o.failure] ∧
    o.builder.pending = left ++ first.builder.pending ++ b.pending ∧
    (first.failure = none → (Footprint.ofRun b second).Alike
      ⟨o.builder, first.builder.nextId, o.builder.nextId, es, left⟩)

/-- A fragment changes nothing that was registered before it. -/
theorem registration?_of_sheltered {ss : List Step} {b : Builder} {env : Env} {o : Outcome}
    (ran : runAll ss b.sheltered env = .ok o) :
    ∀ i < b.nextId, o.builder.registration? i = b.registration? i :=
  ((runAll_change ss _ _ _ ran).keeps b.nextId (Nat.le_refl _) b.pendingFrom_sheltered).grows.before

section Pairs

variable {fragment fragment' : List Step} {b : Builder} {env : Env} {first second : Outcome}

/-- The first fragment of a pair fails. -/
theorem Step.run_both_of_failure {e : AttachError}
    (ran : runAll fragment b.sheltered env = .ok first) (failed : first.failure = some e) :
    (Step.both fragment fragment').run b env =
      .ok (.single (first.builder.reunited b) first.env (.both first.entries []) (some e)) := by
  rw [Step.run]
  refine Except.bind_eq_ok_iff.2 ⟨first, ran, ?_⟩
  simp only [failed]
  rfl

/-- The first fragment of a pair succeeds, and the second runs. -/
theorem Step.run_both_of_success (ran : runAll fragment b.sheltered env = .ok first)
    (succeeded : first.failure = none)
    (ran' : runAll fragment' (first.builder.reunited b).sheltered first.env = .ok second) :
    (Step.both fragment fragment').run b env =
      .ok (.single (second.builder.reunited (first.builder.reunited b)) second.env
        (.both first.entries second.entries) second.failure) := by
  rw [Step.run]
  refine Except.bind_eq_ok_iff.2 ⟨first, ran, ?_⟩
  simp only [succeeded]
  exact Except.bind_eq_ok_iff.2 ⟨second, ran', rfl⟩

/-- **A pair of fragments does what each of them does alone.** -/
theorem Step.run_both (ran : runAll fragment b.sheltered env = .ok first)
    (ran' : runAll fragment' b.sheltered env = .ok second)
    (agree : Agree (needsAll fragment') env first.env) :
    ∃ o, (Step.both fragment fragment').run b env = .ok o ∧ PairRun b first second o := by
  cases ended : first.failure with
  | some e =>
    refine ⟨_, run_both_of_failure ran ended, ?_, fun i _ => rfl, [], [], _, rfl, rfl, ?_⟩
    · show some e = none ↔ _
      simp [ended]
    · rw [ended]
      exact nofun
  | none =>
    -- the second fragment runs where the first has ended, as it would run alone
    have again := runAll_aligned fragment' (.start b (first.builder.reunited b))
      (fun _ mem => mem) agree
    rw [ran'] at again
    cases ran_after : runAll fragment' (first.builder.reunited b).sheltered first.env with
    | error e =>
      rw [ran_after] at again
      cases again
    | ok o' =>
      have kept := registration?_of_sheltered ran_after
      rw [ran_after] at again
      cases again with
      | ok aligned =>
        refine ⟨_, run_both_of_success ran ended ran_after, ?_, kept, o'.entries, o'.builder.pending,
          _, rfl, ?_, fun _ => Footprint.alike_ofRun aligned ran' ran_after⟩
        · show o'.failure = none ↔ _
          rw [aligned.succeeds_iff, and_iff_right ended]
        · exact (List.append_assoc _ _ _).symm

end Pairs

/-- Two fragments that by themselves end in `alone` and `alone'`, as a pair in this order, with the
outcome `o`, and in the other, with the outcome `o'`.  The pair succeeds in both orders or in neither,
and a fragment leaves the same in both, unless the other one fails and keeps it from running. -/
structure EitherOrder (b : Builder) (alone alone' o o' : Outcome) : Prop where
  succeeds : o.failure = none ↔ o'.failure = none
  leaves : ∃ fs gs fs' gs' left right left' right' count count',
    o.entries = [.entry (.both fs gs) count o.failure] ∧
    o'.entries = [.entry (.both gs' fs') count' o'.failure] ∧
    o.builder.pending = right ++ left ++ b.pending ∧
    o'.builder.pending = left' ++ right' ++ b.pending ∧
    (alone'.failure = none →
      Footprint.Alike ⟨o.builder, b.nextId, alone.builder.nextId, fs, left⟩
        ⟨o'.builder, alone'.builder.nextId, o'.builder.nextId, fs', left'⟩) ∧
    (alone.failure = none →
      Footprint.Alike ⟨o'.builder, b.nextId, alone'.builder.nextId, gs', right'⟩
        ⟨o.builder, alone.builder.nextId, o.builder.nextId, gs, right⟩)

/-- **The effect of a fragment does not depend on its surroundings.**  Isolated, it does the same in any
two builders in which the variables it needs have the same types; and a pair of fragments that leave
each other's variables alone does the same in either order. -/
theorem Step.fragment_independent (fragment : List Step) :
    (∀ (b b' : Builder) (env env' : Env), Agree (needsAll fragment) env env' →
      Except.Related (IsolatedAlike b b') ((Step.isolated fragment).run b env)
        ((Step.isolated fragment).run b' env')) ∧
    ∀ (other : List Step) (b : Builder) (env : Env) (alone alone' : Outcome),
      runAll fragment b.sheltered env = .ok alone → runAll other b.sheltered env = .ok alone' →
      (∀ x ∈ needsAll other, alone.env.lookup x = env.lookup x) →
      (∀ x ∈ needsAll fragment, alone'.env.lookup x = env.lookup x) →
      ∃ o o', (Step.both fragment other).run b env = .ok o ∧
        (Step.both other fragment).run b env = .ok o' ∧ EitherOrder b alone alone' o o' := by
  refine ⟨fun b b' env env' agree => isolated_alike fragment b b' agree, ?_⟩
  intro other b env alone alone' ran ran' apart apart'
  have agree : Agree (needsAll other) env alone.env := fun x mem => by rw [apart x mem]
  have agree' : Agree (needsAll fragment) env alone'.env := fun x mem => by rw [apart' x mem]
  obtain ⟨o, forward, pair⟩ := run_both ran ran' agree
  obtain ⟨o', backward, pair'⟩ := run_both ran' ran agree'
  obtain ⟨gs, right, count, entries, pending, second⟩ := pair.leaves
  obtain ⟨fs, left, count', entries', pending', second'⟩ := pair'.leaves
  refine ⟨o, o', forward, backward, ?_, alone.entries, gs, fs, alone'.entries, _, right, left, _,
    count, count', entries, entries', pending, pending', fun ok => ?_, fun ok => ?_⟩
  · rw [pair.succeeds, pair'.succeeds, and_comm]
  · exact (second' ok).of_kept pair.kept
  · exact (second ok).of_kept pair'.kept

/-- Two tables joined, with an ON predicate for the keys of their rows or without one. -/
def keyJoin (kind : JoinKind) (x y : String) (on : Bool) : List Step :=
  let row (table x : String) : Operand String := .table ⟨table, [⟨"id", .int, false⟩]⟩ x
  let key (x : String) : Term := .project (.var x) "id" none
  .introduce (.single (.join kind (row "person" x) (row "post" y))) ::
    if on then [.attach (.compare .equal (key x) (key y))] else []

/-- A builder in which a join waits. -/
def Builder.withWaitingJoin : Builder := ((selfJoin .inner).introduce (.start .select)).1

/-- A join with its predicate does the same in an empty builder and beside a join that waits, and there
before a join without a predicate and after it. -/
theorem Step.fragment_independent_siblings :
    (Agree (needsAll (keyJoin .inner "p" "q" true)) [] [] ∧
      Except.Related (IsolatedAlike (.start .select) .withWaitingJoin)
        ((Step.isolated (keyJoin .inner "p" "q" true)).run (.start .select) [])
        ((Step.isolated (keyJoin .inner "p" "q" true)).run .withWaitingJoin [])) ∧
    ∃ alone alone',
      runAll (keyJoin .inner "p" "q" true) Builder.withWaitingJoin.sheltered [] = .ok alone ∧
      runAll (keyJoin .leftOuter "r" "s" false) Builder.withWaitingJoin.sheltered [] = .ok alone' ∧
      alone.failure = none ∧ alone'.failure = none ∧
      ∃ o o', (Step.both (keyJoin .inner "p" "q" true) (keyJoin .leftOuter "r" "s" false)).run
          .withWaitingJoin [] = .ok o ∧
        (Step.both (keyJoin .leftOuter "r" "s" false) (keyJoin .inner "p" "q" true)).run
          .withWaitingJoin [] = .ok o' ∧ EitherOrder .withWaitingJoin alone alone' o o' := by
  obtain ⟨everywhere, either_order⟩ := fragment_independent (keyJoin .inner "p" "q" true)
  have closed : needsAll (keyJoin .inner "p" "q" true) = [] := by decide
  have closed' : needsAll (keyJoin .leftOuter "r" "s" false) = [] := by decide
  have agree : Agree (needsAll (keyJoin .inner "p" "q" true)) [] [] := fun _ _ => rfl
  refine ⟨⟨agree, everywhere _ _ _ _ agree⟩, ?_⟩
  refine ⟨_, _, rfl, rfl, rfl, rfl, either_order _ _ _ _ _ rfl rfl ?_ ?_⟩
  · intro x mem
    rw [closed'] at mem
    cases mem
  · intro x mem
    rw [closed] at mem
    cases mem

end SqlBuilder
