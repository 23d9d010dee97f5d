import SqlBuilder.Proofs.AlignedBuilders
import SqlBuilder.Proofs.NeededVariables

/-!
# One body, two places

A body that is run on two builders that hold the same from two positions on makes the same calls with
the same success, provided that the variables it needs have the same types in both places.

* `Entry.Aligned m n`, `Event.Aligned m n`, `EntriesAligned m n` : transcripts tell of the same calls;
  what was registered and which join took an ON predicate agree up to the starting positions `m` and
  `n`, and inside a sub-query from its own beginning on;
* `Outcome.Aligned m n xs bound` : two runs end alike, with the same types for the variables `xs` and,
  after a success, for those that were bound;
* **`Step.run_aligned`**, **`runAll_aligned`** : runs on aligned builders are aligned.
-/

namespace SqlBuilder

/-! ### Transcripts -/

mutual

/-- Entries of one call: it did the same on both sides, as many joins wait after it, and it failed on
both or on neither. -/
inductive Entry.Aligned : Nat → Nat → Entry → Entry → Prop where
  | entry {m n pending : Nat} {event event' : Event Entry} {failure failure' : Option AttachError} :
      Event.Aligned m n event event' → failure.isSome = failure'.isSome →
      Entry.Aligned m n (.entry event pending failure) (.entry event' pending failure')

/-- What one call did on two sides. -/
inductive Event.Aligned : Nat → Nat → Event Entry → Event Entry → Prop where
  | introduced {m n : Nat} {scopes scopes' : List Scope} (kinds : List JoinKind)
      (roots roots' : List Nat) : List.Forall₂ Scope.Alike scopes scopes' →
      Event.Aligned m n (.introduced scopes kinds roots) (.introduced scopes' kinds roots')
  | registered {m n i i' : Nat} {scopes scopes' : List Scope} : SameOffset m n i i' →
      List.Forall₂ Scope.Alike scopes scopes' →
      Event.Aligned m n (.registered i scopes) (.registered i' scopes')
  | defined {m n : Nat} {e e' : TypedExpr} (detailed : Bool) : SameType e e' →
      Event.Aligned m n (.defined e detailed) (.defined e' detailed)
  | listed {m n : Nat} (length : Nat) : Event.Aligned m n (.listed length) (.listed length)
  /-- The join that took the predicate lies at the same offset, or none took it. -/
  | attached {m n : Nat} {i i' : Option Nat} : Option.Rel (SameOffset m n) i i' →
      Event.Aligned m n (.attached i) (.attached i')
  | clause {m n : Nat} (c : Clause) : Event.Aligned m n (.clause c) (.clause c)
  | assigned {m n : Nat} (as as' : List (Assignment Expr)) (detailed : Bool) :
      Event.Aligned m n (.assigned as detailed) (.assigned as' detailed)
  | inPlace {m n : Nat} {es es' : List Entry} : EntriesAligned m n es es' →
      Event.Aligned m n (.inPlace es) (.inPlace es')
  | isolated {m n : Nat} {es es' : List Entry} : EntriesAligned m n es es' →
      Event.Aligned m n (.isolated es) (.isolated es')
  | both {m n : Nat} {es es' fs fs' : List Entry} : EntriesAligned m n es es' →
      EntriesAligned m n fs fs' → Event.Aligned m n (.both es fs) (.both es' fs')
  /-- A sub-query counts its positions from zero. -/
  | subquery {m n : Nat} (form : SubqueryForm) {es es' : List Entry} : EntriesAligned 0 0 es es' →
      Event.Aligned m n (.subquery form es) (.subquery form es')
  | dumped {m n : Nat} (q q' : Statement Expr) : Event.Aligned m n (.dumped q) (.dumped q')

/-- Transcripts of the same calls. -/
inductive EntriesAligned : Nat → Nat → List Entry → List Entry → Prop where
  | nil {m n : Nat} : EntriesAligned m n [] []
  | cons {m n : Nat} {e e' : Entry} {es es' : List Entry} : Entry.Aligned m n e e' →
      EntriesAligned m n es es' → EntriesAligned m n (e :: es) (e' :: es')

end

namespace EntriesAligned

variable {m n : Nat}

theorem single {e e' : Entry} (h : e.Aligned m n e') : EntriesAligned m n [e] [e'] := .cons h .nil

theorem append {fs fs' : List Entry} : ∀ {es es' : List Entry}, EntriesAligned m n es es' →
    EntriesAligned m n fs fs' → EntriesAligned m n (es ++ fs) (es' ++ fs')
  | _, _, .nil, later => later
  | _, _, .cons first rest, later => .cons first (append rest later)

end EntriesAligned

/-! ### The variables of rows -/

theorem LeafAlike.sameType {l l' : String × Scope} (h : LeafAlike l l') :
    SameType (.ofScope l.2) (.ofScope l'.2) := by
  obtain ⟨table, nullable, fields⟩ := h.2
  show Ty.ofRow ⟨l.2.table, l.2.fields⟩ l.2.nullable = Ty.ofRow ⟨l'.2.table, l'.2.fields⟩ l'.2.nullable
  rw [table, nullable, fields]

/-- The tags of the leaves of an operand that is registered. -/
theorem Operand.leaves_register {τ : Type} (o : Operand τ) :
    ∀ b : Builder, (o.register b).leaves.map Prod.fst = o.tags := by
  induction o with
  | table e tag | nullable e tag =>
    intro b
    rfl
  | join kind l r ihl ihr =>
    intro b
    rw [Operand.register, Operand.tags, List.map_append, ihl, ihr]

/-- The tags of the leaves of a shape that is introduced. -/
theorem Shape.leaves_introduce {τ : Type} (s : Shape τ) (b : Builder) :
    (s.introduce b).2.map Prod.fst = s.tags := by
  rw [Shape.introduce, Shape.tags]
  induction s.operands generalizing b with
  | nil => rfl
  | cons o os ih =>
    rw [Shape.introduceAll, List.map_append, Operand.leaves_register, ih, List.flatMap_cons]

/-- Variables that are bound to the rows of scopes that are alike. -/
theorem Agree.bindRows {leaves leaves' : List (String × Scope)}
    (alike : List.Forall₂ LeafAlike leaves leaves') :
    ∀ {xs : List String} {env env' : Env}, Agree xs env env' →
      Agree (leaves.map Prod.fst ++ xs) (bindRows leaves env) (bindRows leaves' env') := by
  induction alike with
  | nil =>
    intro xs env env' h
    exact h
  | @cons l l' leaves leaves' here _ ih =>
    intro xs env env' h
    have first : Agree (l.1 :: xs) ((l.1, .ofScope l.2) :: env) ((l'.1, .ofScope l'.2) :: env') := by
      rw [← here.1]
      exact h.bound l.1 here.sameType
    apply (ih first).mono
    intro y mem
    rw [List.map_cons, List.cons_append, List.mem_cons, List.mem_append] at mem
    rw [List.mem_append, List.mem_cons]
    exact or_left_comm.1 mem

/-- Scopes of leaves that are alike. -/
theorem scopes_alike {leaves leaves' : List (String × Scope)}
    (alike : List.Forall₂ LeafAlike leaves leaves') :
    List.Forall₂ Scope.Alike (leaves.map Prod.snd) (leaves'.map Prod.snd) := by
  rw [List.forall₂_map_left_iff, List.forall₂_map_right_iff]
  exact alike.imp fun _ _ here => here.2

/-! ### Outcomes -/

/-- Two runs that end alike. -/
structure Outcome.Aligned (m n : Nat) (xs bound : List String) (o o' : Outcome) : Prop where
  builder : o.builder.Aligned m n o'.builder
  entries : EntriesAligned m n o.entries o'.entries
  failure : o.failure.isSome = o'.failure.isSome
  agree : Agree xs o.env o'.env
  bound : o.failure = none → Agree (bound ++ xs) o.env o'.env

namespace Outcome.Aligned

variable {m n : Nat} {xs bound : List String} {b b' : Builder} {env env' : Env}
  {event event' : Event Entry} {o o' : Outcome}

/-- One call on either side. -/
theorem single {failure failure' : Option AttachError} (builder : b.Aligned m n b')
    (did : event.Aligned m n event') (failed : failure.isSome = failure'.isSome)
    (agree : Agree xs env env') (on_success : failure = none → Agree (bound ++ xs) env env') :
    Aligned m n xs bound (.single b env event failure) (.single b' env' event' failure') := by
  have same : b.pending.length = b'.pending.length := builder.pending.length_eq
  refine ⟨builder, .single ?_, failed, agree, on_success⟩
  rw [same]
  exact .entry did failed

/-- One call that succeeds on either side. -/
theorem done (builder : b.Aligned m n b') (did : event.Aligned m n event')
    (agree : Agree (bound ++ xs) env env') :
    Aligned m n xs bound (.done b env event) (.done b' env' event') :=
  .single builder did rfl (agree.mono fun _ mem => List.mem_append_right _ mem) fun _ => agree

/-- Runs that end alike succeed together. -/
theorem succeeds_iff (h : Aligned m n xs bound o o') : o.failure = none ↔ o'.failure = none := by
  rw [← Option.not_isSome_iff_eq_none, ← Option.not_isSome_iff_eq_none, h.failure]

/-- Both runs succeeded, or both failed. -/
theorem failure_cases (h : Aligned m n xs bound o o') :
    (o.failure = none ∧ o'.failure = none) ∨ ∃ e e', o.failure = some e ∧ o'.failure = some e' := by
  cases failed : o.failure with
  | none => exact .inl ⟨rfl, h.succeeds_iff.1 failed⟩
  | some e =>
    have same := h.failure
    rw [failed] at same
    obtain ⟨e', failed'⟩ := Option.isSome_iff_exists.1 same.symm
    exact .inr ⟨e, e', rfl, failed'⟩

/-- More calls, whose runs are aligned, after others. -/
theorem after {earlier earlier' : List Entry} (h : Aligned m n xs bound o o')
    (before : EntriesAligned m n earlier earlier') :
    Aligned m n xs bound (o.after earlier) (o'.after earlier') :=
  ⟨h.builder, before.append h.entries, h.failure, h.agree, h.bound⟩

/-- Fewer variables. -/
theorem mono {xs' bound' : List String} (h : Aligned m n xs bound o o') (fewer : ∀ x ∈ xs', x ∈ xs)
    (fewer_bound : ∀ x ∈ bound' ++ xs', x ∈ bound ++ xs) : Aligned m n xs' bound' o o' :=
  ⟨h.builder, h.entries, h.failure, h.agree.mono fewer, fun succeeded =>
    (h.bound succeeded).mono fewer_bound⟩

end Outcome.Aligned

/-! ### Runs -/

mutual

/-- **A call on aligned builders.**  It is ill-typed on both sides or runs on both, and the runs are
aligned. -/
theorem Step.run_aligned : ∀ (s : Step) {m n : Nat} {xs : List String} {b b' : Builder}
    {env env' : Env}, b.Aligned m n b' → (∀ x ∈ s.needs, x ∈ xs) → Agree xs env env' →
    Except.Related (Outcome.Aligned m n xs s.bound) (s.run b env) (s.run b' env')
  | .introduce shape, m, n, xs, b, b', env, env', h, _, agree => by
    rw [Step.run, Step.run]
    obtain ⟨after, leaves⟩ := h.introduceShape shape
    have rows := agree.bindRows leaves
    rw [shape.leaves_introduce] at rows
    exact .ok (.done after (.introduced _ _ _ (scopes_alike leaves)) rows)
  | .register operand, m, n, xs, b, b', env, env', h, _, agree => by
    rw [Step.run, Step.run]
    obtain ⟨after, id, leaves⟩ := Builder.Aligned.registerOperand operand h
    have rows := agree.bindRows leaves
    rw [operand.leaves_register] at rows
    exact .ok (.done after (.registered id (scopes_alike leaves)) rows)
  | .define x t detailed, m, n, xs, b, b', env, env', h, enough, agree => by
    rw [Step.run, Step.run]
    apply (t.eval_agrees enough env env' agree).bind
    rintro ⟨e, env₁⟩ ⟨e', env₁'⟩ ⟨same, agree₁⟩
    exact .ok (.done h (.defined detailed same) (agree₁.bound x same))
  | .list t ls, m, n, xs, b, b', env, env', h, _, agree => by
    rw [Step.run, Step.run]
    apply (Except.Related.refl _).bind
    rintro vs _ rfl
    exact .ok (.done h (.listed _) agree)
  | .attach t, m, n, xs, b, b', env, env', h, enough, agree => by
    rw [Step.run, Step.run]
    apply (t.predicate_agrees enough env env' agree).bind
    rintro ⟨p, env₁⟩ ⟨p', env₁'⟩ ⟨_, agree₁⟩
    have succeeds := h.attach_succeeds_iff p p'
    cases attached : b.attach p with
    | ok b₁ =>
      obtain ⟨b₁', attached'⟩ := succeeds.1 ⟨b₁, attached⟩
      simp only [attached, attached']
      exact .ok (.done (h.attach attached attached') (.attached h.head?) agree₁)
    | error e =>
      cases attached' : b'.attach p' with
      | ok b₁' =>
        obtain ⟨b₁, taken⟩ := succeeds.2 ⟨b₁', attached'⟩
        rw [attached] at taken
        cases taken
      | error e' =>
        simp only [attached, attached']
        exact .ok (.single h (.attached .none) rfl agree₁ nofun)
  | .filter t, m, n, xs, b, b', env, env', h, enough, agree => by
    rw [Step.run, Step.run]
    apply (t.predicate_agrees enough env env' agree).bind
    rintro ⟨p, env₁⟩ ⟨p', env₁'⟩ ⟨_, agree₁⟩
    exact .ok (.done (h.unchanged rfl rfl rfl rfl) (.clause _) agree₁)
  | .group t, m, n, xs, b, b', env, env', h, enough, agree => by
    rw [Step.run, Step.run]
    apply (t.eval_agrees enough env env' agree).bind
    rintro ⟨e, env₁⟩ ⟨e', env₁'⟩ ⟨_, agree₁⟩
    exact .ok (.done (h.unchanged rfl rfl rfl rfl) (.clause _) agree₁)
  | .having t, m, n, xs, b, b', env, env', h, enough, agree => by
    rw [Step.run, Step.run]
    apply (t.predicate_agrees enough env env' agree).bind
    rintro ⟨p, env₁⟩ ⟨p', env₁'⟩ ⟨_, agree₁⟩
    exact .ok (.done (h.unchanged rfl rfl rfl rfl) (.clause _) agree₁)
  | .order ts, m, n, xs, b, b', env, env', h, enough, agree => by
    rw [Step.run, Step.run]
    apply (orderTerms_agree ts enough env env' agree).bind
    rintro ⟨os, env₁⟩ ⟨os', env₁'⟩ ⟨_, agree₁⟩
    exact .ok (.done (h.unchanged rfl rfl rfl rfl) (.clause _) agree₁)
  | .limit k, m, n, xs, b, b', env, env', h, _, agree => by
    rw [Step.run, Step.run]
    exact .ok (.done (h.unchanged rfl rfl rfl rfl) (.clause _) agree)
  | .offset k, m, n, xs, b, b', env, env', h, _, agree => by
    rw [Step.run, Step.run]
    exact .ok (.done (h.unchanged rfl rfl rfl rfl) (.clause _) agree)
  | .distinct, m, n, xs, b, b', env, env', h, _, agree => by
    rw [Step.run, Step.run]
    exact .ok (.done (h.unchanged rfl rfl rfl rfl) (.clause _) agree)
  | .assign row as detailed, m, n, xs, b, b', env, env', h, enough, agree => by
    rw [Step.run, Step.run]
    obtain ⟨enough_row, enough_values⟩ := List.forall_mem_append.1 enough
    apply (assignments_agree row as enough_row enough_values env env' agree).bind
    rintro ⟨as, env₁⟩ ⟨as', env₁'⟩ ⟨_, agree₁⟩
    exact .ok (.done (h.unchanged rfl rfl rfl rfl) (.assigned _ _ detailed) agree₁)
  | .inPlace body, m, n, xs, b, b', env, env', h, enough, agree => by
    rw [Step.run, Step.run]
    apply (runAll_aligned body h enough agree).bind
    intro o o' within
    exact .ok (.single within.builder (.inPlace within.entries) within.failure within.agree
      within.bound)
  | .isolated body, m, n, xs, b, b', env, env', h, enough, agree => by
    rw [Step.run, Step.run]
    apply (runAll_aligned body h.sheltered enough agree).bind
    intro o o' within
    exact .ok (.single (h.reunited within.builder) (.isolated within.entries) within.failure
      within.agree within.bound)
  | .both first second, m, n, xs, b, b', env, env', h, enough, agree => by
    rw [Step.run, Step.run]
    obtain ⟨enough_first, enough_second⟩ := List.forall_mem_append.1 enough
    apply (runAll_aligned first h.sheltered enough_first agree).bind
    intro o₁ o₁' left
    have after_first := h.reunited left.builder
    rcases left.failure_cases with ⟨ended, ended'⟩ | ⟨e, e', ended, ended'⟩
    · simp only [ended, ended']
      have needed := mem_append_of_unbound enough_second
      apply (runAll_aligned second after_first.sheltered needed (left.bound ended)).bind
      intro o₂ o₂' right
      refine .ok (.single (after_first.reunited right.builder) (.both left.entries right.entries)
        right.failure (right.agree.mono fun _ mem => List.mem_append_right _ mem) ?_)
      intro succeeded
      apply (right.bound succeeded).mono
      intro x mem
      rw [Step.bound, List.append_assoc] at mem
      simp only [List.mem_append] at mem ⊢
      exact or_left_comm.1 mem
    · simp only [ended, ended']
      exact .ok (.single after_first (.both left.entries .nil) rfl left.agree nofun)
  | .subquery x form body result, m, n, xs, b, b', env, env', h, enough, agree => by
    rw [Step.run, Step.run]
    obtain ⟨enough_body, enough_result⟩ := List.forall_mem_append.1 enough
    apply (runAll_aligned body (Builder.Aligned.nested b b') enough_body agree).bind
    intro o o' within
    have resumed : (b.resumed o.builder).Aligned m n (b'.resumed o'.builder) :=
      h.unchanged rfl rfl rfl rfl
    rcases within.failure_cases with ⟨ended, ended'⟩ | ⟨e, e', ended, ended'⟩
    · simp only [ended, ended']
      have needed := mem_append_of_unbound enough_result
      apply (subqueryColumns_agree form result needed _ _ (within.bound ended)).bind
      rintro ⟨columns, env₁⟩ ⟨columns', env₁'⟩ ⟨_, agree₁⟩
      have same : SameType (form.embed (form.finish o.builder columns))
          (form.embed (form.finish o'.builder columns')) := by
        cases form with
        | scalar distinct t => rfl
        | existence negated => rfl
      exact .ok (.done resumed (.subquery form within.entries) (agree₁.bound x same))
    · simp only [ended, ended']
      exact .ok (.single resumed (.subquery form within.entries) rfl within.agree nofun)
  | .dump, m, n, xs, b, b', env, env', h, _, agree => by
    rw [Step.run, Step.run]
    exact .ok (.done h (.dumped _ _) agree)
  | .attempt call succeeded failed, m, n, xs, b, b', env, env', h, enough, agree => by
    rw [Step.run, Step.run]
    obtain ⟨enough, enough_failed⟩ := List.forall_mem_append.1 enough
    obtain ⟨enough_call, enough_succeeded⟩ := List.forall_mem_append.1 enough
    apply (Step.run_aligned call h enough_call agree).bind
    intro o₁ o₁' first
    rcases first.failure_cases with ⟨ended, ended'⟩ | ⟨e, e', ended, ended'⟩
    · simp only [ended, ended']
      have needed := mem_append_of_unbound enough_succeeded
      apply (runAll_aligned succeeded first.builder needed (first.bound ended)).bind
      intro o₂ o₂' second
      refine .ok ((second.mono (fun _ mem => List.mem_append_right _ mem) ?_).after first.entries)
      intro x mem
      rw [Step.bound] at mem
      simp only [List.mem_append, List.mem_filter] at mem ⊢
      rcases mem with ⟨bound_first | bound_second, _⟩ | old
      · exact .inr (.inl bound_first)
      · exact .inl bound_second
      · exact .inr (.inr old)
    · simp only [ended, ended']
      apply (runAll_aligned failed first.builder enough_failed first.agree).bind
      intro o₂ o₂' second
      refine .ok ((second.mono (fun _ mem => mem) ?_).after first.entries)
      intro x mem
      rw [Step.bound] at mem
      simp only [List.mem_append, List.mem_filter, List.contains_iff_mem] at mem ⊢
      exact mem.imp_left And.right

/-- **Calls on aligned builders**, up to the first that fails. -/
theorem runAll_aligned : ∀ (ss : List Step) {m n : Nat} {xs : List String} {b b' : Builder}
    {env env' : Env}, b.Aligned m n b' → (∀ x ∈ needsAll ss, x ∈ xs) → Agree xs env env' →
    Except.Related (Outcome.Aligned m n xs (boundAll ss)) (runAll ss b env) (runAll ss b' env')
  | [], m, n, xs, b, b', env, env', h, _, agree => by
    rw [runAll, runAll]
    exact .ok ⟨h, .nil, rfl, agree, fun _ => agree⟩
  | s :: ss, m, n, xs, b, b', env, env', h, enough, agree => by
    rw [runAll, runAll]
    obtain ⟨enough_first, enough_rest⟩ := List.forall_mem_append.1 enough
    apply (Step.run_aligned s h enough_first agree).bind
    intro o₁ o₁' first
    rcases first.failure_cases with ⟨ended, ended'⟩ | ⟨e, e', ended, ended'⟩
    · simp only [ended, ended']
      have needed := mem_append_of_unbound enough_rest
      apply (runAll_aligned ss first.builder needed (first.bound ended)).bind
      intro o₂ o₂' rest
      refine .ok ((rest.mono (fun _ mem => List.mem_append_right _ mem) ?_).after first.entries)
      intro x mem
      rw [boundAll, List.append_assoc] at mem
      simp only [List.mem_append] at mem ⊢
      exact or_left_comm.1 mem
    · simp only [ended, ended']
      refine .ok ⟨first.builder, first.entries, first.failure, first.agree, ?_⟩
      intro succeeded
      rw [ended] at succeeded
      cases succeeded

end

end SqlBuilder
