import SqlBuilder.Program.Run
import SqlBuilder.Proofs.Results

/-!
# What a run does to its builder

A run evaluates terms, binds variables and writes a transcript.  What is left of it when only the
builder is looked at is a short list of changes, and most invariants of a builder are invariants of
these changes.

* `Entry.scopes` : the tables a transcript tells of, those of sub-queries included, in order;
* `Builder.Change b scopes b'` : calls lead from `b` to `b'` and bring in `scopes`, in this order;
* `Builder.Traced b entries b'` : calls lead from `b` to `b'`, and a transcript tells of them;
* **`Step.run_traced`**, **`runAll_traced`** : every run is traced by its transcript, whether it
  succeeds, fails or goes on after a failure;
* **`Step.run_change`**, **`runAll_change`** : so every run is a change.
-/

namespace SqlBuilder

/-- What leaves the from-clause, the waiting joins and the aliases as they are. -/
def Event.isQuiet {ε : Type} : Event ε → Bool
  | .defined _ _ | .listed _ | .attached none | .clause _ | .assigned _ _ | .dumped _ => true
  | _ => false

/-! ### The tables of a transcript -/

mutual

/-- The tables that an entry tells of, in the order in which they were brought in. -/
def Entry.scopes : Entry → List Scope
  | .entry event _ _ => eventScopes event

def eventScopes : Event Entry → List Scope
  | .introduced scopes _ _ | .registered _ scopes => scopes
  | .inPlace entries | .isolated entries | .subquery _ entries => scopesOfAll entries
  | .both first second => scopesOfAll first ++ scopesOfAll second
  | .defined _ _ | .listed _ | .attached _ | .clause _ | .assigned _ _ | .dumped _ => []

/-- The tables that a transcript tells of. -/
def scopesOfAll : List Entry → List Scope
  | [] => []
  | e :: es => e.scopes ++ scopesOfAll es

end

theorem scopesOfAll_append (es fs : List Entry) :
    scopesOfAll (es ++ fs) = scopesOfAll es ++ scopesOfAll fs := by
  induction es with
  | nil => rfl
  | cons e es ih => rw [List.cons_append, scopesOfAll, ih, scopesOfAll, List.append_assoc]

/-- A transcript of one entry tells of the tables of its event. -/
theorem scopesOfAll_single (event : Event Entry) (waiting : Nat) (failure : Option AttachError) :
    scopesOfAll [.entry event waiting failure] = eventScopes event := by
  rw [scopesOfAll, scopesOfAll, Entry.scopes, List.append_nil]

theorem eventScopes_of_isQuiet {event : Event Entry} (quiet : event.isQuiet = true) :
    eventScopes event = [] := by
  cases event with
  | defined | listed | attached | clause | assigned | dumped => rfl
  | introduced | registered | inPlace | isolated | both | subquery => cases quiet

namespace Builder

/-- The registration at a position. -/
def registration? (b : Builder) (i : Nat) : Option (Registration Expr) :=
  b.statement.source.get? i

/-- An ON predicate succeeds exactly when a position waits and holds a join, and it changes nothing
but the predicate of that join. -/
theorem attach_eq_ok_iff {b b' : Builder} {p : Expr} :
    b.attach p = .ok b' ↔ ∃ i rest, ∃ j : Join Expr, b.pending = i :: rest ∧
      b.registration? i = some (.join j) ∧
      b' = { b with
        statement := { b.statement with
          source := { b.statement.source with
            registrations := b.statement.source.registrations.set i
              (.join { j with predicate := some p }) } }
        pending := rest } := by
  unfold attach
  cases stack : b.pending with
  | nil => simp
  | cons i rest =>
    simp only [FromClause.setPredicate?]
    show _ ↔ ∃ i' rest', ∃ j : Join Expr, i :: rest = i' :: rest' ∧
      b.statement.source.get? i' = some (.join j) ∧ _
    constructor
    · intro h
      split at h
      · rename_i source found
        split at found
        · rename_i j at_i
          cases found
          cases h
          exact ⟨i, rest, j, rfl, at_i, rfl⟩
        · cases found
      · cases h
    · rintro ⟨i', rest', j, e, at_i, rfl⟩
      cases e
      rw [at_i]
      rfl

/-- Calls lead from one builder to another and bring in the given tables, in this order, those of
sub-queries included. -/
inductive Change : Builder → List Scope → Builder → Prop where
  | andThen {b₁ b₂ b₃ : Builder} {ss ts : List Scope} :
      Change b₁ ss b₂ → Change b₂ ts b₃ → Change b₁ (ss ++ ts) b₃
  | introduce (shape : Shape String) (b : Builder) :
      Change b ((shape.introduce b).2.map Prod.snd) (shape.introduce b).1
  | register (operand : Operand String) (b : Builder) :
      Change b ((operand.register b).leaves.map Prod.snd) (operand.register b).builder
  | attach {b b' : Builder} (p : Expr) : b.attach p = .ok b' → Change b [] b'
  /-- Clauses other than the from-clause may change. -/
  | clause {b b' : Builder} : b'.statement.source = b.statement.source → b'.pending = b.pending →
      b'.aliases = b.aliases → Change b [] b'
  | isolated {b inner : Builder} {ss : List Scope} :
      Change b.sheltered ss inner → Change b ss (inner.reunited b)
  | subquery {b inner : Builder} {ss : List Scope} :
      Change b.nested ss inner → Change b ss (b.resumed inner)

/-- Calls lead from one builder to another, and a transcript tells of them.  How many joins wait after
a call and whether it failed does not matter here. -/
inductive Traced : Builder → List Entry → Builder → Prop where
  | nil (b : Builder) : Traced b [] b
  | append {b₁ b₂ b₃ : Builder} {es fs : List Entry} :
      Traced b₁ es b₂ → Traced b₂ fs b₃ → Traced b₁ (es ++ fs) b₃
  | introduce (shape : Shape String) (b : Builder) (roots : List Nat) (waiting : Nat)
      (failure : Option AttachError) :
      Traced b [.entry (.introduced ((shape.introduce b).2.map Prod.snd) shape.kinds roots) waiting
        failure] (shape.introduce b).1
  | register (operand : Operand String) (b : Builder) (waiting : Nat)
      (failure : Option AttachError) :
      Traced b [.entry (.registered (operand.register b).id
        ((operand.register b).leaves.map Prod.snd)) waiting failure] (operand.register b).builder
  | attach {b b' : Builder} (p : Expr) (waiting : Nat) (failure : Option AttachError) :
      b.attach p = .ok b' → Traced b [.entry (.attached b.pending.head?) waiting failure] b'
  /-- Clauses other than the from-clause may change. -/
  | quiet {b b' : Builder} {event : Event Entry} (waiting : Nat) (failure : Option AttachError) :
      event.isQuiet = true → b'.statement.source = b.statement.source → b'.pending = b.pending →
      b'.aliases = b.aliases → Traced b [.entry event waiting failure] b'
  | inPlace {b b' : Builder} {es : List Entry} (waiting : Nat) (failure : Option AttachError) :
      Traced b es b' → Traced b [.entry (.inPlace es) waiting failure] b'
  | isolated {b inner : Builder} {es : List Entry} (waiting : Nat) (failure : Option AttachError) :
      Traced b.sheltered es inner →
      Traced b [.entry (.isolated es) waiting failure] (inner.reunited b)
  /-- If the first fragment fails the second does nothing. -/
  | both {b inner inner' : Builder} {es fs : List Entry} (waiting : Nat)
      (failure : Option AttachError) : Traced b.sheltered es inner →
      Traced (inner.reunited b).sheltered fs inner' →
      Traced b [.entry (.both es fs) waiting failure] (inner'.reunited (inner.reunited b))
  | subquery {b inner : Builder} {es : List Entry} (form : SubqueryForm) (waiting : Nat)
      (failure : Option AttachError) : Traced b.nested es inner →
      Traced b [.entry (.subquery form es) waiting failure] (b.resumed inner)

end Builder

open Builder (Change Traced)

/-! ### Every run is traced -/

mutual

/-- **A call changes its builder as its transcript tells.** -/
theorem Step.run_traced : ∀ (s : Step) (b : Builder) (env : Env) (o : Outcome),
    s.run b env = .ok o → Traced b o.entries o.builder
  | .introduce shape, b, env, o, h => by
    rw [Step.run] at h
    cases h
    exact .introduce shape b _ _ _
  | .register operand, b, env, o, h => by
    rw [Step.run] at h
    cases h
    exact .register operand b _ _
  | .define x t detailed, b, env, o, h => by
    rw [Step.run] at h
    obtain ⟨_, _, e⟩ := Except.bind_eq_ok_iff.1 h
    cases e
    exact .quiet _ _ rfl rfl rfl rfl
  | .list t ls, b, env, o, h => by
    rw [Step.run] at h
    obtain ⟨_, _, e⟩ := Except.bind_eq_ok_iff.1 h
    cases e
    exact .quiet _ _ rfl rfl rfl rfl
  | .attach t, b, env, o, h => by
    rw [Step.run] at h
    obtain ⟨⟨p, env'⟩, _, h⟩ := Except.bind_eq_ok_iff.1 h
    cases attached : b.attach p with
    | ok b' =>
      simp only [attached] at h
      cases h
      exact .attach p _ _ attached
    | error e =>
      simp only [attached] at h
      cases h
      exact .quiet _ _ rfl rfl rfl rfl
  | .filter t, b, env, o, h => by
    rw [Step.run] at h
    obtain ⟨_, _, e⟩ := Except.bind_eq_ok_iff.1 h
    cases e
    exact .quiet _ _ rfl rfl rfl rfl
  | .group t, b, env, o, h => by
    rw [Step.run] at h
    obtain ⟨_, _, e⟩ := Except.bind_eq_ok_iff.1 h
    cases e
    exact .quiet _ _ rfl rfl rfl rfl
  | .having t, b, env, o, h => by
    rw [Step.run] at h
    obtain ⟨_, _, e⟩ := Except.bind_eq_ok_iff.1 h
    cases e
    exact .quiet _ _ rfl rfl rfl rfl
  | .order ts, b, env, o, h => by
    rw [Step.run] at h
    obtain ⟨_, _, e⟩ := Except.bind_eq_ok_iff.1 h
    cases e
    exact .quiet _ _ rfl rfl rfl rfl
  | .limit n, b, env, o, h => by
    rw [Step.run] at h
    cases h
    exact .quiet _ _ rfl rfl rfl rfl
  | .offset n, b, env, o, h => by
    rw [Step.run] at h
    cases h
    exact .quiet _ _ rfl rfl rfl rfl
  | .distinct, b, env, o, h => by
    rw [Step.run] at h
    cases h
    exact .quiet _ _ rfl rfl rfl rfl
  | .assign row as detailed, b, env, o, h => by
    rw [Step.run] at h
    obtain ⟨_, _, e⟩ := Except.bind_eq_ok_iff.1 h
    cases e
    exact .quiet _ _ rfl rfl rfl rfl
  | .inPlace body, b, env, o, h => by
    rw [Step.run] at h
    obtain ⟨inner, ran, e⟩ := Except.bind_eq_ok_iff.1 h
    cases e
    exact .inPlace _ _ (runAll_traced body b env inner ran)
  | .isolated body, b, env, o, h => by
    rw [Step.run] at h
    obtain ⟨inner, ran, e⟩ := Except.bind_eq_ok_iff.1 h
    cases e
    exact .isolated _ _ (runAll_traced body b.sheltered env inner ran)
  | .both first second, b, env, o, h => by
    rw [Step.run] at h
    obtain ⟨o₁, ran₁, h⟩ := Except.bind_eq_ok_iff.1 h
    have traced₁ := runAll_traced first b.sheltered env o₁ ran₁
    cases failed : o₁.failure with
    | some e =>
      simp only [failed] at h
      cases h
      exact .both _ _ traced₁ (.nil _)
    | none =>
      simp only [failed] at h
      obtain ⟨o₂, ran₂, e⟩ := Except.bind_eq_ok_iff.1 h
      cases e
      exact .both _ _ traced₁ (runAll_traced second _ _ o₂ ran₂)
  | .subquery x form body result, b, env, o, h => by
    rw [Step.run] at h
    obtain ⟨inner, ran, h⟩ := Except.bind_eq_ok_iff.1 h
    have traced := runAll_traced body b.nested env inner ran
    cases failed : inner.failure with
    | some e =>
      simp only [failed] at h
      cases h
      exact .subquery form _ _ traced
    | none =>
      simp only [failed] at h
      obtain ⟨columns, _, e⟩ := Except.bind_eq_ok_iff.1 h
      cases e
      exact .subquery form _ _ traced
  | .dump, b, env, o, h => by
    rw [Step.run] at h
    cases h
    exact .quiet _ _ rfl rfl rfl rfl
  | .attempt call succeeded failed, b, env, o, h => by
    rw [Step.run] at h
    obtain ⟨o₁, ran₁, h⟩ := Except.bind_eq_ok_iff.1 h
    have traced₁ := Step.run_traced call b env o₁ ran₁
    cases ended : o₁.failure with
    | none =>
      simp only [ended] at h
      obtain ⟨o₂, ran₂, e⟩ := Except.bind_eq_ok_iff.1 h
      cases e
      exact .append traced₁ (runAll_traced succeeded _ _ o₂ ran₂)
    | some e =>
      simp only [ended] at h
      obtain ⟨o₂, ran₂, e⟩ := Except.bind_eq_ok_iff.1 h
      cases e
      exact .append traced₁ (runAll_traced failed _ _ o₂ ran₂)

/-- **Calls change their builder as their transcript tells**, up to the call that fails. -/
theorem runAll_traced : ∀ (ss : List Step) (b : Builder) (env : Env) (o : Outcome),
    runAll ss b env = .ok o → Traced b o.entries o.builder
  | [], b, env, o, h => by
    rw [runAll] at h
    cases h
    exact .nil b
  | s :: ss, b, env, o, h => by
    rw [runAll] at h
    obtain ⟨o₁, ran₁, h⟩ := Except.bind_eq_ok_iff.1 h
    have traced₁ := Step.run_traced s b env o₁ ran₁
    cases ended : o₁.failure with
    | some e =>
      simp only [ended] at h
      cases h
      exact traced₁
    | none =>
      simp only [ended] at h
      obtain ⟨o₂, ran₂, e⟩ := Except.bind_eq_ok_iff.1 h
      cases e
      exact .append traced₁ (runAll_traced ss _ _ o₂ ran₂)

end

/-! ### Every run is a change -/

/-- What a transcript tells of changes the builder by the listed operations, and it tells of exactly
the tables that come in. -/
theorem Builder.Traced.change {b b' : Builder} {es : List Entry} (h : Traced b es b') :
    Change b (scopesOfAll es) b' := by
  induction h with
  | nil b => exact .clause rfl rfl rfl
  | append _ _ ih₁ ih₂ =>
    rw [scopesOfAll_append]
    exact .andThen ih₁ ih₂
  | introduce shape b =>
    rw [scopesOfAll_single]
    exact .introduce shape b
  | register operand b =>
    rw [scopesOfAll_single]
    exact .register operand b
  | attach p _ _ attached =>
    rw [scopesOfAll_single]
    exact .attach p attached
  | quiet _ _ quiet source pending aliases =>
    rw [scopesOfAll_single, eventScopes_of_isQuiet quiet]
    exact .clause source pending aliases
  | inPlace _ _ _ ih =>
    rw [scopesOfAll_single]
    exact ih
  | isolated _ _ _ ih =>
    rw [scopesOfAll_single]
    exact .isolated ih
  | both _ _ _ _ ih₁ ih₂ =>
    rw [scopesOfAll_single]
    exact .andThen (.isolated ih₁) (.isolated ih₂)
  | subquery form _ _ _ ih =>
    rw [scopesOfAll_single]
    exact .subquery ih

/-- **A call changes its builder by the listed operations**, and its transcript tells of exactly the
tables that come in. -/
theorem Step.run_change (s : Step) (b : Builder) (env : Env) (o : Outcome)
    (h : s.run b env = .ok o) : Change b (scopesOfAll o.entries) o.builder :=
  (s.run_traced b env o h).change

/-- **A list of calls changes its builder by the listed operations**, up to the call that fails. -/
theorem runAll_change (ss : List Step) (b : Builder) (env : Env) (o : Outcome)
    (h : runAll ss b env = .ok o) : Change b (scopesOfAll o.entries) o.builder :=
  (runAll_traced ss b env o h).change

end SqlBuilder
