import SqlBuilder.Proofs.MadeExpressions

/-!
# What a run does to its builder and its variables

Next to the builder a run has variables, whose expressions end up in the clauses, and a finished
sub-query becomes the expression of a variable.  A course is a run of which only these two are looked
at; what the expressions are made of is known from `Made`.

* `Course rule b env b' env'` : calls that keep `rule` lead from `b` and `env` to `b'` and `env'`;
* **`Step.run_course`**, **`runAll_course`** : every run is a course, whether it succeeds, fails or goes
  on after a failure;
* **`Program.statement_course`** : so is the run of a program that builds a statement;
* `Arises rule env`, `BuildsFrom rule env kind r q`, `Builds rule kind r q` : statements that are built
  one after another by calls that keep `rule`, with the variables that one leaves to the next, and
  **`BuildsFrom.course`** : each of them is built by a course.
-/

namespace SqlBuilder

/-- Calls that keep a rule lead from one builder and its variables to another. -/
inductive Course (rule : Call → Prop) : Builder → Env → Builder → Env → Prop where
  | andThen {b₁ b₂ b₃ : Builder} {env₁ env₂ env₃ : Env} :
      Course rule b₁ env₁ b₂ env₂ → Course rule b₂ env₂ b₃ env₃ → Course rule b₁ env₁ b₃ env₃
  /-- Variables get other expressions, made from the old ones. -/
  | evaluate {b : Builder} {env env' : Env} :
      (∀ v ∈ env', Made rule env v.2) → Course rule b env b env'
  | introduce (shape : Shape String) (b : Builder) (env : Env) : rule (.introduce shape) →
      Course rule b env (shape.introduce b).1 (bindRows (shape.introduce b).2 env)
  | register (operand : Operand String) (b : Builder) (env : Env) : rule (.register operand) →
      Course rule b env (operand.register b).builder (bindRows (operand.register b).leaves env)
  | attach {b b' : Builder} {env : Env} {p : Expr} : Made rule env ⟨.bool, p⟩ →
      rule (.attach b p) → b.attach p = .ok b' → Course rule b env b' env
  | filter {b : Builder} {env : Env} {p : Expr} :
      Made rule env ⟨.bool, p⟩ → Course rule b env (b.filter p) env
  | group {b : Builder} {env : Env} {e : TypedExpr} :
      Made rule env e → rule (.group e) → Course rule b env (b.group e.expr) env
  | having {b : Builder} {env : Env} {p : Expr} :
      Made rule env ⟨.bool, p⟩ → Course rule b env (b.having p) env
  | order {b : Builder} {env : Env} {ts : List (OrderTerm Expr)} :
      (∀ t ∈ ts, MadeOrder rule env t) → Course rule b env (b.order ts) env
  | limit (n : Nat) (b : Builder) (env : Env) : Course rule b env (b.limit n) env
  | offset (n : Nat) (b : Builder) (env : Env) : Course rule b env (b.offset n) env
  | distinct (b : Builder) (env : Env) : Course rule b env b.distinct env
  | assign {b : Builder} {env : Env} {as : List (Assignment Expr)} : rule .assign →
      (∀ a ∈ as, MadeAssignment rule env a) → Course rule b env (b.assign as) env
  | isolated {b inner : Builder} {env env' : Env} :
      Course rule b.sheltered env inner env' → Course rule b env (inner.reunited b) env'
  /-- A sub-query that does not become an expression. -/
  | abandoned {b inner : Builder} {env env' : Env} :
      Course rule b.nested env inner env' → Course rule b env (b.resumed inner) env'
  | subquery {b inner : Builder} {env env' : Env} (x : String) (form : SubqueryForm)
      {columns : List Expr} : Course rule b.nested env inner env' →
      MadeColumns rule env' form columns →
      Course rule b env (b.resumed inner) ((x, form.embed (form.finish inner columns)) :: env')

/-- Nothing happens. -/
theorem Course.stay {rule : Call → Prop} (b : Builder) (env : Env) : Course rule b env b env :=
  .evaluate (Made.refl env)

/-- What holds of the variables and of the rows of a shape holds of the variables after the rows are
bound. -/
theorem forall_bindRows {P : TypedExpr → Prop} {env : Env} (leaves : List (String × Scope))
    (rows : ∀ l ∈ leaves, P (.ofScope l.2)) (bound : ∀ v ∈ env, P v.2) :
    ∀ v ∈ bindRows leaves env, P v.2 := by
  induction leaves generalizing env with
  | nil => exact bound
  | cons l leaves ih =>
    obtain ⟨here, later⟩ := List.forall_mem_cons.1 rows
    exact ih later (List.forall_mem_cons.2 ⟨here, bound⟩)

/-! ### Every run is a course -/

section Runs

variable {rule : Call → Prop}

/-- The calls after a run that ended well. -/
theorem callsAfter_of_succeeded {o : Outcome} (h : o.failure = none)
    (succeeded failed : Outcome → List Call) :
    callsAfter (.ok o) succeeded failed = succeeded o := by
  rw [callsAfter, h]

theorem callsAfter_of_failed {o : Outcome} {e : AttachError} (h : o.failure = some e)
    (succeeded failed : Outcome → List Call) :
    callsAfter (.ok o) succeeded failed = failed o := by
  rw [callsAfter, h]

mutual

/-- **A call that keeps the rule is a course**, whether it succeeds or fails. -/
theorem Step.run_course : ∀ (s : Step) (b : Builder) (env : Env) (o : Outcome),
    s.run b env = .ok o → (∀ c ∈ s.calls b env, rule c) → Course rule b env o.builder o.env
  | .introduce shape, b, env, o, h, kept => by
    rw [Step.run] at h
    cases h
    rw [Step.calls] at kept
    exact .introduce shape b env (kept _ (List.mem_singleton_self _))
  | .register operand, b, env, o, h, kept => by
    rw [Step.run] at h
    cases h
    rw [Step.calls] at kept
    exact .register operand b env (kept _ (List.mem_singleton_self _))
  | .define x t detailed, b, env, o, h, kept => by
    rw [Step.run] at h
    obtain ⟨⟨e, env'⟩, evaluated, h⟩ := Except.bind_eq_ok_iff.1 h
    cases h
    rw [Step.calls] at kept
    obtain ⟨made, bound⟩ := t.eval_made _ _ _ evaluated kept
    exact .evaluate (made_bound made bound)
  | .list t ls, b, env, o, h, _ => by
    rw [Step.run] at h
    obtain ⟨_, _, h⟩ := Except.bind_eq_ok_iff.1 h
    cases h
    exact .stay b env
  | .attach t, b, env, o, h, kept => by
    rw [Step.run] at h
    obtain ⟨⟨p, env'⟩, evaluated, h⟩ := Except.bind_eq_ok_iff.1 h
    rw [Step.calls, Evaluation.callsWith_of_ok evaluated, List.forall_mem_append] at kept
    obtain ⟨made, bound⟩ := t.predicate_made _ _ _ evaluated kept.1
    cases attached : b.attach p with
    | ok b' =>
      simp only [attached] at h
      cases h
      -- the predicate is made from the variables before it was evaluated
      have taken := Course.attach made (kept.2 _ (List.mem_singleton_self _)) attached
      exact .andThen taken (.evaluate bound)
    | error e =>
      simp only [attached] at h
      cases h
      exact .evaluate bound
  | .filter t, b, env, o, h, kept => by
    rw [Step.run] at h
    obtain ⟨⟨p, env'⟩, evaluated, h⟩ := Except.bind_eq_ok_iff.1 h
    cases h
    rw [Step.calls] at kept
    obtain ⟨made, bound⟩ := t.predicate_made _ _ _ evaluated kept
    exact .andThen (.filter made) (.evaluate bound)
  | .group t, b, env, o, h, kept => by
    rw [Step.run] at h
    obtain ⟨⟨e, env'⟩, evaluated, h⟩ := Except.bind_eq_ok_iff.1 h
    cases h
    rw [Step.calls, Evaluation.callsWith_of_ok evaluated, List.forall_mem_append] at kept
    obtain ⟨made, bound⟩ := t.eval_made _ _ _ evaluated kept.1
    exact .andThen (.group made (kept.2 _ (List.mem_singleton_self _))) (.evaluate bound)
  | .having t, b, env, o, h, kept => by
    rw [Step.run] at h
    obtain ⟨⟨p, env'⟩, evaluated, h⟩ := Except.bind_eq_ok_iff.1 h
    cases h
    rw [Step.calls] at kept
    obtain ⟨made, bound⟩ := t.predicate_made _ _ _ evaluated kept
    exact .andThen (.having made) (.evaluate bound)
  | .order ts, b, env, o, h, kept => by
    rw [Step.run] at h
    obtain ⟨⟨os, env'⟩, evaluated, h⟩ := Except.bind_eq_ok_iff.1 h
    cases h
    rw [Step.calls] at kept
    obtain ⟨made, bound⟩ := orderTerms_made ts _ _ _ evaluated kept
    exact .andThen (.order made) (.evaluate bound)
  | .limit n, b, env, o, h, _ => by
    rw [Step.run] at h
    cases h
    exact .limit n b env
  | .offset n, b, env, o, h, _ => by
    rw [Step.run] at h
    cases h
    exact .offset n b env
  | .distinct, b, env, o, h, _ => by
    rw [Step.run] at h
    cases h
    exact .distinct b env
  | .assign row as detailed, b, env, o, h, kept => by
    rw [Step.run] at h
    obtain ⟨⟨assigned, env'⟩, evaluated, h⟩ := Except.bind_eq_ok_iff.1 h
    cases h
    rw [Step.calls, List.forall_mem_cons] at kept
    obtain ⟨made, bound⟩ := assignments_made row as _ _ _ evaluated kept.2
    exact .andThen (.assign kept.1 made) (.evaluate bound)
  | .inPlace body, b, env, o, h, kept => by
    rw [Step.run] at h
    obtain ⟨inner, ran, h⟩ := Except.bind_eq_ok_iff.1 h
    cases h
    rw [Step.calls] at kept
    exact runAll_course body b env inner ran kept
  | .isolated body, b, env, o, h, kept => by
    rw [Step.run] at h
    obtain ⟨inner, ran, h⟩ := Except.bind_eq_ok_iff.1 h
    cases h
    rw [Step.calls] at kept
    exact .isolated (runAll_course body b.sheltered env inner ran kept)
  | .both first second, b, env, o, h, kept => by
    rw [Step.run] at h
    obtain ⟨o₁, ran₁, h⟩ := Except.bind_eq_ok_iff.1 h
    rw [Step.calls, ran₁, List.forall_mem_append] at kept
    have course₁ := Course.isolated (runAll_course first b.sheltered env o₁ ran₁ kept.1)
    cases failed : o₁.failure with
    | some e =>
      simp only [failed] at h
      cases h
      exact course₁
    | none =>
      simp only [failed] at h
      obtain ⟨o₂, ran₂, h⟩ := Except.bind_eq_ok_iff.1 h
      cases h
      have later := kept.2
      rw [callsAfter_of_succeeded failed] at later
      exact .andThen course₁ (.isolated (runAll_course second _ _ o₂ ran₂ later))
  | .subquery x form body result, b, env, o, h, kept => by
    rw [Step.run] at h
    obtain ⟨inner, ran, h⟩ := Except.bind_eq_ok_iff.1 h
    rw [Step.calls, ran, List.forall_mem_append] at kept
    have course := runAll_course body b.nested env inner ran kept.1
    cases failed : inner.failure with
    | some e =>
      simp only [failed] at h
      cases h
      exact .abandoned course
    | none =>
      simp only [failed] at h
      obtain ⟨⟨columns, env'⟩, evaluated, h⟩ := Except.bind_eq_ok_iff.1 h
      cases h
      have later := kept.2
      rw [callsAfter_of_succeeded failed] at later
      obtain ⟨made, bound⟩ := subqueryColumns_made form result _ _ _ evaluated later
      -- the columns are made from the variables before they were evaluated
      have finished := Course.subquery x form course made
      refine .andThen finished (.evaluate (made_bound (.variable List.mem_cons_self) ?_))
      intro v mem
      exact (bound v mem).trans fun w old => .variable (List.mem_cons_of_mem _ old)
  | .dump, b, env, o, h, _ => by
    rw [Step.run] at h
    cases h
    exact .stay b env
  | .attempt call succeeded failed, b, env, o, h, kept => by
    rw [Step.run] at h
    obtain ⟨o₁, ran₁, h⟩ := Except.bind_eq_ok_iff.1 h
    rw [Step.calls, ran₁, List.forall_mem_append] at kept
    have course₁ := Step.run_course call b env o₁ ran₁ kept.1
    have later := kept.2
    cases ended : o₁.failure with
    | none =>
      simp only [ended] at h
      obtain ⟨o₂, ran₂, h⟩ := Except.bind_eq_ok_iff.1 h
      cases h
      rw [callsAfter_of_succeeded ended] at later
      exact .andThen course₁ (runAll_course succeeded _ _ o₂ ran₂ later)
    | some e =>
      simp only [ended] at h
      obtain ⟨o₂, ran₂, h⟩ := Except.bind_eq_ok_iff.1 h
      cases h
      rw [callsAfter_of_failed ended] at later
      exact .andThen course₁ (runAll_course failed _ _ o₂ ran₂ later)

/-- **Calls that keep the rule are a course**, up to the call that fails. -/
theorem runAll_course : ∀ (ss : List Step) (b : Builder) (env : Env) (o : Outcome),
    runAll ss b env = .ok o → (∀ c ∈ callsAll ss b env, rule c) →
      Course rule b env o.builder o.env
  | [], b, env, o, h, _ => by
    rw [runAll] at h
    cases h
    exact .stay b env
  | s :: ss, b, env, o, h, kept => by
    rw [runAll] at h
    obtain ⟨o₁, ran₁, h⟩ := Except.bind_eq_ok_iff.1 h
    rw [callsAll, ran₁, List.forall_mem_append] at kept
    have course₁ := Step.run_course s b env o₁ ran₁ kept.1
    cases ended : o₁.failure with
    | some e =>
      simp only [ended] at h
      cases h
      exact course₁
    | none =>
      simp only [ended] at h
      obtain ⟨o₂, ran₂, h⟩ := Except.bind_eq_ok_iff.1 h
      cases h
      have later := kept.2
      rw [callsAfter_of_succeeded ended] at later
      exact .andThen course₁ (runAll_course ss _ _ o₂ ran₂ later)

end

end Runs

/-! ### Whole programs -/

/-- The statement that a program builds, if it has a meaning and ends without an error. -/
def Program.statement? (p : Program) : Option (Statement Expr) :=
  match p.run with
  | .ok ⟨_, .ok q⟩ => some q
  | _ => none

/-- A program that builds a statement runs to its end, and what it returns has a meaning. -/
theorem Program.ran_of_statement? {p : Program} {q : Statement Expr} (built : p.statement? = some q) :
    ∃ o r env, p.result.fits p.kind = true ∧ runAll p.body (.start p.kind) [] = .ok o ∧
      o.failure = none ∧ p.result.eval o.env = .ok (r, env) ∧
      q = o.builder.finish (r.leaves.map TypedExpr.expr) := by
  rw [statement?, Program.run] at built
  split at built
  · rename_i entries q' ran
    cases built
    split at ran
    · rename_i fits
      obtain ⟨o, body, ran⟩ := Except.bind_eq_ok_iff.1 ran
      cases ended : o.failure with
      | some e =>
        simp only [ended] at ran
        cases ran
      | none =>
        simp only [ended] at ran
        obtain ⟨⟨r, env⟩, evaluated, same⟩ := Except.bind_eq_ok_iff.1 ran
        cases same
        exact ⟨o, r, env, fits, body, ended, evaluated, rfl⟩
    · cases ran
  · cases built

/-- **A program that builds a statement** does so by a course from the empty builder, and the columns
it returns are made from the variables at the end. -/
theorem Program.statement_course {rule : Call → Prop} {p : Program} {q : Statement Expr}
    (built : p.statement? = some q) (kept : ∀ c ∈ p.calls, rule c) :
    ∃ b env columns, Course rule (.start p.kind) [] b env ∧
      (∀ c ∈ columns, MadeColumn rule env c) ∧ q = b.finish columns := by
  obtain ⟨o, r, env', _, body, ended, evaluated, rfl⟩ := p.ran_of_statement? built
  rw [Program.calls, body, List.forall_mem_append] at kept
  have course := runAll_course p.body _ _ o body kept.1
  have later := kept.2
  rw [callsAfter_of_succeeded ended] at later
  obtain ⟨made, _⟩ := Projection.eval_made p.result _ _ _ evaluated later
  refine ⟨o.builder, o.env, _, course, fun c mem => ?_, rfl⟩
  obtain ⟨e, leaf, rfl⟩ := List.mem_map.1 mem
  exact ⟨e, made e leaf, rfl⟩

/-! ### Statements one after another -/

/-- The variables that may be there when a statement is begun: none, or those that earlier statements
have left, by their calls or by what they return.  A call that fails leaves variables too.  All these
calls keep a rule.  A statement that is begun in the middle of another one is covered as well: the other
one is run up to there before it, and once more from its beginning after it. -/
inductive Arises (rule : Call → Prop) : Env → Prop where
  | nothing : Arises rule []
  | ran {env : Env} {kind : StatementKind} {aliases : AliasBook} {body : List Step} {o : Outcome} :
      Arises rule env → runAll body (.startWith kind aliases) env = .ok o →
      (∀ c ∈ callsAll body (.startWith kind aliases) env, rule c) → Arises rule o.env
  | returned {env env' : Env} {result : Projection Term} {r : Projection TypedExpr} :
      Arises rule env → result.eval env = .ok (r, env') → (∀ c ∈ result.calls env, rule c) →
      Arises rule env'

/-- The body of a statement of some kind begins with the variables `env` and returns `r`, and its calls
build `q`, or those up to one that fails do.  They keep a rule. -/
inductive BuildsFrom (rule : Call → Prop) (env : Env) (kind : StatementKind)
    (r : Projection TypedExpr) : Statement Expr → Prop where
  | mk {env' : Env} {aliases : AliasBook} {body : List Step} {o : Outcome}
      {result : Projection Term} : runAll body (.startWith kind aliases) env = .ok o →
      (∀ c ∈ callsAll body (.startWith kind aliases) env, rule c) → result.fits kind = true →
      result.eval o.env = .ok (r, env') → (∀ c ∈ result.calls o.env, rule c) →
      BuildsFrom rule env kind r (o.builder.finish (r.leaves.map TypedExpr.expr))

/-- The body of a statement may begin with variables that belong to earlier statements. -/
def Builds (rule : Call → Prop) (kind : StatementKind) (r : Projection TypedExpr)
    (q : Statement Expr) : Prop := ∃ env, Arises rule env ∧ BuildsFrom rule env kind r q

section Statements

variable {rule : Call → Prop} {kind : StatementKind} {r : Projection TypedExpr} {q : Statement Expr}

/-- The statement of a program is built by its calls, from no variables. -/
theorem Program.buildsFrom_of_statement? {p : Program} (built : p.statement? = some q)
    (kept : ∀ c ∈ p.calls, rule c) : ∃ r, BuildsFrom rule [] p.kind r q := by
  obtain ⟨o, r, env, fits, body, ended, evaluated, rfl⟩ := p.ran_of_statement? built
  rw [Program.calls, body, List.forall_mem_append] at kept
  have later := kept.2
  rw [callsAfter_of_succeeded ended] at later
  exact ⟨r, .mk body kept.1 fits evaluated later⟩

theorem Program.builds_of_statement? {p : Program} (built : p.statement? = some q)
    (kept : ∀ c ∈ p.calls, rule c) : ∃ r, Builds rule p.kind r q := by
  obtain ⟨r, built⟩ := p.buildsFrom_of_statement? built kept
  exact ⟨r, [], .nothing, built⟩

/-- Only a SELECT returns something. -/
theorem Projection.leaves_of_fits {result : Projection Term} {env env' : Env}
    (fits : result.fits kind = true) (evaluated : result.eval env = .ok (r, env')) :
    kind = .select ∨ r.leaves = [] := by
  cases kind with
  | select => exact .inl rfl
  | update | delete =>
    cases result with
    | unit =>
      obtain ⟨rfl, _⟩ := Evaluation.pure_eq_ok.1 evaluated
      exact .inr rfl
    | leaf t | tuple ps => cases fits

/-- **What is built is built by a course**, and what is returned is made from the variables at its
end. -/
theorem BuildsFrom.course {env : Env} (built : BuildsFrom rule env kind r q) :
    ∃ aliases b env', Course rule (.startWith kind aliases) env b env' ∧
      (∀ e ∈ r.leaves, Made rule env' e) ∧ (kind = .select ∨ r.leaves = []) ∧
      q = b.finish (r.leaves.map TypedExpr.expr) := by
  obtain ⟨ran, kept, fits, evaluated, kept'⟩ := built
  obtain ⟨made, _⟩ := Projection.eval_made _ _ _ _ evaluated kept'
  exact ⟨_, _, _, runAll_course _ _ _ _ ran kept, made, Projection.leaves_of_fits fits evaluated, rfl⟩

end Statements

end SqlBuilder
