import SqlBuilder.Proofs.PendingJoins
import SqlBuilder.Proofs.RenderErrors

/-!
# Which statements have text

Types keep whole rows away from the places of values, calls keep the from-clause in order, and a
sub-query is a SELECT from its first call on.  What types do not say is left to the caller.

* `Call.isCareful` : no assignment, no ON predicate on a cross join, and no whole row as a group, in an
  ordering or in a test for absence;
* `TypedExpr.Sound E` : an expression is written as its type says;
* `Course.sound` : what calls do to a statement whose errors are in a class `E` leaves them there, as
  long as `E` has the errors that the calls may cause;
* **`Builds.render_outcome`** : careful calls build a SELECT that has text under all settings, and no
  calls build a statement that fails by an internal error.
-/

namespace SqlBuilder

/-! ### Calls -/

/-- The join that the next ON predicate goes to; without one the predicate is refused. -/
def Builder.waitingJoin? (b : Builder) : Option (Join Expr) :=
  match b.pending.head?.bind b.registration? with
  | some (.join j) => some j
  | _ => none

/-- A call that types allow and a SELECT has a text for. -/
def Call.isCareful : Call → Bool
  | .introduce _ | .register _ | .column _ => true
  | .attach b _ => b.waitingJoin?.all fun j => j.kind != .cross
  | .group e | .order e | .isNothing e => e.expr.row?.isNone
  | .assign => false

/-- A call causes errors of a class only. -/
def Call.Spares (E : RenderError → Prop) : Call → Prop
  | .introduce _ | .register _ | .column _ => True
  | .attach b _ => ∀ j, b.waitingJoin? = some j → j.kind = .cross → E .crossJoinWithPredicate
  | .group e | .order e | .isNothing e => e.expr.row? = none ∨ ∀ a, E (.rowAsScalar a)
  | .assign => ∀ k, E (.assignmentsOutsideUpdate k)

/-- A careful call causes no errors. -/
theorem Call.spares_of_isCareful {c : Call} (h : c.isCareful = true) : c.Spares fun _ => False := by
  cases c with
  | introduce shape | register operand | column t => trivial
  | attach b p =>
    intro j waiting cross
    rw [isCareful, waiting, Option.all_some, cross] at h
    cases h
  | group e | order e | isNothing e => exact .inl (Option.isNone_iff_eq_none.1 h)
  | assign => cases h

/-- No call causes an internal error. -/
theorem Call.spares_external (c : Call) : c.Spares fun e => e.isInternal = false := by
  cases c with
  | introduce shape | register operand | column t => trivial
  | attach b p => exact fun _ _ _ => rfl
  | group e | order e | isNothing e => exact .inr fun _ => rfl
  | assign => exact fun _ => rfl

/-! ### Expressions -/

variable {E : RenderError → Prop}

variable (E) in
/-- An expression is written as its type says: values have errors of a class only, and what is no value
is a whole row or has such errors only. -/
structure TypedExpr.Sound (e : TypedExpr) : Prop where
  value : e.type.isValue = true → e.expr.piece.Writes E
  row_or : (∃ s, e.expr = .node (.row s)) ∨ e.expr.piece.Writes E

/-- The operand that an expression is for the renderer. -/
theorem Expr.piece_node (n : Node Expr) : (Expr.node n).piece = Piece.ofNode (n.map Expr.piece) :=
  Expr.fold_node Piece.ofNode n

namespace TypedExpr.Sound

theorem of_writes {e : TypedExpr} (h : e.expr.piece.Writes E) : e.Sound E := ⟨fun _ => h, .inr h⟩

/-- An expression may be listed. -/
theorem lists {e : TypedExpr} (h : e.Sound E) : e.expr.piece.Lists E := by
  intro scalar
  rcases h.row_or with ⟨s, row⟩ | writes
  · rw [row, Expr.piece_node] at scalar
    cases scalar
  · exact writes

/-- An expression that is no row, or for which the misuse of a row is among the errors. -/
theorem writes {e : TypedExpr} (h : e.Sound E)
    (scalar : e.expr.row? = none ∨ ∀ a, E (.rowAsScalar a)) : e.expr.piece.Writes E := by
  rcases h.row_or with ⟨s, row⟩ | writes
  · rcases scalar with noRow | misused
    · rw [row] at noRow
      cases noRow
    · rw [row, Expr.piece_node]
      exact Except.FailsOnly.error (misused s.aliasName)
  · exact writes

/-- The row of a scope. -/
theorem ofScope (s : Scope) : (TypedExpr.ofScope s).Sound E where
  value h := by
    have absurd_value : (TypedExpr.ofScope s).type.isValue = false := by
      show (Ty.ofRow _ s.nullable).isValue = false
      cases s.nullable with
      | false => rfl
      | true => rfl
    rw [absurd_value] at h
    cases h
  row_or := .inl ⟨s, rfl⟩

end TypedExpr.Sound

/-- The operands of an operation after replacing what stands in the places. -/
theorem Node.children_map_of_isOperation {α β : Type} (f : α → β) {n : Node α}
    (op : n.isOperation = true) : (n.map f).children = n.children.map f := by
  cases n with
  | row s | field base name | isNull e | subquery q | existence q negated => cases op
  | _ => rfl

theorem Node.isOperation_map {α β : Type} (f : α → β) (n : Node α) :
    (n.map f).isOperation = n.isOperation := by
  cases n with
  | _ => rfl

/-- **What is made from sound expressions is sound.** -/
theorem Made.sound {rule : Call → Prop} (spares : ∀ c, rule c → c.Spares E) {env : Env}
    {e : TypedExpr} (bound : ∀ v ∈ env, v.2.Sound E) (h : Made rule env e) : e.Sound E := by
  induction h with
  | «variable» mem => exact bound _ mem
  | just _ ih => exact ⟨ih.value, ih.row_or⟩
  | column name _ _ _ ih =>
    apply TypedExpr.Sound.of_writes
    rw [Expr.piece_node]
    exact Piece.writes_field ih.lists name
  | isNothing kept _ ih =>
    apply TypedExpr.Sound.of_writes
    rw [Expr.piece_node]
    exact Piece.writes_isNull (ih.writes (spares _ kept))
  | operation as _ op operands values _ ih =>
    apply TypedExpr.Sound.of_writes
    rw [Expr.piece_node]
    apply Piece.writes_ofNode
    · rw [Node.isOperation_map]
      exact op
    · rw [Node.children_map_of_isOperation _ op, operands, List.map_map]
      refine List.forall_mem_map.2 fun a mem => ?_
      exact (ih a mem).value (values a mem)

/-! ### Builders -/

variable (E) in
/-- A builder's statement is writable. -/
def Statement.Sound (q : Statement Expr) : Prop :=
  q.Writable E (fun e => e.piece.Writes E) (fun e => e.piece.Lists E)

/-- A sub-query as an expression. -/
theorem SubqueryForm.sound_embed (form : SubqueryForm) {q : Statement Expr}
    (select : q.kind = .select) (h : q.Sound E) : (form.embed q).Sound E := by
  have nested : Except.FailsOnly E (q.map Expr.piece).nestedTokens :=
    Statement.nestedTokens_failsOnly select h.map
  cases form with
  | scalar distinct t =>
    apply TypedExpr.Sound.of_writes
    show (Expr.node (.subquery q)).piece.Writes E
    rw [Expr.piece_node]
    exact nested.bind fun _ => .ok _
  | existence negated =>
    apply TypedExpr.Sound.of_writes
    show (Expr.node (.existence q negated)).piece.Writes E
    rw [Expr.piece_node]
    exact nested.bind fun _ => .ok _

namespace Builder

variable {b b' : Builder}

/-- A statement stays sound when its from-clause does. -/
theorem Extends.sound (h : Extends b b') (grounded : b'.source.Grounded) (now : b.statement.Sound E) :
    b'.statement.Sound E := by
  obtain ⟨source, same⟩ := h.clauses
  refine ⟨grounded, fun i j p at_i has => ?_, ?_, ?_, ?_, ?_, ?_, ?_⟩
  · exact now.predicates i j p (h.predicates i j p at_i has) has
  · rw [same]
    exact now.columns
  · rw [same]
    exact now.filters
  · rw [same]
    exact now.grouping
  · rw [same]
    exact now.having_
  · rw [same]
    exact now.ordering
  · rw [same]
    exact now.assignments

/-- A join gets a predicate. -/
theorem sound_attach {p : Expr} (attached : b.attach p = .ok b')
    (now : b.statement.Sound E) (writes : p.piece.Writes E)
    (kept : (Call.attach b p).Spares E) : b'.statement.Sound E := by
  have grounded := grounded_attach attached now.grounded
  obtain ⟨i, j, top, at_i, _, _, registrations⟩ := registration?_attach attached
  have waiting : b.waitingJoin? = some j := by
    rw [waitingJoin?, top, Option.bind_some, at_i]
  have cross := kept j waiting
  obtain ⟨_, _, _, _, _, rfl⟩ := attach_eq_ok_iff.1 attached
  refine ⟨grounded, fun k j' q at_k has => ?_, now.columns, now.filters, now.grouping, now.having_,
    now.ordering, now.assignments⟩
  have at_k' := (registrations k).symm.trans at_k
  by_cases here : k = i
  · rw [if_pos here] at at_k'
    cases at_k'
    cases has
    exact ⟨writes, cross⟩
  · rw [if_neg here] at at_k'
    exact now.predicates k j' q at_k' has

/-- The finished statement of a builder. -/
theorem sound_finish {columns : List Expr} (now : b.statement.Sound E)
    (lists : ∀ c ∈ columns, c.piece.Lists E) : (b.finish columns).Sound E :=
  { now with columns := List.forall_mem_append.2 ⟨now.columns, lists⟩ }

end Builder

/-- A finished sub-query is of the kind that its builder had. -/
theorem SubqueryForm.kind_finish (form : SubqueryForm) (inner : Builder) (columns : List Expr) :
    (form.finish inner columns).kind = inner.statement.kind := by
  cases form with
  | existence negated => rfl
  | scalar distinct t =>
    cases distinct with
    | false => rfl
    | true => rfl

theorem SubqueryForm.sound_finish (form : SubqueryForm) {inner : Builder} {columns : List Expr}
    (now : inner.statement.Sound E) (lists : ∀ c ∈ columns, c.piece.Lists E) :
    (form.finish inner columns).Sound E := by
  cases form with
  | existence negated => exact Builder.sound_finish now lists
  | scalar distinct t =>
    cases distinct with
    | false => exact Builder.sound_finish now lists
    | true =>
      have distinct : inner.distinct.statement.Sound E := { now with }
      exact Builder.sound_finish distinct lists

/-! ### Every course -/

namespace Course

variable {rule : Call → Prop} {b b' : Builder} {env env' : Env}

/-- Calls do not change the kind of a statement. -/
theorem kind (h : Course rule b env b' env') : b'.statement.kind = b.statement.kind := by
  induction h with
  | andThen _ _ ih₁ ih₂ => exact ih₂.trans ih₁
  | introduce shape b env _ =>
    obtain ⟨source, same⟩ := (Builder.extends_introduce shape b).clauses
    rw [same]
  | register operand b env _ =>
    obtain ⟨source, same⟩ := (Builder.extends_register operand b).clauses
    rw [same]
  | attach _ _ attached =>
    obtain ⟨_, _, _, _, _, rfl⟩ := Builder.attach_eq_ok_iff.1 attached
    rfl
  | isolated _ ih => exact ih
  | evaluate | filter | group | having | order | limit | offset | distinct | assign | abandoned |
    subquery => rfl

/-- **Calls that spare all errors outside a class** keep the statement and the variables sound. -/
theorem sound (spares : ∀ c, rule c → c.Spares E) (h : Course rule b env b' env') :
    b.statement.Sound E → (∀ v ∈ env, v.2.Sound E) →
      b'.statement.Sound E ∧ ∀ v ∈ env', v.2.Sound E := by
  induction h with
  | andThen _ _ ih₁ ih₂ =>
    intro now bound
    obtain ⟨now₁, bound₁⟩ := ih₁ now bound
    exact ih₂ now₁ bound₁
  | evaluate made =>
    intro now bound
    exact ⟨now, fun v mem => (made v mem).sound spares bound⟩
  | introduce shape b env _ =>
    intro now bound
    have grounded := shape.introduce_grounded b now.grounded
    have rows := forall_bindRows (shape.introduce b).2 (fun l _ => TypedExpr.Sound.ofScope l.2) bound
    exact ⟨(Builder.extends_introduce shape b).sound grounded now, rows⟩
  | register operand b env _ =>
    intro now bound
    have grounded := (operand.register_rooted b now.grounded).grounded
    have rows :=
      forall_bindRows (operand.register b).leaves (fun l _ => TypedExpr.Sound.ofScope l.2) bound
    exact ⟨(Builder.extends_register operand b).sound grounded now, rows⟩
  | attach made kept attached =>
    intro now bound
    have writes := (made.sound spares bound).value rfl
    exact ⟨Builder.sound_attach attached now writes (spares _ kept), bound⟩
  | filter made =>
    intro now bound
    have writes := (made.sound spares bound).value rfl
    refine ⟨{ now with filters := List.forall_mem_append.2 ⟨now.filters, ?_⟩ }, bound⟩
    exact List.forall_mem_singleton.2 writes
  | group made kept =>
    intro now bound
    have writes := (made.sound spares bound).writes (spares _ kept)
    refine ⟨{ now with grouping := List.forall_mem_append.2 ⟨now.grouping, ?_⟩ }, bound⟩
    exact List.forall_mem_singleton.2 writes
  | having made =>
    intro now bound
    have writes := (made.sound spares bound).value rfl
    refine ⟨{ now with having_ := List.forall_mem_append.2 ⟨now.having_, ?_⟩ }, bound⟩
    exact List.forall_mem_singleton.2 writes
  | order made =>
    intro now bound
    refine ⟨{ now with ordering := List.forall_mem_append.2 ⟨now.ordering, ?_⟩ }, bound⟩
    intro t mem
    obtain ⟨e, made, kept, same⟩ := made t mem
    rw [same]
    exact (made.sound spares bound).writes (spares _ kept)
  | limit | offset | distinct =>
    intro now bound
    exact ⟨{ now with }, bound⟩
  | assign kept made =>
    intro now bound
    refine ⟨{ now with assignments := List.forall_mem_append.2 ⟨now.assignments, ?_⟩ }, bound⟩
    intro a mem
    obtain ⟨_, _, _, e, made, value, same⟩ := made a mem
    refine ⟨?_, spares _ kept⟩
    rw [same]
    exact (made.sound spares bound).value value
  | isolated _ ih => exact ih
  | abandoned _ ih =>
    intro now bound
    exact ⟨now, (ih (.empty .select) bound).2⟩
  | @subquery b inner env env' x form columns course made ih =>
    intro now bound
    obtain ⟨within, bound'⟩ := ih (.empty .select) bound
    have lists : ∀ c ∈ columns, c.piece.Lists E := by
      intro c mem
      obtain ⟨e, made, rfl⟩ := made.each c mem
      exact (made.sound spares bound').lists
    have select : inner.statement.kind = .select := course.kind
    refine ⟨now, List.forall_mem_cons.2 ⟨?_, bound'⟩⟩
    exact form.sound_embed ((form.kind_finish inner columns).trans select)
      (form.sound_finish within lists)

end Course

/-! ### Every statement -/

section Statements

variable {rule : Call → Prop} {kind : StatementKind} {r : Projection TypedExpr} {q : Statement Expr}

/-- The variables that earlier statements have left are sound. -/
theorem Arises.sound (spares : ∀ c, rule c → c.Spares E) {env : Env} (h : Arises rule env) :
    ∀ v ∈ env, v.2.Sound E := by
  induction h with
  | nothing =>
    intro v mem
    cases mem
  | ran _ ran kept ih =>
    exact ((runAll_course _ _ _ _ ran kept).sound spares (.empty _) ih).2
  | returned _ evaluated kept ih =>
    obtain ⟨_, bound⟩ := Projection.eval_made _ _ _ _ evaluated kept
    exact fun v mem => (bound v mem).sound spares ih

/-- Calls that spare all errors outside a class build sound statements of their kind. -/
theorem Builds.sound (spares : ∀ c, rule c → c.Spares E) (built : Builds rule kind r q) :
    q.kind = kind ∧ q.Sound E := by
  obtain ⟨env, arises, built⟩ := built
  obtain ⟨aliases, b, env', course, made, _, rfl⟩ := built.course
  obtain ⟨now, bound⟩ := course.sound spares (.empty kind) (arises.sound spares)
  refine ⟨course.kind, Builder.sound_finish now (List.forall_mem_map.2 fun e leaf => ?_)⟩
  exact ((made e leaf).sound spares bound).lists

/-- **Which statements have text.**  Careful calls, those in sub-queries and those of earlier statements
too, build a SELECT that has text under all settings; and no calls whatever build a statement, of any
kind, that fails by an internal error. -/
theorem Builds.render_outcome (built : Builds rule kind r q) :
    (kind = .select → (∀ c, rule c → c.isCareful = true) → ∀ s, ∃ sql, q.render s = .ok sql) ∧
      ∀ s e, q.render s = .error e → e.isInternal = false := by
  constructor
  · intro select careful s
    obtain ⟨same, sound⟩ := built.sound fun c kept => Call.spares_of_isCareful (careful c kept)
    have tokens : Except.FailsOnly (fun _ => False) q.tokens := by
      show Except.FailsOnly _ (q.map Expr.piece).pieceTokens
      rw [Statement.pieceTokens, show (q.map Expr.piece).kind = .select from same.trans select]
      exact Statement.selectTokens_failsOnly sound.map
    exact (tokens.bind fun _ => .ok _).exists_ok
  · intro s
    obtain ⟨_, sound⟩ := built.sound fun c _ => c.spares_external
    have tokens : Except.FailsOnly (fun e => e.isInternal = false) q.tokens :=
      Statement.pieceTokens_failsOnly (fun _ external => external) sound.map
    exact tokens.bind fun _ => .ok _

end Statements

/-- People by name, with their pets, as long as somebody else has the same name. -/
def namesakes : Program :=
  let person (x : String) : Operand String :=
    .table ⟨"person", [⟨"id", .int, false⟩, ⟨"name", .text, true⟩]⟩ x
  let field (x name : String) : Term := .project (.var x) name none
  { kind := .select
    body := [
      .introduce (.single
        (.join .leftOuter (person "p") (.nullable ⟨"pet", [⟨"owner", .int, false⟩]⟩ "pet"))),
      .attach (.compare .equal (.projectMaybe (.var "pet") "owner" none) (.just (field "p" "id"))),
      .subquery "other" (.existence false)
        [.introduce (.single (person "q")),
          .filter (.compare .equal (field "q" "name") (field "p" "name"))] .unit,
      .filter (.logical .or (.var "other") (.isNothing (field "p" "name"))),
      .order [(.ascending, field "p" "name")]]
    result := .tuple [.leaf (.var "p"), .leaf (.var "pet")] }

/-- The namesakes are found under all settings. -/
theorem Builds.render_outcome_namesakes :
    ∃ r q, Builds (fun c => c.isCareful = true) .select r q ∧ namesakes.statement? = some q ∧
      (∀ s, ∃ sql, q.render s = .ok sql) ∧ ∀ s e, q.render s = .error e → e.isInternal = false := by
  have builds : namesakes.statement?.isSome = true := by decide +kernel
  have careful : namesakes.calls.all Call.isCareful = true := by decide +kernel
  obtain ⟨q, statement⟩ := Option.isSome_iff_exists.1 builds
  obtain ⟨r, built⟩ := namesakes.builds_of_statement? statement (List.all_eq_true.1 careful)
  obtain ⟨renders, external⟩ := built.render_outcome
  exact ⟨r, q, built, statement, renders rfl fun _ kept => kept, external⟩

end SqlBuilder
