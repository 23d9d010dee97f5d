import SqlBuilder.Proofs.EmbeddedStatements
import SqlBuilder.Proofs.RenderSuccess

/-!
# The tables that assignments name

An UPDATE is rendered if each of its assignments names a row with the number of the table that is
updated.  Numbers are handed out by one book per statement.  Within a statement a number therefore
means one table, and an UPDATE assigns to the table that it updates.  A row that was brought in by
another statement may have the same number and yet belong to another table, and the renderer does not
see the difference.

* `Statement.numbers_of_render` : what the renderer sees;
* `Expr.RowIn` : an expression that is a row of known tables only, if it is one;
* `Builder.Accounted` : a builder whose tables, assignments and variables have known tables only, which
  are told apart by their numbers;
* `Course.accounted` : calls keep a builder accounted;
* **`Program.assigns_to_updated`** : the assignments of a statement that a program builds;
* **`Statement.strayAssignment_renders`** : a row of another statement.
-/

namespace SqlBuilder

/-- **What the renderer sees** of the tables in the assignments of an UPDATE is their numbers. -/
theorem Statement.numbers_of_render {q : Statement Expr} (update : q.kind = .update) {s : Settings}
    {sql : Sql} (rendered : q.render s = .ok sql) :
    ∃ t, q.Targets t ∧ ∀ a ∈ q.assignments, ∃ u, a.target.row? = some u ∧ u.id = t.id := by
  have shaped : q.WellShaped := q.tokens_succeeds.1 ((q.succeeds_render s).1 ⟨sql, rendered⟩)
  rw [WellShaped, Shaped, update] at shaped
  obtain ⟨t, targets, fits⟩ := shaped.target
  exact ⟨t, targets, fun a mem => (fits a mem).1⟩

/-! ### Rows of known tables -/

section Rows

variable {all more : List Scope} {rule : Call → Prop} {env : Env}

/-- An expression that is a row of one of the given tables, or no row. -/
def Expr.RowIn (all : List Scope) (e : Expr) : Prop := ∀ t, e.row? = some t → t ∈ all

theorem Expr.RowIn.mono {e : Expr} (h : e.RowIn all) : e.RowIn (all ++ more) :=
  fun t row => List.mem_append_left _ (h t row)

/-- Only variables are rows. -/
theorem Made.rowIn {e : TypedExpr} (bound : ∀ v ∈ env, v.2.expr.RowIn all) (h : Made rule env e) :
    e.expr.RowIn all := by
  induction h with
  | «variable» mem => exact bound _ mem
  | just _ ih => exact ih
  | column | isNothing =>
    intro t row
    cases row
  | @operation n t as _ op =>
    intro t row
    cases n with
    | row u => cases op
    | _ => cases row

theorem rowIn_bindRows (bound : ∀ v ∈ env, v.2.expr.RowIn all) (leaves : List (String × Scope))
    (known : ∀ t ∈ leaves.map Prod.snd, t ∈ all) :
    ∀ v ∈ bindRows leaves env, v.2.expr.RowIn all := by
  refine forall_bindRows (P := fun e => e.expr.RowIn all) leaves (fun l mem t row => ?_) bound
  cases row
  exact known _ (List.mem_map_of_mem mem)

end Rows

/-! ### Builders -/

namespace Builder

/-- A builder and variables with none but known tables, which are numbered in order. -/
structure Accounted (all : List Scope) (b : Builder) (env : Env) : Prop where
  numbered : all.map Scope.id = List.range b.aliases.nextScope
  scopes : b.scopes ⊆ all
  targets : ∀ a ∈ b.statement.assignments, a.target.RowIn all
  bound : ∀ v ∈ env, v.2.expr.RowIn all

namespace Accounted

variable {all more : List Scope} {b b' : Builder} {env env' : Env}

theorem start (kind : StatementKind) : Accounted [] (.start kind) [] where
  numbered := rfl
  scopes := List.Subset.refl _
  targets a mem := by cases mem
  bound v mem := by cases mem

/-- Tables come in and get numbers. -/
theorem issue (h : Accounted all b env) (issues : AliasBook.Issues b.aliases more b'.aliases)
    (scopes : b'.scopes ⊆ all ++ more) (targets : b'.statement.assignments = b.statement.assignments)
    (bound : ∀ v ∈ env', v.2.expr.RowIn (all ++ more)) : Accounted (all ++ more) b' env' where
  numbered := by
    rw [List.map_append, h.numbered, issues.ids, issues.nextScope, List.range_eq_range',
      List.range_eq_range', ← List.range'_append_1, Nat.zero_add]
  scopes := scopes
  targets a mem := by
    rw [targets] at mem
    exact (h.targets a mem).mono
  bound := bound

/-- Calls that bring no table in. -/
theorem keep (h : Accounted all b env) (aliases : b'.aliases = b.aliases) (scopes : b'.scopes = b.scopes)
    (targets : ∀ a ∈ b'.statement.assignments, a.target.RowIn all) : Accounted all b' env where
  numbered := by rw [aliases]; exact h.numbered
  scopes := by rw [scopes]; exact h.scopes
  targets := targets
  bound := h.bound

/-- No table more. -/
theorem still (h : Accounted all b env) : ∃ more, Accounted (all ++ more) b env :=
  ⟨[], by rw [List.append_nil]; exact h⟩

/-- A sub-query begins. -/
theorem nested (h : Accounted all b env) : Accounted all b.nested env where
  numbered := h.numbered
  scopes := List.nil_subset _
  targets a mem := by cases mem
  bound := h.bound

/-- A sub-query is over. -/
theorem resumed {inner : Builder} (h : Accounted all b env)
    (within : Accounted (all ++ more) inner env') : Accounted (all ++ more) (b.resumed inner) env' where
  numbered := within.numbered
  scopes := List.subset_append_of_subset_left _ h.scopes
  targets a mem := (h.targets a mem).mono
  bound := within.bound

/-- Tables with the same number are the same. -/
theorem eq_of_id_eq (h : Accounted all b env) {t u : Scope} (ht : t ∈ all) (hu : u ∈ all)
    (same : t.id = u.id) : t = u := by
  have nodup : (all.map Scope.id).Nodup := by
    rw [h.numbered]
    exact List.nodup_range
  exact List.inj_on_of_nodup_map nodup ht hu same

end Accounted

end Builder

/-! ### Every course -/

open Builder (Accounted)

/-- **Calls keep a builder accounted**, whatever they are and whichever of them fail. -/
theorem Course.accounted {rule : Call → Prop} {b b' : Builder} {env env' : Env}
    (h : Course rule b env b' env') :
    ∀ all, Accounted all b env → ∃ more, Accounted (all ++ more) b' env' := by
  induction h with
  | andThen _ _ ih₁ ih₂ =>
    intro all now
    obtain ⟨first, then_⟩ := ih₁ all now
    obtain ⟨second, finally_⟩ := ih₂ _ then_
    rw [List.append_assoc] at finally_
    exact ⟨_, finally_⟩
  | evaluate made =>
    intro all now
    exact Accounted.still { now with bound := fun v mem => (made v mem).rowIn now.bound }
  | introduce shape b env _ =>
    intro all now
    obtain ⟨_, clauses⟩ := (Builder.extends_introduce shape b).clauses
    refine ⟨_, now.issue (shape.introduce_issues b) ?_ (by rw [clauses]) ?_⟩
    · rw [shape.introduce_scopes]
      exact List.append_subset.2
        ⟨List.subset_append_of_subset_left _ now.scopes, List.subset_append_right _ _⟩
    · exact rowIn_bindRows (fun v mem => (now.bound v mem).mono) _
        fun t mem => List.mem_append_right _ mem
  | register operand b env _ =>
    intro all now
    obtain ⟨_, clauses⟩ := (Builder.extends_register operand b).clauses
    refine ⟨_, now.issue (operand.register_issues b) ?_ (by rw [clauses]) ?_⟩
    · rw [operand.register_scopes]
      exact List.append_subset.2
        ⟨List.subset_append_of_subset_left _ now.scopes, List.subset_append_right _ _⟩
    · exact rowIn_bindRows (fun v mem => (now.bound v mem).mono) _
        fun t mem => List.mem_append_right _ mem
  | attach _ _ attached =>
    intro all now
    have scopes := Builder.scopes_attach attached
    obtain ⟨_, _, _, _, _, rfl⟩ := Builder.attach_eq_ok_iff.1 attached
    exact Accounted.still (now.keep rfl scopes now.targets)
  | filter | group | having | order | limit | offset | distinct =>
    intro all now
    exact Accounted.still (now.keep rfl rfl now.targets)
  | assign _ made =>
    intro all now
    refine Accounted.still (now.keep rfl rfl fun a mem => ?_)
    rcases List.mem_append.1 mem with old | new
    · exact now.targets a old
    · obtain ⟨r, made_row, target, _⟩ := made a new
      rw [target]
      exact made_row.rowIn now.bound
  | isolated _ ih =>
    intro all now
    obtain ⟨more, within⟩ := ih all (now.keep rfl rfl now.targets)
    exact ⟨more, within.keep rfl rfl within.targets⟩
  | abandoned _ ih =>
    intro all now
    obtain ⟨more, within⟩ := ih all now.nested
    exact ⟨more, now.resumed within⟩
  | subquery x form _ _ ih =>
    intro all now
    obtain ⟨more, within⟩ := ih all now.nested
    refine ⟨more, { now.resumed within with bound := List.forall_mem_cons.2 ⟨?_, within.bound⟩ }⟩
    intro t row
    cases form with
    | existence negated => cases row
    | scalar distinct type => cases row

/-! ### Every program -/

/-- **An UPDATE that a program builds assigns to the table that it updates.**  If it is rendered, each
of its assignments names the row of the one table at top level. -/
theorem Program.assigns_to_updated {p : Program} {q : Statement Expr} {s : Settings} {sql : Sql}
    (built : p.statement? = some q) (update : q.kind = .update) (rendered : q.render s = .ok sql) :
    ∃ t, q.Targets t ∧ ∀ a ∈ q.assignments, a.target.row? = some t := by
  obtain ⟨t, targets, numbers⟩ := q.numbers_of_render update rendered
  -- any call is allowed
  have kept : ∀ c ∈ p.calls, (fun _ : Call => True) c := fun _ _ => trivial
  obtain ⟨b, env, columns, course, _, rfl⟩ := statement_course built kept
  obtain ⟨all, accounted⟩ := course.accounted [] (.start p.kind)
  refine ⟨t, targets, fun a mem => ?_⟩
  obtain ⟨u, row, same⟩ := numbers a mem
  obtain ⟨root, _, at_root⟩ := targets.only
  have registered : t ∈ b.scopes :=
    List.mem_filterMap.2 ⟨.scope t, List.mem_of_getElem? at_root, rfl⟩
  rw [row, accounted.eq_of_id_eq (accounted.targets a mem u row) (accounted.scopes registered) same]

/-- A person without pets gets older. -/
def birthday : Program :=
  let person : Entity := ⟨"person", [⟨"id", .int, false⟩, ⟨"age", .int, false⟩]⟩
  { kind := .update
    body := [
      .introduce (.single (.table person "p")),
      .subquery "petless" (.existence true)
        [.introduce (.single (.table ⟨"pet", [⟨"owner", .int, false⟩]⟩ "q")),
          .filter (.compare .equal (.project (.var "q") "owner" none)
            (.project (.var "p") "id" none))] .unit,
      .assign (.var "p") [("age", .add, .literal (.scalar .int) (.whole 1))] false,
      .filter (.var "petless")]
    result := .unit }

/-- The table of the sub-query is not the one that is assigned to. -/
theorem Program.assigns_to_updated_birthday :
    ∃ q, birthday.statement? = some q ∧ q.kind = .update ∧ q.render .default = .ok
      ⟨"UPDATE person SET age = (person.age + $1) " ++
        "WHERE (NOT EXISTS (SELECT 1 FROM pet WHERE (pet.owner = person.id)))", [.int 1]⟩ ∧
      ∃ t, q.Targets t ∧ ∀ a ∈ q.assignments, a.target.row? = some t := by
  have found : birthday.statement?.map (fun q => (q.kind, q.render .default)) = some (.update, .ok
      ⟨"UPDATE person SET age = (person.age + $1) " ++
        "WHERE (NOT EXISTS (SELECT 1 FROM pet WHERE (pet.owner = person.id)))", [.int 1]⟩) := by
    decide +kernel
  obtain ⟨q, built, same⟩ := Option.map_eq_some_iff.1 found
  obtain ⟨update, rendered⟩ := Prod.mk.inj same
  exact ⟨q, built, update, rendered, assigns_to_updated built update rendered⟩

/-- The UPDATE of a person with an assignment to the row that a SELECT of its own has brought in.  The
row has the number of the person, as the first table of each statement has it. -/
def Statement.strayAssignment : Statement Expr :=
  let key : FieldDef := ⟨"id", .bigInt, false⟩
  let posts := (Shape.single (.table ⟨"blog_post", [key, ⟨"title", .text, false⟩]⟩ ())).introduce
    (.start .select)
  let people := (Shape.single (.table ⟨"person", [key, ⟨"name", .text, false⟩]⟩ ())).introduce
    (.start .update)
  (people.1.assign (posts.2.map fun post =>
    ⟨.node (.row post.2), "title", .assign, .node (.literal (.string "x"))⟩)).finish []

/-- **The title of a blog post is written into a person.**  The statement is rendered although its
assignment names another table than the one that is updated. -/
theorem Statement.strayAssignment_renders : strayAssignment.kind = .update ∧
    strayAssignment.render .default = .ok ⟨"UPDATE person SET title = $1", [.string "x"]⟩ ∧
    ¬ ∃ t, strayAssignment.Targets t ∧ ∀ a ∈ strayAssignment.assignments,
      ∃ u, a.target.row? = some u ∧ u.table = t.table ∧ u.aliasName = t.aliasName := by
  refine ⟨rfl, rfl, ?_⟩
  rintro ⟨t, ⟨_, root, roots, at_root⟩, same⟩
  -- The root is the person and the one assignment is to the blog post.
  obtain rfl : 0 = root := List.head_eq_of_cons_eq roots
  obtain ⟨u, row, table, _⟩ := same _ (List.mem_singleton_self _)
  cases at_root
  cases row
  exact absurd table (by decide)

end SqlBuilder
