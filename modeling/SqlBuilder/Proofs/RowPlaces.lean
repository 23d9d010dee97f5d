import SqlBuilder.Proofs.ExprFold
import SqlBuilder.Proofs.Renderability
import SqlBuilder.Proofs.ScopeResolution

/-!
# Where whole rows stand

A variable may stand for a whole row, and its type says so.  Some operations take values only, others
take rows too, and some give an expression a new type without making a new one.  The types nevertheless
keep rows at the places that are made for them, in all statements and at any depth.

* `Expr.Contains`, `Statement.Contains` : the nodes of an expression and of a statement, those of
  embedded statements included;
* `Statement.Place.takesRow`, `Node.takesRow` : the places in which a row may stand;
* `Node.Orderly`, `Statement.Orderly` : a row stands in no other place;
* `TypedExpr.Faithful` : only expressions of row types are rows, and the others of these types are fields;
* **`Course.orderly`** : calls keep a builder and its variables orderly;
* `Piece.ofNodeWith` : the renderer with anything in place of its form for a field of what is no row;
* **`Builds.rows_in_place`** : in every statement that is built rows stand in places of rows and each
  sub-query used as a value has one column, and where fields hold values each is written as a column;
* **`Builds.field_of_field`** : a field that holds a row has fields that are not.
-/

namespace SqlBuilder

/-! ### The nodes of a statement -/

/-- A node of an expression, at any depth. -/
inductive Expr.Contains : Expr → Node Expr → Prop where
  | here (n : Node Expr) : Contains (.node n) n
  | within {n m : Node Expr} {e : Expr} : e ∈ n.children → Contains e m → Contains (.node n) m

/-- A node of an expression of a statement, at any depth. -/
def Statement.Contains (q : Statement Expr) (n : Node Expr) : Prop := ∃ e ∈ q.children, e.Contains n

/-- A node below the outermost one of an expression stands in a place of another. -/
theorem Expr.Contains.stands {e : Expr} {m : Node Expr} (h : e.Contains m) :
    e = .node m ∨ ∃ n p, e.Contains n ∧ n.at? p = some (.node m) := by
  induction h with
  | here n => exact .inl rfl
  | @within n m e child _ ih =>
    rcases ih with rfl | ⟨n', p, inside, at_p⟩
    · obtain ⟨p, at_p⟩ := Node.exists_at? child
      exact .inr ⟨n, p, .here n, at_p⟩
    · exact .inr ⟨n', p, .within child inside, at_p⟩

/-- Each node of a statement stands in a place of the statement or of one of its nodes. -/
theorem Statement.Contains.stands {q : Statement Expr} {m : Node Expr} (h : q.Contains m) :
    (∃ p, q.at? p = some (.node m)) ∨ ∃ n p, q.Contains n ∧ n.at? p = some (.node m) := by
  obtain ⟨e, mem, contained⟩ := h
  rcases contained.stands with rfl | ⟨n, p, inside, at_p⟩
  · exact .inl (Statement.exists_at? mem)
  · exact .inr ⟨n, p, ⟨e, mem, inside⟩, at_p⟩

/-! ### Places of rows -/

/-- Whether a row may stand in a place of a statement.  Groups and orderings are not asked for values,
an assignment names the row it changes, and the columns of a SELECT may be those of a row. -/
def Statement.Place.takesRow (kind : StatementKind) : Statement.Place → Bool
  | .column _ => kind == .select
  | .grouping _ | .ordering _ | .target _ => true
  | .predicate _ | .filter _ | .having _ | .assigned _ => false

/-- Whether a row may stand in a place of a node.  The column of a sub-query that is used as a value
must be a value. -/
def Node.takesRow {ε : Type} : Node ε → Node.Place → Bool
  | .field _ _, _ | .isNull _, _ => true
  | .subquery _, .within (.column _) => false
  | .subquery q, .within p | .existence q _, .within p => p.takesRow q.kind
  | _, _ => false

section Definitions

-- whether some field that is taken holds a row
variable (deep : Prop)

/-- Rows stand in the places of rows only, a field is that of a row or of a row that a field holds, and
a sub-query that is used as a value has one column. -/
structure Node.Orderly (n : Node Expr) : Prop where
  rows : ∀ place s, n.at? place = some (.node (.row s)) → n.takesRow place = true
  base : ∀ base name, n = .field base name →
    (∃ s, base = .node (.row s)) ∨ deep ∧ ∃ b f, base = .node (.field b f)
  column : ∀ q, n = .subquery q → ∃ c, q.columns = [c] ∧ c.row? = none

/-- An expression whose nodes are orderly. -/
def Expr.Orderly (e : Expr) : Prop := ∀ n, e.Contains n → n.Orderly deep

/-- A statement whose nodes are orderly, with values in the places of values. -/
structure Statement.Orderly (q : Statement Expr) : Prop where
  predicates : ∀ r ∈ q.source.registrations, ∀ p ∈ r.children, p.row? = none
  filters : ∀ p ∈ q.filters, p.row? = none
  having_ : ∀ p ∈ q.having, p.row? = none
  assigned : ∀ a ∈ q.assignments, a.value.row? = none
  children : ∀ e ∈ q.children, e.Orderly deep

end Definitions

section Orders

variable {deep : Prop} {n : Node Expr} {q : Statement Expr}

/-- A node is orderly with all that stands in it. -/
theorem Expr.orderly_node (here : n.Orderly deep) (inside : ∀ e ∈ n.children, e.Orderly deep) :
    (Expr.node n).Orderly deep := by
  intro m contained
  cases contained with
  | here => exact here
  | within child deeper => exact inside _ child m deeper

/-- What is no row does not stand for one. -/
theorem Expr.ne_row_of_row? {e : Expr} {s : Scope} (h : e.row? = none) : e ≠ .node (.row s) := by
  intro same
  rw [same] at h
  cases h

/-- What stands for a row is one. -/
theorem Expr.eq_row_of_row? {e : Expr} {s : Scope} (h : e.row? = some s) : e = .node (.row s) := by
  obtain ⟨n⟩ := e
  cases n with
  | row t =>
    cases h
    rfl
  | _ => cases h

/-- An operation on values. -/
theorem Node.orderly_of_isOperation (op : n.isOperation = true)
    (values : ∀ e ∈ n.children, e.row? = none) : n.Orderly deep where
  rows place s at_place :=
    absurd rfl (Expr.ne_row_of_row? (values _ (mem_children_of_at? at_place)))
  base b name same := by
    rw [same] at op
    cases op
  column q same := by
    rw [same] at op
    cases op

/-- In an orderly statement no row stands in a place of values. -/
theorem Statement.Orderly.takesRow (h : q.Orderly deep) (columns : q.kind = .select ∨ q.columns = [])
    {place : Statement.Place} {s : Scope} (at_place : q.at? place = some (.node (.row s))) :
    place.takesRow q.kind = true := by
  cases place with
  | column i =>
    rcases columns with select | none
    · rw [select]
      rfl
    · rw [at?, none] at at_place
      cases at_place
  | grouping i | ordering i | target i => rfl
  | predicate id =>
    obtain ⟨r, at_id, has⟩ := Option.bind_eq_some_iff.1 at_place
    cases r with
    | scope t => cases has
    | join j =>
      have mem := List.mem_of_getElem? at_id
      exact absurd rfl (Expr.ne_row_of_row? (h.predicates _ mem _ (Option.mem_toList.2 has)))
  | filter i => exact absurd rfl (Expr.ne_row_of_row? (h.filters _ (List.mem_of_getElem? at_place)))
  | having i => exact absurd rfl (Expr.ne_row_of_row? (h.having_ _ (List.mem_of_getElem? at_place)))
  | assigned i =>
    obtain ⟨a, at_i, row⟩ := Option.map_eq_some_iff.1 at_place
    exact absurd row (Expr.ne_row_of_row? (h.assigned a (List.mem_of_getElem? at_i)))

end Orders

/-! ### Types and forms -/

/-- A type of rows is none of values. -/
theorem Ty.not_isValue_of_entity {t : Ty} {entity : Entity} (h : t.entity? = some entity) :
    ¬ t.isValue = true := by
  induction t with
  | scalar f => cases h
  | row e => exact Bool.false_ne_true
  | option t ih => exact ih h

/-- Only an expression of a row type is a row, namely one of the entity that the type names.  The others
of these types are fields that hold rows. -/
structure TypedExpr.Faithful (deep : Prop) (e : TypedExpr) : Prop where
  row : ∀ s, e.expr.row? = some s → e.type.entity? = some ⟨s.table, s.fields⟩
  form : ∀ entity, e.type.entity? = some entity →
    (∃ s, e.expr = .node (.row s)) ∨ deep ∧ ∃ b f, e.expr = .node (.field b f)
  orderly : e.expr.Orderly deep

namespace TypedExpr.Faithful

variable {deep : Prop}

/-- A value is no row. -/
theorem value {e : TypedExpr} (h : e.Faithful deep) (value : e.type.isValue = true) :
    e.expr.row? = none := by
  cases row : e.expr.row? with
  | none => rfl
  | some s => exact absurd value (Ty.not_isValue_of_entity (h.row s row))

/-- A node whose type is one of values. -/
theorem of_isValue {t : Ty} {n : Node Expr} (value : t.isValue = true)
    (noRow : (Expr.node n).row? = none) (orderly : (Expr.node n).Orderly deep) :
    Faithful deep ⟨t, .node n⟩ where
  row s row := by
    rw [noRow] at row
    cases row
  form entity some := absurd value (Ty.not_isValue_of_entity some)
  orderly := orderly

/-- The row of a scope. -/
theorem ofScope (s : Scope) : (TypedExpr.ofScope s).Faithful deep := by
  refine ⟨fun t row => ?_, fun entity some => .inl ⟨s, rfl⟩, ?_⟩
  · cases row
    show (Ty.ofRow _ s.nullable).entity? = _
    cases s.nullable with
    | false | true => rfl
  · refine Expr.orderly_node ⟨fun place t at_place => ?_, nofun, nofun⟩ fun e mem => by cases mem
    cases Node.mem_children_of_at? at_place

end TypedExpr.Faithful

section Faithful

variable {deep : Prop} {rule : Call → Prop} (taken : ∀ t, rule (.column t) → t.isValue = true ∨ deep)

include taken in
/-- **What is made from faithful expressions is faithful.** -/
theorem Made.faithful {env : Env} {e : TypedExpr} (bound : ∀ v ∈ env, v.2.Faithful deep)
    (h : Made rule env e) : e.Faithful deep := by
  induction h with
  | «variable» mem => exact bound _ mem
  | just _ ih => exact ⟨ih.row, ih.form, ih.orderly⟩
  | @column a t entity name type kept _ ih =>
    -- the base is of a row type, and its form is known
    have here : Node.Orderly deep (.field a.expr name) := by
      refine ⟨fun _ _ _ => rfl, fun base name' same => ?_, nofun⟩
      cases same
      exact ih.form entity type
    refine ⟨nofun, fun held some => .inr ⟨?_, a.expr, name, rfl⟩, ?_⟩
    · exact (taken t kept).resolve_left (Ty.not_isValue_of_entity some)
    · exact Expr.orderly_node here (List.forall_mem_singleton.2 ih.orderly)
  | @isNothing a _ _ ih =>
    have here : Node.Orderly deep (.isNull a.expr) := ⟨fun _ _ _ => rfl, nofun, nofun⟩
    exact .of_isValue rfl rfl (Expr.orderly_node here (List.forall_mem_singleton.2 ih.orderly))
  | @operation n t as value op operands values _ ih =>
    have noRow : (Expr.node n).row? = none := by
      cases n with
      | row s => cases op
      | _ => rfl
    have no_rows : ∀ e ∈ n.children, e.row? = none := by
      rw [operands]
      exact List.forall_mem_map.2 fun a mem => (ih a mem).value (values a mem)
    refine .of_isValue value noRow (Expr.orderly_node (Node.orderly_of_isOperation op no_rows) ?_)
    rw [operands]
    exact List.forall_mem_map.2 fun a mem => (ih a mem).orderly

/-- A sub-query as an expression.  One that is used as a value has one column, a value. -/
theorem SubqueryForm.faithful_embed (form : SubqueryForm) {q : Statement Expr}
    (select : q.kind = .select) (orderly : q.Orderly deep)
    (value : ∀ distinct t, form = .scalar distinct t →
      t.isValue = true ∧ ∃ c, q.columns = [c] ∧ c.row? = none) : (form.embed q).Faithful deep := by
  cases form with
  | existence negated =>
    have here : Node.Orderly deep (.existence q negated) := by
      refine ⟨fun place s at_place => ?_, nofun, nofun⟩
      cases place with
      | operand i => cases at_place
      | within p => exact orderly.takesRow (.inl select) at_place
    exact .of_isValue rfl rfl (Expr.orderly_node here orderly.children)
  | scalar distinct t =>
    obtain ⟨isValue, c, only, noRow⟩ := value distinct t rfl
    have here : Node.Orderly deep (.subquery q) := by
      refine ⟨fun place s at_place => ?_, nofun, fun r same => ?_⟩
      · cases place with
        | operand i => cases at_place
        | within p =>
          have takes := orderly.takesRow (.inl select) at_place
          cases p with
          | column i =>
            -- the one column is no row
            have mem : Expr.node (.row s) ∈ q.columns := List.mem_of_getElem? at_place
            rw [only, List.mem_singleton] at mem
            exact absurd mem.symm (Expr.ne_row_of_row? noRow)
          | _ => exact takes
      · cases same
        exact ⟨c, only, noRow⟩
    exact .of_isValue isValue rfl (Expr.orderly_node here orderly.children)

end Faithful

/-! ### Builders -/

theorem Statement.Orderly.empty {deep : Prop} (kind : StatementKind) :
    Statement.Orderly deep (.empty kind) where
  predicates r mem := by cases mem
  filters p mem := by cases mem
  having_ p mem := by cases mem
  assigned a mem := by cases mem
  children e mem := by cases mem

namespace Builder

variable {deep : Prop} {b b' : Builder} {env : Env}

variable (deep) in
/-- A builder and variables with rows in the places of rows only.  There are no columns before the body
returns. -/
structure Orderly (b : Builder) (env : Env) : Prop where
  columns : b.statement.columns = []
  statement : b.statement.Orderly deep
  bound : ∀ v ∈ env, v.2.Faithful deep

theorem Orderly.startWith (kind : StatementKind) (aliases : AliasBook)
    (bound : ∀ v ∈ env, v.2.Faithful deep) : (Builder.startWith kind aliases).Orderly deep env :=
  ⟨rfl, .empty kind, bound⟩

/-- Tables and joins come in. -/
theorem Extends.orderly (h : Extends b b') (now : b.Orderly deep env) {env' : Env}
    (bound : ∀ v ∈ env', v.2.Faithful deep) : b'.Orderly deep env' := by
  obtain ⟨source, same⟩ := h.clauses
  have predicates : ∀ r ∈ b'.statement.source.registrations, ∀ p ∈ r.children, p.row? = none := by
    intro r mem p child
    obtain ⟨i, at_i⟩ := List.mem_iff_getElem?.1 mem
    cases r with
    | scope s => cases child
    | join j =>
      have old := h.predicates i j p at_i (Option.mem_toList.1 child)
      exact now.statement.predicates (.join j) (List.mem_of_getElem? old) p child
  have children : ∀ e ∈ b'.statement.children, e.Orderly deep :=
    fun e mem => now.statement.children e (h.mem_children mem)
  refine ⟨?_, ⟨predicates, ?_, ?_, ?_, children⟩, bound⟩
  · rw [same]
    exact now.columns
  · rw [same]
    exact now.statement.filters
  · rw [same]
    exact now.statement.having_
  · rw [same]
    exact now.statement.assigned

/-- A join gets a predicate. -/
theorem Orderly.attach (now : b.Orderly deep env) {p : TypedExpr}
    (attached : b.attach p.expr = .ok b') (faithful : p.Faithful deep)
    (value : p.type.isValue = true) : b'.Orderly deep env := by
  have children : ∀ e ∈ b'.statement.children, e.Orderly deep := by
    intro e mem
    rcases mem_children_attach attached mem with old | rfl
    · exact now.statement.children e old
    · exact faithful.orderly
  obtain ⟨i, rest, j, _, _, rfl⟩ := attach_eq_ok_iff.1 attached
  refine { now with
    statement := { now.statement with children, predicates := fun r mem q child => ?_ } }
  rcases List.mem_or_eq_of_mem_set mem with old | rfl
  · exact now.statement.predicates r old q child
  · rw [List.mem_singleton.1 child]
    exact faithful.value value

/-- The finished statement. -/
theorem Orderly.finish (now : b.Orderly deep env) {columns : List Expr}
    (orderly : ∀ c ∈ columns, c.Orderly deep) : (b.finish columns).Orderly deep :=
  { now.statement with
    children := fun e mem => (mem_children_finish mem).elim (now.statement.children e) (orderly e) }

theorem Orderly.columns_finish (now : b.Orderly deep env) (columns : List Expr) :
    (b.finish columns).columns = columns := by
  show b.statement.columns ++ columns = columns
  rw [now.columns, List.nil_append]

end Builder

namespace SubqueryForm

variable {deep : Prop} (form : SubqueryForm) {inner : Builder} {env : Env}

theorem orderly_finish (now : inner.Orderly deep env) {columns : List Expr}
    (orderly : ∀ c ∈ columns, c.Orderly deep) : (form.finish inner columns).Orderly deep := by
  have distinct : inner.distinct.Orderly deep env := ⟨now.columns, { now.statement with }, now.bound⟩
  cases form with
  | existence negated => exact now.finish orderly
  | scalar different t =>
    cases different with
    | false => exact now.finish orderly
    | true => exact distinct.finish orderly

theorem columns_finish (now : inner.Orderly deep env) (columns : List Expr) :
    (form.finish inner columns).columns = columns := by
  cases form with
  | existence negated => exact now.columns_finish columns
  | scalar different t =>
    cases different with
    | false | true => exact now.columns_finish columns

end SubqueryForm

/-! ### Every course -/

namespace Course

variable {deep : Prop} {rule : Call → Prop} {b b' : Builder} {env env' : Env}

/-- **Calls keep a builder and its variables orderly**, whatever they are and whichever of them fail. -/
theorem orderly (taken : ∀ t, rule (.column t) → t.isValue = true ∨ deep)
    (h : Course rule b env b' env') : b.Orderly deep env → b'.Orderly deep env' := by
  induction h with
  | andThen _ _ ih₁ ih₂ => exact fun now => ih₂ (ih₁ now)
  | evaluate made =>
    intro now
    exact { now with bound := fun v mem => (made v mem).faithful taken now.bound }
  | introduce shape b env _ =>
    intro now
    have rows :=
      forall_bindRows (shape.introduce b).2 (fun l _ => TypedExpr.Faithful.ofScope l.2) now.bound
    exact (Builder.extends_introduce shape b).orderly now rows
  | register operand b env _ =>
    intro now
    have rows :=
      forall_bindRows (operand.register b).leaves (fun l _ => TypedExpr.Faithful.ofScope l.2) now.bound
    exact (Builder.extends_register operand b).orderly now rows
  | attach made _ attached =>
    intro now
    exact now.attach attached (made.faithful taken now.bound) rfl
  | filter made =>
    intro now
    have faithful := made.faithful taken now.bound
    have filters := List.forall_mem_append.2
      ⟨now.statement.filters, List.forall_mem_singleton.2 (faithful.value rfl)⟩
    refine { now with statement := { now.statement with filters, children := fun e mem => ?_ } }
    rcases Builder.mem_children_filter mem with old | rfl
    · exact now.statement.children e old
    · exact faithful.orderly
  | group made _ =>
    intro now
    refine { now with statement := { now.statement with children := fun e mem => ?_ } }
    rcases Builder.mem_children_group mem with old | rfl
    · exact now.statement.children e old
    · exact (made.faithful taken now.bound).orderly
  | having made =>
    intro now
    have faithful := made.faithful taken now.bound
    have having_ := List.forall_mem_append.2
      ⟨now.statement.having_, List.forall_mem_singleton.2 (faithful.value rfl)⟩
    refine { now with statement := { now.statement with having_, children := fun e mem => ?_ } }
    rcases Builder.mem_children_having mem with old | rfl
    · exact now.statement.children e old
    · exact faithful.orderly
  | order made =>
    intro now
    refine { now with statement := { now.statement with children := fun e mem => ?_ } }
    rcases Builder.mem_children_order mem with old | ⟨t, member, rfl⟩
    · exact now.statement.children e old
    · obtain ⟨e, made, _, same⟩ := made t member
      rw [same]
      exact (made.faithful taken now.bound).orderly
  | limit | offset | distinct =>
    intro now
    exact ⟨now.columns, { now.statement with }, now.bound⟩
  | @assign b env as _ made =>
    intro now
    have assigned : ∀ a ∈ b.statement.assignments ++ as, a.value.row? = none := by
      refine List.forall_mem_append.2 ⟨now.statement.assigned, fun a mem => ?_⟩
      obtain ⟨_, _, _, e, made, value, same⟩ := made a mem
      rw [same]
      exact (made.faithful taken now.bound).value value
    refine { now with statement := { now.statement with assigned, children := fun e mem => ?_ } }
    rcases Builder.mem_children_assign mem with old | ⟨a, member, here⟩
    · exact now.statement.children e old
    · obtain ⟨r, made_row, target, v, made, _, value⟩ := made a member
      rcases here with rfl | rfl
      · rw [target]
        exact (made_row.faithful taken now.bound).orderly
      · rw [value]
        exact (made.faithful taken now.bound).orderly
  | isolated _ ih =>
    intro now
    have within := ih ⟨now.columns, now.statement, now.bound⟩
    exact ⟨within.columns, within.statement, within.bound⟩
  | abandoned _ ih =>
    intro now
    exact { now with bound := (ih (.startWith .select _ now.bound)).bound }
  | @subquery b inner env env' x form columns course made ih =>
    intro now
    have within := ih (.startWith .select _ now.bound)
    have select : (form.finish inner columns).kind = .select :=
      (form.kind_finish inner columns).trans course.kind
    have orderly : ∀ c ∈ columns, c.Orderly deep := by
      intro c mem
      obtain ⟨e, made, rfl⟩ := made.each c mem
      exact (made.faithful taken within.bound).orderly
    refine { now with bound := List.forall_mem_cons.2 ⟨?_, within.bound⟩ }
    refine form.faithful_embed select (form.orderly_finish within orderly) fun distinct t scalar => ?_
    rw [scalar] at made
    obtain ⟨value, e, made, type, only⟩ := made
    have typed : e.type.isValue = true := by
      rw [type]
      exact value
    have noRow := (made.faithful taken within.bound).value typed
    exact ⟨value, e.expr, (form.columns_finish within columns).trans only, noRow⟩

end Course

/-! ### Every statement -/

section Statements

variable {deep : Prop} {rule : Call → Prop} {kind : StatementKind} {r : Projection TypedExpr}
  {q : Statement Expr}

/-- The variables that earlier statements have left are faithful. -/
theorem Arises.faithful (taken : ∀ t, rule (.column t) → t.isValue = true ∨ deep) {env : Env}
    (h : Arises rule env) : ∀ v ∈ env, v.2.Faithful deep := by
  induction h with
  | nothing =>
    intro v mem
    cases mem
  | ran _ ran kept ih =>
    exact ((runAll_course _ _ _ _ ran kept).orderly taken (.startWith _ _ ih)).bound
  | returned _ evaluated kept ih =>
    obtain ⟨_, bound⟩ := Projection.eval_made _ _ _ _ evaluated kept
    exact fun v mem => (bound v mem).faithful taken ih

/-- What is built is the end of an orderly builder, and what is returned is faithful. -/
theorem Builds.orderly_builder (taken : ∀ t, rule (.column t) → t.isValue = true ∨ deep)
    (built : Builds rule kind r q) : ∃ (b : Builder) (env : Env), b.Orderly deep env ∧
      b.statement.kind = kind ∧ (∀ e ∈ r.leaves, e.Faithful deep) ∧
      (kind = .select ∨ r.leaves = []) ∧ q = b.finish (r.leaves.map TypedExpr.expr) := by
  obtain ⟨env, arises, built⟩ := built
  obtain ⟨aliases, b, env', course, made, fits, rfl⟩ := built.course
  have orderly := course.orderly taken (.startWith kind aliases (arises.faithful taken))
  have faithful := fun e leaf => (made e leaf).faithful taken orderly.bound
  exact ⟨b, env', orderly, course.kind, faithful, fits, rfl⟩

/-- What the body returns becomes the columns, and there are no others. -/
theorem Builds.columns_eq (built : Builds rule kind r q) :
    q.columns = r.leaves.map TypedExpr.expr := by
  obtain ⟨b, env, orderly, _, _, _, rfl⟩ := built.orderly_builder fun _ _ => .inr trivial
  exact orderly.columns_finish _

end Statements

/-! ### Rendering -/

/-- A renderer sees of an expression whether it is a row. -/
theorem Expr.row?_piece (e : Expr) : e.piece.row? = e.row? := by
  obtain ⟨n⟩ := e
  rw [piece_node]
  cases n with
  | field base name =>
    show (Piece.ofNode (.field base.piece name)).row? = none
    rw [Piece.ofNode]
    cases base.piece.row? with
    | none | some s => rfl
  | inList e vs negated =>
    cases vs with
    | nil | cons v vs => rfl
  | _ => rfl

/-- A select list of one value. -/
theorem Statement.columnTokens_one {c : Expr} (h : c.row? = none) :
    columnTokens ([c].map Expr.piece) = c.piece.tokens.get.map fun ts => [ts] := by
  rw [List.map_singleton, columnTokens, c.row?_piece, h, columnTokens]
  cases c.piece.tokens.get with
  | error e => rfl
  | ok ts => rfl

/-- The operand that a node makes of its operands when `compound` is put for the field of what is no
row. -/
def Piece.ofNodeWith (compound : Piece → String → Piece) : Node Piece → Piece
  | .field base name => if base.row?.isSome then ofNode (.field base name) else compound base name
  | n => ofNode n

theorem Piece.ofNodeWith_field {compound : Piece → String → Piece} {base : Piece} {name : String}
    (row : base.row?.isSome = true) :
    ofNodeWith compound (.field base name) = ofNode (.field base name) := if_pos row

/-- **The form for a field of what is no row is not needed** for an orderly expression in which no field
holds a row. -/
theorem Expr.piece_eq_foldWith (compound : Piece → String → Piece) (e : Expr) :
    e.Orderly False → e.fold (Piece.ofNodeWith compound) = e.piece := by
  induction e using Expr.node_induction with
  | step n ih =>
    intro orderly
    have inside : ∀ e ∈ n.children, e.fold (Piece.ofNodeWith compound) = e.piece :=
      fun e child => ih e child fun m deeper => orderly m (.within child deeper)
    rw [Expr.fold_node, (Node.map_related inside).eq, Expr.piece_node]
    cases n with
    | field base name =>
      -- the base is a row, and the renderer sees it
      obtain ⟨s, rfl⟩ := ((orderly _ (.here _)).base base name rfl).resolve_right And.left
      have row : (Expr.node (.row s)).piece.row?.isSome = true := by
        rw [Expr.row?_piece]
        rfl
      exact Piece.ofNodeWith_field row
    | _ => rfl

/-- Nor is it for such a statement. -/
theorem Statement.Orderly.tokens_eq {q : Statement Expr} (h : q.Orderly False)
    (compound : Piece → String → Piece) :
    (q.map (Expr.fold (Piece.ofNodeWith compound))).pieceTokens = q.tokens := by
  have same : ∀ e ∈ q.children, e.fold (Piece.ofNodeWith compound) = e.piece :=
    fun e mem => e.piece_eq_foldWith compound (h.children e mem)
  rw [(Statement.map_related same).eq]
  rfl

/-- The field of a row is written as a column of its table. -/
theorem Expr.tokens_field_row (s : Scope) (name : String) :
    (Expr.node (.field (.node (.row s)) name)).piece.tokens.get =
      .ok (Render.columnReference s name) := by
  rw [piece_node]
  rfl

/-- The field of what is no row is written behind it. -/
theorem Expr.tokens_field {base : Expr} (noRow : base.row? = none) (name : String) :
    (Expr.node (.field base name)).piece.tokens.get = base.piece.tokens.get.map fun ts =>
      Render.parenthesized ts ++ [.mark .dot, .name name] := by
  rw [piece_node, Node.map, Piece.ofNode, row?_piece, noRow]
  show (base.piece.tokens.get >>= fun ts => _) = _
  cases base.piece.tokens.get with
  | error e | ok ts => rfl

/-- Rows stand in the places of rows, and what follows for the text. -/
structure Statement.RowsInPlace (q : Statement Expr) : Prop where
  /-- Each row stands in a place, either of the statement or of a node in it. -/
  stands : ∀ s, q.Contains (.row s) → (∃ place, q.at? place = some (.node (.row s))) ∨
    ∃ n place, q.Contains n ∧ n.at? place = some (.node (.row s))
  /-- A place in which a row stands is one of rows, whether it is one of the statement, -/
  outermost : ∀ place s, q.at? place = some (.node (.row s)) → place.takesRow q.kind = true
  /-- or one of a node. -/
  inside : ∀ n, q.Contains n → ∀ place s, n.at? place = some (.node (.row s)) →
    n.takesRow place = true
  /-- Each field is that of a row, and is written as a column of its table, or that of a row which
  another field holds, and is written behind that one. -/
  fields : ∀ base name, q.Contains (.field base name) →
    (∃ s, base = .node (.row s) ∧
      (Expr.node (.field base name)).piece.tokens.get = .ok (Render.columnReference s name)) ∨
    ∃ b f, base = .node (.field b f) ∧
      (Expr.node (.field base name)).piece.tokens.get = base.piece.tokens.get.map fun ts =>
        Render.parenthesized ts ++ [.mark .dot, .name name]
  /-- A sub-query that is used as a value has one column, no row, which is all of its select list. -/
  values : ∀ inner, q.Contains (.subquery inner) → ∃ c, inner.columns = [c] ∧ c.row? = none ∧
    Statement.columnTokens (inner.columns.map Expr.piece) = c.piece.tokens.get.map fun ts => [ts]

/-- All fields are those of rows, and what follows for the text. -/
structure Statement.FieldsOfRows (q : Statement Expr) : Prop where
  /-- Each field is that of a row and is written as a column of its table. -/
  fields : ∀ base name, q.Contains (.field base name) → ∃ s, base = .node (.row s) ∧
    (Expr.node (.field base name)).piece.tokens.get = .ok (Render.columnReference s name)
  /-- The form for other fields is never written: the text is the same with anything in its place. -/
  compound : ∀ compound, (q.map (Expr.fold (Piece.ofNodeWith compound))).pieceTokens = q.tokens

section Statements

variable {deep : Prop} {rule : Call → Prop} {kind : StatementKind} {r : Projection TypedExpr}
  {q : Statement Expr}

/-- What is built is orderly. -/
theorem Builds.orderly (taken : ∀ t, rule (.column t) → t.isValue = true ∨ deep)
    (built : Builds rule kind r q) : q.Orderly deep ∧ (q.kind = .select ∨ q.columns = []) := by
  have columns := built.columns_eq
  obtain ⟨b, env, orderly, kinds, faithful, fits, rfl⟩ := built.orderly_builder taken
  refine ⟨orderly.finish (List.forall_mem_map.2 fun e leaf => (faithful e leaf).orderly), ?_⟩
  rw [columns]
  exact fits.imp kinds.trans fun none => by rw [none, List.map_nil]

/-- A node of an orderly statement is orderly. -/
theorem Statement.Orderly.node (h : q.Orderly deep) {n : Node Expr} (contained : q.Contains n) :
    n.Orderly deep := by
  obtain ⟨e, mem, inside⟩ := contained
  exact h.children e mem n inside

/-- **Rows stand in the places of rows** in every statement that is built, whatever calls are made and
wherever the rows come from.  As long as the fields that are taken hold values, they are those of
rows. -/
theorem Builds.rows_in_place (built : Builds rule kind r q) :
    q.RowsInPlace ∧ ((∀ t, rule (.column t) → t.isValue = true) → q.FieldsOfRows) := by
  constructor
  · have taken : ∀ t, rule (.column t) → t.isValue = true ∨ True := fun _ _ => .inr trivial
    obtain ⟨whole, columns⟩ := built.orderly taken
    refine ⟨fun s h => h.stands, fun place s => whole.takesRow columns,
      fun n h => (whole.node h).rows, fun base name h => ?_, fun inner h => ?_⟩
    · obtain ⟨s, rfl⟩ | ⟨_, b, f, rfl⟩ := (whole.node h).base base name rfl
      · exact .inl ⟨s, rfl, Expr.tokens_field_row s name⟩
      · exact .inr ⟨b, f, rfl, Expr.tokens_field rfl name⟩
    · obtain ⟨c, only, noRow⟩ := (whole.node h).column inner rfl
      refine ⟨c, only, noRow, ?_⟩
      rw [only]
      exact Statement.columnTokens_one noRow
  · intro values
    have taken : ∀ t, rule (.column t) → t.isValue = true ∨ False := fun t kept =>
      .inl (values t kept)
    obtain ⟨whole, _⟩ := built.orderly taken
    refine ⟨fun base name h => ?_, whole.tokens_eq⟩
    obtain ⟨s, rfl⟩ := ((whole.node h).base base name rfl).resolve_right And.left
    exact ⟨s, rfl, Expr.tokens_field_row s name⟩

end Statements

/-- People without a pet, grouped and ordered by what they are, with the highest age of all. -/
def petless : Program :=
  let person (x : String) : Operand String :=
    .table ⟨"person", [⟨"id", .int, false⟩, ⟨"age", .int, true⟩]⟩ x
  { kind := .select
    body := [
      .introduce (.single
        (.join .leftOuter (person "p") (.nullable ⟨"pet", [⟨"owner", .int, false⟩]⟩ "pet"))),
      .attach (.compare .equal (.projectMaybe (.var "pet") "owner" none)
        (.just (.project (.var "p") "id" none))),
      .subquery "others" (.existence false) [.introduce (.single (person "q"))] (.leaf (.var "q")),
      .subquery "highest" (.scalar false (.option (.scalar .int)))
        [.introduce (.single (person "r"))]
        (.leaf (.aggregate .maximum (.project (.var "r") "age" none))),
      .filter (.logical .and (.var "others") (.isNothing (.var "pet"))),
      .group (.var "p"),
      .order [(.descending, .var "p")]]
    result := .tuple [.leaf (.var "p"), .leaf (.var "highest")] }

/-- A field that is taken holds a value. -/
def Call.takesValue : Call → Bool
  | .column t => t.isValue
  | _ => true

/-- There are rows in all the places of rows but that of an assignment, and the test for absence is the
first of them that has no text. -/
theorem Builds.rows_in_place_petless :
    ∃ r q, Builds (fun c => c.takesValue = true) .select r q ∧
      ((q.at? (.grouping 0)).bind Expr.row?).map Scope.table = some "person" ∧
      q.render .default = .error (.rowAsScalar "pet") ∧ q.RowsInPlace ∧ q.FieldsOfRows := by
  have found : petless.statement?.map (fun q =>
      (((q.at? (.grouping 0)).bind Expr.row?).map Scope.table, q.render .default)) =
      some (some "person", .error (.rowAsScalar "pet")) := by
    decide +kernel
  have values : petless.calls.all Call.takesValue = true := by decide +kernel
  obtain ⟨q, statement, same⟩ := Option.map_eq_some_iff.1 found
  obtain ⟨group, unwritten⟩ := Prod.mk.inj same
  obtain ⟨r, built⟩ := petless.builds_of_statement? statement (List.all_eq_true.1 values)
  obtain ⟨places, fields⟩ := built.rows_in_place
  exact ⟨r, q, built, group, unwritten, places, fields fun _ kept => kept⟩

/-- The titles of the posts that people hold in a field. -/
def heldTitles : Program :=
  { kind := .select
    body := [.introduce (.single (.table ⟨"person", [⟨"id", .int, false⟩]⟩ "p"))]
    result := .leaf (.project
      (.project (.var "p") "post" (some (.row ⟨"post", [⟨"title", .text, false⟩]⟩))) "title" none) }

/-- **A field of a field is written behind parentheses.**  Its base is no row. -/
theorem Builds.field_of_field : ∃ r q, Builds (fun _ => True) .select r q ∧
    q.render .default = .ok ⟨"SELECT (person.post).title FROM person", []⟩ ∧
    ∃ base name, q.Contains (.field base name) ∧ ¬ ∃ s, base = .node (.row s) := by
  obtain ⟨q, base, statement, rendered, columns, noRow⟩ : ∃ q base, heldTitles.statement? = some q ∧
      q.render .default = .ok ⟨"SELECT (person.post).title FROM person", []⟩ ∧
      q.columns = [.node (.field base "title")] ∧ base.row? = none :=
    ⟨_, _, rfl, by decide +kernel, rfl, rfl⟩
  obtain ⟨r, built⟩ := heldTitles.builds_of_statement? statement fun _ _ => trivial
  have column : Expr.node (.field base "title") ∈ q.children := by
    rw [Statement.mem_children, columns]
    exact .inl List.mem_cons_self
  refine ⟨r, q, built, rendered, base, "title", ⟨_, column, .here _⟩, ?_⟩
  rintro ⟨s, row⟩
  exact Expr.ne_row_of_row? noRow row

end SqlBuilder
