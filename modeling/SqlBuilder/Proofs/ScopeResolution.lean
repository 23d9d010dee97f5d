import SqlBuilder.Proofs.EmbeddedStatements
import SqlBuilder.Sql.Render

/-!
# References mean the tables they were made from

A handle on a row may end up anywhere: in a sub-query of the statement that it belongs to, in a
sub-query of a sub-query, and many times over where a sub-query is used more than once.  Wherever its
statement is around it, its alias leads a reader of the text to the right table.  This rests on one book
of aliases for a statement and its sub-queries.  A sub-query that was made for another statement had
another book, and an alias of it may be the one that is looked for.

* `Expr.Within K` : all statements embedded in an expression are apart, with aliases in `K`;
* `Builder.Hygienic outer` : what holds of a builder and its variables inside statements that hold the
  aliases `outer`;
* `Course.hygienic` : calls keep a builder hygienic as long as all tables are listed at top level;
* **`BuildsFrom.reference_resolves`** : in a statement whose sub-queries are all its own, references are
  resolved to the statements that hold their tables;
* **`Builds.reference_captured`** : a sub-query of another statement may hide the table that is meant.
-/

namespace SqlBuilder

/-! ### Expressions -/

section Expressions

variable {K K' : String → Prop} {n : Node Expr} {q : Statement Expr}

variable (K) in
/-- All statements embedded in an expression are apart, with aliases of a class. -/
def Expr.Within (e : Expr) : Prop := ∀ q, e.Embeds q → q.Apart ∧ ∀ a ∈ q.aliases, K a

theorem Expr.Within.mono {e : Expr} (h : e.Within K) (weaker : ∀ a, K a → K' a) : e.Within K' := by
  intro q embedded
  obtain ⟨apart, aliases⟩ := h q embedded
  exact ⟨apart, fun a mem => weaker a (aliases a mem)⟩

/-- An expression in which no statement is embedded. -/
def Expr.Plain (e : Expr) : Prop := ∀ q, ¬ e.Embeds q

theorem Expr.Plain.within {e : Expr} (h : e.Plain) : e.Within K :=
  fun q embedded => absurd embedded (h q)

/-- A node without a statement of its own. -/
theorem Expr.within_of_operands (plain : n.statement? = none)
    (h : ∀ e ∈ n.children, e.Within K) : (Expr.node n).Within K := by
  intro q embedded
  cases embedded with
  | here found =>
    rw [plain] at found
    cases found
  | within mem deeper => exact h _ mem q deeper

/-- A node with a statement. -/
theorem Expr.within_of_statement (found : n.statement? = some q) (apart : q.Apart)
    (own : ∀ a ∈ q.aliases, K a) (h : ∀ e ∈ q.children, e.Within K) : (Expr.node n).Within K := by
  intro r embedded
  cases embedded with
  | here found' =>
    rw [found] at found'
    cases found'
    exact ⟨apart, own⟩
  | within mem deeper =>
    rw [Node.children_of_statement? found] at mem
    exact h _ mem r deeper

theorem Node.statement?_of_isOperation {ε : Type} {n : Node ε} (op : n.isOperation = true) :
    n.statement? = none := by
  cases n with
  | subquery q | existence q negated => cases op
  | _ => rfl

/-- What is made from expressions embeds what they embed. -/
theorem Made.within {rule : Call → Prop} {env : Env} {e : TypedExpr}
    (bound : ∀ v ∈ env, v.2.expr.Within K) (h : Made rule env e) : e.expr.Within K := by
  induction h with
  | «variable» mem => exact bound _ mem
  | just _ ih => exact ih
  | column _ _ _ _ ih | isNothing _ _ ih =>
    apply Expr.within_of_operands rfl
    intro e mem
    rw [List.mem_singleton.1 mem]
    exact ih
  | operation as _ op operands _ _ ih =>
    apply Expr.within_of_operands (Node.statement?_of_isOperation op)
    rw [operands]
    exact List.forall_mem_map.2 ih

/-- A row embeds nothing. -/
theorem TypedExpr.plain_ofScope (s : Scope) : (TypedExpr.ofScope s).expr.Plain := by
  intro q embedded
  cases embedded with
  | here found => cases found
  | within mem _ => cases mem

end Expressions

/-! ### What the clauses of a builder hold -/

namespace Builder

variable {b b' : Builder} {e : Expr}

/-- Where nothing but the from-clause differs, no expression comes in. -/
theorem Extends.mem_children (h : Extends b b') (mem : e ∈ b'.statement.children) :
    e ∈ b.statement.children := by
  obtain ⟨source, same⟩ := h.clauses
  rw [Statement.mem_children] at mem ⊢
  have predicates : (∃ r ∈ b'.statement.source.registrations, e ∈ r.children) →
      ∃ r ∈ b.statement.source.registrations, e ∈ r.children := by
    rintro ⟨r, mem, child⟩
    obtain ⟨i, at_i⟩ := List.mem_iff_getElem?.1 mem
    cases r with
    | scope s => cases child
    | join j =>
      have old := h.predicates i j e at_i (Option.mem_toList.1 child)
      exact ⟨.join j, List.mem_of_getElem? old, child⟩
  have others : b'.statement = { b.statement with source := b'.statement.source } := by
    rw [same]
  rw [others] at mem
  exact mem.imp_right fun mem => mem.imp_left predicates

/-- A predicate that a join takes comes in. -/
theorem mem_children_attach {p : Expr} (attached : b.attach p = .ok b')
    (mem : e ∈ b'.statement.children) : e ∈ b.statement.children ∨ e = p := by
  obtain ⟨i, rest, j, _, at_i, rfl⟩ := attach_eq_ok_iff.1 attached
  rw [Statement.mem_children] at mem ⊢
  rcases mem with column | ⟨r, registered, child⟩ | clause
  · exact .inl (.inl column)
  · rcases List.mem_or_eq_of_mem_set registered with old | rfl
    · exact .inl (.inr (.inl ⟨r, old, child⟩))
    · exact .inr (List.mem_singleton.1 child)
  · exact .inl (.inr (.inr clause))

theorem mem_children_filter {p : Expr} (mem : e ∈ (b.filter p).statement.children) :
    e ∈ b.statement.children ∨ e = p := by
  simp only [Statement.mem_children, filter, update, List.mem_append, List.mem_singleton] at mem ⊢
  grind

theorem mem_children_group {g : Expr} (mem : e ∈ (b.group g).statement.children) :
    e ∈ b.statement.children ∨ e = g := by
  simp only [Statement.mem_children, group, update, List.mem_append, List.mem_singleton] at mem ⊢
  grind

theorem mem_children_having {p : Expr} (mem : e ∈ (b.having p).statement.children) :
    e ∈ b.statement.children ∨ e = p := by
  simp only [Statement.mem_children, having, update, List.mem_append, List.mem_singleton] at mem ⊢
  grind

theorem mem_children_order {ts : List (OrderTerm Expr)}
    (mem : e ∈ (b.order ts).statement.children) :
    e ∈ b.statement.children ∨ ∃ t ∈ ts, t.expr = e := by
  simp only [Statement.mem_children, order, update, List.mem_append, or_and_right, exists_or]
    at mem ⊢
  grind

theorem mem_children_assign {as : List (Assignment Expr)}
    (mem : e ∈ (b.assign as).statement.children) :
    e ∈ b.statement.children ∨ ∃ a ∈ as, e = a.target ∨ e = a.value := by
  simp only [Statement.mem_children, assign, update, List.mem_append, or_and_right, exists_or]
    at mem ⊢
  grind

theorem mem_children_finish {columns : List Expr} (mem : e ∈ (b.finish columns).children) :
    e ∈ b.statement.children ∨ e ∈ columns := by
  simp only [Statement.mem_children, finish, List.mem_append] at mem ⊢
  grind

end Builder

/-- A finished sub-query holds what its builder held, and its columns. -/
theorem SubqueryForm.mem_children_finish (form : SubqueryForm) {inner : Builder}
    {columns : List Expr} {e : Expr} (mem : e ∈ (form.finish inner columns).children) :
    e ∈ inner.statement.children ∨ e ∈ columns := by
  cases form with
  | existence negated => exact Builder.mem_children_finish mem
  | scalar distinct t =>
    cases distinct with
    | false => exact Builder.mem_children_finish mem
    | true =>
      have only : e ∈ inner.distinct.statement.children ∨ e ∈ columns :=
        Builder.mem_children_finish mem
      exact only

theorem SubqueryForm.source_finish (form : SubqueryForm) (inner : Builder)
    (columns : List Expr) : (form.finish inner columns).source = inner.source := by
  cases form with
  | existence negated => rfl
  | scalar distinct t =>
    cases distinct with
    | false => rfl
    | true => rfl

/-! ### Hygiene -/

namespace Builder

/-- The aliases that statements embedded in the expressions of a builder may have: they were handed
out, but neither to the builder's own tables nor to those of the statements around it. -/
def Foreign (outer : List String) (b : Builder) (a : String) : Prop :=
  a ∈ b.aliases.issued ∧ a ∉ outer ++ b.statement.aliases

/-- A builder inside statements that hold the aliases `outer`, with its variables. -/
structure Hygienic (outer : List String) (b : Builder) (env : Env) : Prop where
  own_nodup : b.statement.aliases.Nodup
  own_apart : ∀ a ∈ b.statement.aliases, a ∉ outer
  issued : ∀ a ∈ outer ++ b.statement.aliases, a ∈ b.aliases.issued
  clauses : ∀ e ∈ b.statement.children, e.Within (b.Foreign outer)
  bound : ∀ v ∈ env, v.2.expr.Within (b.Foreign outer)

namespace Hygienic

variable {outer : List String} {b b' inner : Builder} {env env' : Env}

/-- The empty builder of a statement, with variables that embed no statement. -/
theorem startWith (kind : StatementKind) (aliases : AliasBook) (plain : ∀ v ∈ env, v.2.expr.Plain) :
    Hygienic [] (.startWith kind aliases) env where
  own_nodup := List.nodup_nil
  own_apart a mem := by cases mem
  issued a mem := by cases mem
  clauses e mem := by cases mem
  bound v mem := (plain v mem).within

/-- Calls other than those that bring tables in. -/
theorem clause (h : Hygienic outer b env) (aliases : b'.aliases = b.aliases)
    (scopes : b'.scopes = b.scopes) (clauses : ∀ e ∈ b'.statement.children,
      e ∈ b.statement.children ∨ e.Within (b.Foreign outer)) : Hygienic outer b' env := by
  have own : b'.statement.aliases = b.statement.aliases := congrArg (List.map Scope.aliasName) scopes
  have foreign : b'.Foreign outer = b.Foreign outer := by
    funext a
    rw [Foreign, Foreign, own, aliases]
  constructor
  case own_nodup => rw [own]; exact h.own_nodup
  case own_apart => rw [own]; exact h.own_apart
  case issued => rw [own, aliases]; exact h.issued
  case clauses =>
    intro e mem
    rw [foreign]
    rcases clauses e mem with old | new
    · exact h.clauses e old
    · exact new
  case bound => rw [foreign]; exact h.bound

/-- Other variables. -/
theorem rebound (h : Hygienic outer b env) (bound : ∀ v ∈ env', v.2.expr.Within (b.Foreign outer)) :
    Hygienic outer b env' := { h with bound := bound }

/-- A shape brings in tables under aliases that nothing has. -/
theorem introduce (h : Hygienic outer b env) (shape : Shape String) :
    Hygienic outer (shape.introduce b).1 (bindRows (shape.introduce b).2 env) := by
  have issues := shape.introduce_issues b
  have extends_ := extends_introduce shape b
  obtain ⟨fresh, same⟩ : ∃ fresh, fresh = ((shape.introduce b).2.map Prod.snd).map Scope.aliasName :=
    ⟨_, rfl⟩
  have own : (shape.introduce b).1.statement.aliases = b.statement.aliases ++ fresh := by
    show (shape.introduce b).1.scopes.map Scope.aliasName = b.scopes.map Scope.aliasName ++ fresh
    rw [shape.introduce_scopes, List.map_append, same]
  have issued : (shape.introduce b).1.aliases.issued = fresh.reverse ++ b.aliases.issued := by
    rw [issues.issued, same]
  have nodup : fresh.Nodup := by
    rw [same]
    exact issues.nodup
  have new : ∀ a ∈ fresh, a ∉ b.aliases.issued := by
    rw [same]
    exact issues.unissued
  have foreign : ∀ a, b.Foreign outer a → (shape.introduce b).1.Foreign outer a := by
    intro a ⟨old, apart⟩
    refine ⟨?_, fun mem => ?_⟩
    · rw [issued]
      exact List.mem_append_right _ old
    · rw [own, ← List.append_assoc] at mem
      rcases List.mem_append.1 mem with known | here
      · exact apart known
      · exact new a here old
  constructor
  case own_nodup =>
    rw [own]
    refine List.nodup_append.2 ⟨h.own_nodup, nodup, ?_⟩
    rintro a mem _ here rfl
    exact new a here (h.issued a (List.mem_append_right _ mem))
  case own_apart =>
    intro a mem known
    rw [own] at mem
    rcases List.mem_append.1 mem with old | here
    · exact h.own_apart a old known
    · exact new a here (h.issued a (List.mem_append_left _ known))
  case issued =>
    intro a mem
    rw [own, ← List.append_assoc] at mem
    rw [issued]
    rcases List.mem_append.1 mem with old | here
    · exact List.mem_append_right _ (h.issued a old)
    · exact List.mem_append_left _ (List.mem_reverse.2 here)
  case clauses =>
    intro e mem
    exact (h.clauses e (extends_.mem_children mem)).mono foreign
  case bound =>
    exact forall_bindRows (P := fun e => e.expr.Within _) _ (fun l _ => (TypedExpr.plain_ofScope l.2).within)
      fun v mem => (h.bound v mem).mono foreign

/-- A sub-query begins, inside one statement more. -/
theorem nested (h : Hygienic outer b env) :
    Hygienic (outer ++ b.statement.aliases) b.nested env where
  own_nodup := List.nodup_nil
  own_apart a mem := by cases mem
  issued a mem := by
    rw [show b.nested.statement.aliases = [] from rfl, List.append_nil] at mem
    exact h.issued a mem
  clauses e mem := by cases mem
  bound v mem := by
    refine (h.bound v mem).mono fun a foreign => ⟨foreign.1, ?_⟩
    rw [show b.nested.statement.aliases = [] from rfl, List.append_nil]
    exact foreign.2

/-- What is foreign in a sub-query is foreign in the statement around it, and so are the tables of the
sub-query. -/
theorem foreign_resumed (within : Hygienic (outer ++ b.statement.aliases) inner env') :
    (∀ a, inner.Foreign (outer ++ b.statement.aliases) a → (b.resumed inner).Foreign outer a) ∧
      ∀ a ∈ inner.statement.aliases, (b.resumed inner).Foreign outer a := by
  constructor
  · intro a ⟨issued, apart⟩
    exact ⟨issued, fun mem => apart (List.mem_append_left _ mem)⟩
  · intro a mem
    exact ⟨within.issued a (List.mem_append_right _ mem), within.own_apart a mem⟩

/-- A sub-query is over. -/
theorem resumed (h : Hygienic outer b env) (issued : ∀ a ∈ b.aliases.issued, a ∈ inner.aliases.issued)
    (within : Hygienic (outer ++ b.statement.aliases) inner env') :
    Hygienic outer (b.resumed inner) env' where
  own_nodup := h.own_nodup
  own_apart := h.own_apart
  issued a mem := issued a (h.issued a mem)
  clauses e mem := (h.clauses e mem).mono fun a foreign => ⟨issued a foreign.1, foreign.2⟩
  bound v mem := (within.bound v mem).mono (foreign_resumed within).1

/-- The finished statement of a builder is apart from those embedded in it. -/
theorem apart {q : Statement Expr} (h : Hygienic outer b env) (listed : b.Listed)
    (source : q.source = b.source) (children : ∀ e ∈ q.children, e.Within (b.Foreign outer)) :
    q.Apart := by
  have own : q.aliases = b.statement.aliases := by
    rw [Statement.aliases, source]
    rfl
  constructor
  case exposes =>
    rw [q.exposes_eq, source, listed.listed]
    rfl
  case nodup =>
    rw [own]
    exact h.own_nodup
  case disjoint =>
    rintro r ⟨e, mem, embedded⟩ a known here
    obtain ⟨_, foreign⟩ := children e mem r embedded
    rw [own] at here
    exact (foreign a known).2 (List.mem_append_right _ here)

end Hygienic

end Builder

/-! ### Every course -/

namespace Course

open Builder (Hygienic)

variable {rule : Call → Prop} {b b' : Builder} {env env' : Env}

/-- No alias that was handed out is taken back. -/
theorem issued (h : Course rule b env b' env') :
    ∀ a ∈ b.aliases.issued, a ∈ b'.aliases.issued := by
  induction h with
  | andThen _ _ ih₁ ih₂ => exact fun a mem => ih₂ a (ih₁ a mem)
  | introduce shape b env _ =>
    intro a mem
    rw [(shape.introduce_issues b).issued]
    exact List.mem_append_right _ mem
  | register operand b env _ =>
    intro a mem
    rw [(operand.register_issues b).issued]
    exact List.mem_append_right _ mem
  | attach _ _ attached =>
    obtain ⟨_, _, _, _, _, rfl⟩ := Builder.attach_eq_ok_iff.1 attached
    exact fun a mem => mem
  | isolated _ ih | abandoned _ ih | subquery _ _ _ _ ih => exact ih
  | evaluate | filter | group | having | order | limit | offset | distinct | assign =>
    exact fun a mem => mem

/-- **Calls that list all that they register at top level** keep a builder hygienic. -/
theorem hygienic (only : ∀ operand, ¬ rule (.register operand)) (h : Course rule b env b' env') :
    ∀ outer, b.Listed → Hygienic outer b env → Hygienic outer b' env' := by
  induction h with
  | andThen first _ ih₁ ih₂ =>
    intro outer listed now
    exact ih₂ outer (first.listed only listed) (ih₁ outer listed now)
  | evaluate made =>
    intro outer _ now
    exact now.rebound fun v mem => (made v mem).within now.bound
  | introduce shape b env _ =>
    intro outer _ now
    exact now.introduce shape
  | register operand b env kept => exact absurd kept (only operand)
  | attach made _ attached =>
    intro outer _ now
    refine now.clause ?_ (Builder.scopes_attach attached) fun e mem => ?_
    · obtain ⟨_, _, _, _, _, rfl⟩ := Builder.attach_eq_ok_iff.1 attached
      rfl
    · rcases Builder.mem_children_attach attached mem with old | rfl
      · exact .inl old
      · exact .inr (made.within now.bound)
  | filter made =>
    intro outer _ now
    refine now.clause rfl rfl fun e mem => (Builder.mem_children_filter mem).imp_right ?_
    rintro rfl
    exact made.within now.bound
  | group made _ =>
    intro outer _ now
    refine now.clause rfl rfl fun e mem => (Builder.mem_children_group mem).imp_right ?_
    rintro rfl
    exact made.within now.bound
  | having made =>
    intro outer _ now
    refine now.clause rfl rfl fun e mem => (Builder.mem_children_having mem).imp_right ?_
    rintro rfl
    exact made.within now.bound
  | order made =>
    intro outer _ now
    refine now.clause rfl rfl fun e mem => (Builder.mem_children_order mem).imp_right ?_
    rintro ⟨t, member, rfl⟩
    obtain ⟨e, made, _, same⟩ := made t member
    rw [same]
    exact made.within now.bound
  | assign _ made =>
    intro outer _ now
    refine now.clause rfl rfl fun e mem => (Builder.mem_children_assign mem).imp_right ?_
    rintro ⟨a, member, same⟩
    obtain ⟨r, made_row, target, e, made, _, value⟩ := made a member
    rcases same with rfl | rfl
    · rw [target]
      exact made_row.within now.bound
    · rw [value]
      exact made.within now.bound
  | limit | offset | distinct =>
    intro outer _ now
    exact now.clause rfl rfl fun e mem => .inl mem
  | isolated _ ih =>
    intro outer listed now
    have within := ih outer ⟨listed.1, listed.2⟩ (now.clause rfl rfl fun e mem => .inl mem)
    exact within.clause rfl rfl fun e mem => .inl mem
  | @abandoned b inner env env' course ih =>
    intro outer _ now
    exact now.resumed course.issued (ih _ (.startWith .select b.aliases) now.nested)
  | @subquery b inner env env' x form columns course made ih =>
    intro outer _ now
    have within := ih _ (.startWith .select b.aliases) now.nested
    have listed := course.listed only (.startWith .select b.aliases)
    have children : ∀ e ∈ (form.finish inner columns).children,
        e.Within (inner.Foreign (outer ++ b.statement.aliases)) := by
      intro e mem
      rcases form.mem_children_finish mem with old | column
      · exact within.clauses e old
      · obtain ⟨e, made, rfl⟩ := made.each e column
        exact made.within within.bound
    have source := form.source_finish inner columns
    have apart := within.apart listed source children
    obtain ⟨foreign, own⟩ := within.foreign_resumed
    refine (now.resumed course.issued within).rebound (List.forall_mem_cons.2 ⟨?_, ?_⟩)
    · have aliases : (form.finish inner columns).aliases = inner.statement.aliases := by
        rw [Statement.aliases, source]
        rfl
      have embedded : (form.embed (form.finish inner columns)).expr.Within
          ((b.resumed inner).Foreign outer) := by
        rw [← aliases] at own
        have children' := fun e mem => (children e mem).mono foreign
        cases form with
        | existence negated => exact Expr.within_of_statement rfl apart own children'
        | scalar distinct t => exact Expr.within_of_statement rfl apart own children'
      exact embedded
    · exact (now.resumed course.issued within).bound

end Course

/-! ### Every statement -/

/-- A call that lists at top level all the tables it brings in. -/
def Call.lists : Call → Bool
  | .register _ => false
  | _ => true

/-- **References mean the tables they were made from.**  Take a statement that is built without
registering a table that it does not list, and from variables that embed no statement, so that all its
sub-queries are its own.  Take a reference somewhere inside, in sub-queries at any depth.  If one of the
statements around the reference holds its table, then going outward the first statement whose
from-clause exposes the alias is this one, and it exposes the alias once, for this table. -/
theorem BuildsFrom.reference_resolves {rule : Call → Prop} {env : Env} {kind : StatementKind}
    {r : Projection TypedExpr} {q : Statement Expr} {s : Scope} {place : Statement.Place}
    {path : List Node.Place} {chain : List (Statement Expr)} (built : BuildsFrom rule env kind r q)
    (listing : ∀ c, rule c → c.lists = true) (own : ∀ v ∈ env, v.2.expr.Plain)
    (reference : q.referenceAt? place path = some (s, chain))
    (registered : ∃ r ∈ chain, s ∈ r.source.scopes) : Resolves s chain := by
  have only : ∀ operand, ¬ rule (.register operand) := by
    intro operand kept
    cases listing _ kept
  obtain ⟨aliases, b, env', course, made, _, rfl⟩ := built.course
  have listed := course.listed only (.startWith kind aliases)
  have now := course.hygienic only [] (.startWith kind aliases) (.startWith kind aliases own)
  have children : ∀ e ∈ (b.finish (r.leaves.map TypedExpr.expr)).children,
      e.Within (b.Foreign []) := by
    intro e mem
    rcases Builder.mem_children_finish mem with old | column
    · exact now.clauses e old
    · obtain ⟨e, leaf, rfl⟩ := List.mem_map.1 column
      exact (made e leaf).within now.bound
  obtain ⟨around, nested⟩ := Statement.isNested_referenceAt? reference
  refine resolves_of_apart nested (fun r mem => ?_) registered
  rcases around r mem with rfl | ⟨e, child, embedded⟩
  · exact now.apart listed rfl children
  · exact (children e child r embedded).1

/-- People with a namesake and without an older one: the sub-query for the namesake stands in the
statement and once more in its other sub-query. -/
def eldest : Program :=
  let person (x : String) : Operand String :=
    .table ⟨"person", [⟨"id", .int, false⟩, ⟨"name", .text, false⟩]⟩ x
  let field (x name : String) : Term := .project (.var x) name none
  { kind := .select
    body := [
      .introduce (.single (person "p")),
      .subquery "namesake" (.existence false)
        [.introduce (.single (person "q")),
          .filter (.compare .equal (field "q" "name") (field "p" "name"))] .unit,
      .subquery "alone" (.existence true)
        [.introduce (.single (person "r")),
          .filter (.logical .and (.var "namesake")
            (.compare .less (field "r" "id") (field "p" "id")))] .unit,
      .filter (.logical .and (.var "namesake") (.var "alone"))]
    result := .leaf (.var "p") }

/-- The reference to the outermost table in the innermost of three statements is resolved. -/
theorem BuildsFrom.reference_resolves_eldest :
    ∃ r q s chain, BuildsFrom (fun c => c.lists = true) [] .select r q ∧
      q.referenceAt? (.filter 0) [.operand 1, .within (.filter 0), .operand 0, .within (.filter 0),
        .operand 1, .operand 0] = some (s, chain) ∧ (∃ r ∈ chain, s ∈ r.source.scopes) ∧
      s.aliasName = "person" ∧
      chain.map Statement.aliases = [["person2"], ["person3"], ["person"]] ∧ Resolves s chain := by
  have found : (eldest.statement?.bind fun q =>
      (q.referenceAt? (.filter 0) [.operand 1, .within (.filter 0), .operand 0, .within (.filter 0),
        .operand 1, .operand 0]).map fun r => (r.1.aliasName, r.2.map Statement.aliases,
          r.2.any fun q => q.source.scopes.contains r.1)) =
        some ("person", [["person2"], ["person3"], ["person"]], true) := by decide +kernel
  have listing : eldest.calls.all Call.lists = true := by decide +kernel
  obtain ⟨q, built, found⟩ := Option.bind_eq_some_iff.1 found
  obtain ⟨⟨s, chain⟩, reference, same⟩ := Option.map_eq_some_iff.1 found
  simp only [Prod.mk.injEq] at same
  obtain ⟨name, aliases, registered⟩ := same
  obtain ⟨r, mem, holds⟩ := List.any_eq_true.1 registered
  have registered : ∃ r ∈ chain, s ∈ r.source.scopes := ⟨r, mem, List.contains_iff_mem.1 holds⟩
  obtain ⟨r, built⟩ := eldest.buildsFrom_of_statement? built (List.all_eq_true.1 listing)
  have own : ∀ v ∈ ([] : Env), v.2.expr.Plain := List.forall_mem_nil _
  exact ⟨r, q, s, chain, built, reference, registered, name, aliases,
    built.reference_resolves (fun _ kept => kept) own reference registered⟩

/-- A reference is not resolved if the statement right around it has the alias for something else. -/
theorem not_resolves_of_captured {s : Scope} {inner : Statement Expr} {outer : List (Statement Expr)}
    (other : s ∉ inner.source.scopes) (captured : s.aliasName ∈ inner.exposes.map Prod.snd) :
    ¬ Resolves s (inner :: outer) := by
  rintro ⟨before, q, after, split, hidden, holds, _⟩
  cases before with
  | nil =>
    cases split
    exact other holds
  | cons r before =>
    cases split
    exact hidden _ List.mem_cons_self captured

/-- The bodies of three statements.  The first brings in a person, the second makes a sub-query over
tags and persons that asks for the name of this one, and the third is about a person of its own, whom
the sub-query is meant to ask for. -/
def taggedNamesakes : List Step × List Step × List Step :=
  let person (x : String) : Operand String :=
    .table ⟨"person", [⟨"id", .bigInt, false⟩, ⟨"name", .text, false⟩]⟩ x
  let name (x : String) : Term := .project (.var x) "name" none
  ([.introduce (.single (person "p"))],
    [.subquery "namesake" (.existence false)
      [.introduce (.tuple [.table ⟨"tag", [⟨"id", .bigInt, false⟩]⟩ "t", person "r"]),
        .filter (.compare .equal (name "p") (name "r"))] .unit],
    [.introduce (.single (person "p")), .filter (.var "namesake")])

/-- **A sub-query of another statement hides the table that is meant.**  The name of the person around
it is read as that of its own person, since both have the alias that books give first. -/
theorem Builds.reference_captured : ∃ r q s inner,
    Builds (fun c => c.lists = true) .select r q ∧
    q.render .default = .ok ⟨"SELECT person.id, person.name FROM person WHERE (EXISTS (" ++
      "SELECT 1 FROM tag, person WHERE (person.name = person.name)))", []⟩ ∧
    q.referenceAt? (.filter 0) [.within (.filter 0), .operand 0, .operand 0] =
      some (s, [inner, q]) ∧ s ∈ q.source.scopes ∧ ¬ Resolves s [inner, q] := by
  -- each body begins with an empty book and with the variables that the one before it leaves
  obtain ⟨first, second, third, r, env, s, inner, ran₁, kept₁, ran₂, kept₂, ran₃, kept₃, evaluated,
      rendered, reference, holds, other, captured⟩ :
      ∃ first second third r env s inner,
        runAll taggedNamesakes.1 (.startWith .select .empty) [] = .ok first ∧
        (callsAll taggedNamesakes.1 (.startWith .select .empty) []).all Call.lists = true ∧
        runAll taggedNamesakes.2.1 (.startWith .select .empty) first.env = .ok second ∧
        (callsAll taggedNamesakes.2.1 (.startWith .select .empty) first.env).all Call.lists = true ∧
        runAll taggedNamesakes.2.2 (.startWith .select .empty) second.env = .ok third ∧
        (callsAll taggedNamesakes.2.2 (.startWith .select .empty) second.env).all Call.lists = true ∧
        (Projection.leaf (Term.var "p")).eval third.env = .ok (r, env) ∧
        (third.builder.finish (r.leaves.map TypedExpr.expr)).render .default =
          .ok ⟨"SELECT person.id, person.name FROM person WHERE (EXISTS (" ++
            "SELECT 1 FROM tag, person WHERE (person.name = person.name)))", []⟩ ∧
        (third.builder.finish (r.leaves.map TypedExpr.expr)).referenceAt? (.filter 0)
          [.within (.filter 0), .operand 0, .operand 0] =
            some (s, [inner, third.builder.finish (r.leaves.map TypedExpr.expr)]) ∧
        s ∈ third.builder.source.scopes ∧ s ∉ inner.source.scopes ∧
        s.aliasName ∈ inner.exposes.map Prod.snd :=
    ⟨_, _, _, _, _, _, _, rfl, by decide +kernel, rfl, by decide +kernel, rfl, by decide +kernel, rfl,
      by decide +kernel, rfl, by decide +kernel, by decide +kernel, by decide +kernel⟩
  have arises := (Arises.nothing.ran ran₁ (List.all_eq_true.1 kept₁)).ran ran₂
    (List.all_eq_true.1 kept₂)
  have built : BuildsFrom (fun c => c.lists = true) second.env .select r _ :=
    .mk ran₃ (List.all_eq_true.1 kept₃) rfl evaluated (List.forall_mem_nil _)
  exact ⟨r, _, s, inner, ⟨_, arises, built⟩, rendered, reference, holds,
    not_resolves_of_captured other captured⟩

end SqlBuilder
