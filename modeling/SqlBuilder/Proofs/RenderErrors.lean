import SqlBuilder.Proofs.Results
import SqlBuilder.Proofs.SourceTrees
import SqlBuilder.Sql.Render

/-!
# Where the errors of a renderer come from

The renderer has errors of its own and passes on those of the parts of a statement.  Whether an error
can come up at all is decided part by part: given a class of errors, a statement is writable in it
when its parts have errors of this class only, and then so does the statement.

* `Piece.Writes E`, `Piece.Lists E` : an operand as a scalar and as a result column has errors in `E`
  only;
* `Piece.writes_ofNode` : operations pass on the errors of their operands;
* `Statement.Writable E` : the parts of a statement have errors in `E` only, and its joins and roots
  are where they should be;
* **`Statement.selectTokens_failsOnly`** : so does the statement as a SELECT;
* **`Statement.pieceTokens_failsOnly`** : so does a statement of any kind, provided `E` has all errors
  but those of statements that no calls build.
-/

namespace SqlBuilder

/-- Whether an error tells of a statement that no calls build: a position without registration, a join
that has itself among its operands, at which rendering never ends, or a sub-query that is no SELECT. -/
def RenderError.isInternal : RenderError → Bool
  | .danglingRegistration _ | .endlessJoin _ | .subqueryNotSelect _ => true
  | _ => false

variable {E : RenderError → Prop}

variable (E) in
/-- An operand whose tokens have errors of a class only. -/
def Piece.Writes (p : Piece) : Prop := Except.FailsOnly E p.tokens.get

variable (E) in
/-- An operand that is a whole row or has errors of a class only. -/
def Piece.Lists (p : Piece) : Prop := p.row? = none → p.Writes E

open Except.FailsOnly (ok error)

/-! ### Operands -/

namespace Render

theorem separated_failsOnly (separator : List Token) {ps : List Piece} (h : ∀ p ∈ ps, p.Writes E) :
    Except.FailsOnly E (separated separator ps) :=
  (Except.FailsOnly.mapM h).bind fun _ => ok _

theorem clause_failsOnly (opening : List Keyword) {ps : List Piece} {body : List Piece → Rendering}
    (h : Except.FailsOnly E (body ps)) : Except.FailsOnly E (clause opening ps body) := by
  rw [clause]
  split
  · exact ok []
  · exact h.bind fun _ => ok _

theorem around_failsOnly {l r : Piece} (op : Token) (left : l.Writes E) (right : r.Writes E) :
    Except.FailsOnly E (around l op r) :=
  Except.FailsOnly.bind left fun _ => Except.FailsOnly.bind right fun _ => ok _

end Render

open Render

namespace Piece

/-- **Operations pass on the errors of their operands** and have none of their own. -/
theorem writes_ofNode {n : Node Piece} (op : n.isOperation = true)
    (h : ∀ p ∈ n.children, p.Writes E) : (ofNode n).Writes E := by
  cases n with
  | row s | field base name | isNull e | subquery q | existence q negated => cases op
  | literal v | countRows => exact ok _
  | compare l op r | logical l op r | arithmetic l op r =>
    exact around_failsOnly _ (h l List.mem_cons_self)
      (h r (List.mem_cons_of_mem _ (List.mem_singleton_self r)))
  | not e | aggregate f distinct e =>
    exact Except.FailsOnly.bind (h e (List.mem_singleton_self e)) fun _ => ok _
  | inList e vs negated =>
    cases vs with
    | nil => exact ok _
    | cons v vs => exact Except.FailsOnly.bind (h e (List.mem_singleton_self e)) fun _ => ok _
  | coalesce es => exact (separated_failsOnly comma h).bind fun _ => ok _

/-- A column may belong to a whole row. -/
theorem writes_field {base : Piece} (h : base.Lists E) (name : String) :
    (ofNode (.field base name)).Writes E := by
  rw [ofNode]
  cases found : base.row? with
  | some s => exact ok _
  | none => exact Except.FailsOnly.bind (h found) fun _ => ok _

theorem writes_isNull {e : Piece} (h : e.Writes E) : (ofNode (.isNull e)).Writes E :=
  Except.FailsOnly.bind h fun _ => ok _

end Piece

/-! ### Statements -/

namespace Statement

variable {ε : Type}

/-- A statement whose joins and roots are where they should be, and whose parts can be written or
listed but for errors of a class. -/
structure Writable (E : RenderError → Prop) (writes lists : ε → Prop) (q : Statement ε) : Prop where
  grounded : q.source.Grounded
  predicates : ∀ i (j : Join ε) p, q.source.get? i = some (.join j) → j.predicate = some p →
    writes p ∧ (j.kind = .cross → E .crossJoinWithPredicate)
  columns : ∀ c ∈ q.columns, lists c
  filters : ∀ p ∈ q.filters, writes p
  grouping : ∀ e ∈ q.grouping, writes e
  having_ : ∀ p ∈ q.having, writes p
  ordering : ∀ t ∈ q.ordering, writes t.expr
  assignments : ∀ a ∈ q.assignments, writes a.value ∧ ∀ k, E (.assignmentsOutsideUpdate k)

/-- A statement with no clause yet. -/
theorem Writable.empty {writes lists : ε → Prop} (kind : StatementKind) :
    (Statement.empty kind).Writable E writes lists where
  grounded := .empty
  predicates i j p at_i := by cases at_i
  columns c mem := by cases mem
  filters p mem := by cases mem
  grouping e mem := by cases mem
  having_ p mem := by cases mem
  ordering t mem := by cases mem
  assignments a mem := by cases mem

/-- Replacing what stands in the places. -/
theorem Writable.map {α β : Type} {f : α → β} {writes lists : β → Prop} {q : Statement α}
    (h : q.Writable E (fun a => writes (f a)) (fun a => lists (f a))) :
    (q.map f).Writable E writes lists := by
  have found {i : Nat} {j : Join β} (at_i : (q.map f).source.get? i = some (.join j)) :
      ∃ j', q.source.get? i = some (.join j') ∧ j = j'.map f := by
    have at_i' : (q.source.registrations.map (Registration.map f))[i]? = some (.join j) := at_i
    rw [List.getElem?_map, Option.map_eq_some_iff] at at_i'
    obtain ⟨r, here, same⟩ := at_i'
    cases r with
    | scope s => cases same
    | join j' =>
      cases same
      exact ⟨j', here, rfl⟩
  refine ⟨⟨fun i j at_i => ?_, fun r mem => ?_⟩, fun i j p at_i has => ?_,
    List.forall_mem_map.2 h.columns, List.forall_mem_map.2 h.filters,
    List.forall_mem_map.2 h.grouping, List.forall_mem_map.2 h.having_,
    List.forall_mem_map.2 h.ordering, List.forall_mem_map.2 h.assignments⟩
  · obtain ⟨j', at_i', rfl⟩ := found at_i
    exact h.grounded.operands i j' at_i'
  · show r < (q.source.registrations.map _).length
    rw [List.length_map]
    exact h.grounded.roots r mem
  · obtain ⟨j', at_i', rfl⟩ := found at_i
    obtain ⟨p', has', rfl⟩ := Option.map_eq_some_iff.1 has
    exact h.predicates i j' p' at_i' has'

end Statement

/-! ### The from-clause -/

theorem joinTokens_failsOnly (kind : JoinKind) (left right : List Token) (nested : Bool)
    {predicate : Option Piece} (h : ∀ p, predicate = some p →
      p.Writes E ∧ (kind = .cross → E .crossJoinWithPredicate)) :
    Except.FailsOnly E (joinTokens kind left right nested predicate) := by
  cases predicate with
  | none => exact ok _
  | some p =>
    obtain ⟨writes, cross⟩ := h p rfl
    cases kind with
    | cross => exact error (cross rfl)
    | inner | leftOuter | rightOuter | fullOuter => exact Except.FailsOnly.bind writes fun _ => ok _

/-- The tokens of a tree whose joins have earlier operands. -/
theorem FromClause.tokensWithin_failsOnly {c : FromClause Piece} (grounded : c.Grounded)
    (predicates : ∀ i (j : Join Piece) p, c.get? i = some (.join j) → j.predicate = some p →
      p.Writes E ∧ (j.kind = .cross → E .crossJoinWithPredicate)) :
    ∀ depth id : Nat, id < depth → id < c.registrations.length →
      Except.FailsOnly E (c.tokensWithin depth id) := by
  intro depth
  induction depth with
  | zero =>
    intro id lt
    omega
  | succ depth ih =>
    intro id lt registered
    rw [tokensWithin]
    cases at_id : c.get? id with
    | none =>
      have beyond := List.getElem?_eq_none_iff.1 at_id
      omega
    | some r =>
      cases r with
      | scope s => exact ok _
      | join j =>
        obtain ⟨left, right⟩ := grounded.operands id j at_id
        apply (ih j.left (by omega) (by omega)).bind
        intro l
        apply (ih j.right (by omega) (by omega)).bind
        intro r
        exact joinTokens_failsOnly _ _ _ _ fun p has => predicates id j p at_id has

/-! ### The three kinds of statements -/

namespace Statement

theorem columnTokens_failsOnly {ps : List Piece} (h : ∀ p ∈ ps, p.Lists E) :
    Except.FailsOnly E (columnTokens ps) := by
  induction ps with
  | nil => exact ok []
  | cons p ps ih =>
    obtain ⟨first, rest⟩ := List.forall_mem_cons.1 h
    rw [columnTokens]
    cases found : p.row? with
    | some s => exact (ih rest).bind fun _ => ok _
    | none => exact Except.FailsOnly.bind (first found) fun _ => (ih rest).bind fun _ => ok _

theorem orderTokens_failsOnly {ts : List (OrderTerm Piece)} (h : ∀ t ∈ ts, t.expr.Writes E) :
    Except.FailsOnly E (orderTokens ts) := by
  rw [orderTokens]
  split
  · exact ok []
  · refine (Except.FailsOnly.mapM fun t mem => ?_).bind fun _ => ok _
    exact Except.FailsOnly.bind (h t mem) fun _ => ok _

variable {q : Statement Piece}

theorem fromTokens_failsOnly (h : q.Writable E (Piece.Writes E) (Piece.Lists E)) :
    Except.FailsOnly E (fromTokens q.source) := by
  rw [fromTokens]
  split
  · exact ok []
  · refine (Except.FailsOnly.mapM fun r mem => ?_).bind fun _ => ok _
    have registered := h.grounded.roots r mem
    exact FromClause.tokensWithin_failsOnly h.grounded h.predicates _ r (by omega) registered

/-- **The errors of a SELECT** are those of its parts. -/
theorem selectTokens_failsOnly (h : q.Writable E (Piece.Writes E) (Piece.Lists E)) :
    Except.FailsOnly E q.selectTokens := by
  rw [selectTokens]
  cases assigned : q.assignments with
  | cons a as =>
    obtain ⟨_, outside⟩ := h.assignments a (by rw [assigned]; exact List.mem_cons_self)
    exact error (outside q.kind)
  | nil =>
    have columns : Except.FailsOnly E (selectList q.columns) :=
      (columnTokens_failsOnly h.columns).bind fun _ => ok _
    show Except.FailsOnly E q.selectClauses
    apply columns.bind
    intro _
    apply (fromTokens_failsOnly h).bind
    intro _
    apply (clause_failsOnly _ (separated_failsOnly _ h.filters)).bind
    intro _
    apply (clause_failsOnly _ (separated_failsOnly _ h.grouping)).bind
    intro _
    apply (clause_failsOnly _ (separated_failsOnly _ h.having_)).bind
    intro _
    apply (orderTokens_failsOnly h.ordering).bind
    intro _
    exact ok _

/-- A sub-query that is a SELECT has the errors of its parts. -/
theorem nestedTokens_failsOnly (select : q.kind = .select)
    (h : q.Writable E (Piece.Writes E) (Piece.Lists E)) : Except.FailsOnly E q.nestedTokens := by
  rw [nestedTokens, if_pos select]
  exact selectTokens_failsOnly h

section AnyKind

variable (lenient : ∀ e : RenderError, e.isInternal = false → E e)
include lenient

/-- The table of an UPDATE or a DELETE is missing only where calls have left it out. -/
theorem target_failsOnly (h : q.source.Grounded) : Except.FailsOnly E q.target := by
  rw [target]
  split
  · exact error (lenient _ rfl)
  · split
    · rename_i root only
      have registered := h.roots root (by rw [only]; exact List.mem_singleton_self root)
      split
      · exact ok _
      · exact error (lenient _ rfl)
      · rename_i missing
        have beyond := List.getElem?_eq_none_iff.1 missing
        omega
    · exact error (lenient _ rfl)

theorem assignmentTokens_failsOnly (s : Scope) {a : Assignment Piece} (h : a.value.Writes E) :
    Except.FailsOnly E (assignmentTokens s a) := by
  rw [assignmentTokens]
  split
  · exact Except.FailsOnly.bind h fun _ => ok _
  · exact error (lenient _ rfl)

theorem updateTokens_failsOnly (h : q.Writable E (Piece.Writes E) (Piece.Lists E)) :
    Except.FailsOnly E q.updateTokens := by
  rw [updateTokens]
  split
  · exact error (lenient _ rfl)
  · apply (target_failsOnly lenient h.grounded).bind
    intro s
    have assigned : ∀ a ∈ q.assignments, Except.FailsOnly E (assignmentTokens s a) :=
      fun a mem => assignmentTokens_failsOnly lenient s (h.assignments a mem).1
    apply (Except.FailsOnly.mapM assigned).bind
    intro _
    apply (clause_failsOnly _ (separated_failsOnly _ h.filters)).bind
    intro _
    exact ok _

theorem deleteTokens_failsOnly (h : q.Writable E (Piece.Writes E) (Piece.Lists E)) :
    Except.FailsOnly E q.deleteTokens := by
  rw [deleteTokens]
  split
  · apply (target_failsOnly lenient h.grounded).bind
    intro _
    apply (clause_failsOnly _ (separated_failsOnly _ h.filters)).bind
    intro _
    exact ok _
  · exact error (lenient _ rfl)

/-- **The errors of a statement of any kind** are those of its parts and those of calls that do not fit
its kind. -/
theorem pieceTokens_failsOnly (h : q.Writable E (Piece.Writes E) (Piece.Lists E)) :
    Except.FailsOnly E q.pieceTokens := by
  rw [pieceTokens]
  cases q.kind with
  | select => exact selectTokens_failsOnly h
  | update => exact updateTokens_failsOnly lenient h
  | delete => exact deleteTokens_failsOnly lenient h

end AnyKind

end Statement

end SqlBuilder
