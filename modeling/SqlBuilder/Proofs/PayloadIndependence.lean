import SqlBuilder.Proofs.AlikeRendering
import SqlBuilder.Proofs.Places

/-!
# No value reaches the text

A statement whose literals are exchanged for others keeps its text.  Blanking a statement forgets of
every literal all but whether it is null, so two statements that are equal once blanked differ in the
payloads of corresponding literals at most; a position says which literals correspond.

* `Expr.blanked`, `Statement.blanked` : expressions and statements without their payloads;
* `Statement.Position`, `Statement.valueAt?` : where a value stands in a statement;
* `Expr.alike_piece` : expressions that are equal once blanked are rendered alike, and whatever holds
  of the values at corresponding positions holds of the values that are bound;
* **`Statement.render_of_blanked_eq`** : statements that are equal once blanked fail for the same
  reason, or have one text and parameters from the same positions.
-/

namespace SqlBuilder

/-! ### Blanking -/

/-- Of a value only whether it is null. -/
def Value.blanked (v : Value) : Value := if v.isNull then .null else .bool true

theorem Value.isNull_eq_of_blanked_eq {v w : Value} (h : v.blanked = w.blanked) :
    v.isNull = w.isNull := by
  rw [blanked, blanked] at h
  by_cases hv : v.isNull = true
  · by_cases hw : w.isNull = true
    · rw [hv, hw]
    · rw [if_pos hv, if_neg hw] at h
      cases h
  · by_cases hw : w.isNull = true
    · rw [if_neg hv, if_pos hw] at h
      cases h
    · rw [Bool.not_eq_true] at hv hw
      rw [hv, hw]

/-- A node with its own values blanked. -/
def Node.blanked {ε : Type} : Node ε → Node ε
  | .literal v => .literal v.blanked
  | .inList e vs negated => .inList e (vs.map Value.blanked) negated
  | n => n

/-- An expression with all its values blanked, those of sub-queries included. -/
def Expr.blanked : Expr → Expr := Expr.fold fun n => .node n.blanked

/-- A statement with all its values blanked. -/
def Statement.blanked (q : Statement Expr) : Statement Expr := q.map Expr.blanked

/-! ### Positions -/

/-- The value of a given number in the node that a path leads to. -/
def Expr.valueAt? : List Node.Place → Nat → Expr → Option Value
  | [], i, .node n => n.values[i]?
  | p :: path, i, .node n => (n.at? p).bind (Expr.valueAt? path i)

/-- Where a value stands in a statement: the place of an expression, the path down from there, and
the number of the value in the node found. -/
structure Statement.Position where
  place : Statement.Place
  path : List Node.Place
  number : Nat

/-- The value at a position. -/
def Statement.valueAt? (q : Statement Expr) (p : Statement.Position) : Option Value :=
  (q.at? p.place).bind (Expr.valueAt? p.path p.number)

/-! ### Equal once blanked -/

section Blanked

variable {α β γ : Type} {R : β → β → Prop} {f : α → γ} {g : α → β}

/-- Lists with one image under a map are related member by member where members with one image
are. -/
theorem forall₂_map_of_map_eq {R : β → β → Prop} {f : α → γ} {g : α → β} {as bs : List α}
    (h : as.map f = bs.map f)
    (each : ∀ (i : Nat) a b, as[i]? = some a → bs[i]? = some b → f a = f b → R (g a) (g b)) :
    List.Forall₂ R (as.map g) (bs.map g) := by
  induction as generalizing bs with
  | nil =>
    cases bs with
    | nil => exact .nil
    | cons b bs => cases h
  | cons a as ih =>
    cases bs with
    | nil => cases h
    | cons b bs =>
      rw [List.map_cons, List.map_cons] at h
      obtain ⟨here, later⟩ := List.cons_eq_cons.1 h
      exact .cons (each 0 a b rfl rfl here) (ih later fun i a b ha hb => each (i + 1) a b ha hb)

/-- Registrations with one image are related where predicates with one image are. -/
theorem Registration.related_of_map_eq {r r' : Registration α} (h : r.map f = r'.map f)
    (each : ∀ j j' : Join α, r = .join j → r' = .join j' → ∀ a b, j.predicate = some a →
      j'.predicate = some b → f a = f b → R (g a) (g b)) :
    Registration.Related R (r.map g) (r'.map g) := by
  cases r with
  | scope s =>
    cases r' with
    | scope s' =>
      cases h
      exact .scope s
    | join j' => cases h
  | join j =>
    cases r' with
    | scope s' => cases h
    | join j' =>
      obtain ⟨kind, left, right, predicate⟩ := j
      obtain ⟨kind', left', right', predicate'⟩ := j'
      have fields := Join.mk.inj (Registration.join.inj h)
      obtain ⟨rfl, rfl, rfl, predicates⟩ := fields
      refine .join kind left right ?_
      cases predicate with
      | none =>
        cases predicate' with
        | none => exact .none
        | some b => cases predicates
      | some a =>
        cases predicate' with
        | none => cases predicates
        | some b => exact .some (each _ _ rfl rfl a b rfl rfl (Option.some.inj predicates))

/-- Statements with one image are related where what stands in their places is. -/
theorem Statement.related_of_map_eq {q q' : Statement α} (h : q.map f = q'.map f)
    (each : ∀ p a b, q.at? p = some a → q'.at? p = some b → f a = f b → R (g a) (g b)) :
    Statement.Related R (q.map g) (q'.map g) := by
  constructor
  case kind =>
    show (q.map f).kind = (q'.map f).kind
    exact congrArg Statement.kind h
  case distinct =>
    show (q.map f).distinct = (q'.map f).distinct
    exact congrArg Statement.distinct h
  case roots =>
    show (q.map f).source.roots = (q'.map f).source.roots
    exact congrArg (FromClause.roots ∘ Statement.source) h
  case limit =>
    show (q.map f).limit = (q'.map f).limit
    exact congrArg Statement.limit h
  case offset =>
    show (q.map f).offset = (q'.map f).offset
    exact congrArg Statement.offset h
  case columns =>
    exact forall₂_map_of_map_eq (congrArg Statement.columns h) fun i => each (.column i)
  case filters =>
    exact forall₂_map_of_map_eq (congrArg Statement.filters h) fun i => each (.filter i)
  case grouping =>
    exact forall₂_map_of_map_eq (congrArg Statement.grouping h) fun i => each (.grouping i)
  case having_ =>
    exact forall₂_map_of_map_eq (congrArg Statement.having h) fun i => each (.having i)
  case registrations =>
    have images : q.source.registrations.map (Registration.map f) =
        q'.source.registrations.map (Registration.map f) :=
      congrArg (FromClause.registrations ∘ Statement.source) h
    refine forall₂_map_of_map_eq images fun i r r' hr hr' same => ?_
    refine Registration.related_of_map_eq same fun j j' ej ej' a b ha hb => ?_
    have found : q.at? (.predicate i) = some a := by
      show (q.source.registrations[i]?).bind _ = _
      rw [hr, ej]
      exact ha
    have found' : q'.at? (.predicate i) = some b := by
      show (q'.source.registrations[i]?).bind _ = _
      rw [hr', ej']
      exact hb
    exact each _ a b found found'
  case ordering =>
    have images : q.ordering.map (OrderTerm.map f) = q'.ordering.map (OrderTerm.map f) :=
      congrArg Statement.ordering h
    refine forall₂_map_of_map_eq images fun i t t' ht ht' same => ?_
    obtain ⟨exprs, order⟩ := OrderTerm.mk.inj same
    refine ⟨each (.ordering i) t.expr t'.expr ?_ ?_ exprs, order⟩
    · show q.ordering[i]?.map _ = _
      rw [ht]
      rfl
    · show q'.ordering[i]?.map _ = _
      rw [ht']
      rfl
  case assignments =>
    have images : q.assignments.map (Assignment.map f) = q'.assignments.map (Assignment.map f) :=
      congrArg Statement.assignments h
    refine forall₂_map_of_map_eq images fun i a a' ha ha' same => ?_
    obtain ⟨targets, field, op, values⟩ := Assignment.mk.inj same
    refine ⟨each (.target i) a.target a'.target ?_ ?_ targets, field, op,
      each (.assigned i) a.value a'.value ?_ ?_ values⟩
    · show q.assignments[i]?.map _ = _
      rw [ha]
      rfl
    · show q'.assignments[i]?.map _ = _
      rw [ha']
      rfl
    · show q.assignments[i]?.map _ = _
      rw [ha]
      rfl
    · show q'.assignments[i]?.map _ = _
      rw [ha']
      rfl

variable {V : Value → Value → Prop}

/-- Nodes with one image once blanked are alike where what stands in their places is, and where
their own values are related. -/
theorem Node.alike_of_blanked_eq {n n' : Node α} (h : (n.map f).blanked = (n'.map f).blanked)
    (each : ∀ p a b, n.at? p = some a → n'.at? p = some b → f a = f b → R (g a) (g b))
    (values : ∀ (i : Nat) v w, n.values[i]? = some v → n'.values[i]? = some w →
      v.blanked = w.blanked → V v w) :
    Node.Alike V R (n.map g) (n'.map g) := by
  have first {a b : α} (ha : n.at? (.operand 0) = some a) (hb : n'.at? (.operand 0) = some b)
      (same : f a = f b) : R (g a) (g b) := each (.operand 0) a b ha hb same
  have second {a b : α} (ha : n.at? (.operand 1) = some a) (hb : n'.at? (.operand 1) = some b)
      (same : f a = f b) : R (g a) (g b) := each (.operand 1) a b ha hb same
  cases n with
  | row s =>
    cases n' with
    | row s' =>
      cases h
      exact .other rfl (.row s)
    | _ => cases h
  | field base name =>
    cases n' with
    | field base' name' =>
      obtain ⟨same, rfl⟩ := Node.field.inj h
      exact .other rfl (.field name (first rfl rfl same))
    | _ => cases h
  | literal v =>
    cases n' with
    | literal w => exact .literal (values 0 v w rfl rfl (Node.literal.inj h))
    | _ => cases h
  | compare l op r =>
    cases n' with
    | compare l' op' r' =>
      obtain ⟨left, rfl, right⟩ := Node.compare.inj h
      exact .other rfl (.compare op (first rfl rfl left) (second rfl rfl right))
    | _ => cases h
  | logical l op r =>
    cases n' with
    | logical l' op' r' =>
      obtain ⟨left, rfl, right⟩ := Node.logical.inj h
      exact .other rfl (.logical op (first rfl rfl left) (second rfl rfl right))
    | _ => cases h
  | not e =>
    cases n' with
    | not e' => exact .other rfl (.not (first rfl rfl (Node.not.inj h)))
    | _ => cases h
  | arithmetic l op r =>
    cases n' with
    | arithmetic l' op' r' =>
      obtain ⟨left, rfl, right⟩ := Node.arithmetic.inj h
      exact .other rfl (.arithmetic op (first rfl rfl left) (second rfl rfl right))
    | _ => cases h
  | isNull e =>
    cases n' with
    | isNull e' => exact .other rfl (.isNull (first rfl rfl (Node.isNull.inj h)))
    | _ => cases h
  | countRows =>
    cases n' with
    | countRows => exact .other rfl .countRows
    | _ => cases h
  | aggregate func distinct e =>
    cases n' with
    | aggregate func' distinct' e' =>
      obtain ⟨rfl, rfl, same⟩ := Node.aggregate.inj h
      exact .other rfl (.aggregate func distinct (first rfl rfl same))
    | _ => cases h
  | inList e vs negated =>
    cases n' with
    | inList e' ws negated' =>
      obtain ⟨same, members, rfl⟩ := Node.inList.inj h
      have related : List.Forall₂ V (vs.map id) (ws.map id) :=
        forall₂_map_of_map_eq members fun i v w hv hw => values i v w hv hw
      rw [List.map_id, List.map_id] at related
      exact .inList negated (first rfl rfl same) related
    | _ => cases h
  | coalesce es =>
    cases n' with
    | coalesce es' =>
      exact .other rfl (.coalesce (forall₂_map_of_map_eq (Node.coalesce.inj h) fun i =>
        each (.operand i)))
    | _ => cases h
  | subquery q =>
    cases n' with
    | subquery q' =>
      exact .other rfl (.subquery (Statement.related_of_map_eq (Node.subquery.inj h) fun p =>
        each (.within p)))
    | _ => cases h
  | existence q negated =>
    cases n' with
    | existence q' negated' =>
      obtain ⟨same, rfl⟩ := Node.existence.inj h
      exact .other rfl (.existence negated (Statement.related_of_map_eq same fun p =>
        each (.within p)))
    | _ => cases h

end Blanked

/-! ### Rendering -/

/-- **Expressions that are equal once blanked are rendered alike**, and what holds of the values at
corresponding positions holds of the values bound. -/
theorem Expr.alike_piece (e : Expr) : ∀ {V : Value → Value → Prop} {e' : Expr},
    (∀ v w, V v w → v.isNull = w.isNull) → e.blanked = e'.blanked →
    (∀ path i v w, e.valueAt? path i = some v → e'.valueAt? path i = some w →
      v.isNull = w.isNull → V v w) → e.piece.Alike V e'.piece := by
  induction e using Expr.node_induction with
  | step n ih =>
    intro V e' nulls same values
    obtain ⟨n'⟩ := e'
    rw [Expr.blanked, Expr.fold_node, Expr.fold_node] at same
    rw [Expr.piece, Expr.fold_node, Expr.fold_node]
    apply Piece.alike_ofNode nulls
    apply Node.alike_of_blanked_eq (Expr.node.inj same)
    · intro p a b at_p at_p' same_here
      apply ih a (Node.mem_children_of_at? at_p) nulls same_here
      intro path i v w hv hw
      refine values (p :: path) i v w ?_ ?_
      · show (n.at? p).bind _ = _
        rw [at_p]
        exact hv
      · show (n'.at? p).bind _ = _
        rw [at_p']
        exact hw
    · intro i v w hv hw same_here
      exact values [] i v w hv hw (Value.isNull_eq_of_blanked_eq same_here)

/-- **The text of a statement does not depend on its values**, nor does the reason why it has none:
statements that differ in the payloads of their literals at most, and have null in the same
positions, are both rejected for one reason, or get one text and parameters that stem, one by one,
from the same positions. -/
theorem Statement.render_of_blanked_eq {q q' : Statement Expr} (same : q.blanked = q'.blanked)
    (s : Settings) :
    (∃ e, q.render s = .error e ∧ q'.render s = .error e) ∨
      ∃ text vs vs', q.render s = .ok ⟨text, vs⟩ ∧ q'.render s = .ok ⟨text, vs'⟩ ∧
        List.Forall₂ (fun v v' => ∃ p, q.valueAt? p = some v ∧ q'.valueAt? p = some v') vs vs' := by
  have related : Statement.Related
      (Piece.Alike fun v w => (∃ p, q.valueAt? p = some v ∧ q'.valueAt? p = some w) ∧
        v.isNull = w.isNull) (q.map Expr.piece) (q'.map Expr.piece) := by
    apply related_of_map_eq same
    intro place a b at_place at_place' same_here
    apply a.alike_piece (fun v w h => h.2) same_here
    intro path i v w hv hw null
    refine ⟨⟨⟨place, path, i⟩, ?_, ?_⟩, null⟩
    · show (q.at? place).bind _ = _
      rw [at_place]
      exact hv
    · show (q'.at? place).bind _ = _
      rw [at_place']
      exact hw
  have alike := alike_pieceTokens related
  rw [render, render, tokens, tokens]
  generalize (q.map Expr.piece).pieceTokens = rendering at alike ⊢
  generalize (q'.map Expr.piece).pieceTokens = rendering' at alike ⊢
  cases alike with
  | error e => exact Or.inl ⟨e, rfl, rfl⟩
  | @ok ts us all =>
    refine Or.inr ⟨_, _, _, rfl, ?_, (Token.parameters_related all).imp fun _ _ h => h.1⟩
    show Except.ok (Sql.ofTokens s us) = _
    rw [Sql.ofTokens, Token.write, Token.write, Token.writeFrom_eq_of_alike all]

/-- A search by name and by number, with a list that holds null and a sub-query. -/
def search (name : String) (number : Int) : Statement Expr :=
  let person : Scope := ⟨0, "person", "person", false, [⟨"name", .text, false⟩]⟩
  let column (field : String) : Expr := .node (.field (.node (.row person)) field)
  let given (v : Value) : Expr := .node (.literal v)
  { Statement.empty .select with
    columns := [.node (.row person)]
    source := ⟨[.scope person], [0]⟩
    filters := [.node (.compare (column "name") .equal (given (.string name))),
      .node (.inList (column "id") [.int number, .null, .int 3] false),
      .node (.existence { Statement.empty .select with filters := [given (.int number)] } true)] }

/-- A harmless search and one whose name would end the text have the same text. -/
theorem Statement.render_of_blanked_eq_search :
    (search "Ann" 1).blanked = (search "'; DROP TABLE person; --" (-7)).blanked ∧
      ∃ text vs vs', (search "Ann" 1).render ⟨.postgres, false⟩ = .ok ⟨text, vs⟩ ∧
        (search "'; DROP TABLE person; --" (-7)).render ⟨.postgres, false⟩ = .ok ⟨text, vs'⟩ ∧
        vs = [.string "Ann", .int 1, .int 3, .int 1] ∧
        vs' = [.string "'; DROP TABLE person; --", .int (-7), .int 3, .int (-7)] ∧
        List.Forall₂ (fun v v' => ∃ p, (search "Ann" 1).valueAt? p = some v ∧
          (search "'; DROP TABLE person; --" (-7)).valueAt? p = some v') vs vs' := by
  have same : (search "Ann" 1).blanked = (search "'; DROP TABLE person; --" (-7)).blanked := rfl
  refine ⟨same, ?_⟩
  rcases render_of_blanked_eq same ⟨.postgres, false⟩ with
    ⟨e, failed, _⟩ | ⟨text, vs, vs', ok, ok', each⟩
  · cases failed
  · have bound : ((search "Ann" 1).render ⟨.postgres, false⟩).map Sql.parameters =
        .ok [.string "Ann", .int 1, .int 3, .int 1] := rfl
    have bound' : ((search "'; DROP TABLE person; --" (-7)).render ⟨.postgres, false⟩).map
        Sql.parameters =
          .ok [.string "'; DROP TABLE person; --", .int (-7), .int 3, .int (-7)] := rfl
    rw [ok] at bound
    rw [ok'] at bound'
    exact ⟨text, vs, vs', ok, ok', Except.ok.inj bound, Except.ok.inj bound', each⟩

end SqlBuilder
