import SqlBuilder.Proofs.Results
import SqlBuilder.Sql.Render

/-!
# What is rendered, construct by construct

The renderer computes tokens or an error.  This file says once, for each construct, which tokens it
has when it has any; everything that is proved about texts starts from here and does not open the
renderer again.

* `Piece.Renders` : the tokens of an operand;
* `Node.Writes` : the tokens of each form of expression, with **`Piece.writes_of_renders`**;
* `JoinTree.Writes` : those of a join tree;
* `Statement.SelectWrites`, `Statement.UpdateWrites`, `Statement.DeleteWrites` : those of each kind
  of statement, clause by clause.
-/

namespace SqlBuilder

/-- The operand has these tokens as a scalar. -/
def Piece.Renders (p : Piece) (ts : List Token) : Prop := p.tokens.get = .ok ts

open Render

/-! ### Lists of operands -/

theorem separated_eq_ok_iff {separator ts : List Token} {ps : List Piece} :
    separated separator ps = .ok ts ↔
      ∃ tss, List.Forall₂ Piece.Renders ps tss ∧ ts = separator.intercalate tss := by
  rw [separated, Except.bind_eq_ok_iff]
  constructor
  · rintro ⟨tss, h, e⟩
    cases e
    exact ⟨tss, Except.mapM_eq_ok_iff.1 h, rfl⟩
  · rintro ⟨tss, h, rfl⟩
    exact ⟨tss, Except.mapM_eq_ok_iff.2 h, rfl⟩

/-- The tokens of a clause that is left out where nothing is given. -/
inductive ClauseWrites {α : Type} (opening : List Keyword) (separator : List Token)
    (item : α → List Token → Prop) : List α → List Token → Prop where
  | absent : ClauseWrites opening separator item [] []
  | present {a : α} {as : List α} {tss : List (List Token)} :
      List.Forall₂ item (a :: as) tss →
        ClauseWrites opening separator item (a :: as) (between opening ++ separator.intercalate tss)

theorem clauseWrites_of_clause {opening : List Keyword} {separator ts : List Token}
    {ps : List Piece} (h : clause opening ps (separated separator) = .ok ts) :
    ClauseWrites opening separator Piece.Renders ps ts := by
  cases ps with
  | nil =>
    cases h
    exact .absent
  | cons p ps =>
    obtain ⟨us, body, e⟩ := Except.bind_eq_ok_iff.1 h
    cases e
    obtain ⟨tss, items, rfl⟩ := separated_eq_ok_iff.1 body
    exact .present items

/-- The tokens of one directive of an ordering. -/
def OrderTerm.Writes (t : OrderTerm Piece) (ts : List Token) : Prop :=
  ∃ e, t.expr.Renders e ∧ ts = e ++ [.blank, .word t.order.keyword]

theorem clauseWrites_of_orderTokens {terms : List (OrderTerm Piece)} {ts : List Token}
    (h : Statement.orderTokens terms = .ok ts) :
    ClauseWrites [.ORDER, .BY] comma OrderTerm.Writes terms ts := by
  cases terms with
  | nil =>
    cases h
    exact .absent
  | cons t terms =>
    obtain ⟨tss, each, e⟩ := Except.bind_eq_ok_iff.1 h
    cases e
    refine .present ((Except.mapM_eq_ok_iff.1 each).imp fun t ts h => ?_)
    obtain ⟨e, he, h⟩ := Except.bind_eq_ok_iff.1 h
    cases h
    exact ⟨e, he, rfl⟩

/-! ### Sources -/

/-- The tokens of a join tree. -/
inductive JoinTree.Writes : JoinTree Piece → List Token → Prop where
  | scope (s : Scope) : Writes (.scope s) (tableReference s)
  | join {kind : JoinKind} {l r : JoinTree Piece} {ts us : List Token} :
      l.Writes ts → r.Writes us →
        Writes (.join kind l r none)
          (ts ++ (between kind.keywords ++ if r.isJoin then parenthesized us else us))
  | joinOn {kind : JoinKind} {l r : JoinTree Piece} {p : Piece} {ts us vs : List Token} :
      kind ≠ .cross → l.Writes ts → r.Writes us → p.Renders vs →
        Writes (.join kind l r (some p))
          (ts ++ (between kind.keywords ++ if r.isJoin then parenthesized us else us) ++
            between [.ON] ++ vs)

theorem JoinTree.writes_of_tokens {t : JoinTree Piece} : ∀ {ts : List Token},
    t.tokens = .ok ts → t.Writes ts := by
  induction t with
  | scope s =>
    intro ts h
    cases h
    exact .scope s
  | missing id =>
    intro ts h
    cases h
  | endless id =>
    intro ts h
    cases h
  | join kind l r predicate ihl ihr =>
    intro ts h
    rw [tokens] at h
    obtain ⟨tl, hl, h⟩ := Except.bind_eq_ok_iff.1 h
    obtain ⟨tr, hr, h⟩ := Except.bind_eq_ok_iff.1 h
    cases predicate with
    | none =>
      cases h
      exact .join (ihl hl) (ihr hr)
    | some p =>
      cases kind with
      | cross => cases h
      | _ =>
        obtain ⟨tp, hp, e⟩ := Except.bind_eq_ok_iff.1 h
        cases e
        exact .joinOn (by decide) (ihl hl) (ihr hr) hp

theorem clauseWrites_of_fromTokens {c : FromClause Piece} {ts : List Token}
    (h : Statement.fromTokens c = .ok ts) :
    ClauseWrites [.FROM] comma JoinTree.Writes c.trees ts := by
  rw [Statement.fromTokens] at h
  cases roots : c.roots with
  | nil =>
    rw [roots] at h
    cases h
    rw [FromClause.trees, roots]
    exact .absent
  | cons id ids =>
    rw [if_neg (by rw [roots]; simp), c.mapM_tokensAt_roots] at h
    obtain ⟨tss, each, e⟩ := Except.bind_eq_ok_iff.1 h
    cases e
    rw [FromClause.trees, roots] at each ⊢
    exact .present ((Except.mapM_eq_ok_iff.1 each).imp fun t ts h => JoinTree.writes_of_tokens h)

/-! ### Result columns -/

/-- The columns that an operand of a select list stands for. -/
inductive Piece.Columns : Piece → List (List Token) → Prop where
  | row {p : Piece} {s : Scope} : p.row? = some s →
      Columns p (s.fields.map fun f => columnReference s f.name)
  | scalar {p : Piece} {ts : List Token} : p.row? = none → p.Renders ts → Columns p [ts]

theorem columns_of_columnTokens {ps : List Piece} : ∀ {tss : List (List Token)},
    Statement.columnTokens ps = .ok tss →
      ∃ groups, List.Forall₂ Piece.Columns ps groups ∧ tss = groups.flatten := by
  induction ps with
  | nil =>
    intro tss h
    cases h
    exact ⟨[], .nil, rfl⟩
  | cons p ps ih =>
    intro tss h
    rw [Statement.columnTokens] at h
    cases row : p.row? with
    | some s =>
      simp only [row] at h
      obtain ⟨rest, later, e⟩ := Except.bind_eq_ok_iff.1 h
      cases e
      obtain ⟨groups, each, rfl⟩ := ih later
      exact ⟨_, .cons (.row row) each, rfl⟩
    | none =>
      simp only [row] at h
      obtain ⟨ts, here, h⟩ := Except.bind_eq_ok_iff.1 h
      obtain ⟨rest, later, e⟩ := Except.bind_eq_ok_iff.1 h
      cases e
      obtain ⟨groups, each, rfl⟩ := ih later
      exact ⟨_, .cons (.scalar row here) each, rfl⟩

/-! ### Statements -/

namespace Statement

/-- The tokens of a SELECT, clause by clause. -/
inductive SelectWrites (q : Statement Piece) : List Token → Prop where
  | mk {groups : List (List (List Token))} {source filters grouping having_ ordering : List Token} :
      List.Forall₂ Piece.Columns q.columns groups →
      ClauseWrites [.FROM] comma JoinTree.Writes q.source.trees source →
      ClauseWrites [.WHERE] (between [.AND]) Piece.Renders q.filters filters →
      ClauseWrites [.GROUP, .BY] comma Piece.Renders q.grouping grouping →
      ClauseWrites [.HAVING] (between [.AND]) Piece.Renders q.having having_ →
      ClauseWrites [.ORDER, .BY] comma OrderTerm.Writes q.ordering ordering →
      SelectWrites q (words (if q.distinct then [.SELECT, .DISTINCT] else [.SELECT]) ++ .blank ::
        (if groups.flatten.isEmpty then [.number 1] else comma.intercalate groups.flatten) ++
        source ++ filters ++ grouping ++ having_ ++ ordering ++ rangeTokens q.limit q.offset)

theorem selectWrites_of_selectTokens {q : Statement Piece} {ts : List Token}
    (h : q.selectTokens = .ok ts) : q.SelectWrites ts := by
  rw [selectTokens] at h
  split at h
  · obtain ⟨columns, hcolumns, h⟩ := Except.bind_eq_ok_iff.1 h
    obtain ⟨source, hsource, h⟩ := Except.bind_eq_ok_iff.1 h
    obtain ⟨filters, hfilters, h⟩ := Except.bind_eq_ok_iff.1 h
    obtain ⟨grouping, hgrouping, h⟩ := Except.bind_eq_ok_iff.1 h
    obtain ⟨having_, hhaving, h⟩ := Except.bind_eq_ok_iff.1 h
    obtain ⟨ordering, hordering, h⟩ := Except.bind_eq_ok_iff.1 h
    obtain ⟨tss, each, hlist⟩ := Except.bind_eq_ok_iff.1 hcolumns
    obtain ⟨groups, items, rfl⟩ := columns_of_columnTokens each
    cases hlist
    cases h
    exact .mk items (clauseWrites_of_fromTokens hsource) (clauseWrites_of_clause hfilters)
      (clauseWrites_of_clause hgrouping) (clauseWrites_of_clause hhaving)
      (clauseWrites_of_orderTokens hordering)
  · cases h

/-- The tokens of one assignment to a table. -/
inductive AssignmentWrites (s : Scope) (a : Assignment Piece) : List Token → Prop where
  | plain {t : Scope} {ts : List Token} :
      a.target.row? = some t → t.id = s.id → a.op.arithmetic? = none → a.value.Renders ts →
        AssignmentWrites s a (.name a.field :: .blank :: .mark .equal :: .blank :: ts)
  | compound {t : Scope} {op : Arithmetic} {ts : List Token} :
      a.target.row? = some t → t.id = s.id → a.op.arithmetic? = some op → a.value.Renders ts →
        AssignmentWrites s a (.name a.field :: .blank :: .mark .equal :: .blank ::
          parenthesized (columnReference s a.field ++ .blank :: .mark op.mark :: .blank :: ts))

theorem assignmentWrites_of_assignmentTokens {s : Scope} {a : Assignment Piece} {ts : List Token}
    (h : assignmentTokens s a = .ok ts) : AssignmentWrites s a ts := by
  rw [assignmentTokens] at h
  split at h
  · rename_i fits
    obtain ⟨t, row, same⟩ : ∃ t, a.target.row? = some t ∧ t.id = s.id := by
      cases row : a.target.row? with
      | none =>
        rw [row] at fits
        cases fits
      | some t =>
        rw [row] at fits
        exact ⟨t, rfl, beq_iff_eq.1 fits⟩
    obtain ⟨vs, value, e⟩ := Except.bind_eq_ok_iff.1 h
    cases e
    cases op : a.op.arithmetic? with
    | none => exact .plain row same op value
    | some op' => exact .compound row same op value
  · cases h

/-- The tokens of an UPDATE, clause by clause. -/
inductive UpdateWrites (q : Statement Piece) : List Token → Prop where
  | mk {s : Scope} {assignments : List (List Token)} {filters : List Token} :
      q.target = .ok s →
      List.Forall₂ (AssignmentWrites s) q.assignments assignments →
      ClauseWrites [.WHERE] (between [.AND]) Piece.Renders q.filters filters →
      UpdateWrites q (words [.UPDATE] ++ .blank :: tableReference s ++ between [.SET] ++
        comma.intercalate assignments ++ filters)

theorem updateWrites_of_updateTokens {q : Statement Piece} {ts : List Token}
    (h : q.updateTokens = .ok ts) : q.UpdateWrites ts := by
  rw [updateTokens] at h
  split at h
  · cases h
  · obtain ⟨s, target, h⟩ := Except.bind_eq_ok_iff.1 h
    obtain ⟨tss, each, h⟩ := Except.bind_eq_ok_iff.1 h
    obtain ⟨filters, hfilters, h⟩ := Except.bind_eq_ok_iff.1 h
    cases h
    exact .mk target ((Except.mapM_eq_ok_iff.1 each).imp
      fun _ _ h => assignmentWrites_of_assignmentTokens h) (clauseWrites_of_clause hfilters)

/-- The tokens of a DELETE, clause by clause. -/
inductive DeleteWrites (q : Statement Piece) : List Token → Prop where
  | mk {s : Scope} {filters : List Token} :
      q.target = .ok s →
      ClauseWrites [.WHERE] (between [.AND]) Piece.Renders q.filters filters →
      DeleteWrites q (words [.DELETE, .FROM] ++ .blank :: tableReference s ++ filters)

theorem deleteWrites_of_deleteTokens {q : Statement Piece} {ts : List Token}
    (h : q.deleteTokens = .ok ts) : q.DeleteWrites ts := by
  rw [deleteTokens] at h
  split at h
  · obtain ⟨s, target, h⟩ := Except.bind_eq_ok_iff.1 h
    obtain ⟨filters, hfilters, h⟩ := Except.bind_eq_ok_iff.1 h
    cases h
    exact .mk target (clauseWrites_of_clause hfilters)
  · cases h

/-- The tokens of a statement by its kind. -/
inductive Writes (q : Statement Piece) : List Token → Prop where
  | select {ts : List Token} : q.kind = .select → q.SelectWrites ts → Writes q ts
  | update {ts : List Token} : q.kind = .update → q.UpdateWrites ts → Writes q ts
  | delete {ts : List Token} : q.kind = .delete → q.DeleteWrites ts → Writes q ts

theorem writes_of_pieceTokens {q : Statement Piece} {ts : List Token}
    (h : q.pieceTokens = .ok ts) : q.Writes ts := by
  rw [pieceTokens] at h
  cases kind : q.kind with
  | select =>
    rw [kind] at h
    exact .select kind (selectWrites_of_selectTokens h)
  | update =>
    rw [kind] at h
    exact .update kind (updateWrites_of_updateTokens h)
  | delete =>
    rw [kind] at h
    exact .delete kind (deleteWrites_of_deleteTokens h)

theorem selectWrites_of_nestedTokens {q : Statement Piece} {ts : List Token}
    (h : q.nestedTokens = .ok ts) : q.kind = .select ∧ q.SelectWrites ts := by
  rw [nestedTokens] at h
  split at h
  · rename_i select
    exact ⟨select, selectWrites_of_selectTokens h⟩
  · cases h

end Statement

/-! ### Expressions -/

/-- The tokens of each form of expression. -/
inductive Node.Writes : Node Piece → List Token → Prop where
  | column {base : Piece} {s : Scope} (name : String) :
      base.row? = some s → Writes (.field base name) (columnReference s name)
  | field {base : Piece} {ts : List Token} (name : String) :
      base.row? = none → base.Renders ts →
        Writes (.field base name) (parenthesized ts ++ [.mark .dot, .name name])
  | literal (v : Value) : Writes (.literal v) [Render.value v]
  | compare {l r : Piece} {ts us : List Token} (op : Comparison) :
      l.Renders ts → r.Renders us → Writes (.compare l op r)
        (parenthesized (ts ++ .blank :: comparison op :: .blank :: us))
  | logical {l r : Piece} {ts us : List Token} (op : LogicalOp) :
      l.Renders ts → r.Renders us → Writes (.logical l op r)
        (parenthesized (ts ++ .blank :: .word op.keyword :: .blank :: us))
  | not {e : Piece} {ts : List Token} :
      e.Renders ts → Writes (.not e) (parenthesized (.word .NOT :: .blank :: ts))
  | arithmetic {l r : Piece} {ts us : List Token} (op : Arithmetic) :
      l.Renders ts → r.Renders us → Writes (.arithmetic l op r)
        (parenthesized (ts ++ .blank :: .mark op.mark :: .blank :: us))
  | isNull {e : Piece} {ts : List Token} :
      e.Renders ts → Writes (.isNull e) (parenthesized (ts ++ .blank :: words [.IS, .NULL]))
  | countRows : Writes .countRows (.word .COUNT :: parenthesized [.mark .star])
  | aggregate {e : Piece} {ts : List Token} (f : AggregateFunction) (distinct : Bool) :
      e.Renders ts → Writes (.aggregate f distinct e)
        (.word f.keyword ::
          parenthesized ((if distinct then [.word .DISTINCT, .blank] else []) ++ ts))
  | emptyList (e : Piece) (negated : Bool) :
      Writes (.inList e [] negated) [.word (if negated then .TRUE else .FALSE)]
  | inList {e : Piece} {ts : List Token} (v : Value) (vs : List Value) (negated : Bool) :
      e.Renders ts → Writes (.inList e (v :: vs) negated)
        (parenthesized (ts ++ between (if negated then [.NOT, .IN] else [.IN]) ++
          parenthesized (comma.intercalate ((v :: vs).map fun v => [Render.value v]))))
  | coalesce {es : List Piece} {tss : List (List Token)} :
      List.Forall₂ Piece.Renders es tss →
        Writes (.coalesce es) (.word .COALESCE :: parenthesized (comma.intercalate tss))
  | subquery {q : Statement Piece} {ts : List Token} :
      q.kind = .select → q.SelectWrites ts → Writes (.subquery q) (parenthesized ts)
  | existence {q : Statement Piece} {ts : List Token} (negated : Bool) :
      q.kind = .select → q.SelectWrites ts → Writes (.existence q negated)
        (parenthesized (words (if negated then [.NOT, .EXISTS] else [.EXISTS]) ++
          .blank :: parenthesized ts))

/-- Only the node of a whole row makes an operand that is one. -/
theorem Piece.eq_row_of_row? {n : Node Piece} {s : Scope} (h : (Piece.ofNode n).row? = some s) :
    n = .row s := by
  cases n with
  | row t =>
    cases h
    rfl
  | field base name =>
    rw [ofNode] at h
    split at h <;> cases h
  | inList e vs negated => cases vs <;> cases h
  | _ => cases h

theorem writes_of_around {l r : Piece} {op : Token} {ts : List Token} (h : around l op r = .ok ts) :
    ∃ tl tr, l.Renders tl ∧ r.Renders tr ∧
      ts = parenthesized (tl ++ .blank :: op :: .blank :: tr) := by
  obtain ⟨tl, hl, h⟩ := Except.bind_eq_ok_iff.1 h
  obtain ⟨tr, hr, e⟩ := Except.bind_eq_ok_iff.1 h
  cases e
  exact ⟨tl, tr, hl, hr, rfl⟩

/-- **The tokens of an operand are those of its form.**  A whole row has none. -/
theorem Piece.writes_of_renders {n : Node Piece} {ts : List Token}
    (h : (Piece.ofNode n).Renders ts) : n.Writes ts := by
  cases n with
  | row s => cases h
  | field base name =>
    rw [Renders, ofNode] at h
    cases row : base.row? with
    | some s =>
      simp only [row] at h
      cases h
      exact .column name row
    | none =>
      simp only [row] at h
      obtain ⟨us, inner, e⟩ := Except.bind_eq_ok_iff.1 h
      cases e
      exact .field name row inner
  | literal v =>
    cases h
    exact .literal v
  | compare l op r =>
    obtain ⟨tl, tr, hl, hr, rfl⟩ := writes_of_around h
    exact .compare op hl hr
  | logical l op r =>
    obtain ⟨tl, tr, hl, hr, rfl⟩ := writes_of_around h
    exact .logical op hl hr
  | not e =>
    obtain ⟨us, inner, e⟩ := Except.bind_eq_ok_iff.1 h
    cases e
    exact .not inner
  | arithmetic l op r =>
    obtain ⟨tl, tr, hl, hr, rfl⟩ := writes_of_around h
    exact .arithmetic op hl hr
  | isNull e =>
    obtain ⟨us, inner, e⟩ := Except.bind_eq_ok_iff.1 h
    cases e
    exact .isNull inner
  | countRows =>
    cases h
    exact .countRows
  | aggregate f distinct e =>
    obtain ⟨us, inner, e⟩ := Except.bind_eq_ok_iff.1 h
    cases e
    exact .aggregate f distinct inner
  | inList e vs negated =>
    cases vs with
    | nil =>
      cases h
      exact .emptyList e negated
    | cons v vs =>
      obtain ⟨us, inner, e⟩ := Except.bind_eq_ok_iff.1 h
      cases e
      exact .inList v vs negated inner
  | coalesce es =>
    obtain ⟨us, inner, e⟩ := Except.bind_eq_ok_iff.1 h
    cases e
    obtain ⟨tss, items, rfl⟩ := separated_eq_ok_iff.1 inner
    exact .coalesce items
  | subquery q =>
    obtain ⟨us, inner, e⟩ := Except.bind_eq_ok_iff.1 h
    cases e
    obtain ⟨select, writes⟩ := Statement.selectWrites_of_nestedTokens inner
    exact .subquery select writes
  | existence q negated =>
    obtain ⟨us, inner, e⟩ := Except.bind_eq_ok_iff.1 h
    cases e
    obtain ⟨select, writes⟩ := Statement.selectWrites_of_nestedTokens inner
    exact .existence negated select writes

/-- The text and the parameters of a statement come from tokens of its kind. -/
theorem Statement.writes_of_render {s : Settings} {q : Statement Expr} {sql : Sql}
    (h : q.render s = .ok sql) :
    ∃ ts, (q.map Expr.piece).Writes ts ∧ sql = .ofTokens s ts := by
  obtain ⟨ts, tokens, e⟩ := Except.bind_eq_ok_iff.1 h
  cases e
  exact ⟨ts, writes_of_pieceTokens tokens, rfl⟩

end SqlBuilder
