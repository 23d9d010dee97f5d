import SqlBuilder.Proofs.ExprFold
import SqlBuilder.Proofs.PlaceholderText

/-!
# The values that a statement binds

Values are bound while tokens are put together, and placeholders are numbered when the tokens are
written.  This file walks a statement clause by clause, without rendering it, collects the values it
meets and proves that these are the parameters, in the order in which their placeholders stand in the
text.

* `Node.literals`, `Statement.literals` : the values met in an expression and in a statement, given
  those of what stands in the places;
* `Statement.boundLiterals` : the values met in a statement;
* `Piece.Binds` : what the tokens of an operand bind, with `Piece.binds_ofNode` as its step;
* **`Statement.parameters_eq_boundLiterals`** : parameters and placeholders of a rendered statement.
-/

namespace SqlBuilder

/-! ### Walking a statement -/

/-- The values among these that are not null. -/
def Value.present (vs : List Value) : List Value := vs.filter fun v => !v.isNull

/-- The values met in a join tree: left operand, right operand, predicate. -/
def JoinTree.literals : JoinTree (List Value) → List Value
  | .scope _ | .missing _ | .endless _ => []
  | .join _ l r predicate => l.literals ++ r.literals ++ predicate.getD []

/-- The values met in a statement, clause by clause. -/
def Statement.literals (q : Statement (List Value)) : List Value :=
  match q.kind with
  | .select =>
    q.columns.flatten ++ (q.source.trees.map JoinTree.literals).flatten ++ q.filters.flatten ++
      q.grouping.flatten ++ q.having.flatten ++ (q.ordering.map OrderTerm.expr).flatten
  | .update => (q.assignments.map Assignment.value).flatten ++ q.filters.flatten
  | .delete => q.filters.flatten

/-- The values met in an expression.  Membership in an empty list does not look at its operand. -/
def Node.literals : Node (List Value) → List Value
  | .row _ | .countRows | .inList _ [] _ => []
  | .literal v => Value.present [v]
  | .field e _ | .not e | .isNull e | .aggregate _ _ e => e
  | .compare l _ r | .logical l _ r | .arithmetic l _ r => l ++ r
  | .inList e (v :: vs) _ => e ++ Value.present (v :: vs)
  | .coalesce es => es.flatten
  | .subquery q | .existence q _ => q.literals

/-- The values met in a statement and in all that stands in it. -/
def Statement.boundLiterals (q : Statement Expr) : List Value :=
  (q.map (Expr.fold Node.literals)).literals

/-! ### Names, values and bounds -/

open Render

namespace Token

theorem holds_columnReference (s : Scope) (field : String) :
    Holds [] (columnReference s field) :=
  .cons_cons_separator rfl rfl (.single rfl)

theorem holds_tableReference (s : Scope) : Holds [] (tableReference s) := by
  rw [tableReference]
  split
  · exact .single rfl
  · exact separates_between [.AS] (.single (t := .name s.table) rfl)
      (.single (t := .name s.aliasName) rfl)

theorem holds_value (v : Value) : Holds (Value.present [v]) [value v] := by
  cases null : v.isNull with
  | true =>
    rw [value, if_pos null, Value.present, List.filter_cons_of_neg (by simp [null])]
    exact .single rfl
  | false =>
    rw [value, if_neg (by simp [null]), Value.present, List.filter_cons_of_pos (by simp [null])]
    exact ⟨.singleton _, rfl⟩

theorem flatten_present (vs : List Value) :
    (vs.map fun v => Value.present [v]).flatten = Value.present vs := by
  induction vs with
  | nil => rfl
  | cons v vs ih =>
    rw [List.map_cons, List.flatten_cons, ih]
    exact (List.filter_append [v] vs).symm

theorem holds_values (vs : List Value) :
    Holds (Value.present vs) (comma.intercalate (vs.map fun v => [value v])) := by
  rw [← flatten_present]
  exact .intercalate separates_comma (forall₂_map_of_forall_mem fun v _ => holds_value v)

theorem arity_comparison (op : Comparison) : (comparison op).arity = 0 := by
  cases op <;> rfl

/-- The bounds on the number of rows bind nothing and stand apart from what is before them. -/
theorem Holds.append_range {vs : List Value} {ts : List Token} (before : Holds vs ts) :
    ∀ limit offset, Holds vs (ts ++ Statement.rangeTokens limit offset)
  | none, none => by
    rw [Statement.rangeTokens, List.append_nil]
    exact before
  | some n, none => by
    have bounded := separates_between [.LIMIT] before (.single (t := .number n) rfl)
    rwa [List.append_nil] at bounded
  | none, some m => by
    have skipping := (Holds.single (t := .number m) rfl).after_between [.OFFSET]
    refine ⟨List.isChain_append.2 ⟨before.spaced, ?_, ?_⟩, ?_⟩
    · exact List.isChain_cons_cons.2 ⟨Or.inr (Or.inl rfl), skipping.spaced⟩
    · intro t _ u hu
      cases hu
      exact Or.inr (Or.inr rfl)
    · rw [parameters_append, before.parameters]
      exact List.append_nil vs
  | some n, some m => by
    have skipping := separates_between [.OFFSET] (.single (t := .number n) rfl)
      (.single (t := .number m) rfl)
    have bounded := separates_between [.LIMIT] before skipping
    rwa [List.append_nil, List.append_nil] at bounded

end Token

/-! ### Operands, clauses and statements -/

open Token

/-- Whatever tokens an operand has bind these values; a whole row binds none. -/
structure Piece.Binds (p : Piece) (vs : List Value) : Prop where
  holds : ∀ ts, p.Renders ts → Holds vs ts
  row : ∀ s, p.row? = some s → vs = []

theorem holds_of_binds {ps : List Piece} {vss : List (List Value)} {tss : List (List Token)}
    (binds : List.Forall₂ Piece.Binds ps vss) (renders : List.Forall₂ Piece.Renders ps tss) :
    List.Forall₂ Holds vss tss :=
  forall₂_of_common (fun _ _ ts b r => b.holds ts r) binds renders

/-- A clause goes on behind what stands before it. -/
theorem Token.Holds.append_clause {α β : Type} {opening : List Keyword} {separator : List Token}
    {item : α → List Token → Prop} {related : α → β → Prop} {literals : β → List Value}
    (separates : Separates separator)
    (each : ∀ a b ts, related a b → item a ts → Holds (literals b) ts)
    {as : List α} {bs : List β} {us : List Value} {before ts : List Token}
    (here : Holds us before) (alike : List.Forall₂ related as bs)
    (clause : ClauseWrites opening separator item as ts) :
    Holds (us ++ (bs.map literals).flatten) (before ++ ts) := by
  cases clause with
  | absent =>
    cases alike
    rw [List.map_nil, List.flatten_nil, List.append_nil, List.append_nil]
    exact here
  | present items =>
    have held : List.Forall₂ Holds (bs.map literals) _ :=
      List.forall₂_map_left_iff.2 (forall₂_of_common each alike items)
    exact separates_between opening here (.intercalate separates held)

/-- A clause of operands. -/
theorem Token.Holds.append_operands {opening : List Keyword} {separator : List Token}
    (separates : Separates separator) {ps : List Piece} {vss : List (List Value)}
    {us : List Value} {before ts : List Token} (here : Holds us before)
    (alike : List.Forall₂ Piece.Binds ps vss)
    (clause : ClauseWrites opening separator Piece.Renders ps ts) :
    Holds (us ++ vss.flatten) (before ++ ts) := by
  have each : ∀ (p : Piece) (vs : List Value) ts, p.Binds vs → p.Renders ts → Holds (id vs) ts :=
    fun _ _ ts binds renders => binds.holds ts renders
  have joined := here.append_clause separates each alike clause
  rwa [List.map_id] at joined

theorem holds_of_joinTree {t : JoinTree Piece} {ts : List Token} (writes : t.Writes ts) :
    ∀ {t' : JoinTree (List Value)}, JoinTree.Related Piece.Binds t t' → Holds t'.literals ts := by
  have operand (r : JoinTree Piece) {vs : List Value} {us : List Token} (h : Holds vs us) :
      Holds vs (if r.isJoin then parenthesized us else us) := by
    split
    · exact h.parenthesized
    · exact h
  induction writes with
  | scope s =>
    intro t' related
    cases related
    exact holds_tableReference s
  | join left right ihl ihr =>
    intro t' related
    cases related with
    | join _ hl hr hp =>
      cases hp
      rw [JoinTree.literals, Option.getD_none, List.append_nil]
      exact separates_between _ (ihl hl) (operand _ (ihr hr))
  | @joinOn kind l r p ts us vs _ left right predicate ihl ihr =>
    intro t' related
    cases related with
    | join _ hl hr hp =>
      cases hp with
      | some binds =>
        have joined := separates_between kind.keywords (ihl hl) (operand r (ihr hr))
        rw [List.append_assoc _ (between [.ON])]
        exact separates_between [.ON] joined (binds.holds _ predicate)

/-- The columns that an operand stands for bind what the operand binds. -/
theorem holds_of_columns {p : Piece} {vs : List Value} {tss : List (List Token)}
    (binds : p.Binds vs) (columns : p.Columns tss) :
    ∃ vss, vss.flatten = vs ∧ List.Forall₂ Holds vss tss := by
  cases columns with
  | @row s row =>
    refine ⟨s.fields.map fun _ => [], ?_, ?_⟩
    · rw [binds.row s row, List.flatten_eq_nil_iff]
      intro l mem
      obtain ⟨_, _, rfl⟩ := List.mem_map.1 mem
      rfl
    · exact forall₂_map_of_forall_mem fun f _ => holds_columnReference s f.name
  | scalar row renders =>
    exact ⟨[vs], List.flatten_singleton, .cons (binds.holds _ renders) .nil⟩

theorem holds_of_columnGroups {ps : List Piece} {vss : List (List Value)}
    {groups : List (List (List Token))} (binds : List.Forall₂ Piece.Binds ps vss)
    (columns : List.Forall₂ Piece.Columns ps groups) :
    ∃ wss, wss.flatten = vss.flatten ∧ List.Forall₂ Holds wss groups.flatten := by
  induction binds generalizing groups with
  | nil =>
    cases columns
    exact ⟨[], rfl, .nil⟩
  | cons first rest ih =>
    cases columns with
    | cons first' rest' =>
      obtain ⟨vss, flat, here⟩ := holds_of_columns first first'
      obtain ⟨wss, flat', later⟩ := ih rest'
      refine ⟨vss ++ wss, ?_, ?_⟩
      · rw [List.flatten_append, flat, flat', List.flatten_cons]
      · rw [List.flatten_cons]
        exact List.rel_append here later

namespace Statement

variable {p : Statement Piece} {q : Statement (List Value)} {ts : List Token}

theorem holds_of_select (related : Statement.Related Piece.Binds p q) (kind : p.kind = .select)
    (writes : p.SelectWrites ts) : Holds q.literals ts := by
  obtain @⟨groups, _, _, _, _, _, columns, source, filters, grouping, having_, ordering⟩ := writes
  obtain ⟨wss, flat, held⟩ := holds_of_columnGroups related.columns columns
  have list : Holds q.columns.flatten
      (if groups.flatten.isEmpty then [.number 1] else comma.intercalate groups.flatten) := by
    rw [← flat]
    split
    · rename_i empty
      rw [List.isEmpty_iff] at empty
      rw [empty] at held
      cases held
      exact .single rfl
    · exact .intercalate separates_comma held
  have opened : Holds q.columns.flatten
      (words (if p.distinct then [.SELECT, .DISTINCT] else [.SELECT]) ++ .blank ::
        (if groups.flatten.isEmpty then [.number 1] else comma.intercalate groups.flatten)) :=
    (holds_words _).append_separator rfl list
  have each : ∀ (a : OrderTerm Piece) (b : OrderTerm (List Value)) us,
      Piece.Binds a.expr b.expr ∧ a.order = b.order → a.Writes us → Holds b.expr us := by
    rintro a b us ⟨binds, -⟩ ⟨e, renders, rfl⟩
    have directed := (binds.holds e renders).append_separator (t := .blank) rfl
      (.single (t := .word a.order.keyword) rfl)
    rwa [List.append_nil] at directed
  have tree : ∀ (a : JoinTree Piece) (b : JoinTree (List Value)) us,
      JoinTree.Related Piece.Binds a b → a.Writes us → Holds b.literals us :=
    fun _ _ _ alike writes => holds_of_joinTree writes alike
  have sourced := opened.append_clause separates_comma tree related.trees source
  have filtered := sourced.append_operands (separates_between [.AND]) related.filters filters
  have grouped := filtered.append_operands separates_comma related.grouping grouping
  have selected := grouped.append_operands (separates_between [.AND]) related.having_ having_
  have ordered := selected.append_clause separates_comma each related.ordering ordering
  rw [literals, ← related.kind, kind]
  exact ordered.append_range p.limit p.offset

theorem holds_of_update (related : Statement.Related Piece.Binds p q) (kind : p.kind = .update)
    (writes : p.UpdateWrites ts) : Holds q.literals ts := by
  obtain @⟨s, tss, _, target, assignments, filters⟩ := writes
  have each : ∀ (a : Assignment Piece) (b : Assignment (List Value)) us,
      Piece.Binds a.target b.target ∧ a.field = b.field ∧ a.op = b.op ∧ Piece.Binds a.value b.value →
      AssignmentWrites s a us → Holds b.value us := by
    rintro a b us ⟨-, -, -, binds⟩ assigned
    cases assigned with
    | plain row same op renders =>
      exact .cons_cons_separator rfl rfl (.cons_cons_separator rfl rfl (binds.holds _ renders))
    | compound row same op renders =>
      exact .cons_cons_separator rfl rfl (.cons_cons_separator rfl rfl
        (.around rfl (holds_columnReference s a.field) (binds.holds _ renders)))
  have held : List.Forall₂ Holds (q.assignments.map Assignment.value) tss :=
    List.forall₂_map_left_iff.2 (forall₂_of_common each related.assignments assignments)
  have opened : Holds [] (words [.UPDATE] ++ .blank :: tableReference s) :=
    (holds_words _).append_separator rfl (holds_tableReference s)
  have set := separates_between [.SET] opened (.intercalate separates_comma held)
  rw [← List.append_assoc, List.nil_append] at set
  rw [literals, ← related.kind, kind]
  exact set.append_operands (separates_between [.AND]) related.filters filters

theorem holds_of_delete (related : Statement.Related Piece.Binds p q) (kind : p.kind = .delete)
    (writes : p.DeleteWrites ts) : Holds q.literals ts := by
  obtain @⟨s, _, target, filters⟩ := writes
  have opened : Holds [] (words [.DELETE, .FROM] ++ .blank :: tableReference s) :=
    (holds_words _).append_separator rfl (holds_tableReference s)
  rw [literals, ← related.kind, kind]
  exact opened.append_operands (separates_between [.AND]) related.filters filters

/-- The tokens of a statement bind the values met in it. -/
theorem holds_of_writes (related : Statement.Related Piece.Binds p q) (writes : p.Writes ts) :
    Holds q.literals ts := by
  cases writes with
  | select kind writes => exact holds_of_select related kind writes
  | update kind writes => exact holds_of_update related kind writes
  | delete kind writes => exact holds_of_delete related kind writes

end Statement

/-! ### Expressions -/

/-- The tokens of an expression bind the values met in it, provided those of its operands do. -/
theorem Node.holds_of_writes {m : Node Piece} {n : Node (List Value)} {ts : List Token}
    (related : Node.Related Piece.Binds m n) (writes : m.Writes ts) : Holds n.literals ts := by
  cases related with
  | row s => cases writes
  | field name binds =>
    cases writes with
    | column _ row =>
      show Holds _ _
      rw [Node.literals, binds.row _ row]
      exact holds_columnReference _ name
    | field _ row renders =>
      have selected := (binds.holds _ renders).parenthesized.append_separator (t := .mark .dot) rfl
        (.single (t := .name name) rfl)
      rwa [List.append_nil] at selected
  | literal v =>
    cases writes
    exact holds_value v
  | compare op left right =>
    cases writes with
    | compare _ l r => exact .around (arity_comparison op) (left.holds _ l) (right.holds _ r)
  | logical op left right =>
    cases writes with
    | logical _ l r => exact .around rfl (left.holds _ l) (right.holds _ r)
  | not binds =>
    cases writes with
    | not renders =>
      exact (Holds.cons_cons_separator rfl rfl (binds.holds _ renders)).parenthesized
  | arithmetic op left right =>
    cases writes with
    | arithmetic _ l r => exact .around rfl (left.holds _ l) (right.holds _ r)
  | isNull binds =>
    cases writes with
    | isNull renders =>
      have tested := (binds.holds _ renders).append_separator (t := .blank) rfl
        (holds_words [.IS, .NULL])
      rw [List.append_nil] at tested
      exact tested.parenthesized
  | countRows =>
    cases writes
    exact .call rfl (.single rfl)
  | aggregate f distinct binds =>
    cases writes with
    | aggregate _ _ renders =>
      refine .call (by cases f <;> rfl) ?_
      cases distinct with
      | false => exact binds.holds _ renders
      | true => exact .cons_cons_separator rfl rfl (binds.holds _ renders)
  | inList vs negated binds =>
    cases writes with
    | emptyList => exact .single rfl
    | inList v vs _ renders =>
      rw [List.append_assoc]
      have listed := (holds_values (v :: vs)).parenthesized
      exact (separates_between _ (binds.holds _ renders) listed).parenthesized
  | coalesce binds =>
    cases writes with
    | coalesce renders =>
      exact .call rfl (.intercalate separates_comma (holds_of_binds binds renders))
  | subquery related =>
    cases writes with
    | subquery kind writes => exact (Statement.holds_of_select related kind writes).parenthesized
  | existence negated related =>
    cases writes with
    | existence _ kind writes =>
      exact ((holds_words _).append_separator rfl
        (Statement.holds_of_select related kind writes).parenthesized).parenthesized

theorem Piece.binds_ofNode (m : Node Piece) (n : Node (List Value))
    (related : Node.Related Piece.Binds m n) : (Piece.ofNode m).Binds n.literals where
  holds _ renders := Node.holds_of_writes related (Piece.writes_of_renders renders)
  row s row := by
    rw [Piece.eq_row_of_row? row] at related
    cases related
    rfl

/-! ### The parameters of a statement -/

/-- **The parameters of a statement are the values met in it, and its placeholders stand for them in
order.**  In Postgres the dollar signs outside double quotes number them from one; in SQLite there is
one question mark for each.  A writer that binds values while it goes through the statement arrives at
these parameters and this text too, by `Statement.writer_run`, so that it binds the values in the order
in which their placeholders stand. -/
theorem Statement.parameters_eq_boundLiterals {s : Settings} {q : Statement Expr} {sql : Sql}
    (h : q.render s = .ok sql) :
    sql.parameters = q.boundLiterals ∧
      (s.dialect = .postgres →
        Text.dollarMarks (Text.outsideQuotes false sql.text.toList) =
          (List.range' 1 q.boundLiterals.length).map fun number => '$' :: Text.decimal number) ∧
      (s.dialect = .sqlite →
        (Text.outsideQuotes false sql.text.toList).count '?' = q.boundLiterals.length) := by
  obtain ⟨ts, writes, rfl⟩ := writes_of_render h
  have related := Statement.fold_related Piece.binds_ofNode q
  have held : Holds q.boundLiterals ts := holds_of_writes related writes
  have text : (Sql.ofTokens s ts).text.toList = writeFrom s 0 ts := String.toList_ofList
  refine ⟨held.parameters, fun dialect => ?_, fun dialect => ?_⟩
  · rw [text, dollarMarks_writeFrom dialect held.spaced 0, held.parameters]
    refine List.map_congr_left fun number _ => ?_
    rw [Settings.placeholder, dialect]
  · rw [text, count_questionMark_writeFrom dialect ts 0, held.parameters]

/-- An UPDATE with marks of placeholders in its names, a null, an empty list and a sub-query. -/
def numberedLiterals : Statement Expr :=
  let t : Scope := ⟨0, "$7?", "a\"$8", false, []⟩
  let field (name : String) : Expr := .node (.field (.node (.row t)) name)
  let literal (v : Value) : Expr := .node (.literal v)
  let sums : Statement Expr :=
    { Statement.empty .select with
      columns := [.node (.aggregate .sum false (literal (.int 3)))]
      limit := some 5 }
  { Statement.empty .update with
    source := ⟨[.scope t], [0]⟩
    assignments := [⟨.node (.row t), "n", .add, literal (.int 1)⟩,
      ⟨.node (.row t), "m", .assign, literal .null⟩]
    filters := [.node (.inList (field "x") [.string "$9", .null] false),
      .node (.inList (literal (.int 2)) [] true),
      .node (.compare (field "y") .equal (.node (.subquery sums)))] }

/-- Its three values are bound in order, and the text holds their three placeholders. -/
theorem Statement.parameters_eq_boundLiterals_numbered :
    ∃ sql, numberedLiterals.render .default = .ok sql ∧
      sql.parameters = [.int 1, .string "$9", .int 3] ∧
      Text.dollarMarks (Text.outsideQuotes false sql.text.toList) =
        [['$', '1'], ['$', '2'], ['$', '3']] :=
  have bound := parameters_eq_boundLiterals (s := .default) (q := numberedLiterals) rfl
  ⟨_, rfl, bound.1, bound.2.1 rfl⟩

end SqlBuilder
