import SqlBuilder.Proofs.BoundLiterals
import SqlBuilder.Proofs.ClauseReadBack

/-!
# Statements read back

The text of a SELECT and its parameters determine its normal form: there is a reader that gives it
back, one for all settings.  Every compound expression stands in parentheses and every clause begins
with a word of its own, so the reader never has to guess.

* `Node.opens_of_writes` : how the tokens of an expression begin;
* `Node.reads_of_writes` : an expression is read back if its operands are;
* **`Statement.read_render`** : the SELECT that is read is the SELECT that was written, and SELECTs
  with equal text and parameters have equal normal forms.
-/

namespace SqlBuilder

open Reader Token Render

variable {s : Settings}

/-! ### Expressions -/

theorem significant_comparison (op : Comparison) (ts : List Token) :
    significant s (comparison op :: ts) = comparison op :: significant s ts := by
  cases op <;> rfl

theorem significant_value (v : Value) (ts : List Token) :
    significant s (Render.value v :: ts) = Render.value v :: significant s ts := by
  cases v <;> rfl

theorem significant_values (vs : List Value) :
    significant s (comma.intercalate (vs.map fun v => [Render.value v])) =
      [.mark .comma].intercalate (vs.map fun v => [Render.value v]) := by
  rw [significant_intercalate, significant_comma, List.map_map]
  congr 1
  refine List.map_congr_left fun v _ => ?_
  exact significant_value v []

/-- The tokens of an expression begin as an operand does. -/
theorem Node.opens_of_writes {n : Node Piece} {ts : List Token} (writes : n.Writes ts) : Opens ts := by
  cases writes with
  | column name row => exact ⟨_, _, rfl, rfl⟩
  | literal v => exact ⟨Render.value v, [], rfl, by cases v <;> rfl⟩
  | countRows => exact ⟨_, _, rfl, rfl⟩
  | aggregate f distinct renders => exact ⟨.word f.keyword, _, rfl, by cases f <;> rfl⟩
  | emptyList e negated => exact ⟨_, [], rfl, by cases negated <;> rfl⟩
  | coalesce renders => exact ⟨.word .COALESCE, _, rfl, rfl⟩
  | _ => exact ⟨.mark .leftParen, _, rfl, rfl⟩

/-- Tokens that begin as an operand does are seen to do so. -/
theorem Opens.to_significant {ts : List Token} (h : Opens ts) : Opens (significant s ts) := by
  obtain ⟨t, us, rfl, opens⟩ := h
  cases t with
  | word k | name n | bind v => exact ⟨_, _, rfl, opens⟩
  | mark m =>
    cases m with
    | leftParen => exact ⟨_, _, rfl, opens⟩
    | _ => cases opens
  | number n | blank | unlimited => cases opens

theorem opens_of_related {ps : List Piece} {rs : List Reduced} {tss : List (List Token)}
    (back : List.Forall₂ (ReadsBack s) ps rs) (renders : List.Forall₂ Piece.Renders ps tss) :
    ∀ ts ∈ tss, Opens (significant s ts) := by
  induction renders generalizing rs with
  | nil =>
    intro ts mem
    cases mem
  | @cons p us ps tss first later ih =>
    intro ts mem
    cases back with
    | cons here rest =>
      rcases List.mem_cons.1 mem with rfl | mem
      · exact here.opens ts first
      · exact ih rest ts mem

section Forms

variable {self : Reader Normal} {e : Normal} {ts : List Token}

/-- Two operands around an operator. -/
theorem expression_around {l r : Normal} {f : Form Normal} {op : Token} {us : List Token}
    (operator : ofOperator l r op = some f)
    (visible : ∀ us, significant s (op :: us) = op :: significant s us)
    (opens : Opens (significant s ts))
    (left : ∀ rest, self (significant s ts ++ rest) = some (l, rest))
    (right : ∀ rest, self (significant s us ++ rest) = some (r, rest)) (rest : List Token) :
    expression self (significant s (parenthesized (ts ++ .blank :: op :: .blank :: us)) ++ rest) =
      some (.form f, rest) := by
  simp only [significant_parenthesized, significant_append, significant_blank, visible,
    List.cons_append, List.append_assoc, List.nil_append]
  rw [expression_leftParen]
  exact (compound_operand opens (left _)).trans (suffix_operator operator (right _))

theorem expression_field (name : String) (opens : Opens (significant s ts))
    (inner : ∀ rest, self (significant s ts ++ rest) = some (e, rest)) (rest : List Token) :
    expression self (significant s (parenthesized ts ++ [.mark .dot, .name name]) ++ rest) =
      some (.form (.field e name), rest) := by
  simp only [significant_append, significant_parenthesized, List.append_assoc, List.cons_append,
    List.nil_append]
  rw [expression_leftParen]
  exact (compound_operand opens (inner _)).trans (suffix_field e name rest)

theorem expression_not (opens : Opens (significant s ts))
    (inner : ∀ rest, self (significant s ts ++ rest) = some (e, rest)) (rest : List Token) :
    expression self (significant s (parenthesized (.word .NOT :: .blank :: ts)) ++ rest) =
      some (.form (.not e), rest) := by
  simp only [significant_parenthesized, significant_word, significant_blank, List.append_assoc,
    List.cons_append, List.nil_append]
  rw [expression_leftParen]
  exact compound_not opens (inner _)

theorem expression_isNull (opens : Opens (significant s ts))
    (inner : ∀ rest, self (significant s ts ++ rest) = some (e, rest)) (rest : List Token) :
    expression self (significant s (parenthesized (ts ++ .blank :: words [.IS, .NULL])) ++ rest) =
      some (.form (.isNull e), rest) := by
  simp only [significant_parenthesized, significant_append, significant_blank, significant_words,
    List.append_assoc, List.cons_append, List.nil_append]
  rw [expression_leftParen]
  exact (compound_operand opens (inner _)).trans (suffix_isNull e rest)

theorem expression_aggregate (f : AggregateFunction) (distinct : Bool)
    (opens : Opens (significant s ts))
    (inner : ∀ rest, self (significant s ts ++ rest) = some (e, rest)) (rest : List Token) :
    expression self (significant s (.word f.keyword ::
        parenthesized ((if distinct then [.word .DISTINCT, .blank] else []) ++ ts)) ++ rest) =
      some (.form (.aggregate f distinct e), rest) := by
  have marked : significant s (if distinct then [.word .DISTINCT, .blank] else []) =
      if distinct then [.word .DISTINCT] else [] := by
    cases distinct <;> rfl
  simp only [significant_word, significant_parenthesized, significant_append, marked,
    List.append_assoc, List.cons_append, List.nil_append]
  rw [expression_cons, expressionAfter_keyword]
  refine (ifNext_append [.mark .leftParen] _ _ _).trans ?_
  exact aggregate_argument f distinct opens (inner _)

theorem expression_inList (v : Value) (vs : List Value) (negated : Bool)
    (opens : Opens (significant s ts))
    (inner : ∀ rest, self (significant s ts ++ rest) = some (e, rest)) (rest : List Token) :
    expression self (significant s (parenthesized
        (ts ++ between (if negated then [.NOT, .IN] else [.IN]) ++
          parenthesized (comma.intercalate ((v :: vs).map fun v => [Render.value v])))) ++ rest) =
      some (.form (.inList e (v :: vs) negated), rest) := by
  simp only [significant_parenthesized, significant_append, significant_between, significant_values,
    List.append_assoc, List.cons_append, List.nil_append]
  rw [expression_leftParen]
  exact (compound_operand opens (inner _)).trans (suffix_inList e negated v vs rest)

theorem expression_coalesce {es : List Normal} {tss : List (List Token)}
    (taken : List.Forall₂ (Takes (fun _ => True) self) es (tss.map (significant s)))
    (opens : ∀ ts ∈ tss, Opens (significant s ts)) (rest : List Token) :
    expression self
        (significant s (.word .COALESCE :: parenthesized (comma.intercalate tss)) ++ rest) =
      some (.form (.coalesce es), rest) := by
  simp only [significant_word, significant_parenthesized, significant_intercalate, significant_comma,
    List.append_assoc, List.cons_append, List.nil_append]
  rw [expression_cons, expressionAfter]
  refine (ifNext_append [.mark .leftParen] _ _ _).trans ?_
  refine coalesce_eq taken (fun us mem => ?_) rest
  obtain ⟨ts, listed, rfl⟩ := List.mem_map.1 mem
  exact opens ts listed

theorem expression_subquery {q : Selection Normal} {us : List Token}
    (first : significant s ts = .word .SELECT :: us) {rest : List Token}
    (inner : selection self (us ++ .mark .rightParen :: rest) = some (q, .mark .rightParen :: rest)) :
    expression self (significant s (parenthesized ts) ++ rest) =
      some (.form (.subquery q), rest) := by
  simp only [significant_parenthesized, first, List.append_assoc, List.cons_append, List.nil_append]
  rw [expression_leftParen]
  exact compound_subquery inner

theorem expression_existence (negated : Bool) {q : Selection Normal} {us : List Token}
    (first : significant s ts = .word .SELECT :: us) {rest : List Token}
    (inner : selection self (us ++ .mark .rightParen :: .mark .rightParen :: rest) =
      some (q, .mark .rightParen :: .mark .rightParen :: rest)) :
    expression self (significant s (parenthesized
        (words (if negated then [.NOT, .EXISTS] else [.EXISTS]) ++ .blank :: parenthesized ts)) ++
          rest) = some (.form (.existence q negated), rest) := by
  simp only [significant_parenthesized, significant_append, significant_blank, significant_words,
    first, List.append_assoc, List.cons_append, List.nil_append]
  rw [expression_leftParen]
  exact compound_existence negated inner

end Forms

/-- **An expression is read back** if the operands in it are, one level deeper. -/
theorem Node.reads_of_writes {m : Node Piece} {n : Node Reduced} {ts : List Token} {levels : Nat}
    (related : Node.Related (ReadsBack s) m n) (writes : m.Writes ts)
    (small : (significant s ts).length ≤ levels + 1) (rest : List Token) :
    expression (expressionWithin levels) (significant s ts ++ rest) = some (.form n.form, rest) := by
  cases related with
  | row t => cases writes
  | literal v =>
    cases writes
    cases v <;> rfl
  | countRows =>
    cases writes
    rfl
  | field name back =>
    cases writes with
    | column _ row =>
      rw [back.row] at row
      rw [Node.form, back.row_form _ row]
      rfl
    | field _ row renders =>
      simp only [significant_append, significant_parenthesized, List.length_append,
        List.length_cons] at small
      exact expression_field name (back.opens _ renders) (back.reads _ levels renders (by omega)) rest
  | compare op left right =>
    cases writes with
    | compare _ l r =>
      simp only [significant_parenthesized, significant_append, significant_blank,
        significant_comparison, List.length_append, List.length_cons] at small
      exact expression_around (ofOperator_comparison _ _ op) (significant_comparison op)
        (left.opens _ l) (left.reads _ levels l (by omega)) (right.reads _ levels r (by omega)) rest
  | logical op left right =>
    cases writes with
    | logical _ l r =>
      simp only [significant_parenthesized, significant_append, significant_blank, significant_word,
        List.length_append, List.length_cons] at small
      exact expression_around (ofOperator_logical _ _ op) (significant_word s op.keyword)
        (left.opens _ l) (left.reads _ levels l (by omega)) (right.reads _ levels r (by omega)) rest
  | arithmetic op left right =>
    cases writes with
    | arithmetic _ l r =>
      simp only [significant_parenthesized, significant_append, significant_blank, significant_mark,
        List.length_append, List.length_cons] at small
      exact expression_around (ofOperator_arithmetic _ _ op) (significant_mark s op.mark)
        (left.opens _ l) (left.reads _ levels l (by omega)) (right.reads _ levels r (by omega)) rest
  | not back =>
    cases writes with
    | not renders =>
      simp only [significant_parenthesized, significant_word, significant_blank, List.length_append,
        List.length_cons] at small
      exact expression_not (back.opens _ renders) (back.reads _ levels renders (by omega)) rest
  | isNull back =>
    cases writes with
    | isNull renders =>
      simp only [significant_parenthesized, significant_append, List.length_append,
        List.length_cons] at small
      exact expression_isNull (back.opens _ renders) (back.reads _ levels renders (by omega)) rest
  | aggregate f distinct back =>
    cases writes with
    | aggregate _ _ renders =>
      simp only [significant_word, significant_parenthesized, significant_append, List.length_append,
        List.length_cons] at small
      exact expression_aggregate f distinct (back.opens _ renders)
        (back.reads _ levels renders (by omega)) rest
  | inList vs negated back =>
    cases writes with
    | emptyList => cases negated <;> rfl
    | inList v vs _ renders =>
      simp only [significant_parenthesized, significant_append, List.length_append,
        List.length_cons] at small
      exact expression_inList v vs negated (back.opens _ renders)
        (back.reads _ levels renders (by omega)) rest
  | coalesce back =>
    cases writes with
    | @coalesce _ tss renders =>
      simp only [significant_word, significant_parenthesized, List.length_append,
        List.length_cons] at small
      have each_small : ∀ ts ∈ tss, (significant s ts).length ≤ levels := by
        intro ts mem
        have := length_le_of_mem_intercalate (s := s) comma mem
        omega
      exact expression_coalesce (takes_of_related levels takes_operand back renders each_small)
        (opens_of_related back renders) rest
  | subquery related =>
    cases writes with
    | subquery kind writes =>
      simp only [significant_parenthesized, List.length_append, List.length_cons] at small
      obtain ⟨us, first, inner⟩ := selection_eq related writes levels (by omega)
        (followed_rightParen [] rest)
      exact expression_subquery first inner
  | existence negated related =>
    cases writes with
    | existence _ kind writes =>
      simp only [significant_parenthesized, significant_append, significant_blank, List.length_append,
        List.length_cons] at small
      obtain ⟨us, first, inner⟩ := selection_eq related writes levels (by omega)
        (followed_rightParen [] (.mark .rightParen :: rest))
      exact expression_existence negated first inner

theorem Reduced.readsBack_ofNode (m : Node Piece) (n : Node Reduced)
    (related : Node.Related (ReadsBack s) m n) : ReadsBack s (Piece.ofNode m) (Reduced.ofNode n) := by
  have form : (Reduced.ofNode n).form = .form n.form := by cases n <;> rfl
  constructor
  case row =>
    cases row : (Piece.ofNode m).row? with
    | some t =>
      rw [Piece.eq_row_of_row? row] at related
      cases related
      rfl
    | none =>
      cases related with
      | row t => cases row
      | _ => rfl
  case row_form =>
    intro t row
    cases n with
    | row u =>
      cases row
      rfl
    | _ => cases row
  case opens =>
    intro ts renders
    exact (Node.opens_of_writes (Piece.writes_of_renders renders)).to_significant
  case reads =>
    intro ts levels renders small rest
    have writes := Piece.writes_of_renders renders
    cases levels with
    | zero =>
      obtain ⟨t, us, seen, _⟩ := (Node.opens_of_writes writes).to_significant
      rw [seen] at small
      cases small
    | succ levels =>
      rw [form]
      exact Node.reads_of_writes related writes small rest

/-! ### Statements -/

/-- **The text of a SELECT and its parameters are read back as its normal form**, whatever the
settings.  So a SELECT with the same text and the same parameters has the same normal form. -/
theorem Statement.read_render {s : Settings} {q : Statement Expr} {sql : Sql}
    (kind : q.kind = .select) (h : q.render s = .ok sql) :
    Selection.read? sql = some q.normalForm ∧
      ∀ (s' : Settings) (q' : Statement Expr), q'.kind = .select → q'.render s' = .ok sql →
        q'.normalForm = q.normalForm := by
  have read : ∀ {s : Settings} {q : Statement Expr}, q.kind = .select → q.render s = .ok sql →
      Selection.read? sql = some q.normalForm := by
    intro s q kind h
    obtain ⟨ts, writes, text⟩ := writes_of_render h
    have spaced := (holds_of_writes (Statement.fold_related Piece.binds_ofNode q) writes).spaced
    cases writes with
    | select _ writes =>
      have related := Statement.fold_related (Reduced.readsBack_ofNode (s := s)) q
      have nothing : Followed [] [] := fun t ht => by cases ht
      obtain ⟨us, first, selected⟩ := selection_eq related writes (significant s ts).length
        (Nat.le_succ _) nothing
      rw [List.append_nil] at selected
      have opened : statement (significant s ts).length (significant s ts) =
          some ((q.map Expr.reduced).selection, []) := by
        rw [first] at selected ⊢
        exact (bind_eq (expect_append [.word .SELECT] us)).trans selected
      have tokens : readAll (Sql.ofTokens s ts).parameters (Sql.ofTokens s ts).text.toList =
          some (significant s ts) := by
        rw [Sql.ofTokens, String.toList_ofList]
        exact readAll_write spaced
      rw [text, Selection.read?, tokens]
      show Option.bind (statement (significant s ts).length (significant s ts)) _ = _
      rw [opened]
      rfl
    | update update _ => cases kind.symm.trans update
    | delete delete _ => cases kind.symm.trans delete
  refine ⟨read kind h, fun s' q' kind' h' => ?_⟩
  have same := (read kind' h').symm.trans (read kind h)
  exact Option.some.inj same

/-- A whole row, an empty list, a join as the right operand of a join, a table that nothing refers to
and a sub-query that skips rows without a limit. -/
def nestedSelection : Statement Expr :=
  let t (id : Nat) (aliasName : String) : Scope :=
    ⟨id, "node", aliasName, false, [⟨"id", .int, false⟩, ⟨"up", .int, true⟩]⟩
  let row (id : Nat) (aliasName : String) : Expr := .node (.row (t id aliasName))
  let field (id : Nat) (aliasName name : String) : Expr := .node (.field (row id aliasName) name)
  let one : Expr := .node (.literal (.int 1))
  { Statement.empty .select with
    columns := [row 0 "node", .node (.inList one [] true)]
    source :=
      ⟨[.scope (t 0 "node"), .scope (t 1 "n2"), .scope (t 2 "n3"), .scope (t 3 "unused"),
        .join ⟨.inner, 1, 2, some (.node (.compare (field 1 "n2" "id") .equal (field 2 "n3" "up")))⟩,
        .join ⟨.leftOuter, 0, 4, none⟩], [5]⟩
    filters := [.node (.existence { Statement.empty .select with filters := [one], offset := some 2 }
      false)] }

/-- It is read back from its text in SQLite, and its source is nested as it was. -/
theorem Statement.read_render_nested :
    ∃ sql, nestedSelection.render ⟨.sqlite, false⟩ = .ok sql ∧
      Selection.read? sql = some nestedSelection.normalForm ∧
      nestedSelection.normalForm.columns =
        [.column "node" "id", .column "node" "up", .form (.truth true)] ∧
      nestedSelection.normalForm.sources =
        [.join .leftOuter (.table "node" "node")
          (.join .inner (.table "node" "n2") (.table "node" "n3")
            (some (.form (.compare (.column "n2" "id") .equal (.column "n3" "up"))))) none] :=
  ⟨_, rfl, (read_render rfl rfl).1, rfl, rfl⟩

end SqlBuilder
