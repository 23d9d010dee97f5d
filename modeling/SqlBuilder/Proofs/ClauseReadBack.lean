import SqlBuilder.Proofs.ExprFold
import SqlBuilder.Proofs.ReaderRules

/-!
# Clauses read back

The clauses of a SELECT are read back, provided the operands in them are.  A source is a chain of
joins that grows to the left: reading its left operand leaves the reader in the middle of the chain,
with the operand as what has been joined so far.

* `ReadsBack` : what reading back an operand means;
* **`sourceWithin_eq`** : a join tree, whatever its nesting;
* `clause_eq`, `selectList_eq`, `range_eq` : the other clauses;
* **`selection_eq`** : a SELECT.
-/

namespace SqlBuilder

open Reader Token Render

section ReadBack

variable {s : Settings}

/-- Where an operand has tokens they are read back as its normal form, whatever follows them. -/
structure ReadsBack (s : Settings) (p : Piece) (r : Reduced) : Prop where
  row : p.row? = r.row?
  row_form : ∀ t, r.row? = some t → r.form = .form (.row t.aliasName)
  opens : ∀ ts, p.Renders ts → Opens (significant s ts)
  reads : ∀ ts levels, p.Renders ts → (significant s ts).length ≤ levels → ∀ rest,
    expressionWithin levels (significant s ts ++ rest) = some (r.form, rest)

/-! ### Sources -/

theorem keywords_head?_ne (kind : JoinKind) {k : Keyword} (h : k = .AS ∨ k = .ON) (ts : List Token) :
    (kind.keywords.map Token.word ++ ts).head? ≠ some (.word k) := by
  rcases h with rfl | rfl
  · cases kind <;> simp [JoinKind.keywords]
  · cases kind <;> simp [JoinKind.keywords]

/-- Behind a join tree the reader stands in a chain of joins, with the tree as what has been joined so
far.  It has used up fewer joins than the tree has tokens. -/
def LeavesChain (s : Settings) (levels : Nat) (ts : List Token) (t : Source Normal) : Prop :=
  ∀ (most : Nat) (rest : List Token), (significant s ts).length ≤ most →
    rest.head? ≠ some (.word .AS) → rest.head? ≠ some (.word .ON) →
    ∃ left, most < left + (significant s ts).length ∧
      sourceWithin (expressionWithin levels) most (significant s ts ++ rest) =
        joins (expressionWithin levels) left t rest

/-- A right operand, which stands in parentheses if it is a join. -/
theorem rightOperand_eq {levels most : Nat} {r : JoinTree Piece} {r' : JoinTree Reduced}
    {ts rest : List Token} (writes : r.Writes ts) (related : JoinTree.Related (ReadsBack s) r r')
    (chain : LeavesChain s levels ts r'.source)
    (enough : (significant s (if r.isJoin then parenthesized ts else ts)).length ≤ most)
    (ends : rest.head? ≠ some (.word .AS)) :
    rightOperand (sourceWithin (expressionWithin levels) most)
      (significant s (if r.isJoin then parenthesized ts else ts) ++ rest) =
        some (r'.source, rest) := by
  cases nested : r.isJoin with
  | true =>
    rw [nested, if_pos rfl, significant_parenthesized] at enough
    simp only [List.length_cons, List.length_append] at enough
    obtain ⟨left, used, eq⟩ := chain most (.mark .rightParen :: rest) (by omega) (by simp)
      (by simp)
    have inner := eq.trans (joins_end (by omega) (endsSource_of_not_word (by simp) rest))
    rw [if_pos rfl, significant_parenthesized, List.cons_append, List.append_assoc]
    exact rightOperand_nested inner
  | false =>
    cases writes with
    | scope t =>
      cases related
      exact rightOperand_table _ t s ends
    | join _ _ => cases nested
    | joinOn _ _ _ _ => cases nested

/-- One more join in a chain. -/
theorem LeavesChain.join {levels : Nat} {kind : JoinKind} {left right : Source Normal}
    {p : Option Normal} {ts us : List Token} (vs : List Token) (chain : LeavesChain s levels ts left)
    (operand : ∀ (most : Nat) {rest : List Token}, (significant s us).length ≤ most →
      rest.head? ≠ some (.word .AS) →
      rightOperand (sourceWithin (expressionWithin levels) most) (significant s us ++ rest) =
        some (right, rest))
    (condition : ∀ {rest : List Token}, rest.head? ≠ some (.word .ON) →
      predicate (expressionWithin levels) (significant s vs ++ rest) = some (p, rest))
    (separate : ∀ {rest : List Token}, rest.head? ≠ some (.word .AS) →
      (significant s vs ++ rest).head? ≠ some (.word .AS)) :
    LeavesChain s levels (ts ++ (between kind.keywords ++ us) ++ vs) (.join kind left right p) := by
  intro most rest enough no_alias no_predicate
  have words : 2 ≤ (kind.keywords.map Token.word).length := by cases kind <;> decide
  simp only [significant_append, significant_between, List.length_append, List.append_assoc]
    at enough ⊢
  obtain ⟨more, used, eq⟩ := chain most _ (by omega)
    (keywords_head?_ne kind (Or.inl rfl) (significant s us ++ (significant s vs ++ rest)))
    (keywords_head?_ne kind (Or.inr rfl) _)
  cases more with
  | zero => omega
  | succ more =>
    have here := operand more (by omega) (separate no_alias)
    exact ⟨more, by omega, eq.trans (joins_succ here (condition no_predicate))⟩

/-- **A join tree is read back as it is nested.** -/
theorem leavesChain_of_writes {levels : Nat} {t : JoinTree Piece} {ts : List Token}
    (writes : t.Writes ts) :
    ∀ {t' : JoinTree Reduced}, JoinTree.Related (ReadsBack s) t t' →
      (significant s ts).length ≤ levels → LeavesChain s levels ts t'.source := by
  induction writes with
  | scope t =>
    intro t' related _
    cases related
    intro most rest enough no_alias _
    have some_token : 0 < (significant s (tableReference t)).length := by
      rw [tableReference]
      split <;> simp
    exact ⟨most, by omega, bind_eq (table_eq t s no_alias)⟩
  | @join kind l r ts us left right ihl ihr =>
    intro t' related small
    cases related with
    | join _ hl hr hp =>
      cases hp
      simp only [significant_append, List.length_append] at small
      have nested : LeavesChain s levels us _ := ihr hr (by
        split at small <;> simp at small <;> omega)
      have chain : LeavesChain s levels ts _ := ihl hl (by omega)
      rw [← List.append_nil (ts ++ _)]
      exact chain.join [] (fun _ _ enough ends => rightOperand_eq right hr nested enough ends)
        (fun ends => predicate_other ends) (fun ends => ends)
  | @joinOn kind l r p ts us vs _ left right renders ihl ihr =>
    intro t' related small
    cases related with
    | join _ hl hr hp =>
      cases hp with
      | some back =>
        simp only [significant_append, List.length_append] at small
        have nested : LeavesChain s levels us _ := ihr hr (by
          split at small <;> simp at small <;> omega)
        have chain : LeavesChain s levels ts _ := ihl hl (by omega)
        have condition := fun rest => back.reads vs levels renders (by omega) rest
        rw [List.append_assoc _ (between [.ON])]
        refine chain.join (between [.ON] ++ vs)
          (fun _ _ enough ends => rightOperand_eq right hr nested enough ends) (fun {rest} _ => ?_)
          (fun _ => by simp)
        simp only [significant_append, significant_between, List.append_assoc]
        exact predicate_on (condition rest)

/-- A join tree is read back where a source ends. -/
theorem takes_source {levels : Nat} (t : JoinTree Piece) (t' : JoinTree Reduced) (ts : List Token)
    (related : JoinTree.Related (ReadsBack s) t t') (writes : t.Writes ts)
    (small : (significant s ts).length ≤ levels) :
    Takes EndsSource (source (expressionWithin levels)) t'.source (significant s ts) := by
  intro rest ends
  have enough : (significant s ts).length ≤ (significant s ts ++ rest).length := by
    rw [List.length_append]
    omega
  obtain ⟨left, used, eq⟩ := leavesChain_of_writes writes related small _ rest enough
    (ends .AS (by decide)) (ends .ON (by decide))
  exact (bind_eq rfl).trans (eq.trans (joins_end (by omega) ends))

/-! ### Lists and clauses -/

theorem length_le_of_mem_intercalate (separator : List Token) {ts : List Token}
    {tss : List (List Token)} (mem : ts ∈ tss) :
    (significant s ts).length ≤ (significant s (separator.intercalate tss)).length := by
  induction tss with
  | nil => cases mem
  | cons us tss ih =>
    cases tss with
    | nil =>
      rw [List.mem_singleton.1 mem, List.intercalate_singleton]
    | cons vs tss =>
      rw [List.intercalate_cons_cons, significant_append, significant_append, List.length_append,
        List.length_append]
      rcases List.mem_cons.1 mem with rfl | mem
      · omega
      · have := ih mem
        omega

section Clauses

variable {α β γ : Type} {related : α → β → Prop} {item : α → List Token → Prop} {form : β → γ}
  {follow : List Token → Prop} {reader : Reader γ} (levels : Nat)

theorem takes_of_related
    (each : ∀ a b ts, related a b → item a ts → (significant s ts).length ≤ levels →
      Takes follow reader (form b) (significant s ts))
    {as : List α} {bs : List β} {tss : List (List Token)} (alike : List.Forall₂ related as bs)
    (items : List.Forall₂ item as tss) (small : ∀ ts ∈ tss, (significant s ts).length ≤ levels) :
    List.Forall₂ (Takes follow reader) (bs.map form) (tss.map (significant s)) := by
  induction alike generalizing tss with
  | nil =>
    cases items
    exact .nil
  | cons first later ih =>
    cases items with
    | @cons _ ts _ tss first' later' =>
      exact .cons (each _ _ _ first first' (small ts List.mem_cons_self))
        (ih later' fun ts mem => small ts (List.mem_cons_of_mem _ mem))

/-- A clause is read back if its items are, and it may stand where the clauses after it may. -/
theorem clause_eq {k : Keyword} {ks later : List Keyword} {separator ts : List Token} {t : Token}
    (separates : significant s separator = [t])
    (each : ∀ a b ts, related a b → item a ts → (significant s ts).length ≤ levels →
      Takes follow reader (form b) (significant s ts))
    {as : List α} {bs : List β} (alike : List.Forall₂ related as bs)
    (writes : ClauseWrites (k :: ks) separator item as ts)
    (small : (significant s ts).length ≤ levels)
    (inner : ∀ rest, follow (t :: rest)) (ends : ∀ rest, Followed later rest → follow rest)
    (foreign : t ≠ .mark .rightParen ∧ ∀ l ∈ later, t ≠ .word l) (fresh : k ∉ later)
    {rest : List Token} (followed : Followed later rest) :
    Reader.clause (k :: ks) (items t reader) (significant s ts ++ rest) = some (bs.map form, rest) ∧
      Followed (k :: later) (significant s ts ++ rest) := by
  cases writes with
  | absent =>
    cases alike
    refine ⟨clause_absent (followed.head?_ne (by simp) ?_),
      followed.mono (List.subset_cons_self k later)⟩
    rintro l mem same
    cases same
    exact fresh mem
  | @present a as tss listed =>
    have each_small : ∀ ts ∈ tss, (significant s ts).length ≤ levels := by
      intro us mem
      rw [significant_append, List.length_append] at small
      have := length_le_of_mem_intercalate (s := s) separator mem
      omega
    have taken := takes_of_related levels each alike listed each_small
    have nonempty : bs.map form ≠ [] := by
      cases alike
      exact List.cons_ne_nil _ _
    have list := items_eq nonempty taken t inner rest (ends rest followed)
      (followed.head?_ne foreign.1 foreign.2)
    rw [significant_append, significant_between, significant_intercalate, separates,
      List.append_assoc]
    exact ⟨clause_present (k :: ks) list, followed_word List.mem_cons_self _⟩

end Clauses

/-! ### Result columns -/

theorem column_eq (t : Scope) (field : String) {levels : Nat}
    (small : (significant s (columnReference t field)).length ≤ levels) (rest : List Token) :
    expressionWithin levels (significant s (columnReference t field) ++ rest) =
      some (.column t.aliasName field, rest) := by
  cases levels with
  | zero => cases small
  | succ levels => rfl

theorem takes_of_columns {p : Piece} {r : Reduced} {tss : List (List Token)} {levels : Nat}
    (back : ReadsBack s p r) (columns : p.Columns tss)
    (small : ∀ ts ∈ tss, (significant s ts).length ≤ levels) :
    List.Forall₂ (Takes (fun _ => True) (expressionWithin levels)) r.columns
        (tss.map (significant s)) ∧
      ∀ ts ∈ tss, Opens (significant s ts) := by
  cases columns with
  | @row t row =>
    rw [back.row] at row
    rw [Reduced.columns, row, List.map_map]
    refine ⟨forall₂_map_of_forall_mem fun f mem rest _ => ?_, fun ts mem => ?_⟩
    · exact column_eq t f.name (small _ (List.mem_map_of_mem mem)) rest
    · obtain ⟨f, _, rfl⟩ := List.mem_map.1 mem
      exact ⟨.name t.aliasName, _, rfl, rfl⟩
  | @scalar ts row renders =>
    rw [back.row] at row
    rw [Reduced.columns, row]
    have small_here := small ts List.mem_cons_self
    refine ⟨.cons (fun rest _ => back.reads ts levels renders small_here rest) .nil, ?_⟩
    intro us mem
    rw [List.mem_singleton.1 mem]
    exact back.opens ts renders

theorem takes_of_columnGroups {ps : List Piece} {rs : List Reduced}
    {groups : List (List (List Token))} (levels : Nat) (back : List.Forall₂ (ReadsBack s) ps rs)
    (columns : List.Forall₂ Piece.Columns ps groups)
    (small : ∀ ts ∈ groups.flatten, (significant s ts).length ≤ levels) :
    List.Forall₂ (Takes (fun _ => True) (expressionWithin levels)) (rs.flatMap Reduced.columns)
        (groups.flatten.map (significant s)) ∧
      ∀ ts ∈ groups.flatten, Opens (significant s ts) := by
  induction back generalizing groups with
  | nil =>
    cases columns
    exact ⟨.nil, fun _ mem => by cases mem⟩
  | cons first later ih =>
    cases columns with
    | @cons _ group _ groups first' later' =>
      rw [List.flatten_cons] at small ⊢
      have small_here := fun ts mem => small ts (List.mem_append_left _ mem)
      have small_later := fun ts mem => small ts (List.mem_append_right group mem)
      obtain ⟨here, opens_here⟩ := takes_of_columns first first' small_here
      obtain ⟨rest, opens_rest⟩ := ih later' small_later
      rw [List.flatMap_cons, List.map_append]
      refine ⟨List.rel_append here rest, fun ts mem => ?_⟩
      rcases List.mem_append.1 mem with mem | mem
      · exact opens_here ts mem
      · exact opens_rest ts mem

/-- The select list, in which the constant 1 stands for no columns. -/
theorem selectList_eq {ps : List Piece} {rs : List Reduced} {groups : List (List (List Token))}
    (levels : Nat) (back : List.Forall₂ (ReadsBack s) ps rs)
    (columns : List.Forall₂ Piece.Columns ps groups) {ts : List Token}
    (list : ts = if groups.flatten.isEmpty then [.number 1] else comma.intercalate groups.flatten)
    (small : (significant s ts).length ≤ levels) {rest : List Token}
    (ends : rest.head? ≠ some (.mark .comma)) :
    ifNext [.number 1] (pure []) (items (.mark .comma) (expressionWithin levels))
        (significant s ts ++ rest) = some (rs.flatMap Reduced.columns, rest) ∧
      (significant s ts ++ rest).head? ≠ some (.word .DISTINCT) := by
  cases each : groups.flatten with
  | nil =>
    obtain ⟨taken, -⟩ := takes_of_columnGroups levels back columns (by simp [each])
    rw [each] at list taken
    cases taken_eq : rs.flatMap Reduced.columns with
    | nil =>
      rw [list]
      exact ⟨(ifNext_append [.number 1] _ _ rest).trans rfl, by simp⟩
    | cons r rs =>
      rw [taken_eq] at taken
      cases taken
  | cons us tss =>
    rw [each, if_neg (by simp)] at list
    rw [list] at small ⊢
    obtain ⟨taken, opens⟩ := takes_of_columnGroups levels back columns (by
      intro vs mem
      rw [each] at mem
      have := length_le_of_mem_intercalate (s := s) comma mem
      omega)
    rw [each] at taken opens
    have first_opens := opens us List.mem_cons_self
    have nonempty : rs.flatMap Reduced.columns ≠ [] := by
      intro none
      rw [none] at taken
      cases taken
    have list := items_eq nonempty taken (.mark .comma) (fun _ => trivial) rest trivial ends
    rw [significant_intercalate, significant_comma]
    rw [List.map_cons, intercalate_cons_eq, List.append_assoc] at list ⊢
    exact ⟨(ifNext_other (first_opens.head?_ne rfl _) _ _).trans list, first_opens.head?_ne rfl _⟩

/-! ### Bounds -/

/-- The bounds on the number of rows, of which an unlimiting limit is none. -/
theorem range_eq (limit offset : Option Nat) {rest : List Token} (followed : Followed [] rest) :
    (∃ ts, Reader.limit (significant s (Statement.rangeTokens limit offset) ++ rest) =
          some (limit, ts) ∧
        Reader.bound .OFFSET ts = some (offset, rest)) ∧
      Followed [.LIMIT, .OFFSET] (significant s (Statement.rangeTokens limit offset) ++ rest) := by
  have no_word (k : Keyword) : rest.head? ≠ some (.word k) := followed.head?_ne (by simp) (by simp)
  cases limit with
  | none =>
    cases offset with
    | none =>
      exact ⟨⟨rest, limit_other (no_word .LIMIT), bound_other (no_word .OFFSET)⟩,
        followed.mono (List.nil_subset _)⟩
    | some m =>
      have skipped := bound_number .OFFSET m rest
      rw [Statement.rangeTokens]
      cases dialect : s.dialect with
      | postgres =>
        have spelled : significant s (.unlimited :: (between [.OFFSET] ++ [.number m])) =
            [.word .OFFSET, .number m] := by
          simp [significant, seen, dialect, between, words]
        rw [spelled]
        exact ⟨⟨_, limit_other (by simp), skipped⟩, followed_word (by simp) _⟩
      | sqlite =>
        have spelled : significant s (.unlimited :: (between [.OFFSET] ++ [.number m])) =
            [.word .LIMIT, .mark .minus, .number 1, .word .OFFSET, .number m] := by
          simp [significant, seen, dialect, between, words]
        rw [spelled]
        exact ⟨⟨_, limit_unlimited _, skipped⟩, followed_word (by simp) _⟩
  | some n =>
    cases offset with
    | none =>
      exact ⟨⟨rest, limit_number n rest, bound_other (no_word .OFFSET)⟩, followed_word (by simp) _⟩
    | some m =>
      exact ⟨⟨_, limit_number n _, bound_number .OFFSET m rest⟩, followed_word (by simp) _⟩

/-! ### SELECT -/

theorem takes_operand {levels : Nat} (p : Piece) (r : Reduced) (ts : List Token)
    (back : ReadsBack s p r) (renders : p.Renders ts) (small : (significant s ts).length ≤ levels) :
    Takes (fun _ => True) (expressionWithin levels) r.form (significant s ts) :=
  fun rest _ => back.reads ts levels renders small rest

theorem takes_term {levels : Nat} (a : OrderTerm Piece) (b : OrderTerm Reduced) (ts : List Token)
    (related : ReadsBack s a.expr b.expr ∧ a.order = b.order) (writes : a.Writes ts)
    (small : (significant s ts).length ≤ levels) :
    Takes (fun _ => True) (term (expressionWithin levels)) (b.map Reduced.form)
      (significant s ts) := by
  intro rest _
  obtain ⟨e, renders, rfl⟩ := writes
  obtain ⟨back, same⟩ := related
  rw [significant_append, List.length_append] at small
  have inner := back.reads e levels renders (by omega) (.word a.order.keyword :: rest)
  rw [significant_append, List.append_assoc, OrderTerm.map, ← same]
  exact term_eq inner

/-- **A SELECT is read back** behind its first word, provided the operands in it are. -/
theorem selection_eq {p : Statement Piece} {q : Statement Reduced} {ts : List Token}
    (related : Statement.Related (ReadsBack s) p q) (writes : p.SelectWrites ts) (levels : Nat)
    (small : (significant s ts).length ≤ levels + 1) {rest : List Token}
    (followed : Followed [] rest) :
    ∃ us, significant s ts = .word .SELECT :: us ∧
      selection (expressionWithin levels) (us ++ rest) = some (q.selection, rest) := by
  obtain @⟨groups, fromTs, whereTs, groupTs, havingTs, orderTs, columns, source, filters, grouping,
    having_, ordering⟩ := writes
  generalize list :
    (if groups.flatten.isEmpty then [.number 1] else comma.intercalate groups.flatten) = listed
    at small ⊢
  have opening : (if p.distinct then [Keyword.SELECT, .DISTINCT] else [.SELECT]).map Token.word =
      .word .SELECT :: (if p.distinct then [.word .DISTINCT] else []) := by
    cases p.distinct <;> rfl
  simp only [significant_append, significant_blank, significant_words, opening, List.length_append,
    List.length_cons] at small
  obtain ⟨⟨afterLimit, limited, skipped⟩, follow⟩ := range_eq (s := s) p.limit p.offset followed
  obtain ⟨ordered, follow⟩ := clause_eq levels (significant_comma s) takes_term related.ordering
    ordering (by omega) (fun _ => trivial) (fun _ _ => trivial) (by decide) (by decide) follow
  obtain ⟨had, follow⟩ := clause_eq levels (significant_between s [.AND]) takes_operand
    related.having_ having_ (by omega) (fun _ => trivial) (fun _ _ => trivial) (by decide) (by decide) follow
  obtain ⟨grouped, follow⟩ := clause_eq levels (significant_comma s) takes_operand related.grouping
    grouping (by omega) (fun _ => trivial) (fun _ _ => trivial) (by decide) (by decide) follow
  obtain ⟨filtered, follow⟩ := clause_eq levels (significant_between s [.AND]) takes_operand
    related.filters filters (by omega) (fun _ => trivial) (fun _ _ => trivial) (by decide) (by decide)
    follow
  obtain ⟨sourced, follow⟩ := clause_eq levels (significant_comma s) takes_source related.trees source
    (by omega) (endsSource_of_not_word (by simp)) (fun _ => endsSource_of_followed (by decide))
    (by decide) (by decide) follow
  obtain ⟨selected, plain⟩ := selectList_eq levels related.columns columns list.symm (by omega)
    (follow.head?_ne (by simp) (by decide))
  have distinct : ∀ {ts : List Token}, ts.head? ≠ some (.word .DISTINCT) →
      ifNext [.word .DISTINCT] (pure true) (pure false)
        ((if p.distinct then [.word .DISTINCT] else []) ++ ts) = some (p.distinct, ts) := by
    intro ts other
    cases p.distinct with
    | false => exact ifNext_other other _ _
    | true => exact ifNext_append [.word .DISTINCT] _ _ ts
  refine ⟨(if p.distinct then [.word .DISTINCT] else []) ++ (significant s listed ++
    (significant s fromTs ++ (significant s whereTs ++ (significant s groupTs ++
    (significant s havingTs ++ (significant s orderTs ++ significant s (Statement.rangeTokens p.limit p.offset))))))), ?_, ?_⟩
  · simp only [significant_append, significant_blank, significant_words, opening, List.append_assoc,
      List.cons_append]
  · simp only [List.append_assoc]
    rw [selection]
    refine (bind_eq (distinct plain)).trans ?_
    refine (bind_eq selected).trans ?_
    refine (bind_eq sourced).trans ?_
    refine (bind_eq filtered).trans ?_
    refine (bind_eq grouped).trans ?_
    refine (bind_eq had).trans ?_
    refine (bind_eq ordered).trans ?_
    refine (bind_eq limited).trans ?_
    refine (bind_eq skipped).trans ?_
    rw [Statement.selection, ← related.distinct, ← related.limit, ← related.offset]
    rfl

end ReadBack

end SqlBuilder
