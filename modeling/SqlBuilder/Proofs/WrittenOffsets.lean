import SqlBuilder.Proofs.EmbeddedStatements
import SqlBuilder.Proofs.ExprFold
import SqlBuilder.Proofs.RenderedTokens

/-!
# Offsets in the text

A SELECT may have an offset and no limit, and one dialect then needs a limit that does not limit.  This
file finds the offsets that are written by walking a statement, and proves that the words and limits in
its tokens belong to them one by one.

* `WrittenOffset` : an offset, with the limit of its SELECT;
* `Node.offsets`, `Statement.offsets` : those met in an expression and in a statement, given those of
  what stands in the places;
* `Statement.writtenOffsets` : those met in a statement, from left to right;
* `Token.Offsets os ts` : the offsets among the tokens are these;
* **`Statement.offsets_of_writes_piece`** : the offsets among the tokens of a statement;
* **`Statement.limited_of_mem_writtenOffsets`** : each has a limit if every SELECT with an offset has.
-/

namespace SqlBuilder

/-- An offset in the text of a statement, with the limit of its SELECT if there is one. -/
structure WrittenOffset where
  limit : Option Nat
  rows : Nat
  deriving DecidableEq, Repr

/-! ### Walking a statement -/

/-- The offset among the bounds on the number of rows, if there is one. -/
def Statement.rangeOffsets (limit offset : Option Nat) : List WrittenOffset :=
  offset.toList.map fun m => ⟨limit, m⟩

/-- The offsets met in a join tree: left operand, right operand, predicate. -/
def JoinTree.offsets : JoinTree (List WrittenOffset) → List WrittenOffset
  | .scope _ | .missing _ | .endless _ => []
  | .join _ l r predicate => l.offsets ++ r.offsets ++ predicate.getD []

/-- The offsets met in a statement, clause by clause; that of a SELECT itself comes last. -/
def Statement.offsets (q : Statement (List WrittenOffset)) : List WrittenOffset :=
  match q.kind with
  | .select =>
    q.columns.flatten ++ q.source.trees.flatMap JoinTree.offsets ++ q.filters.flatten ++
      q.grouping.flatten ++ q.having.flatten ++ q.ordering.flatMap OrderTerm.expr ++
      rangeOffsets q.limit q.offset
  | .update => q.assignments.flatMap Assignment.value ++ q.filters.flatten
  | .delete => q.filters.flatten

/-- The offsets met in an expression.  Membership in an empty list does not look at its operand. -/
def Node.offsets : Node (List WrittenOffset) → List WrittenOffset
  | .row _ | .literal _ | .countRows | .inList _ [] _ => []
  | .field e _ | .not e | .isNull e | .aggregate _ _ e | .inList e (_ :: _) _ => e
  | .compare l _ r | .logical l _ r | .arithmetic l _ r => l ++ r
  | .coalesce es => es.flatten
  | .subquery q | .existence q _ => q.offsets

/-- The offsets met in a statement and in all that stands in it. -/
def Statement.writtenOffsets (q : Statement Expr) : List WrittenOffset :=
  (q.map (Expr.fold Node.offsets)).offsets

/-! ### Tokens -/

open Render

namespace Token

/-- Whether a token is no part of an offset. -/
def isOrdinary : Token → Bool
  | .unlimited | .word .OFFSET => false
  | _ => true

/-- The offsets among the tokens are these, each behind its limit or behind an unlimiting one. -/
inductive Offsets : List WrittenOffset → List Token → Prop where
  | nil : Offsets [] []
  | cons {os : List WrittenOffset} {t : Token} {ts : List Token} :
      t.isOrdinary = true → Offsets os ts → Offsets os (t :: ts)
  | offset {os : List WrittenOffset} {ts : List Token} (o : WrittenOffset) :
      Offsets os ts → Offsets (o :: os) (Statement.rangeTokens o.limit (some o.rows) ++ ts)

namespace Offsets

theorem append {os ps : List WrittenOffset} {ts us : List Token} (first : Offsets os ts)
    (rest : Offsets ps us) : Offsets (os ++ ps) (ts ++ us) := by
  induction first with
  | nil => exact rest
  | cons ordinary _ ih => exact .cons ordinary ih
  | offset o _ ih =>
    rw [List.append_assoc]
    exact .offset o ih

/-- Tokens that are no part of an offset. -/
theorem of_ordinary {ts : List Token} (h : ts.all isOrdinary = true) : Offsets [] ts := by
  induction ts with
  | nil => exact .nil
  | cons t ts ih =>
    rw [List.all_cons, Bool.and_eq_true] at h
    exact .cons h.1 (ih h.2)

/-- Such tokens in front. -/
theorem after {os : List WrittenOffset} {ts us : List Token} (ordinary : us.all isOrdinary = true)
    (h : Offsets os ts) : Offsets os (us ++ ts) := (of_ordinary ordinary).append h

/-- Such tokens behind. -/
theorem before {os : List WrittenOffset} {ts us : List Token} (h : Offsets os ts)
    (ordinary : us.all isOrdinary = true) : Offsets os (ts ++ us) := by
  have joined := h.append (of_ordinary ordinary)
  rwa [List.append_nil] at joined

theorem parenthesized {os : List WrittenOffset} {ts : List Token} (h : Offsets os ts) :
    Offsets os (Render.parenthesized ts) := .cons rfl (h.before rfl)

/-- Two operands around an operator. -/
theorem around {os ps : List WrittenOffset} {ts us : List Token} {op : Token}
    (ordinary : op.isOrdinary = true) (left : Offsets os ts) (right : Offsets ps us) :
    Offsets (os ++ ps) (Render.parenthesized (ts ++ .blank :: op :: .blank :: us)) :=
  (left.append (.cons rfl (.cons ordinary (.cons rfl right)))).parenthesized

theorem intercalate {separator : List Token} (ordinary : separator.all isOrdinary = true)
    {oss : List (List WrittenOffset)} {tss : List (List Token)} (each : List.Forall₂ Offsets oss tss) :
    Offsets oss.flatten (separator.intercalate tss) := by
  induction each with
  | nil => exact .nil
  | @cons os ts oss tss first rest ih =>
    cases rest with
    | nil =>
      rw [List.intercalate_singleton, List.flatten_singleton]
      exact first
    | cons second rest =>
      rw [List.intercalate_cons_cons, List.flatten_cons, List.append_assoc]
      exact first.append (ih.after ordinary)

end Offsets

theorem offsets_range (limit offset : Option Nat) :
    Offsets (Statement.rangeOffsets limit offset) (Statement.rangeTokens limit offset) := by
  cases offset with
  | none =>
    cases limit with
    | none => exact .nil
    | some n => exact .of_ordinary rfl
  | some m =>
    have alone := Offsets.offset ⟨limit, m⟩ .nil
    rwa [List.append_nil] at alone

/-! ### Tokens that are no part of an offset -/

theorem ordinary_intercalate {separator : List Token} (between : separator.all isOrdinary = true)
    {tss : List (List Token)} (each : ∀ ts ∈ tss, ts.all isOrdinary = true) :
    (separator.intercalate tss).all isOrdinary = true := by
  induction tss with
  | nil => rfl
  | cons ts tss ih =>
    obtain ⟨here, others⟩ := List.forall_mem_cons.1 each
    cases tss with
    | nil => rwa [List.intercalate_singleton]
    | cons us tss =>
      rw [List.intercalate_cons_cons, List.all_append, List.all_append, here, between, ih others]
      rfl

theorem ordinary_tableReference (s : Scope) : (tableReference s).all isOrdinary = true := by
  rw [tableReference]
  split <;> rfl

theorem isOrdinary_value (v : Value) : (value v).isOrdinary = true := by
  rw [value]
  split <;> rfl

theorem ordinary_values (vs : List Value) :
    (comma.intercalate (vs.map fun v => [value v])).all isOrdinary = true := by
  refine ordinary_intercalate rfl (List.forall_mem_map.2 fun v _ => ?_)
  rw [List.all_cons, isOrdinary_value]
  rfl

theorem isOrdinary_comparison (op : Comparison) : (comparison op).isOrdinary = true := by
  cases op <;> rfl

theorem ordinary_joinKeywords (kind : JoinKind) :
    (between kind.keywords).all isOrdinary = true := by
  cases kind <;> rfl

end Token

/-! ### Operands, clauses and statements -/

open Token

/-- Whatever tokens an operand has, these are the offsets among them; a whole row has none. -/
structure Piece.WithOffsets (p : Piece) (os : List WrittenOffset) : Prop where
  offsets : ∀ ts, p.Renders ts → Offsets os ts
  row : ∀ s, p.row? = some s → os = []

/-- A clause of items. -/
theorem offsets_of_clause {α β : Type} {opening : List Keyword} {separator : List Token}
    {item : α → List Token → Prop} {related : α → β → Prop} {offsets : β → List WrittenOffset}
    (ordinary : (between opening).all isOrdinary = true)
    (ordinary' : separator.all isOrdinary = true)
    (each : ∀ a b ts, related a b → item a ts → Offsets (offsets b) ts) {as : List α} {bs : List β}
    {ts : List Token} (alike : List.Forall₂ related as bs)
    (clause : ClauseWrites opening separator item as ts) : Offsets (bs.flatMap offsets) ts := by
  cases clause with
  | absent =>
    cases alike
    exact .nil
  | present items =>
    have held : List.Forall₂ Offsets (bs.map offsets) _ :=
      List.forall₂_map_left_iff.2 (forall₂_of_common each alike items)
    rw [List.flatMap_def]
    exact (Offsets.intercalate ordinary' held).after ordinary

/-- A clause of operands. -/
theorem offsets_of_operands {opening : List Keyword} {separator : List Token}
    (ordinary : (between opening).all isOrdinary = true)
    (ordinary' : separator.all isOrdinary = true) {ps : List Piece}
    {oss : List (List WrittenOffset)} {ts : List Token} (alike : List.Forall₂ Piece.WithOffsets ps oss)
    (clause : ClauseWrites opening separator Piece.Renders ps ts) : Offsets oss.flatten ts := by
  have each : ∀ (p : Piece) (os : List WrittenOffset) ts, p.WithOffsets os → p.Renders ts →
      Offsets (id os) ts := fun _ _ ts only renders => only.offsets ts renders
  have joined := offsets_of_clause ordinary ordinary' each alike clause
  rwa [List.flatMap_id] at joined

theorem offsets_of_joinTree {t : JoinTree Piece} {ts : List Token} (writes : t.Writes ts) :
    ∀ {t' : JoinTree (List WrittenOffset)}, JoinTree.Related Piece.WithOffsets t t' →
      Offsets t'.offsets ts := by
  have operand (r : JoinTree Piece) {os : List WrittenOffset} {us : List Token} (h : Offsets os us) :
      Offsets os (if r.isJoin then Render.parenthesized us else us) := by
    split
    · exact h.parenthesized
    · exact h
  induction writes with
  | scope s =>
    intro t' related
    cases related
    exact .of_ordinary (ordinary_tableReference s)
  | @join kind l r ts us left right ihl ihr =>
    intro t' related
    cases related with
    | join _ hl hr hp =>
      cases hp
      rw [JoinTree.offsets, Option.getD_none, List.append_nil]
      exact (ihl hl).append ((operand r (ihr hr)).after (ordinary_joinKeywords kind))
  | @joinOn kind l r p ts us vs _ left right predicate ihl ihr =>
    intro t' related
    cases related with
    | join _ hl hr hp =>
      cases hp with
      | some only =>
        have joined := (ihl hl).append ((operand r (ihr hr)).after (ordinary_joinKeywords kind))
        exact (joined.before rfl).append (only.offsets _ predicate)

/-- The columns that an operand stands for have the offsets that the operand has. -/
theorem offsets_of_columns {p : Piece} {os : List WrittenOffset} {tss : List (List Token)}
    (only : p.WithOffsets os) (columns : p.Columns tss) :
    ∃ oss, oss.flatten = os ∧ List.Forall₂ Offsets oss tss := by
  cases columns with
  | @row s row =>
    refine ⟨s.fields.map fun _ => [], ?_, ?_⟩
    · rw [only.row s row, List.flatten_eq_nil_iff]
      exact List.forall_mem_map.2 fun _ _ => rfl
    · exact forall₂_map_of_forall_mem fun f _ => .of_ordinary rfl
  | scalar row renders =>
    exact ⟨[os], List.flatten_singleton, .cons (only.offsets _ renders) .nil⟩

theorem offsets_of_columnGroups {ps : List Piece} {oss : List (List WrittenOffset)}
    {groups : List (List (List Token))} (only : List.Forall₂ Piece.WithOffsets ps oss)
    (columns : List.Forall₂ Piece.Columns ps groups) :
    ∃ pss, pss.flatten = oss.flatten ∧ List.Forall₂ Offsets pss groups.flatten := by
  induction only generalizing groups with
  | nil =>
    cases columns
    exact ⟨[], rfl, .nil⟩
  | cons first rest ih =>
    cases columns with
    | cons first' rest' =>
      obtain ⟨oss, flat, here⟩ := offsets_of_columns first first'
      obtain ⟨pss, flat', later⟩ := ih rest'
      refine ⟨oss ++ pss, ?_, ?_⟩
      · rw [List.flatten_append, flat, flat', List.flatten_cons]
      · rw [List.flatten_cons]
        exact List.rel_append here later

namespace Statement

variable {p : Statement Piece} {q : Statement (List WrittenOffset)} {ts : List Token}

theorem offsets_of_select (related : Statement.Related Piece.WithOffsets p q) (kind : p.kind = .select)
    (writes : p.SelectWrites ts) : Offsets q.offsets ts := by
  obtain @⟨groups, _, _, _, _, _, columns, source, filters, grouping, having_, ordering⟩ := writes
  obtain ⟨pss, flat, held⟩ := offsets_of_columnGroups related.columns columns
  have list : Offsets q.columns.flatten
      (if groups.flatten.isEmpty then [.number 1] else comma.intercalate groups.flatten) := by
    rw [← flat]
    split
    · rename_i empty
      rw [List.isEmpty_iff] at empty
      rw [empty] at held
      cases held
      exact .of_ordinary rfl
    · exact .intercalate rfl held
  have opened : Offsets q.columns.flatten
      (words (if p.distinct then [.SELECT, .DISTINCT] else [.SELECT]) ++ .blank ::
        (if groups.flatten.isEmpty then [.number 1] else comma.intercalate groups.flatten)) :=
    .after (by cases p.distinct <;> rfl) (.cons rfl list)
  have directive : ∀ (a : OrderTerm Piece) (b : OrderTerm (List WrittenOffset)) us,
      Piece.WithOffsets a.expr b.expr ∧ a.order = b.order → a.Writes us → Offsets b.expr us := by
    intro a b us ⟨only, _⟩ ⟨e, renders, same⟩
    rw [same]
    refine (only.offsets e renders).before ?_
    cases a.order <;> rfl
  have tree : ∀ (a : JoinTree Piece) (b : JoinTree (List WrittenOffset)) us,
      JoinTree.Related Piece.WithOffsets a b → a.Writes us → Offsets b.offsets us :=
    fun _ _ _ alike writes => offsets_of_joinTree writes alike
  have sourced := opened.append (offsets_of_clause rfl rfl tree related.trees source)
  have filtered := sourced.append (offsets_of_operands rfl rfl related.filters filters)
  have grouped := filtered.append (offsets_of_operands rfl rfl related.grouping grouping)
  have selected := grouped.append (offsets_of_operands rfl rfl related.having_ having_)
  have ordered := selected.append (offsets_of_clause rfl rfl directive related.ordering ordering)
  have ranged := ordered.append (offsets_range p.limit p.offset)
  rw [offsets, ← related.kind, kind, ← related.limit, ← related.offset]
  simpa only [List.append_assoc, List.cons_append] using ranged

theorem offsets_of_update (related : Statement.Related Piece.WithOffsets p q) (kind : p.kind = .update)
    (writes : p.UpdateWrites ts) : Offsets q.offsets ts := by
  obtain @⟨s, tss, _, target, assignments, filters⟩ := writes
  have each : ∀ (a : Assignment Piece) (b : Assignment (List WrittenOffset)) us,
      Piece.WithOffsets a.target b.target ∧ a.field = b.field ∧ a.op = b.op ∧
        Piece.WithOffsets a.value b.value → AssignmentWrites s a us → Offsets b.value us := by
    intro a b us ⟨_, _, _, only⟩ assigned
    have set {os : List WrittenOffset} {vs : List Token} (h : Offsets os vs) :
        Offsets os ([.name a.field, .blank, .mark .equal, .blank] ++ vs) := .after rfl h
    cases assigned with
    | plain row same op renders => exact set (only.offsets _ renders)
    | compound row same op renders =>
      have column : Offsets [] (columnReference s a.field) := .of_ordinary rfl
      exact set (.around rfl column (only.offsets _ renders))
  have held : List.Forall₂ Offsets (q.assignments.map Assignment.value) tss :=
    List.forall₂_map_left_iff.2 (forall₂_of_common each related.assignments assignments)
  have assigned : Offsets _ (comma.intercalate tss) := .intercalate rfl held
  have filtered := assigned.append (offsets_of_operands rfl rfl related.filters filters)
  have opening : (words [.UPDATE] ++ .blank :: tableReference s ++ between [.SET]).all
      isOrdinary = true := by
    rw [List.all_append, List.all_append, List.all_cons, ordinary_tableReference]
    rfl
  rw [offsets, ← related.kind, kind, List.flatMap_def, List.append_assoc _ (comma.intercalate tss)]
  exact filtered.after opening

theorem offsets_of_delete (related : Statement.Related Piece.WithOffsets p q) (kind : p.kind = .delete)
    (writes : p.DeleteWrites ts) : Offsets q.offsets ts := by
  obtain @⟨s, _, target, filters⟩ := writes
  have clause := offsets_of_operands rfl rfl related.filters filters
  have opening : (words [.DELETE, .FROM] ++ .blank :: tableReference s).all isOrdinary = true := by
    rw [List.all_append, List.all_cons, ordinary_tableReference]
    rfl
  rw [offsets, ← related.kind, kind]
  exact clause.after opening

/-- The offsets among the tokens of a statement are those met in it. -/
theorem offsets_of_writes (related : Statement.Related Piece.WithOffsets p q) (writes : p.Writes ts) :
    Offsets q.offsets ts := by
  cases writes with
  | select kind writes => exact offsets_of_select related kind writes
  | update kind writes => exact offsets_of_update related kind writes
  | delete kind writes => exact offsets_of_delete related kind writes

end Statement

/-! ### Expressions -/

/-- The tokens of an expression hold the limits of the offsets in it, provided those of its operands
do. -/
theorem Node.offsets_of_writes {m : Node Piece} {n : Node (List WrittenOffset)} {ts : List Token}
    (related : Node.Related Piece.WithOffsets m n) (writes : m.Writes ts) : Offsets n.offsets ts := by
  cases related with
  | row s => cases writes
  | field name only =>
    cases writes with
    | @column _ s _ row =>
      rw [Node.offsets, only.row s row]
      exact .of_ordinary rfl
    | field _ row renders => exact (only.offsets _ renders).parenthesized.before rfl
  | literal v =>
    cases writes
    exact .cons (isOrdinary_value v) .nil
  | compare op left right =>
    cases writes with
    | compare _ l r => exact .around (isOrdinary_comparison op) (left.offsets _ l) (right.offsets _ r)
  | logical op left right =>
    cases writes with
    | logical _ l r => exact .around (by cases op <;> rfl) (left.offsets _ l) (right.offsets _ r)
  | not only =>
    cases writes with
    | not renders =>
      have negated : Offsets _ ([.word .NOT, .blank] ++ _) := .after rfl (only.offsets _ renders)
      exact negated.parenthesized
  | arithmetic op left right =>
    cases writes with
    | arithmetic _ l r => exact .around rfl (left.offsets _ l) (right.offsets _ r)
  | isNull only =>
    cases writes with
    | isNull renders =>
      exact ((only.offsets _ renders).before rfl).parenthesized
  | countRows =>
    cases writes
    exact .of_ordinary rfl
  | aggregate f distinct only =>
    cases writes with
    | aggregate _ _ renders =>
      refine .cons (by cases f <;> rfl) (Offsets.parenthesized (.after ?_ (only.offsets _ renders)))
      cases distinct <;> rfl
  | inList vs negated only =>
    cases writes with
    | emptyList => exact .cons (by cases negated <;> rfl) .nil
    | inList v vs _ renders =>
      have listed : Offsets [] (parenthesized (comma.intercalate ((v :: vs).map fun v => [value v]))) :=
        (Offsets.of_ordinary (ordinary_values (v :: vs))).parenthesized
      have operator : (between (if negated then [.NOT, .IN] else [.IN])).all isOrdinary = true := by
        cases negated <;> rfl
      have tested := ((only.offsets _ renders).before operator).append listed
      rw [List.append_nil] at tested
      exact tested.parenthesized
  | coalesce only =>
    cases writes with
    | coalesce renders =>
      have each := forall₂_of_common (fun _ _ ts only renders => only.offsets ts renders) only renders
      exact .cons rfl (Offsets.intercalate rfl each).parenthesized
  | subquery related =>
    cases writes with
    | subquery kind writes => exact (Statement.offsets_of_select related kind writes).parenthesized
  | existence negated related =>
    cases writes with
    | existence _ kind writes =>
      have inner := (Statement.offsets_of_select related kind writes).parenthesized
      exact (Offsets.after (by cases negated <;> rfl) (.cons rfl inner)).parenthesized

theorem Piece.withOffsets_ofNode (m : Node Piece) (n : Node (List WrittenOffset))
    (related : Node.Related Piece.WithOffsets m n) : (Piece.ofNode m).WithOffsets n.offsets where
  offsets _ renders := Node.offsets_of_writes related (Piece.writes_of_renders renders)
  row s row := by
    rw [Piece.eq_row_of_row? row] at related
    cases related
    rfl

/-- **The offsets among the tokens of a statement** are those met in it and in all that stands in
it. -/
theorem Statement.offsets_of_writes_piece {q : Statement Expr} {ts : List Token}
    (writes : (q.map Expr.piece).Writes ts) : Offsets q.writtenOffsets ts :=
  offsets_of_writes (Statement.fold_related Piece.withOffsets_ofNode q) writes

/-! ### Statements with a limit for each offset -/

/-- A statement with an offset has a limit. -/
def Statement.Limited {ε : Type} (q : Statement ε) : Prop := q.offset.isSome → q.limit.isSome

/-- Each of these offsets has a limit; what the list is compared with does not matter. -/
def AllLimited (os _ : List WrittenOffset) : Prop := ∀ o ∈ os, o.limit.isSome

theorem allLimited_append {os os' ps ps' : List WrittenOffset} (left : AllLimited os os')
    (right : AllLimited ps ps') : AllLimited (os ++ ps) (os' ++ ps') :=
  List.forall_mem_append.2 ⟨left, right⟩

theorem allLimited_flatMap {α β : Type} {R : α → β → Prop} {f : α → List WrittenOffset}
    {g : β → List WrittenOffset} (each : ∀ a b, R a b → AllLimited (f a) (g b)) {as : List α}
    {bs : List β} (h : List.Forall₂ R as bs) : AllLimited (as.flatMap f) (bs.flatMap g) := by
  induction h with
  | nil => exact List.forall_mem_nil _
  | cons first rest ih => exact allLimited_append (each _ _ first) ih

theorem allLimited_flatten {oss pss : List (List WrittenOffset)}
    (h : List.Forall₂ AllLimited oss pss) : AllLimited oss.flatten pss.flatten := by
  have joined := allLimited_flatMap (f := id) (g := id) (fun _ _ here => here) h
  rwa [List.flatMap_id, List.flatMap_id] at joined

theorem Statement.allLimited_rangeOffsets {limit offset : Option Nat}
    (h : offset.isSome → limit.isSome) (os : List WrittenOffset) :
    AllLimited (rangeOffsets limit offset) os := by
  intro o mem
  obtain ⟨m, present, rfl⟩ := List.mem_map.1 mem
  rw [Option.mem_toList] at present
  rw [present] at h
  exact h rfl

theorem JoinTree.allLimited_offsets {t u : JoinTree (List WrittenOffset)}
    (h : JoinTree.Related AllLimited t u) : AllLimited t.offsets u.offsets := by
  induction h with
  | scope s | missing id | endless id => exact List.forall_mem_nil _
  | join kind left right predicate ihl ihr =>
    refine allLimited_append (allLimited_append ihl ihr) ?_
    cases predicate with
    | none => exact List.forall_mem_nil _
    | some here => exact here

theorem Statement.allLimited_offsets {p q : Statement (List WrittenOffset)} (limited : p.Limited)
    (h : Statement.Related AllLimited p q) : AllLimited p.offsets q.offsets := by
  have filters := allLimited_flatten h.filters
  rw [offsets, offsets, ← h.kind]
  cases p.kind with
  | select =>
    have sources := allLimited_flatMap (fun _ _ here => JoinTree.allLimited_offsets here) h.trees
    have terms := allLimited_flatMap (f := OrderTerm.expr) (g := OrderTerm.expr)
      (fun _ _ here => here.1) h.ordering
    have grouped := allLimited_append (allLimited_append (allLimited_append
      (allLimited_flatten h.columns) sources) filters) (allLimited_flatten h.grouping)
    exact allLimited_append (allLimited_append (allLimited_append grouped
      (allLimited_flatten h.having_)) terms) (allLimited_rangeOffsets limited _)
  | update =>
    have values := allLimited_flatMap (f := Assignment.value) (g := Assignment.value)
      (fun _ _ here => here.2.2.2) h.assignments
    exact allLimited_append values filters
  | delete => exact filters

theorem Node.allLimited_offsets {m n : Node (List WrittenOffset)}
    (limited : ∀ q, m.statement? = some q → q.Limited) (h : Node.Related AllLimited m n) :
    AllLimited m.offsets n.offsets := by
  cases h with
  | row s | literal v | countRows => exact List.forall_mem_nil _
  | field name here | not here | isNull here | aggregate f distinct here => exact here
  | compare op left right | logical op left right | arithmetic op left right =>
    exact allLimited_append left right
  | inList vs negated here =>
    cases vs with
    | nil => exact List.forall_mem_nil _
    | cons v vs => exact here
  | coalesce here => exact allLimited_flatten here
  | subquery here | existence negated here =>
    exact Statement.allLimited_offsets (limited _ rfl) here

theorem Node.statement?_map {α β : Type} (f : α → β) (n : Node α) :
    (n.map f).statement? = n.statement?.map (Statement.map f) := by
  cases n <;> rfl

theorem Expr.allLimited_offsets {e : Expr} (limited : ∀ q, e.Embeds q → q.Limited) :
    AllLimited (e.fold Node.offsets) (e.fold Node.offsets) := by
  induction e using Expr.node_induction with
  | step n ih =>
    have children : ∀ e ∈ n.children, AllLimited (e.fold Node.offsets) (e.fold Node.offsets) :=
      fun e mem => ih e mem fun q embedded => limited q (.within mem embedded)
    rw [Expr.fold_node]
    refine Node.allLimited_offsets (fun q here => ?_) (Node.map_related children)
    rw [Node.statement?_map] at here
    obtain ⟨r, embedded, rfl⟩ := Option.map_eq_some_iff.1 here
    exact limited r (.here embedded)

/-- **Each offset in the text has a limit** if every statement with an offset has one, this statement
and those embedded in it at any depth. -/
theorem Statement.limited_of_mem_writtenOffsets {q : Statement Expr}
    (limited : ∀ r, r = q ∨ q.Embeds r → r.Limited) :
    ∀ o ∈ q.writtenOffsets, o.limit.isSome := by
  have children : ∀ e ∈ q.children, AllLimited (e.fold Node.offsets) (e.fold Node.offsets) :=
    fun e mem => Expr.allLimited_offsets fun r embedded => limited r (.inr ⟨e, mem, embedded⟩)
  exact Statement.allLimited_offsets (limited q (.inl rfl)) (Statement.map_related children)

end SqlBuilder
