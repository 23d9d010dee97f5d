import SqlBuilder.Proofs.ExprFold
import SqlBuilder.Proofs.RenderedTokens

/-!
# Renderings that differ in bound values only

What the renderer writes depends on a value only by whether it is null.  Two operands whose values
stand in some relation are rendered to the same tokens, with related values bound in them, or fail
for the same reason.

* `Token.Alike V` : the same token, but for a bound value that is related by `V`;
* `Piece.Alike V` : operands that are rendered alike;
* `Node.Alike V R` : nodes alike but for values related by `V` and what stands in the places;
* **`Piece.alike_ofNode`** : the operands that such nodes make are rendered alike;
* **`Statement.alike_pieceTokens`** : so are statements;
* `Token.writeFrom_eq_of_alike` : tokens alike have the same text.
-/

namespace SqlBuilder

open Render

variable {V : Value → Value → Prop}

/-! ### Tokens -/

namespace Token

variable (V) in
/-- The same token, or placeholders of related values. -/
inductive Alike : Token → Token → Prop where
  | plain {t : Token} : t.arity = 0 → Alike t t
  | bind {v w : Value} : V v w → Alike (.bind v) (.bind w)

variable (V) in
/-- Lists of tokens alike. -/
abbrev AllAlike : List Token → List Token → Prop := List.Forall₂ (Alike V)

/-- The text of tokens does not depend on the values bound in them. -/
theorem writeFrom_eq_of_alike {ts us : List Token} (h : AllAlike V ts us) (s : Settings) :
    ∀ bound, writeFrom s bound ts = writeFrom s bound us := by
  induction h with
  | nil =>
    intro bound
    rfl
  | cons first rest ih =>
    intro bound
    rw [writeFrom, writeFrom]
    cases first with
    | plain bindless => rw [ih]
    | bind related =>
      show s.placeholder _ ++ writeFrom s (bound + 1) _ = s.placeholder _ ++ writeFrom s (bound + 1) _
      rw [ih]

/-- The values bound in tokens alike are related, one by one. -/
theorem parameters_related {ts us : List Token} (h : AllAlike V ts us) :
    List.Forall₂ V (parameters ts) (parameters us) := by
  induction h with
  | nil => exact .nil
  | @cons t u ts us first rest ih =>
    cases first with
    | plain bindless =>
      cases t with
      | bind v => cases bindless
      | _ => exact ih
    | bind related => exact .cons related ih

/-! ### Putting tokens together -/

theorem AllAlike.append {ts ts' us us' : List Token} (h : AllAlike V ts ts')
    (h' : AllAlike V us us') : AllAlike V (ts ++ us) (ts' ++ us') := List.rel_append h h'

/-- A token that binds nothing in front. -/
theorem AllAlike.cons_plain {ts us : List Token} {t : Token} (bindless : t.arity = 0)
    (h : AllAlike V ts us) : AllAlike V (t :: ts) (t :: us) := .cons (.plain bindless) h

theorem AllAlike.intercalate {separator : List Token} (h : AllAlike V separator separator)
    {tss uss : List (List Token)} (each : List.Forall₂ (AllAlike V) tss uss) :
    AllAlike V (separator.intercalate tss) (separator.intercalate uss) := by
  induction each with
  | nil => exact .nil
  | cons first rest ih =>
    cases rest with
    | nil =>
      rw [List.intercalate_singleton, List.intercalate_singleton]
      exact first
    | cons second rest =>
      rw [List.intercalate_cons_cons, List.intercalate_cons_cons]
      exact (first.append h).append ih

theorem AllAlike.parenthesized {ts us : List Token} (h : AllAlike V ts us) :
    AllAlike V (Render.parenthesized ts) (Render.parenthesized us) :=
  .cons_plain rfl (h.append (.cons_plain rfl .nil))

theorem alike_words (ks : List Keyword) : AllAlike V (words ks) (words ks) := by
  apply AllAlike.intercalate (.cons_plain rfl .nil)
  apply forall₂_map_of_forall_mem
  intro k _
  exact .cons_plain rfl .nil

theorem alike_between (ks : List Keyword) : AllAlike V (between ks) (between ks) :=
  .cons_plain rfl ((alike_words ks).append (.cons_plain rfl .nil))

theorem alike_comma : AllAlike V comma comma := .cons_plain rfl (.cons_plain rfl .nil)

theorem alike_columnReference (s : Scope) (field : String) :
    AllAlike V (columnReference s field) (columnReference s field) :=
  .cons_plain rfl (.cons_plain rfl (.cons_plain rfl .nil))

theorem alike_tableReference (s : Scope) : AllAlike V (tableReference s) (tableReference s) := by
  rw [tableReference]
  split
  · exact .cons_plain rfl .nil
  · exact .cons_plain rfl ((alike_between [.AS]).append (.cons_plain rfl .nil))

theorem alike_rangeTokens : ∀ limit offset,
    AllAlike V (Statement.rangeTokens limit offset) (Statement.rangeTokens limit offset)
  | none, none => .nil
  | some _, none => (alike_between _).append (.cons_plain rfl .nil)
  | none, some _ => .cons_plain rfl ((alike_between _).append (.cons_plain rfl .nil))
  | some _, some _ =>
    (alike_between _).append
      (.cons_plain rfl ((alike_between _).append (.cons_plain rfl .nil)))

/-- Values that are null together are written alike. -/
theorem alike_value {v w : Value} (related : V v w) (null : v.isNull = w.isNull) :
    AllAlike V [value v] [value w] := by
  rw [value, value, null]
  cases w.isNull with
  | true => exact .cons_plain rfl .nil
  | false => exact .cons (.bind related) .nil

theorem arity_comparisonSign (op : Comparison) : (comparison op).arity = 0 := by
  cases op <;> rfl

end Token

open Token

/-! ### Operands and lists of operands -/

variable (V) in
/-- Operands that are whole rows of the same scope, if of any, and have tokens alike or fail for the
same reason. -/
structure Piece.Alike (p q : Piece) : Prop where
  row : p.row? = q.row?
  tokens : Except.Related (AllAlike V) p.tokens.get q.tokens.get

/-- Renderings that are alike. -/
abbrev Rendering.Alike (V : Value → Value → Prop) : Rendering → Rendering → Prop :=
  Except.Related (AllAlike V)

theorem alike_separated {separator : List Token} (h : AllAlike V separator separator)
    {ps qs : List Piece} (each : List.Forall₂ (Piece.Alike V) ps qs) :
    Rendering.Alike V (separated separator ps) (separated separator qs) := by
  apply (Except.Related.mapM (each.imp fun _ _ alike => alike.tokens)).bind
  intro tss uss items
  exact .ok (h.intercalate items)

theorem alike_conjunction {ps qs : List Piece} (each : List.Forall₂ (Piece.Alike V) ps qs) :
    Rendering.Alike V (conjunction ps) (conjunction qs) :=
  alike_separated (alike_between [.AND]) each

/-- A clause of operands alike, whose bodies are rendered alike. -/
theorem alike_clause (opening : List Keyword) {body : List Piece → Rendering} {ps qs : List Piece}
    (each : List.Forall₂ (Piece.Alike V) ps qs) (bodies : Rendering.Alike V (body ps) (body qs)) :
    Rendering.Alike V (clause opening ps body) (clause opening qs body) := by
  cases each with
  | nil => exact .ok .nil
  | cons first rest =>
    apply bodies.bind
    intro ts us items
    exact .ok ((alike_between opening).append items)

/-- Related lists are empty together. -/
theorem isEmpty_eq_of_forall₂ {α β : Type} {R : α → β → Prop} {as : List α} {bs : List β}
    (h : List.Forall₂ R as bs) : as.isEmpty = bs.isEmpty := by
  cases h <;> rfl

theorem alike_around {l r l' r' : Piece} {op : Token} (bindless : op.arity = 0)
    (left : l.Alike V l') (right : r.Alike V r') :
    Rendering.Alike V (around l op r) (around l' op r') := by
  apply left.tokens.bind
  intro ts ts' first
  apply right.tokens.bind
  intro us us' second
  have tail := (second.cons_plain (t := .blank) rfl).cons_plain bindless
  exact .ok (first.append (tail.cons_plain (t := .blank) rfl)).parenthesized

/-! ### Sources -/

theorem isJoin_eq_of_related {α β : Type} {R : α → β → Prop} {t : JoinTree α} {u : JoinTree β}
    (h : JoinTree.Related R t u) : t.isJoin = u.isJoin := by
  cases h <;> rfl

theorem alike_joinTokens (kind : JoinKind) {ts ts' us us' : List Token} (nested : Bool)
    {p p' : Option Piece} (left : AllAlike V ts ts') (right : AllAlike V us us')
    (predicate : Option.Rel (Piece.Alike V) p p') :
    Rendering.Alike V (joinTokens kind ts us nested p) (joinTokens kind ts' us' nested p') := by
  have joined : AllAlike V
      (ts ++ (between kind.keywords ++ if nested then parenthesized us else us))
      (ts' ++ (between kind.keywords ++ if nested then parenthesized us' else us')) := by
    apply left.append
    apply (alike_between kind.keywords).append
    split
    · exact right.parenthesized
    · exact right
  cases predicate with
  | none => exact .ok joined
  | some alike =>
    have withPredicate := alike.tokens.bind fun vs vs' items =>
      .ok ((joined.append (alike_between [.ON])).append items)
    cases kind with
    | cross => exact .error _
    | _ => exact withPredicate

theorem alike_joinTree {t u : JoinTree Piece} (h : JoinTree.Related (Piece.Alike V) t u) :
    Rendering.Alike V t.tokens u.tokens := by
  induction h with
  | scope s => exact .ok (alike_tableReference s)
  | missing id => exact .error _
  | endless id => exact .error _
  | join kind left right predicate ihl ihr =>
    rw [JoinTree.tokens, JoinTree.tokens, isJoin_eq_of_related right]
    apply ihl.bind
    intro ts ts' first
    apply ihr.bind
    intro us us' second
    exact alike_joinTokens kind _ first second predicate

/-! ### Clauses of statements -/

namespace Statement

theorem alike_columnTokens {ps qs : List Piece} (each : List.Forall₂ (Piece.Alike V) ps qs) :
    Except.Related (List.Forall₂ (AllAlike V)) (columnTokens ps) (columnTokens qs) := by
  induction each with
  | nil => exact .ok .nil
  | @cons p q ps qs first rest ih =>
    rw [columnTokens, columnTokens, first.row]
    cases q.row? with
    | some s =>
      apply ih.bind
      intro tss uss later
      refine .ok (List.rel_append (forall₂_map_of_forall_mem fun f _ => ?_) later)
      exact alike_columnReference s f.name
    | none =>
      apply first.tokens.bind
      intro ts us here
      apply ih.bind
      intro tss uss later
      exact .ok (.cons here later)

theorem alike_selectList {ps qs : List Piece} (each : List.Forall₂ (Piece.Alike V) ps qs) :
    Rendering.Alike V (selectList ps) (selectList qs) := by
  apply (alike_columnTokens each).bind
  intro tss uss columns
  refine .ok ?_
  cases columns with
  | nil => exact .cons_plain rfl .nil
  | cons first rest => exact .intercalate alike_comma (.cons first rest)

variable {p q : Statement Piece}

theorem alike_fromTokens (h : Statement.Related (Piece.Alike V) p q) :
    Rendering.Alike V (fromTokens p.source) (fromTokens q.source) := by
  rw [fromTokens, fromTokens, ← h.roots]
  split
  · exact .ok .nil
  · have trees := h.trees
    rw [h.roots, FromClause.mapM_tokensAt_roots, ← h.roots, FromClause.mapM_tokensAt_roots]
    apply (Except.Related.mapM (trees.imp fun _ _ alike => alike_joinTree alike)).bind
    intro tss uss items
    exact .ok ((alike_between [.FROM]).append (.intercalate alike_comma items))

theorem alike_orderTokens {terms terms' : List (OrderTerm Piece)}
    (each : List.Forall₂ (fun t u => Piece.Alike V t.expr u.expr ∧ t.order = u.order) terms terms') :
    Rendering.Alike V (orderTokens terms) (orderTokens terms') := by
  rw [orderTokens, orderTokens, isEmpty_eq_of_forall₂ each]
  split
  · exact .ok .nil
  · apply (Except.Related.mapM (S := AllAlike V) (each.imp ?_)).bind
    · intro tss uss items
      exact .ok ((alike_between [.ORDER, .BY]).append (.intercalate alike_comma items))
    · rintro t u ⟨alike, order⟩
      rw [order]
      apply alike.tokens.bind
      intro ts us items
      exact .ok (items.append (.cons_plain rfl (.cons_plain rfl .nil)))

theorem alike_selectTokens (h : Statement.Related (Piece.Alike V) p q) :
    Rendering.Alike V p.selectTokens q.selectTokens := by
  have none_set := isEmpty_eq_of_forall₂ h.assignments
  rw [selectTokens, selectTokens, none_set, h.kind]
  split
  · apply (alike_selectList h.columns).bind
    intro columns columns' alike_columns
    apply (alike_fromTokens h).bind
    intro source source' alike_source
    apply (alike_clause [.WHERE] h.filters (alike_conjunction h.filters)).bind
    intro filters filters' alike_filters
    apply (alike_clause [.GROUP, .BY] h.grouping (alike_separated alike_comma h.grouping)).bind
    intro grouping grouping' alike_grouping
    apply (alike_clause [.HAVING] h.having_ (alike_conjunction h.having_)).bind
    intro having_ having_' alike_having
    apply (alike_orderTokens h.ordering).bind
    intro ordering ordering' alike_ordering
    rw [h.distinct, h.limit, h.offset]
    have opened := (alike_words (V := V)
      (if q.distinct then [.SELECT, .DISTINCT] else [.SELECT])).append
        (alike_columns.cons_plain (t := .blank) rfl)
    have selected := (opened.append alike_source).append alike_filters
    have grouped := (selected.append alike_grouping).append alike_having
    exact .ok ((grouped.append alike_ordering).append (alike_rangeTokens q.limit q.offset))
  · exact .error _

/-- The clause of a SELECT that an UPDATE or DELETE stumbles over does not depend on what stands in
the places. -/
theorem rowClause?_eq {α β : Type} {R : α → β → Prop} {p : Statement α} {q : Statement β}
    (h : Statement.Related R p q) : p.rowClause? = q.rowClause? := by
  rw [rowClause?, rowClause?, h.distinct, isEmpty_eq_of_forall₂ h.grouping,
    isEmpty_eq_of_forall₂ h.having_, isEmpty_eq_of_forall₂ h.ordering, h.limit, h.offset]

/-- Nor does the table that it works on. -/
theorem target_eq {α β : Type} {R : α → β → Prop} {p : Statement α} {q : Statement β}
    (h : Statement.Related R p q) : p.target = q.target := by
  rw [target, target, rowClause?_eq h, h.kind, h.roots]
  split
  · rfl
  · split
    · rename_i root _
      have here : Option.Rel (Registration.Related R) (p.source.get? root) (q.source.get? root) :=
        forall₂_getElem? h.registrations root
      generalize p.source.get? root = found at here ⊢
      generalize q.source.get? root = found' at here ⊢
      cases here with
      | none => rfl
      | some related => cases related <;> rfl
    · rfl

theorem alike_assignmentTokens (s : Scope) {a b : Assignment Piece} (target : a.target.Alike V b.target)
    (field : a.field = b.field) (op : a.op = b.op) (assigned : a.value.Alike V b.value) :
    Rendering.Alike V (assignmentTokens s a) (assignmentTokens s b) := by
  rw [assignmentTokens, assignmentTokens, target.row, field, op]
  split
  · apply assigned.tokens.bind
    intro ts us items
    refine .ok (.cons_plain rfl (.cons_plain rfl (.cons_plain rfl (.cons_plain rfl ?_))))
    cases b.op.arithmetic? with
    | none => exact items
    | some op' =>
      apply AllAlike.parenthesized
      apply (alike_columnReference s b.field).append
      exact .cons_plain rfl (.cons_plain rfl (.cons_plain rfl items))
  · exact .error _

theorem alike_updateTokens (h : Statement.Related (Piece.Alike V) p q) :
    Rendering.Alike V p.updateTokens q.updateTokens := by
  have none_set := isEmpty_eq_of_forall₂ h.assignments
  rw [updateTokens, updateTokens, none_set]
  split
  · exact .error _
  · rw [updateClauses, updateClauses, target_eq h]
    cases q.target with
    | error e => exact .error e
    | ok s =>
      have each : List.Forall₂ (fun a b => Rendering.Alike V (assignmentTokens s a)
          (assignmentTokens s b)) p.assignments q.assignments := by
        apply h.assignments.imp
        rintro a b ⟨target, field, op, assigned⟩
        exact alike_assignmentTokens s target field op assigned
      apply (Except.Related.mapM each).bind
      intro tss uss items
      apply (alike_clause [.WHERE] h.filters (alike_conjunction h.filters)).bind
      intro filters filters' alike_filters
      have opened := (alike_words (V := V) [.UPDATE]).append
        ((alike_tableReference s).cons_plain (t := .blank) rfl)
      have set := (opened.append (alike_between [.SET])).append (.intercalate alike_comma items)
      exact .ok (set.append alike_filters)

theorem alike_deleteTokens (h : Statement.Related (Piece.Alike V) p q) :
    Rendering.Alike V p.deleteTokens q.deleteTokens := by
  have none_set := isEmpty_eq_of_forall₂ h.assignments
  rw [deleteTokens, deleteTokens, none_set, h.kind]
  split
  · rw [deleteClauses, deleteClauses, target_eq h]
    cases q.target with
    | error e => exact .error e
    | ok s =>
      apply (alike_clause [.WHERE] h.filters (alike_conjunction h.filters)).bind
      intro filters filters' alike_filters
      have opened := (alike_words (V := V) [.DELETE, .FROM]).append
        ((alike_tableReference s).cons_plain (t := .blank) rfl)
      exact .ok (opened.append alike_filters)
  · exact .error _

/-- **Statements alike are rendered alike**, whatever their kind. -/
theorem alike_pieceTokens (h : Statement.Related (Piece.Alike V) p q) :
    Rendering.Alike V p.pieceTokens q.pieceTokens := by
  rw [pieceTokens, pieceTokens, h.kind]
  cases q.kind with
  | select => exact alike_selectTokens h
  | update => exact alike_updateTokens h
  | delete => exact alike_deleteTokens h

theorem alike_nestedTokens (h : Statement.Related (Piece.Alike V) p q) :
    Rendering.Alike V p.nestedTokens q.nestedTokens := by
  rw [nestedTokens, nestedTokens, h.kind]
  split
  · exact alike_selectTokens h
  · exact .error _

end Statement

/-! ### Expressions -/

variable (V) in
/-- Nodes alike but for values related by `V` and for what stands in the places. -/
inductive Node.Alike {α β : Type} (R : α → β → Prop) : Node α → Node β → Prop where
  | literal {v w : Value} : V v w → Alike R (.literal v) (.literal w)
  | inList {a : α} {b : β} {vs ws : List Value} (negated : Bool) :
      R a b → List.Forall₂ V vs ws → Alike R (.inList a vs negated) (.inList b ws negated)
  | other {m : Node α} {n : Node β} : m.values = [] → Node.Related R m n → Alike R m n

/-- An operand that is rendered like another. -/
theorem alike_scalar {x y : Unit → Rendering} (h : Rendering.Alike V (x ()) (y ())) :
    (Piece.scalar x).Alike V (Piece.scalar y) := ⟨rfl, h⟩

/-- **Nodes alike make operands that are rendered alike**, provided that related values are null
together. -/
theorem Piece.alike_ofNode (nulls : ∀ v w, V v w → v.isNull = w.isNull) {m n : Node Piece}
    (h : Node.Alike V (Piece.Alike V) m n) : (ofNode m).Alike V (ofNode n) := by
  cases h with
  | literal related => exact alike_scalar (.ok (alike_value related (nulls _ _ related)))
  | @inList a b vs ws negated operand related =>
    cases related with
    | nil => exact alike_scalar (.ok (.cons_plain rfl .nil))
    | @cons v w vs ws first rest =>
      apply alike_scalar
      apply operand.tokens.bind
      intro ts us items
      have members : List.Forall₂ (AllAlike V) ((v :: vs).map fun v => [value v])
          ((w :: ws).map fun w => [value w]) := by
        rw [List.forall₂_map_left_iff, List.forall₂_map_right_iff]
        apply (List.Forall₂.cons first rest).imp
        intro v w related
        exact alike_value related (nulls v w related)
      have listed := (AllAlike.intercalate alike_comma members).parenthesized
      exact .ok ((items.append (alike_between _)).append listed).parenthesized
  | other valueless related =>
    cases related with
    | row s => exact ⟨rfl, .error _⟩
    | @field a b name base =>
      rw [ofNode, ofNode, base.row]
      cases b.row? with
      | some s => exact alike_scalar (.ok (alike_columnReference s name))
      | none =>
        apply alike_scalar
        apply base.tokens.bind
        intro ts us items
        exact .ok (items.parenthesized.append (.cons_plain rfl (.cons_plain rfl .nil)))
    | literal v => cases valueless
    | compare op left right => exact alike_scalar (alike_around (arity_comparisonSign op) left right)
    | logical op left right => exact alike_scalar (alike_around rfl left right)
    | not operand =>
      apply alike_scalar
      apply operand.tokens.bind
      intro ts us items
      exact .ok (items.cons_plain (t := .blank) rfl |>.cons_plain rfl).parenthesized
    | arithmetic op left right => exact alike_scalar (alike_around rfl left right)
    | isNull operand =>
      apply alike_scalar
      apply operand.tokens.bind
      intro ts us items
      exact .ok (items.append ((alike_words _).cons_plain rfl)).parenthesized
    | countRows =>
      exact alike_scalar (.ok (.cons_plain rfl (AllAlike.parenthesized (.cons_plain rfl .nil))))
    | aggregate f distinct operand =>
      apply alike_scalar
      apply operand.tokens.bind
      intro ts us items
      refine .ok (.cons_plain rfl (AllAlike.parenthesized (.append ?_ items)))
      cases distinct with
      | true => exact .cons_plain rfl (.cons_plain rfl .nil)
      | false => exact .nil
    | inList vs negated operand =>
      rw [show vs = [] from valueless]
      exact alike_scalar (.ok (.cons_plain rfl .nil))
    | coalesce operands =>
      apply alike_scalar
      apply (alike_separated alike_comma operands).bind
      intro ts us items
      exact .ok (items.parenthesized.cons_plain rfl)
    | subquery related =>
      apply alike_scalar
      apply (Statement.alike_nestedTokens related).bind
      intro ts us items
      exact .ok items.parenthesized
    | existence negated related =>
      apply alike_scalar
      apply (Statement.alike_nestedTokens related).bind
      intro ts us items
      have inner := items.parenthesized.cons_plain (t := .blank) rfl
      exact .ok ((alike_words _).append inner).parenthesized

end SqlBuilder
