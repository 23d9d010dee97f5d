import SqlBuilder.Proofs.RenderedTokens
import SqlBuilder.Proofs.WellShaped

/-!
# Rendering succeeds on well-shaped statements only

The renderer is followed construct by construct, and each of its checks is found in the shape that a
statement must have: nothing else is checked, and nothing that is asked for is left unchecked.

* `Succeeds` : a computation has a result, with the rules for sequences and traversals;
* `FromClause.tokensAt_succeeds` : a position has tokens exactly when all that it leads to fits;
* `Statement.selectTokens_succeeds`, `Statement.updateTokens_succeeds`,
  `Statement.deleteTokens_succeeds`, `Piece.succeeds_ofNode` : each kind of statement and each form of
  expression;
* **`Statement.render_succeeds_iff`** : exactly the well-shaped statements have a text.
-/

namespace SqlBuilder

/-- A computation that has a result. -/
def Succeeds {ε α : Type} (x : Except ε α) : Prop := ∃ a, x = .ok a

section Results

variable {ε α β : Type}

@[simp] theorem succeeds_ok (a : α) : Succeeds (.ok a : Except ε α) := ⟨a, rfl⟩

@[simp] theorem not_succeeds_error (e : ε) : ¬ Succeeds (.error e : Except ε α) := by
  rintro ⟨a, failed⟩
  cases failed

theorem succeeds_bind_iff {x : Except ε α} {f : α → Except ε β} :
    Succeeds (x >>= f) ↔ ∃ a, x = .ok a ∧ Succeeds (f a) := by
  cases x with
  | error e =>
    show Succeeds (.error e) ↔ _
    simp
  | ok a =>
    show Succeeds (f a) ↔ _
    simp

/-- A computation after another, where it does not depend on the first result whether the second has
one. -/
theorem succeeds_bind {x : Except ε α} {f : α → Except ε β} {P : Prop}
    (next : ∀ a, Succeeds (f a) ↔ P) : Succeeds (x >>= f) ↔ Succeeds x ∧ P := by
  rw [succeeds_bind_iff, Succeeds, ← exists_and_right]
  exact exists_congr fun a => and_congr_right fun _ => next a

/-- What is done with a result at the end does not fail. -/
theorem succeeds_bind_pure {x : Except ε α} {f : α → β} :
    Succeeds (x >>= fun a => pure (f a)) ↔ Succeeds x :=
  (succeeds_bind fun a => iff_true_intro (succeeds_ok (f a))).trans (and_iff_left trivial)

theorem succeeds_mapM {f : α → Except ε β} {as : List α} :
    Succeeds (as.mapM f) ↔ ∀ a ∈ as, Succeeds (f a) := by
  induction as with
  | nil =>
    rw [List.mapM_nil]
    simp [pure, Except.pure]
  | cons a as ih =>
    rw [List.mapM_cons, List.forall_mem_cons, ← ih]
    exact succeeds_bind fun _ => succeeds_bind_pure

end Results

open Render

/-- An operand that has tokens as a scalar. -/
def Piece.Succeeds (p : Piece) : Prop := SqlBuilder.Succeeds p.tokens.get

/-! ### Operands -/

theorem separated_succeeds (separator : List Token) (ps : List Piece) :
    Succeeds (separated separator ps) ↔ ∀ p ∈ ps, p.Succeeds :=
  succeeds_bind_pure.trans succeeds_mapM

theorem clause_succeeds (opening : List Keyword) (separator : List Token) (ps : List Piece) :
    Succeeds (clause opening ps (separated separator)) ↔ ∀ p ∈ ps, p.Succeeds := by
  cases ps with
  | nil => simp [clause]
  | cons p ps => exact succeeds_bind_pure.trans (separated_succeeds separator _)

theorem around_succeeds (l r : Piece) (op : Token) :
    Succeeds (around l op r) ↔ l.Succeeds ∧ r.Succeeds :=
  succeeds_bind fun _ => succeeds_bind_pure

/-! ### Sources -/

theorem joinTokens_succeeds (kind : JoinKind) (left right : List Token) (nested : Bool)
    (predicate : Option Piece) :
    Succeeds (joinTokens kind left right nested predicate) ↔
      ∀ p, predicate = some p → kind ≠ .cross ∧ p.Succeeds := by
  cases predicate with
  | none => simp [joinTokens]
  | some p =>
    have given : (∀ p', some p = some p' → kind ≠ .cross ∧ p'.Succeeds) ↔
        kind ≠ .cross ∧ p.Succeeds := by simp
    rw [given]
    cases kind with
    | cross => simp [joinTokens]
    | inner | leftOuter | rightOuter | fullOuter =>
      simp only [ne_eq, reduceCtorEq, not_false_eq_true, true_and]
      exact succeeds_bind_pure

namespace FromClause

variable {c : FromClause Piece}

/-- One level of a tree. -/
theorem tokensWithin_succeeds (depth id : Nat) :
    Succeeds (c.tokensWithin (depth + 1) id) ↔ id < c.registrations.length ∧
      (∀ operand, c.Operates id operand → Succeeds (c.tokensWithin depth operand)) ∧
      ∀ j, c.get? id = some (.join j) → ∀ p, j.predicate = some p → j.kind ≠ .cross ∧ p.Succeeds := by
  have registered : id < c.registrations.length ↔ (c.get? id).isSome = true := by simp [get?]
  rw [tokensWithin, registered]
  simp only [Operates]
  cases c.get? id with
  | none => simp
  | some r =>
    cases r with
    | scope s => simp
    | join j =>
      have joined (l r : List Token) := joinTokens_succeeds j.kind l r (c.isJoinAt j.right) j.predicate
      refine (succeeds_bind fun l => succeeds_bind fun r => joined l r).trans ?_
      simp [or_imp, forall_and, and_assoc]

/-- The operands of a position with tokens have tokens too, found at a smaller depth. -/
theorem succeeds_of_operates (depth id : Nat) (h : Succeeds (c.tokensWithin depth id)) (operand : Nat)
    (step : c.Operates id operand) : ∃ less < depth, Succeeds (c.tokensWithin less operand) := by
  cases depth with
  | zero => simp [tokensWithin] at h
  | succ depth =>
    exact ⟨depth, depth.lt_succ_self, ((tokensWithin_succeeds depth id).1 h).2.1 operand step⟩

theorem fits_of_succeeds {depth id : Nat} (h : Succeeds (c.tokensWithin depth id)) :
    c.Fits Piece.Succeeds id := by
  have acyclic := acyclic_of_down succeeds_of_operates depth h
  cases depth with
  | zero => simp [tokensWithin] at h
  | succ depth =>
    obtain ⟨registered, _, predicates⟩ := (tokensWithin_succeeds depth id).1 h
    exact ⟨registered, acyclic, predicates⟩

/-- **A position has tokens** exactly when every position that it leads to fits. -/
theorem tokensAt_succeeds (c : FromClause Piece) (root : Nat) :
    Succeeds (c.tokensAt root) ↔
      ∀ id, Relation.ReflTransGen c.Operates root id → c.Fits Piece.Succeeds id := by
  constructor
  · intro h id path
    rcases Relation.reflTransGen_iff_eq_or_transGen.1 path with rfl | path
    · exact fits_of_succeeds h
    · obtain ⟨depth, _, found⟩ := exists_of_transGen succeeds_of_operates path _ h
      exact fits_of_succeeds found
  · intro fits
    refine of_acyclic (P := fun depth id => Succeeds (c.tokensWithin depth id))
      (fun depth id path operands => ?_) fun id path => (fits id path).acyclic
    obtain ⟨registered, _, predicates⟩ := fits id path
    exact (tokensWithin_succeeds depth id).2 ⟨registered, operands, predicates⟩

end FromClause

/-! ### The three kinds of statements -/

namespace Statement

theorem columnTokens_succeeds (ps : List Piece) :
    Succeeds (columnTokens ps) ↔ ∀ p ∈ ps, (∃ s, p.row? = some s) ∨ p.Succeeds := by
  induction ps with
  | nil => simp [columnTokens]
  | cons p ps ih =>
    rw [columnTokens, List.forall_mem_cons, ← ih]
    cases p.row? with
    | some s =>
      simp only [Option.some.injEq, exists_eq', true_or, true_and]
      exact succeeds_bind_pure
    | none =>
      simp only [reduceCtorEq, exists_false, false_or]
      exact succeeds_bind fun _ => succeeds_bind_pure

theorem orderTokens_succeeds (ts : List (OrderTerm Piece)) :
    Succeeds (orderTokens ts) ↔ ∀ t ∈ ts, t.expr.Succeeds := by
  cases ts with
  | nil => simp [orderTokens]
  | cons t ts =>
    refine succeeds_bind_pure.trans (succeeds_mapM.trans ?_)
    exact forall₂_congr fun u _ => succeeds_bind_pure

theorem fromTokens_succeeds (c : FromClause Piece) :
    Succeeds (fromTokens c) ↔ c.WellShaped Piece.Succeeds := by
  have roots : Succeeds (c.roots.mapM c.tokensAt) ↔ c.WellShaped Piece.Succeeds :=
    succeeds_mapM.trans (forall₂_congr fun root _ => c.tokensAt_succeeds root)
  rw [fromTokens]
  split
  · rename_i none
    rw [List.isEmpty_iff] at none
    simp [FromClause.WellShaped, none]
  · exact succeeds_bind_pure.trans roots

variable (q : Statement Piece)

/-- **A SELECT has tokens** exactly when it looks like one. -/
theorem selectTokens_succeeds : Succeeds q.selectTokens ↔ q.SelectShaped Piece.row? Piece.Succeeds := by
  rw [selectTokens, selectShaped_iff]
  cases q.assignments with
  | cons a as => simp
  | nil =>
    have columns : Succeeds (selectList q.columns) ↔ _ :=
      succeeds_bind_pure.trans (columnTokens_succeeds q.columns)
    rw [← columns, ← fromTokens_succeeds, ← clause_succeeds [.WHERE] (between [.AND]) q.filters,
      ← clause_succeeds [.GROUP, .BY] comma, ← clause_succeeds [.HAVING] (between [.AND]) q.having,
      ← orderTokens_succeeds]
    simp only [List.isEmpty_nil, if_true, true_and]
    refine succeeds_bind fun _ => succeeds_bind fun _ => succeeds_bind fun _ => ?_
    exact succeeds_bind fun _ => succeeds_bind fun _ => succeeds_bind_pure

theorem nestedTokens_succeeds :
    Succeeds q.nestedTokens ↔ q.kind = .select ∧ q.SelectShaped Piece.row? Piece.Succeeds := by
  rw [nestedTokens, ← selectTokens_succeeds]
  split
  · simp [*]
  · simp [*]

variable {q}

/-- The first clause of a SELECT is missing when they all are. -/
theorem rowClause?_eq_none_iff : q.rowClause? = none ↔ q.Rowless := by
  constructor
  · intro h
    simp only [rowClause?] at h
    split_ifs at h with distinct grouping having_ ordering limit offset
    simp only [Bool.not_eq_true, Bool.not_eq_true', Bool.not_eq_false, List.isEmpty_iff,
      Option.isSome_eq_false_iff, Option.isNone_iff_eq_none]
      at distinct grouping having_ ordering limit offset
    exact ⟨distinct, grouping, having_, ordering, limit, offset⟩
  · rintro ⟨distinct, grouping, having_, ordering, limit, offset⟩
    simp [rowClause?, distinct, grouping, having_, ordering, limit, offset]

/-- The table that an UPDATE or a DELETE works on. -/
theorem target_eq_ok_iff {s : Scope} : q.target = .ok s ↔ q.Targets s := by
  have rows : q.Targets s ↔ q.rowClause? = none ∧
      ∃ root, q.source.roots = [root] ∧ q.source.get? root = some (.scope s) := by
    rw [rowClause?_eq_none_iff]
    exact ⟨fun h => ⟨h.rowless, h.only⟩, fun h => ⟨h.1, h.2⟩⟩
  rw [rows, target]
  cases q.rowClause? with
  | some clause => simp
  | none =>
    match q.source.roots with
    | [] => simp
    | [root] =>
      simp only [true_and, List.cons.injEq, and_true, exists_eq_left']
      cases q.source.get? root with
      | none => simp
      | some r =>
        cases r with
        | scope s' => simp
        | join j => simp
    | root :: root' :: roots => simp

theorem assignmentTokens_succeeds (s : Scope) (a : Assignment Piece) :
    Succeeds (assignmentTokens s a) ↔ a.Fits Piece.row? Piece.Succeeds s := by
  have target : a.target.row?.any (fun t => t.id == s.id) = true ↔
      ∃ t, a.target.row? = some t ∧ t.id = s.id := by
    simp [Option.any_eq_true]
  rw [assignmentTokens, Assignment.Fits, ← target]
  split
  · rename_i fits
    rw [fits]
    simp only [true_and]
    exact succeeds_bind_pure
  · rename_i differs
    simp [differs]

variable (q)

/-- **An UPDATE has tokens** exactly when it looks like one. -/
theorem updateTokens_succeeds :
    Succeeds q.updateTokens ↔ q.UpdateShaped Piece.row? Piece.Succeeds := by
  have assigned (s : Scope) : Succeeds (q.assignments.mapM (assignmentTokens s)) ↔
      ∀ a ∈ q.assignments, a.Fits Piece.row? Piece.Succeeds s :=
    succeeds_mapM.trans (forall₂_congr fun a _ => assignmentTokens_succeeds s a)
  rw [updateTokens, updateShaped_iff, ← clause_succeeds [.WHERE] (between [.AND])]
  split
  · rename_i none
    rw [List.isEmpty_iff] at none
    simp [none]
  · rename_i some
    rw [List.isEmpty_iff] at some
    simp only [ne_eq, some, not_false_eq_true, true_and, ← target_eq_ok_iff, ← assigned,
      ← exists_and_right, and_assoc]
    refine succeeds_bind_iff.trans (exists_congr fun s => and_congr_right fun _ => ?_)
    exact succeeds_bind fun _ => succeeds_bind_pure

/-- **A DELETE has tokens** exactly when it looks like one. -/
theorem deleteTokens_succeeds : Succeeds q.deleteTokens ↔ q.DeleteShaped Piece.Succeeds := by
  rw [deleteTokens, deleteShaped_iff, ← clause_succeeds [.WHERE] (between [.AND])]
  simp only [← target_eq_ok_iff]
  cases q.assignments with
  | nil => exact (succeeds_bind fun s => succeeds_bind_pure).trans (and_iff_right rfl).symm
  | cons a as => simp

/-- A statement of any kind has tokens exactly when it looks like one of its kind. -/
theorem pieceTokens_succeeds : Succeeds q.pieceTokens ↔ q.Shaped Piece.row? Piece.Succeeds := by
  rw [pieceTokens, Shaped]
  cases q.kind with
  | select => exact q.selectTokens_succeeds
  | update => exact q.updateTokens_succeeds
  | delete => exact q.deleteTokens_succeeds

end Statement

/-! ### Expressions -/

/-- **An operand has tokens** exactly when its node is a scalar. -/
theorem Piece.succeeds_ofNode (n : Node Piece) :
    (ofNode n).Succeeds ↔ n.Scalar Piece.row? Piece.Succeeds := by
  cases n with
  | row s => exact iff_of_false (not_succeeds_error _) id
  | field base name =>
    rw [ofNode, Node.Scalar]
    cases row : base.row? with
    | some s => exact iff_of_true (succeeds_ok _) (Or.inl ⟨s, rfl⟩)
    | none =>
      refine succeeds_bind_pure.trans ?_
      simp [Succeeds]
  | literal v | countRows => exact iff_of_true (succeeds_ok _) (by simp [Node.Scalar, Node.children])
  | compare l op r | logical l op r | arithmetic l op r =>
    refine (around_succeeds l r _).trans ?_
    simp [Node.Scalar, Node.children]
  | not e | isNull e | aggregate f distinct e =>
    refine succeeds_bind_pure.trans ?_
    simp [Node.Scalar, Node.children, Succeeds]
  | inList e vs negated =>
    cases vs with
    | nil => exact iff_of_true (succeeds_ok _) trivial
    | cons v vs =>
      refine succeeds_bind_pure.trans ?_
      simp [Node.Scalar, Node.children, Succeeds]
  | coalesce es => exact succeeds_bind_pure.trans (separated_succeeds comma es)
  | subquery q | existence q negated => exact succeeds_bind_pure.trans q.nestedTokens_succeeds

/-- An operand is a whole row where its role is that of one. -/
theorem Piece.row?_ofNode {R : Piece → Role → Prop} {m : Node Piece} {n : Node Role}
    (h : Node.Related R m n) :
    (ofNode m).row? = (Role.ofNode n).row? := by
  cases h with
  | @field a b name r =>
    rw [ofNode]
    cases a.row? with
    | _ => rfl
  | inList vs negated r =>
    cases vs with
    | _ => rfl
  | _ => rfl

/-- An operand has what the role of the same expression says. -/
theorem Piece.shares_ofNode (m : Node Piece) (n : Node Role)
    (h : Node.Related (fun p f => p.row? = f.row? ∧ (p.Succeeds ↔ f.Scalar)) m n) :
    (ofNode m).row? = (Role.ofNode n).row? ∧ ((ofNode m).Succeeds ↔ (Role.ofNode n).Scalar) :=
  ⟨row?_ofNode h, (succeeds_ofNode m).trans (h.scalar_iff (fun _ _ r => r.1) fun _ _ r => r.2)⟩

/-- **Exactly the well-shaped statements have tokens.** -/
theorem Statement.tokens_succeeds (q : Statement Expr) : Succeeds q.tokens ↔ q.WellShaped := by
  have shared (e : Expr) : e.piece.row? = e.row? ∧ (e.piece.Succeeds ↔ e.Renderable) := by
    rw [← e.row?_role]
    exact Expr.fold_related Piece.shares_ofNode e
  have related : Statement.Related (fun p e => p = Expr.piece e) (q.map Expr.piece) (q.map id) :=
    Statement.map_related fun e _ => rfl
  rw [Statement.map_id] at related
  refine (pieceTokens_succeeds _).trans (related.shaped_iff ?_ ?_)
  · rintro p e rfl
    exact (shared e).1
  · rintro p e rfl
    exact (shared e).2

/-- Every list of tokens has a text under all settings. -/
theorem Statement.succeeds_render (q : Statement Expr) (s : Settings) :
    Succeeds (q.render s) ↔ Succeeds q.tokens := succeeds_bind_pure

/-- **Rendering succeeds on exactly the well-shaped statements**, under all settings. -/
theorem Statement.render_succeeds_iff (q : Statement Expr) (s : Settings) :
    (∃ sql, q.render s = .ok sql) ↔ q.WellShaped := (q.succeeds_render s).trans q.tokens_succeeds

end SqlBuilder
