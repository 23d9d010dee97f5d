import SqlBuilder.Proofs.Renderability
import SqlBuilder.Proofs.RenderSuccess

/-!
# Compound assignments

An assignment such as `field += value` is short for `field = (target.field + value)`.  The renderer
spells the combination of old and new value out by itself, and the long form goes through the
renderer of expressions.  Both ways lead to the same text, the same parameters and the same errors.

* `Assignment.desugared`, `Statement.desugared` : the long form;
* `tokens_column`, `tokens_combined` : the old value, and its combination with a new one;
* `assignmentTokens_desugared`, `updateTokens_desugared` : one assignment, and all of an UPDATE;
* **`Statement.render_desugared`** : a statement and its long form are rendered to the same.
-/

namespace SqlBuilder

open Render

/-! ### The long form -/

/-- The long form of an assignment: the old value and the new one are combined by an expression. -/
def Assignment.desugared (a : Assignment Expr) : Assignment Expr :=
  match a.op.arithmetic? with
  | none => a
  | some op =>
    let old : Expr := .node (.field a.target a.field)
    { a with op := .assign, value := .node (.arithmetic old op a.value) }

/-- A statement with its assignments in the long form. -/
def Statement.desugared (q : Statement Expr) : Statement Expr :=
  { q with assignments := q.assignments.map Assignment.desugared }

/-- In the long form every assignment is a plain one. -/
theorem Assignment.op_desugared (a : Assignment Expr) : a.desugared.op = .assign := by
  rw [desugared]
  cases op : a.op with
  | assign => exact op
  | add | sub | mul | div => rfl

/-! ### One assignment -/

/-- A column of a row is written under the alias of the row. -/
theorem tokens_column (s : Scope) (name : String) :
    (Expr.node (.field (.node (.row s)) name)).piece.tokens.get = .ok (columnReference s name) := by
  rw [Expr.piece_node, Node.map, Expr.piece_node]
  rfl

/-- A column of a row combined with a value. -/
theorem tokens_combined (s : Scope) (name : String) (op : Arithmetic) (value : Expr) :
    (Expr.node (.arithmetic (.node (.field (.node (.row s)) name)) op value)).piece.tokens.get = (do
      let v ← value.piece.tokens.get
      return parenthesized (columnReference s name ++ .blank :: .mark op.mark :: .blank :: v)) := by
  rw [Expr.piece_node, Node.map]
  show around _ _ _ = _
  rw [around, tokens_column]
  rfl

namespace Statement

/-- The long form of an assignment to the updated table has the tokens of the assignment. -/
theorem assignmentTokens_desugared {s : Scope} {a : Assignment Expr}
    (handle : a.target = .node (.row s)) :
    assignmentTokens s (a.desugared.map Expr.piece) = assignmentTokens s (a.map Expr.piece) := by
  obtain ⟨target, field, op, value⟩ := a
  subst handle
  rw [Assignment.desugared]
  cases arithmetic : op.arithmetic? with
  | none => rfl
  | some combine =>
    have plain : UpdateOp.assign.arithmetic? = none := rfl
    -- The target is the same on both sides, and so is the test of its number.
    rw [assignmentTokens, assignmentTokens]
    refine if_congr Iff.rfl ?_ rfl
    simp only [Assignment.map, plain, arithmetic, tokens_combined, bind_assoc, pure_bind]

/-! ### Statements -/

/-- The table that the renderer takes for the updated one is the one at top level. -/
theorem target_map_piece {q : Statement Expr} {s : Scope} :
    (q.map Expr.piece).target = .ok s ↔ q.Targets s := by
  have related : Statement.Related (fun p e => p = Expr.piece e) (q.map Expr.piece) (q.map id) :=
    Statement.map_related fun e _ => rfl
  rw [Statement.map_id] at related
  exact target_eq_ok_iff.trans (related.targets_iff s)

/-- Computations over the images of a list agree if they agree on the image of each member. -/
theorem mapM_map_congr {ε α β γ : Type} {f g : α → β} {h : β → Except ε γ} {l : List α}
    (each : ∀ a ∈ l, h (f a) = h (g a)) : (l.map f).mapM h = (l.map g).mapM h := by
  have through (k : α → β) : (l.map k).mapM h = (l.map fun a => h (k a)).mapM id := by
    rw [List.mapM_map, List.mapM_map]
    rfl
  rw [through, through, List.map_congr_left each]

/-- The long form has assignments exactly when the statement has. -/
theorem isEmpty_desugared (q : Statement Expr) :
    (q.desugared.map Expr.piece).assignments.isEmpty =
      (q.map Expr.piece).assignments.isEmpty := by
  simp [desugared, Statement.map]

/-- An UPDATE and its long form have the same tokens. -/
theorem updateTokens_desugared {q : Statement Expr}
    (handles : ∀ t, q.Targets t → ∀ a ∈ q.assignments, a.target = .node (.row t)) :
    (q.desugared.map Expr.piece).updateTokens = (q.map Expr.piece).updateTokens := by
  rw [updateTokens, updateTokens, isEmpty_desugared]
  refine if_congr Iff.rfl rfl ?_
  -- The assignments are looked at only if there is a table to update.
  show (q.map Expr.piece).target >>= _ = (q.map Expr.piece).target >>= _
  cases target : (q.map Expr.piece).target with
  | error e => rfl
  | ok s =>
    have handle := handles s (target_map_piece.1 target)
    have each : (q.desugared.map Expr.piece).assignments.mapM (assignmentTokens s) =
        (q.map Expr.piece).assignments.mapM (assignmentTokens s) := by
      show ((q.assignments.map Assignment.desugared).map _).mapM _ = (q.assignments.map _).mapM _
      rw [List.map_map]
      exact mapM_map_congr fun a mem => assignmentTokens_desugared (handle a mem)
    show (q.desugared.map Expr.piece).assignments.mapM (assignmentTokens s) >>= _ = _
    rw [each]
    rfl

/-- Only an UPDATE looks at more of its assignments than whether there are any. -/
theorem tokens_desugared {q : Statement Expr}
    (handles : ∀ t, q.Targets t → ∀ a ∈ q.assignments, a.target = .node (.row t)) :
    q.desugared.tokens = q.tokens := by
  have long : (q.desugared.map Expr.piece).kind = q.kind := rfl
  have short : (q.map Expr.piece).kind = q.kind := rfl
  rw [tokens, tokens, pieceTokens, pieceTokens, long, short]
  cases q.kind with
  | select =>
    show selectTokens _ = selectTokens _
    rw [selectTokens, selectTokens, isEmpty_desugared]
    rfl
  | update => exact updateTokens_desugared handles
  | delete =>
    show deleteTokens _ = deleteTokens _
    rw [deleteTokens, deleteTokens, isEmpty_desugared]
    rfl

/-- **A statement and its long form are rendered to the same** text and parameters, or fail for the
same reason, under all settings.  The targets of its assignments are the row of the table that it
updates, if there is such a table; values are arbitrary. -/
theorem render_desugared {q : Statement Expr}
    (handles : ∀ t, q.Targets t → ∀ a ∈ q.assignments, a.target = .node (.row t)) :
    (∀ a ∈ q.desugared.assignments, a.op = .assign) ∧
      ∀ s : Settings, q.desugared.render s = q.render s := by
  refine ⟨fun a mem => ?_, fun s => ?_⟩
  · obtain ⟨b, _, rfl⟩ := List.mem_map.1 mem
    exact b.op_desugared
  · rw [render, render, tokens_desugared handles]

/-- One assignment of each kind, to columns of which some need quotes. -/
def revaluation : Statement Expr :=
  let order : Scope := ⟨0, "order", "o", false, []⟩
  let total : Statement Expr := { Statement.empty .select with columns := [.node .countRows] }
  let value (n : Int) : Expr := .node (.literal (.int n))
  let changes : List (String × UpdateOp × Expr) := [
    ("group", .add, .node (.subquery total)),
    ("note", .assign, .node (.literal .null)),
    ("price", .sub, value 5),
    ("price", .mul, .node (.arithmetic (value 2) .add (value 3))),
    ("2fa", .div, value 7)]
  { Statement.empty .update with
    source := ⟨[.scope order], [0]⟩
    assignments := changes.map fun c => ⟨.node (.row order), c.1, c.2.1, c.2.2⟩ }

/-- The long form of the revaluation is rendered to the same. -/
theorem render_desugared_revaluation :
    (∀ t, revaluation.Targets t → ∀ a ∈ revaluation.assignments, a.target = .node (.row t)) ∧
      revaluation.render .default = .ok
        ⟨"UPDATE \"order\" AS o SET \"group\" = (o.\"group\" + (SELECT COUNT(*))), note = NULL, " ++
          "price = (o.price - $1), price = (o.price * ($2 + $3)), \"2fa\" = (o.\"2fa\" / $4)",
          [.int 5, .int 2, .int 3, .int 7]⟩ ∧
      revaluation.desugared.render .default = revaluation.render .default := by
  have handles : ∀ t, revaluation.Targets t →
      ∀ a ∈ revaluation.assignments, a.target = .node (.row t) := by
    rintro t ⟨_, root, roots, at_root⟩ a mem
    obtain rfl : 0 = root := List.head_eq_of_cons_eq roots
    cases at_root
    obtain ⟨change, _, rfl⟩ := List.mem_map.1 mem
    rfl
  exact ⟨handles, by decide +kernel, (render_desugared handles).2 .default⟩

end Statement

end SqlBuilder
