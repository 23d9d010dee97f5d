import SqlBuilder.Proofs.NameQuoting
import SqlBuilder.Proofs.OnePassWriter
import SqlBuilder.Proofs.ReadBack
import SqlBuilder.Proofs.RowPlaces

/-!
# Select lists

A body returns expressions in nested tuples.  The columns of its statement are these expressions from
left to right, and a row among them is written as the columns of its fields.  The two steps are done
apart, one when the statement is finished and the other when it is rendered; together they give the
list of a body that returns the fields of its rows one by one.

* `Projection.leafAt?`, `Projection.paths` : the leaves of a result and how they are reached, with
  **`Projection.map_leafAt?_paths`** : the leaves from left to right;
* `TypedExpr.spread`, `Projection.bind` : a row replaced by the fields of its entity;
* **`Statement.columnTokens_spread`** : both are written as the same columns;
* `Statement.selectText` : the text of a select list, with **`Statement.selectText_eq_one_iff`** : when
  it is the constant 1;
* **`Builds.lists_result`** : the columns of a statement, their text, and the list without columns.
-/

namespace SqlBuilder

/-! ### Leaves from left to right -/

namespace Projection

variable {α β : Type}

/-- The leaf that a path leads to.  Each step of the path goes to a part of a tuple. -/
def leafAt? : List Nat → Projection α → Option α
  | [], .leaf a => some a
  | i :: path, .tuple ps => ps[i]?.bind (leafAt? path)
  | _, _ => none

mutual

/-- The paths to the leaves of a result. -/
def paths : Projection α → List (List Nat)
  | .unit => []
  | .leaf _ => [[]]
  | .tuple ps => pathsFrom 0 ps

/-- The paths to the leaves of parts of a tuple, the first of which stands at position `i`. -/
def pathsFrom (i : Nat) : List (Projection α) → List (List Nat)
  | [] => []
  | p :: ps => (paths p).map (i :: ·) ++ pathsFrom (i + 1) ps

end

mutual

/-- The paths lead to all leaves. -/
theorem mem_paths : ∀ (p : Projection α) (path : List Nat),
    path ∈ p.paths ↔ (p.leafAt? path).isSome = true
  | .unit, path => by cases path <;> simp [paths, leafAt?]
  | .leaf a, path => by cases path <;> simp [paths, leafAt?]
  | .tuple ps, path => by
    rw [paths, mem_pathsFrom ps 0 path]
    cases path with
    | nil => simp [leafAt?]
    | cons i rest =>
      simp only [Nat.zero_add, List.cons.injEq, leafAt?]
      constructor
      · rintro ⟨k, rest', p, ⟨rfl, rfl⟩, at_k, leaf⟩
        rw [at_k]
        exact leaf
      · intro leaf
        cases at_i : ps[i]? with
        | none =>
          rw [at_i] at leaf
          cases leaf
        | some p =>
          rw [at_i] at leaf
          exact ⟨i, rest, p, ⟨rfl, rfl⟩, at_i, leaf⟩

theorem mem_pathsFrom : ∀ (ps : List (Projection α)) (i : Nat) (path : List Nat),
    path ∈ pathsFrom i ps ↔ ∃ k rest p, path = (i + k) :: rest ∧ ps[k]? = some p ∧
      (leafAt? rest p).isSome = true
  | [], i, path => by simp [pathsFrom]
  | p :: ps, i, path => by
    rw [pathsFrom, List.mem_append, List.mem_map, mem_pathsFrom ps (i + 1) path]
    constructor
    · intro h
      rcases h with ⟨rest, mem, rfl⟩ | ⟨k, rest, p', rfl, at_k, leaf⟩
      · exact ⟨0, rest, p, rfl, rfl, (mem_paths p rest).1 mem⟩
      · exact ⟨k + 1, rest, p', by rw [Nat.add_assoc, Nat.add_comm 1 k], at_k, leaf⟩
    · intro h
      obtain ⟨k, rest, p', rfl, at_k, leaf⟩ := h
      cases k with
      | zero =>
        cases at_k
        exact .inl ⟨rest, (mem_paths p rest).2 leaf, rfl⟩
      | succ k => exact .inr ⟨k, rest, p', by rw [Nat.add_assoc, Nat.add_comm 1 k], at_k, leaf⟩

end

mutual

/-- The paths are listed from left to right. -/
theorem sorted_paths : ∀ p : Projection α, p.paths.Pairwise (· < ·)
  | .unit => by simp [paths]
  | .leaf a => by simp [paths]
  | .tuple ps => by
    rw [paths]
    exact sorted_pathsFrom ps 0

theorem sorted_pathsFrom : ∀ (ps : List (Projection α)) (i : Nat),
    (pathsFrom i ps).Pairwise (· < ·)
  | [], i => by simp [pathsFrom]
  | p :: ps, i => by
    rw [pathsFrom, List.pairwise_append]
    refine ⟨?_, sorted_pathsFrom ps (i + 1), fun here mem there mem' => ?_⟩
    · rw [List.pairwise_map]
      exact (sorted_paths p).imp fun less => List.cons_lt_cons_iff.2 (.inr ⟨rfl, less⟩)
    · -- a path through an earlier part of the tuple stands before one through a later part
      obtain ⟨rest, _, rfl⟩ := List.mem_map.1 mem
      obtain ⟨k, rest', _, rfl, _, _⟩ := (mem_pathsFrom ps (i + 1) there).1 mem'
      exact List.cons_lt_cons_iff.2 (.inl (by omega))

end

mutual

/-- **The leaves from left to right** are those that the paths lead to in order. -/
theorem map_leafAt?_paths : ∀ p : Projection α,
    (p.paths.map fun path => p.leafAt? path) = p.leaves.map some
  | .unit => rfl
  | .leaf a => rfl
  | .tuple ps => by
    rw [paths, leaves]
    exact map_leafAt?_pathsFrom ps []

theorem map_leafAt?_pathsFrom : ∀ ps earlier : List (Projection α),
    ((pathsFrom earlier.length ps).map fun path => leafAt? path (.tuple (earlier ++ ps))) =
      (leavesAll ps).map some
  | [], earlier => rfl
  | p :: ps, earlier => by
    have later := map_leafAt?_pathsFrom ps (earlier ++ [p])
    rw [List.length_append, List.append_assoc] at later
    rw [pathsFrom, leavesAll, List.map_append, List.map_append, List.map_map, ← map_leafAt?_paths p]
    congr 1
    refine List.map_congr_left fun path _ => ?_
    show ((earlier ++ p :: ps)[earlier.length]?).bind (leafAt? path) = _
    rw [List.getElem?_append_right (Nat.le_refl _), Nat.sub_self]
    rfl

end

/-! ### Results put for expressions -/

mutual

/-- A result in which a result stands for each expression. -/
def bind (f : α → Projection β) : Projection α → Projection β
  | .unit => .unit
  | .leaf a => f a
  | .tuple ps => .tuple (bindAll f ps)

def bindAll (f : α → Projection β) : List (Projection α) → List (Projection β)
  | [] => []
  | p :: ps => bind f p :: bindAll f ps

end

mutual

/-- The leaves of the results that stand for the expressions, one after the other. -/
theorem leaves_bind (f : α → Projection β) : ∀ p : Projection α,
    (p.bind f).leaves = p.leaves.flatMap fun a => (f a).leaves
  | .unit => rfl
  | .leaf a => by simp [bind, leaves]
  | .tuple ps => by
    rw [bind, leaves, leaves]
    exact leavesAll_bindAll f ps

theorem leavesAll_bindAll (f : α → Projection β) : ∀ ps : List (Projection α),
    leavesAll (bindAll f ps) = (leavesAll ps).flatMap fun a => (f a).leaves
  | [] => rfl
  | p :: ps => by
    rw [bindAll, leavesAll, leavesAll, List.flatMap_append, leaves_bind f p, leavesAll_bindAll f ps]

end

end Projection

/-! ### Rows and their fields -/

namespace TypedExpr

variable {e : TypedExpr} {entity : Entity}

/-- A field of a row, which may be absent where the row may be. -/
def column (e : TypedExpr) (f : FieldDef) : TypedExpr :=
  ⟨if e.type.isOption then (Ty.ofField f).orAbsent else .ofField f, .node (.field e.expr f.name)⟩

/-- What a body returns instead of an expression to have the fields of a row one by one, in the order in
which its entity declares them. -/
def spread (e : TypedExpr) : Projection TypedExpr :=
  match e.expr.row? with
  | some s => .tuple (s.fields.map fun f => .leaf (e.column f))
  | none => .leaf e

/-- The fields of a row are what a program takes of it. -/
theorem project_eq_column (type : e.type = .row entity) (f : FieldDef) :
    e.project f.name (some (.ofField f)) = .ok (e.column f) := by
  simp only [project, column, type, fieldType, bind, Except.bind]
  rfl

/-- So are those of a row that may be missing. -/
theorem projectMaybe_eq_column (type : e.type = .option (.row entity)) (f : FieldDef) :
    e.projectMaybe f.name (some (.ofField f)) = .ok (e.column f) := by
  simp only [projectMaybe, column, type, fieldType, bind, Except.bind, require, Ty.isValue_ofField]
  rfl

theorem leaves_spread_of_row {s : Scope} (row : e.expr.row? = some s) :
    e.spread.leaves = s.fields.map e.column := by
  have leaves : ∀ fs : List FieldDef,
      Projection.leavesAll (fs.map fun f => .leaf (e.column f)) = fs.map e.column := by
    intro fs
    induction fs with
    | nil => rfl
    | cons f fs ih => rw [List.map_cons, Projection.leavesAll, ih, Projection.leaves]; rfl
  rw [spread, row]
  exact leaves s.fields

theorem leaves_spread_of_noRow (noRow : e.expr.row? = none) : e.spread.leaves = [e] := by
  rw [spread, noRow]
  rfl

end TypedExpr

/-! ### The columns that are written -/

namespace Statement

open Render

/-- The columns of several operands are those of the first ones and then those of the others. -/
theorem columnTokens_append (ps ps' : List Piece) : columnTokens (ps ++ ps') = do
    let tss ← columnTokens ps
    let uss ← columnTokens ps'
    return tss ++ uss := by
  induction ps with
  | nil =>
    show columnTokens ps' = columnTokens ps' >>= fun uss => pure uss
    cases columnTokens ps' with
    | error e | ok uss => rfl
  | cons p ps ih =>
    rw [List.cons_append, columnTokens, columnTokens]
    cases p.row? with
    | some s =>
      simp only [ih, bind_assoc, pure_bind, List.append_assoc]
    | none =>
      simp only [ih, bind_assoc, pure_bind, List.cons_append]

/-- The fields of a row, taken one by one. -/
theorem columnTokens_fields (s : Scope) (fs : List FieldDef) :
    columnTokens (fs.map fun f => (Expr.node (.field (.node (.row s)) f.name)).piece) =
      .ok (fs.map fun f => columnReference s f.name) := by
  induction fs with
  | nil => rfl
  | cons f fs ih =>
    have row : (Expr.node (.field (.node (.row s)) f.name)).piece.row? = none := Expr.row?_piece _
    rw [List.map_cons, columnTokens, row]
    simp only [Expr.tokens_field_row, ih]
    rfl

/-- A row is written as its fields are. -/
theorem columnTokens_spread_one (e : TypedExpr) :
    columnTokens (e.spread.leaves.map fun e => e.expr.piece) = columnTokens [e.expr.piece] := by
  cases row : e.expr.row? with
  | none => rw [e.leaves_spread_of_noRow row]; rfl
  | some s =>
    have same := Expr.eq_row_of_row? row
    have columns : (e.spread.leaves.map fun e => e.expr.piece) =
        s.fields.map fun f => (Expr.node (.field (.node (.row s)) f.name)).piece := by
      rw [e.leaves_spread_of_row row, List.map_map, ← same]
      rfl
    have whole : (Expr.node (.row s)).piece.row? = some s := Expr.row?_piece _
    rw [columns, columnTokens_fields, same, columnTokens, whole]
    exact congrArg Except.ok (List.append_nil _).symm

/-- **A list in which rows are replaced by their fields has the same columns**, or the same error. -/
theorem columnTokens_spread (es : List TypedExpr) :
    columnTokens ((es.flatMap fun e => e.spread.leaves).map fun e => e.expr.piece) =
      columnTokens (es.map fun e => e.expr.piece) := by
  induction es with
  | nil => rfl
  | cons e es ih =>
    rw [List.flatMap_cons, List.map_append, columnTokens_append, columnTokens_spread_one, ih,
      ← columnTokens_append]
    rfl

/-- Of the columns the renderer sees no more than what they are written as. -/
theorem pieceTokens_of_columnTokens {q : Statement Piece} {ps : List Piece}
    (same : columnTokens ps = columnTokens q.columns) :
    { q with columns := ps }.pieceTokens = q.pieceTokens ∧
      { q with columns := ps }.nestedTokens = q.nestedTokens := by
  have list : selectList ps = selectList q.columns := by
    rw [selectList, selectList, same]
  have select : { q with columns := ps }.selectTokens = q.selectTokens := by
    rw [selectTokens, selectTokens, selectClauses, selectClauses, list]
  constructor
  · rw [pieceTokens, pieceTokens, select]
    rfl
  · rw [nestedTokens, nestedTokens, select]

end Statement

/-! ### The text of a select list -/

/-- What begins an operand does not begin with the digit one. -/
theorem Token.chars_of_opensOperand {t : Token} (opens : t.opensOperand = true) (s : Settings)
    (n : Nat) : ∃ c cs, t.chars s n = c :: cs ∧ c ≠ '1' := by
  cases t with
  | word k =>
    cases k with
    | _ => exact ⟨_, _, rfl, by decide⟩
  | mark m =>
    cases m with
    | _ => exact ⟨_, _, rfl, by decide⟩
  | name name =>
    show ∃ c cs, s.quoting.write name = c :: cs ∧ c ≠ '1'
    rcases s.quoting.write_cases name with quoted | ⟨bare, same⟩
    · rw [quoted]
      exact ⟨'"', _, rfl, by decide⟩
    · obtain ⟨c, cs, starts, noDigit⟩ := bare.starts
      rw [same]
      refine ⟨c, cs, starts, fun digit => ?_⟩
      rw [digit] at noDigit
      exact absurd noDigit (by decide)
  | bind v =>
    rw [chars, Settings.placeholder]
    cases s.dialect with
    | postgres | sqlite => exact ⟨_, _, rfl, by decide⟩
  | number m | blank | unlimited => cases opens

namespace Statement

open Render

/-- The text of the select list of a statement on its own. -/
def selectText (q : Statement Expr) (s : Settings) : Except RenderError (List Char) := do
  let ts ← selectList (q.columns.map Expr.piece)
  return Token.write s ts

/-- The columns that are written begin as operands do. -/
theorem opens_of_columnTokens {es : List Expr} {tss : List (List Token)}
    (h : columnTokens (es.map Expr.piece) = .ok tss) : ∀ ts ∈ tss, Opens ts := by
  obtain ⟨groups, each, rfl⟩ := columns_of_columnTokens h
  rw [List.forall₂_map_left_iff] at each
  clear h
  induction each with
  | nil =>
    intro ts mem
    cases mem
  | @cons e group es groups first _ ih =>
    refine List.forall_mem_append.2 ⟨?_, ih⟩
    cases first with
    | row _ => exact List.forall_mem_map.2 fun f _ => ⟨_, _, rfl, rfl⟩
    | scalar _ renders =>
      obtain ⟨n⟩ := e
      rw [Expr.piece_node] at renders
      exact List.forall_mem_singleton.2 (Node.opens_of_writes (Piece.writes_of_renders renders))

/-- **The select list is the constant 1** if and only if there is no column. -/
theorem selectText_eq_one_iff {q : Statement Expr} {s : Settings} :
    q.selectText s = .ok ['1'] ↔ columnTokens (q.columns.map Expr.piece) = .ok [] := by
  rw [selectText, selectList]
  constructor
  · intro h
    obtain ⟨ts, list, text⟩ := Except.bind_eq_ok_iff.1 h
    obtain ⟨tss, columns, same⟩ := Except.bind_eq_ok_iff.1 list
    cases tss with
    | nil => exact columns
    | cons first rest =>
      -- the text of the first column begins with something else
      obtain ⟨t, us, rfl, opens⟩ := opens_of_columnTokens columns first List.mem_cons_self
      obtain ⟨c, cs, chars, other⟩ := Token.chars_of_opensOperand opens s 1
      obtain ⟨more, whole⟩ : ∃ more, comma.intercalate ((t :: us) :: rest) = t :: more := by
        cases rest with
        | nil => exact ⟨us, List.intercalate_singleton⟩
        | cons ts tss => exact ⟨us ++ (comma ++ comma.intercalate (ts :: tss)), by simp⟩
      cases same
      have text := Except.ok.inj text
      rw [List.isEmpty_cons, if_neg (by decide), whole, Token.write, Token.writeFrom, Nat.zero_add,
        chars] at text
      exact absurd (List.cons.inj text).1 other
  · intro columns
    rw [columns]
    rfl

/-- The select list stands behind the opening words. -/
theorem selectList_of_selectTokens {q : Statement Piece} {ts : List Token}
    (h : q.selectTokens = .ok ts) : ∃ list rest, selectList q.columns = .ok list ∧
      ts = words (if q.distinct then [.SELECT, .DISTINCT] else [.SELECT]) ++ [.blank] ++
        (list ++ rest) := by
  rw [selectTokens] at h
  split at h
  · obtain ⟨list, columns, h⟩ := Except.bind_eq_ok_iff.1 h
    obtain ⟨source, _, h⟩ := Except.bind_eq_ok_iff.1 h
    obtain ⟨filters, _, h⟩ := Except.bind_eq_ok_iff.1 h
    obtain ⟨grouping, _, h⟩ := Except.bind_eq_ok_iff.1 h
    obtain ⟨having_, _, h⟩ := Except.bind_eq_ok_iff.1 h
    obtain ⟨ordering, _, h⟩ := Except.bind_eq_ok_iff.1 h
    cases h
    refine ⟨list, source ++ filters ++ grouping ++ having_ ++ ordering ++
      rangeTokens q.limit q.offset, columns, ?_⟩
    simp only [List.append_assoc, List.cons_append, List.nil_append]
  · cases h

/-- The text of a SELECT is that of its opening words, of its select list and of what follows. -/
theorem selectText_of_render {q : Statement Expr} {s : Settings} {sql : Sql} (select : q.kind = .select)
    (rendered : q.render s = .ok sql) : ∃ list rest, q.selectText s = .ok list ∧
      sql.text.toList =
        (if q.distinct then "SELECT DISTINCT " else "SELECT ").toList ++ list ++ rest := by
  obtain ⟨ts, tokens, same⟩ := Except.bind_eq_ok_iff.1 rendered
  cases same
  have kind : (q.map Expr.piece).kind = .select := select
  rw [Statement.tokens, pieceTokens, kind] at tokens
  obtain ⟨list, rest, columns, rfl⟩ := selectList_of_selectTokens tokens
  have text : q.selectText s = .ok (Token.write s list) := by
    rw [selectText, show q.columns.map Expr.piece = (q.map Expr.piece).columns from rfl, columns]
    rfl
  -- the opening words bind nothing
  have opening (ts : List Token) : Token.write s
      (words (if q.distinct then [.SELECT, .DISTINCT] else [.SELECT]) ++ [.blank] ++ ts) =
      (if q.distinct then "SELECT DISTINCT " else "SELECT ").toList ++ Token.writeFrom s 0 ts := by
    cases q.distinct with
    | false | true => rfl
  refine ⟨_, Token.writeFrom s (Token.parameters list).length rest, text, ?_⟩
  show (String.ofList (Token.write s _)).toList = _
  rw [String.toList_ofList, show (q.map Expr.piece).distinct = q.distinct from rfl, opening,
    Token.writeFrom_append, Nat.zero_add, ← List.append_assoc]
  rfl

/-- There is no column if and only if all expressions are rows without fields. -/
theorem columnTokens_eq_nil_iff (es : List TypedExpr) :
    columnTokens (es.map fun e => e.expr.piece) = .ok [] ↔
      ∀ e ∈ es, ∃ s, e.expr.row? = some s ∧ s.fields = [] := by
  induction es with
  | nil => simp [columnTokens]
  | cons e es ih =>
    rw [List.forall_mem_cons, ← ih, List.map_cons, columnTokens, e.expr.row?_piece]
    cases row : e.expr.row? with
    | none =>
      -- the column of what is no row is there
      constructor
      · intro none
        obtain ⟨ts, _, none⟩ := Except.bind_eq_ok_iff.1 none
        obtain ⟨tss, _, none⟩ := Except.bind_eq_ok_iff.1 none
        cases none
      · intro rows
        obtain ⟨⟨s, row, _⟩, _⟩ := rows
        cases row
    | some s =>
      constructor
      · intro none
        obtain ⟨tss, columns, none⟩ := Except.bind_eq_ok_iff.1 none
        obtain ⟨noFields, rfl⟩ := List.append_eq_nil_iff.1 (Except.ok.inj none)
        exact ⟨⟨s, rfl, List.map_eq_nil_iff.1 noFields⟩, columns⟩
      · intro rows
        obtain ⟨⟨t, same, noFields⟩, columns⟩ := rows
        cases same
        show (columnTokens _ >>= fun rest => pure (s.fields.map _ ++ rest)) = _
        rw [columns, noFields]
        rfl

/-- The columns of a statement are what a body returns, from left to right and with the fields of an
entity for each of its rows. -/
structure ListsResult (q : Statement Expr) (r : Projection TypedExpr) : Prop where
  /-- Paths in order lead to all leaves of the result, and the columns are what they lead to. -/
  columns : ∃ paths : List (List Nat), paths.Pairwise (· < ·) ∧
    (∀ path, path ∈ paths ↔ (r.leafAt? path).isSome = true) ∧
    q.columns.map some = paths.map fun path => (r.leafAt? path).map TypedExpr.expr
  /-- A row among the leaves is one of the entity that its type names. -/
  rows : ∀ e ∈ r.leaves, ∀ s, e.expr.row? = some s → e.type.entity? = some ⟨s.table, s.fields⟩
  /-- The fields of a row are what a program takes of it one by one. -/
  fields : ∀ e ∈ r.leaves, ∀ (entity : Entity) (f : FieldDef),
    (e.type = .row entity → e.project f.name (some (.ofField f)) = .ok (e.column f)) ∧
      (e.type = .option (.row entity) → e.projectMaybe f.name (some (.ofField f)) = .ok (e.column f))
  /-- Text and parameters, or the error, are those of the result with the fields in place of rows. -/
  spread : ∀ s, ({ q with columns := (r.bind TypedExpr.spread).leaves.map TypedExpr.expr } :
    Statement Expr).render s = q.render s
  /-- So they are for a sub-query, wherever it stands. -/
  nested : ∀ s bound, (({ q with columns := (r.bind TypedExpr.spread).leaves.map TypedExpr.expr } :
    Statement Expr).nestedWriter s).run bound = (q.nestedWriter s).run bound
  /-- The text begins with the select list. -/
  text : ∀ s sql, q.render s = .ok sql → ∃ list rest, q.selectText s = .ok list ∧
    sql.text.toList = (if q.distinct then "SELECT DISTINCT " else "SELECT ").toList ++ list ++ rest
  /-- The list is the constant 1 if and only if nothing but rows without fields is returned. -/
  one : ∀ s, q.selectText s = .ok ['1'] ↔
    ∀ e ∈ r.leaves, ∃ s, e.expr.row? = some s ∧ s.fields = []

end Statement

/-- **The columns of a SELECT are the leaves of what its body returns**, from left to right, and a row
among them stands for the fields of its entity. -/
theorem Builds.lists_result {rule : Call → Prop} {r : Projection TypedExpr} {q : Statement Expr}
    (built : Builds rule .select r q) : q.ListsResult r := by
  have taken : ∀ t, rule (.column t) → t.isValue = true ∨ True := fun _ _ => .inr trivial
  obtain ⟨b, env, _, select, faithful, _, same⟩ := built.orderly_builder taken
  have columns := built.columns_eq
  have kind : q.kind = .select := by
    rw [same]
    exact select
  have pieces : q.columns.map Expr.piece = r.leaves.map fun e => e.expr.piece := by
    rw [columns, List.map_map]
    rfl
  have spread : Statement.columnTokens
      (((r.bind TypedExpr.spread).leaves.map TypedExpr.expr).map Expr.piece) =
      Statement.columnTokens (q.map Expr.piece).columns := by
    show _ = Statement.columnTokens (q.columns.map Expr.piece)
    rw [pieces, Projection.leaves_bind, List.map_map]
    exact Statement.columnTokens_spread r.leaves
  obtain ⟨whole, nested⟩ := Statement.pieceTokens_of_columnTokens spread
  refine ⟨⟨r.paths, r.sorted_paths, r.mem_paths, ?_⟩, fun e leaf => (faithful e leaf).row,
    fun e _ entity f => ?_, fun s => ?_,
    fun s bound => ?_, fun s sql => Statement.selectText_of_render kind, fun s => ?_⟩
  · have leaves := congrArg (List.map (Option.map TypedExpr.expr)) r.map_leafAt?_paths
    rw [List.map_map, List.map_map] at leaves
    rw [columns, List.map_map]
    exact leaves.symm
  · exact ⟨fun type => e.project_eq_column type f, fun type => e.projectMaybe_eq_column type f⟩
  · exact congrArg (· >>= fun ts => pure (Sql.ofTokens s ts)) whole
  · rw [Statement.nestedWriter_tracks, Statement.nestedWriter_tracks]
    exact congrArg (Except.map _) nested
  · rw [Statement.selectText_eq_one_iff, pieces]
    exact Statement.columnTokens_eq_nil_iff r.leaves

/-- A marker, a row without fields, a row and another marker. -/
def marked : Program :=
  { kind := .select
    body := [
      .introduce (.single (.table ⟨"person", [⟨"id", .int, false⟩, ⟨"age", .int, true⟩]⟩ "p")),
      .introduce (.single (.table ⟨"bare", []⟩ "b"))]
    result := .tuple [.leaf (.literal (.scalar .int) (.whole 7)),
      .tuple [.leaf (.var "b"), .leaf (.var "p")], .leaf (.literal (.scalar .text) (.text "x"))] }

/-- The fields of the person stand between the markers, and nothing stands for the other row. -/
theorem Builds.lists_result_marked : ∃ r q, Builds (fun _ => True) .select r q ∧
    q.render .default = .ok
      ⟨"SELECT $1, person.id, person.age, $2 FROM person, bare", [.int 7, .string "x"]⟩ ∧
    q.ListsResult r := by
  have found : marked.statement?.map (fun q => q.render .default) = some (.ok
      ⟨"SELECT $1, person.id, person.age, $2 FROM person, bare", [.int 7, .string "x"]⟩) := by
    decide +kernel
  obtain ⟨q, statement, rendered⟩ := Option.map_eq_some_iff.1 found
  obtain ⟨r, built⟩ := marked.builds_of_statement? statement fun _ _ => trivial
  exact ⟨r, q, built, rendered, built.lists_result⟩

end SqlBuilder
