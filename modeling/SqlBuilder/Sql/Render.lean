import SqlBuilder.Error
import SqlBuilder.Sql.Token
import SqlBuilder.Statement.JoinTree

/-!
# Statements as SQL

The tokens of a statement, or the reason why it has none.  Compound expressions stand in
parentheses, so that no reader has to know how operators bind.  Of several reasons the leftmost in
the text counts.  Nothing to the right of it is computed, nor what the text leaves out: a join may
have one registration as both operands, and a chain of such joins stands for a tree too large to
write down.

* `Piece` : an operand as the renderer sees it, and `Piece.ofNode` for each form of expression;
* `JoinTree.tokens` : the tokens of a join tree, and `FromClause.tokensAt`, which finds them without
  building the tree, with `FromClause.tokensAt_eq_tokens_tree` as the tie between the two;
* `Statement.selectTokens`, `Statement.updateTokens`, `Statement.deleteTokens` : each kind;
* `Statement.tokens`, `Statement.render` : the whole statement.
-/

namespace SqlBuilder

/-- Tokens, or the reason why there are none. -/
abbrev Rendering := Except RenderError (List Token)

/-- An operand: the scope it is a whole row of, if it is one, and its tokens as a scalar, which are
computed where they are written. -/
structure Piece where
  row? : Option Scope
  tokens : Thunk Rendering

namespace Render

/-! ### Lists of tokens -/

/-- A comma and a blank. -/
def comma : List Token := [.mark .comma, .blank]

/-- Tokens in parentheses. -/
def parenthesized (ts : List Token) : List Token := .mark .leftParen :: (ts ++ [.mark .rightParen])

/-- Words with blanks between them. -/
def words (ks : List Keyword) : List Token := [Token.blank].intercalate (ks.map fun k => [.word k])

/-- Words with a blank on either side. -/
def between (ks : List Keyword) : List Token := .blank :: (words ks ++ [.blank])

/-- The tokens of several operands with separators between them. -/
def separated (separator : List Token) (ps : List Piece) : Rendering := do
  let tss ← ps.mapM fun p => p.tokens.get
  return separator.intercalate tss

/-- Predicates joined by AND. -/
def conjunction (ps : List Piece) : Rendering := separated (between [.AND]) ps

/-- A clause of one or more operands; without operands there is no clause. -/
def clause (opening : List Keyword) (ps : List Piece) (body : List Piece → Rendering) :
    Rendering :=
  if ps.isEmpty then .ok []
  else do
    let ts ← body ps
    return between opening ++ ts

/-! ### Names -/

/-- A table, under its alias where that differs from its name. -/
def tableReference (s : Scope) : List Token :=
  if s.aliasName = s.table then [.name s.table]
  else .name s.table :: (between [.AS] ++ [.name s.aliasName])

/-- A column under the alias of its table. -/
def columnReference (s : Scope) (field : String) : List Token :=
  [.name s.aliasName, .mark .dot, .name field]

/-! ### Values and operators -/

/-- Null is written; every other value is bound. -/
def value (v : Value) : Token := if v.isNull then .word .NULL else .bind v

/-- The sign of a comparison. -/
def comparison (op : Comparison) : Token := op.sign.elim Token.mark Token.word

/-- Two operands around an operator, in parentheses. -/
def around (left : Piece) (op : Token) (right : Piece) : Rendering := do
  let l ← left.tokens.get
  let r ← right.tokens.get
  return parenthesized (l ++ .blank :: op :: .blank :: r)

end Render

open Render

/-! ### Sources -/

/-- The tokens of a join, given those of its operands and whether the right one is a join, which
then stands in parentheses. -/
def joinTokens (kind : JoinKind) (left right : List Token) (nested : Bool)
    (predicate : Option Piece) : Rendering :=
  let joined := left ++ (between kind.keywords ++ if nested then parenthesized right else right)
  match predicate, kind with
  | none, _ => .ok joined
  | some _, .cross => .error .crossJoinWithPredicate
  | some p, _ => do
    let ts ← p.tokens.get
    return joined ++ between [.ON] ++ ts

/-- The tokens of a join tree. -/
def JoinTree.tokens : JoinTree Piece → Rendering
  | .scope s => .ok (tableReference s)
  | .missing id => .error (.danglingRegistration id)
  | .endless id => .error (.endlessJoin id)
  | .join kind left right predicate => do
    let l ← left.tokens
    let r ← right.tokens
    joinTokens kind l r right.isJoin predicate

namespace FromClause

/-- The tokens at a position, following operands at most `depth` levels down; only operands that never
end lead further down than there are registrations.  The right operand of a join is looked at only if
the left one has tokens. -/
def tokensWithin (c : FromClause Piece) : Nat → Nat → Rendering
  | 0, id => .error (.endlessJoin id)
  | depth + 1, id =>
    match c.get? id with
    | none => .error (.danglingRegistration id)
    | some (.scope s) => .ok (tableReference s)
    | some (.join j) => do
      let l ← c.tokensWithin depth j.left
      let r ← c.tokensWithin depth j.right
      joinTokens j.kind l r (c.isJoinAt j.right) j.predicate

/-- The tokens at a position. -/
def tokensAt (c : FromClause Piece) (id : Nat) : Rendering :=
  c.tokensWithin (c.registrations.length + 1) id

theorem tokensWithin_eq_tokens_treeWithin (c : FromClause Piece) (depth id : Nat) :
    c.tokensWithin depth id = (c.treeWithin depth id).tokens := by
  induction depth generalizing id with
  | zero => rfl
  | succ depth ih =>
    rw [tokensWithin, treeWithin]
    cases c.get? id with
    | none => rfl
    | some r =>
      cases r with
      | scope s => rfl
      | join j =>
        simp only [JoinTree.tokens, ← ih]
        cases depth with
        | zero => rfl
        | succ depth => rw [isJoin_treeWithin_succ]

/-- The tokens at a position are those of the tree that stands there. -/
theorem tokensAt_eq_tokens_tree (c : FromClause Piece) (id : Nat) :
    c.tokensAt id = (c.tree id).tokens :=
  c.tokensWithin_eq_tokens_treeWithin _ id

theorem mapM_tokensAt_roots (c : FromClause Piece) :
    c.roots.mapM c.tokensAt = c.trees.mapM JoinTree.tokens := by
  rw [trees, List.mapM_map]
  congr
  funext id
  exact c.tokensAt_eq_tokens_tree id

end FromClause

namespace Statement

/-! ### Clauses -/

/-- The tokens of each result column.  A whole row stands for its fields, one column each. -/
def columnTokens : List Piece → Except RenderError (List (List Token))
  | [] => .ok []
  | p :: ps =>
    match p.row? with
    | some s => do
      let rest ← columnTokens ps
      return s.fields.map (fun f => columnReference s f.name) ++ rest
    | none => do
      let ts ← p.tokens.get
      let rest ← columnTokens ps
      return ts :: rest

/-- The select list; without columns it is the constant 1. -/
def selectList (ps : List Piece) : Rendering := do
  let columns ← columnTokens ps
  return if columns.isEmpty then [.number 1] else comma.intercalate columns

/-- The from-clause, if anything is selected from. -/
def fromTokens (c : FromClause Piece) : Rendering :=
  if c.roots.isEmpty then .ok []
  else do
    let tss ← c.roots.mapM c.tokensAt
    return between [.FROM] ++ comma.intercalate tss

/-- The ordering, if there is one. -/
def orderTokens (ts : List (OrderTerm Piece)) : Rendering :=
  if ts.isEmpty then .ok []
  else do
    let tss ← ts.mapM fun t => do
      let e ← t.expr.tokens.get
      return e ++ [.blank, .word t.order.keyword]
    return between [.ORDER, .BY] ++ comma.intercalate tss

/-- The bounds on the number of rows. -/
def rangeTokens : Option Nat → Option Nat → List Token
  | none, none => []
  | some n, none => between [.LIMIT] ++ [.number n]
  | none, some m => .unlimited :: (between [.OFFSET] ++ [.number m])
  | some n, some m => between [.LIMIT] ++ .number n :: (between [.OFFSET] ++ [.number m])

/-! ### The three kinds of statements -/

/-- The clauses of a SELECT. -/
def selectClauses (q : Statement Piece) : Rendering := do
  let columns ← selectList q.columns
  let source ← fromTokens q.source
  let filters ← clause [.WHERE] q.filters conjunction
  let grouping ← clause [.GROUP, .BY] q.grouping (separated comma)
  let having ← clause [.HAVING] q.having conjunction
  let ordering ← orderTokens q.ordering
  let opening := words (if q.distinct then [.SELECT, .DISTINCT] else [.SELECT])
  return opening ++ .blank :: columns ++ source ++ filters ++ grouping ++ having ++ ordering ++
    rangeTokens q.limit q.offset

/-- The tokens of a statement taken as a SELECT. -/
def selectTokens (q : Statement Piece) : Rendering :=
  if q.assignments.isEmpty then q.selectClauses else .error (.assignmentsOutsideUpdate q.kind)

/-- The first clause of a statement that only a SELECT may have. -/
def rowClause? {ε : Type} (q : Statement ε) : Option RowClause :=
  if q.distinct then some .distinct
  else if !q.grouping.isEmpty then some .grouping
  else if !q.having.isEmpty then some .having
  else if !q.ordering.isEmpty then some .ordering
  else if q.limit.isSome then some .limit
  else if q.offset.isSome then some .offset
  else none

/-- The one table that an UPDATE or a DELETE works on, provided it has no clause of a SELECT. -/
def target {ε : Type} (q : Statement ε) : Except RenderError Scope :=
  match q.rowClause? with
  | some c => .error (.unsupportedClause c q.kind)
  | none =>
    match q.source.roots with
    | [root] =>
      match q.source.get? root with
      | some (.scope s) => .ok s
      | some (.join _) => .error (.overJoin q.kind)
      | none => .error (.danglingRegistration root)
    | roots => .error (.tableCount q.kind roots.length)

/-- The tokens of one assignment to a table. -/
def assignmentTokens (s : Scope) (a : Assignment Piece) : Rendering :=
  if a.target.row?.any (fun t => t.id == s.id) then do
    let v ← a.value.tokens.get
    let assigned := match a.op.arithmetic? with
      | none => v
      | some op =>
        parenthesized (columnReference s a.field ++ .blank :: .mark op.mark :: .blank :: v)
    return .name a.field :: .blank :: .mark .equal :: .blank :: assigned
  else .error (.foreignTarget a.field s.aliasName)

/-- The clauses of an UPDATE. -/
def updateClauses (q : Statement Piece) : Rendering := do
  let s ← q.target
  let assignments ← q.assignments.mapM (assignmentTokens s)
  let filters ← clause [.WHERE] q.filters conjunction
  return words [.UPDATE] ++ .blank :: tableReference s ++ between [.SET] ++
    comma.intercalate assignments ++ filters

/-- The tokens of a statement taken as an UPDATE. -/
def updateTokens (q : Statement Piece) : Rendering :=
  if q.assignments.isEmpty then .error .noAssignments else q.updateClauses

/-- The clauses of a DELETE. -/
def deleteClauses (q : Statement Piece) : Rendering := do
  let s ← q.target
  let filters ← clause [.WHERE] q.filters conjunction
  return words [.DELETE, .FROM] ++ .blank :: tableReference s ++ filters

/-- The tokens of a statement taken as a DELETE. -/
def deleteTokens (q : Statement Piece) : Rendering :=
  if q.assignments.isEmpty then q.deleteClauses else .error (.assignmentsOutsideUpdate q.kind)

/-- The tokens of a statement by its kind. -/
def pieceTokens (q : Statement Piece) : Rendering :=
  match q.kind with
  | .select => q.selectTokens
  | .update => q.updateTokens
  | .delete => q.deleteTokens

/-- The tokens of a statement inside an expression, which must be a SELECT. -/
def nestedTokens (q : Statement Piece) : Rendering :=
  if q.kind = .select then q.selectTokens else .error (.subqueryNotSelect q.kind)

end Statement

/-! ### Expressions -/

namespace Piece

/-- An operand that is no row. -/
def scalar (tokens : Unit → Rendering) : Piece := ⟨none, ⟨tokens⟩⟩

/-- A whole row, which is not a scalar. -/
def row (s : Scope) : Piece := ⟨some s, ⟨fun _ => .error (.rowAsScalar s.aliasName)⟩⟩

/-- The operand that a node makes of its operands. -/
def ofNode : Node Piece → Piece
  | .row s => row s
  | .field base name =>
    match base.row? with
    | some s => scalar fun _ => .ok (columnReference s name)
    | none => scalar fun _ => do
      let ts ← base.tokens.get
      return parenthesized ts ++ [.mark .dot, .name name]
  | .literal v => scalar fun _ => .ok [Render.value v]
  | .compare l op r => scalar fun _ => around l (comparison op) r
  | .logical l op r => scalar fun _ => around l (.word op.keyword) r
  | .not e => scalar fun _ => do
    let ts ← e.tokens.get
    return parenthesized (.word .NOT :: .blank :: ts)
  | .arithmetic l op r => scalar fun _ => around l (.mark op.mark) r
  | .isNull e => scalar fun _ => do
    let ts ← e.tokens.get
    return parenthesized (ts ++ .blank :: words [.IS, .NULL])
  | .countRows => scalar fun _ => .ok (.word .COUNT :: parenthesized [.mark .star])
  | .aggregate f d e => scalar fun _ => do
    let ts ← e.tokens.get
    return .word f.keyword ::
      parenthesized ((if d then [.word .DISTINCT, .blank] else []) ++ ts)
  | .inList _ [] n => scalar fun _ => .ok [.word (if n then .TRUE else .FALSE)]
  | .inList e (v :: vs) n => scalar fun _ => do
    let ts ← e.tokens.get
    let items := comma.intercalate ((v :: vs).map fun v => [Render.value v])
    return parenthesized
      (ts ++ between (if n then [.NOT, .IN] else [.IN]) ++ parenthesized items)
  | .coalesce es => scalar fun _ => do
    let ts ← separated comma es
    return .word .COALESCE :: parenthesized ts
  | .subquery q => scalar fun _ => do
    let ts ← q.nestedTokens
    return parenthesized ts
  | .existence q n => scalar fun _ => do
    let ts ← q.nestedTokens
    return parenthesized
      (words (if n then [.NOT, .EXISTS] else [.EXISTS]) ++ .blank :: parenthesized ts)

end Piece

/-- An expression as the renderer sees it. -/
def Expr.piece : Expr → Piece := Expr.fold Piece.ofNode

/-- The tokens of a statement, or the reason why it has none. -/
def Statement.tokens (q : Statement Expr) : Rendering := (q.map Expr.piece).pieceTokens

/-- Text and parameters of a statement, or the reason why it has none. -/
def Statement.render (s : Settings) (q : Statement Expr) : Except RenderError Sql := do
  let ts ← q.tokens
  return .ofTokens s ts

/-- The text of the bounds on the number of rows. -/
def Settings.rangeText (s : Settings) (limit offset : Option Nat) : List Char :=
  Token.write s (Statement.rangeTokens limit offset)

end SqlBuilder
