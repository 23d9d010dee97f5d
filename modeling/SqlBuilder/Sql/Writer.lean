import SqlBuilder.Sql.Render

/-!
# Writing in one pass

The renderer lists the tokens of a statement first, and the placeholders among them are numbered when
the list is written.  A writer does both at once: it keeps the values that are bound so far, binds a
value where its placeholder is written, and numbers the placeholder by what it has bound.  It writes a
statement and the sub-queries in it as they come, one after the other.

* `Writer`, `Writing` : writers, and operands as a writer sees them;
* `Writer.select`, `Writer.update`, `Writer.delete` : each kind of statement;
* `Writer.nested`, `Writing.ofNode` : sub-queries, and expressions around them;
* `Statement.writer`, `Statement.nestedWriter` : a whole statement, and one inside an expression.
-/

namespace SqlBuilder

open Render

/-- A writer.  The values bound so far go in; what is written and the values bound by then come out. -/
abbrev Writer := StateT (List Value) (Except RenderError)

/-- An operand: the scope it is a whole row of, if it is one, and the writer of its text as a
scalar. -/
structure Writing where
  row? : Option Scope
  text : Writer (List Char)

/-- A text in parentheses. -/
def Text.parenthesized (cs : List Char) : List Char := '(' :: (cs ++ [')'])

/-! ### Statements in one pass -/

namespace Writer

variable (s : Settings)

/-- Writes null, and binds every other value. -/
def value (v : Value) : Writer (List Char) :=
  if v.isNull then return Keyword.NULL.spelling.toList
  else do
    modify fun bound => bound ++ [v]
    let bound ← get
    return s.placeholder bound.length

/-- Operands with separators between them. -/
def separated (separator : List Token) (ws : List Writing) : Writer (List Char) := do
  let texts ← ws.mapM Writing.text
  return (Token.write s separator).intercalate texts

/-- Predicates joined by AND. -/
def conjunction (ws : List Writing) : Writer (List Char) := separated s (between [.AND]) ws

/-- A clause of one or more operands; without operands there is no clause. -/
def clause (opening : List Keyword) (ws : List Writing) (body : List Writing → Writer (List Char)) :
    Writer (List Char) :=
  if ws.isEmpty then return []
  else do
    let text ← body ws
    return Token.write s (between opening) ++ text

/-- Two operands around an operator, in parentheses. -/
def around (l : Writing) (op : Token) (r : Writing) : Writer (List Char) := do
  let left ← l.text
  let right ← r.text
  return Text.parenthesized (left ++ Token.write s [.blank, op, .blank] ++ right)

/-- A join, given the texts of its operands and whether the right one is a join. -/
def joined (kind : JoinKind) (left right : List Char) (nested : Bool) (predicate : Option Writing) :
    Writer (List Char) :=
  let operands := left ++ Token.write s (between kind.keywords) ++
    if nested then Text.parenthesized right else right
  match predicate, kind with
  | none, _ => return operands
  | some _, .cross => throw .crossJoinWithPredicate
  | some p, _ => do
    let text ← p.text
    return operands ++ Token.write s (between [.ON]) ++ text

/-- What stands at a position, following operands at most `depth` levels down.  Only operands that never
end lead further down than there are registrations. -/
def registration (c : FromClause Writing) : Nat → Nat → Writer (List Char)
  | 0, id => throw (.endlessJoin id)
  | depth + 1, id =>
    match c.get? id with
    | none => throw (.danglingRegistration id)
    | some (.scope t) => return Token.write s (tableReference t)
    | some (.join j) => do
      let left ← registration c depth j.left
      let right ← registration c depth j.right
      joined s j.kind left right (c.isJoinAt j.right) j.predicate

/-- Each result column.  A whole row stands for its fields. -/
def columns : List Writing → Writer (List (List Char))
  | [] => return []
  | w :: ws =>
    match w.row? with
    | some t => do
      let rest ← columns ws
      return t.fields.map (fun f => Token.write s (columnReference t f.name)) ++ rest
    | none => do
      let text ← w.text
      let rest ← columns ws
      return text :: rest

/-- The select list; without columns it is the constant 1. -/
def selectList (ws : List Writing) : Writer (List Char) := do
  let texts ← columns s ws
  return if texts.isEmpty then Token.write s [.number 1]
    else (Token.write s comma).intercalate texts

/-- The from-clause, if anything is selected from. -/
def source (c : FromClause Writing) : Writer (List Char) :=
  if c.roots.isEmpty then return []
  else do
    let texts ← c.roots.mapM (registration s c (c.registrations.length + 1))
    return Token.write s (between [.FROM]) ++ (Token.write s comma).intercalate texts

/-- The ordering, if there is one. -/
def ordering (ts : List (OrderTerm Writing)) : Writer (List Char) :=
  if ts.isEmpty then return []
  else do
    let texts ← ts.mapM fun t => do
      let text ← t.expr.text
      return text ++ Token.write s [.blank, .word t.order.keyword]
    return Token.write s (between [.ORDER, .BY]) ++ (Token.write s comma).intercalate texts

/-- The clauses of a SELECT. -/
def selectClauses (q : Statement Writing) : Writer (List Char) := do
  let list ← selectList s q.columns
  let from_ ← source s q.source
  let filters ← clause s [.WHERE] q.filters (conjunction s)
  let grouping ← clause s [.GROUP, .BY] q.grouping (separated s comma)
  let having_ ← clause s [.HAVING] q.having (conjunction s)
  let order ← ordering s q.ordering
  return Token.write s (words (if q.distinct then [.SELECT, .DISTINCT] else [.SELECT])) ++
    Token.write s [.blank] ++ list ++ from_ ++ filters ++ grouping ++ having_ ++ order ++
    Token.write s (Statement.rangeTokens q.limit q.offset)

/-- A statement taken as a SELECT. -/
def select (q : Statement Writing) : Writer (List Char) :=
  if q.assignments.isEmpty then selectClauses s q else throw (.assignmentsOutsideUpdate q.kind)

/-- One assignment to a table. -/
def assignment (t : Scope) (a : Assignment Writing) : Writer (List Char) :=
  if a.target.row?.any (fun u => u.id == t.id) then do
    let value ← a.value.text
    let assigned := match a.op.arithmetic? with
      | none => value
      | some op => Text.parenthesized (Token.write s (columnReference t a.field) ++
          Token.write s [.blank, .mark op.mark, .blank] ++ value)
    return Token.write s [.name a.field, .blank, .mark .equal, .blank] ++ assigned
  else throw (.foreignTarget a.field t.aliasName)

/-- The clauses of an UPDATE. -/
def updateClauses (q : Statement Writing) : Writer (List Char) := do
  let t ← (q.target : Except RenderError Scope)
  let assignments ← q.assignments.mapM (assignment s t)
  let filters ← clause s [.WHERE] q.filters (conjunction s)
  return Token.write s (words [.UPDATE]) ++ Token.write s [.blank] ++
    Token.write s (tableReference t) ++ Token.write s (between [.SET]) ++
    (Token.write s comma).intercalate assignments ++ filters

/-- A statement taken as an UPDATE. -/
def update (q : Statement Writing) : Writer (List Char) :=
  if q.assignments.isEmpty then throw .noAssignments else updateClauses s q

/-- The clauses of a DELETE. -/
def deleteClauses (q : Statement Writing) : Writer (List Char) := do
  let t ← (q.target : Except RenderError Scope)
  let filters ← clause s [.WHERE] q.filters (conjunction s)
  return Token.write s (words [.DELETE, .FROM]) ++ Token.write s [.blank] ++
    Token.write s (tableReference t) ++ filters

/-- A statement taken as a DELETE. -/
def delete (q : Statement Writing) : Writer (List Char) :=
  if q.assignments.isEmpty then deleteClauses s q else throw (.assignmentsOutsideUpdate q.kind)

/-- A statement by its kind. -/
def statement (q : Statement Writing) : Writer (List Char) :=
  match q.kind with
  | .select => select s q
  | .update => update s q
  | .delete => delete s q

/-- A statement inside an expression, which must be a SELECT. -/
def nested (q : Statement Writing) : Writer (List Char) :=
  if q.kind = .select then select s q else throw (.subqueryNotSelect q.kind)

end Writer

/-! ### Expressions in one pass -/

namespace Writing

/-- The operand that a node makes of its operands. -/
def ofNode (s : Settings) : Node Writing → Writing
  | .row t => ⟨some t, throw (.rowAsScalar t.aliasName)⟩
  | .field base name =>
    match base.row? with
    | some t => ⟨none, return Token.write s (columnReference t name)⟩
    | none => ⟨none, do
      let text ← base.text
      return Text.parenthesized text ++ Token.write s [.mark .dot, .name name]⟩
  | .literal v => ⟨none, Writer.value s v⟩
  | .compare l op r => ⟨none, Writer.around s l (comparison op) r⟩
  | .logical l op r => ⟨none, Writer.around s l (.word op.keyword) r⟩
  | .not e => ⟨none, do
    let text ← e.text
    return Text.parenthesized (Token.write s [.word .NOT, .blank] ++ text)⟩
  | .arithmetic l op r => ⟨none, Writer.around s l (.mark op.mark) r⟩
  | .isNull e => ⟨none, do
    let text ← e.text
    return Text.parenthesized (text ++ Token.write s (.blank :: words [.IS, .NULL]))⟩
  | .countRows => ⟨none, return Token.write s (.word .COUNT :: parenthesized [.mark .star])⟩
  | .aggregate f d e => ⟨none, do
    let text ← e.text
    return Token.write s [.word f.keyword] ++
      Text.parenthesized (Token.write s (if d then [.word .DISTINCT, .blank] else []) ++ text)⟩
  | .inList _ [] n => ⟨none, return Token.write s [.word (if n then .TRUE else .FALSE)]⟩
  | .inList e (v :: vs) n => ⟨none, do
    let text ← e.text
    let items ← (v :: vs).mapM (Writer.value s)
    return Text.parenthesized (text ++ Token.write s (between (if n then [.NOT, .IN] else [.IN])) ++
      Text.parenthesized ((Token.write s comma).intercalate items))⟩
  | .coalesce es => ⟨none, do
    let text ← Writer.separated s comma es
    return Token.write s [.word .COALESCE] ++ Text.parenthesized text⟩
  | .subquery q => ⟨none, do
    let text ← Writer.nested s q
    return Text.parenthesized text⟩
  | .existence q n => ⟨none, do
    let text ← Writer.nested s q
    return Text.parenthesized (Token.write s (words (if n then [.NOT, .EXISTS] else [.EXISTS])) ++
      Token.write s [.blank] ++ Text.parenthesized text)⟩

end Writing

/-- An expression as a writer sees it. -/
def Expr.writing (s : Settings) : Expr → Writing := Expr.fold (Writing.ofNode s)

namespace Statement

/-- The writer of a statement. -/
def writer (s : Settings) (q : Statement Expr) : Writer (List Char) :=
  Writer.statement s (q.map (Expr.writing s))

/-- The writer of a statement inside an expression. -/
def nestedWriter (s : Settings) (q : Statement Expr) : Writer (List Char) :=
  Writer.nested s (q.map (Expr.writing s))

end Statement

end SqlBuilder
