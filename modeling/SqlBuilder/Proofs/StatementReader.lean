import SqlBuilder.Proofs.NormalForm
import SqlBuilder.Proofs.TokenReader

/-!
# Reading statements back from tokens

A reader of the SELECT statements that the renderer writes, from the text to the normal form.  An
expression is read by a reader one level less deep, which is a parameter of each rule, and as many
levels are allowed for as there are tokens.

* `Reader` : readers of tokens, with `ifNext`, `expect` and `items` to build them;
* `Reader.expression`, `Reader.source`, `Reader.selection` : the rules for each construct;
* `Selection.read?` : the statement that a text and its parameters stand for.
-/

namespace SqlBuilder

/-- A reader takes tokens from the front of a list, or fails. -/
abbrev Reader (α : Type) : Type := StateT (List Token) Option α

namespace Reader

variable {α : Type}

/-! ### Building readers -/

/-- Reads on with `yes` behind the expected tokens, and with `no` where others stand. -/
def ifNext (expected : List Token) (yes no : Reader α) : Reader α := fun ts =>
  if expected.isPrefixOf ts then yes (ts.drop expected.length) else no ts

def expect (expected : List Token) : Reader Unit := ifNext expected (pure ()) failure

def next : Reader Token
  | [] => none
  | t :: ts => some (t, ts)

def name : Reader String
  | .name n :: ts => some (n, ts)
  | _ => none

def number : Reader Nat
  | .number n :: ts => some (n, ts)
  | _ => none

def value : Reader Value
  | .bind v :: ts => some (v, ts)
  | .word .NULL :: ts => some (.null, ts)
  | _ => none

/-- At most so many further items, each behind a separator. -/
def further (separator : Token) (item : Reader α) : Nat → Reader (List α)
  | 0 => pure []
  | most + 1 =>
    ifNext [separator]
      (do
        let a ← item
        let as ← further separator item most
        return a :: as)
      (pure [])

/-- One or more items with separators between them. -/
def items (separator : Token) (item : Reader α) : Reader (List α) := do
  let ts ← get
  let a ← item
  let as ← further separator item ts.length
  return a :: as

/-- The items of a clause, or none where it does not open. -/
def clause (opening : List Keyword) (body : Reader (List α)) : Reader (List α) :=
  ifNext (opening.map Token.word) body (pure [])

/-! ### Sources -/

section Rules

variable (self : Reader Normal)

def table : Reader (Source Normal) := do
  let n ← name
  ifNext [.word .AS] (do return .table n (← name)) (pure (.table n n))

/-- The kind of the join that follows, if one does. -/
def joinKind : Reader (Option JoinKind) := fun ts =>
  match JoinKind.all.find? fun kind => (kind.keywords.map Token.word).isPrefixOf ts with
  | some kind => some (some kind, ts.drop kind.keywords.length)
  | none => some (none, ts)

def predicate : Reader (Option Normal) :=
  ifNext [.word .ON] (do return some (← self)) (pure none)

/-- The right operand of a join: a table, or in parentheses what is read by `nested`. -/
def rightOperand (nested : Reader (Source Normal)) : Reader (Source Normal) :=
  ifNext [.mark .leftParen]
    (do
      let right ← nested
      expect [.mark .rightParen]
      return right)
    table

/-- At most so many joins behind a left operand. -/
def joins : Nat → Source Normal → Reader (Source Normal)
  | 0, _ => failure
  | most + 1, left => do
    match ← joinKind with
    | none => return left
    | some kind =>
      let right ← rightOperand do
        let first ← table
        joins most first
      let p ← predicate self
      joins most (.join kind left right p)

/-- A table and what is joined to it. -/
def sourceWithin (most : Nat) : Reader (Source Normal) := do
  let first ← table
  joins self most first

def source : Reader (Source Normal) := do
  let ts ← get
  sourceWithin self ts.length

/-! ### Statements -/

def term : Reader (OrderTerm Normal) := do
  let e ← self
  let t ← next
  match SortOrder.all.find? fun order => .word order.keyword == t with
  | some order => return ⟨e, order⟩
  | none => failure

/-- The bound that a word announces, if it does. -/
def bound (k : Keyword) : Reader (Option Nat) :=
  ifNext [.word k] (do return some (← number)) (pure none)

/-- The limit, unless it does not limit. -/
def limit : Reader (Option Nat) :=
  ifNext [.word .LIMIT, .mark .minus, .number 1] (pure none) (bound .LIMIT)

/-- A SELECT behind its first word. -/
def selection : Reader (Selection Normal) := do
  let distinct ← ifNext [.word .DISTINCT] (pure true) (pure false)
  let columns ← ifNext [.number 1] (pure []) (items (.mark .comma) self)
  let sources ← clause [.FROM] (items (.mark .comma) (source self))
  let filters ← clause [.WHERE] (items (.word .AND) self)
  let grouping ← clause [.GROUP, .BY] (items (.mark .comma) self)
  let having_ ← clause [.HAVING] (items (.word .AND) self)
  let ordering ← clause [.ORDER, .BY] (items (.mark .comma) (term self))
  let most ← limit
  let skipped ← bound .OFFSET
  return ⟨distinct, columns, sources, filters, grouping, having_, ordering, most, skipped⟩

/-! ### Expressions -/

/-- Two operands around an operator. -/
def ofOperator (left right : Normal) (t : Token) : Option (Form Normal) :=
  ((Comparison.all.find? fun op => Render.comparison op == t).map fun op => .compare left op right)
    <|> ((LogicalOp.all.find? fun op => .word op.keyword == t).map fun op => .logical left op right)
    <|> ((Arithmetic.all.find? fun op => .mark op.mark == t).map fun op => .arithmetic left op right)

/-- The members of a list, behind its opening parenthesis. -/
def members (e : Normal) (negated : Bool) : Reader Normal := do
  let vs ← items (.mark .comma) value
  expect [.mark .rightParen, .mark .rightParen]
  return .form (.inList e vs negated)

/-- What stands in parentheses behind a first operand. -/
def suffix (e : Normal) : Reader Normal :=
  ifNext [.mark .rightParen, .mark .dot] (do return .form (.field e (← name))) <|
  ifNext [.word .IS, .word .NULL, .mark .rightParen] (pure (.form (.isNull e))) <|
  ifNext [.word .IN, .mark .leftParen] (members e false) <|
  ifNext [.word .NOT, .word .IN, .mark .leftParen] (members e true) <| do
    let t ← next
    let r ← self
    expect [.mark .rightParen]
    match ofOperator e r t with
    | some f => return .form f
    | none => failure

/-- An existence test behind its SELECT. -/
def existence (negated : Bool) : Reader Normal := do
  let q ← selection self
  expect [.mark .rightParen, .mark .rightParen]
  return .form (.existence q negated)

/-- What stands in parentheses. -/
def compound : Reader Normal :=
  ifNext [.word .NOT, .word .EXISTS, .mark .leftParen, .word .SELECT] (existence self true) <|
  ifNext [.word .EXISTS, .mark .leftParen, .word .SELECT] (existence self false) <|
  ifNext [.word .NOT]
    (do
      let e ← self
      expect [.mark .rightParen]
      return .form (.not e)) <|
  ifNext [.word .SELECT]
    (do
      let q ← selection self
      expect [.mark .rightParen]
      return .form (.subquery q)) <| do
    let e ← self
    suffix self e

/-- The argument of an aggregate. -/
def argument (f : AggregateFunction) (distinct : Bool) : Reader Normal := do
  let e ← self
  expect [.mark .rightParen]
  return .form (.aggregate f distinct e)

/-- An aggregate behind its opening parenthesis. -/
def aggregate (f : AggregateFunction) : Reader Normal :=
  ifNext [.mark .star, .mark .rightParen]
    (if f = .count then pure (.form .countRows) else failure) <|
  ifNext [.word .DISTINCT] (argument self f true) (argument self f false)

/-- The arguments of a coalescence, behind the opening parenthesis. -/
def coalesce : Reader Normal :=
  ifNext [.mark .rightParen] (pure (.form (.coalesce []))) <| do
    let es ← items (.mark .comma) self
    expect [.mark .rightParen]
    return .form (.coalesce es)

/-- An expression behind its first token. -/
def expressionAfter : Token → Reader Normal
  | .name n => do
    expect [.mark .dot]
    return .column n (← name)
  | .bind v => pure (.form (.literal v))
  | .word .NULL => pure (.form (.literal .null))
  | .word .TRUE => pure (.form (.truth true))
  | .word .FALSE => pure (.form (.truth false))
  | .word .COALESCE => ifNext [.mark .leftParen] (coalesce self) failure
  | .word k =>
    match AggregateFunction.all.find? fun f => f.keyword == k with
    | some f => ifNext [.mark .leftParen] (aggregate self f) failure
    | none => failure
  | .mark .leftParen => compound self
  | _ => failure

/-- An expression whose operands are read by `self`. -/
def expression : Reader Normal := do
  let t ← next
  expressionAfter self t

end Rules

/-- Expressions of at most so many levels. -/
def expressionWithin : Nat → Reader Normal
  | 0 => failure
  | levels + 1 => expression (expressionWithin levels)

/-- A SELECT whose expressions have at most so many levels. -/
def statement (levels : Nat) : Reader (Selection Normal) := do
  expect [.word .SELECT]
  selection (expressionWithin levels)

end Reader

/-- The SELECT that a text and its parameters stand for, in normal form. -/
def Selection.read? (sql : Sql) : Option (Selection Normal) := do
  let ts ← Token.readAll sql.parameters sql.text.toList
  let (q, rest) ← Reader.statement ts.length ts
  if rest.isEmpty then some q else none

end SqlBuilder
