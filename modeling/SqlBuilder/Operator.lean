import SqlBuilder.Sql.Vocabulary

/-!
# Kinds and operators

The small enumerations that statements are made of.  Each has a `name`, by which data formats know
it, a list `all` of its members in order, and a spelling in SQL where it has one.

* `StatementKind`, `JoinKind`, `LogicalOp`, `SortOrder`, `Comparison`, `Arithmetic`,
  `AggregateFunction`, `UpdateOp`, `FieldType`;
* `ofName?` finds the member that a name belongs to.
-/

namespace SqlBuilder

/-- The member of a list with a given name. -/
def ofName? {α : Type} (all : List α) (name : α → String) (s : String) : Option α :=
  all.find? fun a => name a == s

/-! ### Statements -/

/-- What a statement does. -/
inductive StatementKind where
  | select | update | delete
  deriving DecidableEq, Repr

namespace StatementKind

def all : List StatementKind := [.select, .update, .delete]

def name : StatementKind → String
  | .select => "Select"
  | .update => "Update"
  | .delete => "Delete"

/-- The word that opens the statement. -/
def keyword : StatementKind → Keyword
  | .select => .SELECT
  | .update => .UPDATE
  | .delete => .DELETE

/-- The kind as it appears in messages. -/
def text (k : StatementKind) : String := k.keyword.spelling

end StatementKind

/-! ### Joins -/

/-- How two sources are joined. -/
inductive JoinKind where
  | inner | cross | leftOuter | rightOuter | fullOuter
  deriving DecidableEq, Repr

namespace JoinKind

def all : List JoinKind := [.inner, .cross, .leftOuter, .rightOuter, .fullOuter]

def name : JoinKind → String
  | .inner => "Inner"
  | .cross => "Cross"
  | .leftOuter => "LeftOuter"
  | .rightOuter => "RightOuter"
  | .fullOuter => "FullOuter"

/-- The words between the operands of a join. -/
def keywords : JoinKind → List Keyword
  | .inner => [.INNER, .JOIN]
  | .cross => [.CROSS, .JOIN]
  | .leftOuter => [.LEFT, .OUTER, .JOIN]
  | .rightOuter => [.RIGHT, .OUTER, .JOIN]
  | .fullOuter => [.FULL, .OUTER, .JOIN]

/-- The words of a join as one text. -/
def text (k : JoinKind) : String := phrase k.keywords

end JoinKind

/-! ### Connectives, orders and comparisons -/

/-- A connective of two predicates. -/
inductive LogicalOp where
  | and | or
  deriving DecidableEq, Repr

namespace LogicalOp

def all : List LogicalOp := [.and, .or]

def name : LogicalOp → String
  | .and => "And"
  | .or => "Or"

def keyword : LogicalOp → Keyword
  | .and => .AND
  | .or => .OR

def text (o : LogicalOp) : String := o.keyword.spelling

end LogicalOp

/-- The direction of an ordering. -/
inductive SortOrder where
  | ascending | descending
  deriving DecidableEq, Repr

namespace SortOrder

def all : List SortOrder := [.ascending, .descending]

def name : SortOrder → String
  | .ascending => "Asc"
  | .descending => "Desc"

def keyword : SortOrder → Keyword
  | .ascending => .ASC
  | .descending => .DESC

def text (o : SortOrder) : String := o.keyword.spelling

end SortOrder

/-- A comparison of two values. -/
inductive Comparison where
  | equal | notEqual | greater | greaterEqual | less | lessEqual | like
  deriving DecidableEq, Repr

namespace Comparison

def all : List Comparison :=
  [.equal, .notEqual, .greater, .greaterEqual, .less, .lessEqual, .like]

def name : Comparison → String
  | .equal => "Eq"
  | .notEqual => "Ne"
  | .greater => "Gt"
  | .greaterEqual => "Gte"
  | .less => "Lt"
  | .lessEqual => "Lte"
  | .like => "Like"

/-- The sign of a comparison, or its word. -/
def sign : Comparison → Mark ⊕ Keyword
  | .equal => .inl .equal
  | .notEqual => .inl .notEqual
  | .greater => .inl .greater
  | .greaterEqual => .inl .greaterEqual
  | .less => .inl .less
  | .lessEqual => .inl .lessEqual
  | .like => .inr .LIKE

def text (o : Comparison) : String := o.sign.elim Mark.spelling Keyword.spelling

end Comparison

/-! ### Arithmetic, aggregates and assignments -/

/-- An arithmetic operator. -/
inductive Arithmetic where
  | add | sub | mul | div
  deriving DecidableEq, Repr

namespace Arithmetic

def all : List Arithmetic := [.add, .sub, .mul, .div]

def name : Arithmetic → String
  | .add => "Add"
  | .sub => "Sub"
  | .mul => "Mul"
  | .div => "Div"

def mark : Arithmetic → Mark
  | .add => .plus
  | .sub => .minus
  | .mul => .star
  | .div => .slash

def text (o : Arithmetic) : String := o.mark.spelling

end Arithmetic

/-- An aggregate function. -/
inductive AggregateFunction where
  | count | sum | average | minimum | maximum
  deriving DecidableEq, Repr

namespace AggregateFunction

def all : List AggregateFunction := [.count, .sum, .average, .minimum, .maximum]

def name : AggregateFunction → String
  | .count => "Count"
  | .sum => "Sum"
  | .average => "Avg"
  | .minimum => "Min"
  | .maximum => "Max"

def keyword : AggregateFunction → Keyword
  | .count => .COUNT
  | .sum => .SUM
  | .average => .AVG
  | .minimum => .MIN
  | .maximum => .MAX

def text (f : AggregateFunction) : String := f.keyword.spelling

end AggregateFunction

/-- How an assignment combines the new value with the old one. -/
inductive UpdateOp where
  | assign | add | sub | mul | div
  deriving DecidableEq, Repr

namespace UpdateOp

def all : List UpdateOp := [.assign, .add, .sub, .mul, .div]

def name : UpdateOp → String
  | .assign => "Assign"
  | .add => "Add"
  | .sub => "Sub"
  | .mul => "Mul"
  | .div => "Div"

/-- The arithmetic applied to the old value, if it is used at all. -/
def arithmetic? : UpdateOp → Option Arithmetic
  | .assign => none
  | .add => some .add
  | .sub => some .sub
  | .mul => some .mul
  | .div => some .div

end UpdateOp

/-! ### Fields -/

/-- The storage type of a field. -/
inductive FieldType where
  | bool | int | bigInt | float | double | text | bytes | timestamp
  deriving DecidableEq, Repr

namespace FieldType

def all : List FieldType :=
  [.bool, .int, .bigInt, .float, .double, .text, .bytes, .timestamp]

def name : FieldType → String
  | .bool => "Bool"
  | .int => "Int"
  | .bigInt => "BigInt"
  | .float => "Float"
  | .double => "Double"
  | .text => "Text"
  | .bytes => "Bytes"
  | .timestamp => "Timestamp"

/-- Whether arithmetic applies to values of the type. -/
def isNumeric : FieldType → Bool
  | .int | .bigInt | .float | .double => true
  | _ => false

end FieldType

end SqlBuilder
