/-!
# The fixed words and marks of SQL

Everything in the text of a statement that is neither a name, nor a number, nor a placeholder.

* `Keyword` : the words, `Keyword.spelling` their text, `Keyword.all` the list of them;
* `Mark` : the punctuation and operator signs, `Mark.spelling` their text;
* `phrase` : words with blanks between them.
-/

namespace SqlBuilder

/-- A word of SQL. -/
inductive Keyword where
  | SELECT | DISTINCT | UPDATE | SET | DELETE | FROM | AS | WHERE | GROUP | HAVING | ORDER | BY
  | ASC | DESC | LIMIT | OFFSET | INNER | CROSS | LEFT | RIGHT | FULL | OUTER | JOIN | ON | AND
  | OR | NOT | IN | IS | LIKE | EXISTS | NULL | TRUE | FALSE | COUNT | SUM | AVG | MIN | MAX
  | COALESCE
  deriving DecidableEq, Repr

/-- A punctuation or operator sign of SQL. -/
inductive Mark where
  | leftParen | rightParen | comma | dot | star | equal | notEqual | greater | greaterEqual
  | less | lessEqual | plus | minus | slash
  deriving DecidableEq, Repr

namespace Keyword

/-- The text of a word. -/
def spelling : Keyword → String
  | .SELECT => "SELECT"
  | .DISTINCT => "DISTINCT"
  | .UPDATE => "UPDATE"
  | .SET => "SET"
  | .DELETE => "DELETE"
  | .FROM => "FROM"
  | .AS => "AS"
  | .WHERE => "WHERE"
  | .GROUP => "GROUP"
  | .HAVING => "HAVING"
  | .ORDER => "ORDER"
  | .BY => "BY"
  | .ASC => "ASC"
  | .DESC => "DESC"
  | .LIMIT => "LIMIT"
  | .OFFSET => "OFFSET"
  | .INNER => "INNER"
  | .CROSS => "CROSS"
  | .LEFT => "LEFT"
  | .RIGHT => "RIGHT"
  | .FULL => "FULL"
  | .OUTER => "OUTER"
  | .JOIN => "JOIN"
  | .ON => "ON"
  | .AND => "AND"
  | .OR => "OR"
  | .NOT => "NOT"
  | .IN => "IN"
  | .IS => "IS"
  | .LIKE => "LIKE"
  | .EXISTS => "EXISTS"
  | .NULL => "NULL"
  | .TRUE => "TRUE"
  | .FALSE => "FALSE"
  | .COUNT => "COUNT"
  | .SUM => "SUM"
  | .AVG => "AVG"
  | .MIN => "MIN"
  | .MAX => "MAX"
  | .COALESCE => "COALESCE"

/-- Every word. -/
def all : List Keyword :=
  [.SELECT, .DISTINCT, .UPDATE, .SET, .DELETE, .FROM, .AS, .WHERE, .GROUP, .HAVING, .ORDER, .BY,
    .ASC, .DESC, .LIMIT, .OFFSET, .INNER, .CROSS, .LEFT, .RIGHT, .FULL, .OUTER, .JOIN, .ON, .AND,
    .OR, .NOT, .IN, .IS, .LIKE, .EXISTS, .NULL, .TRUE, .FALSE, .COUNT, .SUM, .AVG, .MIN, .MAX,
    .COALESCE]

theorem mem_all (k : Keyword) : k ∈ all := by cases k <;> decide

end Keyword

namespace Mark

/-- The text of a sign. -/
def spelling : Mark → String
  | .leftParen => "("
  | .rightParen => ")"
  | .comma => ","
  | .dot => "."
  | .star => "*"
  | .equal => "="
  | .notEqual => "!="
  | .greater => ">"
  | .greaterEqual => ">="
  | .less => "<"
  | .lessEqual => "<="
  | .plus => "+"
  | .minus => "-"
  | .slash => "/"

end Mark

/-- Words with blanks between them. -/
def phrase (words : List Keyword) : String :=
  " ".intercalate (words.map Keyword.spelling)

end SqlBuilder
