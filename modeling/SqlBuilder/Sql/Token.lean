import SqlBuilder.Settings
import SqlBuilder.Sql.Vocabulary
import SqlBuilder.Value

/-!
# Tokens of SQL text

The text of a statement as a list of tokens.  A token says what stands in the text, not how a dialect
writes it, and a placeholder carries the value that is bound to it.

* `Token.parameters` : the bound values, from left to right;
* `Token.write` : the characters of a list of tokens, placeholders numbered from left to right;
* `Sql.ofTokens` : text and parameters together.
-/

namespace SqlBuilder

/-- A token of SQL text. -/
inductive Token where
  | word (k : Keyword)
  | mark (m : Mark)
  | name (n : String)
  | number (n : Nat)
  /-- A placeholder, with the value bound to it. -/
  | bind (v : Value)
  | blank
  /-- A limit that does not limit, where a dialect needs one in front of an offset. -/
  | unlimited
  deriving DecidableEq, Repr

namespace Token

/-- The characters of a token; `number` is the one a placeholder gets. -/
def chars (s : Settings) (number : Nat) : Token → List Char
  | .word k => k.spelling.toList
  | .mark m => m.spelling.toList
  | .name n => s.writeName n
  | .number n => Text.decimal n
  | .bind _ => s.placeholder number
  | .blank => [' ']
  | .unlimited =>
    match s.dialect with
    | .postgres => []
    | .sqlite => " LIMIT -1".toList

/-- How many placeholders a token takes. -/
def arity : Token → Nat
  | .bind _ => 1
  | _ => 0

/-- The values bound in a list of tokens, from left to right. -/
def parameters (ts : List Token) : List Value :=
  ts.filterMap fun
    | .bind v => some v
    | _ => none

/-- The characters of a list of tokens when `bound` placeholders stand before it. -/
def writeFrom (s : Settings) : Nat → List Token → List Char
  | _, [] => []
  | bound, t :: ts => t.chars s (bound + 1) ++ writeFrom s (bound + t.arity) ts

/-- The characters of a list of tokens. -/
def write (s : Settings) (ts : List Token) : List Char := writeFrom s 0 ts

/-! ### Writing one list after another -/

theorem parameters_append (ts us : List Token) :
    parameters (ts ++ us) = parameters ts ++ parameters us := List.filterMap_append

theorem parameters_cons (t : Token) (ts : List Token) :
    (parameters (t :: ts)).length = t.arity + (parameters ts).length := by
  cases t <;> simp [parameters, arity, Nat.add_comm]

/-- A list after another is numbered on from the placeholders of the first. -/
theorem writeFrom_append (s : Settings) (bound : Nat) (ts us : List Token) :
    writeFrom s bound (ts ++ us) =
      writeFrom s bound ts ++ writeFrom s (bound + (parameters ts).length) us := by
  induction ts generalizing bound with
  | nil => rfl
  | cons t ts ih =>
    rw [List.cons_append, writeFrom, ih, writeFrom, List.append_assoc, parameters_cons,
      Nat.add_assoc]

end Token

/-- The text of a statement and the values of its placeholders in order. -/
structure Sql where
  text : String
  parameters : List Value
  deriving DecidableEq, Repr

/-- Text and parameters of a list of tokens. -/
def Sql.ofTokens (s : Settings) (ts : List Token) : Sql :=
  ⟨String.ofList (Token.write s ts), Token.parameters ts⟩

end SqlBuilder
