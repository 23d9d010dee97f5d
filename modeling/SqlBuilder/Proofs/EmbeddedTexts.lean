import SqlBuilder.Proofs.OnePassWriter
import SqlBuilder.Proofs.ReplacedPlaceholders

/-!
# The text of a sub-query

A SELECT can be rendered on its own, or be written as a sub-query by a writer that has bound values
before.  The two texts are the same but for the numbers of the placeholders, and these can be changed
in the text itself: everything between double quotes is left alone, and to each number behind a dollar
sign the number of values bound before is added.

* `Text.renumbered k` : a Postgres text with `k` added to the number of each placeholder;
* `Settings.renumbered` : the same for a text in either dialect;
* `Token.renumbered_writeFrom` : tokens that are numbered on from more placeholders;
* **`Statement.nestedWriter_run`** : a sub-query is the SELECT with its placeholders renumbered.
-/

namespace SqlBuilder

/-- A text in which `k` is added to the number of each placeholder.  A dollar sign without a number
stays as it is. -/
def Text.renumbered (k : Nat) (cs : List Char) : List Char :=
  replaced (fun digits =>
    '$' :: if digits.isEmpty then [] else decimal (k + ofDecimalDigits digits)) .outside cs

/-- Marks of placeholders in a name, and numbers that get a digit more. -/
example : Text.renumbered 9 "\"a$1\".\"$\" = $1 AND $12".toList =
    "\"a$1\".\"$\" = $10 AND $21".toList := by decide +kernel

/-- A text with `k` more placeholders before it.  In SQLite placeholders have no numbers. -/
def Settings.renumbered (s : Settings) (k : Nat) (cs : List Char) : List Char :=
  match s.dialect with
  | .postgres => Text.renumbered k cs
  | .sqlite => cs

namespace Token

open Text

/-- In Postgres the placeholders of a text can be numbered on from more of them. -/
theorem renumbered_writeFrom {s : Settings} (postgres : s.dialect = .postgres) {ts : List Token}
    (spaced : Spaced ts) (k bound : Nat) :
    Text.renumbered k (writeFrom s bound ts) = writeFrom s (k + bound) ts := by
  unfold Text.renumbered
  induction ts generalizing bound with
  | nil => rfl
  | cons t ts ih =>
    have later := ih spaced.tail
    rcases t.bind_or_bindless with ⟨v, rfl⟩ | bindless
    · have number : (decimal (bound + 1)).isEmpty = false :=
        List.isEmpty_eq_false_iff.2 (decimal_ne_nil _)
      rw [replaced_bind postgres spaced, number, ofDecimalDigits_decimal, later]
      show '$' :: decimal (k + (bound + 1)) ++ _ = s.placeholder (k + bound + 1) ++ _
      rw [Settings.placeholder, postgres]
      rfl
    · rw [writeFrom, writeFrom, replaced_chars bindless, later,
        chars_of_bindless bindless (bound + 1) (k + bound + 1), Nat.add_assoc, Nat.add_assoc]

/-- In SQLite a text does not depend on what is bound before it. -/
theorem writeFrom_sqlite {s : Settings} (sqlite : s.dialect = .sqlite) (ts : List Token) (m n : Nat) :
    writeFrom s m ts = writeFrom s n ts := by
  induction ts generalizing m n with
  | nil => rfl
  | cons t ts ih =>
    have same : t.chars s (m + 1) = t.chars s (n + 1) := by
      rcases t.bind_or_bindless with ⟨v, rfl⟩ | bindless
      · rw [chars, chars, Settings.placeholder, Settings.placeholder, sqlite]
      · exact chars_of_bindless bindless _ _
    rw [writeFrom, writeFrom, same, ih]

end Token

namespace Statement

/-- A statement is written in one pass as it is rendered. -/
theorem writer_run (q : Statement Expr) (s : Settings) :
    (q.writer s).run [] = (q.render s).map fun sql => (sql.text.toList, sql.parameters) := by
  rw [q.writer_tracks s, render]
  cases q.tokens with
  | error e => rfl
  | ok ts =>
    show Except.ok (Token.writeFrom s 0 ts, [] ++ Token.parameters ts) =
      Except.ok ((String.ofList (Token.write s ts)).toList, Token.parameters ts)
    rw [String.toList_ofList, List.nil_append]
    rfl

/-- **A sub-query is the SELECT with its placeholders renumbered.**  On its own the SELECT is written as
it is rendered.  A writer that has bound values before writes the same text with their number added to
the number of each placeholder, appends the same parameters to them, and fails exactly if the rendering
of the SELECT does, with the same error. -/
theorem nestedWriter_run (s : Settings) {q : Statement Expr} (select : q.kind = .select) :
    (q.writer s).run [] = (q.render s).map (fun sql => (sql.text.toList, sql.parameters)) ∧
    ∀ bound : List Value, (q.nestedWriter s).run bound = (q.render s).map fun sql =>
      (s.renumbered bound.length sql.text.toList, bound ++ sql.parameters) := by
  refine ⟨q.writer_run s, fun bound => ?_⟩
  have same : (q.map Expr.piece).nestedTokens = q.tokens := by
    have kind : (q.map Expr.piece).kind = .select := select
    rw [nestedTokens, if_pos kind, tokens, pieceTokens, kind]
  rw [q.nestedWriter_tracks s, same, render]
  cases tokens : q.tokens with
  | error e => rfl
  | ok ts =>
    have writes : (q.map Expr.piece).Writes ts := writes_of_pieceTokens tokens
    have held := holds_of_writes (fold_related Piece.binds_ofNode q) writes
    have text : s.renumbered bound.length (Token.writeFrom s 0 ts) =
        Token.writeFrom s bound.length ts := by
      unfold Settings.renumbered
      cases dialect : s.dialect with
      | postgres => exact Token.renumbered_writeFrom dialect held.spaced bound.length 0
      | sqlite => exact Token.writeFrom_sqlite dialect ts 0 bound.length
    show Except.ok (Token.writeFrom s bound.length ts, bound ++ Token.parameters ts) =
      Except.ok (s.renumbered bound.length (String.ofList (Token.write s ts)).toList,
        bound ++ Token.parameters ts)
    rw [String.toList_ofList, Token.write, text]

/-- A SELECT with marks of placeholders in a name and in a value. -/
def dollars : Statement Expr :=
  let t : Scope := ⟨0, "$7", "$7", false, []⟩
  let equals (v : Value) : Expr :=
    .node (.compare (.node (.field (.node (.row t)) "x")) .equal (.node (.literal v)))
  { Statement.empty .select with
    source := ⟨[.scope t], [0]⟩
    filters := [equals (.int 1), equals (.string "$1")] }

/-- Behind nine values its placeholders have the numbers ten and eleven. -/
theorem nestedWriter_run_dollars : dollars.kind = .select ∧
    dollars.render .default = .ok
      ⟨"SELECT 1 FROM \"$7\" WHERE (\"$7\".x = $1) AND (\"$7\".x = $2)", [.int 1, .string "$1"]⟩ ∧
    (dollars.nestedWriter .default).run (List.replicate 9 .null) = .ok
      ("SELECT 1 FROM \"$7\" WHERE (\"$7\".x = $10) AND (\"$7\".x = $11)".toList,
        List.replicate 9 .null ++ [.int 1, .string "$1"]) := by
  have rendered : dollars.render .default = .ok
      ⟨"SELECT 1 FROM \"$7\" WHERE (\"$7\".x = $1) AND (\"$7\".x = $2)", [.int 1, .string "$1"]⟩ := rfl
  have text : Settings.default.renumbered 9
      "SELECT 1 FROM \"$7\" WHERE (\"$7\".x = $1) AND (\"$7\".x = $2)".toList =
      "SELECT 1 FROM \"$7\" WHERE (\"$7\".x = $10) AND (\"$7\".x = $11)".toList := by
    decide +kernel
  refine ⟨rfl, rendered, ?_⟩
  rw [(nestedWriter_run .default rfl).2, rendered]
  exact congrArg (fun cs => Except.ok (cs, _)) text

end Statement

end SqlBuilder
