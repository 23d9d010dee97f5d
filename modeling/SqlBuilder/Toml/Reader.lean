import SqlBuilder.Toml.Number
import SqlBuilder.Toml.Text

/-!
# Reading TOML documents

* `value` : a value, which may hold values;
* `line` : one line of a document, which adds to the draft;
* `parse?` : the entries of a whole document.
-/

namespace SqlBuilder.Toml

/-! ### Gaps -/

/-- The text after blanks, line ends and comments; `inComment` tells that a comment is under way. -/
def skipGaps (inComment : Bool) : List Char → List Char
  | [] => []
  | '\r' :: '\n' :: r => skipGaps false r
  | c :: r =>
    if inComment && isPlain c then skipGaps true r
    else if c = '#' then skipGaps true r
    else if c = ' ' ∨ c = '\t' ∨ c = '\n' then skipGaps false r
    else c :: r

/-- The text after a comment, if there is one. -/
def skipComment : List Char → List Char
  | '#' :: r => r.dropWhile isPlain
  | r => r

/-- The text after the rest of a line that holds nothing more than a comment. -/
def endOfLine (cs : List Char) : Option (List Char) :=
  match skipComment (skipBlanks cs) with
  | [] => some []
  | r => newline? r

/-! ### Values -/

/-- The text after a word, if it starts with it. -/
def afterWord (word : String) (cs : List Char) : Option (List Char) :=
  if word.toList.isPrefixOf cs then some (cs.drop word.length) else none

/-- A value without parts. -/
def scalar : List Char → Option (Scalar × List Char)
  | '"' :: r => (string ('"' :: r)).map fun (s, rest) => (.string s, rest)
  | '\'' :: r => (string ('\'' :: r)).map fun (s, rest) => (.string s, rest)
  | 't' :: r => (afterWord "rue" r).map (.boolean true, ·)
  | 'f' :: r => (afterWord "alse" r).map (.boolean false, ·)
  | cs => (moment cs).or (number cs)

mutual

/-- A value of limited depth and what follows it.  Every second round reads at least one character. -/
def value : Nat → Nat → List Char → Option (Item × List Char)
  | 0, _, _ => none
  | _, 0, '[' :: _ => none
  | _, 0, '\x7b' :: _ => none
  | n + 1, depth + 1, '[' :: r => (items n depth r).map fun (is, rest) => (.array is, rest)
  | n + 1, depth + 1, '\x7b' :: r =>
    match skipBlanks r with
    | '\x7d' :: rest => some (.table .inline [], rest)
    | r' => (pairs n depth [] r').map fun (es, rest) => (.table .inline es, rest)
  | _, _, cs => (scalar cs).map fun (v, rest) => (.scalar v, rest)

/-- The items of an array up to its closing bracket; a comma may follow the last one. -/
def items : Nat → Nat → List Char → Option (List Item × List Char)
  | 0, _, _ => none
  | n + 1, depth, cs =>
    match skipGaps false cs with
    | ']' :: rest => some ([], rest)
    | r =>
      (value n depth r).bind fun (i, r') =>
        match skipGaps false r' with
        | ',' :: r'' => (items n depth r'').map fun (is, rest) => (i :: is, rest)
        | ']' :: rest => some ([i], rest)
        | _ => none

/-- The entries of a table up to its closing brace, added to those before them. -/
def pairs : Nat → Nat → Entries → List Char → Option (Entries × List Char)
  | 0, _, _, _ => none
  | n + 1, depth, es, cs =>
    match key cs with
    | some (k, '=' :: r) =>
      (value n depth (skipBlanks r)).bind fun (i, r') =>
        (define? i false k es).bind fun es' =>
          match skipBlanks r' with
          | ',' :: r'' => pairs n depth es' r''
          | '\x7d' :: rest => some (es', rest)
          | _ => none
    | _ => none

end

/-! ### Lines -/

/-- A header up to its closing brackets and the end of its line. -/
def header (d : Draft) (enter : String → Entries → Option Entries) (closing : String)
    (cs : List Char) : Option (Draft × List Char) := do
  let (k, cs) ← key cs
  let cs ← afterWord closing cs
  let rest ← endOfLine cs
  let d ← d.enter? enter k
  return (d, rest)

/-- A line that sets a key. -/
def definition (d : Draft) (cs : List Char) : Option (Draft × List Char) := do
  let (k, cs) ← key cs
  let cs ← afterWord "=" cs
  let (i, cs) ← value (2 * cs.length + 2) maxDepth (skipBlanks cs)
  let rest ← endOfLine cs
  let d ← d.define? k i
  return (d, rest)

/-- One line after its leading blanks. -/
def line (d : Draft) : List Char → Option (Draft × List Char)
  | '[' :: '[' :: r => header d openElement? "]]" r
  | '[' :: r => header d openTable? "]" r
  | cs =>
    match endOfLine cs with
    | some rest => some (d, rest)
    | none => definition d cs

/-- The entries of a document after further lines.  Every line but the last has at least one
character. -/
def lines : Nat → Draft → List Char → Option Entries
  | 0, _, _ => none
  | n + 1, d, cs =>
    match skipBlanks cs with
    | [] => some d.entries
    | c :: r => (line d (c :: r)).bind fun (d, rest) => lines n d rest

/-- The text after a byte order mark, if there is one. -/
def skipByteOrderMark : List Char → List Char
  | '\ufeff' :: r => r
  | r => r

/-- The entries of a document. -/
def parse? (s : String) : Option Entries :=
  lines (s.length + 1) .empty (skipByteOrderMark s.toList)

end SqlBuilder.Toml
