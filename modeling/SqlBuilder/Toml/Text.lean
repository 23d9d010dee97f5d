import SqlBuilder.Text.Numeral

/-!
# TOML strings and keys

The spellings of strings and keys.  Every reader here takes the text from its first character on and
gives what it read together with the text after it.

* `isPlain` : the characters that stand for themselves in strings and comments;
* `basic`, `literal`, `multiline` : the forms of strings, `string` for all of them;
* `key` : dotted keys.
-/

namespace SqlBuilder.Toml

/-- The text after blanks. -/
def skipBlanks : List Char → List Char := List.dropWhile fun c => c = ' ' || c = '\t'

/-- Whether a character stands for itself in strings and comments: every one but the control
characters, of which only the tabulator does. -/
def isPlain (c : Char) : Bool := c == '\t' || decide (' ' ≤ c) && c != '\x7f'

/-- The text after the end of a line, if the line ends here. -/
def newline? : List Char → Option (List Char)
  | '\n' :: r => some r
  | '\r' :: '\n' :: r => some r
  | _ => none

/-! ### Strings on one line -/

/-- The character that a number of hexadecimal digits spell. -/
def codePoint (count : Nat) (cs : List Char) : Option (Char × List Char) :=
  let digits := cs.take count
  if digits.length = count then
    (Text.ofHexDigits? 0 digits).bind fun n =>
      if n.isValidChar then some (Char.ofNat n, cs.drop count) else none
  else none

/-- The character of an escape, after its backslash. -/
def escaped : List Char → Option (Char × List Char)
  | '"' :: r => some ('"', r)
  | '\\' :: r => some ('\\', r)
  | 'b' :: r => some ('\x08', r)
  | 'f' :: r => some ('\x0c', r)
  | 'n' :: r => some ('\n', r)
  | 'r' :: r => some ('\r', r)
  | 't' :: r => some ('\t', r)
  | 'u' :: r => codePoint 4 r
  | 'U' :: r => codePoint 8 r
  | _ => none

/-- The characters up to the closing quote, with escapes.  Every round reads at least one character,
so as many rounds as there are characters are enough. -/
def basicRounds : Nat → List Char → Option (List Char × List Char)
  | 0, _ => none
  | _, [] => none
  | _, '"' :: rest => some ([], rest)
  | n + 1, '\\' :: rest =>
    (escaped rest).bind fun (c, r) => (basicRounds n r).map fun (cs, r') => (c :: cs, r')
  | n + 1, c :: rest =>
    if isPlain c then (basicRounds n rest).map fun (cs, r) => (c :: cs, r) else none

/-- A string with escapes, after its opening quote. -/
def basic (cs : List Char) : Option (String × List Char) :=
  (basicRounds cs.length cs).map fun (s, r) => (String.ofList s, r)

/-- A string without escapes, after its opening apostrophe. -/
def literal (cs : List Char) : Option (String × List Char) :=
  let inside (c : Char) : Bool := isPlain c && c != '\''
  match cs.dropWhile inside with
  | '\'' :: r => some (String.ofList (cs.takeWhile inside), r)
  | _ => none

/-! ### Strings on several lines -/

/-- The text after the blanks and line ends that a backslash at the end of a line takes away. -/
def skipLines : List Char → List Char
  | '\r' :: '\n' :: r => skipLines r
  | c :: r => if c = ' ' ∨ c = '\t' ∨ c = '\n' then skipLines r else c :: r
  | [] => []

/-- The characters up to three closing quotes.  Up to two quotes may stand before these, and as many
anywhere inside.  Escapes are read in strings between double quotes only. -/
def multilineRounds (quote : Char) : Nat → List Char → Option (List Char × List Char)
  | 0, _ => none
  | _, [] => none
  | n + 1, '\r' :: '\n' :: rest =>
    (multilineRounds quote n rest).map fun (cs, r) => ('\n' :: cs, r)
  | n + 1, c :: rest =>
    let more (c : Char) (rest : List Char) :=
      (multilineRounds quote n rest).map fun (cs, r) => (c :: cs, r)
    if c = quote then
      let run := ((c :: rest).takeWhile (· == quote)).length
      if run < 3 then more c rest
      else some (List.replicate (min run 5 - 3) quote, (c :: rest).drop (min run 5))
    else if c = '\\' ∧ quote = '"' then
      match newline? (skipBlanks rest) with
      | some r => multilineRounds quote n (skipLines r)
      | none => (escaped rest).bind fun (c, r) => more c r
    else if c = '\n' ∨ isPlain c then more c rest
    else none

/-- A string on several lines, after its three opening quotes.  A line end right after them does not
count. -/
def multiline (quote : Char) (cs : List Char) : Option (String × List Char) :=
  (multilineRounds quote cs.length ((newline? cs).getD cs)).map fun (s, r) => (String.ofList s, r)

/-- A string of any form. -/
def string : List Char → Option (String × List Char)
  | '"' :: '"' :: '"' :: r => multiline '"' r
  | '"' :: r => basic r
  | '\'' :: '\'' :: '\'' :: r => multiline '\'' r
  | '\'' :: r => literal r
  | _ => none

/-! ### Keys -/

/-- Whether a character may stand in a key without quotes. -/
def isBare (c : Char) : Bool := c.isAlphanum || c == '_' || c == '-'

/-- One part of a key. -/
def keyPart : List Char → Option (String × List Char)
  | '"' :: r => basic r
  | '\'' :: r => literal r
  | cs =>
    let part := cs.takeWhile isBare
    if part.isEmpty then none else some (String.ofList part, cs.dropWhile isBare)

/-- A dotted key of at most a given number of parts, with the blanks around each. -/
def keyWithin : Nat → List Char → Option (List String × List Char)
  | 0, _ => none
  | n + 1, cs =>
    (keyPart (skipBlanks cs)).bind fun (part, r) =>
      match skipBlanks r with
      | '.' :: r' => (keyWithin n r').map fun (parts, rest) => (part :: parts, rest)
      | rest => some ([part], rest)

/-- How deep keys and values may be nested. -/
def maxDepth : Nat := 79

/-- A dotted key. -/
def key (cs : List Char) : Option (List String × List Char) := keyWithin maxDepth cs

end SqlBuilder.Toml
