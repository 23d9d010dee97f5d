import SqlBuilder.Json.Basic

/-!
# Reading JSON texts

A strict reader: one value, blanks around it, nothing else.

* `Json.Reader.numeral` : numbers.  A number without fraction or exponent that fits 64 bits is whole;
  every other is a double, computed from the leading digits that fit 64 bits and scaled by powers of
  ten, each scaling rounded once.  A number beyond the largest double is refused.
* `Json.Reader.text` : strings.  Surrogate halves must come in pairs.
* `Json.parse?` : the value of a text.
-/

namespace SqlBuilder.Json

namespace Reader

/-- The text after blanks. -/
def skipBlanks : List Char → List Char
  | c :: cs => if c = ' ' ∨ c = '\n' ∨ c = '\t' ∨ c = '\r' then skipBlanks cs else c :: cs
  | [] => []

/-! ### Numbers -/

/-- The value of a decimal digit. -/
def digitValue (c : Char) : Nat := c.toNat - '0'.toNat

/-- Appends digits to a number as long as it stays below `2 ^ 64`, and counts them. -/
def gather (number count : Nat) : List Char → Nat × Nat × List Char
  | [] => (number, count, [])
  | c :: cs =>
    if c.isDigit ∧ 10 * number + digitValue c < Nat.pow 2 64 then
      gather (10 * number + digitValue c) (count + 1) cs
    else (number, count, c :: cs)

/-- Whether a digit comes next. -/
def startsWithDigit : List Char → Bool
  | c :: _ => c.isDigit
  | [] => false

/-- The power of ten as a double. -/
def powerOfTen (n : Nat) : Double := Double.ofRatio false (Nat.pow 10 n) 1

/-- A double times a power of ten.  A scaling takes at most 308 powers at once; `rounds` of them are
enough to bring any number of 64 bits down to zero. -/
def scale (rounds : Nat) (d : Double) (exponent : Int) : Option Double :=
  if 0 ≤ exponent then
    if exponent ≤ 308 then
      let r := d.times (powerOfTen exponent.toNat)
      if r.isInfinite then none else some r
    else if d.isZero then some d else none
  else if -308 ≤ exponent then some (d.dividedBy (powerOfTen (-exponent).toNat))
  else match rounds with
    | 0 => some d
    | n + 1 => scale n (d.dividedBy (powerOfTen 308)) (exponent + 308)

/-- The double of a significand below `2 ^ 64` and a power of ten. -/
def ofParts (negative : Bool) (significand : Nat) (exponent : Int) : Option Double :=
  (scale 4 (Double.ofRatio false significand 1) exponent).map fun d =>
    if negative then d.negate else d

/-- The digits of an exponent, after its optional sign. -/
def exponentPart (cs : List Char) : Option (Int × List Char) :=
  let (negative, cs) := match cs with
    | '+' :: r => (false, r)
    | '-' :: r => (true, r)
    | r => (false, r)
  let digits := cs.takeWhile Char.isDigit
  if digits.isEmpty then none
  else
    let n : Int := Text.ofDecimalDigits digits
    some (if negative then -n else n, cs.dropWhile Char.isDigit)

/-- The rest of a number after its fraction: an exponent or nothing. -/
def scaled (negative : Bool) (significand : Nat) (exponent : Int) (cs : List Char) :
    Option (Json × List Char) :=
  let finish (e : Int) (rest : List Char) :=
    (ofParts negative significand e).map fun d => (Json.float d, rest)
  match cs with
  | 'e' :: r | 'E' :: r => (exponentPart r).bind fun (e, rest) => finish (exponent + e) rest
  | r => finish exponent r

/-- The fraction of a number, after its point.  Digits that no longer fit are ignored. -/
def fraction (negative : Bool) (significand : Nat) (exponent : Int) (cs : List Char) :
    Option (Json × List Char) :=
  let (n, count, rest) := gather significand 0 cs
  if count = 0 ∧ startsWithDigit rest = false then none
  else scaled negative n (exponent - count) (rest.dropWhile Char.isDigit)

/-- A number after its optional minus sign. -/
def unsigned (negative : Bool) (cs : List Char) : Option (Json × List Char) :=
  let whole (n : Nat) (cs : List Char) : Option (Json × List Char) :=
    match cs with
    | '.' :: r => fraction negative n 0 r
    | 'e' :: _ | 'E' :: _ => scaled negative n 0 cs
    | r =>
      if negative = false then some (.int n, r)
      else if 0 < n ∧ n ≤ Nat.pow 2 63 then some (.int (-n), r)
      else (ofParts true n 0).map fun d => (.float d, r)
  match cs with
  | '0' :: r => if startsWithDigit r then none else whole 0 r
  | c :: r =>
    if c.isDigit then
      let (n, _, rest) := gather (digitValue c) 0 r
      if startsWithDigit rest then
        let dropped := rest.takeWhile Char.isDigit
        match rest.dropWhile Char.isDigit with
        | '.' :: r' => fraction negative n dropped.length r'
        | r' => scaled negative n dropped.length r'
      else whole n rest
    else none
  | [] => none

/-- A number. -/
def numeral : List Char → Option (Json × List Char)
  | '-' :: cs => unsigned true cs
  | cs => unsigned false cs

/-! ### Strings -/

/-- The number that four hexadecimal digits spell. -/
def fourDigits : List Char → Option (Nat × List Char)
  | a :: b :: c :: d :: rest => (Text.ofHexDigits? 0 [a, b, c, d]).map fun n => (n, rest)
  | _ => none

/-- Whether a code unit is the first half of a pair. -/
def isHighHalf (n : Nat) : Bool := decide (0xd800 ≤ n) && decide (n < 0xdc00)

/-- Whether a code unit is the second half of a pair. -/
def isLowHalf (n : Nat) : Bool := decide (0xdc00 ≤ n) && decide (n < 0xe000)

/-- The character of an escape, after its backslash. -/
def escaped : List Char → Option (Char × List Char)
  | '"' :: r => some ('"', r)
  | '\\' :: r => some ('\\', r)
  | '/' :: r => some ('/', r)
  | 'b' :: r => some ('\x08', r)
  | 'f' :: r => some ('\x0c', r)
  | 'n' :: r => some ('\n', r)
  | 'r' :: r => some ('\r', r)
  | 't' :: r => some ('\t', r)
  | 'u' :: r =>
    (fourDigits r).bind fun (n, rest) =>
      if isLowHalf n then none
      else if isHighHalf n then
        match rest with
        | '\\' :: 'u' :: r' =>
          (fourDigits r').bind fun (m, rest') =>
            if isLowHalf m then
              some (Char.ofNat (0x10000 + (n - 0xd800) * 0x400 + (m - 0xdc00)), rest')
            else none
        | _ => none
      else some (Char.ofNat n, rest)
  | _ => none

/-- The characters of a string after its opening quote.  Every round reads at least one character, so
as many rounds as there are characters are enough. -/
def text : Nat → List Char → Option (List Char × List Char)
  | 0, _ => none
  | _, [] => none
  | _, '"' :: rest => some ([], rest)
  | n + 1, '\\' :: rest =>
    (escaped rest).bind fun (c, r) => (text n r).map fun (cs, r') => (c :: cs, r')
  | n + 1, c :: rest =>
    if c.toNat < 0x20 then none else (text n rest).map fun (cs, r') => (c :: cs, r')

/-- A string after its opening quote. -/
def string (cs : List Char) : Option (String × List Char) :=
  (text cs.length cs).map fun (s, r) => (String.ofList s, r)

/-! ### Values -/

/-- The text after a word, if it starts with it. -/
def afterWord (word : List Char) (cs : List Char) : Option (List Char) :=
  if word.isPrefixOf cs then some (cs.drop word.length) else none

mutual

/-- A value and what follows it.  Every round reads at least one character. -/
def value : Nat → List Char → Option (Json × List Char)
  | 0, _ => none
  | n + 1, cs =>
    match skipBlanks cs with
    | '"' :: r => (string r).map fun (s, rest) => (.string s, rest)
    | '[' :: r =>
      match skipBlanks r with
      | ']' :: rest => some (.array [], rest)
      | r' => (items n r').map fun (js, rest) => (.array js, rest)
    | '\x7b' :: r =>
      match skipBlanks r with
      | '\x7d' :: rest => some (.object [], rest)
      | r' => (members n r').map fun (ms, rest) => (.object ms, rest)
    | 'n' :: r => (afterWord "ull".toList r).map fun rest => (.null, rest)
    | 't' :: r => (afterWord "rue".toList r).map fun rest => (.bool true, rest)
    | 'f' :: r => (afterWord "alse".toList r).map fun rest => (.bool false, rest)
    | r => numeral r

/-- The items of an array up to its closing bracket. -/
def items : Nat → List Char → Option (List Json × List Char)
  | 0, _ => none
  | n + 1, cs =>
    (value n cs).bind fun (j, r) =>
      match skipBlanks r with
      | ',' :: r' => (items n r').map fun (js, rest) => (j :: js, rest)
      | ']' :: rest => some ([j], rest)
      | _ => none

/-- The members of an object up to its closing brace. -/
def members : Nat → List Char → Option (List (String × Json) × List Char)
  | 0, _ => none
  | n + 1, cs =>
    match skipBlanks cs with
    | '"' :: r =>
      (string r).bind fun (k, r₁) =>
        match skipBlanks r₁ with
        | ':' :: r₂ =>
          (value n r₂).bind fun (j, r₃) =>
            match skipBlanks r₃ with
            | ',' :: r₄ => (members n r₄).map fun (ms, rest) => ((k, j) :: ms, rest)
            | '\x7d' :: rest => some ([(k, j)], rest)
            | _ => none
        | _ => none
    | _ => none

end

end Reader

/-- The value of a text that holds one value and blanks around it. -/
def parse? (s : String) : Option Json :=
  (Reader.value (2 * s.length + 2) s.toList).bind fun (j, rest) =>
    if (Reader.skipBlanks rest).isEmpty then some j else none

end SqlBuilder.Json
