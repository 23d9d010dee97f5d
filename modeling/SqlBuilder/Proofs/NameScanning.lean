import SqlBuilder.Proofs.TokenReader

/-!
# Scanning names

A database cuts a statement into tokens before it reads it.  The written form of a name is one
token, whatever the name is and whatever follows it, and the token gives the name back.  Which
letters there are besides those of ASCII does not matter for that, nor what they are in lower case.

* `Alphabet` : the classes of characters and the lower case that quoting goes by, with
  `Alphabet.FamiliarOnAscii` for what is known of them;
* `Alphabet.writeName` : the written form of a name, with `standard_writeName` for the alphabet that
  names are written by here;
* `Alphabet.scan`, `Identifier.decode` : one token at the front of a text, and the name it stands
  for;
* `Alphabet.Bare` : what a name has that is written without quotes;
* **`Alphabet.scan_writeName`** : written names are scanned whole, and decoded to what they were.
-/

namespace SqlBuilder

/-! ### Alphabets -/

/-- What quoting asks about characters, and the lower case of a whole name. -/
structure Alphabet where
  isAlphanumeric : Char → Bool
  isNumeric : Char → Bool
  isUppercase : Char → Bool
  lowercase : List Char → List Char

namespace Alphabet

/-- On ASCII an alphabet is the familiar one. -/
structure FamiliarOnAscii (a : Alphabet) : Prop where
  alphanumeric : ∀ c : Char, c.toNat < 0x80 → a.isAlphanumeric c = c.isAlphanum
  numeric : ∀ c : Char, c.toNat < 0x80 → a.isNumeric c = c.isDigit
  uppercase : ∀ c : Char, c.toNat < 0x80 → a.isUppercase c = c.isUpper
  lowercase : ∀ name : List Char, (∀ c ∈ name, c.toNat < 0x80) →
    a.lowercase name = name.map Char.toLower

/-- A character that may stand in a bare name. -/
def isNameChar (a : Alphabet) (c : Char) : Bool := a.isAlphanumeric c || c == '_'

/-- A name needs quotes when it is a reserved word in lower case, has a character that is no letter,
number or underscore or has an upper-case letter, starts with a number or is empty. -/
def needsQuotes (a : Alphabet) (name : List Char) : Bool :=
  reservedWords.contains (String.ofList (a.lowercase name)) ||
    name.any (fun c => !a.isNameChar c) ||
    name.any a.isUppercase ||
    match name with
    | [] => true
    | c :: _ => a.isNumeric c

/-- The written form of a name. -/
def writeName (a : Alphabet) (s : Settings) (name : String) : List Char :=
  match s.quoting with
  | .always => Identifier.quoted name.toList
  | .whenNeeded =>
    if a.needsQuotes name.toList then Identifier.quoted name.toList else name.toList

/-- The alphabet that names are written by.  Of capitals outside ASCII no lower case is needed: a
name that has one is quoted for it. -/
def standard : Alphabet :=
  ⟨Text.isAlphanumeric, Text.isNumeric, Text.isUppercase, List.map Char.toLower⟩

theorem standard_familiar : standard.FamiliarOnAscii :=
  ⟨fun _ => Text.isAlphanumeric_of_ascii, fun _ => Text.isNumeric_of_ascii,
    fun _ => Text.isUppercase_of_ascii, fun _ _ => rfl⟩

end Alphabet

/-! ### Scanning and decoding -/

namespace Identifier

/-- The text up to the closing quote and with it, and what follows it.  Two quotes in a row do not
close. -/
def toClosing : List Char → Option (List Char × List Char)
  | [] => none
  | '"' :: '"' :: cs => (toClosing cs).map fun r => ('"' :: '"' :: r.1, r.2)
  | '"' :: cs => some (['"'], cs)
  | c :: cs => (toClosing cs).map fun r => (c :: r.1, r.2)

/-- A text with every two quotes in a row written as one. -/
def halved : List Char → List Char
  | [] => []
  | '"' :: '"' :: cs => '"' :: halved cs
  | c :: cs => c :: halved cs

/-- The name that a token stands for.  A quoted token loses its outer quotes and its doubled quotes
are halved, and a bare one is folded to lower case. -/
def decode : List Char → List Char
  | [] => []
  | c :: cs => if c = '"' then halved cs.dropLast else (c :: cs).map Char.toLower

end Identifier

namespace Alphabet

/-- A bare token at the front of a text, and what follows it: as many characters as may stand in a
name.  What begins with a digit is a number, and a reserved word is no name, in capitals or not. -/
def scanBare (a : Alphabet) (text : List Char) : Option (List Char × List Char) :=
  match text.takeWhile a.isNameChar with
  | [] => none
  | c :: cs =>
    if c.isDigit || reservedWords.contains (String.ofList ((c :: cs).map Char.toLower)) then none
    else some (c :: cs, text.dropWhile a.isNameChar)

/-- The identifier token at the front of a text, and what follows it. -/
def scan (a : Alphabet) : List Char → Option (List Char × List Char)
  | [] => none
  | c :: cs =>
    if c = '"' then (Identifier.toClosing cs).map fun r => (c :: r.1, r.2) else a.scanBare (c :: cs)

end Alphabet

/-! ### Quoted names -/

namespace Identifier

/-- The closing quote is the one written last, provided no further quote follows. -/
theorem toClosing_doubled (name rest : List Char) (h : rest.head? ≠ some '"') :
    toClosing (doubled name ++ '"' :: rest) = some (doubled name ++ ['"'], rest) := by
  induction name with
  | nil =>
    cases rest with
    | nil => rfl
    | cons c cs =>
      have hc : c ≠ '"' := by simpa using h
      show toClosing ('"' :: c :: cs) = _
      rw [toClosing]
      · rfl
      · intro cs' e
        exact hc (List.cons.inj e).1
  | cons c cs ih =>
    by_cases hc : c = '"'
    · simp [doubled, hc, toClosing, ih]
    · simp [doubled, hc, toClosing, ih]

theorem halved_doubled (name : List Char) : halved (doubled name) = name := by
  induction name with
  | nil => rfl
  | cons c cs ih =>
    by_cases hc : c = '"'
    · simp [doubled, hc, halved, ih]
    · simp [doubled, hc, halved, ih]

theorem decode_quoted (name : List Char) : decode (quoted name) = name := by
  rw [quoted, decode, if_pos rfl, List.dropLast_concat, halved_doubled]

end Identifier

/-! ### Bare names -/

/-- A character that is no upper-case letter of any script is none of ASCII. -/
theorem Text.isUpper_eq_false {c : Char} (h : isUppercase c = false) : c.isUpper = false := by
  refine Bool.eq_false_iff.2 fun capital => ?_
  rw [isUppercase_of_ascii (ascii_of_isUpper capital), capital] at h
  cases h

/-- A text without capitals is its own lower case. -/
theorem Text.map_toLower {text : List Char} (h : ∀ c ∈ text, c.isUpper = false) :
    text.map Char.toLower = text := by
  refine (List.map_congr_left fun c mem => ?_).trans (List.map_id text)
  refine dif_neg fun upper => ?_
  have capital : c.isUpper = true := decide_eq_true upper
  rw [h c mem] at capital
  cases capital

/-- Reserved words are in ASCII. -/
theorem ascii_of_mem_reservedWords {word : String} (h : word ∈ reservedWords) :
    ∀ c ∈ word.toList, c.toNat < 0x80 := by
  have each : ∀ word ∈ reservedWords, word.toList.all fun c => c.toNat < 0x80 := by decide +kernel
  intro c mem
  exact of_decide_eq_true (List.all_eq_true.1 (each word h) c mem)

namespace Alphabet

variable {a : Alphabet}

/-- What a name has that is written without quotes. -/
structure Bare (a : Alphabet) (name : List Char) : Prop where
  not_reserved : reservedWords.contains (String.ofList name) = false
  name_chars : ∀ c ∈ name, a.isNameChar c = true
  no_capitals : ∀ c ∈ name, c.isUpper = false
  starts : ∃ c cs, name = c :: cs ∧ c.isDigit = false

theorem FamiliarOnAscii.isNameChar_quote (familiar : a.FamiliarOnAscii) :
    a.isNameChar '"' = false := by
  rw [isNameChar, familiar.alphanumeric '"' (by decide)]
  decide

/-- Only what is known of ASCII is needed of a name that needs no quotes. -/
theorem FamiliarOnAscii.bare (familiar : a.FamiliarOnAscii) {name : List Char}
    (h : a.needsQuotes name = false) : a.Bare name := by
  simp only [needsQuotes, Bool.or_eq_false_iff, List.any_eq_false] at h
  obtain ⟨⟨⟨reserved, chars⟩, upper⟩, start⟩ := h
  have no_capitals : ∀ c ∈ name, c.isUpper = false := by
    intro c mem
    refine Bool.eq_false_iff.2 fun capital => upper c mem ?_
    rw [familiar.uppercase c (ascii_of_isUpper capital)]
    exact capital
  refine ⟨?not_reserved, fun c mem => ?_, no_capitals, ?starts⟩
  case not_reserved =>
    by_cases ascii : ∀ c ∈ name, c.toNat < 0x80
    · rw [familiar.lowercase name ascii, Text.map_toLower no_capitals] at reserved
      exact reserved
    · refine Bool.eq_false_iff.2 fun word => ascii ?_
      have all := ascii_of_mem_reservedWords (List.contains_iff_mem.1 word)
      rwa [String.toList_ofList] at all
  case starts =>
    cases name with
    | nil => cases start
    | cons c cs =>
      have numeric : a.isNumeric c = false := start
      refine ⟨c, cs, rfl, Bool.eq_false_iff.2 fun digit => ?_⟩
      rw [familiar.numeric c (ascii_of_isDigit digit), digit] at numeric
      cases numeric
  · simpa using chars c mem

/-- A bare name is scanned whole where no character of a name follows. -/
theorem Bare.scanBare {name rest : List Char} (h : a.Bare name)
    (stops : ∀ c, rest.head? = some c → a.isNameChar c = false) :
    a.scanBare (name ++ rest) = some (name, rest) := by
  obtain ⟨c, cs, rfl, digit⟩ := h.starts
  rw [Alphabet.scanBare, Text.takeWhile_of_stops h.name_chars stops,
    Token.dropWhile_of_stops h.name_chars stops]
  refine if_neg ?_
  rw [Text.map_toLower h.no_capitals, h.not_reserved, digit]
  decide

/-- Folding leaves a bare name as it is. -/
theorem Bare.decode {name : List Char} (h : a.Bare name) (quote : '"' ∉ name) :
    Identifier.decode name = name := by
  obtain ⟨c, cs, rfl, _⟩ := h.starts
  obtain ⟨differs, _⟩ := not_or.1 (mt List.mem_cons.2 quote)
  rw [Identifier.decode, if_neg (Ne.symm differs), Text.map_toLower h.no_capitals]

/-! ### Written names -/

/-- A name is written between quotes, or as it is if it is bare. -/
theorem FamiliarOnAscii.writeName_cases (familiar : a.FamiliarOnAscii) (s : Settings)
    (name : String) :
    a.writeName s name = Identifier.quoted name.toList ∨
      a.Bare name.toList ∧ a.writeName s name = name.toList := by
  unfold writeName
  cases s.quoting with
  | always => exact Or.inl rfl
  | whenNeeded =>
    cases needs : a.needsQuotes name.toList with
    | true => exact Or.inl rfl
    | false => exact Or.inr ⟨familiar.bare needs, rfl⟩

/-- By the standard alphabet a name needs quotes exactly when it gets them. -/
theorem standard_needsQuotes (name : List Char) :
    standard.needsQuotes name = Identifier.needsQuotes name := by
  unfold needsQuotes Identifier.needsQuotes
  show (_ || _ || name.any Text.isUppercase || _) = (_ || _ || name.any Text.isUppercase || _)
  cases upper : name.any Text.isUppercase with
  | true => simp only [Bool.or_true, Bool.true_or]
  | false =>
    have lowercase : standard.lowercase name = name :=
      Text.map_toLower fun c mem =>
        Text.isUpper_eq_false (by simpa using List.any_eq_false.1 upper c mem)
    rw [lowercase]
    rfl

theorem standard_writeName (s : Settings) : standard.writeName s = s.writeName := by
  funext name
  rw [writeName, Settings.writeName, standard_needsQuotes]
  cases s.quoting with
  | always => rfl
  | whenNeeded => rfl

/-- The written form of a name is one token where no character of a name and no quote follows. -/
theorem FamiliarOnAscii.scan_written (familiar : a.FamiliarOnAscii) (s : Settings) (name : String)
    {rest : List Char} (stops : ∀ c, rest.head? = some c → a.isNameChar c = false ∧ c ≠ '"') :
    a.scan (a.writeName s name ++ rest) = some (a.writeName s name, rest) := by
  rcases familiar.writeName_cases s name with written | ⟨bare, written⟩
  · rw [written, Identifier.quoted, List.cons_append, List.append_assoc, scan, if_pos rfl]
    show (Identifier.toClosing (Identifier.doubled name.toList ++ '"' :: rest)).map _ = _
    rw [Identifier.toClosing_doubled _ _ fun quote => (stops _ quote).2 rfl]
    rfl
  · rw [written]
    have scanned := bare.scanBare fun c hc => (stops c hc).1
    obtain ⟨c, cs, text, _⟩ := bare.starts
    rw [text] at scanned ⊢
    have differs : c ≠ '"' := by
      rintro rfl
      have mem : '"' ∈ name.toList := by
        rw [text]
        exact List.mem_cons_self
      have char := bare.name_chars _ mem
      rw [familiar.isNameChar_quote] at char
      cases char
    rw [List.cons_append, scan, if_neg differs]
    exact scanned

/-- The written form of a name gives the name back. -/
theorem FamiliarOnAscii.decode_written (familiar : a.FamiliarOnAscii) (s : Settings)
    (name : String) :
    Identifier.decode (a.writeName s name) = name.toList := by
  rcases familiar.writeName_cases s name with written | ⟨bare, written⟩
  · rw [written, Identifier.decode_quoted]
  · rw [written]
    exact bare.decode (Text.not_mem_of_class bare.name_chars familiar.isNameChar_quote)

/-- **Written names are scanned whole and decoded to what they were**, whatever follows that does
not go on with the token, so different names are written differently.  This holds by every alphabet
that is the familiar one on ASCII, and so by the one that names are written by. -/
theorem scan_writeName (familiar : a.FamiliarOnAscii) (s : Settings) (name : String)
    {rest : List Char} (stops : ∀ c, rest.head? = some c → a.isNameChar c = false ∧ c ≠ '"') :
    a.scan (a.writeName s name ++ rest) = some (a.writeName s name, rest) ∧
      String.ofList (Identifier.decode (a.writeName s name)) = name ∧
      (∀ other, a.writeName s other = a.writeName s name → other = name) ∧
      standard.writeName s = s.writeName := by
  refine ⟨familiar.scan_written s name stops, ?decoded, fun other same => ?_, standard_writeName s⟩
  case decoded => rw [familiar.decode_written, String.ofList_toList]
  · have decoded := familiar.decode_written s other
    rw [same, familiar.decode_written] at decoded
    exact String.toList_injective decoded.symm

/-- A name that tries to end its quotes and the statement with them. -/
theorem scan_writeName_quotesInside :
    standard.FamiliarOnAscii ∧ (∀ c, " = $1".toList.head? = some c →
        standard.isNameChar c = false ∧ c ≠ '"') ∧
      standard.scan (Settings.default.writeName "x\" = 1; DROP TABLE \"y" ++ " = $1".toList) =
        some ("\"x\"\" = 1; DROP TABLE \"\"y\"".toList, " = $1".toList) := by
  have stops : ∀ c, " = $1".toList.head? = some c → standard.isNameChar c = false ∧ c ≠ '"' := by
    intro c hc
    cases hc
    decide
  refine ⟨standard_familiar, stops, ?_⟩
  obtain ⟨scanned, -, -, same⟩ :=
    scan_writeName standard_familiar .default "x\" = 1; DROP TABLE \"y" stops
  rw [same] at scanned
  exact scanned

end Alphabet

end SqlBuilder
