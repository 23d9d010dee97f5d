import SqlBuilder.Proofs.PlaceholderText

/-!
# Reading tokens back from text

A reader that cuts the text of a statement into tokens again, given its parameters.  It knows neither
the dialect nor the habit of quoting: a placeholder is a numbered dollar sign or the next question
mark, and a name may stand between quotes or bare.  Blanks are dropped.

* `Token.read`, `Token.readAll` : the first token of a text, and all of them;
* `Token.significant` : what a reader gets to see of a list of tokens;
* **`Token.readAll_write`** : reading what is written gives the significant tokens back.
-/

namespace SqlBuilder

/-! ### Words and signs -/

/-- The word with a given text. -/
def Keyword.ofSpelling? (text : List Char) : Option Keyword :=
  Keyword.all.find? fun k => k.spelling.toList == text

/-- Every sign, those of two characters first. -/
def Mark.longestFirst : List Mark :=
  [.notEqual, .greaterEqual, .lessEqual, .leftParen, .rightParen, .comma, .dot, .star, .equal,
    .greater, .less, .plus, .minus, .slash]

/-- The longest sign that a text begins with. -/
def Mark.ofPrefix? (text : List Char) : Option Mark :=
  Mark.longestFirst.find? fun m => m.spelling.toList.isPrefixOf text

theorem Keyword.ofSpelling?_spelling (k : Keyword) : ofSpelling? k.spelling.toList = some k := by
  have each : Keyword.all.all fun k => ofSpelling? k.spelling.toList == some k := by decide +kernel
  exact beq_iff_eq.1 (List.all_eq_true.1 each k k.mem_all)

theorem ascii_of_isUpper {c : Char} (h : c.isUpper = true) : c.toNat < 0x80 := by
  have bounds : 'A'.val ≤ c.val ∧ c.val ≤ 'Z'.val := of_decide_eq_true h
  have last : c.toNat ≤ 90 := UInt32.le_iff_toNat_le.1 bounds.2
  omega

theorem ascii_of_isDigit {c : Char} (h : c.isDigit = true) : c.toNat < 0x80 := by
  have bounds : '0'.toNat ≤ c.toNat ∧ c.toNat ≤ '9'.toNat := Char.isDigit_iff_toNat.1 h
  have nine : '9'.toNat = 57 := rfl
  omega

/-- The words are made of characters that names are made of. -/
theorem Keyword.isNameChar_of_mem {k : Keyword} {c : Char} (h : c ∈ k.spelling.toList) :
    Identifier.isNameChar c = true := by
  have upper := isUpper_of_mem h
  have alphanum : c.isAlphanum = true := by
    show (c.isUpper || c.isLower || c.isDigit) = true
    rw [upper]
    rfl
  rw [Identifier.isNameChar, Text.isAlphanumeric_of_ascii (ascii_of_isUpper upper), alphanum]
  rfl

/-- No word is a bare name, which has no capitals. -/
theorem Keyword.ofSpelling?_bare {name : List Char} (h : Identifier.Bare name) :
    ofSpelling? name = none := by
  rw [ofSpelling?, List.find?_eq_none]
  intro k _ same
  obtain ⟨c, cs, rfl, _⟩ := h.starts
  have mem : c ∈ k.spelling.toList := by
    rw [beq_iff_eq.1 same]
    exact List.mem_cons_self
  have upper := isUpper_of_mem mem
  have lower := h.no_uppercase c List.mem_cons_self
  rw [Text.isUppercase_of_ascii (ascii_of_isUpper upper), upper] at lower
  cases lower

/-- A sign is read whole; only behind two of them an equals sign must not follow. -/
theorem Mark.ofPrefix?_spelling (m : Mark) {rest : List Char}
    (h : m = .greater ∨ m = .less → rest.head? ≠ some '=') :
    ofPrefix? (m.spelling.toList ++ rest) = some m := by
  cases rest with
  | nil => cases m <;> rfl
  | cons c cs =>
    have longer (open_ended : m = .greater ∨ m = .less) : ('=' == c) = false := by
      rw [beq_eq_false_iff_ne]
      rintro rfl
      exact h open_ended rfl
    cases m with
    | greater => simp [ofPrefix?, longestFirst, spelling, List.isPrefixOf, longer]
    | less => simp [ofPrefix?, longestFirst, spelling, List.isPrefixOf, longer]
    | _ => rfl

namespace Token

/-! ### The reader -/

/-- The first token of a text that starts with `c`, and what follows it.  The values are those of all
placeholders, `bound` of which have been read. -/
def read (values : List Value) (bound : Nat) (c : Char) (cs : List Char) :
    Option (Token × List Char) :=
  if c = ' ' then some (.blank, cs)
  else if c = '"' then
    (Identifier.untilQuote cs).map fun r => (.name (String.ofList r.1), r.2)
  else if c = '?' then values[bound]?.map fun v => (.bind v, cs)
  else if c = '$' then
    values[Text.ofDecimalDigits (cs.takeWhile Char.isDigit) - 1]?.map fun v =>
      (.bind v, cs.dropWhile Char.isDigit)
  else if c.isDigit then
    some (.number (Text.ofDecimalDigits ((c :: cs).takeWhile Char.isDigit)),
      (c :: cs).dropWhile Char.isDigit)
  else if Identifier.isNameChar c then
    let text := (c :: cs).takeWhile Identifier.isNameChar
    let rest := (c :: cs).dropWhile Identifier.isNameChar
    some ((Keyword.ofSpelling? text).elim (.name (String.ofList text)) .word, rest)
  else (Mark.ofPrefix? (c :: cs)).map fun m => (.mark m, (c :: cs).drop m.spelling.length)

/-- The tokens of a text of at most `fuel` characters, blanks dropped. -/
def readWithin (values : List Value) : Nat → Nat → List Char → Option (List Token)
  | _, _, [] => some []
  | 0, _, _ :: _ => none
  | fuel + 1, bound, c :: cs => do
    let (t, rest) ← read values bound c cs
    let ts ← readWithin values fuel (bound + t.arity) rest
    return if t = .blank then ts else t :: ts

/-- The tokens of a text, blanks dropped. -/
def readAll (values : List Value) (text : List Char) : Option (List Token) :=
  readWithin values text.length 0 text

/-- What a reader gets to see of a token. -/
def seen (s : Settings) : Token → List Token
  | .blank => []
  | .unlimited =>
    match s.dialect with
    | .postgres => []
    | .sqlite => [.word .LIMIT, .mark .minus, .number 1]
  | t => [t]

/-- What a reader gets to see of a list of tokens. -/
def significant (s : Settings) (ts : List Token) : List Token := ts.flatMap (seen s)

section Significant

variable (s : Settings)

@[simp] theorem significant_nil : significant s [] = [] := rfl

@[simp] theorem significant_append (ts us : List Token) :
    significant s (ts ++ us) = significant s ts ++ significant s us := List.flatMap_append

@[simp] theorem significant_blank (ts : List Token) :
    significant s (.blank :: ts) = significant s ts := rfl

@[simp] theorem significant_word (k : Keyword) (ts : List Token) :
    significant s (.word k :: ts) = .word k :: significant s ts := rfl

@[simp] theorem significant_mark (m : Mark) (ts : List Token) :
    significant s (.mark m :: ts) = .mark m :: significant s ts := rfl

@[simp] theorem significant_name (n : String) (ts : List Token) :
    significant s (.name n :: ts) = .name n :: significant s ts := rfl

@[simp] theorem significant_number (n : Nat) (ts : List Token) :
    significant s (.number n :: ts) = .number n :: significant s ts := rfl

@[simp] theorem significant_bind (v : Value) (ts : List Token) :
    significant s (.bind v :: ts) = .bind v :: significant s ts := rfl

@[simp] theorem significant_parenthesized (ts : List Token) :
    significant s (Render.parenthesized ts) =
      .mark .leftParen :: (significant s ts ++ [.mark .rightParen]) := by
  simp [Render.parenthesized]

@[simp] theorem significant_comma : significant s Render.comma = [.mark .comma] := rfl

theorem significant_intercalate (separator : List Token) (tss : List (List Token)) :
    significant s (separator.intercalate tss) =
      (significant s separator).intercalate (tss.map (significant s)) := by
  induction tss with
  | nil => rfl
  | cons ts tss ih =>
    cases tss with
    | nil => simp
    | cons us tss =>
      rw [List.intercalate_cons_cons, significant_append, significant_append, ih]
      simp only [List.map_cons, List.intercalate_cons_cons]

@[simp] theorem significant_words (ks : List Keyword) :
    significant s (Render.words ks) = ks.map Token.word := by
  rw [Render.words, significant_intercalate]
  induction ks with
  | nil => rfl
  | cons k ks ih =>
    cases ks with
    | nil => rfl
    | cons l ks =>
      simp only [List.map_cons, List.intercalate_cons_cons] at ih ⊢
      rw [ih]
      rfl

@[simp] theorem significant_between (ks : List Keyword) :
    significant s (Render.between ks) = ks.map Token.word := by
  simp [Render.between]

end Significant

/-! ### Reading without a bound on the length -/

/-- The text is read as these tokens when `bound` placeholders stand before it. -/
inductive ReadAs (values : List Value) : Nat → List Char → List Token → Prop where
  | done (bound : Nat) : ReadAs values bound [] []
  | blank {bound : Nat} {c : Char} {cs rest : List Char} {ts : List Token} :
      read values bound c cs = some (.blank, rest) → rest.length ≤ cs.length →
        ReadAs values bound rest ts → ReadAs values bound (c :: cs) ts
  | token {bound : Nat} {c : Char} {cs rest : List Char} {t : Token} {ts : List Token} :
      read values bound c cs = some (t, rest) → rest.length ≤ cs.length → t ≠ .blank →
        ReadAs values (bound + t.arity) rest ts → ReadAs values bound (c :: cs) (t :: ts)

theorem readWithin_of_readAs {values : List Value} {bound : Nat} {text : List Char}
    {ts : List Token} (h : ReadAs values bound text ts) :
    ∀ {fuel : Nat}, text.length ≤ fuel → readWithin values fuel bound text = some ts := by
  induction h with
  | done bound =>
    intro fuel _
    cases fuel <;> rfl
  | @blank bound c cs rest ts first shorter later ih =>
    intro fuel enough
    cases fuel with
    | zero => cases enough
    | succ fuel =>
      have enough' : cs.length ≤ fuel := Nat.le_of_succ_le_succ enough
      rw [readWithin, first]
      show (readWithin values fuel bound rest).bind _ = _
      rw [ih (by omega)]
      rfl
  | @token bound c cs rest t ts first shorter visible later ih =>
    intro fuel enough
    cases fuel with
    | zero => cases enough
    | succ fuel =>
      have enough' : cs.length ≤ fuel := Nat.le_of_succ_le_succ enough
      rw [readWithin, first]
      show (readWithin values fuel (bound + t.arity) rest).bind _ = _
      rw [ih (by omega)]
      exact congrArg some (if_neg visible)

/-! ### One token -/

/-- The characters that separators begin with end every other token. -/
theorem stops_of_separator {c : Char} (h : c ∈ separatorChars) :
    Identifier.isNameChar c = false ∧ c.isDigit = false ∧ c ≠ '"' ∧ c ≠ '=' := by
  simp only [separatorChars, List.mem_cons, List.not_mem_nil, or_false] at h
  have ascii : c.toNat < 0x80 ∧ c.isAlphanum = false ∧ c ≠ '_' := by
    rcases h with rfl | rfl | rfl | rfl | rfl <;> decide
  refine ⟨Identifier.isNameChar_eq_false ascii.1 ascii.2.1 ascii.2.2, ?_⟩
  rcases h with rfl | rfl | rfl | rfl | rfl <;> decide

theorem dropWhile_of_stops {p : Char → Bool} {cs rest : List Char} (run : ∀ c ∈ cs, p c = true)
    (stops : ∀ c, rest.head? = some c → p c = false) : (cs ++ rest).dropWhile p = rest := by
  rw [List.dropWhile_append_of_pos run]
  cases rest with
  | nil => rfl
  | cons d ds => exact List.dropWhile_cons_of_neg (by simp [stops d rfl])

section Read

variable {s : Settings} {values : List Value} {bound : Nat} {rest : List Char}

/-- The characters of a token are read as the token when the rest of the text stands behind them. -/
def ReadsToken (values : List Value) (bound : Nat) (chars rest : List Char) (t : Token) : Prop :=
  ∃ c cs, chars ++ rest = c :: cs ∧ read values bound c cs = some (t, rest) ∧
    rest.length ≤ cs.length

/-- What may stand behind a token that is no separator. -/
def Stops (rest : List Char) : Prop := ∀ c, rest.head? = some c → c ∈ separatorChars

theorem reads_mark (m : Mark) (stops : m = .greater ∨ m = .less → rest.head? ≠ some '=') :
    ReadsToken values bound m.spelling.toList rest (.mark m) := by
  obtain ⟨c, cs, spelled, plain⟩ : ∃ c cs, m.spelling.toList = c :: cs ∧ c ≠ ' ' ∧ c ≠ '"' ∧
      c ≠ '?' ∧ c ≠ '$' ∧ c.isDigit = false ∧ c.toNat < 0x80 ∧ c.isAlphanum = false ∧ c ≠ '_' := by
    cases m <;> exact ⟨_, _, rfl, by decide⟩
  obtain ⟨blank, quote, question, dollar, digit, ascii, alphanum, underscore⟩ := plain
  have name := Identifier.isNameChar_eq_false ascii alphanum underscore
  have found := Mark.ofPrefix?_spelling m stops
  have length : m.spelling.length = (c :: cs).length := by rw [← spelled, String.length_toList]
  rw [spelled, List.cons_append] at found
  refine ⟨c, cs ++ rest, by rw [spelled, List.cons_append], ?_, by simp⟩
  rw [read, if_neg blank, if_neg quote, if_neg question, if_neg dollar, if_neg (by simp [digit]),
    if_neg (by simp [name]), found, Option.map_some, length, ← List.cons_append, List.drop_left]

/-- A word or a bare name is read whole. -/
theorem reads_nameChars {text : List Char} {t : Token}
    (first : ∃ c cs, text = c :: cs ∧ c.isDigit = false)
    (run : ∀ c ∈ text, Identifier.isNameChar c = true) (stops : Stops rest)
    (known : (Keyword.ofSpelling? text).elim (.name (String.ofList text)) .word = t) :
    ReadsToken values bound text rest t := by
  obtain ⟨c, cs, rfl, digit⟩ := first
  have here : Identifier.isNameChar c = true := run c List.mem_cons_self
  have other : ∀ d : Char, Identifier.isNameChar d = false → c ≠ d := by
    rintro d hd rfl
    exact Text.not_mem_of_class run hd List.mem_cons_self
  have stops' : ∀ d, rest.head? = some d → Identifier.isNameChar d = false :=
    fun d hd => (stops_of_separator (stops d hd)).1
  refine ⟨c, cs ++ rest, rfl, ?_, by simp⟩
  rw [read, if_neg (other ' ' (Identifier.isNameChar_eq_false (by decide) (by decide) (by decide))),
    if_neg (other '"' Identifier.isNameChar_quote),
    if_neg (other '?' (Identifier.isNameChar_eq_false (by decide) (by decide) (by decide))),
    if_neg (other '$' (Identifier.isNameChar_eq_false (by decide) (by decide) (by decide))),
    if_neg (by simp [digit]), if_pos here, ← List.cons_append, Text.takeWhile_of_stops run stops',
    dropWhile_of_stops run stops']
  exact congrArg (fun t => some (t, rest)) known

theorem reads_word (k : Keyword) (stops : Stops rest) :
    ReadsToken values bound k.spelling.toList rest (.word k) := by
  refine reads_nameChars ?_ ?_ stops (by rw [Keyword.ofSpelling?_spelling]; rfl)
  · cases k <;> exact ⟨_, _, rfl, by decide⟩
  · exact fun c hc => Keyword.isNameChar_of_mem hc

theorem reads_quoted (n : String) (stops : Stops rest) :
    ReadsToken values bound (Identifier.quoted n.toList) rest (.name n) := by
  have ends : rest.head? ≠ some '"' := fun h => (stops_of_separator (stops _ h)).2.2.1 rfl
  refine ⟨'"', Identifier.doubled n.toList ++ '"' :: rest, ?_, ?_, ?_⟩
  · rw [Identifier.quoted, List.cons_append, List.append_assoc]
    rfl
  · rw [read, if_neg (by decide), if_pos rfl, Identifier.untilQuote_doubled _ _ ends,
      Option.map_some, String.ofList_toList]
  · rw [List.length_append, List.length_cons]
    omega

theorem reads_name (n : String) (stops : Stops rest) :
    ReadsToken values bound (s.writeName n) rest (.name n) := by
  rw [Settings.writeName]
  rcases s.quoting.write_cases n with written | ⟨bare, written⟩
  · rw [written]
    exact reads_quoted n stops
  · rw [written]
    refine reads_nameChars ?_ bare.name_chars stops ?_
    · obtain ⟨c, cs, text, numeric⟩ := bare.starts
      refine ⟨c, cs, text, Bool.eq_false_iff.2 fun digit => ?_⟩
      rw [Text.isNumeric_of_ascii (ascii_of_isDigit digit), digit] at numeric
      cases numeric
    · rw [Keyword.ofSpelling?_bare bare, Option.elim_none, String.ofList_toList]

theorem reads_number (n : Nat) (stops : Stops rest) :
    ReadsToken values bound (Text.decimal n) rest (.number n) := by
  have run : ∀ c ∈ Text.decimal n, c.isDigit = true := fun c hc => Text.isDigit_of_mem_decimal hc
  have stops' : ∀ c, rest.head? = some c → c.isDigit = false :=
    fun c hc => (stops_of_separator (stops c hc)).2.1
  have number := Text.ofDecimalDigits_decimal n
  cases digits : Text.decimal n with
  | nil => exact absurd digits (Text.decimal_ne_nil n)
  | cons c cs =>
    rw [digits] at run number
    have digit : c.isDigit = true := run c List.mem_cons_self
    have other : ∀ d : Char, d.isDigit = false → c ≠ d := by
      rintro d hd rfl
      exact Text.not_mem_of_class run hd List.mem_cons_self
    refine ⟨c, cs ++ rest, rfl, ?_, by simp⟩
    rw [read, if_neg (other ' ' (by decide)), if_neg (other '"' (by decide)),
      if_neg (other '?' (by decide)), if_neg (other '$' (by decide)), if_pos digit,
      ← List.cons_append, Text.takeWhile_of_stops run stops', dropWhile_of_stops run stops', number]

/-- A placeholder gives the value that it stands for. -/
theorem reads_bind {v : Value} (here : values[bound]? = some v) (stops : Stops rest) :
    ReadsToken values bound (s.placeholder (bound + 1)) rest (.bind v) := by
  rw [Settings.placeholder]
  cases s.dialect with
  | postgres =>
    have run : ∀ c ∈ Text.decimal (bound + 1), c.isDigit = true :=
      fun c hc => Text.isDigit_of_mem_decimal hc
    have stops' : ∀ c, rest.head? = some c → c.isDigit = false :=
      fun c hc => (stops_of_separator (stops c hc)).2.1
    refine ⟨'$', Text.decimal (bound + 1) ++ rest, rfl, ?_, by simp⟩
    rw [read, if_neg (by decide), if_neg (by decide), if_neg (by decide), if_pos rfl,
      Text.takeWhile_of_stops run stops', dropWhile_of_stops run stops',
      Text.ofDecimalDigits_decimal, Nat.add_sub_cancel, here, Option.map_some]
  | sqlite =>
    refine ⟨'?', rest, rfl, ?_, le_rfl⟩
    rw [read, if_neg (by decide), if_neg (by decide), if_pos rfl, here, Option.map_some]

end Read

/-! ### All tokens -/

section All

variable {s : Settings} {values : List Value}

theorem ReadAs.append {bound : Nat} {chars rest : List Char} {t : Token} {ts : List Token}
    (here : ReadsToken values bound chars rest t) (visible : t ≠ .blank)
    (later : ReadAs values (bound + t.arity) rest ts) :
    ReadAs values bound (chars ++ rest) (t :: ts) := by
  obtain ⟨c, cs, text, first, shorter⟩ := here
  rw [text]
  exact .token first shorter visible later

/-- What is written of well spaced tokens is read as what a reader gets to see of them. -/
theorem readAs_writeFrom {ts : List Token} (spaced : Spaced ts) {bound : Nat}
    (supply : values.drop bound = parameters ts) :
    ReadAs values bound (writeFrom s bound ts) (significant s ts) := by
  induction ts generalizing bound with
  | nil => exact .done bound
  | cons t ts ih =>
    have later (bindless : t.arity = 0) :
        ReadAs values (bound + t.arity) (writeFrom s (bound + t.arity) ts) (significant s ts) := by
      rw [bindless]
      refine ih spaced.tail ?_
      rw [Nat.add_zero, supply, parameters_cons_of_arity bindless]
    have stops (inner : t.isSeparator = false) : Stops (writeFrom s (bound + t.arity) ts) :=
      fun c hc => follows_of_spaced spaced inner hc
    rw [writeFrom, significant, List.flatMap_cons]
    cases t with
    | blank => exact .blank rfl le_rfl (later rfl)
    | word k => exact .append (reads_word k (stops rfl)) (by simp) (later rfl)
    | name n => exact .append (reads_name n (stops rfl)) (by simp) (later rfl)
    | number n => exact .append (reads_number n (stops rfl)) (by simp) (later rfl)
    | mark m =>
      refine .append (reads_mark m ?_) (by simp) (later rfl)
      intro open_ended equal
      have inner : (Token.mark m).isSeparator = false := by rcases open_ended with rfl | rfl <;> rfl
      exact (stops_of_separator (stops inner _ equal)).2.2.2 rfl
    | bind v =>
      have here : values[bound]? = some v := by
        have first : (values.drop bound)[0]? = some v := by
          rw [supply]
          rfl
        rwa [List.getElem?_drop, Nat.add_zero] at first
      have rest : values.drop (bound + 1) = parameters ts := by
        rw [← List.tail_drop, supply]
        rfl
      exact .append (reads_bind here (stops rfl)) (by simp) (ih spaced.tail rest)
    | unlimited =>
      cases dialect : s.dialect with
      | postgres =>
        simp only [chars, seen, dialect, List.nil_append]
        exact later rfl
      | sqlite =>
        have spelled : chars s (bound + 1) .unlimited =
            ' ' :: (Keyword.LIMIT.spelling.toList ++
              ' ' :: (Mark.minus.spelling.toList ++ Text.decimal 1)) := by
          rw [chars, dialect]
          decide
        have number : ReadsToken values bound (Text.decimal 1) _ (.number 1) :=
          reads_number 1 (stops rfl)
        simp only [spelled, seen, dialect, List.cons_append, List.append_assoc]
        refine .blank rfl le_rfl (.append (reads_word _ ?_) (by simp) (.blank rfl le_rfl
          (.append (reads_mark _ ?_) (by simp) (.append number (by simp) (later rfl)))))
        · intro c hc
          cases hc
          decide
        · rintro (h | h) <;> cases h

/-- **Reading what is written of well spaced tokens gives the significant ones back**, in either
dialect and under either habit of quoting. -/
theorem readAll_write {ts : List Token} (spaced : Spaced ts) :
    readAll (parameters ts) (write s ts) = some (significant s ts) :=
  readWithin_of_readAs (readAs_writeFrom spaced rfl) le_rfl

end All

end Token

end SqlBuilder
