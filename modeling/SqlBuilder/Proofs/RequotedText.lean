import SqlBuilder.Proofs.TokenReader

/-!
# Quoting the bare names of a text

A text in which names are quoted only where needed is turned into one in which all are, without
knowing its tokens.  Outside double quotes the characters that names are made of form words of SQL,
numbers and bare names, and the bare names are told from the others by their spelling.

* `Text.requotedRun` : a run of such characters, in quotes if it is a bare name;
* `Text.requoted` : a text with its bare names in quotes;
* `Token.requoted_chars` : what becomes of one token;
* **`Token.requoted_writeFrom`** : the text written with quotes only where needed becomes the one in
  which all names are quoted.
-/

namespace SqlBuilder

namespace Text

/-! ### Quoting runs -/

/-- A run of characters that names are made of, in quotes if it is a bare name.  What begins with a
digit is a number, and what is spelled like a word of SQL is that word. -/
def requotedRun : List Char → List Char
  | [] => []
  | c :: cs =>
    if c.isDigit || (Keyword.ofSpelling? (c :: cs)).isSome then c :: cs
    else Identifier.quoted (c :: cs)

/-- A text with its bare names in quotes.  The first argument is `none` between double quotes, and
outside them the run of characters that stands right before the text. -/
def requoted : Option (List Char) → List Char → List Char
  | none, [] => []
  | some run, [] => requotedRun run
  | none, c :: cs => c :: requoted (if c = '"' then some [] else none) cs
  | some run, c :: cs =>
    if Identifier.isNameChar c then requoted (some (run ++ [c])) cs
    else requotedRun run ++ c :: requoted (if c = '"' then none else some []) cs

theorem requotedRun_word (k : Keyword) : requotedRun k.spelling.toList = k.spelling.toList := by
  have known := Keyword.ofSpelling?_spelling k
  cases text : k.spelling.toList with
  | nil => rfl
  | cons c cs =>
    rw [text] at known
    rw [requotedRun, known, Option.isSome_some, Bool.or_true, if_pos rfl]

theorem requotedRun_decimal (n : Nat) : requotedRun (decimal n) = decimal n := by
  cases text : decimal n with
  | nil => rfl
  | cons c cs =>
    have digit : c.isDigit = true := by
      refine isDigit_of_mem_decimal (n := n) ?_
      rw [text]
      exact List.mem_cons_self
    rw [requotedRun, digit, Bool.true_or, if_pos rfl]

theorem requotedRun_bare {name : List Char} (bare : Identifier.Bare name) :
    requotedRun name = Identifier.quoted name := by
  have unknown := Keyword.ofSpelling?_bare bare
  obtain ⟨c, cs, rfl, numeric⟩ := bare.starts
  have digit : c.isDigit = false := by
    refine Bool.eq_false_iff.2 fun digit => ?_
    rw [isNumeric_of_ascii (ascii_of_isDigit digit), digit] at numeric
    cases numeric
  rw [requotedRun, digit, unknown]
  rfl

/-! ### Parts of a text -/

/-- A run is quoted as a whole if it ends where the rest of the text begins. -/
theorem requoted_run {cs : List Char} (names : ∀ c ∈ cs, Identifier.isNameChar c = true)
    {rest : List Char} (stops : ∀ c, rest.head? = some c → Identifier.isNameChar c = false)
    (run : List Char) :
    requoted (some run) (cs ++ rest) = requotedRun (run ++ cs) ++ requoted (some []) rest := by
  induction cs generalizing run with
  | nil =>
    rw [List.append_nil, List.nil_append]
    cases rest with
    | nil => exact (List.append_nil _).symm
    | cons d ds =>
      have ends : ¬ Identifier.isNameChar d = true := by simp [stops d rfl]
      rw [requoted, if_neg ends, requoted, if_neg ends]
      rfl
  | cons c cs ih =>
    have here : Identifier.isNameChar c = true := names c List.mem_cons_self
    have later := ih (fun c mem => names c (List.mem_cons_of_mem _ mem)) (run ++ [c])
    rw [List.cons_append, requoted, if_pos here, later, List.append_assoc]
    rfl

/-- Other characters stay as they are. -/
theorem requoted_others {cs : List Char} (others : cs.all (!Identifier.isNameChar ·) = true)
    (quote : '"' ∉ cs) (rest : List Char) :
    requoted (some []) (cs ++ rest) = cs ++ requoted (some []) rest := by
  induction cs with
  | nil => rfl
  | cons c cs ih =>
    rw [List.all_cons, Bool.and_eq_true, Bool.not_eq_true'] at others
    obtain ⟨here, later⟩ := others
    obtain ⟨differs, later'⟩ := not_or.1 (mt List.mem_cons.2 quote)
    rw [List.cons_append, requoted, if_neg (by simp [here]), if_neg (Ne.symm differs),
      ih later later']
    rfl

/-- Nothing changes between quotes. -/
theorem requoted_doubled (name rest : List Char) :
    requoted none (Identifier.doubled name ++ '"' :: rest) =
      Identifier.doubled name ++ '"' :: requoted (some []) rest := by
  induction name with
  | nil => rfl
  | cons c cs ih =>
    by_cases quote : c = '"'
    · have reopened (l : List Char) : requoted (some []) ('"' :: l) = '"' :: requoted none l := by
        rw [requoted, if_neg (by simp [Identifier.isNameChar_quote])]
        rfl
      rw [Identifier.doubled, if_pos quote, List.cons_append, List.cons_append, requoted, if_pos rfl,
        reopened, ih]
      rfl
    · rw [Identifier.doubled, if_neg quote, List.cons_append, requoted, if_neg quote, ih]
      rfl

theorem requoted_quoted (name rest : List Char) :
    requoted (some []) (Identifier.quoted name ++ rest) =
      Identifier.quoted name ++ requoted (some []) rest := by
  have inner := requoted_doubled name rest
  rw [Identifier.quoted, List.cons_append, List.append_assoc, requoted,
    if_neg (by simp [Identifier.isNameChar_quote]), if_pos rfl]
  show '"' :: requoted none (Identifier.doubled name ++ '"' :: rest) = _
  rw [inner]
  simp

end Text

namespace Token

open Text

/-! ### Tokens -/

theorem isNameChar_of_isDigit {c : Char} (h : c.isDigit = true) :
    Identifier.isNameChar c = true := by
  have alphanum : c.isAlphanum = true := by
    show (c.isUpper || c.isLower || c.isDigit) = true
    rw [h, Bool.or_true]
  rw [Identifier.isNameChar, isAlphanumeric_of_ascii (ascii_of_isDigit h), alphanum]
  rfl

/-- The signs are not made of characters that names are made of. -/
theorem others_mark (m : Mark) : m.spelling.toList.all (!Identifier.isNameChar ·) = true := by
  cases m <;> decide

theorem quote_not_mem_mark (m : Mark) : '"' ∉ m.spelling.toList := by
  cases m <;> decide

theorem requoted_mark (m : Mark) (rest : List Char) :
    requoted (some []) (m.spelling.toList ++ rest) =
      m.spelling.toList ++ requoted (some []) rest :=
  requoted_others (others_mark m) (quote_not_mem_mark m) rest

theorem requoted_decimal {rest : List Char} (stops : Stops rest) (n : Nat) :
    requoted (some []) (decimal n ++ rest) = decimal n ++ requoted (some []) rest := by
  have digits : ∀ c ∈ decimal n, Identifier.isNameChar c = true :=
    fun c mem => isNameChar_of_isDigit (isDigit_of_mem_decimal mem)
  rw [requoted_run digits fun c hc => (stops_of_separator (stops c hc)).1]
  exact congrArg (· ++ _) (requotedRun_decimal n)

/-- Quoting the bare names puts a name in quotes and leaves every other token as it is. -/
theorem requoted_chars (t : Token) {rest : List Char} (stops : t.isSeparator = false → Stops rest)
    (number : Nat) :
    requoted (some []) (t.chars ⟨.postgres, false⟩ number ++ rest) =
      t.chars ⟨.postgres, true⟩ number ++ requoted (some []) rest := by
  cases t with
  | word k =>
    show requoted (some []) (k.spelling.toList ++ rest) = k.spelling.toList ++ _
    rw [requoted_run (fun c mem => Keyword.isNameChar_of_mem mem)
      fun c hc => (stops_of_separator (stops rfl c hc)).1]
    exact congrArg (· ++ _) (requotedRun_word k)
  | mark m => exact requoted_mark m rest
  | blank =>
    show requoted (some []) ([' '] ++ rest) = [' '] ++ requoted (some []) rest
    exact requoted_others (by decide) (by decide) rest
  | unlimited => rfl
  | number n => exact requoted_decimal (stops rfl) n
  | bind v =>
    show requoted (some []) (['$'] ++ (decimal number ++ rest)) = _
    rw [requoted_others (by decide) (by decide), requoted_decimal (stops rfl)]
    rfl
  | name n =>
    show requoted (some []) (Quoting.whenNeeded.write n ++ rest) = Identifier.quoted n.toList ++ _
    rcases Quoting.whenNeeded.write_cases n with written | ⟨bare, written⟩
    · rw [written, requoted_quoted]
    · rw [written, requoted_run bare.name_chars
        fun c hc => (stops_of_separator (stops rfl c hc)).1]
      exact congrArg (· ++ _) (requotedRun_bare bare)

/-- **Quoting the bare names of a text** gives the text in which all names are quoted. -/
theorem requoted_writeFrom {ts : List Token} (spaced : Spaced ts) (bound : Nat) :
    requoted (some []) (writeFrom ⟨.postgres, false⟩ bound ts) =
      writeFrom ⟨.postgres, true⟩ bound ts := by
  induction ts generalizing bound with
  | nil => rfl
  | cons t ts ih =>
    have stops (inner : t.isSeparator = false) :
        Stops (writeFrom ⟨.postgres, false⟩ (bound + t.arity) ts) :=
      fun c hc => follows_of_spaced spaced inner hc
    rw [writeFrom, writeFrom, requoted_chars t stops, ih spaced.tail]

end Token

end SqlBuilder
