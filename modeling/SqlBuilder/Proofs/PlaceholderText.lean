import SqlBuilder.Proofs.NameQuoting
import SqlBuilder.Proofs.TokenSpacing

/-!
# Placeholders in the text

A text is searched for placeholders without knowing its tokens: everything between double quotes is
struck out, and what remains is searched character by character.  Well spaced tokens are written so
that this finds the placeholders of the bound values and nothing else.

* `Text.outsideQuotes` : a text without what stands between double quotes;
* `Text.dollarMarks` : every dollar sign, with the digits behind it;
* `Token.follows_of_spaced` : what stands behind a token that is no separator;
* `Token.unmarked_chars` : the tokens that add no mark of a placeholder;
* **`Token.dollarMarks_writeFrom`**, **`Token.count_questionMark_writeFrom`** : the placeholders of
  either dialect.
-/

namespace SqlBuilder

/-- The words are in capitals. -/
theorem Keyword.isUpper_of_mem {k : Keyword} {c : Char} (h : c ∈ k.spelling.toList) :
    c.isUpper = true := by
  have each : Keyword.all.all fun k => k.spelling.toList.all Char.isUpper := by decide +kernel
  exact List.all_eq_true.1 (List.all_eq_true.1 each k k.mem_all) c h

namespace Text

/-! ### Searching a text -/

/-- A text without what stands between double quotes; the quotes themselves stay.  The flag says
whether the text starts inside. -/
def outsideQuotes : Bool → List Char → List Char
  | _, [] => []
  | inside, c :: cs =>
    if c = '"' then '"' :: outsideQuotes (!inside) cs
    else if inside then outsideQuotes true cs
    else c :: outsideQuotes false cs

/-- Every dollar sign of a text, with the digits that stand right behind it. -/
def dollarMarks : List Char → List (List Char)
  | [] => []
  | c :: cs => if c = '$' then (c :: cs.takeWhile Char.isDigit) :: dollarMarks cs else dollarMarks cs

theorem outsideQuotes_append {cs : List Char} (h : '"' ∉ cs) (rest : List Char) :
    outsideQuotes false (cs ++ rest) = cs ++ outsideQuotes false rest := by
  induction cs with
  | nil => rfl
  | cons c cs ih =>
    obtain ⟨hc, hcs⟩ := not_or.1 (mt List.mem_cons.2 h)
    rw [List.cons_append, outsideQuotes, if_neg (Ne.symm hc), ih hcs]
    rfl

/-- Of a quoted name only quotes remain. -/
theorem outsideQuotes_doubled (name : List Char) :
    ∃ quotes : List Char, (∀ c ∈ quotes, c = '"') ∧ ∀ rest,
      outsideQuotes true (Identifier.doubled name ++ '"' :: rest) =
        quotes ++ outsideQuotes false rest := by
  induction name with
  | nil => exact ⟨['"'], by simp, fun rest => rfl⟩
  | cons c cs ih =>
    obtain ⟨quotes, only, remains⟩ := ih
    by_cases hc : c = '"'
    · refine ⟨'"' :: '"' :: quotes, by simpa using only, fun rest => ?_⟩
      have twice := remains rest
      rw [Identifier.doubled, if_pos hc, List.cons_append, List.cons_append, outsideQuotes,
        if_pos rfl, outsideQuotes, if_pos rfl]
      exact congrArg (fun l => '"' :: '"' :: l) twice
    · refine ⟨quotes, only, fun rest => ?_⟩
      rw [Identifier.doubled, if_neg hc, List.cons_append, outsideQuotes, if_neg hc]
      exact remains rest

theorem outsideQuotes_quoted (name : List Char) :
    ∃ quotes : List Char, (∀ c ∈ quotes, c = '"') ∧ ∀ rest,
      outsideQuotes false (Identifier.quoted name ++ rest) = quotes ++ outsideQuotes false rest := by
  obtain ⟨quotes, only, remains⟩ := outsideQuotes_doubled name
  refine ⟨'"' :: quotes, by simpa using only, fun rest => ?_⟩
  rw [Identifier.quoted, List.cons_append, List.append_assoc, outsideQuotes, if_pos rfl]
  exact congrArg ('"' :: ·) (remains rest)

/-- Outside double quotes a text begins as it does with them. -/
theorem head?_outsideQuotes (cs : List Char) : (outsideQuotes false cs).head? = cs.head? := by
  cases cs with
  | nil => rfl
  | cons c cs =>
    rw [outsideQuotes]
    split
    case isTrue quote => rw [quote, List.head?_cons, List.head?_cons]
    case isFalse => rfl

theorem dollarMarks_append {cs : List Char} (h : '$' ∉ cs) (rest : List Char) :
    dollarMarks (cs ++ rest) = dollarMarks rest := by
  induction cs with
  | nil => rfl
  | cons c cs ih =>
    obtain ⟨hc, hcs⟩ := not_or.1 (mt List.mem_cons.2 h)
    rw [List.cons_append, dollarMarks, if_neg (Ne.symm hc), ih hcs]

/-- A run of characters of a class ends where a character follows that is not of the class. -/
theorem takeWhile_of_stops {p : Char → Bool} {cs rest : List Char} (run : ∀ c ∈ cs, p c = true)
    (stops : ∀ c, rest.head? = some c → p c = false) : (cs ++ rest).takeWhile p = cs := by
  rw [List.takeWhile_append_of_pos run]
  cases rest with
  | nil => exact List.append_nil cs
  | cons d ds => rw [List.takeWhile_cons_of_neg (by simp [stops d rfl]), List.append_nil]

/-- A number behind a dollar sign is found whole unless a further digit follows. -/
theorem dollarMarks_placeholder (n : Nat) {rest : List Char}
    (h : ∀ c, rest.head? = some c → c.isDigit = false) :
    dollarMarks ('$' :: (decimal n ++ rest)) = ('$' :: decimal n) :: dollarMarks rest := by
  have digits : (decimal n ++ rest).takeWhile Char.isDigit = decimal n :=
    takeWhile_of_stops (fun c hc => isDigit_of_mem_decimal hc) h
  have no_dollar : '$' ∉ decimal n :=
    not_mem_of_class (fun c mem => isDigit_of_mem_decimal mem) (by decide)
  rw [dollarMarks, if_pos rfl, digits, dollarMarks_append no_dollar]

theorem quote_not_mem_decimal (n : Nat) : '"' ∉ decimal n :=
  not_mem_of_class (fun _ mem => isDigit_of_mem_decimal mem) (by decide)

end Text

theorem Settings.quote_not_mem_placeholder (s : Settings) (number : Nat) :
    '"' ∉ s.placeholder number := by
  rw [placeholder]
  cases s.dialect with
  | sqlite => simp
  | postgres => simp [Text.quote_not_mem_decimal]

namespace Token

open Text

/-! ### What a token adds to the text -/

theorem bind_or_bindless (t : Token) : (∃ v, t = .bind v) ∨ t.arity = 0 := by
  cases t with
  | bind v => exact Or.inl ⟨v, rfl⟩
  | _ => exact Or.inr rfl

/-- The characters of the separators. -/
def separatorChars : List Char := [' ', '(', ')', ',', '.']

theorem chars_of_isSeparator {t : Token} (h : t.isSeparator = true) (s : Settings) (number : Nat) :
    ∃ c ∈ separatorChars, t.chars s number = [c] := by
  cases t with
  | blank => exact ⟨' ', by decide, rfl⟩
  | mark m =>
    cases m with
    | leftParen => exact ⟨'(', by decide, rfl⟩
    | rightParen => exact ⟨')', by decide, rfl⟩
    | comma => exact ⟨',', by decide, rfl⟩
    | dot => exact ⟨'.', by decide, rfl⟩
    | _ => cases h
  | _ => cases h

/-- What stands in the text behind a token that is no separator begins with one. -/
theorem follows_of_spaced {s : Settings} {t : Token} {ts : List Token} (h : Spaced (t :: ts))
    (ht : t.isSeparator = false) {bound : Nat} {c : Char}
    (hc : (writeFrom s bound ts).head? = some c) : c ∈ separatorChars := by
  induction ts generalizing t bound with
  | nil => cases hc
  | cons u us ih =>
    obtain ⟨fits, later⟩ := List.isChain_cons_cons.1 h
    rw [writeFrom] at hc
    rcases fits with separator | separator | rfl
    · rw [ht] at separator
      cases separator
    · obtain ⟨d, hd, written⟩ := chars_of_isSeparator separator s (bound + 1)
      rw [written] at hc
      cases hc
      exact hd
    · -- In one dialect an unlimiting limit is not written, and the next token comes to stand here.
      cases dialect : s.dialect with
      | postgres =>
        simp only [chars, dialect, List.nil_append] at hc
        exact ih later rfl hc
      | sqlite =>
        simp only [chars, dialect] at hc
        cases hc
        decide

/-- What these characters add to a text outside double quotes holds no mark of a placeholder. -/
def Unmarked (chars : List Char) : Prop :=
  ∃ cs, '$' ∉ cs ∧ '?' ∉ cs ∧ ∀ rest,
    outsideQuotes false (chars ++ rest) = cs ++ outsideQuotes false rest

theorem unmarked_of_not_mem {cs : List Char} (quote : '"' ∉ cs) (dollar : '$' ∉ cs)
    (question : '?' ∉ cs) : Unmarked cs :=
  ⟨cs, dollar, question, outsideQuotes_append quote⟩

theorem unmarked_quoted (name : List Char) : Unmarked (Identifier.quoted name) := by
  obtain ⟨quotes, only, remains⟩ := outsideQuotes_quoted name
  have other {c : Char} (hc : c ≠ '"') : c ∉ quotes := fun mem => hc (only c mem)
  exact ⟨quotes, other (by decide), other (by decide), remains⟩

theorem unmarked_bare {name : List Char} (bare : Identifier.Bare name) : Unmarked name := by
  refine unmarked_of_not_mem (bare.not_mem Identifier.isNameChar_quote) (bare.not_mem ?_)
    (bare.not_mem ?_)
  · exact Identifier.isNameChar_eq_false (by decide) (by decide) (by decide)
  · exact Identifier.isNameChar_eq_false (by decide) (by decide) (by decide)

theorem unmarked_writeName (s : Settings) (n : String) : Unmarked (s.writeName n) := by
  rw [Settings.writeName]
  rcases s.quoting.write_cases n with written | ⟨bare, written⟩
  · rw [written]
    exact unmarked_quoted n.toList
  · rw [written]
    exact unmarked_bare bare

/-- Quotes and marks of placeholders are only in the characters of names and of tokens that bind. -/
theorem name_or_not_mem_chars {t : Token} (h : t.arity = 0) (s : Settings) (number : Nat) :
    (∃ n, t = .name n) ∨
      '"' ∉ t.chars s number ∧ '$' ∉ t.chars s number ∧ '?' ∉ t.chars s number := by
  cases t with
  | word k =>
    have upper {c : Char} (hc : c.isUpper = false) : c ∉ k.spelling.toList :=
      not_mem_of_class (fun c mem => Keyword.isUpper_of_mem mem) hc
    exact Or.inr ⟨upper (by decide), upper (by decide), upper (by decide)⟩
  | mark m =>
    have other : '"' ∉ m.spelling.toList ∧ '$' ∉ m.spelling.toList ∧ '?' ∉ m.spelling.toList := by
      cases m <;> decide
    exact Or.inr other
  | number n =>
    have digit {c : Char} (hc : c.isDigit = false) : c ∉ decimal n :=
      not_mem_of_class (fun c mem => isDigit_of_mem_decimal mem) hc
    exact Or.inr ⟨digit (by decide), digit (by decide), digit (by decide)⟩
  | blank =>
    have other : '"' ∉ [' '] ∧ '$' ∉ [' '] ∧ '?' ∉ [' '] := by decide
    exact Or.inr other
  | unlimited =>
    rw [chars]
    cases s.dialect with
    | postgres => exact Or.inr (by decide)
    | sqlite => exact Or.inr (by decide)
  | bind v => cases h
  | name n => exact Or.inl ⟨n, rfl⟩

/-- Only a token that binds a value adds the mark of a placeholder. -/
theorem unmarked_chars {t : Token} (h : t.arity = 0) (s : Settings) (number : Nat) :
    Unmarked (t.chars s number) := by
  rcases name_or_not_mem_chars h s number with ⟨n, rfl⟩ | ⟨quote, dollar, question⟩
  · exact unmarked_writeName s n
  · exact unmarked_of_not_mem quote dollar question

/-! ### The placeholders of a text -/

/-- **In Postgres the dollar signs outside double quotes are the placeholders, numbered on from the
ones before.** -/
theorem dollarMarks_writeFrom {s : Settings} (h : s.dialect = .postgres) {ts : List Token}
    (spaced : Spaced ts) (bound : Nat) :
    dollarMarks (outsideQuotes false (writeFrom s bound ts)) =
      (List.range' (bound + 1) (parameters ts).length).map s.placeholder := by
  induction ts generalizing bound with
  | nil => rfl
  | cons t ts ih =>
    have later : Spaced ts := spaced.tail
    rw [writeFrom]
    rcases t.bind_or_bindless with ⟨v, rfl⟩ | bindless
    · have mark : s.placeholder (bound + 1) = '$' :: decimal (bound + 1) := by
        rw [Settings.placeholder, h]
      have no_digit : ∀ c, (outsideQuotes false (writeFrom s (bound + 1) ts)).head? = some c →
          c.isDigit = false := by
        intro c hc
        rw [head?_outsideQuotes] at hc
        have separator := follows_of_spaced spaced rfl hc
        revert separator
        simp only [separatorChars, List.mem_cons, List.not_mem_nil, or_false]
        rintro (rfl | rfl | rfl | rfl | rfl) <;> decide
      show dollarMarks (outsideQuotes false (s.placeholder (bound + 1) ++ _)) = _
      rw [outsideQuotes_append (s.quote_not_mem_placeholder _), mark, List.cons_append]
      refine (dollarMarks_placeholder (bound + 1) no_digit).trans ?_
      show _ :: dollarMarks (outsideQuotes false (writeFrom s (bound + 1) ts)) = _
      rw [ih later, parameters_cons, arity, Nat.add_comm 1, List.range'_succ, List.map_cons, mark]
    · obtain ⟨cs, no_dollar, -, remains⟩ := unmarked_chars bindless s (bound + 1)
      rw [remains, dollarMarks_append no_dollar, parameters_cons, bindless, Nat.zero_add]
      exact ih later bound

/-- **In SQLite there are as many question marks outside double quotes as placeholders.** -/
theorem count_questionMark_writeFrom {s : Settings} (h : s.dialect = .sqlite) (ts : List Token)
    (bound : Nat) :
    (outsideQuotes false (writeFrom s bound ts)).count '?' = (parameters ts).length := by
  induction ts generalizing bound with
  | nil => rfl
  | cons t ts ih =>
    rw [writeFrom]
    rcases t.bind_or_bindless with ⟨v, rfl⟩ | bindless
    · show (outsideQuotes false (s.placeholder (bound + 1) ++ _)).count '?' = _
      have mark : s.placeholder (bound + 1) = ['?'] := by rw [Settings.placeholder, h]
      rw [mark, outsideQuotes_append (by decide), List.count_append, ih, parameters_cons]
      rfl
    · obtain ⟨cs, -, no_question, remains⟩ := unmarked_chars bindless s (bound + 1)
      rw [remains, List.count_append, List.count_eq_zero.2 no_question, ih, parameters_cons, bindless]

end Token

end SqlBuilder
