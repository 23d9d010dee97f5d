import SqlBuilder.Proofs.PlaceholderText
import SqlBuilder.Proofs.TokenReader

/-!
# Placeholders replaced in the text

In a Postgres text each dollar sign outside double quotes begins a placeholder, and the digits behind
it are its number.  Something else can therefore be put in the place of every placeholder without
knowing the tokens of the text.

* `Text.replaced mark` : a text with `mark digits` in the place of each placeholder;
* `Text.replaced_append`, `Text.replaced_quoted`, `Text.replaced_placeholder` : the parts of a text;
* `Token.replaced_chars`, `Token.replaced_bind` : the tokens of a text.
-/

namespace SqlBuilder

namespace Text

/-- Where in a text something stands: outside double quotes, between them, or in the number of a
placeholder. -/
inductive Zone where
  | outside | quoted | number
  deriving DecidableEq, Repr

/-- A text in which each dollar sign outside double quotes and the digits right behind it are replaced
by what `mark` makes of the digits.  The zone is that of the first character. -/
def replaced (mark : List Char → List Char) : Zone → List Char → List Char
  | _, [] => []
  | zone, c :: cs =>
    if zone = .quoted then c :: replaced mark (if c = '"' then .outside else .quoted) cs
    else if zone = .number ∧ c.isDigit then replaced mark .number cs
    else if c = '$' then mark (cs.takeWhile Char.isDigit) ++ replaced mark .number cs
    else c :: replaced mark (if c = '"' then .quoted else .outside) cs

variable {mark : List Char → List Char}

theorem replaced_append {cs : List Char} (quote : '"' ∉ cs) (dollar : '$' ∉ cs) (rest : List Char) :
    replaced mark .outside (cs ++ rest) = cs ++ replaced mark .outside rest := by
  induction cs with
  | nil => rfl
  | cons c cs ih =>
    obtain ⟨not_quote, quote'⟩ := not_or.1 (mt List.mem_cons.2 quote)
    obtain ⟨not_dollar, dollar'⟩ := not_or.1 (mt List.mem_cons.2 dollar)
    rw [List.cons_append, replaced, if_neg (by decide), if_neg (by simp),
      if_neg (Ne.symm not_dollar), if_neg (Ne.symm not_quote), ih quote' dollar']
    rfl

/-- Nothing changes between quotes. -/
theorem replaced_doubled (name rest : List Char) :
    replaced mark .quoted (Identifier.doubled name ++ '"' :: rest) =
      Identifier.doubled name ++ '"' :: replaced mark .outside rest := by
  induction name with
  | nil => rfl
  | cons c cs ih =>
    by_cases quote : c = '"'
    · rw [Identifier.doubled, if_pos quote, List.cons_append, List.cons_append, replaced,
        if_pos rfl, if_pos rfl]
      exact congrArg (fun l => '"' :: '"' :: l) ih
    · rw [Identifier.doubled, if_neg quote, List.cons_append, replaced, if_pos rfl, if_neg quote, ih]
      rfl

theorem replaced_quoted (name rest : List Char) :
    replaced mark .outside (Identifier.quoted name ++ rest) =
      Identifier.quoted name ++ replaced mark .outside rest := by
  rw [Identifier.quoted, List.cons_append, List.append_assoc]
  show '"' :: replaced mark .quoted (Identifier.doubled name ++ '"' :: rest) = _
  rw [replaced_doubled]
  simp

/-- A number behind a dollar sign is left out up to where no digit follows. -/
theorem replaced_digits {digits rest : List Char} (run : ∀ c ∈ digits, c.isDigit = true)
    (stops : ∀ c, rest.head? = some c → c.isDigit = false) :
    replaced mark .number (digits ++ rest) = replaced mark .outside rest := by
  induction digits with
  | nil =>
    cases rest with
    | nil => rfl
    | cons c cs =>
      have ends : c.isDigit = false := stops c rfl
      simp [replaced, ends]
  | cons c cs ih =>
    have here := run c List.mem_cons_self
    rw [List.cons_append, replaced, if_neg (by decide), if_pos ⟨rfl, here⟩,
      ih fun c mem => run c (List.mem_cons_of_mem _ mem)]

/-- A placeholder is replaced as a whole unless a further digit follows. -/
theorem replaced_placeholder (number : Nat) {rest : List Char}
    (stops : ∀ c, rest.head? = some c → c.isDigit = false) :
    replaced mark .outside ('$' :: (decimal number ++ rest)) =
      mark (decimal number) ++ replaced mark .outside rest := by
  have run : ∀ c ∈ decimal number, c.isDigit = true := fun c mem => isDigit_of_mem_decimal mem
  rw [replaced, if_neg (by decide), if_neg (by simp), if_pos rfl, takeWhile_of_stops run stops,
    replaced_digits run stops]

end Text

namespace Token

open Text

variable {mark : List Char → List Char}

/-- A token that binds nothing has no placeholder. -/
theorem replaced_chars {t : Token} (bindless : t.arity = 0) (s : Settings) (number : Nat)
    (rest : List Char) : replaced mark .outside (t.chars s number ++ rest) =
      t.chars s number ++ replaced mark .outside rest := by
  rcases name_or_not_mem_chars bindless s number with ⟨n, rfl⟩ | ⟨quote, dollar, _⟩
  · rw [chars, Settings.writeName]
    rcases s.quoting.write_cases n with written | ⟨bare, written⟩
    · rw [written]
      exact replaced_quoted n.toList rest
    · rw [written]
      refine replaced_append (bare.not_mem Identifier.isNameChar_quote) (bare.not_mem ?_) rest
      exact Identifier.isNameChar_eq_false (by decide) (by decide) (by decide)
  · exact replaced_append quote dollar rest

/-- The placeholder of a bound value is replaced, since none of the tokens runs into the next. -/
theorem replaced_bind {s : Settings} (postgres : s.dialect = .postgres) {v : Value}
    {ts : List Token} (spaced : Spaced (.bind v :: ts)) (bound : Nat) :
    replaced mark .outside (writeFrom s bound (.bind v :: ts)) =
      mark (decimal (bound + 1)) ++ replaced mark .outside (writeFrom s (bound + 1) ts) := by
  have stops : ∀ c, (writeFrom s (bound + 1) ts).head? = some c → c.isDigit = false :=
    fun c hc => (stops_of_separator (follows_of_spaced spaced rfl hc)).2.1
  show replaced mark .outside (s.placeholder (bound + 1) ++ writeFrom s (bound + 1) ts) = _
  rw [Settings.placeholder, postgres]
  exact replaced_placeholder (bound + 1) stops

end Token

end SqlBuilder
