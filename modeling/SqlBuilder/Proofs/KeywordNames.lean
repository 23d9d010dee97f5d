import SqlBuilder.Proofs.BoundLiterals
import SqlBuilder.Proofs.NameScanning
import SqlBuilder.Proofs.RequotedText

/-!
# Names that are spelled like keywords

A database does not tell capitals from small letters in bare words, so a name that is spelled like a
word of a clause must stand in quotes, in whatever letters it is spelled.  All such names do but
two: the list of reserved words has neither of the directions of a sort, `asc` and `desc`.

* `Text.bareWords` : the words of a text outside double quotes, with `Token.bareWords_chars` for
  what a token adds to them;
* `Keyword.ofClauses`, `Keyword.spells` : the words of clauses and operators, and which bare words a
  database takes for them;
* `Keyword.writeName_of_spells` : the names that are spelled like a word of a clause;
* `Token.countP_spells_writeFrom` : the bare words of a text that are;
* **`Statement.spelled_of_render`** : both, for all that is rendered;
* `Statement.describing_renders` : a column named `desc` is written bare.
-/

namespace SqlBuilder

/-! ### Words of a text -/

namespace Text

/-- The words of a text: the longest runs of characters that names are made of. -/
def words (text : List Char) : List (List Char) :=
  (text.splitOnP fun c => !Identifier.isNameChar c).filter fun word => !word.isEmpty

/-- The words of a text outside double quotes. -/
def bareWords (text : List Char) : List (List Char) := words (outsideQuotes false text)

/-- Words do not go beyond a character of no word. -/
theorem words_append_cons {c : Char} (other : Identifier.isNameChar c = false)
    (before rest : List Char) : words (before ++ c :: rest) = words before ++ words rest := by
  rw [words, List.splitOnP_append_cons before rest (by simp [other]), List.filter_append]
  rfl

theorem words_cons {c : Char} (other : Identifier.isNameChar c = false) (rest : List Char) :
    words (c :: rest) = words rest := words_append_cons other [] rest

/-- A word does not go on in a text that begins with a character of no word. -/
theorem words_append {rest : List Char}
    (stops : ∀ c, rest.head? = some c → Identifier.isNameChar c = false) (before : List Char) :
    words (before ++ rest) = words before ++ words rest := by
  cases rest with
  | nil =>
    have empty : words [] = [] := rfl
    rw [empty, List.append_nil, List.append_nil]
  | cons c cs =>
    have other := stops c rfl
    rw [words_append_cons other, words_cons other]

/-- A run of characters that names are made of is one word. -/
theorem words_run {run : List Char} (names : ∀ c ∈ run, Identifier.isNameChar c = true)
    (nonempty : run ≠ []) : words run = [run] := by
  rw [words, List.splitOnP_eq_singleton fun c mem => by simp [names c mem]]
  exact List.filter_eq_self.2 (by simpa using nonempty)

/-- Without characters that names are made of there is no word. -/
theorem words_others {cs : List Char} (others : ∀ c ∈ cs, Identifier.isNameChar c = false) :
    words cs = [] := by
  induction cs with
  | nil => rfl
  | cons c cs ih =>
    obtain ⟨here, later⟩ := List.forall_mem_cons.1 others
    rw [words_cons here, ih later]

/-- What remains of a part of a text, whatever follows it, is what remains of it alone. -/
theorem outsideQuotes_eq {chars cs : List Char}
    (remains : ∀ rest, outsideQuotes false (chars ++ rest) = cs ++ outsideQuotes false rest) :
    outsideQuotes false chars = cs := by
  have alone := remains []
  rwa [List.append_nil, outsideQuotes, List.append_nil] at alone

/-- Without double quotes all words of a text are bare. -/
theorem bareWords_eq_words {cs : List Char} (quote : '"' ∉ cs) : bareWords cs = words cs := by
  rw [bareWords, outsideQuotes_eq (outsideQuotes_append quote)]

theorem bareWords_run {run : List Char} (names : ∀ c ∈ run, Identifier.isNameChar c = true)
    (nonempty : run ≠ []) : bareWords run = [run] := by
  rw [bareWords_eq_words (not_mem_of_class names Identifier.isNameChar_quote),
    words_run names nonempty]

theorem words_decimal (n : Nat) : words (decimal n) = [decimal n] :=
  words_run (fun _ mem => Token.isNameChar_of_isDigit (isDigit_of_mem_decimal mem))
    (decimal_ne_nil n)

/-- Between quotes there is no bare word. -/
theorem bareWords_quoted (name : List Char) : bareWords (Identifier.quoted name) = [] := by
  obtain ⟨quotes, only, remains⟩ := outsideQuotes_quoted name
  rw [bareWords, outsideQuotes_eq remains]
  refine words_others fun c mem => ?_
  rw [only c mem]
  exact Identifier.isNameChar_quote

/-- A digit is no capital. -/
theorem isUpper_of_isDigit {c : Char} (digit : c.isDigit = true) : c.isUpper = false := by
  have nine : c.toNat ≤ '9'.toNat := (Char.isDigit_iff_toNat.1 digit).2
  refine Bool.eq_false_iff.2 fun capital => ?_
  have bounds : 'A'.val ≤ c.val ∧ c.val ≤ 'Z'.val := of_decide_eq_true capital
  have first : 'A'.toNat ≤ c.toNat := UInt32.le_iff_toNat_le.1 bounds.1
  exact absurd (Nat.le_trans first nine) (by decide)

end Text

/-! ### Words that clauses are written with -/

namespace Keyword

/-- The words of clauses and operators.  Those that are left out are `BY`, which stands only right
behind another word, and the names of functions. -/
def ofClauses : List Keyword :=
  [.SELECT, .DISTINCT, .FROM, .AS, .INNER, .CROSS, .LEFT, .RIGHT, .FULL, .OUTER, .JOIN, .ON, .WHERE,
    .GROUP, .HAVING, .ORDER, .ASC, .DESC, .LIMIT, .OFFSET, .AND, .OR, .NOT, .IN, .IS, .NULL, .LIKE,
    .EXISTS, .TRUE, .FALSE, .UPDATE, .SET, .DELETE]

/-- The text of a word in small letters. -/
def small (k : Keyword) : List Char := k.spelling.toList.map Char.toLower

/-- Whether a database takes a bare word for a keyword, whose letters may be capital or small. -/
def spells (k : Keyword) (word : List Char) : Bool := word.map Char.toLower == k.small

/-- No two keywords differ only in their letters being capital or small. -/
theorem spells_spelling (k l : Keyword) : k.spells l.spelling.toList = decide (l = k) := by
  have each : all.all fun k => all.all fun l => k.spells l.spelling.toList == decide (l = k) := by
    decide +kernel
  exact beq_iff_eq.1 (List.all_eq_true.1 (List.all_eq_true.1 each k k.mem_all) l l.mem_all)

/-- Keywords are spelled without digits and quotes. -/
theorem letter_of_mem_small {k : Keyword} {c : Char} (h : c ∈ k.small) :
    c.isDigit = false ∧ c ≠ '"' := by
  have each : all.all fun k => k.small.all fun c => c.isDigit == false && c != '"' := by
    decide +kernel
  simpa using List.all_eq_true.1 (List.all_eq_true.1 each k k.mem_all) c h

theorem spells_decimal (k : Keyword) (n : Nat) : k.spells (Text.decimal n) = false := by
  have digits : ∀ c ∈ Text.decimal n, c.isDigit = true := fun c => Text.isDigit_of_mem_decimal
  rw [spells, Text.map_toLower fun c mem => Text.isUpper_of_isDigit (digits c mem),
    beq_eq_false_iff_ne]
  intro same
  obtain ⟨c, mem⟩ := List.exists_mem_of_ne_nil _ (Text.decimal_ne_nil n)
  have digit := digits c mem
  rw [same] at mem
  rw [(letter_of_mem_small mem).1] at digit
  cases digit

theorem small_ne_quoted (k : Keyword) (name : List Char) : k.small ≠ Identifier.quoted name := by
  intro same
  have mem : '"' ∈ k.small := by
    rw [same]
    exact List.mem_cons_self
  exact (letter_of_mem_small mem).2 rfl

/-- A bare name is in small letters. -/
theorem spells_bare {name : List Char} (bare : Identifier.Bare name) (k : Keyword) :
    k.spells name = (name == k.small) := by
  rw [spells, Text.map_toLower fun c mem => Text.isUpper_eq_false (bare.no_uppercase c mem)]

/-- Of the words of clauses only the two directions are not reserved. -/
theorem reserved_or_direction {k : Keyword} (h : k ∈ ofClauses) :
    reservedWords.contains (String.ofList k.small) = true ∨ k = .ASC ∨ k = .DESC := by
  revert k
  decide +kernel

/-- A bare name that is spelled like a word of a clause is one of the two directions. -/
theorem direction_of_bare {k : Keyword} (h : k ∈ ofClauses) {name : List Char}
    (bare : Identifier.Bare name) (same : name = k.small) : k = .ASC ∨ k = .DESC := by
  refine (reserved_or_direction h).resolve_left fun reserved => ?_
  rw [← same, bare.not_reserved] at reserved
  cases reserved

/-- The directions in small letters are written as they are. -/
theorem writeName_direction {k : Keyword} (h : k = .ASC ∨ k = .DESC) :
    Settings.default.writeName (String.ofList k.small) = k.small := by
  rcases h with rfl | rfl <;> decide +kernel

end Keyword

namespace Token

open Text

/-! ### Words of tokens -/

/-- No token leaves a quote open. -/
theorem outsideQuotes_chars (t : Token) (s : Settings) (number : Nat) (rest : List Char) :
    outsideQuotes false (t.chars s number ++ rest) =
      outsideQuotes false (t.chars s number) ++ outsideQuotes false rest := by
  obtain ⟨cs, remains⟩ : ∃ cs, ∀ rest, outsideQuotes false (t.chars s number ++ rest) =
      cs ++ outsideQuotes false rest := by
    rcases t.bind_or_bindless with ⟨v, rfl⟩ | bindless
    · exact ⟨_, outsideQuotes_append (s.quote_not_mem_placeholder number)⟩
    · obtain ⟨cs, -, -, remains⟩ := unmarked_chars bindless s number
      exact ⟨cs, remains⟩
  rw [remains, outsideQuotes_eq remains]

/-- The words of a token and those of the rest of the text do not run together. -/
theorem bareWords_chars (t : Token) (s : Settings) (number : Nat) {rest : List Char}
    (stops : t.isSeparator = false → Stops rest) :
    bareWords (t.chars s number ++ rest) = bareWords (t.chars s number) ++ bareWords rest := by
  rw [bareWords, outsideQuotes_chars]
  cases separator : t.isSeparator with
  | true =>
    obtain ⟨c, mem, written⟩ := chars_of_isSeparator separator s number
    obtain ⟨other, -, quote, -⟩ := stops_of_separator mem
    have outside : outsideQuotes false [c] = [c] := if_neg quote
    rw [bareWords, written, outside, List.singleton_append, words_cons other, words_cons other]
    rfl
  | false =>
    refine words_append (fun c hc => ?_) _
    rw [head?_outsideQuotes] at hc
    exact (stops_of_separator (stops separator c hc)).1

/-- What a name adds to the bare words that spell a keyword of a clause. -/
theorem countP_spells_name {k : Keyword} (h : k ∈ Keyword.ofClauses) (n : String) :
    (bareWords (Settings.default.writeName n)).countP k.spells =
      if k = .ASC ∨ k = .DESC then [name n].count (name (String.ofList k.small)) else 0 := by
  rcases Settings.default.quoting.write_cases n with written | ⟨bare, written⟩
  · -- The directions in small letters are not written like this.
    have other : k = .ASC ∨ k = .DESC → n ≠ String.ofList k.small := by
      rintro direction rfl
      have plain := Keyword.writeName_direction direction
      rw [Settings.writeName, written] at plain
      exact Keyword.small_ne_quoted k _ plain.symm
    rw [Settings.writeName, written, bareWords_quoted]
    split
    case isTrue direction => simp [other direction]
    case isFalse => rfl
  · have nonempty : n.toList ≠ [] := by
      obtain ⟨c, cs, text, _⟩ := bare.starts
      simp [text]
    rw [Settings.writeName, written, bareWords_run bare.name_chars nonempty, List.countP_singleton,
      Keyword.spells_bare bare]
    by_cases same : n.toList = k.small
    · rw [if_pos (Keyword.direction_of_bare h bare same), ← same, String.ofList_toList]
      simp
    · have other : n ≠ String.ofList k.small := by
        rintro rfl
        exact same String.toList_ofList
      simp [same, other]

/-- What a token adds to the bare words that spell a keyword of a clause. -/
theorem countP_spells_chars {k : Keyword} (h : k ∈ Keyword.ofClauses) (t : Token) (number : Nat) :
    (bareWords (t.chars .default number)).countP k.spells = [t].count (word k) +
      if k = .ASC ∨ k = .DESC then [t].count (name (String.ofList k.small)) else 0 := by
  cases t with
  | word l =>
    have nonempty : l.spelling.toList ≠ [] := by cases l <;> decide
    show (bareWords l.spelling.toList).countP k.spells = _
    rw [bareWords_run (fun c mem => Keyword.isNameChar_of_mem mem) nonempty,
      List.countP_singleton, Keyword.spells_spelling]
    simp [List.count_singleton]
  | name n =>
    rw [List.count_singleton, if_neg (by simp), Nat.zero_add]
    exact countP_spells_name h n
  | number n =>
    show (bareWords (decimal n)).countP k.spells = _
    rw [bareWords_eq_words (quote_not_mem_decimal n), words_decimal, List.countP_singleton,
      Keyword.spells_decimal]
    simp
  | bind v =>
    have quote : '"' ∉ '$' :: decimal number := Settings.default.quote_not_mem_placeholder number
    show (bareWords ('$' :: decimal number)).countP k.spells = _
    rw [bareWords_eq_words quote, words_cons (by decide), words_decimal, List.countP_singleton,
      Keyword.spells_decimal]
    simp
  | mark m =>
    have other : ∀ c ∈ m.spelling.toList, Identifier.isNameChar c = false := by
      simpa using List.all_eq_true.1 (others_mark m)
    show (bareWords m.spelling.toList).countP k.spells = _
    rw [bareWords_eq_words (quote_not_mem_mark m), words_others other]
    simp
  | blank =>
    show 0 = _
    simp
  | unlimited =>
    show 0 = _
    simp

/-- **The bare words of a text that spell a keyword of a clause** are this keyword and, if it is a
direction, the names that are spelled like it in small letters. -/
theorem countP_spells_writeFrom {k : Keyword} (h : k ∈ Keyword.ofClauses) {ts : List Token}
    (spaced : Spaced ts) (bound : Nat) :
    (bareWords (writeFrom .default bound ts)).countP k.spells = ts.count (word k) +
      if k = .ASC ∨ k = .DESC then ts.count (name (String.ofList k.small)) else 0 := by
  induction ts generalizing bound with
  | nil =>
    rw [List.count_nil, List.count_nil, ite_self]
    rfl
  | cons t ts ih =>
    have stops (inner : t.isSeparator = false) :
        Stops (writeFrom .default (bound + t.arity) ts) :=
      fun c hc => follows_of_spaced spaced inner hc
    have first (u : Token) : (t :: ts).count u = [t].count u + ts.count u := by
      rw [← List.singleton_append, List.count_append]
    rw [writeFrom, bareWords_chars t .default _ stops, List.countP_append, countP_spells_chars h,
      ih spaced.tail, first, first]
    split
    · omega
    · omega

end Token

/-! ### Names that are written bare -/

/-- The names that are spelled like a word of a clause are written between quotes, but for the two
directions. -/
theorem Keyword.writeName_of_spells {k : Keyword} (h : k ∈ ofClauses) {n : String}
    (spelled : k.spells n.toList = true) :
    Settings.default.writeName n =
      if n = "asc" ∨ n = "desc" then n.toList else Identifier.quoted n.toList := by
  split
  case isTrue direction => rcases direction with rfl | rfl <;> decide +kernel
  case isFalse other =>
    refine (Settings.default.quoting.write_cases n).resolve_right ?_
    rintro ⟨bare, -⟩
    rw [spells_bare bare, beq_iff_eq] at spelled
    have name : n = String.ofList k.small := by rw [← spelled, String.ofList_toList]
    refine other ?_
    rcases direction_of_bare h bare spelled with rfl | rfl
    · exact Or.inl name
    · exact Or.inr name

namespace Statement

open Text

/-- **Which bare words of a statement spell a word of a clause.**  They are that word where clauses
are written with it, and among the names of tables, aliases and columns only `asc` and `desc`: every
other name that is spelled like it, in whatever letters, stands between quotes. -/
theorem spelled_of_render {q : Statement Expr} {sql : Sql} (h : q.render .default = .ok sql) :
    ∃ ts, q.tokens = .ok ts ∧ sql = .ofTokens .default ts ∧ ∀ k ∈ Keyword.ofClauses,
      (∀ n, Token.name n ∈ ts → k.spells n.toList = true →
        Settings.default.writeName n =
          if n = "asc" ∨ n = "desc" then n.toList else Identifier.quoted n.toList) ∧
      (bareWords sql.text.toList).countP k.spells = ts.count (.word k) +
        if k = .ASC ∨ k = .DESC then ts.count (.name (String.ofList k.small)) else 0 := by
  obtain ⟨ts, tokens, e⟩ := Except.bind_eq_ok_iff.1 h
  cases e
  have related := fold_related Piece.binds_ofNode q
  have held := holds_of_writes related (writes_of_pieceTokens tokens)
  refine ⟨ts, tokens, rfl, fun k clause => ⟨fun n _ spelled => ?_, ?_⟩⟩
  · exact Keyword.writeName_of_spells clause spelled
  · rw [Sql.ofTokens, String.toList_ofList]
    exact Token.countP_spells_writeFrom clause held.spaced 0

/-- Orders that are sorted by a column, all with names of keywords. -/
def sortedOrders : Statement Expr :=
  let order : Scope := ⟨0, "order", "Limit", false, []⟩
  let field (name : String) : Expr := .node (.field (.node (.row order)) name)
  { Statement.empty .select with
    source := ⟨[.scope order], [0]⟩
    columns := [field "GROUP", field "asc"]
    ordering := [⟨field "desc", .descending⟩]
    limit := some 3 }

/-- Of the names only those of the two directions are bare. -/
theorem spelled_of_render_sortedOrders :
    ∃ sql ts, sortedOrders.render .default = .ok sql ∧ sortedOrders.tokens = .ok ts ∧
      sql.text = "SELECT \"Limit\".\"GROUP\", \"Limit\".asc FROM \"order\" AS \"Limit\" " ++
        "ORDER BY \"Limit\".desc DESC LIMIT 3" ∧
      (bareWords sql.text.toList).countP Keyword.LIMIT.spells = ts.count (.word .LIMIT) ∧
      (bareWords sql.text.toList).countP Keyword.DESC.spells =
        ts.count (.word .DESC) + ts.count (.name "desc") := by
  obtain ⟨ts, tokens, _, spelled⟩ := spelled_of_render (q := sortedOrders) rfl
  exact ⟨_, ts, rfl, tokens, by decide +kernel, (spelled .LIMIT (by decide)).2,
    (spelled .DESC (by decide)).2⟩

/-- The UPDATE of a product's description, in a column with a short name. -/
def describing : Statement Expr :=
  let product : Scope := ⟨0, "product", "product", false, []⟩
  { Statement.empty .update with
    source := ⟨[.scope product], [0]⟩
    assignments := [⟨.node (.row product), "desc", .assign, .node (.literal (.string "x"))⟩] }

/-- **A column named like a direction is written bare**, where no direction can stand. -/
theorem describing_renders :
    describing.render .default = .ok ⟨"UPDATE product SET desc = $1", [.string "x"]⟩ ∧
      ¬ ∀ ts, describing.tokens = .ok ts → ∀ n, Token.name n ∈ ts → ∀ k ∈ Keyword.ofClauses,
        k.spells n.toList = true → Settings.default.writeName n ≠ n.toList := by
  refine ⟨by decide +kernel, fun quoted => ?_⟩
  refine quoted _ rfl "desc" ?_ .DESC (by decide) (by decide) ?_
  · decide
  · decide +kernel

end Statement

end SqlBuilder
