import SqlBuilder.Proofs.BoundLiterals
import SqlBuilder.Proofs.ReplacedPlaceholders
import SqlBuilder.Proofs.RequotedText
import SqlBuilder.Proofs.WrittenOffsets

/-!
# The texts of one statement in all dialects

A statement has the same tokens under all settings.  Its texts are therefore determined by each other,
and this file says how: which characters of the text of one dialect have to be replaced, and where,
to get the text of another.

* `Text.unnumbered` : a text with a question mark for each placeholder;
* `Text.Limited os cs ds` : two texts that differ only in front of those of the offsets `os` that have
  no limit, with `Text.Limited.unique`: the first determines the second;
* `Token.unnumbered_writeFrom`, `Token.limited_writeFrom` : both for the tokens of a text;
* **`Statement.render_agrees`** : a statement under all settings.
-/

namespace SqlBuilder

namespace Text

/-! ### Placeholders without numbers -/

/-- A text in which every dollar sign outside double quotes is a question mark and the digits right
behind it are left out.  The zone is that of the first character. -/
def unnumbered : Zone → List Char → List Char
  | _, [] => []
  | zone, c :: cs =>
    if zone = .quoted then c :: unnumbered (if c = '"' then .outside else .quoted) cs
    else if zone = .number ∧ c.isDigit then unnumbered .number cs
    else if c = '$' then '?' :: unnumbered .number cs
    else c :: unnumbered (if c = '"' then .quoted else .outside) cs

/-- Numbers are left out by putting a question mark in the place of each placeholder. -/
theorem unnumbered_eq_replaced (zone : Zone) (cs : List Char) :
    unnumbered zone cs = replaced (fun _ => ['?']) zone cs := by
  induction cs generalizing zone with
  | nil => cases zone <;> rfl
  | cons c cs ih =>
    rw [unnumbered, replaced]
    simp only [ih, List.singleton_append]

/-- An example with marks of placeholders in a name. -/
example : unnumbered .outside "\"a$1\".\"?\" = $12 AND $3".toList =
    "\"a$1\".\"?\" = ? AND ?".toList := by decide +kernel

end Text

/-! ### Limits in front of offsets -/

/-- The text of an offset. -/
def WrittenOffset.text (o : WrittenOffset) : List Char :=
  " OFFSET ".toList ++ Text.decimal o.rows

/-- The text of the limit in front of it, if there is one. -/
def WrittenOffset.limitText (o : WrittenOffset) : List Char :=
  match o.limit with
  | none => []
  | some n => " LIMIT ".toList ++ Text.decimal n

/-- What one dialect needs in front of an offset: a limit of minus one, if there is no other. -/
def WrittenOffset.missingLimit (o : WrittenOffset) : List Char :=
  if o.limit.isNone then " LIMIT -1".toList else []

/-- A number is not spelled like the word for an offset. -/
theorem Text.not_isPrefixOf_decimal (n : Nat) (rest : List Char) :
    "OFFSET ".toList.isPrefixOf (Text.decimal n ++ rest) = false := by
  cases text : Text.decimal n with
  | nil => exact absurd text (Text.decimal_ne_nil n)
  | cons c cs =>
    have digit : c.isDigit = true := by
      refine Text.isDigit_of_mem_decimal (n := n) ?_
      rw [text]
      exact List.mem_cons_self
    have differs : ('O' == c) = false := by
      refine beq_eq_false_iff_ne.2 fun same => ?_
      rw [← same] at digit
      revert digit
      decide
    show (('O' == c) && _) = false
    rw [differs, Bool.false_and]

/-- A text with a quoted name in front is read in one way. -/
theorem Identifier.quoted_append_inj {name name' rest rest' : List Char} (ends : rest.head? ≠ some '"')
    (ends' : rest'.head? ≠ some '"') (h : quoted name ++ rest = quoted name' ++ rest') :
    name = name' ∧ rest = rest' := by
  have read := untilQuote_doubled name rest ends
  have read' := untilQuote_doubled name' rest' ends'
  have same : doubled name ++ '"' :: rest = doubled name' ++ '"' :: rest' := by
    simpa [quoted] using h
  rw [same, read'] at read
  cases read
  exact ⟨rfl, rfl⟩

/-- The second text is the first with a limit of minus one in front of each offset that has no limit.
Names in quotes are the same in both.  Outside of them the word for an offset stands in the first text
for each of the given offsets and nowhere else, and the texts have every other character in common. -/
inductive Text.Limited : List WrittenOffset → List Char → List Char → Prop where
  | nil : Limited [] [] []
  | char {os : List WrittenOffset} {c : Char} {cs ds : List Char} :
      c ≠ '"' → " OFFSET ".toList.isPrefixOf (c :: cs) = false → Limited os cs ds →
        Limited os (c :: cs) (c :: ds)
  | quoted {os : List WrittenOffset} {cs ds : List Char} (name : List Char) :
      cs.head? ≠ some '"' → Limited os cs ds →
        Limited os (Identifier.quoted name ++ cs) (Identifier.quoted name ++ ds)
  | offset {os : List WrittenOffset} {cs ds : List Char} (o : WrittenOffset) :
      Limited os cs ds → Limited (o :: os) (o.text ++ cs) (o.missingLimit ++ (o.text ++ ds))

namespace Text.Limited

variable {os : List WrittenOffset} {cs ds : List Char}

/-- Characters among which no offset begins. -/
theorem chars {chars : List Char} (quote : '"' ∉ chars) (blank : ' ' ∉ chars)
    (h : Limited os cs ds) : Limited os (chars ++ cs) (chars ++ ds) := by
  induction chars with
  | nil => exact h
  | cons c chars ih =>
    obtain ⟨not_quote, quote'⟩ := not_or.1 (mt List.mem_cons.2 quote)
    obtain ⟨not_blank, blank'⟩ := not_or.1 (mt List.mem_cons.2 blank)
    refine .char (Ne.symm not_quote) ?_ (ih quote' blank')
    have differs : (' ' == c) = false := beq_eq_false_iff_ne.2 not_blank
    simp [List.isPrefixOf, differs]

/-- A limit in front of both texts. -/
theorem limit (o : WrittenOffset) (h : Limited os cs ds) :
    Limited os (o.limitText ++ cs) (o.limitText ++ ds) := by
  rw [WrittenOffset.limitText]
  cases o.limit with
  | none => exact h
  | some n =>
    have digit {c : Char} (hc : c.isDigit = false) : c ∉ decimal n :=
      not_mem_of_class (fun c mem => isDigit_of_mem_decimal mem) hc
    have number : Limited os (decimal n ++ cs) (decimal n ++ ds) :=
      h.chars (digit (by decide)) (digit (by decide))
    have separated : Limited os (' ' :: (decimal n ++ cs)) (' ' :: (decimal n ++ ds)) :=
      .char (by decide) (not_isPrefixOf_decimal n cs) number
    have word : Limited os ("LIMIT".toList ++ ' ' :: (decimal n ++ cs))
        ("LIMIT".toList ++ ' ' :: (decimal n ++ ds)) :=
      separated.chars (by decide) (by decide)
    exact .char (by decide) rfl word

/-- Texts are equal where every offset has a limit. -/
theorem eq_of_limit (h : Limited os cs ds) (limited : ∀ o ∈ os, o.limit.isSome) : cs = ds := by
  induction h with
  | nil => rfl
  | char _ _ _ ih => rw [ih limited]
  | quoted name _ _ ih => rw [ih limited]
  | offset o _ ih =>
    obtain ⟨here, later⟩ := List.forall_mem_cons.1 limited
    have present : ¬ o.limit.isNone = true := by
      rw [Option.isNone_iff_eq_none]
      exact Option.isSome_iff_ne_none.1 here
    rw [ih later, WrittenOffset.missingLimit, if_neg present]
    rfl

/-- **The first text determines the second.** -/
theorem unique (h : Limited os cs ds) : ∀ {es : List Char}, Limited os cs es → ds = es := by
  induction h with
  | nil =>
    intro es h'
    generalize text : ([] : List Char) = cs at h'
    cases h' with
    | nil => rfl
    | char => cases text
    | quoted => cases text
  | @char os c cs ds quote ordinary _ ih =>
    intro es h'
    generalize text : c :: cs = cs' at h'
    cases h' with
    | nil => cases text
    | char _ _ h' =>
      cases text
      rw [ih h']
    | quoted => exact absurd (List.cons.inj text).1 quote
    | offset o h' =>
      rw [text] at ordinary
      cases ordinary
  | @quoted os cs ds name ends _ ih =>
    intro es h'
    generalize text : Identifier.quoted name ++ cs = cs' at h'
    cases h' with
    | nil => cases text
    | char quote => exact absurd (List.cons.inj text).1.symm quote
    | quoted name' ends' h' =>
      obtain ⟨rfl, rfl⟩ := Identifier.quoted_append_inj ends ends' text
      rw [ih h']
    | offset o h' => exact absurd (List.cons.inj text).1 (by decide)
  | @offset os cs ds o _ ih =>
    intro es h'
    generalize text : o.text ++ cs = cs' at h'
    cases h' with
    | char quote ordinary =>
      rw [← text] at ordinary
      cases ordinary
    | quoted name' => exact absurd (List.cons.inj text).1 (by decide)
    | offset _ h' =>
      rw [ih (List.append_cancel_left text ▸ h')]

end Text.Limited

namespace Token

open Text

/-! ### Tokens in all dialects -/

/-- The characters of a token with a question mark for a placeholder and no limit that does not
limit. -/
def commonChars : Token → List Char
  | .unlimited => []
  | t => t.chars ⟨.sqlite, true⟩ 0

/-- The characters of a list of tokens, written in this way. -/
def common (ts : List Token) : List Char := ts.flatMap commonChars

theorem common_append (ts us : List Token) : common (ts ++ us) = common ts ++ common us :=
  List.flatMap_append

/-- **Without the numbers of its placeholders** a text in Postgres is what the dialects have in
common. -/
theorem unnumbered_writeFrom {ts : List Token} (spaced : Spaced ts) (bound : Nat) :
    unnumbered .outside (writeFrom ⟨.postgres, true⟩ bound ts) = common ts := by
  rw [unnumbered_eq_replaced]
  induction ts generalizing bound with
  | nil => rfl
  | cons t ts ih =>
    rw [common, List.flatMap_cons]
    rcases t.bind_or_bindless with ⟨v, rfl⟩ | bindless
    · rw [replaced_bind rfl spaced, ih spaced.tail]
      rfl
    · rw [writeFrom, replaced_chars bindless, ih spaced.tail]
      cases t with
      | bind v => cases bindless
      | _ => rfl

/-- No offset begins behind a blank but those found among the tokens. -/
theorem not_isPrefixOf_common {os : List WrittenOffset} {ts : List Token} (h : Offsets os ts) :
    "OFFSET ".toList.isPrefixOf (common ts) = false := by
  cases h with
  | nil => rfl
  | offset o later =>
    obtain ⟨limit, rows⟩ := o
    cases limit <;> rfl
  | @cons _ t ts ordinary later =>
    rw [common, List.flatMap_cons]
    cases t with
    | word k =>
      show "OFFSET ".toList.isPrefixOf (k.spelling.toList ++ _) = false
      cases k with
      | OFFSET => cases ordinary
      | _ => rfl
    | mark m =>
      show "OFFSET ".toList.isPrefixOf (m.spelling.toList ++ _) = false
      cases m <;> rfl
    | number n =>
      show "OFFSET ".toList.isPrefixOf (decimal n ++ _) = false
      exact not_isPrefixOf_decimal n _
    | name n | bind v | blank => rfl
    | unlimited => cases ordinary

/-- A token that is no part of an offset is written alike. -/
theorem chars_sqlite {t : Token} (ordinary : t.isOrdinary = true) (quoteAll : Bool) (number : Nat) :
    t.chars ⟨.sqlite, quoteAll⟩ number = t.commonChars := by
  cases t with
  | unlimited => cases ordinary
  | _ => rfl

/-- Characters of a token that is neither a blank nor a name. -/
theorem not_mem_commonChars {t : Token} (ordinary : t.isOrdinary = true) :
    t = .blank ∨ (∃ n, t = .name n) ∨ '"' ∉ t.commonChars ∧ ' ' ∉ t.commonChars := by
  cases t with
  | word k =>
    have upper {c : Char} (hc : c.isUpper = false) : c ∉ k.spelling.toList :=
      not_mem_of_class (fun c mem => Keyword.isUpper_of_mem mem) hc
    exact Or.inr (Or.inr ⟨upper (by decide), upper (by decide)⟩)
  | mark m =>
    have other : '"' ∉ m.spelling.toList ∧ ' ' ∉ m.spelling.toList := by cases m <;> decide
    exact Or.inr (Or.inr other)
  | number n =>
    have digit {c : Char} (hc : c.isDigit = false) : c ∉ decimal n :=
      not_mem_of_class (fun c mem => isDigit_of_mem_decimal mem) hc
    exact Or.inr (Or.inr ⟨digit (by decide), digit (by decide)⟩)
  | name n => exact Or.inr (Or.inl ⟨n, rfl⟩)
  | bind v =>
    have other : '"' ∉ ['?'] ∧ ' ' ∉ ['?'] := by decide
    exact Or.inr (Or.inr other)
  | blank => exact Or.inl rfl
  | unlimited => cases ordinary

/-- What stands behind a token that is no separator begins with one. -/
theorem head?_common {t : Token} {ts : List Token} (spaced : Spaced (t :: ts))
    (inner : t.isSeparator = false) : Stops (common ts) := by
  intro c hc
  have later : Spaced ts := spaced.tail
  rw [← unnumbered_writeFrom later 0] at hc
  cases written : writeFrom ⟨.postgres, true⟩ 0 ts with
  | nil =>
    rw [written] at hc
    cases hc
  | cons d ds =>
    have separator : d ∈ separatorChars := follows_of_spaced spaced inner (by rw [written]; rfl)
    have not_dollar : d ≠ '$' := by
      rintro rfl
      revert separator
      decide
    rw [written, unnumbered, if_neg (by decide), if_neg (by simp), if_neg not_dollar] at hc
    cases hc
    exact separator

theorem common_range (o : WrittenOffset) :
    common (Statement.rangeTokens o.limit (some o.rows)) = o.limitText ++ o.text := by
  obtain ⟨limit, rows⟩ := o
  cases limit with
  | none =>
    show " OFFSET ".toList ++ (decimal rows ++ []) = " OFFSET ".toList ++ decimal rows
    rw [List.append_nil]
  | some n =>
    show " LIMIT ".toList ++ (decimal n ++ (" OFFSET ".toList ++ (decimal rows ++ []))) =
      (" LIMIT ".toList ++ decimal n) ++ (" OFFSET ".toList ++ decimal rows)
    rw [List.append_nil, List.append_assoc]

theorem writeFrom_range (o : WrittenOffset) (quoteAll : Bool) (bound : Nat) :
    writeFrom ⟨.sqlite, quoteAll⟩ bound (Statement.rangeTokens o.limit (some o.rows)) =
      o.limitText ++ (o.missingLimit ++ o.text) := by
  obtain ⟨limit, rows⟩ := o
  cases limit with
  | none =>
    show " LIMIT -1".toList ++ (" OFFSET ".toList ++ (decimal rows ++ [])) =
      " LIMIT -1".toList ++ (" OFFSET ".toList ++ decimal rows)
    rw [List.append_nil]
  | some n =>
    show " LIMIT ".toList ++ (decimal n ++ (" OFFSET ".toList ++ (decimal rows ++ []))) =
      (" LIMIT ".toList ++ decimal n) ++ (" OFFSET ".toList ++ decimal rows)
    rw [List.append_nil, List.append_assoc]

/-- **A text in SQLite** is what the dialects have in common, with limits in front of the offsets that
have none. -/
theorem limited_writeFrom {os : List WrittenOffset} {ts : List Token} (h : Offsets os ts)
    (spaced : Spaced ts) (quoteAll : Bool) (bound : Nat) :
    Limited os (common ts) (writeFrom ⟨.sqlite, quoteAll⟩ bound ts) := by
  induction h generalizing bound with
  | nil => exact .nil
  | @cons os t ts ordinary later ih =>
    have rest := ih spaced.tail (bound + t.arity)
    rw [common, List.flatMap_cons, writeFrom, chars_sqlite ordinary]
    rcases not_mem_commonChars ordinary with rfl | ⟨n, rfl⟩ | ⟨quote, blank⟩
    · exact .char (by decide) (not_isPrefixOf_common later) rest
    · refine .quoted n.toList (fun quote => ?_) rest
      exact (stops_of_separator (head?_common spaced rfl _ quote)).2.2.1 rfl
    · exact .chars quote blank rest
  | @offset os ts o later ih =>
    have rest := ih (List.isChain_append.1 spaced).2.1
    rw [common_append, writeFrom_append, common_range, writeFrom_range, List.append_assoc,
      List.append_assoc, List.append_assoc]
    exact .limit o (.offset o (rest _))

end Token

/-! ### A statement under all settings -/

open Text Token

/-- **A statement under all settings.**  Either it has the same error under all of them, or it has the
same parameters under all of them, and texts that are tied together:

* the text in SQLite is the one in Postgres with all names in quotes, with a question mark for each
  placeholder and a limit in front of each offset that has none, and no other text is;
* it has no limit that the other lacks if no statement at any depth has an offset without a limit;
* the text in Postgres with quotes only where needed becomes the one with all names in quotes when its
  bare names are put in quotes. -/
theorem Statement.render_agrees (q : Statement Expr) :
    (∃ e, ∀ s, q.render s = .error e) ∨
    ∃ (parameters : List Value) (text : Settings → String),
      (∀ s, q.render s = .ok ⟨text s, parameters⟩) ∧
      (∀ quoteAll,
        (∀ cs, Text.Limited q.writtenOffsets
            (unnumbered .outside (text ⟨.postgres, true⟩).toList) cs ↔
          cs = (text ⟨.sqlite, quoteAll⟩).toList) ∧
        ((∀ r, r = q ∨ q.Embeds r → r.Limited) →
          (text ⟨.sqlite, quoteAll⟩).toList =
            unnumbered .outside (text ⟨.postgres, true⟩).toList)) ∧
      requoted (some []) (text ⟨.postgres, false⟩).toList = (text ⟨.postgres, true⟩).toList := by
  cases tokens : q.tokens with
  | error e =>
    refine Or.inl ⟨e, fun s => ?_⟩
    rw [render, tokens]
    rfl
  | ok ts =>
    have writes : (q.map Expr.piece).Writes ts := writes_of_pieceTokens tokens
    have held := holds_of_writes (Statement.fold_related Piece.binds_ofNode q) writes
    have common_text := unnumbered_writeFrom held.spaced 0
    have offsets := offsets_of_writes_piece writes
    have limited (quoteAll : Bool) := limited_writeFrom offsets held.spaced quoteAll 0
    have text (s : Settings) : (String.ofList (write s ts)).toList = writeFrom s 0 ts :=
      String.toList_ofList
    refine Or.inr ⟨Token.parameters ts, fun s => String.ofList (write s ts), fun s => ?_,
      fun quoteAll => ⟨fun cs => ?_, fun every => ?_⟩, ?_⟩
    · rw [render, tokens]
      rfl
    · rw [text, text, common_text]
      constructor
      · exact fun h => h.unique (limited quoteAll)
      · intro same
        rw [same]
        exact limited quoteAll
    · rw [text, text, common_text]
      exact ((limited quoteAll).eq_of_limit (limited_of_mem_writtenOffsets every)).symm
    · rw [text, text]
      exact requoted_writeFrom held.spaced 0

/-- A table whose name has a mark of a placeholder, and a sub-query without limit that skips rows. -/
def skippedRows : Statement Expr :=
  let outer : Scope := ⟨0, "a$1", "a$1", false, []⟩
  let inner : Scope := ⟨1, "a$1", "a$12", false, []⟩
  let skipping : Statement Expr :=
    { Statement.empty .select with
      columns := [.node (.literal (.int 7))]
      source := ⟨[.scope inner], [0]⟩
      offset := some 2 }
  { Statement.empty .select with
    source := ⟨[.scope outer], [0]⟩
    filters := [.node (.compare (.node (.field (.node (.row outer)) "id")) .equal
      (.node (.subquery skipping)))] }

/-- Its text, but for the placeholder and the limit. -/
def skippedRowsText (placeholder limit : String) : String :=
  "SELECT 1 FROM \"a$1\" WHERE (\"a$1\".\"id\" = (SELECT " ++ placeholder ++
    " FROM \"a$1\" AS \"a$12\"" ++ limit ++ " OFFSET 2))"

/-- The marks in the names stay, and the text in SQLite has the missing limit. -/
theorem Statement.render_agrees_skippedRows :
    skippedRows.render ⟨.postgres, true⟩ = .ok ⟨skippedRowsText "$1" "", [.int 7]⟩ ∧
    skippedRows.render ⟨.sqlite, false⟩ = .ok ⟨skippedRowsText "?" " LIMIT -1", [.int 7]⟩ ∧
    ∀ cs, Text.Limited [⟨none, 2⟩] (unnumbered .outside (skippedRowsText "$1" "").toList) cs ↔
      cs = (skippedRowsText "?" " LIMIT -1").toList := by
  have postgres : skippedRows.render ⟨.postgres, true⟩ =
      .ok ⟨skippedRowsText "$1" "", [.int 7]⟩ := by decide +kernel
  have sqlite : skippedRows.render ⟨.sqlite, false⟩ =
      .ok ⟨skippedRowsText "?" " LIMIT -1", [.int 7]⟩ := by decide +kernel
  refine ⟨postgres, sqlite, ?_⟩
  obtain ⟨e, failed⟩ | ⟨parameters, text, rendered, dialects, _⟩ := skippedRows.render_agrees
  · rw [failed] at postgres
    cases postgres
  · rw [rendered] at postgres sqlite
    obtain ⟨limited, _⟩ := dialects false
    rw [(Sql.mk.inj (Except.ok.inj postgres)).1, (Sql.mk.inj (Except.ok.inj sqlite)).1] at limited
    exact limited

end SqlBuilder
