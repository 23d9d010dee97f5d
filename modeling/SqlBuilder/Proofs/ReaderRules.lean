import SqlBuilder.Proofs.StatementReader

/-!
# What the rules of the reader take

Rules are proved one by one to take certain tokens from the front of a list, with the rest of the list
present.  Expressions end by themselves; where a list, a source or a clause ends depends on what
follows, and what may follow is said with each rule.

* `Reader.bind_eq`, `Reader.ifNext_append`, `Reader.ifNext_other` : running a reader;
* `Token.opensOperand`, `Opens` : the tokens that operands begin with;
* `Followed` : what may stand behind a clause;
* `Reader.items_eq`, `Reader.suffix_operator`, … : the rules.
-/

namespace SqlBuilder

/-! ### Running a reader -/

namespace Reader

section Running

variable {α β : Type}

theorem bind_eq {x : Reader α} {f : α → Reader β} {ts us : List Token} {a : α}
    (h : x ts = some (a, us)) : (x >>= f) ts = f a us := by
  show (x ts).bind _ = _
  rw [h]
  rfl

theorem ifNext_append (expected : List Token) (yes no : Reader α) (ts : List Token) :
    ifNext expected yes no (expected ++ ts) = yes ts := by
  have here : expected.isPrefixOf (expected ++ ts) = true :=
    List.isPrefixOf_iff_prefix.2 (List.prefix_append expected ts)
  rw [ifNext, if_pos here, List.drop_left]

theorem isPrefixOf_of_head?_ne {t : Token} {ts : List Token} (h : ts.head? ≠ some t)
    (expected : List Token) : (t :: expected).isPrefixOf ts = false := by
  cases ts with
  | nil => rfl
  | cons u us =>
    have other : (t == u) = false := by
      rw [beq_eq_false_iff_ne]
      rintro rfl
      exact h rfl
    rw [List.isPrefixOf_cons_cons, other, Bool.false_and]

theorem ifNext_other {t : Token} {expected ts : List Token} (h : ts.head? ≠ some t)
    (yes no : Reader α) : ifNext (t :: expected) yes no ts = no ts := by
  rw [ifNext, if_neg (by simp [isPrefixOf_of_head?_ne h])]

theorem expect_append (expected ts : List Token) :
    expect expected (expected ++ ts) = some ((), ts) :=
  ifNext_append expected _ _ ts

/-- What is read up to closing tokens, the closing tokens taken too. -/
theorem closed_eq {x : Reader α} {f : α → β} {a : α} {closing ts rest : List Token}
    (here : x ts = some (a, closing ++ rest)) :
    (do
      let a ← x
      expect closing
      return f a : Reader β) ts = some (f a, rest) := by
  refine (bind_eq here).trans ?_
  exact (bind_eq (expect_append closing rest)).trans rfl

/-! ### Lists -/

/-- The reader takes these tokens, provided that what follows is as it should be. -/
def Takes (follow : List Token → Prop) (x : Reader α) (a : α) (ts : List Token) : Prop :=
  ∀ rest, follow rest → x (ts ++ rest) = some (a, rest)

variable {separator : Token} {item : Reader α} {follow : List Token → Prop}

/-- Behind an item stands a separator or what stands behind the list. -/
theorem follow_further (inner : ∀ rest, follow (separator :: rest)) {rest : List Token}
    (ends : follow rest) (tss : List (List Token)) :
    follow ((tss.map (separator :: ·)).flatten ++ rest) := by
  cases tss with
  | nil => exact ends
  | cons ts tss => exact inner _

theorem further_eq {as : List α} {tss : List (List Token)}
    (each : List.Forall₂ (Takes follow item) as tss) (inner : ∀ rest, follow (separator :: rest))
    {rest : List Token} (ends : follow rest) (other : rest.head? ≠ some separator) :
    ∀ {most : Nat}, as.length ≤ most →
      further separator item most ((tss.map (separator :: ·)).flatten ++ rest) = some (as, rest) := by
  induction each with
  | nil =>
    intro most _
    cases most with
    | zero => rfl
    | succ most => exact ifNext_other other _ _
  | @cons a ts as tss first later ih =>
    intro most enough
    cases most with
    | zero => cases enough
    | succ most =>
      have here := first _ (follow_further inner ends tss)
      rw [further, List.map_cons, List.flatten_cons, List.append_assoc]
      refine (ifNext_append [separator] _ _ _).trans ?_
      refine (bind_eq here).trans ?_
      exact (bind_eq (ih (Nat.le_of_succ_le_succ enough))).trans rfl

theorem intercalate_cons_eq (ts : List Token) (tss : List (List Token)) :
    [separator].intercalate (ts :: tss) = ts ++ (tss.map (separator :: ·)).flatten := by
  induction tss generalizing ts with
  | nil => simp
  | cons us tss ih =>
    rw [List.intercalate_cons_cons, ih, List.append_assoc]
    rfl

theorem length_le_length_flatten (separator : Token) (tss : List (List Token)) :
    tss.length ≤ ((tss.map (separator :: ·)).flatten).length := by
  induction tss with
  | nil => exact le_rfl
  | cons ts tss ih =>
    simp only [List.map_cons, List.flatten_cons, List.length_append, List.length_cons]
    omega

/-- Items with separators between them are read to the last. -/
theorem items_eq {as : List α} {tss : List (List Token)} (nonempty : as ≠ [])
    (each : List.Forall₂ (Takes follow item) as tss) (separator : Token)
    (inner : ∀ rest, follow (separator :: rest)) (rest : List Token) (ends : follow rest)
    (other : rest.head? ≠ some separator) :
    items separator item ([separator].intercalate tss ++ rest) = some (as, rest) := by
  cases each with
  | nil => exact absurd rfl nonempty
  | @cons a ts as tss first later =>
    have here := first _ (follow_further inner ends tss)
    have enough : as.length ≤ (ts ++ ((tss.map (separator :: ·)).flatten ++ rest)).length := by
      have counted := length_le_length_flatten separator tss
      rw [later.length_eq, List.length_append, List.length_append]
      omega
    rw [intercalate_cons_eq, List.append_assoc, items]
    refine (bind_eq (a := ts ++ ((tss.map (separator :: ·)).flatten ++ rest)) rfl).trans ?_
    refine (bind_eq here).trans ?_
    exact (bind_eq (further_eq later inner ends other enough)).trans rfl

end Running

end Reader

/-! ### How operands begin and clauses end -/

/-- The tokens that an operand can begin with. -/
def Token.opensOperand : Token → Bool
  | .name _ | .bind _ | .mark .leftParen => true
  | .word k => [.NULL, .TRUE, .FALSE, .COALESCE, .COUNT, .SUM, .AVG, .MIN, .MAX].contains k
  | _ => false

/-- The tokens begin as an operand does. -/
def Opens (ts : List Token) : Prop := ∃ t us, ts = t :: us ∧ t.opensOperand = true

/-- Nothing follows, or a closing parenthesis, or one of these words. -/
def Followed (ks : List Keyword) (ts : List Token) : Prop :=
  ∀ t, ts.head? = some t → t = .mark .rightParen ∨ ∃ k ∈ ks, t = .word k

theorem Opens.head?_ne {ts : List Token} (h : Opens ts) {t : Token} (ht : t.opensOperand = false)
    (rest : List Token) : (ts ++ rest).head? ≠ some t := by
  obtain ⟨u, us, rfl, opens⟩ := h
  intro same
  cases same
  rw [ht] at opens
  cases opens

theorem Followed.mono {ks ls : List Keyword} {ts : List Token} (h : Followed ks ts) (sub : ks ⊆ ls) :
    Followed ls ts := by
  intro t ht
  rcases h t ht with rfl | ⟨k, mem, rfl⟩
  · exact Or.inl rfl
  · exact Or.inr ⟨k, sub mem, rfl⟩

theorem Followed.head?_ne {ks : List Keyword} {ts : List Token} (h : Followed ks ts) {t : Token}
    (paren : t ≠ .mark .rightParen) (words : ∀ k ∈ ks, t ≠ .word k) : ts.head? ≠ some t := by
  intro ht
  rcases h t ht with rfl | ⟨k, mem, rfl⟩
  · exact paren rfl
  · exact words k mem rfl

theorem followed_word {k : Keyword} {ks : List Keyword} (mem : k ∈ ks) (ts : List Token) :
    Followed ks (.word k :: ts) := by
  intro t ht
  cases ht
  exact Or.inr ⟨k, mem, rfl⟩

theorem followed_rightParen (ks : List Keyword) (ts : List Token) :
    Followed ks (.mark .rightParen :: ts) := by
  intro t ht
  cases ht
  exact Or.inl rfl

namespace Reader

/-! ### Sources -/

/-- The words that go on with a source. -/
def continuing : List Keyword := [.AS, .ON, .INNER, .CROSS, .LEFT, .RIGHT, .FULL]

/-- A source ends here. -/
def EndsSource (ts : List Token) : Prop := ∀ k ∈ continuing, ts.head? ≠ some (.word k)

theorem endsSource_of_not_word {t : Token} (h : ∀ k, t ≠ .word k) (ts : List Token) :
    EndsSource (t :: ts) := by
  intro k _ same
  cases same
  exact h k rfl

theorem endsSource_of_followed {ks : List Keyword} (disjoint : ∀ k ∈ continuing, k ∉ ks)
    {ts : List Token} (h : Followed ks ts) : EndsSource ts := by
  intro k mem
  refine h.head?_ne (by simp) ?_
  rintro l mem_later same
  cases same
  exact disjoint k mem mem_later

theorem table_eq (s : Scope) (settings : Settings) {rest : List Token}
    (ends : rest.head? ≠ some (.word .AS)) :
    table (Token.significant settings (Render.tableReference s) ++ rest) =
      some (.table s.table s.aliasName, rest) := by
  rw [Render.tableReference]
  split
  · rename_i same
    rw [same]
    refine (bind_eq (a := s.table) rfl).trans ?_
    exact ifNext_other ends _ _
  · simp only [Token.significant_name, Token.significant_append, Token.significant_between]
    refine (bind_eq (a := s.table) rfl).trans ?_
    exact ifNext_append [.word .AS] _ _ _

theorem joinKind_keywords (kind : JoinKind) (rest : List Token) :
    joinKind (kind.keywords.map Token.word ++ rest) = some (some kind, rest) := by
  cases kind <;> rfl

theorem joinKind_other {rest : List Token} (ends : EndsSource rest) :
    joinKind rest = some (none, rest) := by
  have first : ∀ kind : JoinKind, ∃ k ∈ continuing, ∃ ks, kind.keywords = k :: ks := by
    intro kind
    cases kind <;> exact ⟨_, by decide, _, rfl⟩
  have nowhere : JoinKind.all.find? (fun kind => (kind.keywords.map Token.word).isPrefixOf rest) =
      none := by
    rw [List.find?_eq_none]
    intro kind _
    obtain ⟨k, mem, ks, keywords⟩ := first kind
    rw [keywords, List.map_cons, isPrefixOf_of_head?_ne (ends k mem)]
    exact Bool.false_ne_true
  rw [joinKind, nowhere]

section Rules

variable {self : Reader Normal}

theorem predicate_on {p : Normal} {ts rest : List Token} (here : self (ts ++ rest) = some (p, rest)) :
    predicate self (.word .ON :: (ts ++ rest)) = some (some p, rest) := by
  refine (ifNext_append [.word .ON] _ _ _).trans ?_
  exact (bind_eq here).trans rfl

theorem predicate_other {rest : List Token} (ends : rest.head? ≠ some (.word .ON)) :
    predicate self rest = some (none, rest) := ifNext_other ends _ _

theorem rightOperand_table (nested : Reader (Source Normal)) (s : Scope)
    (settings : Settings) {rest : List Token} (ends : rest.head? ≠ some (.word .AS)) :
    rightOperand nested (Token.significant settings (Render.tableReference s) ++ rest) =
      some (.table s.table s.aliasName, rest) := by
  refine (ifNext_other ?_ _ _).trans (table_eq s settings ends)
  rw [Render.tableReference]
  split
  · simp
  · simp

theorem rightOperand_nested {most : Nat} {right : Source Normal} {ts rest : List Token}
    (here : sourceWithin self most (ts ++ .mark .rightParen :: rest) =
      some (right, .mark .rightParen :: rest)) :
    rightOperand (sourceWithin self most) (.mark .leftParen :: (ts ++ .mark .rightParen :: rest)) =
      some (right, rest) := by
  refine (ifNext_append [.mark .leftParen] _ _ _).trans ?_
  exact closed_eq here

/-- One join is read, and reading goes on with it as the left operand. -/
theorem joins_succ {most : Nat} {kind : JoinKind} {left right : Source Normal} {p : Option Normal}
    {ts us rest : List Token} (operand : rightOperand (sourceWithin self most) ts = some (right, us))
    (condition : predicate self us = some (p, rest)) :
    joins self (most + 1) left (kind.keywords.map Token.word ++ ts) =
      joins self most (.join kind left right p) rest := by
  rw [joins]
  refine (bind_eq (joinKind_keywords kind ts)).trans ?_
  exact (bind_eq operand).trans (bind_eq condition)

theorem joins_end {most : Nat} (enough : 0 < most) {left : Source Normal} {rest : List Token}
    (ends : EndsSource rest) : joins self most left rest = some (left, rest) := by
  cases most with
  | zero => cases enough
  | succ most =>
    rw [joins]
    exact (bind_eq (joinKind_other ends)).trans rfl

/-! ### Clauses -/

theorem clause_absent {α : Type} {k : Keyword} {ks : List Keyword} {body : Reader (List α)}
    {rest : List Token} (other : rest.head? ≠ some (.word k)) :
    clause (k :: ks) body rest = some ([], rest) := ifNext_other other _ _

theorem clause_present {α : Type} (opening : List Keyword) {body : Reader (List α)} {as : List α}
    {ts rest : List Token} (here : body ts = some (as, rest)) :
    clause opening body (opening.map Token.word ++ ts) = some (as, rest) :=
  (ifNext_append _ _ _ ts).trans here

theorem term_eq {e : Normal} {order : SortOrder} {ts rest : List Token}
    (here : self (ts ++ .word order.keyword :: rest) = some (e, .word order.keyword :: rest)) :
    term self (ts ++ .word order.keyword :: rest) = some (⟨e, order⟩, rest) := by
  refine (bind_eq here).trans ?_
  refine (bind_eq (a := Token.word order.keyword) rfl).trans ?_
  cases order <;> rfl

theorem bound_number (k : Keyword) (n : Nat) (rest : List Token) :
    bound k (.word k :: .number n :: rest) = some (some n, rest) :=
  (ifNext_append [.word k] _ _ (.number n :: rest)).trans rfl

theorem bound_other {k : Keyword} {rest : List Token} (other : rest.head? ≠ some (.word k)) :
    bound k rest = some (none, rest) := ifNext_other other _ _

theorem limit_number (n : Nat) (rest : List Token) :
    limit (.word .LIMIT :: .number n :: rest) = some (some n, rest) := by
  have other : [Token.word .LIMIT, .mark .minus, .number 1].isPrefixOf
      (.word .LIMIT :: .number n :: rest) = false := rfl
  rw [limit, ifNext, if_neg (by simp [other])]
  exact bound_number .LIMIT n rest

theorem limit_unlimited (rest : List Token) :
    limit (.word .LIMIT :: .mark .minus :: .number 1 :: rest) = some (none, rest) :=
  ifNext_append [.word .LIMIT, .mark .minus, .number 1] _ _ rest

theorem limit_other {rest : List Token} (other : rest.head? ≠ some (.word .LIMIT)) :
    limit rest = some (none, rest) := (ifNext_other other _ _).trans (bound_other other)

/-! ### Expressions behind a first operand -/

theorem suffix_field (e : Normal) (n : String) (rest : List Token) :
    suffix self e (.mark .rightParen :: .mark .dot :: .name n :: rest) =
      some (.form (.field e n), rest) :=
  (ifNext_append [.mark .rightParen, .mark .dot] _ _ (.name n :: rest)).trans rfl

theorem suffix_isNull (e : Normal) (rest : List Token) :
    suffix self e (.word .IS :: .word .NULL :: .mark .rightParen :: rest) =
      some (.form (.isNull e), rest) := rfl

theorem value_eq (v : Value) (rest : List Token) :
    value (Render.value v :: rest) = some (v, rest) := by
  cases v <;> rfl

theorem members_eq (e : Normal) (negated : Bool) (v : Value) (vs : List Value) (rest : List Token) :
    members e negated ([.mark .comma].intercalate ((v :: vs).map fun v => [Render.value v]) ++
      .mark .rightParen :: .mark .rightParen :: rest) =
      some (.form (.inList e (v :: vs) negated), rest) := by
  have each : List.Forall₂ (Takes (fun _ => True) value) (v :: vs)
      ((v :: vs).map fun v => [Render.value v]) := by
    rw [List.forall₂_map_right_iff]
    exact List.forall₂_same.2 fun v _ rest _ => value_eq v rest
  have list := items_eq (List.cons_ne_nil v vs) each (.mark .comma) (fun _ => trivial)
    (.mark .rightParen :: .mark .rightParen :: rest) trivial (by simp)
  rw [members]
  exact closed_eq list

theorem suffix_inList (e : Normal) (negated : Bool) (v : Value) (vs : List Value)
    (rest : List Token) :
    suffix self e ((if negated then [Keyword.NOT, .IN] else [.IN]).map Token.word ++
      .mark .leftParen :: ([.mark .comma].intercalate ((v :: vs).map fun v => [Render.value v]) ++
        .mark .rightParen :: .mark .rightParen :: rest)) =
      some (.form (.inList e (v :: vs) negated), rest) := by
  cases negated with
  | false => exact members_eq e false v vs rest
  | true => exact members_eq e true v vs rest

theorem ofOperator_comparison (l r : Normal) (op : Comparison) :
    ofOperator l r (Render.comparison op) = some (.compare l op r) := by
  cases op <;> rfl

theorem ofOperator_logical (l r : Normal) (op : LogicalOp) :
    ofOperator l r (.word op.keyword) = some (.logical l op r) := by
  cases op <;> rfl

theorem ofOperator_arithmetic (l r : Normal) (op : Arithmetic) :
    ofOperator l r (.mark op.mark) = some (.arithmetic l op r) := by
  cases op <;> rfl

/-- The tokens that stand behind a first operand where no operator does. -/
theorem ofOperator_eq_none (l r : Normal) :
    ∀ t ∈ [Token.mark .rightParen, .word .IS, .word .IN, .word .NOT], ofOperator l r t = none := by
  intro t mem
  simp only [List.mem_cons, List.not_mem_nil, or_false] at mem
  rcases mem with rfl | rfl | rfl | rfl <;> rfl

/-- Behind an operator stands the second operand. -/
theorem suffix_operator {l r : Normal} {f : Form Normal} {t : Token} {ts rest : List Token}
    (operator : ofOperator l r t = some f)
    (right : self (ts ++ .mark .rightParen :: rest) = some (r, .mark .rightParen :: rest)) :
    suffix self l (t :: (ts ++ .mark .rightParen :: rest)) = some (.form f, rest) := by
  have other : ∀ u ∈ [Token.mark .rightParen, .word .IS, .word .IN, .word .NOT],
      (t :: (ts ++ .mark .rightParen :: rest)).head? ≠ some u := by
    intro u mem same
    cases same
    rw [ofOperator_eq_none l r t mem] at operator
    cases operator
  rw [suffix]
  refine (ifNext_other (other _ (by simp)) _ _).trans ?_
  refine (ifNext_other (other _ (by simp)) _ _).trans ?_
  refine (ifNext_other (other _ (by simp)) _ _).trans ?_
  refine (ifNext_other (other _ (by simp)) _ _).trans ?_
  refine (bind_eq (a := t) rfl).trans ?_
  refine (bind_eq right).trans ?_
  refine (bind_eq (expect_append [.mark .rightParen] rest)).trans ?_
  rw [operator]
  rfl

/-! ### Expressions in parentheses -/

theorem compound_operand {e : Normal} {ts us : List Token} (opens : Opens ts)
    (first : self (ts ++ us) = some (e, us)) : compound self (ts ++ us) = suffix self e us := by
  rw [compound]
  refine (ifNext_other (opens.head?_ne rfl us) _ _).trans ?_
  refine (ifNext_other (opens.head?_ne rfl us) _ _).trans ?_
  refine (ifNext_other (opens.head?_ne rfl us) _ _).trans ?_
  refine (ifNext_other (opens.head?_ne rfl us) _ _).trans ?_
  exact bind_eq first

theorem compound_not {e : Normal} {ts rest : List Token} (opens : Opens ts)
    (inner : self (ts ++ .mark .rightParen :: rest) = some (e, .mark .rightParen :: rest)) :
    compound self (.word .NOT :: (ts ++ .mark .rightParen :: rest)) =
      some (.form (.not e), rest) := by
  have no_test : [Token.word .NOT, .word .EXISTS, .mark .leftParen, .word .SELECT].isPrefixOf
      (.word .NOT :: (ts ++ .mark .rightParen :: rest)) = false := by
    obtain ⟨t, us, rfl, opens⟩ := opens
    have other : (Token.word .EXISTS == t) = false := by
      rw [beq_eq_false_iff_ne]
      rintro rfl
      cases opens
    rw [List.isPrefixOf_cons_cons, List.cons_append, List.isPrefixOf_cons_cons, other, Bool.false_and,
      Bool.and_false]
  rw [compound, ifNext, if_neg (by simp [no_test])]
  refine (ifNext_other (by simp) _ _).trans ?_
  refine (ifNext_append [.word .NOT] _ _ _).trans ?_
  exact closed_eq inner

theorem compound_subquery {q : Selection Normal} {ts rest : List Token}
    (inner : selection self (ts ++ .mark .rightParen :: rest) = some (q, .mark .rightParen :: rest)) :
    compound self (.word .SELECT :: (ts ++ .mark .rightParen :: rest)) =
      some (.form (.subquery q), rest) := by
  rw [compound]
  refine (ifNext_other (by simp) _ _).trans ?_
  refine (ifNext_other (by simp) _ _).trans ?_
  refine (ifNext_other (by simp) _ _).trans ?_
  refine (ifNext_append [.word .SELECT] _ _ _).trans ?_
  exact closed_eq inner

theorem compound_existence (negated : Bool) {q : Selection Normal} {ts rest : List Token}
    (inner : selection self (ts ++ .mark .rightParen :: .mark .rightParen :: rest) =
      some (q, .mark .rightParen :: .mark .rightParen :: rest)) :
    compound self ((if negated then [Keyword.NOT, .EXISTS] else [.EXISTS]).map Token.word ++
      .mark .leftParen :: .word .SELECT :: (ts ++ .mark .rightParen :: .mark .rightParen :: rest)) =
      some (.form (.existence q negated), rest) := by
  have test : existence self negated (ts ++ .mark .rightParen :: .mark .rightParen :: rest) =
      some (.form (.existence q negated), rest) := by
    rw [existence]
    exact closed_eq inner
  cases negated with
  | false => exact test
  | true => exact test

/-! ### Calls -/

theorem aggregate_argument (f : AggregateFunction) (distinct : Bool) {e : Normal}
    {ts rest : List Token} (opens : Opens ts)
    (inner : self (ts ++ .mark .rightParen :: rest) = some (e, .mark .rightParen :: rest)) :
    aggregate self f ((if distinct then [Token.word .DISTINCT] else []) ++
      (ts ++ .mark .rightParen :: rest)) = some (.form (.aggregate f distinct e), rest) := by
  have read (distinct : Bool) : argument self f distinct (ts ++ .mark .rightParen :: rest) =
      some (.form (.aggregate f distinct e), rest) := by
    rw [argument]
    exact closed_eq inner
  rw [aggregate]
  cases distinct with
  | false =>
    refine (ifNext_other (opens.head?_ne rfl _) _ _).trans ?_
    exact (ifNext_other (opens.head?_ne rfl _) _ _).trans (read false)
  | true =>
    refine (ifNext_other (by simp) _ _).trans ?_
    exact (ifNext_append [.word .DISTINCT] _ _ _).trans (read true)

theorem coalesce_eq {es : List Normal} {tss : List (List Token)}
    (each : List.Forall₂ (Takes (fun _ => True) self) es tss) (opens : ∀ ts ∈ tss, Opens ts)
    (rest : List Token) :
    coalesce self ([.mark .comma].intercalate tss ++ .mark .rightParen :: rest) =
      some (.form (.coalesce es), rest) := by
  rw [coalesce]
  cases each with
  | nil => exact (ifNext_append [.mark .rightParen] _ _ rest).trans rfl
  | @cons e ts es tss first later =>
    have list := items_eq (List.cons_ne_nil e es) (.cons first later) (.mark .comma)
      (fun _ => trivial) (.mark .rightParen :: rest) trivial (by simp)
    have first_opens := opens ts List.mem_cons_self
    rw [intercalate_cons_eq, List.append_assoc] at list ⊢
    refine (ifNext_other (first_opens.head?_ne rfl _) _ _).trans ?_
    exact closed_eq list

theorem expression_cons (t : Token) (ts : List Token) :
    expression self (t :: ts) = expressionAfter self t ts := rfl

theorem expression_leftParen (ts : List Token) :
    expression self (.mark .leftParen :: ts) = compound self ts := rfl

/-- The word of an aggregate announces its argument. -/
theorem expressionAfter_keyword (f : AggregateFunction) :
    expressionAfter self (.word f.keyword) =
      ifNext [.mark .leftParen] (aggregate self f) failure := by
  cases f <;> rfl

end Rules

end Reader

end SqlBuilder
