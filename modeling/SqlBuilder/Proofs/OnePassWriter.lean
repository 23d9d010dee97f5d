import SqlBuilder.Proofs.AlikeRendering
import SqlBuilder.Proofs.BoundLiterals
import SqlBuilder.Sql.Writer

/-!
# Writing in one pass and rendering

A writer numbers a placeholder by what it has bound, the renderer by what stands before it in the
text.  The two agree, whatever a writer has bound before it comes to a statement: it writes the tokens
of the rendering numbered on from there, and binds their values behind those that are bound.

* `Token.emit` : what a writer that has bound some values makes of a list of tokens;
* `Writer.Tracks` : a writer writes the tokens of a rendering, or fails for the same reason;
* `Writer.run_bind_eq` : what follows when a writer goes on behind one that tracks a rendering;
* `Writing.tracks_ofNode` : expressions are written as they are rendered;
* **`Statement.writer_tracks`**, **`Statement.nestedWriter_tracks`** : so are statements and
  sub-queries.
-/

namespace SqlBuilder

open Render

/-! ### Tokens -/

namespace Token

variable (s : Settings)

/-- What a writer that has bound some values makes of a list of tokens. -/
def emit (bound : List Value) (ts : List Token) : List Char × List Value :=
  (writeFrom s bound.length ts, bound ++ parameters ts)

/-- What it makes of several lists, one after the other. -/
def emitEach : List Value → List (List Token) → List (List Char) × List Value
  | bound, [] => ([], bound)
  | bound, ts :: tss =>
    let first := emit s bound ts
    let rest := emitEach first.2 tss
    (first.1 :: rest.1, rest.2)

variable {s}

theorem emit_append (bound : List Value) (ts us : List Token) :
    emit s bound (ts ++ us) =
      ((emit s bound ts).1 ++ (emit s (emit s bound ts).2 us).1, (emit s (emit s bound ts).2 us).2) := by
  rw [emit, writeFrom_append, parameters_append, ← List.append_assoc, ← List.length_append]
  rfl

/-- Only a placeholder is written with its number. -/
theorem chars_of_bindless {t : Token} (bindless : t.arity = 0) (m n : Nat) :
    t.chars s m = t.chars s n := by
  cases t with
  | bind v => cases bindless
  | _ => rfl

/-- Tokens that bind nothing are written alike, whatever is bound. -/
theorem emit_of_bindless (ts : List Token) (bindless : parameters ts = []) (bound : List Value) :
    emit s bound ts = (write s ts, bound) := by
  have text : ∀ (ts : List Token) (m n : Nat), parameters ts = [] →
      writeFrom s m ts = writeFrom s n ts := by
    intro ts
    induction ts with
    | nil =>
      intro m n _
      rfl
    | cons t ts ih =>
      intro m n bindless
      have length := congrArg List.length bindless
      rw [parameters_cons, List.length_nil] at length
      obtain ⟨here, later⟩ := Nat.add_eq_zero_iff.1 length
      rw [writeFrom, writeFrom, chars_of_bindless here (m + 1) (n + 1),
        ih _ (n + t.arity) (List.length_eq_zero_iff.1 later)]
  rw [emit, bindless, List.append_nil, write, text ts bound.length 0 bindless]

theorem emit_parenthesized (bound : List Value) (ts : List Token) :
    emit s bound (parenthesized ts) = (Text.parenthesized (emit s bound ts).1, (emit s bound ts).2) := by
  show emit s bound ([.mark .leftParen] ++ (ts ++ [.mark .rightParen])) = _
  rw [emit_append, emit_of_bindless [.mark .leftParen] rfl, emit_append,
    emit_of_bindless [.mark .rightParen] rfl]
  rfl

theorem emit_intercalate {separator : List Token} (bindless : parameters separator = []) :
    ∀ (tss : List (List Token)) (bound : List Value), emit s bound (separator.intercalate tss) =
      ((write s separator).intercalate (emitEach s bound tss).1, (emitEach s bound tss).2) := by
  intro tss
  induction tss with
  | nil => exact fun bound => emit_of_bindless _ rfl bound
  | cons ts tss ih =>
    intro bound
    cases tss with
    | nil => rw [List.intercalate_singleton, emitEach, emitEach, List.intercalate_singleton]
    | cons us tss =>
      rw [List.intercalate_cons_cons, emit_append, emit_append, emit_of_bindless _ bindless, ih]
      simp only [emitEach, List.intercalate_cons_cons]

/-- Lists that bind nothing in front of others. -/
theorem emitEach_append {tss : List (List Token)} (bindless : ∀ ts ∈ tss, parameters ts = [])
    (bound : List Value) (uss : List (List Token)) : emitEach s bound (tss ++ uss) =
      (tss.map (write s) ++ (emitEach s bound uss).1, (emitEach s bound uss).2) := by
  induction tss with
  | nil => rfl
  | cons ts tss ih =>
    obtain ⟨here, later⟩ := List.forall_mem_cons.1 bindless
    rw [List.cons_append, emitEach, emit_of_bindless _ here, ih later]
    rfl

/-! ### Tokens that bind nothing -/

theorem bindless_words (ks : List Keyword) : parameters (words ks) = [] := (holds_words ks).parameters

theorem bindless_between (ks : List Keyword) : parameters (between ks) = [] := by
  show parameters (words ks ++ [.blank]) = []
  rw [parameters_append, bindless_words]
  rfl

theorem bindless_tableReference (t : Scope) : parameters (tableReference t) = [] :=
  (holds_tableReference t).parameters

theorem bindless_range (limit offset : Option Nat) :
    parameters (Statement.rangeTokens limit offset) = [] :=
  (Holds.nil.append_range limit offset).parameters

end Token

open Token

/-! ### Writers that track renderings -/

namespace Writer

variable {α β γ δ : Type} {s : Settings}

/-- A writer writes what is made of the result of a rendering, or fails for the same reason, whatever
is bound. -/
def Tracks (emit : List Value → β → α × List Value) (w : Writer α) (r : Except RenderError β) : Prop :=
  ∀ bound, w.run bound = r.map (emit bound)

/-- A writer that goes on behind one that tracks a rendering. -/
theorem run_bind_eq {emit : List Value → β → α × List Value} {w : Writer α}
    {r : Except RenderError β} (h : Tracks emit w r) {f : α → Writer γ} {g : β → Except RenderError δ}
    {out : δ → γ × List Value} {bound : List Value}
    (next : ∀ b, (f (emit bound b).1).run (emit bound b).2 = (g b).map out) :
    (w >>= f).run bound = (r >>= g).map out := by
  rw [StateT.run_bind, h bound]
  cases r with
  | error e => rfl
  | ok b => exact next b

/-- The end of a writer. -/
theorem run_return_eq {out : δ → γ × List Value} {text : γ} {bound : List Value} {d : δ}
    (h : out d = (text, bound)) :
    (return text : Writer γ).run bound = (pure d : Except RenderError δ).map out :=
  congrArg Except.ok h.symm

theorem Tracks.fail (emit : List Value → β → α × List Value) (e : RenderError) :
    Tracks emit (throw e) (.error e) := fun _ => rfl

/-- Tokens that bind nothing. -/
theorem Tracks.fixed (ts : List Token) (bindless : parameters ts = []) :
    Tracks (emit s) (return write s ts) (.ok ts) :=
  fun bound => run_return_eq (emit_of_bindless _ bindless bound)

/-- Several writers, one after the other. -/
theorem Tracks.mapM {f : α → Writer (List Char)} {g : β → Rendering} {as : List α} {bs : List β}
    (each : List.Forall₂ (fun a b => Tracks (emit s) (f a) (g b)) as bs) :
    Tracks (emitEach s) (as.mapM f) (bs.mapM g) := by
  induction each with
  | nil =>
    rw [List.mapM_nil, List.mapM_nil]
    exact fun bound => rfl
  | cons first rest ih =>
    rw [List.mapM_cons, List.mapM_cons]
    intro bound
    apply run_bind_eq first
    intro ts
    apply run_bind_eq ih
    intro tss
    exact run_return_eq rfl

end Writer

/-- An operand is written as it is rendered, and is the same row if it is one. -/
structure Writing.Tracks (s : Settings) (w : Writing) (p : Piece) : Prop where
  row : w.row? = p.row?
  text : Writer.Tracks (emit s) w.text p.tokens.get

namespace Writer

variable {s : Settings}

/-! ### Operands and clauses -/

theorem tracks_value (v : Value) : Tracks (emit s) (value s v) (.ok [Render.value v]) := by
  rw [value, Render.value]
  cases v.isNull with
  | true => exact .fixed [.word .NULL] rfl
  | false =>
    intro bound
    show Except.ok (s.placeholder (bound ++ [v]).length, bound ++ [v]) =
      Except.ok (s.placeholder (bound.length + 1) ++ [], bound ++ [v])
    rw [List.length_append, List.append_nil]
    rfl

theorem tracks_values (vs : List Value) :
    Tracks (emitEach s) (vs.mapM (value s)) (.ok (vs.map fun v => [Render.value v])) := by
  have each : Tracks (emitEach s) (vs.mapM (value s)) (vs.mapM fun v => pure [Render.value v]) :=
    .mapM (List.forall₂_same.2 fun v _ => tracks_value v)
  rw [List.mapM_pure] at each
  exact each

theorem tracks_separated {separator : List Token} (bindless : parameters separator = [])
    {ws : List Writing} {ps : List Piece} (each : List.Forall₂ (Writing.Tracks s) ws ps) :
    Tracks (emit s) (separated s separator ws) (Render.separated separator ps) := by
  intro bound
  apply run_bind_eq (.mapM (each.imp fun _ _ tracks => tracks.text))
  intro tss
  exact run_return_eq (emit_intercalate bindless tss bound)

theorem tracks_conjunction {ws : List Writing} {ps : List Piece}
    (each : List.Forall₂ (Writing.Tracks s) ws ps) :
    Tracks (emit s) (conjunction s ws) (Render.conjunction ps) :=
  tracks_separated (bindless_between [.AND]) each

theorem tracks_clause (opening : List Keyword) {ws : List Writing} {ps : List Piece}
    (each : List.Forall₂ (Writing.Tracks s) ws ps) {w : List Writing → Writer (List Char)}
    {r : List Piece → Rendering} (body : Tracks (emit s) (w ws) (r ps)) :
    Tracks (emit s) (clause s opening ws w) (Render.clause opening ps r) := by
  cases each with
  | nil => exact .fixed [] rfl
  | cons first rest =>
    intro bound
    apply run_bind_eq body
    intro ts
    apply run_return_eq
    rw [emit_append, emit_of_bindless _ (bindless_between opening)]

theorem tracks_around {l r : Writing} {l' r' : Piece} {op : Token} (bindless : op.arity = 0)
    (left : l.Tracks s l') (right : r.Tracks s r') :
    Tracks (emit s) (around s l op r) (Render.around l' op r') := by
  have operator : parameters [.blank, op, .blank] = [] := by
    show parameters [op, .blank] = []
    exact parameters_cons_of_arity bindless _
  intro bound
  apply run_bind_eq left.text
  intro ts
  apply run_bind_eq right.text
  intro us
  apply run_return_eq
  show emit s bound (parenthesized (ts ++ ([.blank, op, .blank] ++ us))) = _
  rw [emit_parenthesized, emit_append, emit_append, emit_of_bindless _ operator, List.append_assoc]

/-! ### Sources -/

theorem tracks_joined (kind : JoinKind) (nested : Bool) {p : Option Writing} {p' : Option Piece}
    (predicate : Option.Rel (Writing.Tracks s) p p') (ts us : List Token) (bound : List Value) :
    (joined s kind (emit s bound ts).1 (emit s (emit s bound ts).2 us).1 nested p).run
        (emit s (emit s bound ts).2 us).2 =
      (joinTokens kind ts us nested p').map (emit s bound) := by
  have operands : emit s bound
      (ts ++ (between kind.keywords ++ if nested then parenthesized us else us)) =
      ((emit s bound ts).1 ++ Token.write s (between kind.keywords) ++
        (if nested then Text.parenthesized (emit s (emit s bound ts).2 us).1
          else (emit s (emit s bound ts).2 us).1), (emit s (emit s bound ts).2 us).2) := by
    rw [emit_append, emit_append, emit_of_bindless _ (bindless_between kind.keywords),
      List.append_assoc]
    cases nested with
    | true => rw [if_pos rfl, if_pos rfl, emit_parenthesized]
    | false => rfl
  cases predicate with
  | none => exact run_return_eq operands
  | some tracks =>
    cases kind with
    | cross => rfl
    | _ =>
      apply run_bind_eq tracks.text
      intro vs
      apply run_return_eq
      rw [emit_append, emit_append, operands, emit_of_bindless _ (bindless_between [.ON])]

theorem tracks_registration {c : FromClause Writing} {c' : FromClause Piece}
    (h : List.Forall₂ (Registration.Related (Writing.Tracks s)) c.registrations c'.registrations) :
    ∀ depth id, Tracks (emit s) (registration s c depth id) (c'.tokensWithin depth id) := by
  have here (id : Nat) : Option.Rel (Registration.Related (Writing.Tracks s)) (c.get? id) (c'.get? id) :=
    forall₂_getElem? h id
  have nested (id : Nat) : c.isJoinAt id = c'.isJoinAt id := by
    rw [FromClause.isJoinAt, FromClause.isJoinAt]
    have related := here id
    generalize c.get? id = found at related ⊢
    generalize c'.get? id = found' at related ⊢
    cases related with
    | none => rfl
    | some related => cases related <;> rfl
  intro depth
  induction depth with
  | zero => exact fun id => .fail _ (.endlessJoin id)
  | succ depth ih =>
    intro id
    rw [registration, FromClause.tokensWithin]
    have related := here id
    generalize c.get? id = found at related ⊢
    generalize c'.get? id = found' at related ⊢
    cases related with
    | none => exact .fail _ (.danglingRegistration id)
    | some related =>
      cases related with
      | scope t => exact .fixed _ (bindless_tableReference t)
      | join kind left right predicate =>
        intro bound
        apply run_bind_eq (ih left)
        intro ts
        apply run_bind_eq (ih right)
        intro us
        rw [nested]
        exact tracks_joined kind _ predicate ts us bound

/-! ### Statements -/

theorem tracks_columns {ws : List Writing} {ps : List Piece}
    (each : List.Forall₂ (Writing.Tracks s) ws ps) :
    Tracks (emitEach s) (columns s ws) (Statement.columnTokens ps) := by
  induction each with
  | nil => exact fun bound => rfl
  | @cons w p ws ps first rest ih =>
    rw [columns, Statement.columnTokens, first.row]
    cases p.row? with
    | some t =>
      intro bound
      apply run_bind_eq ih
      intro tss
      apply run_return_eq
      rw [emitEach_append, List.map_map]
      · rfl
      · intro ts mem
        obtain ⟨f, _, rfl⟩ := List.mem_map.1 mem
        exact (holds_columnReference t f.name).parameters
    | none =>
      intro bound
      apply run_bind_eq first.text
      intro ts
      apply run_bind_eq ih
      intro tss
      exact run_return_eq rfl

theorem tracks_selectList {ws : List Writing} {ps : List Piece}
    (each : List.Forall₂ (Writing.Tracks s) ws ps) :
    Tracks (emit s) (selectList s ws) (Statement.selectList ps) := by
  intro bound
  apply run_bind_eq (tracks_columns each)
  intro tss
  apply run_return_eq
  cases tss with
  | nil => exact emit_of_bindless _ rfl bound
  | cons ts tss => exact emit_intercalate rfl (ts :: tss) bound

theorem tracks_source {q : Statement Writing} {q' : Statement Piece}
    (h : Statement.Related (Writing.Tracks s) q q') :
    Tracks (emit s) (source s q.source) (Statement.fromTokens q'.source) := by
  rw [source, Statement.fromTokens, h.roots]
  split
  · exact .fixed [] rfl
  · intro bound
    apply run_bind_eq
    · apply Tracks.mapM (g := q'.source.tokensAt)
      refine List.forall₂_same.2 fun id _ => ?_
      rw [FromClause.tokensAt, h.registrations.length_eq]
      exact tracks_registration h.registrations _ id
    · intro tss
      apply run_return_eq
      rw [emit_append, emit_of_bindless _ (bindless_between [.FROM]), emit_intercalate rfl]

theorem tracks_ordering {ts : List (OrderTerm Writing)} {ts' : List (OrderTerm Piece)}
    (each : List.Forall₂ (fun t u => Writing.Tracks s t.expr u.expr ∧ t.order = u.order) ts ts') :
    Tracks (emit s) (ordering s ts) (Statement.orderTokens ts') := by
  rw [ordering, Statement.orderTokens, isEmpty_eq_of_forall₂ each]
  split
  · exact .fixed [] rfl
  · intro bound
    apply run_bind_eq
    · apply Tracks.mapM
      apply each.imp
      rintro t u ⟨tracks, order⟩ bound
      apply run_bind_eq tracks.text
      intro vs
      apply run_return_eq
      rw [emit_append, emit_of_bindless [.blank, .word u.order.keyword] rfl, order]
    · intro tss
      apply run_return_eq
      rw [emit_append, emit_of_bindless _ (bindless_between [.ORDER, .BY]), emit_intercalate rfl]

variable {q : Statement Writing} {q' : Statement Piece}

theorem tracks_select (h : Statement.Related (Writing.Tracks s) q q') :
    Tracks (emit s) (select s q) q'.selectTokens := by
  rw [select, Statement.selectTokens, isEmpty_eq_of_forall₂ h.assignments, h.kind]
  split
  · intro bound
    apply run_bind_eq (tracks_selectList h.columns)
    intro columns
    apply run_bind_eq (tracks_source h)
    intro source
    apply run_bind_eq (tracks_clause [.WHERE] h.filters (tracks_conjunction h.filters))
    intro filters
    apply run_bind_eq (tracks_clause [.GROUP, .BY] h.grouping (tracks_separated rfl h.grouping))
    intro grouping
    apply run_bind_eq (tracks_clause [.HAVING] h.having_ (tracks_conjunction h.having_))
    intro having_
    apply run_bind_eq (tracks_ordering h.ordering)
    intro ordering
    apply run_return_eq
    rw [h.distinct, h.limit, h.offset]
    show emit s bound (words (if q'.distinct then [.SELECT, .DISTINCT] else [.SELECT]) ++
      ([.blank] ++ columns) ++ source ++ filters ++ grouping ++ having_ ++ ordering ++
      Statement.rangeTokens q'.limit q'.offset) = _
    simp only [emit_append, emit_of_bindless _ (bindless_words _),
      emit_of_bindless [.blank] rfl, emit_of_bindless _ (bindless_range _ _), List.append_assoc]
  · exact .fail _ _

theorem tracks_target (h : Statement.Related (Writing.Tracks s) q q') :
    Tracks (fun bound t => (t, bound)) ((q.target : Except RenderError Scope) : Writer Scope)
      q'.target := by
  rw [Statement.target_eq h]
  intro bound
  cases q'.target <;> rfl

theorem tracks_assignment (t : Scope) {a : Assignment Writing} {b : Assignment Piece}
    (h : a.target.Tracks s b.target ∧ a.field = b.field ∧ a.op = b.op ∧ a.value.Tracks s b.value) :
    Tracks (emit s) (assignment s t a) (Statement.assignmentTokens t b) := by
  obtain ⟨target, field, op, value⟩ := h
  rw [assignment, Statement.assignmentTokens, target.row, field, op]
  split
  · intro bound
    apply run_bind_eq value.text
    intro ts
    apply run_return_eq
    cases b.op.arithmetic? with
    | none =>
      show emit s bound ([.name b.field, .blank, .mark .equal, .blank] ++ ts) = _
      rw [emit_append, emit_of_bindless _ rfl]
    | some op =>
      show emit s bound ([.name b.field, .blank, .mark .equal, .blank] ++ parenthesized
        (columnReference t b.field ++ ([.blank, .mark op.mark, .blank] ++ ts))) = _
      have column := (holds_columnReference t b.field).parameters
      have operator : parameters [.blank, .mark op.mark, .blank] = [] := rfl
      rw [emit_append, emit_of_bindless _ rfl, emit_parenthesized]
      simp only [emit_append, emit_of_bindless _ column, emit_of_bindless _ operator, List.append_assoc]
  · exact .fail _ _

theorem tracks_update (h : Statement.Related (Writing.Tracks s) q q') :
    Tracks (emit s) (update s q) q'.updateTokens := by
  rw [update, Statement.updateTokens, isEmpty_eq_of_forall₂ h.assignments]
  split
  · exact .fail _ _
  · intro bound
    apply run_bind_eq (tracks_target h)
    intro t
    apply run_bind_eq (Tracks.mapM (h.assignments.imp fun _ _ related => tracks_assignment t related))
    intro tss
    apply run_bind_eq (tracks_clause [.WHERE] h.filters (tracks_conjunction h.filters))
    intro filters
    apply run_return_eq
    have commas : parameters comma = [] := rfl
    show emit s bound (words [.UPDATE] ++ ([.blank] ++ tableReference t) ++ between [.SET] ++
      comma.intercalate tss ++ filters) = _
    simp only [emit_append, emit_of_bindless _ (bindless_words _), emit_of_bindless _ (bindless_between _),
      emit_of_bindless [.blank] rfl, emit_of_bindless _ (bindless_tableReference t),
      emit_intercalate commas, List.append_assoc]

theorem tracks_delete (h : Statement.Related (Writing.Tracks s) q q') :
    Tracks (emit s) (delete s q) q'.deleteTokens := by
  rw [delete, Statement.deleteTokens, isEmpty_eq_of_forall₂ h.assignments, h.kind]
  split
  · intro bound
    apply run_bind_eq (tracks_target h)
    intro t
    apply run_bind_eq (tracks_clause [.WHERE] h.filters (tracks_conjunction h.filters))
    intro filters
    apply run_return_eq
    show emit s bound (words [.DELETE, .FROM] ++ ([.blank] ++ tableReference t) ++ filters) = _
    simp only [emit_append, emit_of_bindless _ (bindless_words _),
      emit_of_bindless [.blank] rfl, emit_of_bindless _ (bindless_tableReference t),
      List.append_assoc]
  · exact .fail _ _

theorem tracks_statement (h : Statement.Related (Writing.Tracks s) q q') :
    Tracks (emit s) (statement s q) q'.pieceTokens := by
  rw [statement, Statement.pieceTokens, h.kind]
  cases q'.kind with
  | select => exact tracks_select h
  | update => exact tracks_update h
  | delete => exact tracks_delete h

theorem tracks_nested (h : Statement.Related (Writing.Tracks s) q q') :
    Tracks (emit s) (nested s q) q'.nestedTokens := by
  rw [nested, Statement.nestedTokens, h.kind]
  split
  · exact tracks_select h
  · exact .fail _ _

end Writer

/-! ### Expressions -/

open Writer

/-- **The operand that a node makes is written as it is rendered**, provided that those in its places
are. -/
theorem Writing.tracks_ofNode {s : Settings} (m : Node Writing) (n : Node Piece)
    (related : Node.Related (Writing.Tracks s) m n) : (Writing.ofNode s m).Tracks s (Piece.ofNode n) := by
  cases related with
  | row t => exact ⟨rfl, .fail _ (.rowAsScalar t.aliasName)⟩
  | @field a b name base =>
    rw [Writing.ofNode, Piece.ofNode, base.row]
    cases b.row? with
    | some t => exact ⟨rfl, .fixed _ (holds_columnReference t name).parameters⟩
    | none =>
      refine ⟨rfl, fun bound => ?_⟩
      apply run_bind_eq base.text
      intro ts
      apply run_return_eq
      rw [emit_append, emit_parenthesized, emit_of_bindless [.mark .dot, .name name] rfl]
  | literal v => exact ⟨rfl, tracks_value v⟩
  | compare op left right => exact ⟨rfl, tracks_around (arity_comparison op) left right⟩
  | logical op left right => exact ⟨rfl, tracks_around rfl left right⟩
  | not e =>
    refine ⟨rfl, fun bound => ?_⟩
    apply run_bind_eq e.text
    intro ts
    apply run_return_eq
    show emit s bound (parenthesized ([.word .NOT, .blank] ++ ts)) = _
    rw [emit_parenthesized, emit_append, emit_of_bindless _ rfl]
  | arithmetic op left right => exact ⟨rfl, tracks_around rfl left right⟩
  | isNull e =>
    refine ⟨rfl, fun bound => ?_⟩
    apply run_bind_eq e.text
    intro ts
    apply run_return_eq
    rw [emit_parenthesized, emit_append, emit_of_bindless (.blank :: words [.IS, .NULL]) rfl]
  | countRows => exact ⟨rfl, .fixed _ rfl⟩
  | aggregate f d e =>
    refine ⟨rfl, fun bound => ?_⟩
    apply run_bind_eq e.text
    intro ts
    apply run_return_eq
    have distinct : parameters (if d then [.word .DISTINCT, .blank] else []) = [] := by
      cases d <;> rfl
    show emit s bound ([.word f.keyword] ++ parenthesized (_ ++ ts)) = _
    rw [emit_append, emit_of_bindless _ rfl, emit_parenthesized, emit_append, emit_of_bindless _ distinct]
  | inList vs n e =>
    cases vs with
    | nil => exact ⟨rfl, .fixed _ rfl⟩
    | cons v vs =>
      refine ⟨rfl, fun bound => ?_⟩
      apply run_bind_eq e.text
      intro ts
      apply run_bind_eq (g := fun tss => pure (parenthesized
        (ts ++ between (if n then [.NOT, .IN] else [.IN]) ++ parenthesized (comma.intercalate tss))))
        (tracks_values (v :: vs))
      intro tss
      apply run_return_eq
      rw [emit_parenthesized, emit_append, emit_append, emit_of_bindless _ (bindless_between _),
        emit_parenthesized, emit_intercalate rfl]
  | coalesce each =>
    refine ⟨rfl, fun bound => ?_⟩
    apply run_bind_eq (tracks_separated rfl each)
    intro ts
    apply run_return_eq
    show emit s bound ([.word .COALESCE] ++ parenthesized ts) = _
    rw [emit_append, emit_of_bindless _ rfl, emit_parenthesized]
  | subquery q =>
    refine ⟨rfl, fun bound => ?_⟩
    apply run_bind_eq (tracks_nested q)
    intro ts
    exact run_return_eq (emit_parenthesized bound ts)
  | existence n q =>
    refine ⟨rfl, fun bound => ?_⟩
    apply run_bind_eq (tracks_nested q)
    intro ts
    apply run_return_eq
    show emit s bound (parenthesized (words (if n then [.NOT, .EXISTS] else [.EXISTS]) ++
      ([.blank] ++ parenthesized ts))) = _
    rw [emit_parenthesized, emit_append, emit_of_bindless _ (bindless_words _), emit_append,
      emit_of_bindless [.blank] rfl, emit_parenthesized, List.append_assoc]

namespace Statement

/-- The places of a statement are written as they are rendered. -/
theorem tracks_places (s : Settings) (q : Statement Expr) :
    Statement.Related (Writing.Tracks s) (q.map (Expr.writing s)) (q.map Expr.piece) :=
  fold_related Writing.tracks_ofNode q

/-- **A statement is written as it is rendered**, whatever a writer has bound before. -/
theorem writer_tracks (s : Settings) (q : Statement Expr) : Tracks (emit s) (q.writer s) q.tokens :=
  tracks_statement (q.tracks_places s)

/-- **So is a sub-query.** -/
theorem nestedWriter_tracks (s : Settings) (q : Statement Expr) :
    Tracks (emit s) (q.nestedWriter s) (q.map Expr.piece).nestedTokens :=
  tracks_nested (q.tracks_places s)

end Statement

end SqlBuilder
