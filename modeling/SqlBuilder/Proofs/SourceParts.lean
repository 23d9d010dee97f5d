import SqlBuilder.Proofs.RenderedTokens
import SqlBuilder.Proofs.SourceTrees

/-!
# The text of a from-clause, part by part

A from-clause is written tree by tree, and a tree from left to right.  Its text is that of its parts:
names of tables, keywords between the operands of a join, and ON predicates after them.  Which parts
there are does not depend on whether they can be written.

* `FromItem`, `JoinTree.items` : the tables and joins of a tree, a join after its operands;
* `FromPart`, `JoinTree.parts`, `FromClause.parts` : the parts of a text, from left to right;
* `items_of_parts`, `words_perm_of_parts`, `hole_not_mem_parts` : each item of a tree has its place
  among the parts;
* **`FromClause.fromTokens_eq_ok_iff`** : the clause has a text exactly when all its parts have one.
-/

namespace SqlBuilder

variable {ε : Type}

/-! ### Items -/

/-- A table or a join, without the positions of its operands. -/
inductive FromItem (ε : Type) where
  | table (s : Scope)
  | join (kind : JoinKind) (predicate : Option ε)

/-- The item that is registered. -/
def Registration.item : Registration ε → FromItem ε
  | .scope s => .table s
  | .join j => .join j.kind j.predicate

/-- The table that an item is, if it is one. -/
def FromItem.table? : FromItem ε → Option Scope
  | .table s => some s
  | .join _ _ => none

/-- The kind of a join. -/
def FromItem.kind? : FromItem ε → Option JoinKind
  | .table _ => none
  | .join kind _ => some kind

/-- The tables and joins of a tree, a join after its operands. -/
def JoinTree.items : JoinTree ε → List (FromItem ε)
  | .scope s => [.table s]
  | .join kind l r predicate => l.items ++ r.items ++ [.join kind predicate]
  | .missing _ | .endless _ => []

/-! ### Parts of a text -/

/-- A part of the text of a from-clause. -/
inductive FromPart (ε : Type) where
  /-- The name of a table. -/
  | table (s : Scope)
  /-- The keywords between the operands of a join. -/
  | words (kind : JoinKind)
  /-- The end of a join, which is its ON predicate if it has one. -/
  | close (kind : JoinKind) (predicate : Option ε)
  /-- The place of a registration that is not there, or of a join in itself. -/
  | hole
  /-- What is written around these. -/
  | mark (ts : List Token)

namespace FromPart

/-- The item that ends with a part. -/
def item? : FromPart ε → Option (FromItem ε)
  | .table s => some (.table s)
  | .close kind predicate => some (.join kind predicate)
  | .words _ | .hole | .mark _ => none

/-- The table whose name a part is. -/
def table? : FromPart ε → Option Scope
  | .table s => some s
  | .words _ | .close _ _ | .hole | .mark _ => none

/-- The kind of a join whose keywords a part is. -/
def words? : FromPart ε → Option JoinKind
  | .words kind => some kind
  | .table _ | .close _ _ | .hole | .mark _ => none

end FromPart

/-- The parts of the text of a tree, from left to right. -/
def JoinTree.parts : JoinTree ε → List (FromPart ε)
  | .scope s => [.table s]
  | .join kind l r predicate =>
    l.parts ++ .words kind ::
      (if r.isJoin then .mark [.mark .leftParen] :: (r.parts ++ [.mark [.mark .rightParen]])
        else r.parts) ++ [.close kind predicate]
  | .missing _ | .endless _ => [.hole]

/-- The parts of the text of a from-clause, from left to right. -/
def FromClause.parts (c : FromClause ε) : List (FromPart ε) :=
  if c.roots.isEmpty then []
  else .mark (Render.between [.FROM]) ::
    [FromPart.mark Render.comma].intercalate (c.trees.map JoinTree.parts)

/-! ### Where the items are -/

/-- A selection from parts does not see what is put between them. -/
theorem filterMap_intercalate {α β : Type} {f : α → Option β} {separator : List α}
    (unseen : separator.filterMap f = []) (lists : List (List α)) :
    (separator.intercalate lists).filterMap f = lists.flatMap (List.filterMap f) := by
  induction lists with
  | nil => rfl
  | cons first rest ih =>
    cases rest with
    | nil => simp
    | cons second rest =>
      rw [List.intercalate_cons_cons, List.filterMap_append, List.filterMap_append, unseen, ih,
        List.append_nil]
      rfl

/-- **The items of a tree are the ends of its parts**, in this order. -/
theorem JoinTree.items_of_parts (t : JoinTree ε) : t.parts.filterMap FromPart.item? = t.items := by
  induction t with
  | scope s => rfl
  | missing id => rfl
  | endless id => rfl
  | join kind l r predicate ihl ihr =>
    rw [parts, items]
    split
    · simp [List.filterMap_cons, ihl, ihr, FromPart.item?]
    · simp [List.filterMap_cons, ihl, ihr, FromPart.item?]

/-- The keywords of each join of a tree are written once. -/
theorem JoinTree.words_perm_of_parts (t : JoinTree ε) :
    (t.parts.filterMap FromPart.words?).Perm (t.items.filterMap FromItem.kind?) := by
  induction t with
  | scope s => exact .refl _
  | missing id => exact .refl _
  | endless id => exact .refl _
  | join kind l r predicate ihl ihr =>
    have shape : (JoinTree.join kind l r predicate).parts.filterMap FromPart.words? =
        l.parts.filterMap FromPart.words? ++ kind :: r.parts.filterMap FromPart.words? := by
      rw [parts]
      split
      · simp [List.filterMap_cons, FromPart.words?]
      · simp [List.filterMap_cons, FromPart.words?]
    have kinds : (JoinTree.join kind l r predicate).items.filterMap FromItem.kind? =
        l.items.filterMap FromItem.kind? ++ r.items.filterMap FromItem.kind? ++ [kind] := by
      simp [items, FromItem.kind?]
    rw [shape, kinds]
    refine List.perm_middle.trans ?_
    exact (List.Perm.cons kind (ihl.append ihr)).trans (List.perm_append_singleton _ _).symm

/-- A tree without gaps has parts without gaps. -/
theorem FromClause.Grounded.hole_not_mem_parts {c : FromClause ε} (h : c.Grounded) (id : Nat)
    (registered : id < c.registrations.length) : FromPart.hole ∉ (c.tree id).parts := by
  induction id using Nat.strongRecOn with
  | _ id ih =>
    obtain ⟨r, at_id⟩ : ∃ r, c.get? id = some r := ⟨_, List.getElem?_eq_getElem registered⟩
    cases r with
    | scope s =>
      rw [FromClause.tree_scope at_id]
      simp [JoinTree.parts]
    | join j =>
      obtain ⟨left, right⟩ := h.operands id j at_id
      have left := ih j.left left (by omega)
      have right := ih j.right right (by omega)
      rw [h.tree_join at_id, JoinTree.parts]
      split
      · simp [left, right]
      · simp [left, right]

/-! ### The text -/

/-- The tokens of a part. -/
inductive FromPart.Writes : FromPart Expr → List Token → Prop where
  | table (s : Scope) : Writes (.table s) (Render.tableReference s)
  | words (kind : JoinKind) : Writes (.words kind) (Render.between kind.keywords)
  | plain (kind : JoinKind) : Writes (.close kind none) []
  | on {kind : JoinKind} {p : Expr} {ts : List Token} : kind ≠ .cross → p.piece.Renders ts →
      Writes (.close kind (some p)) (Render.between [.ON] ++ ts)
  | mark (ts : List Token) : Writes (.mark ts) ts

/-- Tokens that several parts have together, one after the other. -/
def FromPart.Text (parts : List (FromPart Expr)) (ts : List Token) : Prop :=
  ∃ tss, List.Forall₂ FromPart.Writes parts tss ∧ ts = tss.flatten

namespace FromPart

theorem text_nil {ts : List Token} : Text [] ts ↔ ts = [] := by
  simp [Text]

theorem text_cons {p : FromPart Expr} {ps : List (FromPart Expr)} {ts : List Token} :
    Text (p :: ps) ts ↔ ∃ us vs, p.Writes us ∧ Text ps vs ∧ ts = us ++ vs := by
  constructor
  · rintro ⟨tss, each, rfl⟩
    obtain ⟨us, uss, first, rest, rfl⟩ := List.forall₂_cons_left_iff.1 each
    exact ⟨us, uss.flatten, first, ⟨uss, rest, rfl⟩, rfl⟩
  · rintro ⟨us, vs, first, ⟨uss, rest, rfl⟩, rfl⟩
    exact ⟨us :: uss, .cons first rest, rfl⟩

theorem text_append {ps qs : List (FromPart Expr)} {ts : List Token} :
    Text (ps ++ qs) ts ↔ ∃ us vs, Text ps us ∧ Text qs vs ∧ ts = us ++ vs := by
  induction ps generalizing ts with
  | nil => simp [text_nil]
  | cons p ps ih =>
    rw [List.cons_append, text_cons]
    simp only [text_cons, ih]
    constructor
    · rintro ⟨us, _, first, ⟨vs, ws, rest, later, rfl⟩, rfl⟩
      exact ⟨us ++ vs, ws, ⟨us, vs, first, rest, rfl⟩, later, (List.append_assoc _ _ _).symm⟩
    · rintro ⟨_, ws, ⟨us, vs, first, rest, rfl⟩, later, rfl⟩
      exact ⟨us, vs ++ ws, first, ⟨vs, ws, rest, later, rfl⟩, List.append_assoc _ _ _⟩

theorem text_mark {us ts : List Token} : Text [.mark us] ts ↔ ts = us := by
  rw [text_cons]
  constructor
  · rintro ⟨_, _, first, rest, rfl⟩
    cases first
    rw [text_nil.1 rest, List.append_nil]
  · rintro rfl
    exact ⟨ts, [], .mark ts, text_nil.2 rfl, (List.append_nil ts).symm⟩

/-- The parts of a right operand, which stand in parentheses if it is a join. -/
theorem text_nested {nested : Bool} {ps : List (FromPart Expr)} {us : List Token} :
    Text (if nested then .mark [.mark .leftParen] :: (ps ++ [.mark [.mark .rightParen]]) else ps)
        us ↔ ∃ ts, Text ps ts ∧ us = if nested then Render.parenthesized ts else ts := by
  split
  · rw [text_cons]
    simp only [text_append, text_mark]
    constructor
    · rintro ⟨_, _, first, ⟨ts, _, middle, rfl, rfl⟩, rfl⟩
      cases first
      exact ⟨ts, middle, rfl⟩
    · rintro ⟨ts, middle, rfl⟩
      exact ⟨_, _, .mark _, ⟨ts, _, middle, rfl, rfl⟩, rfl⟩
  · simp

end FromPart

open FromPart (Text text_nil text_cons text_append text_mark text_nested)

/-- Replacing what stands in the place of predicates. -/
def JoinTree.map {α β : Type} (f : α → β) : JoinTree α → JoinTree β
  | .scope s => .scope s
  | .join kind l r predicate => .join kind (l.map f) (r.map f) (predicate.map f)
  | .missing id => .missing id
  | .endless id => .endless id

theorem JoinTree.isJoin_map {α β : Type} (f : α → β) (t : JoinTree α) :
    (t.map f).isJoin = t.isJoin := by
  cases t with
  | _ => rfl

theorem FromClause.treeWithin_map {α β : Type} (f : α → β) (c : FromClause α) (depth id : Nat) :
    (c.map f).treeWithin depth id = (c.treeWithin depth id).map f := by
  induction depth generalizing id with
  | zero => rfl
  | succ depth ih =>
    have here : (c.map f).get? id = (c.get? id).map (Registration.map f) := List.getElem?_map
    rw [treeWithin, treeWithin, here]
    cases c.get? id with
    | none => rfl
    | some r =>
      cases r with
      | scope s => rfl
      | join j =>
        show JoinTree.join j.kind ((c.map f).treeWithin depth j.left)
          ((c.map f).treeWithin depth j.right) (j.predicate.map f) = _
        rw [ih, ih]
        rfl

theorem FromClause.trees_map {α β : Type} (f : α → β) (c : FromClause α) :
    (c.map f).trees = c.trees.map (JoinTree.map f) := by
  rw [trees, trees, List.map_map]
  refine List.map_congr_left fun id _ => ?_
  rw [tree, Function.comp_apply, tree, ← treeWithin_map]
  exact congrArg (fun n => (c.map f).treeWithin (n + 1) id) (List.length_map _)

/-- The predicate of a join that is no cross join is written behind its operands. -/
theorem joinTokens_of_ne_cross {kind : JoinKind} (differs : kind ≠ .cross)
    (left right : List Token) (nested : Bool) (p : Piece) :
    joinTokens kind left right nested (some p) =
      p.tokens.get >>= fun ts => pure (left ++ (Render.between kind.keywords ++
        if nested then Render.parenthesized right else right) ++ Render.between [.ON] ++ ts) := by
  cases kind with
  | cross => exact absurd rfl differs
  | _ => rfl

/-- The tokens of a join are those of its operands, its keywords and its end. -/
theorem joinTokens_eq_ok_iff {kind : JoinKind} {left right ts : List Token} {nested : Bool}
    {predicate : Option Expr} :
    joinTokens kind left right nested (predicate.map Expr.piece) = .ok ts ↔
      ∃ vs, (FromPart.close kind predicate).Writes vs ∧ ts = left ++
        (Render.between kind.keywords ++ if nested then Render.parenthesized right else right) ++
          vs := by
  cases predicate with
  | none =>
    constructor
    · intro h
      cases h
      exact ⟨[], .plain kind, (List.append_nil _).symm⟩
    · rintro ⟨_, close, rfl⟩
      cases close
      rw [List.append_nil]
      rfl
  | some p =>
    by_cases cross : kind = .cross
    · subst cross
      constructor
      · intro h
        cases h
      · rintro ⟨_, close, rfl⟩
        cases close with
        | on differs => exact absurd rfl differs
    · rw [Option.map_some, joinTokens_of_ne_cross cross, Except.bind_eq_ok_iff]
      constructor
      · rintro ⟨us, renders, e⟩
        cases e
        exact ⟨_, .on cross renders, List.append_assoc _ _ _⟩
      · rintro ⟨_, close, rfl⟩
        cases close with
        | on differs renders => exact ⟨_, renders, congrArg _ (List.append_assoc _ _ _)⟩

/-- **A tree has a text** exactly when all its parts have one. -/
theorem JoinTree.tokens_eq_ok_iff (t : JoinTree Expr) : ∀ ts : List Token,
    (t.map Expr.piece).tokens = .ok ts ↔ Text t.parts ts := by
  induction t with
  | scope s =>
    intro ts
    rw [parts, text_cons]
    constructor
    · intro h
      cases h
      exact ⟨_, [], .table s, text_nil.2 rfl, (List.append_nil _).symm⟩
    · rintro ⟨_, _, first, rest, rfl⟩
      cases first
      rw [text_nil.1 rest, List.append_nil]
      rfl
  | missing id | endless id =>
    intro ts
    rw [parts, text_cons]
    constructor
    · intro h
      cases h
    · rintro ⟨_, _, first, _, _⟩
      cases first
  | join kind l r predicate ihl ihr =>
    intro ts
    rw [map, tokens, Except.bind_eq_ok_iff, parts, text_append]
    simp only [Except.bind_eq_ok_iff, ihl, ihr, isJoin_map, joinTokens_eq_ok_iff, text_append,
      text_cons, text_nil, text_nested]
    constructor
    · rintro ⟨tl, left, tr, right, vs, close, rfl⟩
      refine ⟨_, vs, ⟨tl, _, left, ⟨_, _, .words kind, ⟨tr, right, rfl⟩, rfl⟩, rfl⟩,
        ⟨vs, [], close, rfl, (List.append_nil vs).symm⟩, rfl⟩
    · rintro ⟨_, _, ⟨tl, _, left, ⟨_, _, words, ⟨tr, right, rfl⟩, rfl⟩, rfl⟩,
        ⟨vs, _, close, rfl, rfl⟩, rfl⟩
      cases words
      exact ⟨tl, left, tr, right, vs, close, by rw [List.append_nil]⟩

/-- Texts with commas between them. -/
theorem text_intercalate {pss : List (List (FromPart Expr))} {ts : List Token} :
    Text ([FromPart.mark Render.comma].intercalate pss) ts ↔
      ∃ tss, List.Forall₂ Text pss tss ∧ ts = Render.comma.intercalate tss := by
  induction pss generalizing ts with
  | nil => simp [text_nil]
  | cons ps pss ih =>
    cases pss with
    | nil => simp [List.forall₂_cons_left_iff]
    | cons ps' pss =>
      rw [List.intercalate_cons_cons, text_append]
      simp only [text_append, text_mark, ih]
      constructor
      · rintro ⟨_, _, ⟨us, _, first, rfl, rfl⟩, ⟨tss, rest, rfl⟩, rfl⟩
        obtain ⟨vs, vss, _, _, rfl⟩ := List.forall₂_cons_left_iff.1 rest
        exact ⟨us :: vs :: vss, .cons first rest, by
          rw [List.intercalate_cons_cons, List.append_assoc]⟩
      · rintro ⟨tss, each, rfl⟩
        obtain ⟨us, _, first, rest, rfl⟩ := List.forall₂_cons_left_iff.1 each
        obtain ⟨vs, vss, _, _, rfl⟩ := List.forall₂_cons_left_iff.1 rest
        exact ⟨us ++ Render.comma, _, ⟨us, _, first, rfl, rfl⟩, ⟨vs :: vss, rest, rfl⟩, by
          rw [List.intercalate_cons_cons, List.append_assoc]⟩

/-- **A from-clause has a text** exactly when all its parts have one, and then it is theirs. -/
theorem FromClause.fromTokens_eq_ok_iff (c : FromClause Expr) (ts : List Token) :
    Statement.fromTokens (c.map Expr.piece) = .ok ts ↔ Text c.parts ts := by
  have roots : (c.map Expr.piece).roots = c.roots := rfl
  have each (tss : List (List Token)) :
      (c.map Expr.piece).roots.mapM (c.map Expr.piece).tokensAt = .ok tss ↔
        List.Forall₂ Text (c.trees.map JoinTree.parts) tss := by
    rw [mapM_tokensAt_roots, Except.mapM_eq_ok_iff, trees_map, List.forall₂_map_left_iff,
      List.forall₂_map_left_iff]
    simp only [JoinTree.tokens_eq_ok_iff]
  rw [Statement.fromTokens, parts, roots]
  split
  · rw [text_nil]
    exact ⟨fun h => by cases h; rfl, fun h => by rw [h]⟩
  · rw [text_cons, ← roots, Except.bind_eq_ok_iff]
    simp only [each, text_intercalate]
    constructor
    · rintro ⟨tss, each, e⟩
      cases e
      exact ⟨_, _, .mark _, ⟨tss, each, rfl⟩, rfl⟩
    · rintro ⟨_, _, first, ⟨tss, each, rfl⟩, rfl⟩
      cases first
      exact ⟨tss, each, rfl⟩

end SqlBuilder
