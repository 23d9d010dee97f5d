import Mathlib.Data.List.Nodup
import SqlBuilder.Proofs.BuilderChange
import SqlBuilder.Proofs.NameQuoting

/-!
# Numbers and aliases of a whole statement

One book of aliases serves a statement and all its sub-queries: it is handed to each sub-query and
taken back when the sub-query is over, however it ends.

* `AliasBook.Issues` : the book has handed out numbers and aliases to given tables, one after the
  other;
* `AliasBook.Accumulates` : what holds of a book and each table holds of a book and any calls;
* `Builder.Change.issues` : handing out is therefore what any calls do with the book;
* `Builder.Change.scopes` : the tables that a builder gets are among them;
* **`keptApart_of_runAll`** : the tables of a statement and of its sub-queries are numbered without
  a gap, and no two of them share an alias or the text of one.
-/

namespace SqlBuilder

namespace AliasBook

/-- From one book to another the given tables got a number and an alias each, in this order. -/
structure Issues (before : AliasBook) (tables : List Scope) (after : AliasBook) : Prop where
  ids : tables.map Scope.id = List.range' before.nextScope tables.length
  nextScope : after.nextScope = before.nextScope + tables.length
  issued : after.issued = (tables.map Scope.aliasName).reverse ++ before.issued
  nodup : (tables.map Scope.aliasName).Nodup
  unissued : ∀ a ∈ tables.map Scope.aliasName, a ∉ before.issued

namespace Issues

theorem none (b : AliasBook) : Issues b [] b where
  ids := rfl
  nextScope := rfl
  issued := rfl
  nodup := List.nodup_nil
  unissued a mem := by cases mem

theorem trans {b₁ b₂ b₃ : AliasBook} {ss ts : List Scope} (h₁ : Issues b₁ ss b₂)
    (h₂ : Issues b₂ ts b₃) : Issues b₁ (ss ++ ts) b₃ where
  ids := by
    rw [List.map_append, h₁.ids, h₂.ids, h₁.nextScope, List.length_append,
      List.range'_append_1]
  nextScope := by
    rw [h₂.nextScope, h₁.nextScope, List.length_append, Nat.add_assoc]
  issued := by
    rw [h₂.issued, h₁.issued, List.map_append, List.reverse_append, List.append_assoc]
  nodup := by
    rw [List.map_append]
    refine List.nodup_append.2 ⟨h₁.nodup, h₂.nodup, ?_⟩
    rintro a first _ second rfl
    -- what the first tables got was handed out when the others came
    apply h₂.unissued a second
    rw [h₁.issued]
    exact List.mem_append_left _ (List.mem_reverse.2 first)
  unissued a mem old := by
    rw [List.map_append] at mem
    rcases List.mem_append.1 mem with first | second
    · exact h₁.unissued a first old
    · apply h₂.unissued a second
      rw [h₁.issued]
      exact List.mem_append_right _ old

/-- A table gets the next number and a free alias. -/
theorem introduce (b : Builder) (e : Entity) (nullable : Bool) :
    Issues b.aliases [b.nextScope e nullable] (b.introduce e nullable).aliases where
  ids := rfl
  nextScope := rfl
  issued := rfl
  nodup := List.nodup_singleton _
  unissued a mem := by
    rw [List.mem_singleton.1 mem]
    exact candidate_firstFree_not_mem _ _ _

end Issues

end AliasBook

namespace AliasBook

/-- What holds of a book and one table after another adds up to any number of tables. -/
structure Accumulates (R : AliasBook → List Scope → AliasBook → Prop) : Prop where
  none : ∀ a, R a [] a
  trans : ∀ {a₁ a₂ a₃ : AliasBook} {ss ts : List Scope}, R a₁ ss a₂ → R a₂ ts a₃ → R a₁ (ss ++ ts) a₃
  introduce : ∀ (b : Builder) (e : Entity) (nullable : Bool),
    R b.aliases [b.nextScope e nullable] (b.introduce e nullable).aliases

theorem Issues.accumulates : Accumulates Issues := ⟨.none, .trans, .introduce⟩

end AliasBook

open AliasBook (Accumulates Issues)

/-! ### Shapes and calls -/

section Accumulates

variable {R : AliasBook → List Scope → AliasBook → Prop}

/-- The leaves of an operand get their aliases from left to right. -/
theorem Operand.register_accumulates (h : Accumulates R) {τ : Type} (o : Operand τ) : ∀ b : Builder,
    R b.aliases ((o.register b).leaves.map Prod.snd) (o.register b).builder.aliases := by
  induction o with
  | table e tag =>
    intro b
    exact h.introduce b e false
  | nullable e tag =>
    intro b
    exact h.introduce b e true
  | join kind l r ihl ihr =>
    intro b
    have both := h.trans (ihl b) (ihr (l.register b).builder)
    rw [← List.map_append] at both
    exact both

/-- So do the leaves of a whole shape. -/
theorem Shape.introduce_accumulates (h : Accumulates R) {τ : Type} (s : Shape τ) (b : Builder) :
    R b.aliases ((s.introduce b).2.map Prod.snd) (s.introduce b).1.aliases := by
  have all : ∀ (os : List (Operand τ)) (b : Builder),
      R b.aliases ((introduceAll os b).2.map Prod.snd) (introduceAll os b).1.aliases := by
    intro os
    induction os with
    | nil =>
      intro b
      exact h.none _
    | cons o os ih =>
      intro b
      have first := o.register_accumulates h b
      have rest := ih ((o.register b).builder.addRoot (o.register b).id)
      show R _ (((o.register b).leaves ++ _).map Prod.snd) _
      rw [List.map_append]
      exact h.trans first rest
  exact all s.operands b

/-- So do the tables that any calls bring in, those of sub-queries included. -/
theorem Builder.Change.accumulates (h : Accumulates R) {b b' : Builder} {ss : List Scope}
    (change : Change b ss b') : R b.aliases ss b'.aliases := by
  induction change with
  | andThen _ _ ih₁ ih₂ => exact h.trans ih₁ ih₂
  | introduce shape b => exact shape.introduce_accumulates h b
  | register operand b => exact operand.register_accumulates h b
  | attach p attached =>
    obtain ⟨i, rest, j, _, _, rfl⟩ := attach_eq_ok_iff.1 attached
    exact h.none _
  | clause source pending aliases =>
    rw [aliases]
    exact h.none _
  | isolated _ ih => exact ih
  | subquery _ ih => exact ih

end Accumulates

theorem Operand.register_issues {τ : Type} (o : Operand τ) (b : Builder) :
    Issues b.aliases ((o.register b).leaves.map Prod.snd) (o.register b).builder.aliases :=
  o.register_accumulates Issues.accumulates b

theorem Shape.introduce_issues {τ : Type} (s : Shape τ) (b : Builder) :
    Issues b.aliases ((s.introduce b).2.map Prod.snd) (s.introduce b).1.aliases :=
  s.introduce_accumulates Issues.accumulates b

/-- **Any calls hand out numbers and aliases to exactly the tables that they bring in**, those of
sub-queries included. -/
theorem Builder.Change.issues {b b' : Builder} {ss : List Scope} (h : Change b ss b') :
    Issues b.aliases ss b'.aliases := h.accumulates Issues.accumulates

/-! ### The tables of a builder in its transcript -/

namespace Builder

/-- The tables that a builder holds, in order of registration. -/
def scopes (b : Builder) : List Scope := b.statement.source.scopes

theorem scopes_introduce (b : Builder) (e : Entity) (nullable : Bool) :
    (b.introduce e nullable).scopes = b.scopes ++ [b.nextScope e nullable] := by
  show (b.statement.source.registrations ++ [_]).filterMap _ = _
  rw [List.filterMap_append]
  rfl

theorem scopes_registerJoin (b : Builder) (kind : JoinKind) (left right : Nat) :
    (b.registerJoin kind left right).scopes = b.scopes := by
  show (b.statement.source.registrations ++ [_]).filterMap _ = _
  rw [List.filterMap_append]
  exact List.append_nil _

end Builder

/-- The tables that an operand registers are its leaves. -/
theorem Operand.register_scopes {τ : Type} (o : Operand τ) : ∀ b : Builder,
    (o.register b).builder.scopes = b.scopes ++ (o.register b).leaves.map Prod.snd := by
  induction o with
  | table e tag =>
    intro b
    exact b.scopes_introduce e false
  | nullable e tag =>
    intro b
    exact b.scopes_introduce e true
  | join kind l r ihl ihr =>
    intro b
    show ((r.register (l.register b).builder).builder.registerJoin kind _ _).scopes =
      b.scopes ++ ((l.register b).leaves ++ (r.register (l.register b).builder).leaves).map Prod.snd
    rw [Builder.scopes_registerJoin, ihr, ihl, List.map_append, List.append_assoc]

/-- The tables that a shape registers are its leaves. -/
theorem Shape.introduce_scopes {τ : Type} (s : Shape τ) (b : Builder) :
    (s.introduce b).1.scopes = b.scopes ++ (s.introduce b).2.map Prod.snd := by
  have all : ∀ (os : List (Operand τ)) (b : Builder),
      (introduceAll os b).1.scopes = b.scopes ++ (introduceAll os b).2.map Prod.snd := by
    intro os
    induction os with
    | nil =>
      intro b
      exact (List.append_nil _).symm
    | cons o os ih =>
      intro b
      have rest := ih ((o.register b).builder.addRoot (o.register b).id)
      have first : ((o.register b).builder.addRoot (o.register b).id).scopes = _ :=
        o.register_scopes b
      rw [first] at rest
      show (introduceAll os _).1.scopes = b.scopes ++ ((o.register b).leaves ++ _).map Prod.snd
      rw [rest, List.map_append, List.append_assoc]
  exact all s.operands b

/-- Replacing an element by one with the same image leaves the images as they are. -/
theorem filterMap_set_of_eq {α β : Type} {f : α → Option β} {a : α} :
    ∀ {l : List α} {i : Nat}, (∀ a', l[i]? = some a' → f a = f a') →
      (l.set i a).filterMap f = l.filterMap f := by
  intro l
  induction l with
  | nil =>
    intro i _
    rfl
  | cons b l ih =>
    intro i same
    cases i with
    | zero =>
      have here : f a = f b := same b rfl
      rw [List.set_cons_zero, List.filterMap_cons, List.filterMap_cons, here]
    | succ i =>
      rw [List.set_cons_succ, List.filterMap_cons, List.filterMap_cons, ih same]

/-- **The tables that a builder gets are among those that its calls bring in**, in the same order;
the others are those of sub-queries. -/
theorem Builder.Change.scopes {b b' : Builder} {ss : List Scope} (h : Change b ss b') :
    ∃ own : List Scope, b'.scopes = b.scopes ++ own ∧ own.Sublist ss := by
  induction h with
  | @andThen b₁ b₂ b₃ ss ts h₁ h₂ ih₁ ih₂ =>
    obtain ⟨own₁, scopes₁, sub₁⟩ := ih₁
    obtain ⟨own₂, scopes₂, sub₂⟩ := ih₂
    refine ⟨own₁ ++ own₂, ?_, sub₁.append sub₂⟩
    rw [scopes₂, scopes₁, List.append_assoc]
  | introduce shape b => exact ⟨_, shape.introduce_scopes b, List.Sublist.refl _⟩
  | register operand b => exact ⟨_, operand.register_scopes b, List.Sublist.refl _⟩
  | @attach b b' p attached =>
    obtain ⟨i, rest, j, _, at_i, rfl⟩ := attach_eq_ok_iff.1 attached
    refine ⟨[], ?_, List.Sublist.refl _⟩
    rw [List.append_nil]
    refine filterMap_set_of_eq fun r at_i' => ?_
    rw [show b.statement.source.registrations[i]? = _ from at_i] at at_i'
    cases at_i'
    rfl
  | @clause b b' source pending aliases =>
    refine ⟨[], ?_, List.Sublist.refl _⟩
    rw [List.append_nil, Builder.scopes, source]
    rfl
  | @isolated b inner ss h ih => exact ih
  | @subquery b inner ss h ih => exact ⟨[], (List.append_nil _).symm, List.nil_sublist _⟩

/-! ### Every statement -/

/-- Tables that are numbered without a gap and share neither an alias nor the text of one. -/
structure KeptApart (tables : List Scope) : Prop where
  numbered : tables.map Scope.id = List.range tables.length
  aliases : (tables.map Scope.aliasName).Nodup
  texts : ∀ s : Settings, (tables.map fun t => s.writeName t.aliasName).Nodup

/-- **The tables of a statement and of all its sub-queries are kept apart**, whatever calls build the
statement, and whichever of them fail.  They are all the tables that ever got an alias, and the
statement's own tables are among them. -/
theorem keptApart_of_runAll {kind : StatementKind} {body : List Step} {env : Env} {o : Outcome}
    (ran : runAll body (.start kind) env = .ok o) :
    KeptApart (scopesOfAll o.entries) ∧
      o.builder.aliases.issued = ((scopesOfAll o.entries).map Scope.aliasName).reverse ∧
      o.builder.scopes.Sublist (scopesOfAll o.entries) := by
  have change := runAll_change body _ env o ran
  have issues := change.issues
  have issued : o.builder.aliases.issued =
      ((scopesOfAll o.entries).map Scope.aliasName).reverse := by
    rw [issues.issued]
    exact List.append_nil _
  refine ⟨⟨?numbered, issues.nodup, ?texts⟩, issued, ?own⟩
  case numbered =>
    rw [issues.ids, List.range_eq_range']
    rfl
  case texts =>
    intro s
    have texts := issues.nodup.map s.writeName_injective
    rw [List.map_map] at texts
    exact texts
  case own =>
    obtain ⟨own, scopes, sub⟩ := change.scopes
    rw [scopes]
    exact sub

/-- Tables whose names look like aliases of one another, one of them in a sub-query that fails. -/
def lookalikes : List Step :=
  let table (name : String) : Operand String := .table ⟨name, []⟩ name
  [.introduce (.tuple [table "a", table "a1", table "a12", table "a"]),
    .attempt (.subquery "x" (.existence false)
      [.introduce (.single (table "a2")), .attach (.literal .bool (.truth true))] .unit) [] [],
    .isolated [.register (table "a")]]

/-- The lookalikes are kept apart. -/
theorem keptApart_lookalikes :
    ∃ o, runAll lookalikes (.start .update) [] = .ok o ∧
      (scopesOfAll o.entries).map Scope.aliasName = ["a", "a1", "a12", "a2", "a22", "a3"] ∧
      KeptApart (scopesOfAll o.entries) := by
  have ran : ∃ o, runAll lookalikes (.start .update) [] = .ok o ∧
      (scopesOfAll o.entries).map Scope.aliasName = ["a", "a1", "a12", "a2", "a22", "a3"] :=
    ⟨_, rfl, rfl⟩
  obtain ⟨o, ran, aliases⟩ := ran
  exact ⟨o, ran, aliases, (keptApart_of_runAll ran).1⟩

end SqlBuilder
