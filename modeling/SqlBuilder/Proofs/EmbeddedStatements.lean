import Mathlib.Data.List.Nodup
import SqlBuilder.Proofs.NormalForm
import SqlBuilder.Proofs.Places
import SqlBuilder.Proofs.SourceTrees

/-!
# References inside nested statements

A column is referred to by the alias of its table, and a reader of the text looks for the alias in the
SELECT around the reference, then in the one around that, and so on.  This file says which SELECTs
stand around a reference and when the first of them that has the alias is the one that is meant.

* `Statement.exposes` : the tables that a SELECT lists, with their aliases;
* `Expr.Embeds`, `Statement.Embeds` : a statement is embedded at some depth;
* `Statement.referenceAt?` : the table referred to at a place, and the statements around it, the
  innermost first;
* `Statement.Apart` : the aliases of a statement occur in no statement embedded in it;
* **`resolves_of_apart`** : among statements that are apart, each reference below the statement that
  holds its table is resolved to it.
-/

namespace SqlBuilder

/-! ### What a SELECT exposes -/

/-- The tables of a source from left to right, with their aliases. -/
def Source.tables {ε : Type} : Source ε → List (String × String)
  | .table name aliasName => [(name, aliasName)]
  | .join _ l r _ => l.tables ++ r.tables
  | .nowhere => []

/-- The tables in the from-clause of a SELECT as its text is read, with their aliases. -/
def Statement.exposes (q : Statement Expr) : List (String × String) :=
  q.normalForm.sources.flatMap Source.tables

/-- A table with its alias. -/
def Scope.entry (s : Scope) : String × String := (s.table, s.aliasName)

theorem JoinTree.tables_source (t : JoinTree Reduced) :
    t.source.tables = t.scopes.map Scope.entry := by
  induction t with
  | scope s => rfl
  | missing id | endless id => rfl
  | join kind l r predicate ihl ihr =>
    rw [JoinTree.source, Source.tables, ihl, ihr, JoinTree.scopes, List.map_append]

/-- A SELECT exposes the tables that it lists at top level. -/
theorem Statement.exposes_eq (q : Statement Expr) :
    q.exposes = q.source.listed.map Scope.entry := by
  have trees : q.exposes = (q.source.map Expr.reduced).trees.flatMap
      fun t => t.scopes.map Scope.entry := by
    show ((q.source.map Expr.reduced).trees.map JoinTree.source).flatMap Source.tables = _
    rw [List.flatMap_map]
    congr
    funext t
    exact t.tables_source
  rw [trees, ← FromClause.listed_map Expr.reduced, FromClause.listed, List.map_flatMap]

/-! ### Statements inside others -/

/-- The statement embedded in a node. -/
def Node.statement? {ε : Type} : Node ε → Option (Statement ε)
  | .subquery q | .existence q _ => some q
  | _ => none

/-- A statement is embedded in an expression, at any depth. -/
inductive Expr.Embeds : Expr → Statement Expr → Prop where
  | here {n : Node Expr} {q : Statement Expr} : n.statement? = some q → Embeds (.node n) q
  | within {n : Node Expr} {e : Expr} {q : Statement Expr} :
      e ∈ n.children → Embeds e q → Embeds (.node n) q

/-- A statement is embedded in another, at any depth. -/
def Statement.Embeds (q r : Statement Expr) : Prop := ∃ e ∈ q.children, e.Embeds r

/-- What stands in a node with an embedded statement stands in this statement. -/
theorem Node.children_of_statement? {ε : Type} {n : Node ε} {q : Statement ε}
    (h : n.statement? = some q) : n.children = q.children := by
  cases n with
  | subquery r | existence r negated =>
    cases h
    rfl
  | _ => cases h

/-! ### References -/

/-- The table whose row a path leads to, and the statements that it goes through, the innermost
first.  A column stands in the text for a field of such a row, or the row for all its columns. -/
def Expr.referenceAt? : List Node.Place → Expr → Option (Scope × List (Statement Expr))
  | [], .node (.row s) => some (s, [])
  | [], _ => none
  | p :: path, .node n => (n.at? p).bind fun e =>
    (e.referenceAt? path).map fun r => (r.1, r.2 ++ n.statement?.toList)

/-- The table referred to at a place of a statement, and the statements around the reference. -/
def Statement.referenceAt? (q : Statement Expr) (place : Statement.Place)
    (path : List Node.Place) : Option (Scope × List (Statement Expr)) :=
  (q.at? place).bind fun e => (e.referenceAt? path).map fun r => (r.1, r.2 ++ [q])

/-- The statements around a reference, each embedded in those that come after it. -/
def IsNested (chain : List (Statement Expr)) : Prop := chain.Pairwise fun r q => q.Embeds r

/-- The statements that a path goes through are embedded in the expression, and one in the other. -/
theorem Expr.isNested_referenceAt? : ∀ (path : List Node.Place) (e : Expr) (s : Scope)
    (chain : List (Statement Expr)), e.referenceAt? path = some (s, chain) →
    (∀ q ∈ chain, e.Embeds q) ∧ IsNested chain := by
  intro path
  induction path with
  | nil =>
    intro e s chain h
    obtain ⟨n⟩ := e
    cases n with
    | row s' =>
      cases h
      refine ⟨fun q mem => ?_, List.Pairwise.nil⟩
      cases mem
    | _ => cases h
  | cons p path ih =>
    intro e s chain h
    obtain ⟨n⟩ := e
    obtain ⟨e, at_p, h⟩ := Option.bind_eq_some_iff.1 h
    obtain ⟨⟨s', inner⟩, found, same⟩ := Option.map_eq_some_iff.1 h
    cases same
    obtain ⟨embedded, nested⟩ := ih e _ inner found
    have child := Node.mem_children_of_at? at_p
    have deeper {q : Statement Expr} (mem : q ∈ inner) : (Expr.node n).Embeds q :=
      .within child (embedded q mem)
    constructor
    · intro q mem
      rcases List.mem_append.1 mem with mem | here
      · exact deeper mem
      · exact .here (Option.mem_toList.1 here)
    · refine List.pairwise_append.2 ⟨nested, ?_, fun r mem q here => ?_⟩
      · cases n.statement? with
        | none => exact List.Pairwise.nil
        | some q => exact List.pairwise_singleton _ q
      · have found := Node.children_of_statement? (Option.mem_toList.1 here)
        rw [found] at child
        exact ⟨e, child, embedded r mem⟩

/-- The statements around a reference in a statement are this one and statements embedded in it. -/
theorem Statement.isNested_referenceAt? {q : Statement Expr} {place : Statement.Place}
    {path : List Node.Place} {s : Scope} {chain : List (Statement Expr)}
    (h : q.referenceAt? place path = some (s, chain)) :
    (∀ r ∈ chain, r = q ∨ q.Embeds r) ∧ IsNested chain := by
  obtain ⟨e, at_place, h⟩ := Option.bind_eq_some_iff.1 h
  obtain ⟨⟨s', inner⟩, found, same⟩ := Option.map_eq_some_iff.1 h
  cases same
  obtain ⟨embedded, nested⟩ := Expr.isNested_referenceAt? path e _ inner found
  have child := Statement.mem_children_of_at? at_place
  have deeper {r : Statement Expr} (mem : r ∈ inner) : q.Embeds r := ⟨e, child, embedded r mem⟩
  constructor
  · intro r mem
    rcases List.mem_append.1 mem with mem | here
    · exact .inr (deeper mem)
    · exact .inl (List.mem_singleton.1 here)
  · refine List.pairwise_append.2 ⟨nested, List.pairwise_singleton _ q, fun r mem r' here => ?_⟩
    rw [List.mem_singleton.1 here]
    exact deeper mem

/-! ### Resolution -/

/-- The aliases of the tables that a statement holds. -/
def Statement.aliases (q : Statement Expr) : List String := q.source.scopes.map Scope.aliasName

/-- A reference to a table is resolved: going outward, the first statement that exposes its alias
holds the table, no other statement around the reference does, and it exposes the alias exactly once,
for this table. -/
def Resolves (s : Scope) (chain : List (Statement Expr)) : Prop :=
  ∃ inner q outer, chain = inner ++ q :: outer ∧
    (∀ r ∈ inner, s.aliasName ∉ r.exposes.map Prod.snd) ∧
    s ∈ q.source.scopes ∧ (∀ r ∈ inner ++ outer, s ∉ r.source.scopes) ∧
    q.exposes.filter (fun t => t.2 == s.aliasName) = [(s.table, s.aliasName)]

/-- A statement lists its tables, no two under one alias, and has no alias in common with statements
embedded in it. -/
structure Statement.Apart (q : Statement Expr) : Prop where
  exposes : q.exposes = q.source.scopes.map Scope.entry
  nodup : q.aliases.Nodup
  disjoint : ∀ r, q.Embeds r → ∀ a ∈ r.aliases, a ∉ q.aliases

theorem mem_aliases_of_mem_scopes {q : Statement Expr} {s : Scope} (h : s ∈ q.source.scopes) :
    s.aliasName ∈ q.aliases := List.mem_map_of_mem h

/-- Where no two members have one image, a member is found by its image. -/
theorem filter_image_eq_singleton {α β : Type} [BEq β] [LawfulBEq β] {f : α → β} {a : α} :
    ∀ {l : List α}, (l.map f).Nodup → a ∈ l → l.filter (fun b => f b == f a) = [a] := by
  intro l
  induction l with
  | nil =>
    intro _ mem
    cases mem
  | cons b l ih =>
    intro nodup mem
    rw [List.map_cons, List.nodup_cons] at nodup
    obtain ⟨first, rest⟩ := nodup
    rcases List.mem_cons.1 mem with rfl | later
    · have none_later : l.filter (fun b => f b == f a) = [] := by
        refine List.filter_eq_nil_iff.2 fun b mem same => first ?_
        rw [← beq_iff_eq.1 same]
        exact List.mem_map_of_mem mem
      rw [List.filter_cons, if_pos (beq_self_eq_true (f a)), none_later]
    · have other : ¬ (f b == f a) = true := by
        intro same
        rw [beq_iff_eq.1 same] at first
        exact first (List.mem_map_of_mem later)
      rw [List.filter_cons, if_neg other]
      exact ih rest later

/-- The aliases that a statement apart exposes are those of its tables. -/
theorem Statement.Apart.map_snd_exposes {q : Statement Expr} (h : q.Apart) :
    q.exposes.map Prod.snd = q.aliases := by
  rw [h.exposes, List.map_map]
  rfl

/-- It exposes the alias of each of its tables once. -/
theorem Statement.Apart.filter_exposes {q : Statement Expr} (h : q.Apart) {s : Scope}
    (mem : s ∈ q.source.scopes) :
    q.exposes.filter (fun t => t.2 == s.aliasName) = [(s.table, s.aliasName)] := by
  have found := filter_image_eq_singleton h.nodup mem
  rw [h.exposes, List.filter_map]
  show (q.source.scopes.filter fun t => t.aliasName == s.aliasName).map Scope.entry = _
  rw [found]
  rfl

/-- **Among statements that are apart** a reference below the statement that holds its table is
resolved to it. -/
theorem resolves_of_apart {s : Scope} {chain : List (Statement Expr)} (nested : IsNested chain)
    (apart : ∀ q ∈ chain, q.Apart) (registered : ∃ q ∈ chain, s ∈ q.source.scopes) :
    Resolves s chain := by
  obtain ⟨q, mem, holds⟩ := registered
  obtain ⟨inner, outer, rfl⟩ := List.append_of_mem mem
  obtain ⟨_, below_outer, across⟩ := List.pairwise_append.1 nested
  have own := mem_aliases_of_mem_scopes holds
  -- an inner statement is embedded in the one that holds the table
  have unknown_inside : ∀ r ∈ inner, s.aliasName ∉ r.aliases := by
    intro r within known
    have embedded := across r within q List.mem_cons_self
    exact (apart q mem).disjoint r embedded s.aliasName known own
  -- and this one is embedded in each outer statement
  have unknown_outside : ∀ r ∈ outer, s.aliasName ∉ r.aliases := by
    intro r around
    have embedded := (List.pairwise_cons.1 below_outer).1 r around
    have member : r ∈ inner ++ q :: outer :=
      List.mem_append_right _ (List.mem_cons_of_mem _ around)
    exact (apart r member).disjoint q embedded s.aliasName own
  refine ⟨inner, q, outer, rfl, fun r within => ?_, holds, fun r other also => ?_,
    (apart q mem).filter_exposes holds⟩
  · have member : r ∈ inner ++ q :: outer := List.mem_append_left _ within
    rw [(apart r member).map_snd_exposes]
    exact unknown_inside r within
  · have known := mem_aliases_of_mem_scopes also
    rcases List.mem_append.1 other with within | around
    · exact unknown_inside r within known
    · exact unknown_outside r around known

end SqlBuilder
