import Mathlib.Data.List.Flatten
import Mathlib.Data.List.Pairwise
import SqlBuilder.Proofs.SourceParts
import SqlBuilder.Proofs.WellShaped

/-!
# Registrations in postfix order

Operands are registered before their join, the left one before the right one.  A from-clause is
therefore a program in postfix notation: a table is pushed, and a join takes the latest two positions
that no join has taken yet.  From this order alone follows that the positions form a forest.

* `FromClause.Postfix rs free` : the registrations `rs` are in postfix order, and no join has taken
  the positions `free`;
* **`Postfix.uses_perm`** : each position is taken once or free;
* `FromClause.Forest` : joins have earlier operands, none of which is shared or listed at top level;
* `FromClause.follow?` : the position at the end of a path;
* **`Postfix.hasPath`** : where all free positions are roots, one path leads to each position;
* **`Postfix.flatMap_items`** : and the trees hold the registrations in order.
-/

namespace SqlBuilder

variable {ε : Type}

/-- The positions of the operands. -/
def Registration.operands : Registration ε → List Nat
  | .scope _ => []
  | .join j => [j.left, j.right]

namespace FromClause

/-- The registrations are in postfix order, and no join has taken the given positions. -/
inductive Postfix : List (Registration ε) → List Nat → Prop where
  | nil : Postfix [] []
  | scope {rs : List (Registration ε)} {free : List Nat} (s : Scope) :
      Postfix rs free → Postfix (rs ++ [.scope s]) (free ++ [rs.length])
  | join {rs : List (Registration ε)} {free : List Nat} (j : Join ε) :
      Postfix rs (free ++ [j.left, j.right]) → Postfix (rs ++ [.join j]) (free ++ [rs.length])

/-- Joins have earlier operands, two each, and no operand belongs to two joins or is a root. -/
structure Forest (c : FromClause ε) : Prop where
  earlier : ∀ id operand, c.Operates id operand → operand < id
  distinct : ∀ id j, c.get? id = some (.join j) → j.left ≠ j.right
  unshared : ∀ id id' operand, c.Operates id operand → c.Operates id' operand → id = id'
  unlisted : ∀ id operand, c.Operates id operand → operand ∉ c.roots

namespace Postfix

variable {rs : List (Registration ε)} {free : List Nat}

/-- **Each position is taken once or free.** -/
theorem uses_perm (h : Postfix rs free) :
    (rs.flatMap Registration.operands ++ free).Perm (List.range rs.length) := by
  induction h with
  | nil => exact .refl _
  | @scope rs free s _ ih =>
    have uses : (rs ++ [Registration.scope s]).flatMap Registration.operands ++ (free ++ [rs.length]) =
        (rs.flatMap Registration.operands ++ free) ++ [rs.length] := by
      simp [Registration.operands]
    rw [uses, List.length_append, List.length_singleton, List.range_succ]
    exact ih.append_right _
  | @join rs free j _ ih =>
    have uses : (rs ++ [Registration.join j]).flatMap Registration.operands ++ (free ++ [rs.length]) =
        (rs.flatMap Registration.operands ++ ([j.left, j.right] ++ free)) ++ [rs.length] := by
      simp [Registration.operands]
    rw [uses, List.length_append, List.length_singleton, List.range_succ]
    exact ((List.perm_append_comm.append_left _).trans ih).append_right _

theorem lt_of_mem (h : Postfix rs free) {i : Nat} (mem : i ∈ free) : i < rs.length :=
  List.mem_range.1 (h.uses_perm.subset (List.mem_append_right _ mem))

/-- A join comes after its operands. -/
theorem operands_lt (h : Postfix rs free) : ∀ (i : Nat) (j : Join ε),
    rs[i]? = some (.join j) → j.left < i ∧ j.right < i := by
  induction h with
  | nil =>
    intro i j at_i
    cases at_i
  | scope s _ ih =>
    intro i j at_i
    rcases get?_push_eq_some (c := ⟨_, []⟩) at_i with old | ⟨_, new⟩
    · exact ih i j old
    · cases new
  | join j' earlier ih =>
    intro i j at_i
    rcases get?_push_eq_some (c := ⟨_, []⟩) at_i with old | ⟨rfl, new⟩
    · exact ih i j old
    · cases new
      exact ⟨earlier.lt_of_mem (by simp), earlier.lt_of_mem (by simp)⟩

/-- The order does not depend on predicates. -/
theorem of_bare (h : Postfix rs free) : ∀ {rs' : List (Registration ε)},
    rs'.map Registration.bare = rs.map Registration.bare → Postfix rs' free := by
  induction h with
  | nil =>
    intro rs' same
    rw [List.map_eq_nil_iff.1 same]
    exact .nil
  | @scope rs free s _ ih =>
    intro rs' same
    rw [List.map_append] at same
    obtain ⟨first, last, rfl, before, here⟩ := List.map_eq_append_iff.1 same
    obtain ⟨r, rfl, bare⟩ := List.map_eq_singleton_iff.1 here
    have length : first.length = rs.length := by simpa using congrArg List.length before
    cases r with
    | scope s' =>
      rw [← length]
      exact .scope s' (ih before)
    | join j => cases bare
  | @join rs free j _ ih =>
    intro rs' same
    rw [List.map_append] at same
    obtain ⟨first, last, rfl, before, here⟩ := List.map_eq_append_iff.1 same
    obtain ⟨r, rfl, bare⟩ := List.map_eq_singleton_iff.1 here
    have length : first.length = rs.length := by simpa using congrArg List.length before
    cases r with
    | scope s => cases bare
    | join j' =>
      injection bare with joins
      injection joins with _ left right _
      rw [← length]
      refine .join j' ?_
      rw [left, right]
      exact ih before

end Postfix

/-! ### The forest -/

section Forest

variable {c : FromClause ε} {free : List Nat}

/-- The operands of a join are those of its registration. -/
theorem operates_iff {id operand : Nat} :
    c.Operates id operand ↔ ∃ r, c.get? id = some r ∧ operand ∈ r.operands := by
  constructor
  · rintro ⟨j, at_id, side⟩
    exact ⟨.join j, at_id, by simpa [Registration.operands] using side⟩
  · rintro ⟨r, at_id, mem⟩
    cases r with
    | scope s => cases mem
    | join j => exact ⟨j, at_id, by simpa [Registration.operands] using mem⟩

theorem Postfix.grounded (h : Postfix c.registrations free) (roots : c.roots.Sublist free) :
    c.Grounded where
  operands := h.operands_lt
  roots _ mem := h.lt_of_mem (roots.subset mem)

/-- **Registrations in postfix order form a forest**, provided the roots are free. -/
theorem Postfix.forest (h : Postfix c.registrations free) (roots : c.roots.Sublist free) :
    c.Forest := by
  have nodup : (c.registrations.flatMap Registration.operands ++ free).Nodup :=
    h.uses_perm.nodup_iff.2 List.nodup_range
  obtain ⟨taken, _, apart⟩ := List.nodup_append.1 nodup
  obtain ⟨each, between⟩ := List.nodup_flatMap.1 taken
  constructor
  case earlier =>
    rintro id operand ⟨j, at_id, side⟩
    obtain ⟨left, right⟩ := h.operands_lt id j at_id
    rcases side with rfl | rfl
    · exact left
    · exact right
  case distinct =>
    intro id j at_id same
    have pair := each _ (List.mem_of_getElem? at_id)
    simp [Registration.operands, same] at pair
  case unshared =>
    intro id id' operand first second
    obtain ⟨r, at_id, mem⟩ := operates_iff.1 first
    obtain ⟨r', at_id', mem'⟩ := operates_iff.1 second
    obtain ⟨bound, here⟩ := List.getElem?_eq_some_iff.1 at_id
    obtain ⟨bound', here'⟩ := List.getElem?_eq_some_iff.1 at_id'
    rw [List.pairwise_iff_getElem] at between
    rw [← here] at mem
    rw [← here'] at mem'
    rcases Nat.lt_trichotomy id id' with less | same | greater
    · exact absurd mem' (between id id' bound bound' less mem)
    · exact same
    · exact absurd mem (between id' id bound' bound greater mem')
  case unlisted =>
    intro id operand used listed
    obtain ⟨r, at_id, mem⟩ := operates_iff.1 used
    have taken := List.mem_flatMap.2 ⟨r, List.mem_of_getElem? at_id, mem⟩
    exact apart operand taken operand (roots.subset listed) rfl

end Forest

/-! ### Paths -/

/-- A direction at a join. -/
inductive Side where
  | left | right
  deriving DecidableEq, Repr

/-- The operand of a join on a side. -/
def operandAt (j : Join ε) : Side → Nat
  | .left => j.left
  | .right => j.right

/-- The operand on a side of the join at a position. -/
def operand? (c : FromClause ε) (id : Nat) (side : Side) : Option Nat :=
  match c.get? id with
  | some (.join j) => some (operandAt j side)
  | _ => none

/-- The position that a path from a position leads to. -/
def follow? (c : FromClause ε) (id : Nat) (path : List Side) : Option Nat := path.foldlM c.operand? id

section Paths

variable {c : FromClause ε}

theorem operand?_eq_some_iff {id operand : Nat} {side : Side} :
    c.operand? id side = some operand ↔
      ∃ j, c.get? id = some (.join j) ∧ operandAt j side = operand := by
  rw [operand?]
  cases c.get? id with
  | none => simp
  | some r =>
    cases r with
    | scope s => simp
    | join j => simp

/-- A step of a path leads to an operand. -/
theorem operates_of_operand? {id operand : Nat} {side : Side} (h : c.operand? id side = some operand) :
    c.Operates id operand := by
  obtain ⟨j, at_id, rfl⟩ := operand?_eq_some_iff.1 h
  cases side with
  | left => exact ⟨j, at_id, .inl rfl⟩
  | right => exact ⟨j, at_id, .inr rfl⟩

theorem follow?_append_singleton (id : Nat) (path : List Side) (side : Side) :
    c.follow? id (path ++ [side]) = (c.follow? id path).bind fun at_path => c.operand? at_path side := by
  rw [follow?, follow?, List.foldlM_append]
  simp

/-- The last step of a path. -/
theorem follow?_eq_some_iff {id target : Nat} {path : List Side} :
    c.follow? id path = some target ↔ path = [] ∧ id = target ∨
      ∃ init side above, path = init ++ [side] ∧ c.follow? id init = some above ∧
        c.operand? above side = some target := by
  rcases List.eq_nil_or_concat path with rfl | ⟨init, side, rfl⟩
  · simp [follow?]
  · rw [List.concat_eq_append, follow?_append_singleton, Option.bind_eq_some_iff]
    constructor
    · rintro ⟨above, here, step⟩
      exact .inr ⟨init, side, above, rfl, here, step⟩
    · rintro (⟨empty, _⟩ | ⟨init', side', above, same, here, step⟩)
      · simp at empty
      · obtain ⟨rfl, ends⟩ := List.append_inj' same rfl
        rw [List.singleton_inj.1 ends]
        exact ⟨above, here, step⟩

/-- A join that has an operand has it on one side. -/
theorem Forest.side_unique (h : c.Forest) {id operand : Nat} {side side' : Side}
    (first : c.operand? id side = some operand) (second : c.operand? id side' = some operand) :
    side = side' := by
  obtain ⟨j, at_id, here⟩ := operand?_eq_some_iff.1 first
  obtain ⟨j', at_id', here'⟩ := operand?_eq_some_iff.1 second
  rw [at_id] at at_id'
  cases at_id'
  have distinct := h.distinct id j at_id
  cases side with
  | left =>
    cases side' with
    | left => rfl
    | right => exact absurd (here.trans here'.symm) distinct
  | right =>
    cases side' with
    | left => exact absurd (here'.trans here.symm) distinct
    | right => rfl

variable (c) in
/-- Exactly one path from a root leads to a position. -/
def HasPath (id : Nat) : Prop :=
  ∃! path : Nat × List Side, path.1 ∈ c.roots ∧ c.follow? path.1 path.2 = some id

/-- To a root leads the empty path. -/
theorem Forest.hasPath_of_root (h : c.Forest) {id : Nat} (root : id ∈ c.roots) : c.HasPath id := by
  refine ⟨(id, []), ⟨root, rfl⟩, ?_⟩
  rintro ⟨root', path⟩ ⟨_, reached⟩
  rcases follow?_eq_some_iff.1 reached with ⟨same, same'⟩ | ⟨_, _, above, _, _, last⟩
  · exact Prod.ext same' same
  · exact absurd root (h.unlisted above id (operates_of_operand? last))

/-- To an operand leads the path to its join and one step more. -/
theorem Forest.hasPath_of_operates (h : c.Forest) {above id : Nat} (step : c.Operates above id)
    (path : c.HasPath above) : c.HasPath id := by
  obtain ⟨⟨root, path⟩, ⟨listed, reached⟩, unique⟩ := path
  obtain ⟨side, taken⟩ : ∃ side, c.operand? above side = some id := by
    obtain ⟨j, at_above, side⟩ := step
    rcases side with rfl | rfl
    · exact ⟨.left, operand?_eq_some_iff.2 ⟨j, at_above, rfl⟩⟩
    · exact ⟨.right, operand?_eq_some_iff.2 ⟨j, at_above, rfl⟩⟩
  refine ⟨(root, path ++ [side]), ⟨listed, ?_⟩, ?_⟩
  · exact follow?_eq_some_iff.2 (.inr ⟨path, side, above, rfl, reached, taken⟩)
  · rintro ⟨root', path'⟩ ⟨listed', reached'⟩
    rcases follow?_eq_some_iff.1 reached' with ⟨_, same⟩ | ⟨init, side', above', same, start, last⟩
    · exact absurd (same ▸ listed') (h.unlisted above id step)
    · obtain rfl := h.unshared above' above id (operates_of_operand? last) step
      obtain ⟨rfl, rfl⟩ := Prod.mk.inj (unique (root', init) ⟨listed', start⟩)
      rw [← h.side_unique last taken]
      exact Prod.ext rfl same

/-- **One path leads to each position** where all free positions are roots. -/
theorem Postfix.hasPath (h : Postfix c.registrations c.roots) (id : Nat)
    (registered : id < c.registrations.length) : c.HasPath id := by
  have forest := h.forest (List.Sublist.refl _)
  -- a join comes after its operands, so that the induction goes down from the last registration
  obtain ⟨later, bound⟩ : ∃ n, n = c.registrations.length - id := ⟨_, rfl⟩
  induction later using Nat.strongRecOn generalizing id with
  | _ later ih =>
    have used := h.uses_perm.symm.subset (List.mem_range.2 registered)
    rcases List.mem_append.1 used with taken | root
    · obtain ⟨r, mem, operand⟩ := List.mem_flatMap.1 taken
      obtain ⟨above, at_above⟩ := List.mem_iff_getElem?.1 mem
      have step : c.Operates above id := operates_iff.2 ⟨r, at_above, operand⟩
      have earlier := forest.earlier above id step
      have registered' := lt_length_of_get? at_above
      exact forest.hasPath_of_operates step (ih _ (by omega) above registered' rfl)
    · exact forest.hasPath_of_root root

/-- A path goes from joins to operands. -/
theorem reflTransGen_of_follow? {root id : Nat} {path : List Side} (h : c.follow? root path = some id) :
    Relation.ReflTransGen c.Operates root id := by
  induction path generalizing root with
  | nil =>
    cases h
    exact .refl
  | cons side path ih =>
    rw [follow?, List.foldlM_cons] at h
    obtain ⟨below, step, reached⟩ := Option.bind_eq_some_iff.1 h
    exact .head (operates_of_operand? step) (ih reached)

/-- **A from-clause of which every part has a path is well-shaped** when its predicates are. -/
theorem Postfix.wellShaped_iff (h : Postfix c.registrations c.roots) {scalar : ε → Prop} :
    c.WellShaped scalar ↔ ∀ i j, c.get? i = some (.join j) → ∀ p, j.predicate = some p →
      j.kind ≠ .cross ∧ scalar p := by
  have forest := h.forest (.refl _)
  have grounded := h.grounded (.refl _)
  constructor
  · intro shaped i j at_i
    obtain ⟨⟨root, path⟩, ⟨listed, reached⟩, _⟩ := h.hasPath i (lt_length_of_get? at_i)
    exact (shaped root listed i (reflTransGen_of_follow? reached)).predicates j at_i
  · intro predicates root listed id path
    have registered : id < c.registrations.length := by
      induction path with
      | refl => exact grounded.roots root listed
      | tail _ step ih => exact Nat.lt_trans (forest.earlier _ _ step) ih
    have below {above below : Nat} (path : Relation.TransGen c.Operates above below) :
        below < above := by
      induction path with
      | single step => exact forest.earlier _ _ step
      | tail _ step ih => exact Nat.lt_trans (forest.earlier _ _ step) ih
    exact ⟨registered, fun cycle => Nat.lt_irrefl id (below cycle), fun j => predicates id j⟩

/-- A path from a root stays among the registrations. -/
theorem Grounded.lt_length_of_follow? (h : c.Grounded) {root id : Nat} {path : List Side}
    (listed : root ∈ c.roots) (reached : c.follow? root path = some id) :
    id < c.registrations.length := by
  rcases follow?_eq_some_iff.1 reached with ⟨_, rfl⟩ | ⟨init, side, above, _, _, last⟩
  · exact h.roots root listed
  · obtain ⟨j, at_above, rfl⟩ := operand?_eq_some_iff.1 last
    obtain ⟨left, right⟩ := h.operands above j at_above
    have bound := lt_length_of_get? at_above
    cases side with
    | left => exact Nat.lt_trans left bound
    | right => exact Nat.lt_trans right bound

end Paths

/-! ### The items of the trees -/

/-- The trees do not depend on which of them are roots. -/
theorem tree_congr {c c' : FromClause ε} (same : c.registrations = c'.registrations) (id : Nat) :
    c.tree id = c'.tree id := by
  have within (depth : Nat) : ∀ id, c.treeWithin depth id = c'.treeWithin depth id := by
    induction depth with
    | zero =>
      intro id
      rfl
    | succ depth ih =>
      intro id
      rw [treeWithin, treeWithin, get?, get?, same]
      simp only [ih]
  rw [tree, tree, same, within]

/-- **The trees at the free positions hold all registrations, in order.** -/
theorem Postfix.flatMap_items {rs : List (Registration ε)} {free : List Nat} (h : Postfix rs free) :
    free.flatMap (fun id => (FromClause.tree ⟨rs, []⟩ id).items) = rs.map Registration.item := by
  induction h with
  | nil => rfl
  | @scope rs free s earlier ih =>
    have grounded : (⟨rs, []⟩ : FromClause ε).Grounded := earlier.grounded (List.nil_sublist _)
    have old : free.flatMap (fun id => (FromClause.tree ⟨rs ++ [.scope s], []⟩ id).items) =
        free.flatMap fun id => (FromClause.tree ⟨rs, []⟩ id).items :=
      List.flatMap_congr fun id mem =>
        congrArg JoinTree.items (grounded.tree_push (.scope s) (earlier.lt_of_mem mem))
    have at_end : (⟨rs ++ [.scope s], []⟩ : FromClause ε).get? rs.length = some (.scope s) :=
      get?_push_length ⟨rs, []⟩ (.scope s)
    rw [List.flatMap_append, old, ih, List.map_append, List.flatMap_singleton, tree_scope at_end]
    rfl
  | @join rs free j earlier ih =>
    have grounded : (⟨rs, []⟩ : FromClause ε).Grounded := earlier.grounded (List.nil_sublist _)
    have grounded' : (⟨rs ++ [.join j], []⟩ : FromClause ε).Grounded :=
      (Postfix.join j earlier).grounded (List.nil_sublist _)
    have old (id : Nat) (mem : id ∈ free ++ [j.left, j.right]) :
        FromClause.tree ⟨rs ++ [.join j], []⟩ id = FromClause.tree ⟨rs, []⟩ id :=
      grounded.tree_push (.join j) (earlier.lt_of_mem mem)
    have others : free.flatMap (fun id => (FromClause.tree ⟨rs ++ [.join j], []⟩ id).items) =
        free.flatMap fun id => (FromClause.tree ⟨rs, []⟩ id).items :=
      List.flatMap_congr fun id mem => congrArg JoinTree.items (old id (List.mem_append_left _ mem))
    have at_end : (⟨rs ++ [.join j], []⟩ : FromClause ε).get? rs.length = some (.join j) :=
      get?_push_length ⟨rs, []⟩ (.join j)
    rw [List.flatMap_append, others, List.map_append, ← ih, List.flatMap_append,
      List.flatMap_singleton, grounded'.tree_join at_end, old j.left (by simp),
      old j.right (by simp)]
    simp [JoinTree.items, Registration.item]

end FromClause

end SqlBuilder
