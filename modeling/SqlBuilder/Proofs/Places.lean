import SqlBuilder.Statement.JoinTree

/-!
# Places

Where an expression stands in a statement, and where an operand stands in a node.

* `Statement.Place`, `Statement.at?` : the places of a statement, clause by clause;
* `Node.Place`, `Node.at?` : those of a node, a statement embedded in it included;
* `Statement.mem_children` : every expression of a statement stands in one of its clauses;
* `Statement.exists_at?`, `Node.exists_at?` : so each has a place, and so has each operand of a node.
-/

namespace SqlBuilder

/-- A place of a statement in which an expression may stand, counted within its clause. -/
inductive Statement.Place where
  | column (i : Nat)
  /-- The predicate of the join that is registered at a position. -/
  | predicate (id : Nat)
  | filter (i : Nat)
  | grouping (i : Nat)
  | having (i : Nat)
  | ordering (i : Nat)
  | target (i : Nat)
  | assigned (i : Nat)

/-- What stands in a place of a statement. -/
def Statement.at? {ε : Type} (q : Statement ε) : Statement.Place → Option ε
  | .column i => q.columns[i]?
  | .predicate id => (q.source.get? id).bind fun
    | .scope _ => none
    | .join j => j.predicate
  | .filter i => q.filters[i]?
  | .grouping i => q.grouping[i]?
  | .having i => q.having[i]?
  | .ordering i => q.ordering[i]?.map OrderTerm.expr
  | .target i => q.assignments[i]?.map Assignment.target
  | .assigned i => q.assignments[i]?.map Assignment.value

/-- A place of a node: that of an operand, or one of the statement embedded in it. -/
inductive Node.Place where
  | operand (i : Nat)
  | within (p : Statement.Place)

/-- What stands in a place of a node. -/
def Node.at? {ε : Type} : Node ε → Node.Place → Option ε
  | .subquery q, .within p | .existence q _, .within p => q.at? p
  | .subquery _, .operand _ | .existence _ _, .operand _ => none
  | n, .operand i => n.children[i]?
  | _, .within _ => none

/-! ### What stands in a place is part of the node -/

/-- Every expression of a statement stands in one of its clauses. -/
theorem Statement.mem_children {ε : Type} {q : Statement ε} {e : ε} :
    e ∈ q.children ↔ e ∈ q.columns ∨ (∃ r ∈ q.source.registrations, e ∈ r.children) ∨
      e ∈ q.filters ∨ e ∈ q.grouping ∨ e ∈ q.having ∨ (∃ t ∈ q.ordering, t.expr = e) ∨
      ∃ a ∈ q.assignments, e = a.target ∨ e = a.value := by
  simp only [Statement.children, List.mem_append, List.mem_flatMap, List.mem_map, List.mem_cons,
    List.not_mem_nil, or_false, or_assoc]

theorem Statement.mem_children_of_at? {ε : Type} {q : Statement ε} {p : Statement.Place} {e : ε}
    (h : q.at? p = some e) : e ∈ q.children := by
  rw [Statement.mem_children]
  cases p with
  | column i => exact Or.inl (List.mem_of_getElem? h)
  | predicate id =>
    obtain ⟨r, at_id, predicate⟩ := Option.bind_eq_some_iff.1 h
    refine Or.inr (Or.inl ⟨r, List.mem_of_getElem? at_id, ?_⟩)
    cases r with
    | scope s => cases predicate
    | join j => exact Option.mem_toList.2 predicate
  | filter i =>
    have mem := List.mem_of_getElem? h
    simp [mem]
  | grouping i =>
    have mem := List.mem_of_getElem? h
    simp [mem]
  | having i =>
    have mem := List.mem_of_getElem? h
    simp [mem]
  | ordering i =>
    obtain ⟨t, at_i, expr⟩ := Option.map_eq_some_iff.1 h
    have mem : ∃ t ∈ q.ordering, t.expr = e := ⟨t, List.mem_of_getElem? at_i, expr⟩
    simp only [mem, true_or, or_true]
  | target i =>
    obtain ⟨a, at_i, rfl⟩ := Option.map_eq_some_iff.1 h
    have mem : ∃ a' ∈ q.assignments, a.target = a'.target ∨ a.target = a'.value :=
      ⟨a, List.mem_of_getElem? at_i, Or.inl rfl⟩
    simp only [mem, or_true]
  | assigned i =>
    obtain ⟨a, at_i, rfl⟩ := Option.map_eq_some_iff.1 h
    have mem : ∃ a' ∈ q.assignments, a.value = a'.target ∨ a.value = a'.value :=
      ⟨a, List.mem_of_getElem? at_i, Or.inr rfl⟩
    simp only [mem, or_true]

/-- Every expression of a statement has a place. -/
theorem Statement.exists_at? {ε : Type} {q : Statement ε} {e : ε} (h : e ∈ q.children) :
    ∃ p, q.at? p = some e := by
  have position {α : Type} {as : List α} {a : α} (mem : a ∈ as) : ∃ i : Nat, as[i]? = some a :=
    List.mem_iff_getElem?.1 mem
  rw [Statement.mem_children] at h
  rcases h with column | ⟨r, registered, child⟩ | filter | group | having_ | ⟨t, listed, rfl⟩ |
    ⟨a, listed, same⟩
  · obtain ⟨i, at_i⟩ := position column
    exact ⟨.column i, at_i⟩
  · obtain ⟨i, at_i⟩ := position registered
    cases r with
    | scope s => cases child
    | join j => exact ⟨.predicate i, Option.bind_eq_some_iff.2 ⟨_, at_i, Option.mem_toList.1 child⟩⟩
  · obtain ⟨i, at_i⟩ := position filter
    exact ⟨.filter i, at_i⟩
  · obtain ⟨i, at_i⟩ := position group
    exact ⟨.grouping i, at_i⟩
  · obtain ⟨i, at_i⟩ := position having_
    exact ⟨.having i, at_i⟩
  · obtain ⟨i, at_i⟩ := position listed
    exact ⟨.ordering i, Option.map_eq_some_iff.2 ⟨t, at_i, rfl⟩⟩
  · obtain ⟨i, at_i⟩ := position listed
    rcases same with rfl | rfl
    · exact ⟨.target i, Option.map_eq_some_iff.2 ⟨a, at_i, rfl⟩⟩
    · exact ⟨.assigned i, Option.map_eq_some_iff.2 ⟨a, at_i, rfl⟩⟩

/-- Every operand of a node has a place. -/
theorem Node.exists_at? {ε : Type} {n : Node ε} {e : ε} (h : e ∈ n.children) :
    ∃ p, n.at? p = some e := by
  cases n with
  | subquery q | existence q negated =>
    obtain ⟨p, at_p⟩ := Statement.exists_at? h
    exact ⟨.within p, at_p⟩
  | _ =>
    obtain ⟨i, at_i⟩ := List.mem_iff_getElem?.1 h
    exact ⟨.operand i, at_i⟩

theorem Node.mem_children_of_at? {ε : Type} {n : Node ε} {p : Node.Place} {e : ε}
    (h : n.at? p = some e) : e ∈ n.children := by
  cases n with
  | subquery q | existence q negated =>
    cases p with
    | operand i => cases h
    | within p => exact Statement.mem_children_of_at? h
  | _ =>
    cases p with
    | operand i => exact List.mem_of_getElem? h
    | within p => cases h

end SqlBuilder
