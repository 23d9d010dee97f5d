import Mathlib.Order.Bounds.Basic
import SqlBuilder.Builder.Alias

/-!
# The search for a free alias

The book of aliases remembers for each table the last number that was tried, and the search for the
next alias goes on from there.  It ends, and it ends where a search from the first number on would
have ended: every name up to the remembered number is taken, possibly by another table.

* `AliasBook.Search` : the runs of the search as a loop without a bound, with `search_iff` for where
  they end;
* `AliasBook.isLeast_firstFree` : the search from the start ends at the least free number;
* `AliasBook.allocateAll` : aliases for tables, one after the other;
* `AliasBook.Covered` : the names up to the remembered numbers are taken, with `Covered.allocate`
  for one alias and `Covered.allocateAll` for any number of them;
* **`AliasBook.allocate_first_candidate`** : the alias that any table gets after any others.
-/

namespace SqlBuilder.AliasBook

/-! ### The loop -/

/-- A run of the search as a loop.  Numbers are tried one after the other, from the one after `last`
on, and the run ends with a number whose name is not among the issued ones. -/
inductive Search (issued : List String) (table : String) : Nat → Nat → Prop where
  | free {last : Nat} (h : candidate table (last + 1) ∉ issued) :
      Search issued table last (last + 1)
  | taken {last n : Nat} (h : candidate table (last + 1) ∈ issued)
      (later : Search issued table (last + 1) n) : Search issued table last n

section Search

variable {issued : List String} {table : String}

/-- A run ends with a free number, and those tried before it are taken. -/
theorem Search.first {last n : Nat} (run : Search issued table last n) :
    last < n ∧ candidate table n ∉ issued ∧
      ∀ m, last < m → m < n → candidate table m ∈ issued := by
  induction run with
  | free h => exact ⟨by omega, h, fun m low high => by omega⟩
  | @taken last n h later ih =>
    obtain ⟨low', free, taken⟩ := ih
    refine ⟨by omega, free, fun m low high => ?_⟩
    rcases Nat.eq_or_lt_of_le low with rfl | beyond
    · exact h
    · exact taken m beyond high

/-- There is a run to a free number if all numbers that are tried before it are taken. -/
theorem search_of_first {last n : Nat} (later : last < n) (free : candidate table n ∉ issued)
    (taken : ∀ m, last < m → m < n → candidate table m ∈ issued) :
    Search issued table last n := by
  -- The induction is on the numbers that are left to try.
  obtain ⟨left, rfl⟩ : ∃ left, n = last + 1 + left := ⟨n - (last + 1), by omega⟩
  induction left generalizing last with
  | zero => exact .free free
  | succ left ih =>
    have next : last + 1 + (left + 1) = last + 1 + 1 + left := by omega
    refine .taken (taken (last + 1) (by omega) (by omega)) ?_
    rw [next] at free ⊢
    exact ih (by omega) free fun m low high => taken m (by omega) (by omega)

/-- The bounded search does not pass a free number, nor does it go back. -/
theorem firstFree_spec (issued : List String) (table : String) (start : Nat) :
    start ≤ firstFree issued table start ∧
      ∀ m, start ≤ m → m < firstFree issued table start → candidate table m ∈ issued := by
  rw [firstFree]
  cases found : (List.range' start (issued.length + 1)).find?
      fun n => !issued.contains (candidate table n) with
  | none => exact ⟨Nat.le_refl _, fun m low high => absurd low (Nat.not_le_of_lt high)⟩
  | some n =>
    obtain ⟨_, range, before⟩ := List.find?_range'_eq_some.1 found
    refine ⟨(List.mem_range'_1.1 range).1, fun m low high => ?_⟩
    simpa using before m low high

/-- A number that is free is not passed by any search that comes to it. -/
theorem firstFree_le {start m : Nat} (low : start ≤ m) (free : candidate table m ∉ issued) :
    firstFree issued table start ≤ m :=
  Nat.le_of_not_lt fun high => free ((firstFree_spec issued table start).2 m low high)

/-- The search from the start ends at the least free number. -/
theorem isLeast_firstFree (issued : List String) (table : String) :
    IsLeast {m | 1 ≤ m ∧ candidate table m ∉ issued} (firstFree issued table 1) := by
  refine ⟨⟨(firstFree_spec issued table 1).1, candidate_firstFree_not_mem issued table 1⟩, ?_⟩
  rintro m ⟨low, free⟩
  exact firstFree_le low free

/-- The search from the start passes taken names only, of which there are as many as issued. -/
theorem firstFree_one_le (issued : List String) (table : String) :
    firstFree issued table 1 ≤ issued.length + 1 := by
  obtain ⟨_, taken⟩ := firstFree_spec issued table 1
  have passed : ∀ m ∈ List.range' 1 (firstFree issued table 1 - 1), candidate table m ∈ issued := by
    intro m mem
    have range := List.mem_range'_1.1 mem
    exact taken m range.1 (by omega)
  have count := count_le_length_of_issued table _ issued 1 passed
  omega

/-- The loop ends, and it ends where the bounded search ends and nowhere else. -/
theorem search_iff {last n : Nat} :
    Search issued table last n ↔ n = firstFree issued table (last + 1) := by
  have free := candidate_firstFree_not_mem issued table (last + 1)
  constructor
  · intro run
    obtain ⟨later, free', taken⟩ := run.first
    refine Nat.le_antisymm (Nat.le_of_not_lt fun passed => free ?_) (firstFree_le later free')
    exact taken _ (firstFree_spec issued table (last + 1)).1 passed
  · rintro rfl
    obtain ⟨later, taken⟩ := firstFree_spec issued table (last + 1)
    exact search_of_first later free taken

/-- The issued names matter to the search, not their order. -/
theorem firstFree_congr {names : List String} (same : ∀ name, name ∈ issued ↔ name ∈ names) :
    firstFree issued table 1 = firstFree names table 1 := by
  have least := isLeast_firstFree issued table
  simp only [same] at least
  exact least.unique (isLeast_firstFree names table)

end Search

/-! ### Books that aliases were handed out from -/

/-- Aliases for tables, one after the other: the aliases, and the book after them. -/
def allocateAll (b : AliasBook) : List String → List String × AliasBook
  | [] => ([], b)
  | table :: tables =>
    let first := b.allocate table
    let rest := first.2.2.allocateAll tables
    (first.2.1 :: rest.1, rest.2)

theorem length_allocateAll (tables : List String) (b : AliasBook) :
    (b.allocateAll tables).1.length = tables.length := by
  induction tables generalizing b with
  | nil => rfl
  | cons table tables ih => rw [allocateAll, List.length_cons, ih, List.length_cons]

/-- The names that a book gets are the ones handed out. -/
theorem issued_allocateAll (tables : List String) (b : AliasBook) :
    (b.allocateAll tables).2.issued = (b.allocateAll tables).1.reverse ++ b.issued := by
  induction tables generalizing b with
  | nil => rfl
  | cons table tables ih =>
    rw [allocateAll, ih, List.reverse_cons, List.append_assoc]
    rfl

/-- The number of the new alias is remembered for its table, and for the others what was before. -/
theorem tried_allocate (b : AliasBook) (table other : String) :
    (b.allocate table).2.2.tried other =
      if other = table then firstFree b.issued table (b.tried table + 1) else b.tried other := by
  show (((table, _) :: b.lastTried).lookup other).getD 0 = _
  rw [List.lookup_cons]
  by_cases same : other = table
  · rw [if_pos same, beq_iff_eq.2 same]
    rfl
  · rw [if_neg same, beq_eq_false_iff_ne.2 same]
    rfl

/-- Every name up to the number that is remembered for a table is taken. -/
def Covered (b : AliasBook) : Prop :=
  ∀ table m, 1 ≤ m → m ≤ b.tried table → candidate table m ∈ b.issued

namespace Covered

theorem empty : Covered empty := by
  intro table m low high
  exact absurd (Nat.le_trans low high) (Nat.not_succ_le_zero 0)

/-- One more alias. -/
theorem allocate {b : AliasBook} (h : b.Covered) (table : String) :
    (b.allocate table).2.2.Covered := by
  intro other m low high
  obtain ⟨_, passed⟩ := firstFree_spec b.issued table (b.tried table + 1)
  show candidate other m ∈ candidate table (firstFree b.issued table _) :: b.issued
  rw [tried_allocate] at high
  split at high
  case isFalse => exact List.mem_cons_of_mem _ (h other m low high)
  case isTrue same =>
    subst same
    -- A number is one of those covered before, one that the search has passed, or the new one.
    rcases Nat.lt_or_ge (b.tried other) m with tried | covered
    · rcases Nat.lt_or_eq_of_le high with lower | rfl
      · exact List.mem_cons_of_mem _ (passed m tried lower)
      · exact List.mem_cons_self
    · exact List.mem_cons_of_mem _ (h other m low covered)

/-- Any number of aliases. -/
theorem allocateAll (tables : List String) {b : AliasBook} (h : b.Covered) :
    (b.allocateAll tables).2.Covered := by
  induction tables generalizing b with
  | nil => exact h
  | cons table tables ih => exact ih (h.allocate table)

/-- The remembered number is only a shortcut: the search from the start ends at the same number. -/
theorem firstFree_eq {b : AliasBook} (h : b.Covered) (table : String) :
    firstFree b.issued table (b.tried table + 1) = firstFree b.issued table 1 := by
  have free := candidate_firstFree_not_mem b.issued table 1
  have first := (firstFree_spec b.issued table 1).1
  have later := (firstFree_spec b.issued table (b.tried table + 1)).1
  have beyond : b.tried table < firstFree b.issued table 1 :=
    Nat.lt_of_not_le fun covered => free (h table _ first covered)
  exact Nat.le_antisymm (firstFree_le beyond free)
    (firstFree_le (by omega) (candidate_firstFree_not_mem b.issued table _))

end Covered

/-! ### The next alias -/

/-- **The alias that a table gets after any others** is the first of its names that was not handed
out, to whatever table.  The search for it ends, whether it goes on from the remembered number or
starts anew with nothing but the names handed out, and it does not get beyond the number of tables
by more than one. -/
theorem allocate_first_candidate (tables : List String) (table : String) :
    let names := (empty.allocateAll tables).1
    let book := (empty.allocateAll tables).2
    ∃ n, (book.allocate table).2.1 = candidate table n ∧
      IsLeast {m | 1 ≤ m ∧ candidate table m ∉ names} n ∧ n ≤ tables.length + 1 ∧
      (∀ m, Search book.issued table (book.tried table) m ↔ m = n) ∧
      ∀ m, Search names table 0 m ↔ m = n := by
  intro names book
  have covered : book.Covered := Covered.empty.allocateAll tables
  have issued : book.issued = names.reverse := by
    rw [issued_allocateAll]
    exact List.append_nil _
  have known (name : String) : name ∈ book.issued ↔ name ∈ names := by
    rw [issued, List.mem_reverse]
  have shortcut : firstFree book.issued table (book.tried table + 1) = firstFree names table 1 := by
    rw [covered.firstFree_eq, firstFree_congr known]
  refine ⟨firstFree names table 1, ?name, isLeast_firstFree names table, ?bound, ?goesOn, ?anew⟩
  case name =>
    rw [← shortcut]
    rfl
  case bound =>
    rw [← length_allocateAll tables empty]
    exact firstFree_one_le names table
  case goesOn =>
    intro m
    rw [search_iff, shortcut]
  case anew =>
    intro m
    rw [search_iff]

/-- A table named like the second alias of another takes that name, and the other skips it. -/
example : (empty.allocateAll ["node", "node2", "node", "node2"]).1 =
    ["node", "node2", "node3", "node22"] := by decide +kernel

end SqlBuilder.AliasBook
