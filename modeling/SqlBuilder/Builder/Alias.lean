import SqlBuilder.Text.Numeral

/-!
# Aliases

Every table brought into a statement or into one of its sub-queries gets a number and an alias that
nothing else in the statement has.  The names tried for a table are the table's own name and then
that name followed by 2, 3, 4 and so on.

* `AliasBook.candidate` : the names tried for a table;
* `AliasBook.firstFree` : the first number from a given one on whose name is free;
* `AliasBook.allocate` : handing out a number and an alias;
* `AliasBook.candidate_injective` : the names tried for one table are all different;
* `AliasBook.candidate_firstFree_not_mem` : the name found is free.
-/

namespace SqlBuilder

/-- What has been handed out so far. -/
structure AliasBook where
  /-- The number the next table gets. -/
  nextScope : Nat
  /-- For each table the last number whose name was taken or tried, newest entry first. -/
  lastTried : List (String × Nat)
  /-- Every alias handed out, for whatever table. -/
  issued : List String
  deriving DecidableEq, Repr

namespace AliasBook

/-- The book in which nothing is written. -/
def empty : AliasBook := ⟨0, [], []⟩

/-- The `n`-th name tried for a table, counted from one. -/
def candidate (table : String) (n : Nat) : String :=
  if n = 1 then table else String.ofList (table.toList ++ Text.decimal n)

/-- The first number from `start` on whose name is not among the issued ones.  There are more numbers
in the range searched than issued names, so one of them is free. -/
def firstFree (issued : List String) (table : String) (start : Nat) : Nat :=
  ((List.range' start (issued.length + 1)).find? fun n => !issued.contains (candidate table n)).getD
    start

/-- The last number tried for a table, zero for a table not seen before. -/
def tried (b : AliasBook) (table : String) : Nat := (b.lastTried.lookup table).getD 0

/-- Hands out the next number and the first free name after those tried for the table. -/
def allocate (b : AliasBook) (table : String) : Nat × String × AliasBook :=
  let n := firstFree b.issued table (b.tried table + 1)
  let name := candidate table n
  (b.nextScope, name, ⟨b.nextScope + 1, (table, n) :: b.lastTried, name :: b.issued⟩)

/-! ### The name found is free -/

/-- Different numbers give different names. -/
theorem candidate_injective {table : String} {m n : Nat} (h : candidate table m = candidate table n) :
    m = n := by
  have lists := congrArg String.toList h
  unfold candidate at lists
  split at lists <;> split at lists
  · omega
  · rw [String.toList_ofList] at lists
    exact absurd (List.append_right_eq_self.1 lists.symm) (Text.decimal_ne_nil n)
  · rw [String.toList_ofList] at lists
    exact absurd (List.append_right_eq_self.1 lists) (Text.decimal_ne_nil m)
  · rw [String.toList_ofList, String.toList_ofList] at lists
    exact Text.decimal_injective (List.append_cancel_left lists)

/-- A list that holds the names of `count` consecutive numbers is at least that long. -/
theorem count_le_length_of_issued (table : String) (count : Nat) :
    ∀ (issued : List String) (start : Nat),
      (∀ n ∈ List.range' start count, candidate table n ∈ issued) → count ≤ issued.length := by
  induction count with
  | zero => intros; omega
  | succ count ih =>
    intro issued start h
    have first : candidate table start ∈ issued := h start (by simp)
    have later := ih (issued.erase (candidate table start)) (start + 1) fun n hn => by
      have bounds := List.mem_range'_1.1 hn
      refine (List.mem_erase_of_ne fun e => ?_).2 (h n (List.mem_range'_1.2 ⟨by omega, by omega⟩))
      have := candidate_injective e
      omega
    rw [List.length_erase_of_mem first] at later
    have := List.length_pos_of_mem first
    omega

/-- The name found is free. -/
theorem candidate_firstFree_not_mem (issued : List String) (table : String) (start : Nat) :
    candidate table (firstFree issued table start) ∉ issued := by
  unfold firstFree
  cases found : (List.range' start (issued.length + 1)).find?
      fun n => !issued.contains (candidate table n) with
  | some n => simpa using List.find?_some found
  | none =>
    have all := List.find?_eq_none.1 found
    have := count_le_length_of_issued table (issued.length + 1) issued start fun n hn => by
      simpa using all n hn
    omega

end AliasBook

end SqlBuilder
