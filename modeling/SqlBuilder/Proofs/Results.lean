import Mathlib.Data.List.Forall2

/-!
# Computations that may fail

When a sequence and a traversal of computations succeed, and with what result; with which errors they
fail; and what two such computations have in common when their parts do.

* `Except.bind_eq_ok_iff`, `Except.mapM_eq_ok_iff` : success of a sequence and of a traversal;
* `Except.FailsOnly E` : no error outside `E`, with `FailsOnly.bind` and `FailsOnly.mapM`;
* `Except.Related R` : the same error, or results in the relation `R`, with `Related.bind` and
  `Related.mapM` for sequences and traversals.
-/

namespace SqlBuilder

/-- A computation after another succeeds exactly when both do. -/
theorem Except.bind_eq_ok_iff {ε α β : Type} {x : Except ε α} {f : α → Except ε β} {b : β} :
    (x >>= f) = .ok b ↔ ∃ a, x = .ok a ∧ f a = .ok b := by
  cases x with
  | error e => simp [bind, Except.bind]
  | ok a => simp [bind, Except.bind]

/-- A traversal succeeds exactly when it succeeds on every member. -/
theorem Except.mapM_eq_ok_iff {ε α β : Type} {f : α → Except ε β} {as : List α} {bs : List β} :
    as.mapM f = .ok bs ↔ List.Forall₂ (fun a b => f a = .ok b) as bs := by
  induction as generalizing bs with
  | nil =>
    rw [List.mapM_nil, List.forall₂_nil_left_iff]
    constructor
    · intro h
      cases h
      rfl
    · rintro rfl
      rfl
  | cons a as ih =>
    rw [List.mapM_cons, bind_eq_ok_iff, List.forall₂_cons_left_iff]
    constructor
    · rintro ⟨b, hb, h⟩
      obtain ⟨bs', hbs, e⟩ := bind_eq_ok_iff.1 h
      cases e
      exact ⟨b, bs', hb, ih.1 hbs, rfl⟩
    · rintro ⟨b, bs', hb, hbs, rfl⟩
      exact ⟨b, hb, bind_eq_ok_iff.2 ⟨bs', ih.2 hbs, rfl⟩⟩

/-! ### Errors -/

/-- A computation that has no error outside a class. -/
def Except.FailsOnly {ε α : Type} (E : ε → Prop) (x : Except ε α) : Prop :=
  ∀ e, x = .error e → E e

namespace Except.FailsOnly

variable {ε α β : Type} {E : ε → Prop}

theorem ok (a : α) : FailsOnly E (.ok a) := by
  intro e failed
  cases failed

theorem error {e : ε} (h : E e) : FailsOnly E (.error e : Except ε α) := by
  intro e' failed
  cases failed
  exact h

/-- A computation after another. -/
theorem bind {x : Except ε α} {f : α → Except ε β} (h : FailsOnly E x)
    (next : ∀ a, FailsOnly E (f a)) : FailsOnly E (x >>= f) := by
  cases x with
  | error e => exact error (h e rfl)
  | ok a => exact next a

/-- A traversal. -/
theorem mapM {f : α → Except ε β} {as : List α} (h : ∀ a ∈ as, FailsOnly E (f a)) :
    FailsOnly E (as.mapM f) := by
  induction as with
  | nil =>
    rw [List.mapM_nil]
    exact ok []
  | cons a as ih =>
    obtain ⟨first, rest⟩ := List.forall_mem_cons.1 h
    rw [List.mapM_cons]
    exact first.bind fun b => (ih rest).bind fun bs => ok (b :: bs)

/-- A computation with no error at all succeeds. -/
theorem exists_ok {x : Except ε α} (h : FailsOnly (fun _ => False) x) : ∃ a, x = .ok a := by
  cases x with
  | error e => exact (h e rfl).elim
  | ok a => exact ⟨a, rfl⟩

end Except.FailsOnly

/-! ### Two computations -/

/-- Two computations that end in the same error or in results that are related. -/
inductive Except.Related {ε α β : Type} (R : α → β → Prop) : Except ε α → Except ε β → Prop where
  | error (e : ε) : Related R (.error e) (.error e)
  | ok {a : α} {b : β} : R a b → Related R (.ok a) (.ok b)

namespace Except.Related

variable {ε α β γ δ : Type} {R : α → β → Prop} {S : γ → δ → Prop}

/-- A computation and itself. -/
theorem refl (x : Except ε α) : Related Eq x x := by
  cases x with
  | error e => exact .error e
  | ok a => exact .ok rfl

theorem mono {S : α → β → Prop} {x : Except ε α} {y : Except ε β} (h : Related R x y)
    (weaker : ∀ a b, R a b → S a b) : Related S x y := by
  cases h with
  | error e => exact .error e
  | ok r => exact .ok (weaker _ _ r)

/-- Results that are related, with the computations they come from. -/
theorem traced {x : Except ε α} {y : Except ε β} (h : Related R x y) :
    Related (fun a b => R a b ∧ x = .ok a ∧ y = .ok b) x y := by
  cases h with
  | error e => exact .error e
  | ok r => exact .ok ⟨r, rfl, rfl⟩

/-- Related computations, each followed by one that keeps the relation. -/
theorem bind {x : Except ε α} {y : Except ε β} {f : α → Except ε γ} {g : β → Except ε δ}
    (h : Related R x y) (next : ∀ a b, R a b → Related S (f a) (g b)) :
    Related S (x >>= f) (y >>= g) := by
  cases h with
  | error e => exact .error e
  | ok r => exact next _ _ r

/-- Traversals that are related member by member. -/
theorem mapM {f : α → Except ε γ} {g : β → Except ε δ} {as : List α} {bs : List β}
    (h : List.Forall₂ (fun a b => Related S (f a) (g b)) as bs) :
    Related (List.Forall₂ S) (as.mapM f) (bs.mapM g) := by
  induction h with
  | nil =>
    rw [List.mapM_nil, List.mapM_nil]
    exact .ok .nil
  | cons first rest ih =>
    rw [List.mapM_cons, List.mapM_cons]
    apply first.bind
    intro c d here
    apply ih.bind
    intro cs ds later
    exact .ok (.cons here later)

end Except.Related

end SqlBuilder
