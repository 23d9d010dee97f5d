import Mathlib.Logic.Relation
import SqlBuilder.Proofs.BuilderChange

/-!
# Sessions

The run of a body is one function call, and what happens inside it leaves no trace but its result.
A session makes the moments in between visible: it is a builder at work together with the isolated
fragments that have begun and not ended yet.

* `Session` : a builder and the fragments around it, `Session.frameStart` the number of
  registrations that the innermost of them found;
* `Session.Move` : any call, the begin of an isolated fragment, or the end of one;
* `Session.Reaches` : any number of moves.  A fragment may end at any moment, so that errors which
  end it are covered, and after its end anything may follow, so that errors which are caught are too;
* `Operand.register_preserves`, `Shape.introduce_preserves` : what every table, every join and every
  root preserves is preserved by whole shapes.
-/

namespace SqlBuilder

/-- A builder at work. -/
structure Session where
  builder : Builder
  /-- The isolated fragments that still run, the innermost first, each by the builder it found. -/
  frames : List Builder

namespace Session

/-- Nothing was called yet.  A sub-query starts with the aliases of the statement around it. -/
def opening (kind : StatementKind) (aliases : AliasBook) : Session := ⟨.startWith kind aliases, []⟩

/-- How many registrations there were when the innermost running fragment began. -/
def frameStart (m : Session) : Nat := (m.frames.head?.map Builder.nextId).getD 0

/-- One move of a session. -/
inductive Move : Session → Session → Prop where
  /-- Any call with any arguments, whether it succeeds or fails. -/
  | call {b : Builder} {frames : List Builder} (s : Step) (env : Env) {o : Outcome} :
      s.run b env = .ok o → Move ⟨b, frames⟩ ⟨o.builder, frames⟩
  /-- An isolated fragment begins. -/
  | enter (b : Builder) (frames : List Builder) : Move ⟨b, frames⟩ ⟨b.sheltered, b :: frames⟩
  /-- The innermost isolated fragment ends, by itself or by an error. -/
  | leave (b outer : Builder) (frames : List Builder) :
      Move ⟨b, outer :: frames⟩ ⟨b.reunited outer, frames⟩

/-- Moves lead from one session to another. -/
def Reaches : Session → Session → Prop := Relation.ReflTransGen Move

/-- A body that is run moves the session on, call by call. -/
theorem reaches_runAll (frames : List Builder) : ∀ (body : List Step) (b : Builder) (env : Env)
    (o : Outcome), runAll body b env = .ok o → Reaches ⟨b, frames⟩ ⟨o.builder, frames⟩ := by
  intro body
  induction body with
  | nil =>
    intro b env o h
    rw [runAll] at h
    cases h
    exact .refl
  | cons s body ih =>
    intro b env o h
    rw [runAll] at h
    obtain ⟨o₁, ran₁, h⟩ := Except.bind_eq_ok_iff.1 h
    have first : Reaches ⟨b, frames⟩ ⟨o₁.builder, frames⟩ := .single (.call s env ran₁)
    cases ended : o₁.failure with
    | some e =>
      simp only [ended] at h
      cases h
      exact first
    | none =>
      simp only [ended] at h
      obtain ⟨o₂, ran₂, e⟩ := Except.bind_eq_ok_iff.1 h
      cases e
      exact first.trans (ih _ _ o₂ ran₂)

end Session

/-! ### Shapes, one registration after the other -/

section Preservation

variable {τ : Type} {P : Builder → Prop}

/-- What every table and every join preserves is preserved by a whole operand. -/
theorem Operand.register_preserves (table : ∀ b e nullable, P b → P (b.introduce e nullable))
    (join : ∀ b kind left right, P b → P (b.registerJoin kind left right)) (o : Operand τ) :
    ∀ b, P b → P (o.register b).builder := by
  induction o with
  | table e tag =>
    intro b h
    exact table b e false h
  | nullable e tag =>
    intro b h
    exact table b e true h
  | join kind l r ihl ihr =>
    intro b h
    exact join _ kind _ _ (ihr _ (ihl b h))

/-- What every table, every join and every root preserves is preserved by a whole shape. -/
theorem Shape.introduce_preserves (table : ∀ b e nullable, P b → P (b.introduce e nullable))
    (join : ∀ b kind left right, P b → P (b.registerJoin kind left right))
    (root : ∀ b id, P b → P (b.addRoot id)) (s : Shape τ) :
    ∀ b, P b → P (s.introduce b).1 := by
  have all : ∀ (os : List (Operand τ)) (b : Builder), P b → P (introduceAll os b).1 := by
    intro os
    induction os with
    | nil =>
      intro b h
      exact h
    | cons o os ih =>
      intro b h
      exact ih _ (root _ _ (o.register_preserves table join b h))
  exact all s.operands

end Preservation

end SqlBuilder
