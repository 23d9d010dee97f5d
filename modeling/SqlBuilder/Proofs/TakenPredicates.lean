import Mathlib.Data.List.Nodup
import SqlBuilder.Proofs.PendingJoins

/-!
# Where predicates come from

The transcript of a run names the join that took each ON predicate.  Where the stack of waiting joins
is exact it names every join at most once, and the joins it names are exactly those that have a
predicate after the run and had none before.

* `Entry.taken`, `takenAll` : the positions that a transcript names, in the order of the ON calls;
* `Builder.HasPredicate b i` : a join with a predicate stands at the position `i`;
* `Builder.Takes start b taken b'` : from `b` to `b'` the joins `taken`, registered since `start`, get
  their predicates;
* **`runAll_takes`** : runs give predicates to the joins that their transcripts name.
-/

namespace SqlBuilder

/-! ### The positions of a transcript -/

mutual

/-- The positions that an entry names as those that took an ON predicate.  Those of sub-queries count
in another builder and are left out. -/
def Entry.taken : Entry → List Nat
  | .entry event _ _ => eventTaken event

def eventTaken : Event Entry → List Nat
  | .attached i => i.toList
  | .inPlace entries | .isolated entries => takenAll entries
  | .both first second => takenAll first ++ takenAll second
  | .introduced _ _ _ | .registered _ _ | .defined _ _ | .listed _ | .clause _ | .assigned _ _
  | .subquery _ _ | .dumped _ => []

/-- The positions that a transcript names. -/
def takenAll : List Entry → List Nat
  | [] => []
  | e :: es => e.taken ++ takenAll es

end

theorem takenAll_append (es fs : List Entry) : takenAll (es ++ fs) = takenAll es ++ takenAll fs := by
  induction es with
  | nil => rfl
  | cons e es ih => rw [List.cons_append, takenAll, ih, takenAll, List.append_assoc]

/-- A transcript of one entry names what its event names. -/
theorem takenAll_single (event : Event Entry) (waiting : Nat) (failure : Option AttachError) :
    takenAll [.entry event waiting failure] = eventTaken event := by
  rw [takenAll, takenAll, Entry.taken, List.append_nil]

theorem eventTaken_of_isQuiet {event : Event Entry} (quiet : event.isQuiet = true) :
    eventTaken event = [] := by
  cases event with
  | attached i =>
    cases i with
    | none => rfl
    | some i => cases quiet
  | defined | listed | clause | assigned | dumped => rfl
  | introduced | registered | inPlace | isolated | both | subquery => cases quiet

/-! ### Joins that have a predicate -/

namespace Builder

/-- A join with a predicate stands at a position. -/
def HasPredicate (b : Builder) (i : Nat) : Prop :=
  ∃ j : Join Expr, b.registration? i = some (.join j) ∧ j.predicate.isSome = true

/-- A position that waits has no predicate. -/
theorem WaitsFrom.not_hasPredicate {b : Builder} {start i : Nat} (h : b.WaitsFrom start i) :
    ¬ b.HasPredicate i := by
  obtain ⟨_, j, at_i, waits⟩ := h
  rintro ⟨j', at_i', has⟩
  rw [at_i] at at_i'
  cases at_i'
  rw [waits] at has
  cases has

theorem hasPredicate_congr {b b' : Builder} {i : Nat}
    (same : b'.registration? i = b.registration? i) : b'.HasPredicate i ↔ b.HasPredicate i := by
  rw [HasPredicate, HasPredicate, same]

/-- A registration that is no join with a predicate. -/
theorem hasPredicate_register {b : Builder} {r : Registration Expr}
    (bare : ∀ j, r = .join j → j.predicate = none) (i : Nat) :
    (b.register r).HasPredicate i ↔ b.HasPredicate i := by
  by_cases new : i = b.nextId
  · have before : b.registration? i = none := List.getElem?_eq_none new.ge
    rw [HasPredicate, HasPredicate, registration?_register, if_pos new, before]
    constructor
    · rintro ⟨j, same, has⟩
      rw [bare j (Option.some.inj same)] at has
      cases has
    · rintro ⟨j, same, _⟩
      cases same
  · apply hasPredicate_congr
    rw [registration?_register, if_neg new]

theorem hasPredicate_introduce (b : Builder) (e : Entity) (nullable : Bool) (i : Nat) :
    (b.introduce e nullable).HasPredicate i ↔ b.HasPredicate i :=
  hasPredicate_register (fun _ same => by cases same) i

theorem hasPredicate_registerJoin (b : Builder) (kind : JoinKind) (left right i : Nat) :
    (b.registerJoin kind left right).HasPredicate i ↔ b.HasPredicate i :=
  hasPredicate_register (fun _ same => by cases same; rfl) i

/-! ### What runs take -/

/-- From one builder to another the joins `taken` get their predicates, all of them registered since
`start`, and no other join does. -/
structure Takes (start : Nat) (b : Builder) (taken : List Nat) (b' : Builder) : Prop where
  nodup : taken.Nodup
  new : ∀ i ∈ taken, start ≤ i ∧ ¬ b.HasPredicate i
  hasPredicate_iff : ∀ i, b'.HasPredicate i ↔ b.HasPredicate i ∨ i ∈ taken

namespace Takes

variable {start : Nat} {b b' b'' : Builder} {taken taken' : List Nat}

theorem unchanged (same : ∀ i, b'.HasPredicate i ↔ b.HasPredicate i) : Takes start b [] b' where
  nodup := .nil
  new i mem := by cases mem
  hasPredicate_iff i := by
    rw [same]
    simp

theorem trans (h : Takes start b taken b') (h' : Takes start b' taken' b'') :
    Takes start b (taken ++ taken') b'' where
  nodup := by
    -- what the second part takes has no predicate after the first
    refine List.Nodup.append h.nodup h'.nodup fun i mem mem' => ?_
    exact (h'.new i mem').2 ((h.hasPredicate_iff i).2 (.inr mem))
  new i mem := by
    rcases List.mem_append.1 mem with first | second
    · exact h.new i first
    · obtain ⟨late, bare⟩ := h'.new i second
      exact ⟨late, fun has => bare ((h.hasPredicate_iff i).2 (.inl has))⟩
  hasPredicate_iff i := by
    rw [h'.hasPredicate_iff, h.hasPredicate_iff, List.mem_append, or_assoc]

/-- A fragment takes joins registered since it began. -/
theorem isolated {inner : Builder} (le : start ≤ b.nextId)
    (h : Takes b.nextId b.sheltered taken inner) : Takes start b taken (inner.reunited b) where
  nodup := h.nodup
  new i mem := ⟨le.trans (h.new i mem).1, (h.new i mem).2⟩
  hasPredicate_iff := h.hasPredicate_iff

theorem introduceShape (s : Shape String) (b : Builder) : Takes start b [] (s.introduce b).1 := by
  apply unchanged
  refine s.introduce_preserves (P := fun b' => ∀ i, b'.HasPredicate i ↔ b.HasPredicate i)
    ?_ ?_ ?_ b fun _ => .rfl
  · intro b' e nullable same i
    exact (hasPredicate_introduce b' e nullable i).trans (same i)
  · intro b' kind left right same i
    exact (hasPredicate_registerJoin b' kind left right i).trans (same i)
  · intro b' id same i
    exact same i

theorem registerOperand (o : Operand String) (b : Builder) :
    Takes start b [] (o.register b).builder := by
  apply unchanged
  refine o.register_preserves (P := fun b' => ∀ i, b'.HasPredicate i ↔ b.HasPredicate i)
    ?_ ?_ b fun _ => .rfl
  · intro b' e nullable same i
    exact (hasPredicate_introduce b' e nullable i).trans (same i)
  · intro b' kind left right same i
    exact (hasPredicate_registerJoin b' kind left right i).trans (same i)

/-- **An ON predicate goes to the join on top of the stack.** -/
theorem attach {p : Expr} (exact_stack : b.PendingFrom start) (attached : b.attach p = .ok b') :
    Takes start b b.pending.head?.toList b' := by
  obtain ⟨i, j, top, _, _, _, registrations⟩ := registration?_attach attached
  have waits : b.WaitsFrom start i := (exact_stack.mem_iff i).1 (List.mem_of_mem_head? top)
  rw [top, Option.toList_some]
  refine ⟨List.nodup_singleton i, fun k mem => ?_, fun k => ?_⟩
  · rw [List.mem_singleton.1 mem]
    exact ⟨waits.1, waits.not_hasPredicate⟩
  · rw [List.mem_singleton]
    by_cases here : k = i
    · rw [iff_true_right (.inr here), HasPredicate, registrations, if_pos here]
      exact ⟨_, rfl, rfl⟩
    · rw [or_iff_left here]
      apply hasPredicate_congr
      rw [registrations, if_neg here]

end Takes

end Builder

/-! ### Runs -/

/-- **Joins get predicates as a transcript tells**, each of them registered since the innermost
fragment began. -/
theorem Builder.Traced.takes {b b' : Builder} {es : List Entry} (h : Traced b es b') :
    ∀ start ≤ b.nextId, b.PendingFrom start → Takes start b (takenAll es) b' := by
  induction h with
  | nil b =>
    intro start _ _
    exact .unchanged fun _ => .rfl
  | append traced₁ _ ih₁ ih₂ =>
    intro start le now
    have keeps := traced₁.change.keeps start le now
    rw [takenAll_append]
    exact (ih₁ start le now).trans (ih₂ start (le.trans keeps.grows.length) keeps.pending)
  | introduce shape b =>
    intro start _ _
    rw [takenAll_single]
    exact .introduceShape shape b
  | register operand b =>
    intro start _ _
    rw [takenAll_single]
    exact .registerOperand operand b
  | attach p _ _ attached =>
    intro start _ now
    rw [takenAll_single]
    exact .attach now attached
  | @quiet b b' event _ _ quiet source =>
    intro start _ _
    rw [takenAll_single, eventTaken_of_isQuiet quiet]
    apply Takes.unchanged
    intro i
    apply hasPredicate_congr
    show b'.statement.source.get? i = b.statement.source.get? i
    rw [source]
  | inPlace _ _ _ ih =>
    intro start le now
    rw [takenAll_single]
    exact ih start le now
  | @isolated b _ _ _ _ _ ih =>
    intro start le _
    rw [takenAll_single]
    exact .isolated le (ih b.nextId (Nat.le_refl _) b.pendingFrom_sheltered)
  | @both b inner _ _ _ _ _ traced₁ _ ih₁ ih₂ =>
    intro start le _
    have keeps := traced₁.change.keeps b.nextId (Nat.le_refl _) b.pendingFrom_sheltered
    have first := ih₁ b.nextId (Nat.le_refl _) b.pendingFrom_sheltered
    have second := ih₂ inner.nextId (Nat.le_refl _) (inner.reunited b).pendingFrom_sheltered
    rw [takenAll_single]
    exact Takes.trans (.isolated le first) (.isolated (le.trans keeps.grows.length) second)
  | subquery form _ _ _ _ =>
    intro start _ _
    rw [takenAll_single]
    exact .unchanged fun _ => .rfl

/-- **Runs give predicates to the joins that their transcripts name.** -/
theorem runAll_takes {ss : List Step} {start : Nat} {b : Builder} {env : Env} {o : Outcome}
    (ran : runAll ss b env = .ok o) (le : start ≤ b.nextId) (now : b.PendingFrom start) :
    b.Takes start (takenAll o.entries) o.builder :=
  (runAll_traced ss b env o ran).takes start le now

end SqlBuilder
