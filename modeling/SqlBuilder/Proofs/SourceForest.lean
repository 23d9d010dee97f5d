import Mathlib.Data.List.Perm.Basic
import SqlBuilder.Proofs.PendingJoins
import SqlBuilder.Proofs.PostfixOrder

/-!
# From-clauses are forests

Every call leaves the registrations of a builder in postfix order, and a root that is listed is a
position that no join has taken.  If tables come in by calls only that list them at top level, the
roots are all such positions, and the from-clause is written without loss and without repetition.

* `Operand.register_postfix`, `Shape.introduce_postfix` : what one call adds;
* `Builder.Ordered`, **`Builder.Change.ordered`** : any calls keep the order;
* `allListing`, **`Builder.Traced.listing`** : calls that list all that they register keep all free
  positions roots;
* `FromClause.Partitioned` : each registration has one path and one place in the text;
* **`Session.forest_of_reaches`** : in every session the from-clause is a forest, and where calls list
  all that they register it is partitioned by its trees.
-/

namespace SqlBuilder

open FromClause (Postfix)

/-! ### What one call adds -/

/-- An operand adds one free position, its own, and no root. -/
theorem Operand.register_postfix {τ : Type} (o : Operand τ) : ∀ (b : Builder) {free : List Nat},
    Postfix b.source.registrations free →
      Postfix (o.register b).builder.source.registrations (free ++ [(o.register b).id]) ∧
        (o.register b).builder.source.roots = b.source.roots := by
  induction o with
  | table e tag =>
    intro b free h
    exact ⟨.scope _ h, rfl⟩
  | nullable e tag =>
    intro b free h
    exact ⟨.scope _ h, rfl⟩
  | join kind l r ihl ihr =>
    intro b free h
    obtain ⟨left, rootsl⟩ := ihl b h
    obtain ⟨right, rootsr⟩ := ihr _ left
    refine ⟨.join ⟨kind, (l.register b).id, (r.register (l.register b).builder).id, none⟩ ?_,
      rootsr.trans rootsl⟩
    rw [List.append_assoc] at right
    exact right

/-- A shape lists the free positions that it adds. -/
theorem Shape.introduce_postfix {τ : Type} (s : Shape τ) (b : Builder) {free : List Nat}
    (h : Postfix b.source.registrations free) :
    ∃ new, Postfix (s.introduce b).1.source.registrations (free ++ new) ∧
      (s.introduce b).1.source.roots = b.source.roots ++ new := by
  have all : ∀ (os : List (Operand τ)) (b : Builder) (free : List Nat),
      Postfix b.source.registrations free →
        ∃ new, Postfix (introduceAll os b).1.source.registrations (free ++ new) ∧
          (introduceAll os b).1.source.roots = b.source.roots ++ new := by
    intro os
    induction os with
    | nil =>
      intro b free h
      exact ⟨[], by rwa [List.append_nil], (List.append_nil _).symm⟩
    | cons o os ih =>
      intro b free h
      obtain ⟨first, roots⟩ := o.register_postfix b h
      obtain ⟨new, later, listed⟩ := ih ((o.register b).builder.addRoot (o.register b).id) _ first
      rw [List.append_assoc, List.singleton_append] at later
      refine ⟨(o.register b).id :: new, later, listed.trans ?_⟩
      show ((o.register b).builder.source.roots ++ [(o.register b).id]) ++ new = _
      rw [roots, List.append_assoc, List.singleton_append]
  exact all s.operands b free h

namespace Builder

variable {b b' : Builder}

/-- An ON predicate changes neither the order nor the roots. -/
theorem postfix_attach {p : Expr} {free : List Nat} (attached : b.attach p = .ok b')
    (h : Postfix b.source.registrations free) :
    Postfix b'.source.registrations free ∧ b'.source.roots = b.source.roots := by
  have bare : b'.source.registrations.map Registration.bare =
      b.source.registrations.map Registration.bare := by
    refine List.ext_getElem? fun i => ?_
    rw [List.getElem?_map, List.getElem?_map]
    exact bare_attach attached i
  obtain ⟨_, _, _, _, _, rfl⟩ := attach_eq_ok_iff.1 attached
  exact ⟨h.of_bare bare, rfl⟩

/-- The registrations are in postfix order, and no join has taken a root. -/
def Ordered (b : Builder) : Prop :=
  ∃ free, Postfix b.source.registrations free ∧ b.source.roots.Sublist free

/-- **Any calls keep the order.** -/
theorem Change.ordered {scopes : List Scope} (h : Change b scopes b') : b.Ordered → b'.Ordered := by
  induction h with
  | andThen _ _ ih₁ ih₂ => exact fun now => ih₂ (ih₁ now)
  | introduce shape b =>
    rintro ⟨free, order, roots⟩
    obtain ⟨new, order, listed⟩ := shape.introduce_postfix b order
    exact ⟨_, order, listed ▸ roots.append (.refl new)⟩
  | register operand b =>
    rintro ⟨free, order, roots⟩
    obtain ⟨order, same⟩ := operand.register_postfix b order
    exact ⟨_, order, same ▸ roots.trans (List.sublist_append_left _ _)⟩
  | attach p attached =>
    rintro ⟨free, order, roots⟩
    obtain ⟨order, same⟩ := postfix_attach attached order
    exact ⟨free, order, same ▸ roots⟩
  | clause source _ _ =>
    rintro ⟨free, order, roots⟩
    exact ⟨free, by rwa [Builder.source, source], by rwa [Builder.source, source]⟩
  | isolated _ ih => exact ih
  | subquery _ _ => exact id

end Builder

/-! ### Calls that list what they register -/

mutual

/-- An entry tells of no table that is registered without being listed.  What is called in a sub-query
concerns another from-clause. -/
def Entry.isListing : Entry → Bool
  | .entry event _ _ => eventIsListing event

def eventIsListing : Event Entry → Bool
  | .registered _ _ => false
  | .inPlace entries | .isolated entries => allListing entries
  | .both first second => allListing first && allListing second
  | .introduced _ _ _ | .defined _ _ | .listed _ | .attached _ | .clause _ | .assigned _ _ |
    .subquery _ _ | .dumped _ => true

/-- A transcript tells of no table that is registered without being listed. -/
def allListing : List Entry → Bool
  | [] => true
  | e :: es => e.isListing && allListing es

end

theorem allListing_append (es fs : List Entry) :
    allListing (es ++ fs) = (allListing es && allListing fs) := by
  induction es with
  | nil => rfl
  | cons e es ih => rw [List.cons_append, allListing, ih, allListing, Bool.and_assoc]

theorem allListing_single (event : Event Entry) (waiting : Nat) (failure : Option AttachError) :
    allListing [.entry event waiting failure] = eventIsListing event := by
  rw [allListing, allListing, Entry.isListing, Bool.and_true]

namespace Builder

/-- The registrations are in postfix order, and all positions that no join has taken are roots. -/
def Listing (b : Builder) : Prop := Postfix b.source.registrations b.source.roots

/-- **Calls that list all that they register** keep all free positions roots. -/
theorem Traced.listing {b b' : Builder} {es : List Entry} (h : Traced b es b') :
    allListing es = true → b.Listing → b'.Listing := by
  induction h with
  | nil b => exact fun _ => id
  | append _ _ ih₁ ih₂ =>
    intro listing now
    rw [allListing_append, Bool.and_eq_true] at listing
    exact ih₂ listing.2 (ih₁ listing.1 now)
  | introduce shape b =>
    intro _ now
    obtain ⟨new, order, listed⟩ := shape.introduce_postfix b now
    rwa [← listed] at order
  | register operand b =>
    intro listing
    rw [allListing_single] at listing
    cases listing
  | attach p _ _ attached =>
    intro _ now
    obtain ⟨order, same⟩ := postfix_attach attached now
    rwa [Listing, same]
  | quiet _ _ _ source _ _ =>
    intro _ now
    rwa [Listing, Builder.source, source]
  | inPlace _ _ _ ih | isolated _ _ _ ih =>
    intro listing
    rw [allListing_single] at listing
    exact ih listing
  | both _ _ _ _ ih₁ ih₂ =>
    intro listing now
    rw [allListing_single, eventIsListing, Bool.and_eq_true] at listing
    exact ih₂ listing.2 (ih₁ listing.1 now)
  | subquery _ _ _ _ _ => exact fun _ => id

end Builder

/-! ### The partition -/

/-- A from-clause whose trees hold each registration once: one path leads to it, and among the parts
of the text it has one place, in order of registration. -/
structure FromClause.Partitioned (c : FromClause Expr) : Prop where
  roots : c.roots.Nodup
  paths : ∀ id < c.registrations.length, c.HasPath id
  registered : ∀ root ∈ c.roots, ∀ path id, c.follow? root path = some id →
    id < c.registrations.length
  complete : FromPart.hole ∉ c.parts
  items : c.parts.filterMap FromPart.item? = c.registrations.map Registration.item
  scopes : c.parts.filterMap FromPart.table? = c.scopes
  words : (c.parts.filterMap FromPart.words?).Perm (c.joins.map Join.kind)
  text : ∀ ts, Statement.fromTokens (c.map Expr.piece) = .ok ts ↔ FromPart.Text c.parts ts

namespace FromClause

variable {ε : Type}

/-- The tables among the registered items. -/
theorem filterMap_table?_items (c : FromClause ε) :
    (c.registrations.map Registration.item).filterMap FromItem.table? = c.scopes := by
  rw [List.filterMap_map, scopes]
  congr
  funext r
  cases r with
  | _ => rfl

/-- The joins among the registered items. -/
theorem filterMap_kind?_items (c : FromClause ε) :
    (c.registrations.map Registration.item).filterMap FromItem.kind? = c.joins.map Join.kind := by
  rw [List.filterMap_map, joins, List.map_filterMap]
  congr
  funext r
  cases r with
  | _ => rfl

/-- The parts of a from-clause are those of its trees, with marks between them that are no items. -/
theorem filterMap_parts {α : Type} {f : FromPart ε → Option α} (unmarked : ∀ ts, f (.mark ts) = none)
    (c : FromClause ε) : c.parts.filterMap f = c.trees.flatMap fun t => t.parts.filterMap f := by
  rw [parts]
  split
  · rename_i none
    rw [List.isEmpty_iff] at none
    rw [trees, none]
    rfl
  · rw [List.filterMap_cons, unmarked]
    show List.filterMap f ([FromPart.mark Render.comma].intercalate _) = _
    rw [filterMap_intercalate (by simp [unmarked]), List.flatMap_map]

variable {c : FromClause ε}

/-- The trees hold all registrations, in order, where all free positions are roots. -/
theorem Postfix.items_trees (h : Postfix c.registrations c.roots) :
    c.trees.flatMap JoinTree.items = c.registrations.map Registration.item := by
  rw [trees, List.flatMap_map, ← h.flatMap_items]
  exact List.flatMap_congr fun id _ => congrArg JoinTree.items (tree_congr (by rfl) id)

/-- So do the parts of the text. -/
theorem Postfix.items_parts (h : Postfix c.registrations c.roots) :
    c.parts.filterMap FromPart.item? = c.registrations.map Registration.item := by
  rw [filterMap_parts (fun _ => rfl), ← h.items_trees]
  exact List.flatMap_congr fun t _ => t.items_of_parts

theorem Postfix.scopes_parts (h : Postfix c.registrations c.roots) :
    c.parts.filterMap FromPart.table? = c.scopes := by
  have named : (FromPart.table? : FromPart ε → Option Scope) =
      fun p => p.item?.bind FromItem.table? := by
    funext p
    cases p with
    | _ => rfl
  rw [← c.filterMap_table?_items, ← h.items_parts, List.filterMap_filterMap, named]

theorem Postfix.words_parts (h : Postfix c.registrations c.roots) :
    (c.parts.filterMap FromPart.words?).Perm (c.joins.map Join.kind) := by
  have kinds : c.joins.map Join.kind =
      c.trees.flatMap fun t => t.items.filterMap FromItem.kind? := by
    rw [← c.filterMap_kind?_items, ← h.items_trees, List.filterMap_flatMap]
  rw [filterMap_parts (fun _ => rfl), kinds]
  exact List.Perm.flatMap_left _ fun t _ => t.words_perm_of_parts

/-- A clause without gaps has parts without gaps. -/
theorem Grounded.hole_not_mem (h : c.Grounded) : FromPart.hole ∉ c.parts := by
  -- the gaps are selected, since a selection does not see the marks between trees
  let gap? : FromPart ε → Option Unit := fun
    | .hole => some ()
    | _ => none
  intro gap
  have selected : () ∈ c.parts.filterMap gap? := List.mem_filterMap.2 ⟨_, gap, rfl⟩
  rw [filterMap_parts (fun _ => rfl), trees, List.flatMap_map] at selected
  obtain ⟨id, root, selected⟩ := List.mem_flatMap.1 selected
  obtain ⟨p, mem, here⟩ := List.mem_filterMap.1 selected
  cases p with
  | hole => exact h.hole_not_mem_parts id (h.roots id root) mem
  | table | words | close | mark => cases here

/-- **A from-clause in postfix order is partitioned by its trees**, where all free positions are
roots. -/
theorem Postfix.partitioned {c : FromClause Expr} (h : Postfix c.registrations c.roots) :
    c.Partitioned where
  roots := (List.nodup_append.1 (h.uses_perm.nodup_iff.2 List.nodup_range)).2.1
  paths := h.hasPath
  registered _ listed _ _ reached := (h.grounded (.refl _)).lt_length_of_follow? listed reached
  complete := (h.grounded (.refl _)).hole_not_mem
  items := h.items_parts
  scopes := h.scopes_parts
  words := h.words_parts
  text := c.fromTokens_eq_ok_iff

end FromClause

/-! ### Sessions -/

namespace Session

/-- A move that lists all that it registers. -/
inductive ListingMove : Session → Session → Prop where
  | call {b : Builder} {frames : List Builder} (s : Step) (env : Env) {o : Outcome} :
      s.run b env = .ok o → allListing o.entries = true →
        ListingMove ⟨b, frames⟩ ⟨o.builder, frames⟩
  | enter (b : Builder) (frames : List Builder) : ListingMove ⟨b, frames⟩ ⟨b.sheltered, b :: frames⟩
  | leave (b outer : Builder) (frames : List Builder) :
      ListingMove ⟨b, outer :: frames⟩ ⟨b.reunited outer, frames⟩

/-- Moves that list all that they register lead from one session to another. -/
def Lists : Session → Session → Prop := Relation.ReflTransGen ListingMove

variable {m m' : Session}

theorem Move.ordered (h : Move m m') (now : m.builder.Ordered) : m'.builder.Ordered := by
  cases h with
  | call s env ran => exact (s.run_change _ env _ ran).ordered now
  | enter b frames => exact now
  | leave b outer frames => exact now

theorem ListingMove.listing (h : ListingMove m m') (now : m.builder.Listing) : m'.builder.Listing := by
  cases h with
  | call s env ran listing => exact (s.run_traced _ env _ ran).listing listing now
  | enter b frames => exact now
  | leave b outer frames => exact now

/-- **In every session the from-clause is a forest.**  If tables came in only by calls that list all
that they register, its trees partition the registrations: one path leads to each of them from one
root, and the clause is written without gaps, each table once and in order of registration, and each
join once with its predicate. -/
theorem forest_of_reaches {kind : StatementKind} {aliases : AliasBook}
    (reached : (opening kind aliases).Reaches m) :
    m.builder.source.Forest ∧
      ((opening kind aliases).Lists m → m.builder.source.Partitioned) := by
  constructor
  · have ordered : m.builder.Ordered := by
      induction reached with
      | refl => exact ⟨[], .nil, .refl _⟩
      | tail _ move ih => exact move.ordered ih
    obtain ⟨free, order, roots⟩ := ordered
    exact order.forest roots
  · intro lists
    clear reached
    have listing : m.builder.Listing := by
      induction lists with
      | refl => exact .nil
      | tail _ move ih => exact move.listing ih
    exact listing.partitioned

end Session

/-- A join to the right of a table, and a table beside them. -/
def Shape.nestedJoin : Shape String :=
  .tuple [
    .join .leftOuter (.table ⟨"crew", []⟩ "crew")
      (.join .cross (.table ⟨"ship", []⟩ "ship") (.nullable ⟨"port", []⟩ "port")),
    .table ⟨"crew", []⟩ "rival"]

/-- The shape is brought in, and once more inside an isolated fragment that still runs. -/
def Session.nestedJoins : Session :=
  let outer := (Shape.nestedJoin.introduce (.start .select)).1
  ⟨(Shape.nestedJoin.introduce outer.sheltered).1, [outer]⟩

/-- Both calls list what they register, so that the twelve registrations are partitioned by four
trees. -/
theorem Session.forest_of_reaches_nestedJoins :
    (opening .select .empty).Reaches nestedJoins ∧ (opening .select .empty).Lists nestedJoins ∧
      nestedJoins.builder.source.roots = [4, 5, 10, 11] ∧ nestedJoins.builder.source.Forest ∧
      nestedJoins.builder.source.Partitioned := by
  have reached : (opening .select .empty).Reaches nestedJoins :=
    .tail (.tail (.single (.call (.introduce Shape.nestedJoin) [] rfl)) (.enter _ []))
      (.call (.introduce Shape.nestedJoin) [] rfl)
  have lists : (opening .select .empty).Lists nestedJoins :=
    .tail (.tail (.single (.call (.introduce Shape.nestedJoin) [] rfl rfl)) (.enter _ []))
      (.call (.introduce Shape.nestedJoin) [] rfl rfl)
  obtain ⟨forest, partitioned⟩ := forest_of_reaches reached
  exact ⟨reached, lists, rfl, forest, partitioned lists⟩

end SqlBuilder
