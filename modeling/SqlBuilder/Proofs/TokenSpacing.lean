import Mathlib.Data.List.Chain
import SqlBuilder.Proofs.RenderedTokens

/-!
# Tokens that do not run together

Words, names, numbers and placeholders would run together if one stood right after another.  In what
the renderer writes a blank, a parenthesis, a comma or a dot stands between any two of them.

* `Token.isSeparator`, `Token.Spaced` : the tokens that keep others apart, and lists in which all are;
* `Token.Holds vs ts` : the tokens are kept apart, and the values bound in them are `vs`;
* `Holds.append_separator`, `Holds.intercalate`, … : how such lists are put together.
-/

namespace SqlBuilder

namespace Token

/-! ### Separators -/

/-- Tokens of a single character that is part of no other token. -/
def isSeparator : Token → Bool
  | .blank | .mark .leftParen | .mark .rightParen | .mark .comma | .mark .dot => true
  | _ => false

/-- Whether a token may stand right before another.  An unlimiting limit brings its own blank. -/
def Fits (t u : Token) : Prop := t.isSeparator = true ∨ u.isSeparator = true ∨ u = .unlimited

/-- No two tokens run together. -/
def Spaced (ts : List Token) : Prop := ts.IsChain Fits

theorem arity_of_isSeparator {t : Token} (h : t.isSeparator = true) : t.arity = 0 := by
  cases t with
  | bind v => cases h
  | _ => rfl

theorem parameters_cons_of_arity {t : Token} (h : t.arity = 0) (ts : List Token) :
    parameters (t :: ts) = parameters ts := by
  cases t with
  | bind v => cases h
  | _ => rfl

/-- Well spaced tokens, and the values bound in them from left to right. -/
structure Holds (vs : List Value) (ts : List Token) : Prop where
  spaced : Spaced ts
  parameters : Token.parameters ts = vs

namespace Holds

theorem nil : Holds [] [] := ⟨.nil, rfl⟩

/-- A single token that binds nothing. -/
theorem single {t : Token} (h : t.arity = 0) : Holds [] [t] :=
  ⟨.singleton t, parameters_cons_of_arity h []⟩

theorem cons_separator {t : Token} {vs : List Value} {ts : List Token} (h : t.isSeparator = true)
    (rest : Holds vs ts) : Holds vs (t :: ts) where
  spaced := List.isChain_cons.2 ⟨fun _ _ => Or.inl h, rest.spaced⟩
  parameters := by
    rw [parameters_cons_of_arity (arity_of_isSeparator h), rest.parameters]

/-- A separator keeps what stands before it apart from what stands after it. -/
theorem append_separator {t : Token} {vs ws : List Value} {ts us : List Token}
    (h : t.isSeparator = true) (before : Holds vs ts) (after : Holds ws us) :
    Holds (vs ++ ws) (ts ++ t :: us) where
  spaced := by
    refine List.isChain_append.2 ⟨before.spaced, (cons_separator h after).spaced, ?_⟩
    intro x _ y hy
    cases hy
    exact Or.inr (Or.inl h)
  parameters := by
    rw [parameters_append, parameters_cons_of_arity (arity_of_isSeparator h), before.parameters,
      after.parameters]

/-- A token that binds nothing, with a separator behind it. -/
theorem cons_cons_separator {t u : Token} {vs : List Value} {us : List Token} (bindless : t.arity = 0)
    (h : u.isSeparator = true) (rest : Holds vs us) : Holds vs (t :: u :: us) :=
  append_separator h (single bindless) rest

theorem parenthesized {vs : List Value} {ts : List Token} (h : Holds vs ts) :
    Holds vs (Render.parenthesized ts) := by
  have closed := append_separator (t := .mark .rightParen) rfl h nil
  rw [List.append_nil] at closed
  exact closed.cons_separator rfl

/-- A word in front of parentheses. -/
theorem call {t : Token} {vs : List Value} {ts : List Token} (bindless : t.arity = 0)
    (h : Holds vs ts) : Holds vs (t :: Render.parenthesized ts) := by
  have closed := append_separator (t := .mark .rightParen) rfl h nil
  rw [List.append_nil] at closed
  exact cons_cons_separator bindless rfl closed

/-- Two operands around an operator. -/
theorem around {vs ws : List Value} {ts us : List Token} {op : Token} (bindless : op.arity = 0)
    (left : Holds vs ts) (right : Holds ws us) :
    Holds (vs ++ ws) (Render.parenthesized (ts ++ .blank :: op :: .blank :: us)) :=
  (left.append_separator rfl (cons_cons_separator bindless rfl right)).parenthesized

end Holds

/-! ### Separators of several tokens -/

/-- A list of tokens that keeps what stands before it apart from what stands after it. -/
def Separates (separator : List Token) : Prop :=
  ∀ {vs ws : List Value} {ts us : List Token}, Holds vs ts → Holds ws us →
    Holds (vs ++ ws) (ts ++ (separator ++ us))

theorem separates_singleton {t : Token} (h : t.isSeparator = true) : Separates [t] :=
  fun before after => before.append_separator h after

theorem separates_comma : Separates Render.comma :=
  fun before after => before.append_separator rfl (after.cons_separator rfl)

theorem Holds.intercalate {separator : List Token} (h : Separates separator)
    {vss : List (List Value)} {tss : List (List Token)} (each : List.Forall₂ Holds vss tss) :
    Holds vss.flatten (separator.intercalate tss) := by
  induction each with
  | nil => exact nil
  | @cons vs ts vss tss first rest ih =>
    cases rest with
    | nil =>
      rw [List.intercalate_singleton, List.flatten_singleton]
      exact first
    | cons second rest =>
      rw [List.intercalate_cons_cons, List.flatten_cons, List.append_assoc]
      exact h first ih

theorem holds_words (ks : List Keyword) : Holds [] (Render.words ks) := by
  have each : List.Forall₂ Holds (ks.map fun _ => []) (ks.map fun k => [.word k]) := by
    rw [List.forall₂_map_left_iff, List.forall₂_map_right_iff]
    exact List.forall₂_same.2 fun k _ => .single rfl
  have joined := Holds.intercalate (separates_singleton (t := .blank) rfl) each
  have empty : (ks.map fun _ => ([] : List Value)).flatten = [] := by
    rw [List.flatten_eq_nil_iff]
    intro vs mem
    obtain ⟨_, _, rfl⟩ := List.mem_map.1 mem
    rfl
  rw [empty] at joined
  exact joined

theorem separates_between (ks : List Keyword) : Separates (Render.between ks) := by
  intro vs ws ts us before after
  have inner := (holds_words ks).append_separator (t := .blank) rfl after
  have outer := before.append_separator (t := .blank) rfl inner
  rw [Render.between, List.cons_append, List.append_assoc]
  exact outer

/-- Words with blanks around them, in front of something. -/
theorem Holds.after_between {vs : List Value} {ts : List Token} (ks : List Keyword)
    (h : Holds vs ts) : Holds vs (Render.between ks ++ ts) :=
  separates_between ks nil h

end Token

end SqlBuilder
