import Mathlib.Logic.Function.Defs
import SqlBuilder.Settings

/-!
# Names in quotes and without

A name is written between quotes or bare.  Of the classes of characters that decide between the two
only their meaning on ASCII is used here.

* `Identifier.Bare` : what a name has that is written without quotes;
* `Identifier.quoted_injective` : the quoted form determines the name;
* **`Quoting.write_injective`** : so does the form that is written, whichever it is.
-/

namespace SqlBuilder

/-- A character that is not of a class stands in no text of characters of the class. -/
theorem Text.not_mem_of_class {p : Char → Bool} {text : List Char} (run : ∀ c ∈ text, p c = true)
    {c : Char} (hc : p c = false) : c ∉ text := by
  intro mem
  rw [run c mem] at hc
  cases hc

namespace Identifier

/-! ### Bare names -/

/-- What a name has that is written without quotes. -/
structure Bare (name : List Char) : Prop where
  not_reserved : reservedWords.contains (String.ofList name) = false
  name_chars : ∀ c ∈ name, isNameChar c = true
  no_uppercase : ∀ c ∈ name, Text.isUppercase c = false
  starts : ∃ c cs, name = c :: cs ∧ Text.isNumeric c = false

theorem needsQuotes_eq_false_iff {name : List Char} : needsQuotes name = false ↔ Bare name := by
  constructor
  · intro h
    simp only [needsQuotes, Bool.or_eq_false_iff, List.any_eq_false] at h
    obtain ⟨⟨⟨reserved, chars⟩, upper⟩, start⟩ := h
    refine ⟨reserved, fun c hc => ?_, fun c hc => ?_, ?_⟩
    · simpa using chars c hc
    · simpa using upper c hc
    · cases name with
      | nil => cases start
      | cons c cs => exact ⟨c, cs, rfl, start⟩
  · rintro ⟨reserved, chars, upper, c, cs, rfl, start⟩
    simp only [needsQuotes, Bool.or_eq_false_iff, List.any_eq_false]
    refine ⟨⟨⟨reserved, fun d hd => ?_⟩, fun d hd => ?_⟩, start⟩
    · simp [chars d hd]
    · simp [upper d hd]

/-- An ASCII character that is neither alphanumeric nor an underscore stands in no bare name. -/
theorem isNameChar_eq_false {c : Char} (ascii : c.toNat < 0x80) (alphanum : c.isAlphanum = false)
    (underscore : c ≠ '_') : isNameChar c = false := by
  rw [isNameChar, Text.isAlphanumeric_of_ascii ascii, alphanum]
  simpa using underscore

theorem isNameChar_quote : isNameChar '"' = false :=
  isNameChar_eq_false (by decide) (by decide) (by decide)

/-- A bare name holds no character that stands in no bare name. -/
theorem Bare.not_mem {name : List Char} (h : Bare name) {c : Char} (hc : isNameChar c = false) :
    c ∉ name := Text.not_mem_of_class h.name_chars hc

/-! ### The written form determines the name -/

theorem quoted_injective : Function.Injective quoted := by
  intro m n h
  have read_m := unquoted_quoted m
  rw [h, unquoted_quoted n] at read_m
  cases read_m
  rfl

/-- No bare name is the quoted form of a name. -/
theorem Bare.ne_quoted {name : List Char} (h : Bare name) (n : List Char) : name ≠ quoted n := by
  rintro rfl
  exact h.not_mem isNameChar_quote List.mem_cons_self

end Identifier

/-- A name is written between quotes, or as it is if it is bare. -/
theorem Quoting.write_cases (q : Quoting) (n : String) :
    q.write n = Identifier.quoted n.toList ∨
      Identifier.Bare n.toList ∧ q.write n = n.toList := by
  cases q with
  | always => exact Or.inl rfl
  | whenNeeded =>
    cases needs : Identifier.needsQuotes n.toList with
    | true => exact Or.inl (if_pos needs)
    | false =>
      exact Or.inr ⟨Identifier.needsQuotes_eq_false_iff.1 needs, if_neg (by simp [needs])⟩

/-- **Different names have different written forms.** -/
theorem Quoting.write_injective (q : Quoting) : Function.Injective q.write := by
  intro m n h
  rcases q.write_cases m with hm | ⟨bare_m, hm⟩
  · rcases q.write_cases n with hn | ⟨bare_n, hn⟩
    · rw [hm, hn] at h
      exact String.toList_injective (Identifier.quoted_injective h)
    · rw [hm, hn] at h
      exact absurd h.symm (bare_n.ne_quoted _)
  · rcases q.write_cases n with hn | ⟨bare_n, hn⟩
    · rw [hm, hn] at h
      exact absurd h (bare_m.ne_quoted _)
    · rw [hm, hn] at h
      exact String.toList_injective h

theorem Settings.writeName_injective (s : Settings) : Function.Injective s.writeName :=
  s.quoting.write_injective

end SqlBuilder
