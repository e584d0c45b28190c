import ErDiagram.Proofs.Text.Word
import ErDiagram.Text.Lowercase

/-!
# What lower case leaves

The lower case of a text holds no capital letter of ASCII. A capital that is spelled out around such
a text is therefore found again without doubt.

A text is its own lower case exactly if each of its characters is left as it is, which does not depend
on the characters around it. Texts in lower case can therefore be put together.
-/

namespace ErDiagram.Text

set_option autoImplicit false

/-- A number that is no code stands for the character of code zero. -/
theorem code_of_nat (code : Nat) : (Char.ofNat code).toNat = code ∨ (Char.ofNat code).toNat = 0 := by
  by_cases valid : code.isValidChar
  · exact .inl (congrArg Char.toNat (dif_pos valid))
  · exact .inr (congrArg Char.toNat (dif_neg valid))

theorem not_upper_of_nat {code : Nat} (outside : ¬ (65 ≤ code ∧ code ≤ 90)) :
    (Char.ofNat code).isUpper = false := by
  apply Bool.eq_false_iff.mpr
  rw [Ne, is_upper_iff]
  rcases code_of_nat code with same | zero <;> omega

/-- A code point stays as it is or is taken to the target of a run or beyond it. -/
theorem lower_code_cases (runs : List CaseRun) (code : Nat) :
    lowerCode runs code = code ∨ ∃ run ∈ runs, run.target ≤ lowerCode runs code := by
  induction runs with
  | nil => exact .inl rfl
  | cons run rest ih =>
      rw [lowerCode]
      split
      · exact .inl rfl
      split
      · exact .inr ⟨run, List.mem_cons_self, Nat.le_add_right _ _⟩
      · rcases ih with same | ⟨later, member, above⟩
        · exact .inl same
        · exact .inr ⟨later, List.mem_cons_of_mem _ member, above⟩

theorem lower_letter_not_upper (c : Char) : (lowerLetter c).isUpper = false := by
  have targets : ∀ run ∈ lowercaseRuns, 90 < run.target := by decide +kernel
  apply not_upper_of_nat
  by_cases capital : 65 ≤ c.toNat ∧ c.toNat ≤ 90
  · -- The first run holds the capitals of ASCII.
    have first : lowerCode lowercaseRuns c.toNat = 97 + (c.toNat - 65) := by
      have notBelow : ¬ c.toNat < 65 := Nat.not_lt.mpr capital.1
      rw [lowercaseRuns, lowerCode, if_neg notBelow, if_pos (by simp [capital.2, Nat.mod_one])]
    omega
  · rcases lower_code_cases lowercaseRuns c.toNat with same | ⟨run, member, above⟩
    · rwa [same]
    · have beyond := targets run member
      omega

theorem lower_in_context_not_upper {before after : List Char} {c d : Char}
    (member : d ∈ lowerInContext before c after) : d.isUpper = false := by
  rw [lowerInContext] at member
  split at member
  · rcases List.mem_pair.mp member with rfl | rfl <;> rfl
  split at member
  · split at member <;> rw [List.mem_singleton.mp member] <;> rfl
  · rw [List.mem_singleton.mp member]
    exact lower_letter_not_upper c

theorem not_upper_of_lowercase {text : String} {c : Char}
    (member : c ∈ (lowercase text).toList) : c.isUpper = false := by
  have lowered : ∀ before later, c ∈ lowerAfter before later → c.isUpper = false := by
    intro before later
    induction later generalizing before with
    | nil => simp [lowerAfter]
    | cons d rest ih =>
        rw [lowerAfter, List.mem_append]
        rintro (here | after)
        · exact lower_in_context_not_upper here
        · exact ih _ after
  rw [lowercase, String.toList_ofList] at member
  exact lowered [] text.toList member

/-- Whether lower case leaves a character as it is, whatever stands around it. -/
def IsLowered (c : Char) : Prop := c ≠ '\u0130' ∧ c ≠ '\u03a3' ∧ lowerLetter c = c

instance (c : Char) : Decidable (IsLowered c) :=
  inferInstanceAs (Decidable (c ≠ '\u0130' ∧ c ≠ '\u03a3' ∧ lowerLetter c = c))

theorem lower_in_context_lowered {c : Char} (lowered : IsLowered c) (before after : List Char) :
    lowerInContext before c after = [c] := by
  obtain ⟨notDotted, notSigma, same⟩ := lowered
  rw [lowerInContext, if_neg notDotted, if_neg notSigma, same]

theorem is_lowered_of_head {before after : List Char} {c : Char}
    (begins : (lowerInContext before c after).head? = some c) : IsLowered c := by
  rw [lowerInContext] at begins
  split at begins
  · next dotted =>
    rw [dotted] at begins
    exact absurd begins (by decide)
  split at begins
  · next sigma =>
    rw [sigma] at begins
    split at begins <;> exact absurd begins (by decide)
  · next notDotted notSigma => exact ⟨notDotted, notSigma, Option.some.inj begins⟩

theorem lower_after_eq_self_iff (before : List Char) {text : List Char} :
    lowerAfter before text = text ↔ ∀ c ∈ text, IsLowered c := by
  induction text generalizing before with
  | nil => simp [lowerAfter]
  | cons c rest ih =>
      rw [lowerAfter, List.forall_mem_cons, ← ih (c :: before)]
      constructor
      · intro same
        obtain ⟨d, more, first⟩ : ∃ d more, lowerInContext before c rest = d :: more := by
          rw [lowerInContext]
          split
          · exact ⟨_, _, rfl⟩
          split
          · split <;> exact ⟨_, _, rfl⟩
          · exact ⟨_, _, rfl⟩
        rw [first, List.cons_append] at same
        have lowered : IsLowered c :=
          is_lowered_of_head (by rw [first, (List.cons.inj same).1]; rfl)
        rw [lower_in_context_lowered lowered] at first
        obtain ⟨rfl, rfl⟩ := List.cons.inj first
        exact ⟨lowered, (List.cons.inj same).2⟩
      · rintro ⟨lowered, same⟩
        rw [lower_in_context_lowered lowered, same, List.singleton_append]

theorem lowercase_eq_self_iff {text : String} :
    lowercase text = text ↔ ∀ c ∈ text.toList, IsLowered c := by
  rw [← lower_after_eq_self_iff [], lowercase, ← String.toList_inj,
    String.toList_ofList]

theorem lowercase_append {first second : String} (lowered : lowercase first = first)
    (loweredSecond : lowercase second = second) : lowercase (first ++ second) = first ++ second := by
  rw [lowercase_eq_self_iff] at lowered loweredSecond ⊢
  intro c member
  rw [String.toList_append] at member
  rcases List.mem_append.mp member with inFirst | inSecond
  · exact lowered c inFirst
  · exact loweredSecond c inSecond

end ErDiagram.Text
