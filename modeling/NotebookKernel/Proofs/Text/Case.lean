import Mathlib
import NotebookKernel.Text.Case

/-!
Words that only their own letters lower to. Lower case reaches past the letters it starts from:
the sign for kelvin becomes a plain small letter, and a dotted capital becomes a small letter and a
mark. All the same, a word of small letters other than that one is the lower case of nothing but
the word itself in any mixture of cases.
-/

namespace NotebookKernel.Text

/-- A small letter that no character lowers to but itself and its capital. -/
def IsPlainLetter (c : Char) : Prop :=
  0x61 ≤ c.toNat ∧ c.toNat ≤ 0x7A ∧ c ≠ 'k'

instance (c : Char) : Decidable (IsPlainLetter c) := by
  unfold IsPlainLetter
  infer_instance

/-- Apart from the capitals and the sign for kelvin, no mapping comes from or leads to the first
128 characters. -/
theorem lowerRuns_far (run : CaseRun) (mem : run ∈ lowerRuns) :
    (run.first = 0x41 ∧ run.last = 0x5A) ∨
    (run.first = 0x212A ∧ run.last = 0x212A ∧ run.shift = -8383) ∨
    (0x80 ≤ run.first ∧ 0x80 ≤ run.first + run.shift) := by
  revert run
  decide +kernel

theorem lowerChar_ascii {c : Char} (ascii : c.toNat < 0x80) : lowerChar c = [c.toLower] := by
  have all : ∀ n < 0x80, lowerChar (.ofNat n) = [(Char.ofNat n).toLower] := by decide +kernel
  have same := all c.toNat ascii
  rwa [Char.ofNat_toNat] at same

/-- What a run beyond the first 128 characters makes of one of its characters. -/
theorem mapped_other {run : CaseRun} (mem : run ∈ lowerRuns) {n : Nat} (covers : run.covers n)
    (other : 0x80 ≤ n) : ¬ IsPlainLetter (.ofNat (n + run.shift).toNat) := by
  rintro ⟨low, high, notKelvin⟩
  simp only [CaseRun.covers, Bool.and_eq_true, decide_eq_true_eq] at covers
  obtain ⟨⟨begun, ended⟩, -⟩ := covers
  rcases lowerRuns_far run mem with ⟨first, last⟩ | ⟨first, last, shift⟩ | ⟨first, led⟩
  · omega
  · have kelvin : n = 0x212A := by omega
    rw [kelvin, shift] at notKelvin
    exact notKelvin (by decide)
  · by_cases valid : (n + run.shift).toNat.isValidChar
    · rw [Char.toNat_ofNat, if_pos valid] at high
      omega
    · rw [Char.toNat_ofNat, if_neg valid] at low
      omega

theorem lowerChar_other {c : Char} (other : 0x80 ≤ c.toNat) :
    ∃ d ∈ lowerChar c, ¬ IsPlainLetter d := by
  unfold lowerChar
  split
  · exact ⟨'\u0307', by simp, by decide⟩
  · split
    · rename_i run found
      have covers := List.find?_some found
      exact ⟨_, List.mem_singleton_self _,
        mapped_other (List.mem_of_find?_eq_some found) covers other⟩
    · refine ⟨c, List.mem_singleton_self c, ?_⟩
      rintro ⟨-, high, -⟩
      omega

theorem toLower_other {c : Char} (other : 0x80 ≤ c.toNat) : c.toLower = c := by
  refine Char.toLower_eq_of_not_isUpper fun capital => ?_
  simp only [Char.isUpper, decide_eq_true_eq, UInt32.le_iff_toNat_le] at capital
  have low : c.toNat ≤ 90 := capital.2
  omega

/-- A character beyond the first 128 leaves something in the lower case that is no plain letter,
the capital sigma included. -/
theorem lowered_other (before cs : List Char) {c : Char} (other : 0x80 ≤ c.toNat) :
    ∃ d ∈ lowerFrom before (c :: cs), ¬ IsPlainLetter d := by
  simp only [lowerFrom, List.mem_append]
  by_cases sigma : c = 'Σ'
  · simp only [if_pos sigma, List.mem_singleton]
    split
    · exact ⟨'ς', .inl rfl, by decide⟩
    · exact ⟨'σ', .inl rfl, by decide⟩
  · obtain ⟨d, inside, notPlain⟩ := lowerChar_other other
    rw [if_neg sigma]
    exact ⟨d, .inl inside, notPlain⟩

/-- Whatever stands before. -/
theorem lowerFrom_eq_iff (cs : List Char) (before : List Char) {word : List Char}
    (plain : ∀ c ∈ word, IsPlainLetter c) :
    lowerFrom before cs = word ↔ cs.map Char.toLower = word := by
  induction cs generalizing before word with
  | nil => rfl
  | cons c cs ih =>
    by_cases ascii : c.toNat < 0x80
    · have notSigma : c ≠ 'Σ' := by
        rintro rfl
        exact absurd ascii (by decide)
      simp only [lowerFrom, if_neg notSigma, lowerChar_ascii ascii, List.singleton_append,
        List.map_cons]
      cases word with
      | nil => simp
      | cons d word =>
        have later : ∀ e ∈ word, IsPlainLetter e := fun e inside => plain e (by simp [inside])
        simp only [List.cons.injEq, ih (c :: before) later]
    · have other : 0x80 ≤ c.toNat := by omega
      constructor
      · intro lowered
        obtain ⟨d, inside, notPlain⟩ := lowered_other before cs other
        exact absurd (plain d (lowered ▸ inside)) notPlain
      · rintro rfl
        have same := plain c.toLower (by simp)
        rw [toLower_other other] at same
        exact absurd same.2.1 (by omega)

theorem lowercase_eq_iff (text : String) {word : String}
    (plain : ∀ c ∈ word.toList, IsPlainLetter c) :
    lowercase text = word ↔ text.toList.map Char.toLower = word.toList := by
  rw [← lowerFrom_eq_iff text.toList [] plain, lowercase, ← String.toList_inj,
    String.toList_ofList]

-- The letter that is left out, and a capital whose lower case is longer than a letter.
example : lowercase "\u212A" = "k" ∧ lowercase "İ" = "i\u0307" := by decide

end NotebookKernel.Text
