import NotebookKernel.Json.Scan

/-!
The decimal digits of a number of 64 bits are read as the number, unless what follows them
belongs to a number as well.
-/

namespace NotebookKernel.Json

theorem digitValue_digitChar : ∀ d < 10, digitValue (Nat.digitChar d) = d := by decide

theorem isDigit_digitChar : ∀ d < 10, isDigit (Nat.digitChar d) = true := by decide

theorem digitChar_eq_zero : ∀ d < 10, Nat.digitChar d = '0' → d = 0 := by decide

theorem fitting_digit {n d : Nat} (small : d < 10) (fits : n * 10 + d ≤ greatestUnsigned)
    (rest : List Char) : fitting n (Nat.digitChar d :: rest) = fitting (n * 10 + d) rest := by
  simp only [fitting, isDigit_digitChar d small, digitValue_digitChar d small, decide_eq_true fits,
    Bool.and_self, if_true]

/-- The first digit is taken as it is, each other one by `fitting`. -/
theorem toDigits_read (n : Nat) (fits : n ≤ greatestUnsigned) :
    ∃ first others, Nat.toDigits 10 n = first :: others ∧ isDigit first = true ∧
      (first = '0' → n = 0 ∧ others = []) ∧
      ∀ rest, fitting (digitValue first) (others ++ rest) = fitting n rest := by
  induction n using Nat.strongRecOn with
  | ind n ih =>
    by_cases small : n < 10
    · refine ⟨Nat.digitChar n, [], Nat.toDigits_of_lt_base small, isDigit_digitChar n small,
        fun zero => ⟨digitChar_eq_zero n small zero, rfl⟩, fun rest => ?_⟩
      rw [digitValue_digitChar n small, List.nil_append]
    · have last : n % 10 < 10 := Nat.mod_lt n (by decide)
      have whole : n / 10 * 10 + n % 10 = n := by omega
      obtain ⟨first, others, digits, digit, zero, read⟩ := ih (n / 10) (by omega) (by omega)
      refine ⟨first, others ++ [Nat.digitChar (n % 10)], ?_, digit, fun leading => ?_,
        fun rest => ?_⟩
      · rw [Nat.toDigits_of_base_le (by decide) (by omega), digits, List.cons_append]
      · have := (zero leading).1
        omega
      · rw [List.append_assoc, List.singleton_append, read,
          fitting_digit last (by omega), whole]

/-- Nothing that a number could go on with. -/
def endsNumber : List Char → Bool
  | [] => true
  | c :: _ => !(isDigit c || c == '.' || c == 'e' || c == 'E')

theorem endsNumber_space {c : Char} (space : isSpace c = true) (rest : List Char) :
    endsNumber (c :: rest) = true := by
  simp only [isSpace, Bool.or_eq_true, beq_iff_eq] at space
  rcases space with ((rfl | rfl) | rfl) | rfl <;> rfl

theorem endsNumber_blanks {blanks : List Char} (blank : ∀ c ∈ blanks, isSpace c = true) :
    endsNumber blanks = true := by
  cases blanks with
  | nil => rfl
  | cons c blanks => exact endsNumber_space (blank c (by simp)) blanks

section Ended

variable {rest : List Char} (ended : endsNumber rest = true)
include ended

theorem startsWithDigit_ended : startsWithDigit rest = false := by
  cases rest with
  | nil => rfl
  | cons c rest =>
    simp only [endsNumber, Bool.not_eq_true', Bool.or_eq_false_iff] at ended
    exact ended.1.1.1

theorem fitting_ended (n : Nat) : fitting n rest = (n, rest) := by
  cases rest with
  | nil => rfl
  | cons c rest =>
    have other : isDigit c = false := startsWithDigit_ended ended
    simp only [fitting, other, Bool.false_and, Bool.false_eq_true, if_false]

theorem afterInteger_ended (n : Nat) : afterInteger false n rest = .ok (.int n, rest) := by
  cases rest with
  | nil => rfl
  | cons c rest =>
    simp only [endsNumber, Bool.not_eq_true', Bool.or_eq_false_iff, beq_eq_false_iff_ne] at ended
    obtain ⟨⟨⟨other, point⟩, small⟩, large⟩ := ended
    have left : (c :: rest).dropWhile isDigit = c :: rest := by simp [other]
    simp [afterInteger, left, startsWithDigit, other, point, small, large, integer]

/-- What is written for a number begins with a digit and is read as the number. -/
theorem number_read {n : Nat} (fits : n ≤ greatestUnsigned) :
    ∃ first others, (toString (n : Int)).toList = first :: others ∧ isDigit first = true ∧
      number false (first :: others ++ rest) = .ok (.int n, rest) := by
  obtain ⟨first, others, digits, digit, zero, read⟩ := toDigits_read n fits
  have written : (toString (n : Int)).toList = Nat.toDigits 10 n := Nat.toList_repr
  refine ⟨first, others, by rw [written, digits], digit, ?_⟩
  by_cases leading : first = '0'
  · obtain ⟨rfl, rfl⟩ := zero leading
    simp only [leading, List.cons_append, List.nil_append, number, if_true,
      startsWithDigit_ended ended, Bool.false_eq_true, if_false, afterInteger_ended ended 0]
  · simp only [List.cons_append, number, if_neg leading, digit, if_true, read,
      fitting_ended ended n, afterInteger_ended ended n]

end Ended

theorem toString_begins {n : Nat} (fits : n ≤ greatestUnsigned) :
    ∃ first others, (toString (n : Int)).toList = first :: others ∧ isDigit first = true := by
  have ended : endsNumber [] = true := rfl
  obtain ⟨first, others, written, digit, -⟩ := number_read ended fits
  exact ⟨first, others, written, digit⟩

end NotebookKernel.Json
