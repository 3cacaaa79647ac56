import NotebookKernel.Json.Printer
import NotebookKernel.Json.Scan

/-!
A quoted text is read back as it was, and there is no control character in it.
-/

namespace NotebookKernel.Json

theorem hexValue?_digitChar : ∀ d < 16, hexValue? (Nat.digitChar d) = some d := by decide

theorem digitChar_printable : ∀ d < 16, ¬ Nat.digitChar d < ' ' := by decide

theorem hex4_hexPair {n : Nat} (octet : n < 256) (rest : List Char) :
    hex4 ('0' :: '0' :: hexPair n ++ rest) = .ok (n, rest) := by
  have zero : hexValue? '0' = some 0 := by decide
  have high := hexValue?_digitChar (n / 16) (by omega)
  have low := hexValue?_digitChar (n % 16) (by omega)
  simp only [hexPair, List.cons_append, List.nil_append, hex4, zero, high, low]
  rw [show ((0 * 16 + 0) * 16 + n / 16) * 16 + n % 16 = n by omega]

theorem escape_control {c : Char} (control : c < ' ') (rest : List Char) :
    escape ('u' :: '0' :: '0' :: hexPair c.toNat ++ rest) = .ok (c, rest) := by
  have small : c.toNat < 32 := control
  have trailing : isTrailingSurrogate c.toNat = false := by
    simp only [isTrailingSurrogate, Bool.and_eq_false_iff, decide_eq_false_iff_not]
    omega
  have leading : isLeadingSurrogate c.toNat = false := by
    simp only [isLeadingSurrogate, Bool.and_eq_false_iff, decide_eq_false_iff_not]
    omega
  have digits : hex4 ('0' :: '0' :: hexPair c.toNat ++ rest) = .ok (c.toNat, rest) :=
    hex4_hexPair (by omega) rest
  simp only [List.cons_append] at digits ⊢
  simp only [escape, if_true, unicodeEscape, digits, trailing, leading, Char.ofNat_toNat]
  rfl

/-- A backslash and what follows it stand for the character. -/
def Escapes (c : Char) (text : List Char) : Prop :=
  ∃ tail, text = '\\' :: tail ∧ (∀ d ∈ tail, ¬ d < ' ') ∧
    ∀ rest, escape (tail ++ rest) = .ok (c, rest)

theorem escapes_short {e c : Char} (short : shortEscape? e = some c) (notU : e ≠ 'u')
    (printable : ¬ e < ' ') : Escapes c ['\\', e] := by
  refine ⟨[e], rfl, by simpa using printable, fun rest => ?_⟩
  simp only [List.cons_append, List.nil_append, escape, if_neg notU, short]

theorem escapes_control {c : Char} (control : c < ' ') :
    Escapes c (['\\', 'u', '0', '0'] ++ hexPair c.toNat) := by
  have small : c.toNat < 32 := control
  refine ⟨['u', '0', '0'] ++ hexPair c.toNat, rfl, ?_, fun rest => escape_control control rest⟩
  have high := digitChar_printable (c.toNat / 16) (by omega)
  have low := digitChar_printable (c.toNat % 16) (by omega)
  intro d member
  simp only [List.mem_append, List.mem_cons, List.not_mem_nil, or_false, hexPair] at member
  rcases member with (rfl | rfl | rfl) | rfl | rfl
  · decide
  · decide
  · decide
  · exact high
  · exact low

/-- A character stands for itself unless it would be taken for something else. -/
theorem escapeChar_cases (c : Char) :
    (escapeChar c = [c] ∧ c ≠ '"' ∧ c ≠ '\\' ∧ ¬ c < ' ') ∨ Escapes c (escapeChar c) := by
  unfold escapeChar
  -- Seven characters have a letter of their own.
  iterate 7
    split
    · subst_vars
      exact .inr (escapes_short (by decide) (by decide) (by decide))
  split
  · exact .inr (escapes_control ‹_›)
  · exact .inl ⟨rfl, ‹_›, ‹_›, ‹_›⟩

theorem stringBody_plain {c : Char} (notQuote : c ≠ '"') (notBackslash : c ≠ '\\')
    (printable : ¬ c < ' ') (rest : List Char) :
    stringBody (c :: rest) = (stringBody rest).map fun (body, tail) => (c :: body, tail) := by
  rw [stringBody, if_neg notQuote, if_neg notBackslash, if_neg printable]
  cases stringBody rest <;> rfl

theorem stringBody_escape {c : Char} {cs rest : List Char} (read : escape cs = .ok (c, rest)) :
    stringBody ('\\' :: cs) = (stringBody rest).map fun (body, tail) => (c :: body, tail) := by
  rw [stringBody, if_neg (by decide), if_pos rfl]
  split
  · rename_i stop failed
    cases read.symm.trans failed
  · rename_i plain left found
    cases read.symm.trans found
    cases stringBody rest <;> rfl

theorem stringBody_escapeChar (c : Char) (rest : List Char) :
    stringBody (escapeChar c ++ rest) =
      (stringBody rest).map fun (body, tail) => (c :: body, tail) := by
  rcases escapeChar_cases c with ⟨itself, notQuote, notBackslash, printable⟩ | escapes
  · rw [itself]
    exact stringBody_plain notQuote notBackslash printable rest
  · obtain ⟨tail, text, -, read⟩ := escapes
    rw [text]
    exact stringBody_escape (read rest)

theorem stringBody_flatMap (cs rest : List Char) :
    stringBody (cs.flatMap escapeChar ++ '"' :: rest) = .ok (cs, rest) := by
  induction cs with
  | nil => rw [List.flatMap_nil, List.nil_append, stringBody, if_pos rfl]
  | cons c cs ih =>
    rw [List.flatMap_cons, List.append_assoc, stringBody_escapeChar, ih]
    rfl

/-- What was quoted is read from behind the opening quote. -/
theorem quote_read (s : String) (rest : List Char) :
    ∃ body, quote s ++ rest = '"' :: body ∧ string body = .ok (s, rest) := by
  refine ⟨s.toList.flatMap escapeChar ++ '"' :: rest, by simp [quote], ?_⟩
  rw [string, stringBody_flatMap]
  simp only [Except.map, String.ofList_toList]

theorem escapeChar_printable (c : Char) : ∀ d ∈ escapeChar c, ¬ d < ' ' := by
  rcases escapeChar_cases c with ⟨itself, -, -, printable⟩ | ⟨tail, text, printable, -⟩
  · simpa [itself] using printable
  · rw [text]
    exact List.forall_mem_cons.mpr ⟨by decide, printable⟩

theorem quote_printable (s : String) : ∀ d ∈ quote s, ¬ d < ' ' := by
  intro d member
  simp only [quote, List.mem_append, List.mem_cons, List.mem_flatMap, List.not_mem_nil,
    or_false] at member
  rcases member with (rfl | ⟨c, -, escaped⟩) | rfl
  · decide
  · exact escapeChar_printable c d escaped
  · decide

end NotebookKernel.Json
