import NotebookKernel.Number.Shortest
import NotebookKernel.Text.Quoted

/-!
Texts without control characters: they stay on their line, and a terminal shows them and does
nothing else. Quoted texts are such texts, whatever is quoted, and so are written numbers.
-/

namespace NotebookKernel

namespace Text

/-- The characters of the general category Cc. -/
def IsControl (c : Char) : Prop := c.toNat ≤ 0x1F ∨ 0x7F ≤ c.toNat ∧ c.toNat ≤ 0x9F

instance (c : Char) : Decidable (IsControl c) :=
  inferInstanceAs (Decidable (c.toNat ≤ 0x1F ∨ 0x7F ≤ c.toNat ∧ c.toNat ≤ 0x9F))

def ControlFree (text : String) : Prop := ∀ c ∈ text.toList, ¬ IsControl c

instance (text : String) : Decidable (ControlFree text) :=
  List.decidableBAll (fun c => ¬ IsControl c) text.toList

theorem ControlFree.append {a b : String} (left : ControlFree a) (right : ControlFree b) :
    ControlFree (a ++ b) := by
  rw [ControlFree, String.toList_append, List.forall_mem_append]
  exact ⟨left, right⟩

theorem controlFree_ofList {cs : List Char} :
    ControlFree (.ofList cs) ↔ ∀ c ∈ cs, ¬ IsControl c := by
  rw [ControlFree, String.toList_ofList]

/-- Control characters do not show. -/
theorem isHidden_of_isControl {c : Char} (control : IsControl c) : isHidden c = true := by
  have low : (0x0, 0x1F) ∈ hiddenRanges := .head _
  have high : (0x7F, 0xA0) ∈ hiddenRanges := .tail _ (.head _)
  rw [isHidden, List.any_eq_true]
  rcases control with small | ⟨above, below⟩
  · exact ⟨_, low, by simp [small]⟩
  · exact ⟨_, high, by simp; omega⟩

theorem toDigits_controlFree {base : Nat} (large : 1 < base) (small : base ≤ 16) (n : Nat) :
    ∀ c ∈ Nat.toDigits base n, ¬ IsControl c := by
  have digit : ∀ d < 16, ¬ IsControl (Nat.digitChar d) := by decide
  induction n using Nat.strongRecOn with
  | ind n ih =>
    by_cases single : n < base
    · rw [Nat.toDigits_of_lt_base single]
      simpa using digit n (by omega)
    · have last : n % base < base := Nat.mod_lt n (by omega)
      rw [Nat.toDigits_of_base_le large (by omega), List.forall_mem_append]
      exact ⟨ih (n / base) (Nat.div_lt_self (by omega) large),
        by simpa using digit (n % base) (by omega)⟩

theorem quoteChar_controlFree (c : Char) : ∀ d ∈ quoteChar c, ¬ IsControl d := by
  unfold quoteChar
  iterate 6
    split
    · exact controlFree_ofList.mp (by decide)
  split
  · have digits : ∀ d ∈ lowerHexDigits c.toNat, ¬ IsControl d :=
      toDigits_controlFree (by decide) (by decide) c.toNat
    rw [List.forall_mem_append, List.forall_mem_append]
    exact ⟨⟨controlFree_ofList.mp (by decide), digits⟩, controlFree_ofList.mp (by decide)⟩
  · rename_i visible
    have shown : ¬ IsControl c := fun control => visible (isHidden_of_isControl control)
    simpa using shown

theorem quoted_controlFree (text : String) : ControlFree (quoted text) := by
  rw [quoted, controlFree_ofList, List.forall_mem_append, List.forall_mem_cons]
  refine ⟨⟨by decide, fun d member => ?_⟩, controlFree_ofList.mp (by decide)⟩
  obtain ⟨c, _, written⟩ := List.mem_flatMap.mp member
  exact quoteChar_controlFree c d written

theorem nat_controlFree (n : Nat) : ControlFree (toString n) := by
  rw [ControlFree]
  exact Nat.toList_repr ▸ toDigits_controlFree (by decide) (by decide) n

theorem int_controlFree (i : Int) : ControlFree (toString i) := by
  cases i with
  | ofNat n => exact nat_controlFree n
  | negSucc n =>
    exact .append (by decide) (nat_controlFree (n + 1))

end Text

namespace Binary64

open Text

/-- The digits that are kept are digits of a number. -/
theorem trimmed_controlFree (d : Decimal) : ∀ c ∈ d.trimmed.1, ¬ IsControl c := by
  intro c member
  have digit : c ∈ Nat.toDigits 10 d.digits := by
    have kept := List.dropWhile_sublist (· == '0') |>.subset (List.mem_reverse.mp member)
    exact List.mem_reverse.mp kept
  exact toDigits_controlFree (by decide) (by decide) _ c digit

theorem text_controlFree (x : Binary64) : ControlFree x.text := by
  have sign : ControlFree (if x.negative then "-" else "") := by
    cases x.negative <;> decide
  have zeros (n : Nat) : ∀ c ∈ List.replicate n '0', ¬ IsControl c := by
    intro c member
    rw [List.eq_of_mem_replicate member]
    decide
  have kept := trimmed_controlFree x.shortest
  rw [text]
  generalize x.shortest.trimmed = decimal at kept ⊢
  obtain ⟨digits, power⟩ := decimal
  simp only at kept ⊢
  split
  · exact .append sign (by decide)
  refine .append sign (controlFree_ofList.mpr ?_)
  split
  · simp only [List.forall_mem_append]
    exact ⟨⟨kept, zeros _⟩, controlFree_ofList.mp (by decide)⟩
  split
  · rw [List.forall_mem_append, List.forall_mem_cons]
    exact ⟨fun c member => kept c (List.mem_of_mem_take member), by decide,
      fun c member => kept c (List.mem_of_mem_drop member)⟩
  split
  · simp only [List.cons_append, List.forall_mem_cons, List.forall_mem_append]
    exact ⟨by decide, by decide, zeros _, kept⟩
  · rw [List.forall_mem_append, List.forall_mem_cons, List.forall_mem_cons]
    refine ⟨?_, by decide, by split <;> decide,
      toDigits_controlFree (by decide) (by decide) _⟩
    split
    · exact kept
    · obtain ⟨first, others⟩ := List.forall_mem_cons.mp kept
      simp only [List.forall_mem_cons]
      exact ⟨first, by decide, others⟩
    · exact kept

end Binary64

end NotebookKernel
