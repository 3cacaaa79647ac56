import NotebookKernel.Proofs.Text.Case
import NotebookKernel.Toolchain

/-!
The names of the release channels. Comparing the lower case of a name by the whole character
database accepts no more than the names of the channels in any mixture of their own letters'
cases.
-/

namespace NotebookKernel.Toolchain

/-- Two texts that differ at most in the case of letters from `A` to `Z`. -/
def SameLetters (s t : String) : Prop :=
  s.toList.map Char.toLower = t.toList.map Char.toLower

instance (s t : String) : Decidable (SameLetters s t) := by
  unfold SameLetters
  infer_instance

theorem name_plain (toolchain : Toolchain) : ∀ c ∈ toolchain.name.toList, Text.IsPlainLetter c := by
  cases toolchain <;> simp [name, Text.IsPlainLetter]

theorem name_lower (toolchain : Toolchain) :
    toolchain.name.toList.map Char.toLower = toolchain.name.toList := by
  cases toolchain <;> rfl

theorem name_letters (toolchain : Toolchain) : ∀ c ∈ toolchain.name.toList, c.isAlpha := by
  cases toolchain <;> simp [name]

theorem name_injective {t u : Toolchain} (same : t.name = u.name) : t = u := by
  revert same
  cases t <;> cases u <;> decide

theorem name_eq_lowercase (toolchain : Toolchain) (name : String) :
    toolchain.name = Text.lowercase name ↔ SameLetters name toolchain.name := by
  rw [eq_comm, Text.lowercase_eq_iff name toolchain.name_plain, SameLetters, toolchain.name_lower]

theorem ofName_eq_ok {name : String} {toolchain : Toolchain} :
    ofName name = .ok toolchain ↔ SameLetters name toolchain.name := by
  rw [← name_eq_lowercase, ofName]
  constructor
  · intro named
    split at named
    · rename_i found same
      cases named
      simpa using List.find?_some same
    · cases named
  · intro same
    have only : ∀ other : Toolchain, other.name = Text.lowercase name → other = toolchain :=
      fun other its => name_injective (its.trans same.symm)
    split
    · rename_i other found
      rw [only other (by simpa using List.find?_some found)]
    · rename_i none
      have listed : toolchain ∈ all := by cases toolchain <;> decide
      exact absurd same (by simpa using List.find?_eq_none.mp none toolchain listed)

/-- A refusal holds the name as it was written. -/
theorem ofName_eq_error {name : String} {unknown : Unknown} :
    ofName name = .error unknown ↔
      unknown = ⟨name⟩ ∧ ∀ toolchain : Toolchain, ¬ SameLetters name toolchain.name := by
  simp only [← ofName_eq_ok]
  constructor
  · intro refused
    refine ⟨?_, fun toolchain accepted => ?_⟩
    · rw [ofName] at refused
      split at refused <;> cases refused
      rfl
    · rw [accepted] at refused
      cases refused
  · rintro ⟨rfl, others⟩
    cases named : ofName name with
    | ok toolchain => exact absurd named (others toolchain)
    | error unknown =>
      rw [ofName] at named
      split at named <;> cases named
      rfl

/-- There is nothing in front of a channel's name or behind it, and nothing in it but letters from
`A` to `Z` and `a` to `z`. -/
theorem SameLetters.letters {name : String} {toolchain : Toolchain}
    (same : SameLetters name toolchain.name) :
    name.length = toolchain.name.length ∧ ∀ c ∈ name.toList, c.isAlpha := by
  constructor
  · have lengths := congrArg List.length same
    simpa only [List.length_map, String.length_toList] using lengths
  · intro c inside
    have lowered : c.toLower ∈ toolchain.name.toList := by
      rw [← name_lower, ← same]
      exact List.mem_map_of_mem inside
    rw [← Char.isAlpha_toLower_eq_isAlpha]
    exact toolchain.name_letters _ lowered

/-- For every text: it names a channel exactly if it is the channel's name but for the case of
letters from `A` to `Z`, and then it has as many characters, all of them such letters; any other
text is refused as it stands. -/
theorem ofName_iff (name : String) :
    (∀ toolchain, ofName name = .ok toolchain ↔ SameLetters name toolchain.name) ∧
    (∀ toolchain, ofName name = .ok toolchain →
      name.length = toolchain.name.length ∧ ∀ c ∈ name.toList, c.isAlpha) ∧
    ∀ unknown, ofName name = .error unknown ↔
      unknown = ⟨name⟩ ∧ ∀ toolchain : Toolchain, ¬ SameLetters name toolchain.name :=
  ⟨fun _ => ofName_eq_ok, fun _ named => (ofName_eq_ok.mp named).letters, fun _ => ofName_eq_error⟩

/-- Mixed cases pass; a small long s, which has the letter s as its capital, does not. -/
theorem ofName_iff_stable :
    ("STaBLe".length = Toolchain.stable.name.length ∧ ∀ c ∈ "STaBLe".toList, c.isAlpha) ∧
      ofName "STaBLe" = .ok .stable ∧ ofName "ſtable" = .error ⟨"ſtable"⟩ := by
  obtain ⟨accepted, letters, -⟩ := ofName_iff "STaBLe"
  obtain ⟨-, -, refused⟩ := ofName_iff "ſtable"
  have named : ofName "STaBLe" = .ok .stable := (accepted .stable).mpr rfl
  refine ⟨letters .stable named, named, (refused _).mpr ⟨rfl, ?_⟩⟩
  intro toolchain
  cases toolchain <;> exact of_decide_eq_false rfl

end NotebookKernel.Toolchain
