import NotebookKernel.Json.Decoder
import NotebookKernel.Proofs.Json.Canonical

/-!
A record taken from a JSON value: of an object the entries with known keys, whatever their
order, of a list the items in theirs.
-/

namespace NotebookKernel.Json.Record

variable {σ α : Type} (record : Record σ α)

/-- Unknown keys are passed over. -/
theorem valueMembers_known (draft : σ) (members : List (String × Json)) :
    record.valueMembers draft members =
      record.valueMembers draft (members.filter fun member => (record.field? member.1).isSome) := by
  induction members generalizing draft with
  | nil => rfl
  | cons member members ih =>
    obtain ⟨key, value⟩ := member
    cases known : record.field? key with
    | none =>
      simp only [valueMembers, known, List.filter_cons, Option.isSome_none, Bool.false_eq_true,
        if_false, ih draft]
    | some f =>
      simp only [valueMembers, known, List.filter_cons, Option.isSome_some, if_true, ih]

/-- Objects with the same entries for the known keys are the same record. -/
theorem fromValue_congr {members others : List (String × Json)} (ordered : Ordered members)
    (ordered' : Ordered others)
    (same : ∀ key, (record.field? key).isSome = true → find? key members = find? key others) :
    record.fromValue (.obj members) = record.fromValue (.obj others) := by
  have known := @filter_ext members others ordered ordered'
    (fun key => (record.field? key).isSome) same
  simp only [fromValue]
  rw [valueMembers_known record _ members, known, ← valueMembers_known]

theorem fromValue_members {members : List (String × Json)} {a : α} :
    record.fromValue (.obj members) = .ok a ↔
      ∃ draft, record.valueMembers record.empty members = .ok draft ∧
        record.finish draft = .ok a := by
  cases read : record.valueMembers record.empty members <;> simp [fromValue, read]

theorem fromValue_items {items : List Json} {a : α} :
    record.fromValue (.arr items) = .ok a ↔
      ∃ draft, record.valueItems record.fields 0 record.empty items = .ok (draft, []) ∧
        record.finish draft = .ok a := by
  cases read : record.valueItems record.fields 0 record.empty items with
  | error m => simp [fromValue, read]
  | ok result =>
    obtain ⟨draft, left⟩ := result
    cases finished : record.finish draft <;> cases left <;> simp [fromValue, read, finished]

variable {record} {draft last : σ} {key : String} {value : Json} {members : List (String × Json)}

/-- The first member is for a text that was not given yet. -/
theorem valueMembers_text {get : σ → Option String} {set : σ → String → σ} {mayEnd : Bool}
    (known : record.field? key = some (field key stringDecoder get set mayEnd))
    (unset : get draft = none) :
    record.valueMembers draft ((key, value) :: members) = .ok last ↔
      ∃ s, value = .str s ∧ record.valueMembers (set draft s) members = .ok last := by
  have free : (field key stringDecoder get set mayEnd).isSet draft = false := by
    simp only [field, unset, Option.isSome_none]
  simp only [valueMembers, known, free, Bool.false_eq_true, if_false]
  cases value <;> simp [field, stringDecoder, stringAs, Except.map]

theorem valueItems_text {name : String} {get : σ → Option String} {set : σ → String → σ}
    {mayEnd : Bool} {fields : List (Field σ)} {index : Nat} {item : Json} {items : List Json}
    {result : σ × List Json} :
    record.valueItems (field name stringDecoder get set mayEnd :: fields) index draft
        (item :: items) = .ok result ↔
      ∃ s, item = .str s ∧
        record.valueItems fields (index + 1) (set draft s) items = .ok result := by
  cases item <;> simp [valueItems, field, stringDecoder, stringAs, Except.map]

theorem valueMembers_unknown (unknown : record.field? key = none) :
    record.valueMembers draft ((key, value) :: members) = record.valueMembers draft members := by
  simp only [valueMembers, unknown]

end NotebookKernel.Json.Record
