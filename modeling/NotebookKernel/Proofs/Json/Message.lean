import NotebookKernel.Json.Decoder
import NotebookKernel.Proofs.Text.Control

/-!
What is said about a text that is not the JSON that was asked for. A fault of grammar is told
in fixed words; the wrong shape of a value is told with what was found, which is quoted, and
with the names that were asked for. So no text gets a control character into the message.
-/

namespace NotebookKernel.Json

open Text (ControlFree)

section Words

theorem Found.message_controlFree (found : Found) : ControlFree found.message := by
  cases found with
  | boolean b => cases b <;> decide
  | integer i => exact .append (.append (by decide) (Text.int_controlFree i)) (by decide)
  | floating x => exact .append (.append (by decide) x.text_controlFree) (by decide)
  | string s => exact .append (by decide) (Text.quoted_controlFree s)
  | null | sequence | map | unitVariant => decide

theorem Cause.message_controlFree {cause : Cause} (grammar : cause.category ≠ .data) :
    ControlFree cause.message := by
  cases cause with
  | mismatch m => exact absurd rfl grammar
  | _ => decide

theorem Error.message_controlFree {e : Error} (cause : ControlFree e.cause.message) :
    ControlFree e.message := by
  unfold message
  split
  · rename_i place _
    have line := Text.nat_controlFree place.line
    have column := Text.nat_controlFree place.column
    exact .append (.append (.append (.append cause (by decide)) line) (by decide)) column
  · exact cause

end Words

@[simp]
theorem Stop.behind_cause (cause : Cause) (unread : List Char) :
    (Stop.behind cause unread).cause = cause := rfl

@[simp]
theorem Stop.next_cause (cause : Cause) (unread : List Char) :
    (Stop.next cause unread).cause = cause := rfl

/-- Faults of grammar are all that such a reading fails with. -/
def Grammatical {α : Type} (reading : Except Stop α) : Prop :=
  ∀ stop, reading = .error stop → stop.cause.category ≠ .data

namespace Grammatical

variable {α β : Type} {stop : Stop}

@[simp]
theorem ok (a : α) : Grammatical (.ok a) := nofun

@[simp]
theorem error_iff : Grammatical (.error stop : Except Stop α) ↔ stop.cause.category ≠ .data := by
  simp [Grammatical]

@[simp]
theorem map_iff {f : α → β} {reading : Except Stop α} :
    Grammatical (reading.map f) ↔ Grammatical reading := by
  cases reading <;> simp [Except.map]

/-- A fault is passed on as it is. -/
theorem passes {reading : Except Stop α} (grammar : Grammatical reading)
    (failed : reading = .error stop) : Grammatical (.error stop : Except Stop β) :=
  error_iff.mpr (grammar stop failed)

end Grammatical

section Scan

theorem keyword_grammatical (word cs : List Char) : Grammatical (keyword word cs) := by
  fun_induction keyword word cs with
  | case3 k ks cs ih => exact ih
  | _ => simp [Cause.category]

theorem hex4_grammatical (cs : List Char) : Grammatical (hex4 cs) := by
  unfold hex4
  split <;> split <;> simp [Cause.category]

theorem trailing_grammatical (high : Nat) (cs : List Char) : Grammatical (trailing high cs) := by
  unfold trailing
  split
  · simp [Cause.category]
  · split
    · simp [Cause.category]
    · split
      · rename_i failed
        exact (hex4_grammatical _).passes failed
      · split <;> simp [Cause.category]
    · simp [Cause.category]
  · simp [Cause.category]

theorem unicodeEscape_grammatical (cs : List Char) : Grammatical (unicodeEscape cs) := by
  unfold unicodeEscape
  split
  · rename_i failed
    exact (hex4_grammatical cs).passes failed
  · split
    · simp [Cause.category]
    · split
      · exact trailing_grammatical _ _
      · simp

theorem escape_grammatical (cs : List Char) : Grammatical (escape cs) := by
  unfold escape
  split
  · simp [Cause.category]
  · split
    · exact unicodeEscape_grammatical _
    · split <;> simp [Cause.category]

theorem stringBody_grammatical (cs : List Char) : Grammatical (stringBody cs) := by
  fun_induction stringBody cs with
  | case3 rest stop failed _ => exact (escape_grammatical rest).passes failed
  | case4 rest plain behind _ _ stop failed _ ih => exact ih.passes failed
  | case7 c rest _ _ _ stop failed ih => exact ih.passes failed
  | _ => simp [Cause.category]

theorem string_grammatical (cs : List Char) : Grammatical (string cs) :=
  Grammatical.map_iff.mpr (stringBody_grammatical cs)

variable (negative : Bool) (significand : Nat) (power : Int) (cs : List Char)

theorem floating_grammatical : Grammatical (floating negative significand power cs) := by
  unfold floating
  split <;> simp [Cause.category]

theorem exponent_grammatical : Grammatical (exponent negative significand power cs) := by
  unfold exponent
  split
  split
  · simp [Cause.category]
  · split
    · simp [Cause.category]
    · split
      split
      · split <;> simp [Cause.category]
      · exact floating_grammatical _ _ _ _

theorem scaled_grammatical : Grammatical (scaled negative significand power cs) := by
  unfold scaled
  split
  · split
    · exact exponent_grammatical _ _ _ _
    · exact floating_grammatical _ _ _ _
  · exact floating_grammatical _ _ _ _

theorem decimals_grammatical : Grammatical (decimals negative significand power cs) := by
  simp only [decimals]
  split
  · exact scaled_grammatical _ _ _ _
  · split
    · split <;> simp [Cause.category]
    · exact scaled_grammatical _ _ _ _

theorem afterInteger_grammatical : Grammatical (afterInteger negative significand cs) := by
  simp only [afterInteger]
  split
  · exact decimals_grammatical _ _ _ _
  · split
    · exact scaled_grammatical _ _ _ _
    · simp

theorem number_grammatical : Grammatical (number negative cs) := by
  unfold number
  split
  · simp [Cause.category]
  · split
    · split
      · simp [Cause.category]
      · exact afterInteger_grammatical _ _ _
    · split
      · exact afterInteger_grammatical _ _ _
      · simp [Cause.category]

end Scan

section Nested

theorem colon_grammatical (cs : List Char) : Grammatical (colon cs) := by
  unfold colon
  split <;> simp [Cause.category]

/-- Each part of the reader with so much fuel. -/
structure AllGrammatical (fuel : Nat) : Prop where
  value : ∀ rooms cs, Grammatical (readValue fuel rooms cs)
  list : ∀ rooms cs, Grammatical (readList fuel rooms cs)
  items : ∀ rooms cs, Grammatical (readItems fuel rooms cs)
  object : ∀ rooms cs, Grammatical (readObject fuel rooms cs)
  members : ∀ rooms cs, Grammatical (readMembers fuel rooms cs)

variable {fuel rooms : Nat}

theorem value_grammatical (list : ∀ rooms cs, Grammatical (readList fuel rooms cs))
    (object : ∀ rooms cs, Grammatical (readObject fuel rooms cs)) (cs : List Char) :
    Grammatical (readValue (fuel + 1) rooms cs) := by
  rw [readValue]
  split
  · simp [Cause.category]
  · rename_i c rest _
    iterate 3
      split
      · exact Grammatical.map_iff.mpr (keyword_grammatical _ _)
    split
    · exact Grammatical.map_iff.mpr (string_grammatical _)
    split
    · exact number_grammatical _ _
    split
    · exact number_grammatical _ _
    split
    · cases rooms with
      | zero => simp [Cause.category]
      | succ rooms => exact Grammatical.map_iff.mpr (list rooms _)
    split
    · cases rooms with
      | zero => simp [Cause.category]
      | succ rooms => exact Grammatical.map_iff.mpr (object rooms _)
    · simp [Cause.category]

theorem list_grammatical (items : ∀ cs, Grammatical (readItems fuel rooms cs)) (cs : List Char) :
    Grammatical (readList (fuel + 1) rooms cs) := by
  rw [readList]
  split
  · simp [Cause.category]
  · simp
  · exact items _

theorem items_grammatical (value : ∀ cs, Grammatical (readValue fuel rooms cs))
    (items : ∀ cs, Grammatical (readItems fuel rooms cs)) (cs : List Char) :
    Grammatical (readItems (fuel + 1) rooms cs) := by
  rw [readItems]
  split
  · rename_i failed
    exact (value cs).passes failed
  · split
    · simp [Cause.category]
    · simp
    · split
      · simp [Cause.category]
      · simp [Cause.category]
      · exact Grammatical.map_iff.mpr (items _)
    · simp [Cause.category]

theorem object_grammatical (members : ∀ cs, Grammatical (readMembers fuel rooms cs))
    (cs : List Char) : Grammatical (readObject (fuel + 1) rooms cs) := by
  rw [readObject]
  split
  · simp [Cause.category]
  · simp
  · exact members _
  · simp [Cause.category]

theorem members_grammatical (value : ∀ cs, Grammatical (readValue fuel rooms cs))
    (members : ∀ cs, Grammatical (readMembers fuel rooms cs)) (cs : List Char) :
    Grammatical (readMembers (fuel + 1) rooms cs) := by
  rw [readMembers]
  split
  · rename_i failed
    exact (string_grammatical cs).passes failed
  · split
    · rename_i failed
      exact (colon_grammatical _).passes failed
    · split
      · rename_i failed
        exact (value _).passes failed
      · split
        · simp [Cause.category]
        · simp
        · split
          · simp [Cause.category]
          · simp [Cause.category]
          · exact Grammatical.map_iff.mpr (members _)
          · simp [Cause.category]
        · simp [Cause.category]

theorem allGrammatical (fuel : Nat) : AllGrammatical fuel := by
  induction fuel with
  | zero =>
    constructor
    all_goals
      intro rooms cs
      simp [readValue, readList, readItems, readObject, readMembers, Cause.category]
  | succ fuel ih =>
    exact {
      value := fun _ => value_grammatical ih.list ih.object
      list := fun rooms => list_grammatical (ih.items rooms)
      items := fun rooms => items_grammatical (ih.value rooms) (ih.items rooms)
      object := fun rooms => object_grammatical (ih.members rooms)
      members := fun rooms => members_grammatical (ih.value rooms) (ih.members rooms) }

/-- A text that is read for any value at all has no wrong shape. -/
theorem readText_grammatical (cs : List Char) : Grammatical (readText cs) := by
  unfold readText whole
  split
  · rename_i failed
    exact ((allGrammatical _).value _ _).passes failed
  · split <;> simp [Cause.category]

end Nested

/-- Whatever is wrong with a value is said without control characters. -/
def Legible {α : Type} (taken : Except Mismatch α) : Prop :=
  ∀ m, taken = .error m → ControlFree m.message

namespace Legible

variable {α β : Type} {m : Mismatch}

theorem ok (a : α) : Legible (.ok a) := nofun

theorem error (message : ControlFree m.message) : Legible (.error m : Except Mismatch α) := by
  rintro _ ⟨⟩
  exact message

theorem map {taken : Except Mismatch α} (legible : Legible taken) (f : α → β) :
    Legible (taken.map f) := by
  cases taken with
  | ok a => exact .ok (f a)
  | error m => exact .error (legible m rfl)

/-- A fault is passed on as it is. -/
theorem passes {taken : Except Mismatch α} (legible : Legible taken) (failed : taken = .error m) :
    Legible (.error m : Except Mismatch β) :=
  .error (legible m failed)

end Legible

section Shape

theorem invalidType_controlFree (found : Found) {expected : String} (words : ControlFree expected) :
    ControlFree (Mismatch.invalidType found expected).message :=
  .append (.append (.append (by decide) found.message_controlFree) (by decide)) words

theorem invalidLength_controlFree (length : Nat) {expected : String}
    (words : ControlFree expected) :
    ControlFree (Mismatch.invalidLength length expected).message :=
  .append (.append (.append (by decide) (Text.nat_controlFree length)) (by decide)) words

theorem missingField_controlFree {name : String} (words : ControlFree name) :
    ControlFree (Mismatch.missingField name).message :=
  .append (.append (by decide) words) (by decide)

theorem duplicateField_controlFree {name : String} (words : ControlFree name) :
    ControlFree (Mismatch.duplicateField name).message :=
  .append (.append (by decide) words) (by decide)

theorem stringAs_legible {expected : String} (words : ControlFree expected) (value : Json) :
    Legible ((stringAs expected).fromValue value) := by
  cases value with
  | str s => exact .ok s
  | _ => exact .error (invalidType_controlFree _ words)

theorem need_legible {α : Type} {name : String} (words : ControlFree name) (value : Option α) :
    Legible (need name value) := by
  cases value with
  | some a => exact .ok a
  | none => exact .error (missingField_controlFree words)

/-- A record that is asked for in plain words, of fields that are asked for so. -/
structure Record.Worded {σ α : Type} (record : Record σ α) : Prop where
  name : ControlFree record.name
  fields : ∀ f ∈ record.fields,
    ControlFree f.name ∧ ∀ draft value, Legible (f.fromValue draft value)
  finish : ∀ draft, Legible (record.finish draft)

namespace Record.Worded

variable {σ α : Type} {record : Record σ α} (worded : record.Worded)

include worded

theorem sized : ControlFree record.sized := by
  have plural : ControlFree (if record.fields.length = 1 then "" else "s") := by
    split <;> decide
  have count := Text.nat_controlFree record.fields.length
  exact .append (.append (.append (.append worded.name (by decide)) count) (by decide)) plural

theorem valueItems {fields : List (Field σ)} (known : ∀ f ∈ fields, f ∈ record.fields)
    (index : Nat) (draft : σ) (items : List Json) :
    Legible (record.valueItems fields index draft items) := by
  induction fields generalizing index draft items with
  | nil => exact .ok _
  | cons f fields ih =>
    obtain ⟨first, others⟩ := List.forall_mem_cons.mp known
    cases items with
    | nil =>
      rw [Record.valueItems]
      split
      · exact ih others index draft []
      · exact .error (invalidLength_controlFree index worded.sized)
    | cons item items =>
      rw [Record.valueItems]
      split
      · rename_i failed
        exact ((worded.fields f first).2 draft item).passes failed
      · exact ih others _ _ items

theorem valueMembers (draft : σ) (members : List (String × Json)) :
    Legible (record.valueMembers draft members) := by
  induction members generalizing draft with
  | nil => exact .ok draft
  | cons member members ih =>
    rw [Record.valueMembers]
    split
    · exact ih draft
    · rename_i f found
      obtain ⟨words, legible⟩ := worded.fields f (List.mem_of_find?_eq_some found)
      have named : f.name = member.1 := by simpa using List.find?_some found
      split
      · exact .error (duplicateField_controlFree (named ▸ words))
      · split
        · rename_i failed
          exact (legible draft member.2).passes failed
        · exact ih _

theorem fromValue (value : Json) : Legible (record.fromValue value) := by
  cases value with
  | arr items =>
    rw [Record.fromValue]
    split
    · rename_i failed
      exact (worded.valueItems (fun _ => id) 0 record.empty items).passes failed
    · split
      · rename_i failed
        exact (worded.finish _).passes failed
      · split
        · exact .ok _
        · exact .error (invalidLength_controlFree items.length (by decide))
  | obj members =>
    rw [Record.fromValue]
    split
    · rename_i failed
      exact (worded.valueMembers record.empty members).passes failed
    · exact worded.finish _
  | _ => exact .error (invalidType_controlFree _ worded.name)

end Record.Worded

end Shape

end NotebookKernel.Json
