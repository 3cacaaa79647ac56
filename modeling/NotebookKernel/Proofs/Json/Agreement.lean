import NotebookKernel.Json.Decoder
import NotebookKernel.Proofs.Json.Spelling

/-!
Decoders that take from a text what they take from the JSON value of the text: those of strings
and of numbers, and those of values that may be null.
-/

namespace NotebookKernel.Json

theorem Begins.read {fuel rooms : Nat} {c : Char} {cs rest : List Char} {value : Json}
    (begins : Begins fuel rooms c cs value rest) :
    readValue (fuel + 1) rooms (c :: cs) = .ok (value, rest) := by
  have visible : isSpace c = false := by
    cases begins with
    | digit digit => exact (digit_visible digit).1
    | _ => rfl
  have here : skip (c :: cs) = c :: cs := skip_visible visible cs
  cases begins with
  | null | isTrue | isFalse =>
    simp only [readValue, here, Char.reduceEq, if_true, if_false]
    exact named_ok.mpr ⟨rfl, rfl⟩
  | text read =>
    simp only [readValue, here, Char.reduceEq, if_true, if_false]
    exact map_ok.mpr ⟨_, read, rfl⟩
  | negative read => simp only [readValue, here, Char.reduceEq, if_true, if_false, read]
  | digit digit read =>
    obtain ⟨-, notNull, notTrue, notFalse, notText, notMinus⟩ := digit_visible digit
    simp only [readValue, here, if_neg notNull, if_neg notTrue, if_neg notFalse, if_neg notText,
      if_neg notMinus, digit, if_true, read]
  | list room read =>
    subst room
    rw [readValue_list]
    exact map_ok.mpr ⟨_, read, rfl⟩
  | object room read =>
    subst room
    rw [readValue_object]
    exact map_ok.mpr ⟨_, read, rfl⟩

/-- The text begins with this value, whatever fuel it takes to read it. -/
def ReadsAs (rooms : Nat) (cs : List Char) (value : Json) (rest : List Char) : Prop :=
  ∃ fuel, readValue fuel rooms cs = .ok (value, rest)

namespace ReadsAs

variable {rooms : Nat} {cs rest : List Char} {value : Json}

theorem passes (reads : ReadsAs rooms cs value rest) : Passes .value cs rest := by
  obtain ⟨fuel, read⟩ := reads
  exact readValue_passes read

theorem begins (reads : ReadsAs rooms cs value rest) :
    ∃ fuel c others, skip cs = c :: others ∧ Begins fuel rooms c others value rest := by
  obtain ⟨fuel, read⟩ := reads
  cases fuel with
  | zero =>
    simp only [readValue] at read
    cases read
  | succ fuel => exact ⟨fuel, readValue_begins read⟩

theorem of_begins {fuel : Nat} {c : Char} {others : List Char} (here : skip cs = c :: others)
    (begins : Begins fuel rooms c others value rest) : ReadsAs rooms cs value rest := by
  obtain ⟨gap, cut, blank⟩ := skip_split cs
  refine ⟨fuel + 1, ?_⟩
  rw [cut, readValue_blanks blank, here]
  exact begins.read

theorem skipped : ReadsAs rooms (skip cs) value rest ↔ ReadsAs rooms cs value rest := by
  have twice : skip (skip cs) = skip cs := List.dropWhile_idempotent _ _
  constructor
  · intro reads
    obtain ⟨fuel, c, others, here, begins⟩ := reads.begins
    exact of_begins (twice.symm.trans here) begins
  · intro reads
    obtain ⟨fuel, c, others, here, begins⟩ := reads.begins
    exact of_begins (twice.trans here) begins

theorem blanks {blanks : List Char} (blank : ∀ c ∈ blanks, isSpace c = true) :
    ReadsAs rooms (blanks ++ cs) value rest ↔ ReadsAs rooms cs value rest := by
  rw [← skipped, skip_blanks blank, skipped]

theorem shorter (reads : ReadsAs rooms cs value rest) : rest.length < cs.length := by
  obtain ⟨used, spells, rfl, -⟩ := reads.passes
  have some : 0 < used.length := List.length_pos_iff.mpr spells.ne_nil
  rw [List.length_append]
  omega

/-- With any fuel that is enough for the length, if nothing follows that a number could go on
with. -/
theorem read (reads : ReadsAs rooms cs value rest) (ended : endsNumber rest = true) {fuel : Nat}
    (enough : 2 * cs.length ≤ fuel) : readValue fuel rooms cs = .ok (value, rest) := by
  obtain ⟨least, read⟩ := reads
  obtain ⟨used, rfl, again⟩ := readValue_stretch read
  simp only [List.length_append] at enough
  exact again fuel rest (by omega) ended

end ReadsAs

/-- Only null begins with its letter. -/
theorem Begins.null_iff {fuel rooms : Nat} {c : Char} {cs rest : List Char} {value : Json}
    (begins : Begins fuel rooms c cs value rest) : c = 'n' ↔ value = .null := by
  cases begins with
  | null => simp
  | negative read => cases number_numeric read <;> simp
  | digit digit read =>
    have other := (digit_visible digit).2.1
    cases number_numeric read <;> simp [other]
  | _ => exact ⟨nofun, nofun⟩

section Scalars

variable {rooms : Nat} {cs rest : List Char}

theorem readsAs_str {s : String} :
    ReadsAs rooms cs (.str s) rest ↔
      ∃ others, skip cs = '"' :: others ∧ string others = .ok (s, rest) := by
  constructor
  · intro reads
    obtain ⟨fuel, c, others, here, begins⟩ := reads.begins
    cases begins with
    | text read => exact ⟨others, here, read⟩
    | negative read => cases number_numeric read
    | digit digit read => cases number_numeric read
  · rintro ⟨others, here, read⟩
    have begins : Begins 0 rooms '"' others (.str s) rest := .text read
    exact .of_begins here begins

theorem readsAs_null :
    ReadsAs rooms cs .null rest ↔ skip cs = ['n', 'u', 'l', 'l'] ++ rest := by
  constructor
  · intro reads
    obtain ⟨fuel, c, others, here, begins⟩ := reads.begins
    obtain rfl := begins.null_iff.mpr rfl
    cases begins with
    | null => exact here
    | digit digit => cases digit
  · intro here
    have begins : Begins 0 rooms 'n' (['u', 'l', 'l'] ++ rest) .null rest := .null rest
    exact .of_begins here begins

end Scalars

/-- The decoder takes from a text what it takes from the value that the text begins with. -/
def Decoder.Agrees {α : Type} (decoder : Decoder α) : Prop :=
  ∀ rooms cs a rest, decoder.fromText rooms cs = .ok (a, rest) ↔
    ∃ value, ReadsAs rooms cs value rest ∧ decoder.fromValue value = .ok a

namespace Decoder

variable {α β : Type} {rooms : Nat} {cs rest : List Char}

theorem stringAs_agrees (expected : String) : (stringAs expected).Agrees := by
  intro rooms cs s rest
  constructor
  · intro taken
    simp only [stringAs, textFrom] at taken
    split at taken
    · rename_i others here
      exact ⟨.str s, readsAs_str.mpr ⟨others, here, taken⟩, rfl⟩
    · cases taken
  · rintro ⟨value, reads, named⟩
    cases value with
    | str t =>
      cases named
      obtain ⟨others, here, read⟩ := readsAs_str.mp reads
      simp only [stringAs, textFrom, here, read]
    | _ => cases named

theorem integerOf_ok {expected : String} {low high i : Int} {value : Json} :
    integerOf expected low high value = .ok i ↔ value = .int i ∧ low ≤ i ∧ i < high := by
  cases value with
  | int j =>
    by_cases within : low ≤ j ∧ j < high
    · simp only [integerOf, if_pos within, Except.ok.injEq, Json.int.injEq]
      constructor
      · rintro rfl
        exact ⟨rfl, within⟩
      · exact fun same => same.1
    · simp only [integerOf, if_neg within, Json.int.injEq]
      constructor
      · rintro ⟨⟩
      · rintro ⟨rfl, bounds⟩
        exact absurd bounds within
  | _ => simp [integerOf]

/-- The sign or the first digit tells how the number is read. -/
theorem integerAs_number {expected : String} {low high i : Int} {c : Char} {others : List Char}
    (here : skip cs = c :: others) {reading : Reading Json}
    (first : c = '-' ∧ reading = number true others ∨
      c ≠ '-' ∧ isDigit c = true ∧ reading = number false (c :: others)) :
    (integerAs expected low high).fromText rooms cs = .ok (i, rest) ↔
      ∃ value, reading = .ok (value, rest) ∧ integerOf expected low high value = .ok i := by
  rcases first with ⟨rfl, rfl⟩ | ⟨notMinus, digit, rfl⟩
  · cases read : number true others with
    | error stop => simp [integerAs, here, read]
    | ok result => cases taken : integerOf expected low high result.1 <;> grind [integerAs]
  · cases read : number false (c :: others) with
    | error stop => simp [integerAs, here, notMinus, digit, read]
    | ok result => cases taken : integerOf expected low high result.1 <;> grind [integerAs]

theorem integerAs_agrees (expected : String) (low high : Int) :
    (integerAs expected low high).Agrees := by
  intro rooms cs i rest
  constructor
  · intro taken
    cases here : skip cs with
    | nil =>
      simp only [integerAs, here] at taken
      cases taken
    | cons c others =>
      by_cases minus : c = '-'
      · subst minus
        obtain ⟨value, read, within⟩ := (integerAs_number here (.inl ⟨rfl, rfl⟩)).mp taken
        have begins : Begins 0 rooms '-' others value rest := .negative read
        exact ⟨value, .of_begins here begins, within⟩
      · by_cases digit : isDigit c = true
        · obtain ⟨value, read, within⟩ :=
            (integerAs_number here (.inr ⟨minus, digit, rfl⟩)).mp taken
          have begins : Begins 0 rooms c others value rest := .digit digit read
          exact ⟨value, .of_begins here begins, within⟩
        · simp only [integerAs, here, if_neg minus, if_neg digit] at taken
          cases taken
  · rintro ⟨value, reads, within⟩
    have within : integerOf expected low high value = .ok i := within
    obtain ⟨rfl, -⟩ := integerOf_ok.mp within
    obtain ⟨fuel, c, others, here, begins⟩ := reads.begins
    cases begins with
    | negative read =>
      exact (integerAs_number here (.inl ⟨rfl, rfl⟩)).mpr ⟨.int i, read, within⟩
    | digit digit read =>
      obtain ⟨-, -, -, -, -, minus⟩ := digit_visible digit
      exact (integerAs_number here (.inr ⟨minus, digit, rfl⟩)).mpr ⟨.int i, read, within⟩

theorem map_eq_ok {ε : Type} {f : α → β} {outcome : Except ε α} {b : β} :
    outcome.map f = .ok b ↔ ∃ a, outcome = .ok a ∧ f a = b := by
  cases outcome <;> simp [Except.map]

theorem Agrees.map {decoder : Decoder α} (agrees : decoder.Agrees) (f : α → β) :
    (decoder.map f).Agrees := by
  intro rooms cs b rest
  constructor
  · intro taken
    obtain ⟨a, taken, same⟩ := map_ok.mp taken
    obtain ⟨value, reads, accepted⟩ := (agrees _ _ _ _).mp taken
    exact ⟨value, reads, map_eq_ok.mpr ⟨a, accepted, same⟩⟩
  · rintro ⟨value, reads, taken⟩
    obtain ⟨a, accepted, same⟩ := map_eq_ok.mp taken
    exact map_ok.mpr ⟨a, (agrees _ _ _ _).mpr ⟨value, reads, accepted⟩, same⟩

end Decoder

namespace Decoder

variable {α : Type}

theorem nullable_value (inner : Decoder α) {value : Json} (given : value ≠ .null) :
    (nullable inner).fromValue value = (inner.fromValue value).map some := by
  cases value with
  | null => exact absurd rfl given
  | _ => rfl

theorem Agrees.nullable {inner : Decoder α} (agrees : inner.Agrees) :
    (Json.nullable inner).Agrees := by
  intro rooms cs a rest
  constructor
  · intro taken
    simp only [Json.nullable] at taken
    split at taken
    · rename_i others here
      obtain ⟨rfl, rfl⟩ := word_ok.mp taken
      exact ⟨.null, readsAs_null.mpr here, rfl⟩
    · rename_i given
      obtain ⟨b, inside, rfl⟩ := map_ok.mp taken
      obtain ⟨value, reads, accepted⟩ := (agrees _ _ _ _).mp inside
      have reads := ReadsAs.skipped.mp reads
      have notNull : value ≠ .null := by
        rintro rfl
        exact given _ (readsAs_null.mp reads)
      exact ⟨value, reads, by rw [nullable_value inner notNull, accepted]; rfl⟩
  · rintro ⟨value, reads, taken⟩
    by_cases null : value = .null
    · subst null
      cases taken
      simp only [Json.nullable, readsAs_null.mp reads, List.cons_append, List.nil_append]
      exact word_ok.mpr ⟨rfl, rfl⟩
    · rw [nullable_value inner null] at taken
      obtain ⟨b, accepted, rfl⟩ := map_eq_ok.mp taken
      obtain ⟨fuel, c, others, here, begins⟩ := reads.begins
      have read := (agrees rooms (skip cs) b rest).mpr ⟨value, ReadsAs.skipped.mpr reads, accepted⟩
      simp only [Json.nullable]
      split
      · rename_i named
        have letter : c = 'n' := (List.cons.inj (here.symm.trans named)).1
        exact absurd (begins.null_iff.mp letter) null
      · exact map_ok.mpr ⟨b, read, rfl⟩

/-- What is decoded is one value, and what follows it does not matter. -/
structure Regular (decoder : Decoder α) (rooms : Nat) : Prop where
  passes : ∀ cs a rest, decoder.fromText rooms cs = .ok (a, rest) → Passes .value cs rest
  ends : Local endsNumber (decoder.fromText rooms)

theorem Agrees.regular {decoder : Decoder α} (agrees : decoder.Agrees) (rooms : Nat) :
    decoder.Regular rooms where
  passes cs a rest taken := by
    obtain ⟨value, reads, -⟩ := (agrees _ _ _ _).mp taken
    exact reads.passes
  ends cs a rest taken := by
    obtain ⟨value, ⟨fuel, read⟩, accepted⟩ := (agrees _ _ _ _).mp taken
    obtain ⟨used, cut, again⟩ := readValue_stretch read
    refine ⟨used, cut, fun more ended => (agrees _ _ _ _).mpr ⟨value, ?_, accepted⟩⟩
    exact ⟨2 * used.length, again _ more (Nat.le_refl _) ended⟩

end Decoder

section Content

variable {α : Type} {content : List Char} {value : Json} {a : α}

/-- The text of a value is read to its end. -/
theorem readText_spelled (spells : Spells .value content) :
    readText content = .ok value ↔ ReadsAs maxNesting content value [] := by
  have whole : Passes .value (content ++ []) [] := spells.passes fun _ => rfl
  rw [List.append_nil] at whole
  constructor
  · intro read
    obtain ⟨trail, read, -⟩ := readText_ok.mp read
    obtain rfl := (readValue_passes read).unique whole
    exact ⟨_, read⟩
  · intro reads
    exact readText_ok.mpr ⟨[], reads.read rfl (Nat.le_add_right _ _), List.forall_mem_nil _⟩

/-- Such a decoder takes from the text of a value what it takes from the value. -/
theorem Decoder.Agrees.readText {decoder : Decoder α} (agrees : decoder.Agrees)
    (spells : Spells .value content) :
    decoder.fromText maxNesting content = .ok (a, []) ↔
      ∃ value, Json.readText content = .ok value ∧ decoder.fromValue value = .ok a := by
  simp only [agrees maxNesting content a [], readText_spelled spells]

/-- Blanks may follow. -/
theorem Decoder.ofText_ok {decoder : Decoder α} {text : String} :
    decoder.ofText text = .ok a ↔ ∃ trail,
      decoder.fromText maxNesting text.toList = .ok (a, trail) ∧ ∀ c ∈ trail, isSpace c = true := by
  cases read : decoder.fromText maxNesting text.toList with
  | error stop => simp [Decoder.ofText, Decoder.readText, read, whole, Except.mapError]
  | ok result =>
    obtain ⟨b, trail⟩ := result
    have ends : (∀ c ∈ trail, isSpace c = true) ↔ skip trail = [] :=
      List.dropWhile_eq_nil_iff.symm
    cases here : skip trail <;>
      simp [Decoder.ofText, Decoder.readText, read, whole, Except.mapError, ends, here]

end Content

end NotebookKernel.Json
