import NotebookKernel.Proofs.Json.Canonical
import NotebookKernel.Proofs.Json.Locality

/-!
A value is read from a stretch at the beginning of the text, the same before whatever ends a
number, and twice its length is fuel enough. What is read has no key twice in an object.
-/

namespace NotebookKernel.Json

/-- Numbers and texts, and the words for the others. -/
inductive Scalar : Json → Prop
  | null : Scalar .null
  | bool (b : Bool) : Scalar (.bool b)
  | int (i : Int) : Scalar (.int i)
  | float (x : Binary64) : Scalar (.float x)
  | str (s : String) : Scalar (.str s)

theorem Scalar.keyed {value : Json} (scalar : Scalar value) : Keyed value := by
  cases scalar with
  | null => exact .null
  | bool b => exact .bool b
  | int i => exact .int i
  | float x => exact .float x
  | str s => exact .str s

inductive Numeric : Json → Prop
  | int (i : Int) : Numeric (.int i)
  | float (x : Binary64) : Numeric (.float x)

theorem Numeric.scalar {value : Json} (numeric : Numeric value) : Scalar value := by
  cases numeric with
  | int i => exact .int i
  | float x => exact .float x

section Numbers

variable {negative : Bool} {significand : Nat} {power : Int} {cs rest : List Char} {value : Json}

theorem floating_numeric (found : floating negative significand power cs = .ok (value, rest)) :
    Numeric value := by
  unfold floating at found
  split at found
  · cases found
    exact .float _
  · cases found

theorem exponent_numeric (found : exponent negative significand power cs = .ok (value, rest)) :
    Numeric value := by
  unfold exponent at found
  split at found
  split at found
  · cases found
  · split at found
    · cases found
    · split at found
      split at found
      · split at found
        · cases found
        · cases found
          exact .float _
      · exact floating_numeric found

theorem scaled_numeric (found : scaled negative significand power cs = .ok (value, rest)) :
    Numeric value := by
  unfold scaled at found
  split at found
  · split at found
    · exact exponent_numeric found
    · exact floating_numeric found
  · exact floating_numeric found

theorem decimals_numeric (found : decimals negative significand power cs = .ok (value, rest)) :
    Numeric value := by
  simp only [decimals] at found
  split at found
  · exact scaled_numeric found
  · split at found
    · cases found
    · exact scaled_numeric found

theorem integer_numeric (negative : Bool) (n : Nat) : Numeric (integer negative n) := by
  unfold integer
  split
  · exact .int _
  · split
    · split
      · exact .float _
      · exact .int _
    · exact .int _

theorem afterInteger_numeric {n : Nat} (found : afterInteger negative n cs = .ok (value, rest)) :
    Numeric value := by
  simp only [afterInteger] at found
  split at found
  · exact decimals_numeric found
  · split at found
    · exact scaled_numeric found
    · cases found
      exact integer_numeric negative n

theorem number_numeric (found : number negative cs = .ok (value, rest)) : Numeric value := by
  unfold number at found
  split at found
  · cases found
  · split at found
    · split at found
      · cases found
      · exact afterInteger_numeric found
    · split at found
      · exact afterInteger_numeric found
      · cases found

end Numbers

theorem readValue_blanks {blanks : List Char} (blank : ∀ c ∈ blanks, isSpace c = true)
    (fuel rooms : Nat) (cs : List Char) :
    readValue (fuel + 1) rooms (blanks ++ cs) = readValue (fuel + 1) rooms cs := by
  simp only [readValue, skip_blanks blank]

/-- How a value without other values inside is read: it takes one character at least, and the
fuel does not count. -/
structure ReadsScalar (rooms : Nat) (c : Char) (read : List Char → Reading Json) : Prop where
  reads : ∀ fuel cs, readValue (fuel + 1) rooms (c :: cs) = read cs
  scalar : ∀ cs value rest, read cs = .ok (value, rest) → Scalar value
  ends : Local endsNumber read

/-- The rest of the key word for a value. -/
def named (word : List Char) (value : Json) (cs : List Char) : Reading Json :=
  (keyword word cs).map fun rest => (value, rest)

theorem named_ok {word cs rest : List Char} {value v : Json} :
    named word value cs = .ok (v, rest) ↔ cs = word ++ rest ∧ v = value :=
  word_ok

theorem readsScalar_named {rooms : Nat} {c : Char} {word : List Char} {value : Json}
    (plain : Scalar value)
    (reads : ∀ fuel cs, readValue (fuel + 1) rooms (c :: cs) = named word value cs) :
    ReadsScalar rooms c (named word value) where
  reads := reads
  scalar := by
    intro cs v rest found
    obtain ⟨-, rfl⟩ := named_ok.mp found
    exact plain
  ends := by
    intro cs v rest found
    obtain ⟨rfl, rfl⟩ := named_ok.mp found
    exact ⟨word, rfl, fun more _ => named_ok.mpr ⟨rfl, rfl⟩⟩

/-- A text from behind its opening quote. -/
def quoted (cs : List Char) : Reading Json :=
  (string cs).map fun (s, rest) => (.str s, rest)

theorem quoted_scalar {cs rest : List Char} {value : Json}
    (found : quoted cs = .ok (value, rest)) : Scalar value := by
  obtain ⟨s, -, rfl⟩ := map_ok.mp found
  exact .str s

theorem quoted_local : Local endsNumber quoted := by
  intro cs value rest found
  obtain ⟨s, read, rfl⟩ := map_ok.mp found
  obtain ⟨used, rfl, again⟩ := string_local.read read
  exact ⟨used, rfl, fun more _ => map_ok.mpr ⟨s, again more, rfl⟩⟩

/-- A value that is neither a list nor an object. -/
theorem readsScalar {c : Char} (visible : isSpace c = false) (list : c ≠ '[') (object : c ≠ '{')
    (rooms : Nat) : ∃ read, ReadsScalar rooms c read := by
  have here (cs : List Char) : skip (c :: cs) = c :: cs := skip_visible visible cs
  by_cases isNull : c = 'n'
  · subst isNull
    exact ⟨named ['u', 'l', 'l'] .null,
      readsScalar_named .null fun _ _ => by simp [readValue, here, named]⟩
  by_cases isTrue : c = 't'
  · subst isTrue
    exact ⟨named ['r', 'u', 'e'] (.bool true),
      readsScalar_named (.bool true) fun _ _ => by simp [readValue, here, named]⟩
  by_cases isFalse : c = 'f'
  · subst isFalse
    exact ⟨named ['a', 'l', 's', 'e'] (.bool false),
      readsScalar_named (.bool false) fun _ _ => by simp [readValue, here, named]⟩
  by_cases isText : c = '"'
  · subst isText
    refine ⟨quoted, fun _ _ => ?_, fun _ _ _ => quoted_scalar, quoted_local⟩
    simp [readValue, here, quoted]
  by_cases isMinus : c = '-'
  · subst isMinus
    exact ⟨number true, fun _ _ => by simp [readValue, here],
      fun _ _ _ read => (number_numeric read).scalar, number_local⟩
  cases digit : isDigit c with
  | true =>
    refine ⟨fun cs => number false (c :: cs), fun _ _ => ?_,
      fun _ _ _ read => (number_numeric read).scalar, ?_⟩
    · simp [readValue, here, isNull, isTrue, isFalse, isText, isMinus, digit]
    · intro cs value rest found
      obtain ⟨used, cut, again⟩ := number_local _ _ _ found
      cases used with
      | nil => cases again [] rfl
      | cons d used =>
        obtain ⟨rfl, rfl⟩ := List.cons.inj cut
        exact ⟨used, rfl, again⟩
  | false =>
    refine ⟨fun cs => .error (.next .expectedValue (c :: cs)), fun _ _ => ?_, ?_, ?_⟩
    · simp [readValue, here, isNull, isTrue, isFalse, isText, isMinus, digit, list, object]
    · intro cs value rest found
      cases found
    · intro cs value rest found
      cases found

section Nested

/-- What is read satisfies `holds`, and it is read from a stretch at the beginning, whatever
comes after that `ends` it. Fuel of twice its length is enough, apart from `steps` that take
nothing. -/
def Within {α : Type} (holds : α → Prop) (ends : List Char → Bool) (steps : Nat)
    (read : Nat → List Char → Reading α) (fuel : Nat) : Prop :=
  ∀ cs a rest, read fuel cs = .ok (a, rest) →
    holds a ∧ ∃ used, cs = used ++ rest ∧ used ≠ [] ∧
      ∀ fuel more, 2 * used.length + steps ≤ fuel → ends more = true →
        read fuel (used ++ more) = .ok (a, more)

def ItemsKeyed (items : List Json) : Prop := ∀ item ∈ items, Keyed item

def MembersKeyed (members : List (String × Json)) : Prop := ∀ member ∈ members, Keyed member.2

theorem readValue_list (fuel rooms : Nat) (cs : List Char) :
    readValue (fuel + 1) (rooms + 1) ('[' :: cs) =
      (readList fuel rooms cs).map fun (items, rest) => (.arr items, rest) := by
  have here : skip ('[' :: cs) = '[' :: cs := rfl
  simp [readValue, here, isDigit]

theorem readValue_object (fuel rooms : Nat) (cs : List Char) :
    readValue (fuel + 1) (rooms + 1) ('{' :: cs) =
      (readObject fuel rooms cs).map fun (members, rest) => (object members, rest) := by
  have here : skip ('{' :: cs) = '{' :: cs := rfl
  simp [readValue, here, isDigit]

theorem readValue_full {c : Char} (opens : c = '[' ∨ c = '{') (fuel : Nat) (cs : List Char) :
    readValue (fuel + 1) 0 (c :: cs) = .error (.next .recursionLimit (c :: cs)) := by
  rcases opens with rfl | rfl
  · have here : skip ('[' :: cs) = '[' :: cs := rfl
    simp [readValue, here, isDigit]
  · have here : skip ('{' :: cs) = '{' :: cs := rfl
    simp [readValue, here, isDigit]

variable {fuel rooms : Nat}

/-- A value from its first character on. -/
theorem readValue_visible
    (list : ∀ rooms, Within ItemsKeyed anything 1 (fun fuel => readList fuel rooms) fuel)
    (members : ∀ rooms, Within MembersKeyed anything 1 (fun fuel => readObject fuel rooms) fuel)
    {c : Char} (visible : isSpace c = false) {cs rest : List Char} {value : Json}
    (found : readValue (fuel + 1) rooms (c :: cs) = .ok (value, rest)) :
    Keyed value ∧ ∃ used, cs = used ++ rest ∧
      ∀ fuel more, 2 * used.length + 1 ≤ fuel → endsNumber more = true →
        readValue (fuel + 1) rooms (c :: (used ++ more)) = .ok (value, more) := by
  by_cases bracket : c = '[' ∨ c = '{'
  · cases rooms with
    | zero =>
      rw [readValue_full bracket] at found
      cases found
    | succ rooms =>
      rcases bracket with rfl | rfl
      · rw [readValue_list] at found
        obtain ⟨items, read, rfl⟩ := map_ok.mp found
        obtain ⟨keyed, used, rfl, -, again⟩ := list rooms _ _ _ read
        refine ⟨.arr items keyed, used, rfl, fun fuel more enough _ => ?_⟩
        rw [readValue_list]
        exact map_ok.mpr ⟨items, again fuel more enough rfl, rfl⟩
      · rw [readValue_object] at found
        obtain ⟨entries, read, rfl⟩ := map_ok.mp found
        obtain ⟨keyed, used, rfl, -, again⟩ := members rooms _ _ _ read
        refine ⟨object_keyed keyed, used, rfl, fun fuel more enough _ => ?_⟩
        rw [readValue_object]
        exact map_ok.mpr ⟨entries, again fuel more enough rfl, rfl⟩
  · obtain ⟨notList, notObject⟩ := not_or.mp bracket
    obtain ⟨read, scalar⟩ := readsScalar visible notList notObject rooms
    rw [scalar.reads] at found
    obtain ⟨used, rfl, again⟩ := scalar.ends _ _ _ found
    refine ⟨(scalar.scalar _ _ _ found).keyed, used, rfl, fun fuel more _ ended => ?_⟩
    rw [scalar.reads]
    exact again more ended

theorem value_within
    (list : ∀ rooms, Within ItemsKeyed anything 1 (fun fuel => readList fuel rooms) fuel)
    (members : ∀ rooms, Within MembersKeyed anything 1 (fun fuel => readObject fuel rooms) fuel) :
    Within Keyed endsNumber 0 (fun fuel => readValue fuel rooms) (fuel + 1) := by
  intro cs value rest found
  obtain ⟨lead, cut, blank⟩ := skip_split cs
  cases here : skip cs with
  | nil =>
    simp only [readValue, here] at found
    cases found
  | cons c others =>
    rw [here] at cut
    subst cut
    simp only [readValue_blanks blank] at found
    obtain ⟨keyed, used, rfl, again⟩ := readValue_visible list members (skip_head here) found
    refine ⟨keyed, lead ++ c :: used, by simp, by simp, fun fuel more enough ended => ?_⟩
    simp only [List.length_append, List.length_cons] at enough
    obtain ⟨fuel, rfl⟩ : ∃ left, fuel = left + 1 := ⟨fuel - 1, by omega⟩
    simp only [List.append_assoc, List.cons_append, readValue_blanks blank]
    exact again fuel more (by omega) ended

theorem ended_before {blanks : List Char} (blank : ∀ c ∈ blanks, isSpace c = true) (c : Char)
    (closes : endsNumber [c] = true) (rest : List Char) :
    endsNumber (blanks ++ c :: rest) = true := by
  cases blanks with
  | nil => exact closes
  | cons d blanks => exact endsNumber_space (blank d (by simp)) _

theorem skip_to {blanks : List Char} (blank : ∀ c ∈ blanks, isSpace c = true) (c : Char)
    (visible : isSpace c = false) (rest : List Char) : skip (blanks ++ c :: rest) = c :: rest := by
  rw [skip_blanks blank, skip_visible visible]

theorem readList_items {c : Char} (visible : isSpace c = false) (opens : c ≠ ']')
    (fuel rooms : Nat) (cs : List Char) :
    readList (fuel + 1) rooms (c :: cs) = readItems fuel rooms (c :: cs) := by
  simp [readList, skip_visible visible, opens]

theorem readList_blanks {blanks : List Char} (blank : ∀ c ∈ blanks, isSpace c = true)
    (fuel rooms : Nat) (cs : List Char) :
    readList (fuel + 1) rooms (blanks ++ cs) = readList (fuel + 1) rooms cs := by
  simp only [readList, skip_blanks blank]

theorem list_within
    (items : Within ItemsKeyed anything 0 (fun fuel => readItems fuel rooms) fuel) :
    Within ItemsKeyed anything 1 (fun fuel => readList fuel rooms) (fuel + 1) := by
  intro cs list rest found
  obtain ⟨lead, cut, blank⟩ := skip_split cs
  simp only [readList] at found
  split at found
  · cases found
  · rename_i left here
    cases found
    refine ⟨List.forall_mem_nil _, lead ++ [']'], by simp [← here, ← cut], by simp,
      fun fuel more enough _ => ?_⟩
    obtain ⟨fuel, rfl⟩ : ∃ left, fuel = left + 1 := ⟨fuel - 1, by omega⟩
    simp only [List.append_assoc, List.singleton_append, readList, skip_to blank ']' rfl]
  · rename_i notClosing
    obtain ⟨keyed, used, left, some, again⟩ := items _ _ _ found
    cases used with
    | nil => exact absurd rfl some
    | cons c used =>
      have visible : isSpace c = false := skip_head left
      have opens : c ≠ ']' := fun same => notClosing _ (same ▸ left)
      refine ⟨keyed, lead ++ c :: used, by rw [List.append_assoc, ← left, ← cut], by simp,
        fun fuel more enough _ => ?_⟩
      simp only [List.length_append] at enough
      obtain ⟨fuel, rfl⟩ : ∃ left, fuel = left + 1 := ⟨fuel - 1, by omega⟩
      simp only [List.append_assoc, readList_blanks blank]
      exact (readList_items visible opens fuel rooms _).trans (again fuel more (by omega) rfl)

theorem readItems_last {cs gap rest : List Char} {item : Json}
    (read : readValue fuel rooms cs = .ok (item, gap ++ ']' :: rest))
    (blank : ∀ c ∈ gap, isSpace c = true) : readItems (fuel + 1) rooms cs = .ok ([item], rest) := by
  simp only [readItems, read, skip_to blank ']' rfl]

theorem readItems_more {cs gap lead rest : List Char} {c : Char} {item : Json}
    (read : readValue fuel rooms cs = .ok (item, gap ++ ',' :: (lead ++ c :: rest)))
    (blank : ∀ c ∈ gap, isSpace c = true) (blank_lead : ∀ c ∈ lead, isSpace c = true)
    (visible : isSpace c = false) (opens : c ≠ ']') :
    readItems (fuel + 1) rooms cs =
      (readItems fuel rooms (c :: rest)).map fun (items, rest) => (item :: items, rest) := by
  have notClosing : skip (lead ++ c :: rest) = c :: rest := skip_to blank_lead c visible rest
  simp only [readItems, read, skip_to blank ',' rfl, notClosing]
  split
  · contradiction
  · rename_i same
    exact absurd (List.cons.inj same).1 opens
  · rfl

/-- The first item, and whether it is the last. -/
theorem readItems_cases {cs rest : List Char} {items : List Json}
    (found : readItems (fuel + 1) rooms cs = .ok (items, rest)) :
    ∃ item gap left, readValue fuel rooms cs = .ok (item, gap ++ left) ∧
      (∀ c ∈ gap, isSpace c = true) ∧
      (left = ']' :: rest ∧ items = [item] ∨
        ∃ lead behind others, left = ',' :: (lead ++ behind) ∧ (∀ c ∈ lead, isSpace c = true) ∧
          (∀ c ∈ behind.head?, isSpace c = false ∧ c ≠ ']') ∧
          readItems fuel rooms behind = .ok (others, rest) ∧ items = item :: others) := by
  simp only [readItems] at found
  split at found
  · cases found
  · rename_i item behind read
    obtain ⟨gap, cut, blank⟩ := skip_split behind
    rw [cut] at read
    refine ⟨item, gap, skip behind, read, blank, ?_⟩
    split at found
    · cases found
    · rename_i here
      cases found
      exact .inl ⟨here, rfl⟩
    · rename_i next here
      obtain ⟨lead, cut', blank_lead⟩ := skip_split next
      split at found
      · cases found
      · cases found
      · rename_i notClosing
        obtain ⟨others, tail, rfl⟩ := map_ok.mp found
        refine .inr ⟨lead, skip next, others, by rw [here, ← cut'], blank_lead, ?_, tail, rfl⟩
        intro c first
        obtain ⟨rest, opens⟩ := List.head?_eq_some_iff.mp first
        exact ⟨skip_head opens, fun same => notClosing _ (same ▸ opens)⟩
    · cases found

theorem items_within
    (first : Within Keyed endsNumber 0 (fun fuel => readValue fuel rooms) fuel)
    (others : Within ItemsKeyed anything 0 (fun fuel => readItems fuel rooms) fuel) :
    Within ItemsKeyed anything 0 (fun fuel => readItems fuel rooms) (fuel + 1) := by
  intro cs items rest found
  obtain ⟨item, gap, left, read, blank, goes⟩ := readItems_cases found
  obtain ⟨keyed, used, rfl, some, again⟩ := first _ _ _ read
  rcases goes with ⟨rfl, rfl⟩ | ⟨lead, behind, items, rfl, blank_lead, opens, tail, rfl⟩
  · refine ⟨List.forall_mem_singleton.mpr keyed, used ++ (gap ++ [']']), by simp, by simp,
      fun fuel more enough _ => ?_⟩
    simp only [List.length_append, List.length_cons] at enough
    obtain ⟨fuel, rfl⟩ : ∃ left, fuel = left + 1 := ⟨fuel - 1, by omega⟩
    simp only [List.append_assoc, List.singleton_append]
    exact readItems_last (again fuel _ (by omega) (ended_before blank ']' rfl more)) blank
  · obtain ⟨keyed', used', rfl, some', again'⟩ := others _ _ _ tail
    obtain ⟨c, used', rfl⟩ := List.exists_cons_of_ne_nil some'
    obtain ⟨visible, notClosing⟩ := opens c rfl
    refine ⟨List.forall_mem_cons.mpr ⟨keyed, keyed'⟩,
      used ++ (gap ++ ',' :: (lead ++ c :: used')), by simp, by simp,
      fun fuel more enough _ => ?_⟩
    simp only [List.length_append, List.length_cons] at enough
    obtain ⟨fuel, rfl⟩ : ∃ left, fuel = left + 1 := ⟨fuel - 1, by omega⟩
    simp only [List.append_assoc, List.cons_append]
    have reads := again fuel _ (by omega)
      (ended_before blank ',' rfl (lead ++ (c :: (used' ++ more))))
    have tail := again' fuel more (by simp only [List.length_cons]; omega) rfl
    exact (readItems_more reads blank blank_lead visible notClosing).trans
      (map_ok.mpr ⟨items, tail, rfl⟩)

theorem readMembers_last {cs gap content after rest : List Char} {key : String} {value : Json}
    (named : string cs = .ok (key, gap ++ ':' :: content)) (blank : ∀ c ∈ gap, isSpace c = true)
    (read : readValue fuel rooms content = .ok (value, after ++ '}' :: rest))
    (blank_after : ∀ c ∈ after, isSpace c = true) :
    readMembers (fuel + 1) rooms cs = .ok ([(key, value)], rest) := by
  simp only [readMembers, named, colon_gap blank, read, skip_to blank_after '}' rfl]

theorem readMembers_more {cs gap content after lead behind : List Char} {key : String}
    {value : Json} (named : string cs = .ok (key, gap ++ ':' :: content))
    (blank : ∀ c ∈ gap, isSpace c = true)
    (read : readValue fuel rooms content = .ok (value, after ++ ',' :: (lead ++ '"' :: behind)))
    (blank_after : ∀ c ∈ after, isSpace c = true) (blank_lead : ∀ c ∈ lead, isSpace c = true) :
    readMembers (fuel + 1) rooms cs =
      (readMembers fuel rooms behind).map fun (members, rest) =>
        ((key, value) :: members, rest) := by
  simp only [readMembers, named, colon_gap blank, read, skip_to blank_after ',' rfl,
    skip_to blank_lead '"' rfl]

/-- The first member, and whether it is the last. -/
theorem readMembers_cases {cs rest : List Char} {members : List (String × Json)}
    (found : readMembers (fuel + 1) rooms cs = .ok (members, rest)) :
    ∃ key gap content value after left,
      string cs = .ok (key, gap ++ ':' :: content) ∧ (∀ c ∈ gap, isSpace c = true) ∧
      readValue fuel rooms content = .ok (value, after ++ left) ∧
      (∀ c ∈ after, isSpace c = true) ∧
      (left = '}' :: rest ∧ members = [(key, value)] ∨
        ∃ lead behind others, left = ',' :: (lead ++ '"' :: behind) ∧
          (∀ c ∈ lead, isSpace c = true) ∧ readMembers fuel rooms behind = .ok (others, rest) ∧
          members = (key, value) :: others) := by
  simp only [readMembers] at found
  split at found
  · cases found
  · rename_i key unnamed named
    split at found
    · cases found
    · rename_i content colon
      obtain ⟨gap, rfl, blank⟩ := colon_ok colon
      split at found
      · cases found
      · rename_i value behind read
        obtain ⟨after, cut, blank_after⟩ := skip_split behind
        rw [cut] at read
        refine ⟨key, gap, content, value, after, skip behind, named, blank, read, blank_after, ?_⟩
        split at found
        · cases found
        · rename_i here
          cases found
          exact .inl ⟨here, rfl⟩
        · rename_i others here
          obtain ⟨lead, cut', blank_lead⟩ := skip_split others
          rw [here, cut']
          split at found
          · cases found
          · cases found
          · rename_i opens
            obtain ⟨members, tail, rfl⟩ := map_ok.mp found
            exact .inr ⟨lead, _, members, by rw [opens], blank_lead, tail, rfl⟩
          · cases found
        · cases found

theorem members_within
    (first : Within Keyed endsNumber 0 (fun fuel => readValue fuel rooms) fuel)
    (others : Within MembersKeyed anything 0 (fun fuel => readMembers fuel rooms) fuel) :
    Within MembersKeyed anything 0 (fun fuel => readMembers fuel rooms) (fuel + 1) := by
  intro cs members rest found
  obtain ⟨key, gap, content, value, after, left, named, blank, read, blank_after, goes⟩ :=
    readMembers_cases found
  obtain ⟨quoted, rfl, again_key⟩ := string_local.read named
  obtain ⟨keyed, used, rfl, -, again⟩ := first _ _ _ read
  rcases goes with ⟨rfl, rfl⟩ | ⟨lead, behind, members, rfl, blank_lead, tail, rfl⟩
  · refine ⟨List.forall_mem_singleton.mpr keyed,
      quoted ++ (gap ++ ':' :: (used ++ (after ++ ['}']))), by simp, by simp,
      fun fuel more enough _ => ?_⟩
    simp only [List.length_append, List.length_cons] at enough
    obtain ⟨fuel, rfl⟩ : ∃ left, fuel = left + 1 := ⟨fuel - 1, by omega⟩
    simp only [List.append_assoc, List.cons_append, List.nil_append]
    have reads := again fuel _ (by omega) (ended_before blank_after '}' rfl more)
    exact readMembers_last (again_key _) blank reads blank_after
  · obtain ⟨keyed', used', rfl, -, again'⟩ := others _ _ _ tail
    refine ⟨List.forall_mem_cons.mpr ⟨keyed, keyed'⟩,
      quoted ++ (gap ++ ':' :: (used ++ (after ++ ',' :: (lead ++ '"' :: used')))), by simp,
      by simp, fun fuel more enough _ => ?_⟩
    simp only [List.length_append, List.length_cons] at enough
    obtain ⟨fuel, rfl⟩ : ∃ left, fuel = left + 1 := ⟨fuel - 1, by omega⟩
    simp only [List.append_assoc, List.cons_append]
    have reads := again fuel _ (by omega)
      (ended_before blank_after ',' rfl (lead ++ '"' :: (used' ++ more)))
    have tail := again' fuel more (by omega) rfl
    exact (readMembers_more (again_key _) blank reads blank_after blank_lead).trans
      (map_ok.mpr ⟨members, tail, rfl⟩)

theorem readObject_empty {blanks : List Char} (blank : ∀ c ∈ blanks, isSpace c = true)
    (fuel rooms : Nat) (rest : List Char) :
    readObject (fuel + 1) rooms (blanks ++ '}' :: rest) = .ok ([], rest) := by
  simp only [readObject, skip_to blank '}' rfl]

theorem readObject_members {blanks : List Char} (blank : ∀ c ∈ blanks, isSpace c = true)
    (fuel rooms : Nat) (cs : List Char) :
    readObject (fuel + 1) rooms (blanks ++ '"' :: cs) = readMembers fuel rooms cs := by
  simp only [readObject, skip_to blank '"' rfl]

theorem readObject_cases {cs rest : List Char} {members : List (String × Json)}
    (found : readObject (fuel + 1) rooms cs = .ok (members, rest)) :
    ∃ gap, (∀ c ∈ gap, isSpace c = true) ∧
      (cs = gap ++ '}' :: rest ∧ members = [] ∨
        ∃ behind, cs = gap ++ '"' :: behind ∧
          readMembers fuel rooms behind = .ok (members, rest)) := by
  obtain ⟨gap, cut, blank⟩ := skip_split cs
  refine ⟨gap, blank, ?_⟩
  simp only [readObject] at found
  split at found
  · cases found
  · rename_i here
    cases found
    exact .inl ⟨by rw [← here, ← cut], rfl⟩
  · rename_i behind here
    exact .inr ⟨behind, by rw [← here, ← cut], found⟩
  · cases found

theorem object_within
    (members : Within MembersKeyed anything 0 (fun fuel => readMembers fuel rooms) fuel) :
    Within MembersKeyed anything 1 (fun fuel => readObject fuel rooms) (fuel + 1) := by
  intro cs entries rest found
  obtain ⟨gap, blank, goes⟩ := readObject_cases found
  rcases goes with ⟨rfl, rfl⟩ | ⟨behind, rfl, read⟩
  · refine ⟨List.forall_mem_nil _, gap ++ ['}'], by simp, by simp, fun fuel more enough _ => ?_⟩
    obtain ⟨fuel, rfl⟩ : ∃ left, fuel = left + 1 := ⟨fuel - 1, by omega⟩
    simp only [List.append_assoc, List.singleton_append]
    exact readObject_empty blank fuel rooms more
  · obtain ⟨keyed, used, rfl, -, again⟩ := members _ _ _ read
    refine ⟨keyed, gap ++ '"' :: used, by simp, by simp, fun fuel more enough _ => ?_⟩
    simp only [List.length_append, List.length_cons] at enough
    obtain ⟨fuel, rfl⟩ : ∃ left, fuel = left + 1 := ⟨fuel - 1, by omega⟩
    simp only [List.append_assoc, List.cons_append]
    exact (readObject_members blank fuel rooms _).trans (again fuel more (by omega) rfl)

/-- Each part of the reader with so much fuel. -/
structure AllWithin (fuel : Nat) : Prop where
  value : ∀ rooms, Within Keyed endsNumber 0 (fun fuel => readValue fuel rooms) fuel
  list : ∀ rooms, Within ItemsKeyed anything 1 (fun fuel => readList fuel rooms) fuel
  items : ∀ rooms, Within ItemsKeyed anything 0 (fun fuel => readItems fuel rooms) fuel
  object : ∀ rooms, Within MembersKeyed anything 1 (fun fuel => readObject fuel rooms) fuel
  members : ∀ rooms, Within MembersKeyed anything 0 (fun fuel => readMembers fuel rooms) fuel

theorem allWithin (fuel : Nat) : AllWithin fuel := by
  induction fuel with
  | zero =>
    constructor
    all_goals
      intro rooms cs a rest found
      simp only [readValue, readList, readItems, readObject, readMembers] at found
      cases found
  | succ fuel ih =>
    exact {
      value := fun rooms => value_within ih.list ih.object
      list := fun rooms => list_within (ih.items rooms)
      items := fun rooms => items_within (ih.value rooms) (ih.items rooms)
      object := fun rooms => object_within (ih.members rooms)
      members := fun rooms => members_within (ih.value rooms) (ih.members rooms) }

end Nested

section Values

variable {fuel rooms : Nat} {cs rest : List Char} {value : Json}

theorem readValue_keyed (found : readValue fuel rooms cs = .ok (value, rest)) : Keyed value :=
  ((allWithin fuel).value rooms cs value rest found).1

/-- A value is read the same from its own stretch of the text, before whatever ends a number. -/
theorem readValue_stretch (found : readValue fuel rooms cs = .ok (value, rest)) :
    ∃ used, cs = used ++ rest ∧ ∀ fuel more, 2 * used.length ≤ fuel → endsNumber more = true →
      readValue fuel rooms (used ++ more) = .ok (value, more) := by
  obtain ⟨-, used, cut, -, again⟩ := (allWithin fuel).value rooms cs value rest found
  exact ⟨used, cut, again⟩

/-- An object ends with its brace, so that it is read the same before anything. -/
theorem readValue_brace (found : readValue fuel rooms ('{' :: cs) = .ok (value, rest)) :
    ∃ used, '{' :: cs = used ++ rest ∧ ∀ fuel more, 2 * used.length ≤ fuel →
      readValue fuel rooms (used ++ more) = .ok (value, more) := by
  cases fuel with
  | zero =>
    simp only [readValue] at found
    cases found
  | succ fuel =>
    cases rooms with
    | zero =>
      rw [readValue_full (.inr rfl)] at found
      cases found
    | succ rooms =>
      rw [readValue_object] at found
      obtain ⟨members, read, rfl⟩ := map_ok.mp found
      obtain ⟨-, used, rfl, -, again⟩ := (allWithin fuel).object rooms _ _ _ read
      refine ⟨'{' :: used, rfl, fun fuel more enough => ?_⟩
      simp only [List.length_cons] at enough
      obtain ⟨fuel, rfl⟩ : ∃ left, fuel = left + 1 := ⟨fuel - 1, by omega⟩
      rw [List.cons_append, readValue_object]
      exact map_ok.mpr ⟨members, again fuel more (by omega) rfl, rfl⟩

/-- A whole text is a value with blanks behind it. -/
theorem readText_ok :
    readText cs = .ok value ↔ ∃ trail, readValue (fuelFor cs) maxNesting cs = .ok (value, trail) ∧
      ∀ c ∈ trail, isSpace c = true := by
  cases read : readValue (fuelFor cs) maxNesting cs with
  | error stop => simp [readText, read, whole]
  | ok result =>
    obtain ⟨v, trail⟩ := result
    have ends : (∀ c ∈ trail, isSpace c = true) ↔ skip trail = [] :=
      List.dropWhile_eq_nil_iff.symm
    cases here : skip trail with
    | nil => simp [readText, read, whole, ends, here]
    | cons c rest => simp [readText, read, whole, ends, here]

theorem readText_keyed (found : readText cs = .ok value) : Keyed value := by
  obtain ⟨trail, read, -⟩ := readText_ok.mp found
  exact readValue_keyed read

end Values

end NotebookKernel.Json
