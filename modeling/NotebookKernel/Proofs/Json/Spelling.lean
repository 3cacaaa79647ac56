import NotebookKernel.Proofs.Json.Skimming

/-!
What is read is spelled by the grammar, so that reading a value and passing over it leave the same
behind.
-/

namespace NotebookKernel.Json

section Strings

variable {cs rest : List Char}

theorem skimEscape_code {n : Nat} (read : hex4 cs = .ok (n, rest)) :
    skimEscape ('u' :: cs) = .ok rest := by
  simp only [skimEscape, if_true, read]
  rfl

/-- A pair of codes is passed over one after the other. -/
theorem skimString_unicode {c : Char} (read : unicodeEscape cs = .ok (c, rest)) :
    skimString ('\\' :: 'u' :: cs) = skimString rest := by
  unfold unicodeEscape at read
  split at read
  · cases read
  · rename_i n behind first
    rw [skimString_escape (skimEscape_code first)]
    split at read
    · cases read
    · split at read
      · unfold trailing at read
        split at read
        · cases read
        · split at read
          · cases read
          · split at read
            · cases read
            · rename_i low left second
              split at read
              · obtain ⟨-, rfl⟩ := Prod.mk.inj (Except.ok.inj read)
                exact skimString_escape (skimEscape_code second)
              · cases read
          · cases read
        · cases read
      · cases read
        rfl

theorem skimString_escaped {c : Char} (read : escape cs = .ok (c, rest)) :
    skimString ('\\' :: cs) = skimString rest := by
  unfold escape at read
  split at read
  · cases read
  · rename_i letter behind
    split at read
    · rename_i isU
      subst isU
      exact skimString_unicode read
    · rename_i notU
      split at read
      · rename_i plain short
        cases read
        apply skimString_escape
        simp only [skimEscape, if_neg notU, short, Option.isSome_some, if_true]
      · cases read

theorem skimString_body {body : List Char} (read : stringBody cs = .ok (body, rest)) :
    skimString cs = .ok rest := by
  induction length : cs.length using Nat.strongRecOn generalizing cs body with
  | ind n ih =>
    subst length
    cases cs with
    | nil =>
      rw [stringBody] at read
      cases read
    | cons c cs =>
      by_cases quote : c = '"'
      · subst quote
        rw [stringBody, if_pos rfl] at read
        cases read
        rw [skimString, if_pos rfl]
      · by_cases backslash : c = '\\'
        · subst backslash
          cases escaped : escape cs with
          | error stop =>
            rw [stringBody, if_neg quote, if_pos rfl] at read
            split at read
            · cases read
            · rename_i other
              cases escaped.symm.trans other
          | ok result =>
            obtain ⟨plain, left⟩ := result
            have shorter := escape_shorter escaped
            rw [stringBody_escape escaped] at read
            obtain ⟨others, tail, -⟩ := map_ok.mp read
            rw [skimString_escaped escaped]
            exact ih left.length (by rw [List.length_cons]; omega) tail rfl
        · by_cases control : c < ' '
          · rw [stringBody, if_neg quote, if_neg backslash, if_pos control] at read
            cases read
          · rw [stringBody_plain quote backslash control] at read
            obtain ⟨others, tail, -⟩ := map_ok.mp read
            rw [skimString, if_neg quote, if_neg backslash, if_neg control]
            exact ih cs.length (by simp) tail rfl

/-- Reading a string and passing over it leave the same behind. -/
theorem string_skims {s : String} (read : string cs = .ok (s, rest)) :
    skimString cs = .ok rest := by
  obtain ⟨body, inside, -⟩ := map_ok.mp read
  exact skimString_body inside

end Strings

section Numbers

variable {negative : Bool} {significand : Nat} {power : Int} {cs rest : List Char} {value : Json}

theorem exponentDigits_left (n : Nat) (cs : List Char) :
    (exponentDigits n cs).2.2.dropWhile isDigit = cs.dropWhile isDigit := by
  induction cs generalizing n with
  | nil => rfl
  | cons c cs ih =>
    rw [exponentDigits]
    split
    · rename_i digit
      rw [List.dropWhile_cons_of_pos digit]
      split
      · rfl
      · exact ih _
    · rfl

theorem dropWhile_stopped {cs : List Char} (stops : startsWithDigit cs = false) :
    cs.dropWhile isDigit = cs := by
  cases cs with
  | nil => rfl
  | cons c cs =>
    have other : isDigit c = false := stops
    exact List.dropWhile_cons_of_neg (by simp [other])

theorem exponentDigits_whole {n m : Nat} {cs left : List Char}
    (taken : exponentDigits n cs = (m, false, left)) : startsWithDigit left = false := by
  induction cs generalizing n with
  | nil =>
    cases taken
    rfl
  | cons c cs ih =>
    rw [exponentDigits] at taken
    split at taken
    · split at taken
      · cases taken
      · exact ih taken
    · rename_i other
      cases taken
      simpa [startsWithDigit] using other

theorem plainExponent_skims {down : Bool}
    (read : plainExponent negative significand power down cs = .ok (value, rest)) :
    startsWithDigit cs = true ∧ cs.dropWhile isDigit = rest := by
  unfold plainExponent at read
  split at read
  · cases read
  · rename_i c others
    split at read
    · cases read
    · rename_i digit
      have first : isDigit c = true := by simpa using digit
      refine ⟨first, ?_⟩
      rw [List.dropWhile_cons_of_pos first]
      have left := exponentDigits_left (digitValue c) others
      unfold exponentFrom at read
      rcases taken : exponentDigits (digitValue c) others with ⟨m, large, behind⟩
      rw [taken] at read left
      cases large with
      | true =>
        simp only [if_true] at read
        split at read
        · cases read
        · cases read
          exact left.symm
      | false =>
        have whole := exponentDigits_whole taken
        obtain ⟨rfl, -⟩ := floating_ok read
        exact left.symm.trans (dropWhile_stopped whole)

theorem exponent_skims (read : exponent negative significand power cs = .ok (value, rest)) :
    skimExponent cs = .ok rest := by
  by_cases signed : ∃ sign ∈ cs.head?, sign = '+' ∨ sign = '-'
  · obtain ⟨sign, first, signed⟩ := signed
    obtain ⟨cs, rfl⟩ := List.head?_eq_some_iff.mp first
    have digits : ∃ down, plainExponent negative significand power down cs = .ok (value, rest) := by
      rcases signed with rfl | rfl
      · exact ⟨false, read⟩
      · exact ⟨true, read⟩
    obtain ⟨down, digits⟩ := digits
    obtain ⟨digit, left⟩ := plainExponent_skims digits
    rw [skimExponent_signed cs signed, if_pos digit, left]
  · have plus : cs.head? ≠ some '+' := fun first => signed ⟨_, first, .inl rfl⟩
    have minus : cs.head? ≠ some '-' := fun first => signed ⟨_, first, .inr rfl⟩
    have digits : plainExponent negative significand power false cs = .ok (value, rest) := by
      cases cs with
      | nil => cases read
      | cons c cs =>
        rwa [exponent_plain significand power (by simpa using plus) (by simpa using minus)] at read
    obtain ⟨digit, left⟩ := plainExponent_skims digits
    rw [skimExponent_plain plus minus, if_pos digit, left]

theorem scaled_skims (read : scaled negative significand power cs = .ok (value, rest)) :
    skimScale cs = .ok rest := by
  by_cases letter : ∃ c ∈ cs.head?, c = 'e' ∨ c = 'E'
  · obtain ⟨c, first, letter⟩ := letter
    obtain ⟨cs, rfl⟩ := List.head?_eq_some_iff.mp first
    simp only [scaled, if_pos letter] at read
    rw [skimScale_letter letter, exponent_skims read]
  · have other : ∀ c ∈ cs.head?, ¬ (c = 'e' ∨ c = 'E') := fun c first is => letter ⟨c, first, is⟩
    rw [scaled_plain significand power other] at read
    obtain ⟨rfl, -⟩ := floating_ok read
    exact skimScale_plain other

theorem fitting_left (n : Nat) (cs : List Char) :
    (fitting n cs).2.dropWhile isDigit = cs.dropWhile isDigit := by
  induction cs generalizing n with
  | nil => rfl
  | cons c cs ih =>
    rw [fitting]
    split
    · rename_i fits
      have digit : isDigit c = true := (Bool.and_eq_true_iff.mp fits).1
      rw [List.dropWhile_cons_of_pos digit, ih]
    · rfl

theorem decimals_skims (read : decimals negative significand power cs = .ok (value, rest)) :
    skimFraction ('.' :: cs) = .ok rest := by
  have cut : cs = cs.takeWhile isDigit ++ cs.dropWhile isDigit :=
    List.takeWhile_append_dropWhile.symm
  have all := Text.run_all isDigit cs
  have stops := Text.run_stops isDigit cs
  have digit := startsWithDigit_digits all stops
  rw [cut, decimals_digits significand power all stops] at read
  rw [← cut] at digit
  split at read
  · cases read
  · rename_i some
    rw [List.isEmpty_eq_false_iff.mpr some, Bool.not_false] at digit
    rw [skimFraction_point, if_pos digit]
    exact scaled_skims read

theorem afterInteger_skims {n : Nat} (read : afterInteger negative n cs = .ok (value, rest)) :
    skimFraction (cs.dropWhile isDigit) = .ok rest := by
  simp only [afterInteger] at read
  split at read
  · rename_i behind point
    rw [point]
    exact decimals_skims read
  · rename_i noPoint
    have other : (cs.dropWhile isDigit).head? ≠ some '.' := by
      intro point
      obtain ⟨behind, same⟩ := List.head?_eq_some_iff.mp point
      exact noPoint behind same
    rw [skimFraction_plain other]
    split at read
    · exact scaled_skims read
    · rename_i whole
      cases read
      simp only [Bool.or_eq_true, beq_iff_eq, not_or] at whole
      refine skimScale_plain fun c first letter => ?_
      rcases letter with rfl | rfl
      · exact whole.1.2 first
      · exact whole.2 first

/-- Reading a number and passing over it leave the same behind. -/
theorem number_skims (read : number negative cs = .ok (value, rest)) :
    skimNumber cs = .ok rest := by
  unfold number at read
  split at read
  · cases read
  · rename_i c others
    split at read
    · rename_i zero
      subst zero
      split at read
      · cases read
      · rename_i stops
        have stopped : startsWithDigit others = false := by simpa using stops
        have skimmed := afterInteger_skims read
        rw [dropWhile_stopped stopped] at skimmed
        simp only [skimNumber, if_true, stopped, skimmed]
        rfl
    · rename_i notZero
      split at read
      · rename_i digit
        have skimmed := afterInteger_skims read
        rw [fitting_left] at skimmed
        simp only [skimNumber, if_neg notZero, digit, if_true, skimmed]
      · cases read

end Numbers

section Values

/-- What a value is read as, by its first character. -/
inductive Begins (fuel rooms : Nat) : Char → List Char → Json → List Char → Prop
  | null (rest : List Char) : Begins fuel rooms 'n' (['u', 'l', 'l'] ++ rest) .null rest
  | isTrue (rest : List Char) :
      Begins fuel rooms 't' (['r', 'u', 'e'] ++ rest) (.bool true) rest
  | isFalse (rest : List Char) :
      Begins fuel rooms 'f' (['a', 'l', 's', 'e'] ++ rest) (.bool false) rest
  | text {cs rest : List Char} {s : String} (read : string cs = .ok (s, rest)) :
      Begins fuel rooms '"' cs (.str s) rest
  | negative {cs rest : List Char} {value : Json} (read : number true cs = .ok (value, rest)) :
      Begins fuel rooms '-' cs value rest
  | digit {c : Char} {cs rest : List Char} {value : Json} (digit : isDigit c = true)
      (read : number false (c :: cs) = .ok (value, rest)) : Begins fuel rooms c cs value rest
  | list {cs rest : List Char} {items : List Json} {inner : Nat} (room : rooms = inner + 1)
      (read : readList fuel inner cs = .ok (items, rest)) :
      Begins fuel rooms '[' cs (.arr items) rest
  | object {cs rest : List Char} {members : List (String × Json)} {inner : Nat}
      (room : rooms = inner + 1) (read : readObject fuel inner cs = .ok (members, rest)) :
      Begins fuel rooms '{' cs (object members) rest

variable {fuel rooms : Nat} {cs rest : List Char} {value : Json}

/-- All ways in which a value is read. -/
theorem readValue_begins (read : readValue (fuel + 1) rooms cs = .ok (value, rest)) :
    ∃ c others, skip cs = c :: others ∧ Begins fuel rooms c others value rest := by
  simp only [readValue] at read
  split at read
  · cases read
  · rename_i c others here
    refine ⟨c, others, here, ?_⟩
    split at read
    · rename_i isNull
      subst isNull
      obtain ⟨rfl, rfl⟩ := named_ok.mp read
      exact .null rest
    split at read
    · rename_i isTrue
      subst isTrue
      obtain ⟨rfl, rfl⟩ := named_ok.mp read
      exact .isTrue rest
    split at read
    · rename_i isFalse
      subst isFalse
      obtain ⟨rfl, rfl⟩ := named_ok.mp read
      exact .isFalse rest
    split at read
    · rename_i isText
      subst isText
      obtain ⟨s, string, rfl⟩ := map_ok.mp read
      exact .text string
    split at read
    · rename_i isMinus
      subst isMinus
      exact .negative read
    split at read
    · rename_i digit
      exact .digit digit read
    split at read
    · rename_i isList
      subst isList
      split at read
      · cases read
      · obtain ⟨items, list, rfl⟩ := map_ok.mp read
        exact .list rfl list
    split at read
    · rename_i isObject
      subst isObject
      split at read
      · cases read
      · obtain ⟨members, object, rfl⟩ := map_ok.mp read
        exact .object rfl object
    · cases read

/-- Each part of the reader with so much fuel. -/
structure ReadPasses (fuel : Nat) : Prop where
  value : ∀ rooms cs value rest, readValue fuel rooms cs = .ok (value, rest) →
    Passes .value cs rest
  list : ∀ rooms cs items rest, readList fuel rooms cs = .ok (items, rest) →
    Passes .value ('[' :: cs) rest
  items : ∀ rooms cs items rest, readItems fuel rooms cs = .ok (items, rest) →
    Passes .items cs rest
  object : ∀ rooms cs members rest, readObject fuel rooms cs = .ok (members, rest) →
    Passes .value ('{' :: cs) rest
  /-- From behind the quote that opens the first key. -/
  members : ∀ rooms cs members rest, readMembers fuel rooms cs = .ok (members, rest) →
    ∀ before : List Char, (∀ c ∈ before, isSpace c = true) →
      Passes .members (before ++ '"' :: cs) rest

theorem Begins.passes (ih : ReadPasses fuel) {c : Char}
    (begins : Begins fuel rooms c cs value rest) : Passes .value (c :: cs) rest := by
  cases begins with
  | null => exact .word ['n', 'u', 'l', 'l'] (by simp)
  | isTrue => exact .word ['t', 'r', 'u', 'e'] (by simp)
  | isFalse => exact .word ['f', 'a', 'l', 's', 'e'] (by simp)
  | text read => exact .text (string_skims read)
  | negative read => exact .negative (number_skims read)
  | digit digit read => exact .number (number_skims read)
  | list room read => exact ih.list _ _ _ _ read
  | object room read => exact ih.object _ _ _ _ read

theorem readPasses (fuel : Nat) : ReadPasses fuel := by
  induction fuel with
  | zero =>
    constructor
    all_goals
      intro rooms cs a rest read
      simp only [readValue, readList, readItems, readObject, readMembers] at read
      cases read
  | succ fuel ih =>
    constructor
    · intro rooms cs value rest read
      obtain ⟨c, others, here, begins⟩ := readValue_begins read
      exact (here ▸ begins.passes ih : Passes .value (skip cs) rest).of_skip
    · intro rooms cs items rest read
      obtain ⟨gap, cut, blank⟩ := skip_split cs
      simp only [readList] at read
      split at read
      · cases read
      · rename_i closes
        cases read
        rw [cut, closes]
        exact .emptyList blank
      · exact .list (ih.items _ _ _ _ read).of_skip
    · intro rooms cs items rest read
      obtain ⟨item, gap, left, first, blank, goes⟩ := readItems_cases read
      have passes := ih.value _ _ _ _ first
      rcases goes with ⟨rfl, -⟩ | ⟨lead, behind, others, rfl, blank_lead, -, later, -⟩
      · exact .lastItem passes blank
      · exact .item passes blank ((ih.items _ _ _ _ later).blanks blank_lead)
    · intro rooms cs members rest read
      obtain ⟨gap, blank, ⟨rfl, -⟩ | ⟨behind, rfl, later⟩⟩ := readObject_cases read
      · exact .emptyObject blank
      · exact .object (ih.members _ _ _ _ later gap blank)
    · intro rooms cs members rest read before blank_before
      obtain ⟨key, gap, content, value, after, left, named, blank_gap, first, blank_after, goes⟩ :=
        readMembers_cases read
      have blank : ∀ c ∈ before ++ (gap ++ after), isSpace c = true := by
        simp only [List.forall_mem_append]
        exact ⟨blank_before, blank_gap, blank_after⟩
      have passes := ih.value _ _ _ _ first
      rcases goes with ⟨rfl, -⟩ | ⟨lead, behind, others, rfl, blank_lead, later, -⟩
      · exact .lastMember blank (string_skims named) passes
      · exact .member blank (string_skims named) passes (ih.members _ _ _ _ later lead blank_lead)

/-- Reading a value and passing over it leave the same behind. -/
theorem readValue_passes (read : readValue fuel rooms cs = .ok (value, rest)) :
    Passes .value cs rest :=
  (readPasses fuel).value rooms cs value rest read

end Values

end NotebookKernel.Json
