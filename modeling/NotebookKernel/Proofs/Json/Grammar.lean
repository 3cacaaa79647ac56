import NotebookKernel.Json.Skim
import NotebookKernel.Proofs.Json.Reading

/-!
The grammar of JSON texts, said without the functions that check it. Its strings and numbers are
just what those functions pass over, unless a number would go on with what follows.
-/

namespace NotebookKernel.Json

section Grammar

def IsHexDigit (c : Char) : Prop :=
  ('0' ≤ c ∧ c ≤ '9') ∨ ('a' ≤ c ∧ c ≤ 'f') ∨ ('A' ≤ c ∧ c ≤ 'F')

/-- A string from behind its opening quote. Codes need not make characters. -/
inductive IsString : List Char → Prop
  | closing : IsString ['"']
  | plain {c : Char} {cs : List Char} (quote : c ≠ '"') (backslash : c ≠ '\\')
      (printable : ¬ c < ' ') (later : IsString cs) : IsString (c :: cs)
  | short {c : Char} {cs : List Char} (letter : c ∈ ['"', '\\', '/', 'b', 'f', 'n', 'r', 't'])
      (later : IsString cs) : IsString ('\\' :: c :: cs)
  | code {a b c d : Char} {cs : List Char} (digits : ∀ e ∈ [a, b, c, d], IsHexDigit e)
      (later : IsString cs) : IsString ('\\' :: 'u' :: a :: b :: c :: d :: cs)

def IsDigits (cs : List Char) : Prop := cs ≠ [] ∧ ∀ c ∈ cs, isDigit c = true

/-- There is no zero in front of other digits. -/
inductive IsWhole : List Char → Prop
  | zero : IsWhole ['0']
  | digits {c : Char} {cs : List Char} (first : c ≠ '0') (all : ∀ d ∈ c :: cs, isDigit d = true) :
      IsWhole (c :: cs)

inductive IsFraction : List Char → Prop
  | none : IsFraction []
  | point {cs : List Char} (digits : IsDigits cs) : IsFraction ('.' :: cs)

inductive IsExponent : List Char → Prop
  | none : IsExponent []
  | letter {c : Char} {sign cs : List Char} (letter : c = 'e' ∨ c = 'E')
      (signed : sign = [] ∨ sign = ['+'] ∨ sign = ['-']) (digits : IsDigits cs) :
      IsExponent (c :: (sign ++ cs))

/-- A number without its sign. -/
def IsNumber (cs : List Char) : Prop :=
  ∃ whole fraction exponent, IsWhole whole ∧ IsFraction fraction ∧ IsExponent exponent ∧
    cs = whole ++ (fraction ++ exponent)

/-- A value; or what stands behind the opening bracket of a list, or the opening brace of an
object, that is not empty. -/
inductive Part where
  | value
  | items
  | members

/-- Blanks may stand in front of each part, and are part of it; no blanks stand behind it. -/
inductive Spells : Part → List Char → Prop
  | blank {c : Char} {cs : List Char} (blank : isSpace c = true) (later : Spells .value cs) :
      Spells .value (c :: cs)
  | word {cs : List Char}
      (known : cs ∈ [['n', 'u', 'l', 'l'], ['t', 'r', 'u', 'e'], ['f', 'a', 'l', 's', 'e']]) :
      Spells .value cs
  | text {cs : List Char} (string : IsString cs) : Spells .value ('"' :: cs)
  | number {cs : List Char} (number : IsNumber cs) : Spells .value cs
  | negative {cs : List Char} (number : IsNumber cs) : Spells .value ('-' :: cs)
  | emptyList {gap : List Char} (blank : ∀ c ∈ gap, isSpace c = true) :
      Spells .value ('[' :: (gap ++ [']']))
  | list {cs : List Char} (items : Spells .items cs) : Spells .value ('[' :: cs)
  | emptyObject {gap : List Char} (blank : ∀ c ∈ gap, isSpace c = true) :
      Spells .value ('{' :: (gap ++ ['}']))
  | object {cs : List Char} (members : Spells .members cs) : Spells .value ('{' :: cs)
  | lastItem {item after : List Char} (value : Spells .value item)
      (blank : ∀ c ∈ after, isSpace c = true) : Spells .items (item ++ (after ++ [']']))
  | item {item after cs : List Char} (value : Spells .value item)
      (blank : ∀ c ∈ after, isSpace c = true) (later : Spells .items cs) :
      Spells .items (item ++ (after ++ ',' :: cs))
  | lastMember {before key gap content after : List Char}
      (blank : ∀ c ∈ before ++ (gap ++ after), isSpace c = true) (string : IsString key)
      (value : Spells .value content) :
      Spells .members (before ++ '"' :: (key ++ (gap ++ ':' :: (content ++ (after ++ ['}'])))))
  | member {before key gap content after cs : List Char}
      (blank : ∀ c ∈ before ++ (gap ++ after), isSpace c = true) (string : IsString key)
      (value : Spells .value content) (later : Spells .members cs) :
      Spells .members (before ++ '"' :: (key ++ (gap ++ ':' :: (content ++ (after ++ ',' :: cs)))))

/-- A whole text is one value. -/
def IsText (cs : List Char) : Prop :=
  ∃ used trail, Spells .value used ∧ (∀ c ∈ trail, isSpace c = true) ∧ cs = used ++ trail

end Grammar

section Strings

theorem hexValue?_isSome {c : Char} : (hexValue? c).isSome ↔ IsHexDigit c := by
  unfold hexValue? IsHexDigit isDigit
  simp only [Bool.and_eq_true, decide_eq_true_eq]
  split_ifs <;> simp_all

theorem hex4_ok {cs rest : List Char} :
    (∃ n, hex4 cs = .ok (n, rest)) ↔
      ∃ a b c d, cs = a :: b :: c :: d :: rest ∧ ∀ e ∈ [a, b, c, d], IsHexDigit e := by
  simp only [← hexValue?_isSome]
  constructor
  · rintro ⟨n, read⟩
    unfold hex4 at read
    split at read
    · rename_i a b c d left
      split at read
      · rename_i a' b' c' d' ha hb hc hd
        cases read
        exact ⟨a, b, c, d, rfl, by simp [ha, hb, hc, hd]⟩
      · cases read
    · split at read <;> cases read
  · rintro ⟨a, b, c, d, rfl, digits⟩
    simp only [List.forall_mem_cons, Option.isSome_iff_exists] at digits
    obtain ⟨⟨a', ha⟩, ⟨b', hb⟩, ⟨c', hc⟩, ⟨d', hd⟩, -⟩ := digits
    refine ⟨((a' * 16 + b') * 16 + c') * 16 + d', ?_⟩
    simp only [hex4, ha, hb, hc, hd]

theorem shortEscape?_isSome {c : Char} :
    (shortEscape? c).isSome ↔ c ∈ ['"', '\\', '/', 'b', 'f', 'n', 'r', 't'] := by
  unfold shortEscape?
  split_ifs <;> simp_all

theorem skimEscape_ok {cs rest : List Char} (skimmed : skimEscape cs = .ok rest)
    {left : List Char} (string : IsString left) {used : List Char} (cut : rest = left ++ used) :
    ∃ escaped, cs = escaped ++ used ∧ IsString ('\\' :: escaped) := by
  subst cut
  unfold skimEscape at skimmed
  split at skimmed
  · cases skimmed
  · rename_i c others
    split at skimmed
    · rename_i isU
      subst isU
      cases read : hex4 others with
      | error stop =>
        rw [read] at skimmed
        cases skimmed
      | ok result =>
        obtain ⟨n, behind⟩ := result
        rw [read] at skimmed
        cases skimmed
        obtain ⟨a, b, c, d, rfl, digits⟩ := hex4_ok.mp ⟨n, read⟩
        exact ⟨'u' :: a :: b :: c :: d :: left, rfl, .code digits string⟩
    · split at skimmed
      · rename_i letter
        cases skimmed
        exact ⟨c :: left, rfl, .short (shortEscape?_isSome.mp letter) string⟩
      · cases skimmed

theorem skimString_escape {cs rest : List Char} (skimmed : skimEscape cs = .ok rest) :
    skimString ('\\' :: cs) = skimString rest := by
  rw [skimString, if_neg (by decide), if_pos rfl]
  split
  · rename_i stop failed
    cases skimmed.symm.trans failed
  · rename_i left found
    cases skimmed.symm.trans found
    rfl

theorem IsString.skimmed {used : List Char} (string : IsString used) (rest : List Char) :
    skimString (used ++ rest) = .ok rest := by
  induction string with
  | closing => rw [List.cons_append, List.nil_append, skimString, if_pos rfl]
  | plain quote backslash printable later ih =>
    rw [List.cons_append, skimString, if_neg quote, if_neg backslash, if_neg printable, ih]
  | @short c cs letter later ih =>
    have notU : c ≠ 'u' := by
      rintro rfl
      exact absurd letter (by decide)
    have escaped : skimEscape (c :: (cs ++ rest)) = .ok (cs ++ rest) := by
      simp only [skimEscape, if_neg notU, shortEscape?_isSome.mpr letter, if_true]
    rw [List.cons_append, List.cons_append, skimString_escape escaped, ih]
  | @code a b c d cs digits later ih =>
    have digits : ∃ n, hex4 (a :: b :: c :: d :: (cs ++ rest)) = .ok (n, cs ++ rest) :=
      hex4_ok.mpr ⟨a, b, c, d, rfl, digits⟩
    obtain ⟨n, read⟩ := digits
    have escaped : skimEscape ('u' :: a :: b :: c :: d :: (cs ++ rest)) = .ok (cs ++ rest) := by
      simp only [skimEscape, if_true, read]
      rfl
    simp only [List.cons_append]
    rw [skimString_escape escaped, ih]

/-- A string is passed over just if it is one. -/
theorem skimString_ok {cs rest : List Char} :
    skimString cs = .ok rest ↔ ∃ used, cs = used ++ rest ∧ IsString used := by
  constructor
  · intro skimmed
    induction length : cs.length using Nat.strongRecOn generalizing cs with
    | ind n ih =>
      subst length
      cases cs with
      | nil =>
        rw [skimString] at skimmed
        cases skimmed
      | cons c cs =>
        by_cases quote : c = '"'
        · subst quote
          rw [skimString, if_pos rfl] at skimmed
          cases skimmed
          exact ⟨['"'], rfl, .closing⟩
        · by_cases backslash : c = '\\'
          · subst backslash
            cases escaped : skimEscape cs with
            | error stop =>
              rw [skimString, if_neg quote, if_pos rfl] at skimmed
              split at skimmed
              · cases skimmed
              · rename_i other
                cases escaped.symm.trans other
            | ok left =>
              have shorter := skimEscape_shorter escaped
              rw [skimString_escape escaped] at skimmed
              obtain ⟨used, cut, string⟩ :=
                ih left.length (by rw [List.length_cons]; omega) skimmed rfl
              obtain ⟨front, rfl, whole⟩ := skimEscape_ok escaped string cut
              exact ⟨'\\' :: front, rfl, whole⟩
          · by_cases control : c < ' '
            · rw [skimString, if_neg quote, if_neg backslash, if_pos control] at skimmed
              cases skimmed
            · rw [skimString, if_neg quote, if_neg backslash, if_neg control] at skimmed
              obtain ⟨used, rfl, string⟩ := ih cs.length (by simp) skimmed rfl
              exact ⟨c :: used, rfl, .plain quote backslash control string⟩
  · rintro ⟨used, rfl, string⟩
    exact string.skimmed rest

end Strings

section Numbers

/-- Digits are passed over to the last. -/
theorem digits_split {cs rest : List Char} :
    startsWithDigit cs = true ∧ cs.dropWhile isDigit = rest ↔
      ∃ digits, IsDigits digits ∧ cs = digits ++ rest ∧ startsWithDigit rest = false := by
  constructor
  · rintro ⟨digit, rfl⟩
    refine ⟨cs.takeWhile isDigit, ⟨?_, Text.run_all isDigit cs⟩,
      List.takeWhile_append_dropWhile.symm, ?_⟩
    · cases cs with
      | nil => cases digit
      | cons c cs =>
        have first : isDigit c = true := digit
        simp [first]
    · have stops := Text.run_stops isDigit cs
      cases left : cs.dropWhile isDigit with
      | nil => rfl
      | cons c rest => exact stops c (by rw [left, List.head?_cons]; rfl)
  · rintro ⟨digits, ⟨some, all⟩, rfl, stops⟩
    have other : ∀ c ∈ rest.head?, isDigit c = false := by
      cases rest with
      | nil => nofun
      | cons c rest =>
        rintro _ ⟨⟩
        exact stops
    refine ⟨?_, Text.dropWhile_run all other⟩
    rw [startsWithDigit_digits all other]
    simp [some]

theorem skimExponent_signed (cs : List Char) {sign : Char} (signed : sign = '+' ∨ sign = '-') :
    skimExponent (sign :: cs) =
      if startsWithDigit cs then .ok (cs.dropWhile isDigit)
      else .error (.next .invalidNumber cs) := by
  rcases signed with rfl | rfl <;> rfl

theorem skimExponent_plain {cs : List Char} (plus : cs.head? ≠ some '+')
    (minus : cs.head? ≠ some '-') :
    skimExponent cs =
      if startsWithDigit cs then .ok (cs.dropWhile isDigit)
      else .error (.next .invalidNumber cs) := by
  cases cs with
  | nil => rfl
  | cons c cs =>
    have other : c ≠ '+' ∧ c ≠ '-' := by simpa using And.intro plus minus
    simp [skimExponent, other]

theorem skimExponent_ok {cs rest : List Char} :
    skimExponent cs = .ok rest ↔
      ∃ sign digits, (sign = [] ∨ sign = ['+'] ∨ sign = ['-']) ∧ IsDigits digits ∧
        cs = sign ++ (digits ++ rest) ∧ startsWithDigit rest = false := by
  have plain (cs : List Char) :
      (if startsWithDigit cs then .ok (cs.dropWhile isDigit)
        else .error (.next .invalidNumber cs) : Except Stop (List Char)) = .ok rest ↔
      ∃ digits, IsDigits digits ∧ cs = digits ++ rest ∧ startsWithDigit rest = false := by
    rw [← digits_split]
    cases startsWithDigit cs <;> simp
  constructor
  · intro skimmed
    by_cases signed : ∃ sign ∈ cs.head?, sign = '+' ∨ sign = '-'
    · obtain ⟨sign, first, signed⟩ := signed
      obtain ⟨cs, rfl⟩ := List.head?_eq_some_iff.mp first
      rw [skimExponent_signed cs signed, plain] at skimmed
      obtain ⟨digits, all, rfl, stops⟩ := skimmed
      refine ⟨[sign], digits, .inr ?_, all, rfl, stops⟩
      rcases signed with rfl | rfl
      · exact .inl rfl
      · exact .inr rfl
    · rw [skimExponent_plain (fun plus => signed ⟨_, plus, .inl rfl⟩)
        (fun minus => signed ⟨_, minus, .inr rfl⟩), plain] at skimmed
      obtain ⟨digits, all, rfl, stops⟩ := skimmed
      exact ⟨[], digits, .inl rfl, all, rfl, stops⟩
  · rintro ⟨sign, digits, signed, all, rfl, stops⟩
    rcases signed with rfl | rfl | rfl
    · have first : ∀ c ∈ (digits ++ rest).head?, isDigit c = true := by
        obtain ⟨d, digits, rfl⟩ := List.exists_cons_of_ne_nil all.1
        rintro _ ⟨⟩
        exact all.2 d (by simp)
      rw [List.nil_append, skimExponent_plain (fun plus => absurd (first _ plus) (by decide))
        (fun minus => absurd (first _ minus) (by decide)), plain]
      exact ⟨digits, all, rfl, stops⟩
    · rw [List.singleton_append, skimExponent_signed _ (.inl rfl), plain]
      exact ⟨digits, all, rfl, stops⟩
    · rw [List.singleton_append, skimExponent_signed _ (.inr rfl), plain]
      exact ⟨digits, all, rfl, stops⟩

theorem skimScale_letter {c : Char} (letter : c = 'e' ∨ c = 'E') (cs : List Char) :
    skimScale (c :: cs) = skimExponent cs := by
  simp only [skimScale, if_pos letter]

theorem skimScale_plain {cs : List Char} (other : ∀ c ∈ cs.head?, ¬ (c = 'e' ∨ c = 'E')) :
    skimScale cs = .ok cs := by
  cases cs with
  | nil => rfl
  | cons c cs => simp only [skimScale, if_neg (other c rfl)]

theorem skimScale_spelled {cs rest : List Char} (skimmed : skimScale cs = .ok rest) :
    ∃ used, IsExponent used ∧ cs = used ++ rest := by
  by_cases letter : ∃ c ∈ cs.head?, c = 'e' ∨ c = 'E'
  · obtain ⟨c, first, letter⟩ := letter
    obtain ⟨cs, rfl⟩ := List.head?_eq_some_iff.mp first
    rw [skimScale_letter letter, skimExponent_ok] at skimmed
    obtain ⟨sign, digits, signed, all, rfl, -⟩ := skimmed
    exact ⟨c :: (sign ++ digits), .letter letter signed all, by simp⟩
  · rw [skimScale_plain fun c first other => letter ⟨c, first, other⟩] at skimmed
    cases skimmed
    exact ⟨[], .none, rfl⟩

theorem skimFraction_point (cs : List Char) :
    skimFraction ('.' :: cs) =
      if startsWithDigit cs then skimScale (cs.dropWhile isDigit)
      else .error (.next .invalidNumber cs) := rfl

theorem skimFraction_plain {cs : List Char} (point : cs.head? ≠ some '.') :
    skimFraction cs = skimScale cs := by
  unfold skimFraction
  split
  · exact absurd rfl point
  · rfl

theorem skimFraction_spelled {cs rest : List Char} (skimmed : skimFraction cs = .ok rest) :
    ∃ fraction exponent, IsFraction fraction ∧ IsExponent exponent ∧
      cs = fraction ++ (exponent ++ rest) := by
  by_cases point : cs.head? = some '.'
  · obtain ⟨cs, rfl⟩ := List.head?_eq_some_iff.mp point
    rw [skimFraction_point] at skimmed
    split at skimmed
    · rename_i digit
      obtain ⟨digits, all, cut, -⟩ := digits_split.mp ⟨digit, rfl⟩
      obtain ⟨exponent, scaled, left⟩ := skimScale_spelled skimmed
      exact ⟨'.' :: digits, exponent, .point all, scaled, by rw [cut, left]; rfl⟩
    · cases skimmed
  · rw [skimFraction_plain point] at skimmed
    obtain ⟨exponent, scaled, rfl⟩ := skimScale_spelled skimmed
    exact ⟨[], exponent, .none, scaled, rfl⟩

theorem skimNumber_spelled {cs rest : List Char} (skimmed : skimNumber cs = .ok rest) :
    ∃ used, IsNumber used ∧ cs = used ++ rest := by
  unfold skimNumber at skimmed
  split at skimmed
  · cases skimmed
  · rename_i c cs
    split at skimmed
    · rename_i zero
      subst zero
      split at skimmed
      · cases skimmed
      · obtain ⟨fraction, exponent, pointed, scaled, rfl⟩ := skimFraction_spelled skimmed
        exact ⟨_, ⟨['0'], fraction, exponent, .zero, pointed, scaled, rfl⟩, by simp⟩
    · rename_i notZero
      split at skimmed
      · rename_i digit
        obtain ⟨fraction, exponent, pointed, scaled, left⟩ := skimFraction_spelled skimmed
        have all : ∀ d ∈ c :: cs.takeWhile isDigit, isDigit d = true :=
          List.forall_mem_cons.mpr ⟨digit, Text.run_all isDigit cs⟩
        have cut : cs = cs.takeWhile isDigit ++ cs.dropWhile isDigit :=
          List.takeWhile_append_dropWhile.symm
        refine ⟨_, ⟨c :: cs.takeWhile isDigit, fraction, exponent, .digits notZero all, pointed,
          scaled, rfl⟩, ?_⟩
        rw [left] at cut
        simpa using cut
      · cases skimmed

section Ended

variable {rest : List Char} (ended : endsNumber rest = true)
include ended

/-- Neither digits nor a point come where an exponent may stand. -/
theorem IsExponent.stops {used : List Char} (exponent : IsExponent used) :
    startsWithDigit (used ++ rest) = false ∧ (used ++ rest).head? ≠ some '.' := by
  cases exponent with
  | none => exact ⟨startsWithDigit_ended ended, point_ended ended⟩
  | letter letter => rcases letter with rfl | rfl <;> exact ⟨rfl, by simp⟩

theorem IsExponent.skimmed {used : List Char} (exponent : IsExponent used) :
    skimScale (used ++ rest) = .ok rest := by
  cases exponent with
  | none => exact skimScale_plain (letter_ended ended)
  | @letter c sign digits letter signed all =>
    rw [List.cons_append, skimScale_letter letter, skimExponent_ok]
    exact ⟨sign, digits, signed, all, List.append_assoc _ _ _, startsWithDigit_ended ended⟩

theorem IsFraction.stops {fraction exponent : List Char} (pointed : IsFraction fraction)
    (scaled : IsExponent exponent) : startsWithDigit (fraction ++ (exponent ++ rest)) = false := by
  cases pointed with
  | none => exact (scaled.stops ended).1
  | point => rfl

theorem IsFraction.skimmed {fraction exponent : List Char} (pointed : IsFraction fraction)
    (scaled : IsExponent exponent) : skimFraction (fraction ++ (exponent ++ rest)) = .ok rest := by
  obtain ⟨digits_stop, noPoint⟩ := scaled.stops ended
  cases pointed with
  | none => exact (skimFraction_plain noPoint).trans (scaled.skimmed ended)
  | @point digits all =>
    obtain ⟨digit, left⟩ := digits_split.mpr ⟨digits, all, rfl, digits_stop⟩
    rw [List.cons_append, skimFraction_point, if_pos digit, left, scaled.skimmed ended]

theorem IsNumber.skimmed {used : List Char} (number : IsNumber used) :
    skimNumber (used ++ rest) = .ok rest := by
  obtain ⟨whole, fraction, exponent, written, pointed, scaled, rfl⟩ := number
  have stops := pointed.stops ended scaled
  have skimmed := pointed.skimmed ended scaled
  simp only [List.append_assoc]
  cases written with
  | zero => simp only [List.singleton_append, skimNumber, if_true, stops, skimmed]; rfl
  | @digits c cs notZero all =>
    have first : isDigit c = true := all c (by simp)
    have others : ∀ d ∈ cs, isDigit d = true := fun d inside => all d (by simp [inside])
    have other : ∀ d ∈ (fraction ++ (exponent ++ rest)).head?, isDigit d = false := by
      intro d begins
      obtain ⟨left, same⟩ := List.head?_eq_some_iff.mp begins
      rw [same] at stops
      exact stops
    simp only [List.cons_append, skimNumber, if_neg notZero, first, if_true,
      Text.dropWhile_run others other, skimmed]

end Ended

end Numbers

end NotebookKernel.Json
