import NotebookKernel.Json.Reader
import NotebookKernel.Proofs.Json.Digits
import NotebookKernel.Proofs.Json.Quote
import NotebookKernel.Proofs.Text.Blank

/-!
What is read is a stretch at the beginning of the text, and it is read the same in front of
anything else. Only a number has to end before what follows: it would go on with more digits.
-/

namespace NotebookKernel.Json

/-- Nothing is read beyond what is used, as long as what follows `ends` it. -/
def Local {α : Type} (ends : List Char → Bool) (read : List Char → Reading α) : Prop :=
  ∀ cs a rest, read cs = .ok (a, rest) →
    ∃ used, cs = used ++ rest ∧ ∀ more, ends more = true → read (used ++ more) = .ok (a, more)

/-- What follows does not matter. -/
def anything (_ : List Char) : Bool := true

theorem Local.read {α : Type} {read : List Char → Reading α} (h : Local anything read)
    {cs rest : List Char} {a : α} (found : read cs = .ok (a, rest)) :
    ∃ used, cs = used ++ rest ∧ ∀ more, read (used ++ more) = .ok (a, more) := by
  obtain ⟨used, cut, again⟩ := h cs a rest found
  exact ⟨used, cut, fun more => again more rfl⟩

theorem map_ok {α β : Type} {f : α → β} {reading : Reading α} {b : β} {rest : List Char} :
    (reading.map fun (a, rest) => (f a, rest)) = .ok (b, rest) ↔
      ∃ a, reading = .ok (a, rest) ∧ f a = b := by
  cases reading with
  | error stop => simp [Except.map]
  | ok result =>
    obtain ⟨a, left⟩ := result
    simp only [Except.map, Except.ok.injEq, Prod.mk.injEq]
    constructor
    · rintro ⟨rfl, rfl⟩
      exact ⟨a, ⟨rfl, rfl⟩, rfl⟩
    · rintro ⟨_, ⟨rfl, rfl⟩, rfl⟩
      exact ⟨rfl, rfl⟩

theorem skip_blanks {blanks : List Char} (blank : ∀ c ∈ blanks, isSpace c = true)
    (cs : List Char) : skip (blanks ++ cs) = skip cs :=
  List.dropWhile_append_of_pos blank

theorem skip_visible {c : Char} (visible : isSpace c = false) (cs : List Char) :
    skip (c :: cs) = c :: cs :=
  List.dropWhile_cons_of_neg (by simp [visible])

/-- The blanks that were passed over. -/
theorem skip_split (cs : List Char) :
    ∃ blanks, cs = blanks ++ skip cs ∧ ∀ c ∈ blanks, isSpace c = true :=
  ⟨cs.takeWhile isSpace, List.takeWhile_append_dropWhile.symm, Text.run_all isSpace cs⟩

theorem skip_head {cs rest : List Char} {c : Char} (found : skip cs = c :: rest) :
    isSpace c = false :=
  Text.run_stops isSpace cs c (congrArg List.head? found)

theorem keyword_ok {word cs rest : List Char} :
    keyword word cs = .ok rest ↔ cs = word ++ rest := by
  induction word generalizing cs with
  | nil => exact ⟨fun same => Except.ok.inj same, fun same => congrArg Except.ok same⟩
  | cons k word ih =>
    cases cs with
    | nil => simp [keyword]
    | cons c cs =>
      by_cases same : k = c
      · subst same
        simp [keyword, ih]
      · have other : ¬ c = k := fun h => same h.symm
        simp [keyword, same, other]

/-- A key word that stands for something. -/
theorem word_ok {α : Type} {word cs rest : List Char} {a b : α} :
    ((keyword word cs).map fun rest => (a, rest)) = .ok (b, rest) ↔ cs = word ++ rest ∧ b = a := by
  rw [← keyword_ok]
  cases read : keyword word cs with
  | error stop => simp [Except.map]
  | ok left =>
    simp only [Except.map, Except.ok.injEq, Prod.mk.injEq]
    exact ⟨fun ⟨same, left⟩ => ⟨left, same.symm⟩, fun ⟨left, same⟩ => ⟨same.symm, left⟩⟩

theorem colon_ok {cs rest : List Char} (found : colon cs = .ok rest) :
    ∃ gap, cs = gap ++ ':' :: rest ∧ ∀ c ∈ gap, isSpace c = true := by
  obtain ⟨gap, cut, blank⟩ := skip_split cs
  unfold colon at found
  split at found
  · cases found
  · rename_i left here
    cases found
    exact ⟨gap, by rw [← here, ← cut], blank⟩
  · cases found

theorem colon_gap {gap : List Char} (blank : ∀ c ∈ gap, isSpace c = true) (rest : List Char) :
    colon (gap ++ ':' :: rest) = .ok rest := by
  have here : skip (gap ++ ':' :: rest) = ':' :: rest := by
    rw [skip_blanks blank, skip_visible rfl]
  simp only [colon, here]

section Strings

theorem hex4_local : Local anything hex4 := by
  intro cs n rest found
  unfold hex4 at found
  split at found
  · rename_i a b c d left
    split at found
    · rename_i a' b' c' d' ha hb hc hd
      cases found
      refine ⟨[a, b, c, d], rfl, fun more _ => ?_⟩
      simp only [List.cons_append, List.nil_append, hex4, ha, hb, hc, hd]
    · cases found
  · split at found <;> cases found

theorem trailing_local (high : Nat) : Local anything (trailing high) := by
  intro cs c rest found
  unfold trailing at found
  split at found
  · cases found
  · split at found
    · cases found
    · rename_i digits
      split at found
      · cases found
      · rename_i low left read
        split at found
        · rename_i second
          obtain ⟨rfl, rfl⟩ := Prod.mk.inj (Except.ok.inj found)
          obtain ⟨used, rfl, again⟩ := hex4_local.read read
          refine ⟨'\\' :: 'u' :: used, rfl, fun more _ => ?_⟩
          simp only [List.cons_append, trailing, again, second, if_true]
        · cases found
    · cases found
  · cases found

theorem unicodeEscape_local : Local anything unicodeEscape := by
  intro cs c rest found
  unfold unicodeEscape at found
  split at found
  · cases found
  · rename_i n left read
    obtain ⟨used, rfl, again⟩ := hex4_local.read read
    split at found
    · cases found
    · rename_i notSecond
      split at found
      · rename_i first
        obtain ⟨others, rfl, pair⟩ := (trailing_local n).read found
        refine ⟨used ++ others, (List.append_assoc _ _ _).symm, fun more _ => ?_⟩
        rw [List.append_assoc]
        simp only [unicodeEscape, again, if_neg notSecond, if_pos first, pair]
      · rename_i single
        cases found
        refine ⟨used, rfl, fun more _ => ?_⟩
        simp only [unicodeEscape, again, if_neg notSecond, if_neg single]

theorem escape_local : Local anything escape := by
  intro cs c rest found
  unfold escape at found
  split at found
  · cases found
  · rename_i letter left
    split at found
    · rename_i isU
      obtain ⟨used, rfl, again⟩ := unicodeEscape_local.read found
      refine ⟨letter :: used, rfl, fun more _ => ?_⟩
      simp only [List.cons_append, escape, if_pos isU, again]
    · rename_i notU
      split at found
      · rename_i plain short
        cases found
        refine ⟨[letter], rfl, fun more _ => ?_⟩
        simp only [List.cons_append, List.nil_append, escape, if_neg notU, short]
      · cases found

theorem stringBody_local : Local anything stringBody := by
  intro cs
  induction h : cs.length using Nat.strongRecOn generalizing cs with
  | ind length ih =>
    subst h
    intro body rest found
    cases cs with
    | nil =>
      rw [stringBody] at found
      cases found
    | cons c cs =>
      by_cases quote : c = '"'
      · subst quote
        rw [stringBody, if_pos rfl] at found
        cases found
        refine ⟨['"'], rfl, fun more _ => ?_⟩
        rw [List.cons_append, List.nil_append, stringBody, if_pos rfl]
      · by_cases backslash : c = '\\'
        · subst backslash
          cases read : escape cs with
          | error stop =>
            rw [stringBody, if_neg quote, if_pos rfl] at found
            split at found
            · cases found
            · rename_i other
              cases read.symm.trans other
          | ok result =>
            obtain ⟨plain, left⟩ := result
            have shorter := escape_shorter read
            rw [stringBody_escape read] at found
            obtain ⟨others, tail, rfl⟩ := map_ok.mp found
            obtain ⟨escaped, rfl, first⟩ := escape_local.read read
            obtain ⟨used, rfl, again⟩ := ih left.length (by rw [List.length_cons]; omega) left rfl _ _ tail
            refine ⟨'\\' :: (escaped ++ used), by simp, fun more ends => ?_⟩
            have opened := first (used ++ more)
            rw [List.cons_append, List.append_assoc, stringBody_escape opened, again more ends]
            rfl
        · by_cases control : c < ' '
          · rw [stringBody, if_neg quote, if_neg backslash, if_pos control] at found
            cases found
          · rw [stringBody_plain quote backslash control] at found
            obtain ⟨others, tail, rfl⟩ := map_ok.mp found
            obtain ⟨used, rfl, again⟩ := ih cs.length (by simp) cs rfl _ _ tail
            refine ⟨c :: used, rfl, fun more ends => ?_⟩
            rw [List.cons_append, stringBody_plain quote backslash control, again more ends]
            rfl

theorem string_local : Local anything string := by
  intro cs s rest found
  obtain ⟨body, read, rfl⟩ := map_ok.mp found
  obtain ⟨used, rfl, again⟩ := stringBody_local.read read
  refine ⟨used, rfl, fun more _ => ?_⟩
  rw [string, again]
  rfl

/-- The part of the text that a string takes. -/
theorem string_alone {cs rest : List Char} {s : String} (read : string cs = .ok (s, rest)) :
    ∃ key, cs = key ++ rest ∧ string key = .ok (s, []) := by
  obtain ⟨key, cut, again⟩ := string_local.read read
  exact ⟨key, cut, by simpa using again []⟩

theorem string_before {key : List Char} {s : String} (read : string key = .ok (s, []))
    (rest : List Char) : string (key ++ rest) = .ok (s, rest) := by
  obtain ⟨used, cut, again⟩ := string_local.read read
  rw [cut, List.append_nil]
  exact again rest

end Strings

section Numbers

variable {negative : Bool}

theorem stops_of_ended {rest : List Char} (ended : endsNumber rest = true) :
    ∀ c ∈ rest.head?, isDigit c = false := by
  intro c first
  cases rest with
  | nil => cases first
  | cons d rest =>
    cases first
    exact startsWithDigit_ended ended

/-- A reader that first takes all digits is local if it is so behind each run of digits. -/
theorem local_digits {α : Type} {read : List Char → Reading α}
    (behind : List Char → List Char → Reading α) (here : ∀ digits, Local endsNumber (behind digits))
    (splits : ∀ digits rest, (∀ c ∈ digits, isDigit c = true) →
      (∀ c ∈ rest.head?, isDigit c = false) → read (digits ++ rest) = behind digits rest) :
    Local endsNumber read := by
  intro cs a rest found
  have all := Text.run_all isDigit cs
  have stops := Text.run_stops isDigit cs
  have cut : cs.takeWhile isDigit ++ cs.dropWhile isDigit = cs := List.takeWhile_append_dropWhile
  rw [← cut, splits _ _ all stops] at found
  obtain ⟨used, left, again⟩ := here _ _ _ _ found
  refine ⟨cs.takeWhile isDigit ++ used, by rw [List.append_assoc, ← left, cut], ?_⟩
  intro more ended
  have still : ∀ c ∈ (used ++ more).head?, isDigit c = false := by
    cases used with
    | nil => exact stops_of_ended ended
    | cons d used =>
      rw [left] at stops
      exact stops
  rw [List.append_assoc, splits _ _ all still]
  exact again more ended

theorem fitting_digits (n : Nat) (digits : List Char) {rest : List Char}
    (stops : ∀ c ∈ rest.head?, isDigit c = false) :
    fitting n (digits ++ rest) = ((fitting n digits).1, (fitting n digits).2 ++ rest) := by
  induction digits generalizing n with
  | nil =>
    cases rest with
    | nil => rfl
    | cons c rest =>
      have other : isDigit c = false := stops c rfl
      simp [fitting, other]
  | cons d digits ih =>
    rw [List.cons_append, fitting, fitting]
    split
    · exact ih _
    · rfl

theorem fitting_suffix (n : Nat) (digits : List Char) : (fitting n digits).2 <:+ digits := by
  induction digits generalizing n with
  | nil => exact List.suffix_rfl
  | cons d digits ih =>
    rw [fitting]
    split
    · exact (ih _).trans (List.suffix_cons d digits)
    · exact List.suffix_rfl

theorem dropWhile_digits {digits rest : List Char} (all : ∀ c ∈ digits, isDigit c = true)
    (stops : ∀ c ∈ rest.head?, isDigit c = false) : (digits ++ rest).dropWhile isDigit = rest :=
  Text.dropWhile_run all stops

theorem startsWithDigit_digits {digits rest : List Char} (all : ∀ c ∈ digits, isDigit c = true)
    (stops : ∀ c ∈ rest.head?, isDigit c = false) :
    startsWithDigit (digits ++ rest) = !digits.isEmpty := by
  cases digits with
  | nil =>
    cases rest with
    | nil => rfl
    | cons c rest => exact stops c rfl
  | cons d digits => exact all d (by simp)

theorem floating_ok {significand : Nat} {power : Int} {cs rest : List Char} {value : Json}
    (found : floating negative significand power cs = .ok (value, rest)) :
    cs = rest ∧ ∀ more, floating negative significand power more = .ok (value, more) := by
  unfold floating at found
  split at found
  · rename_i x scaled
    obtain ⟨rfl, rfl⟩ := Prod.mk.inj (Except.ok.inj found)
    exact ⟨rfl, fun more => by simp only [floating, scaled]⟩
  · cases found

theorem floating_local (significand : Nat) (power : Int) :
    Local endsNumber (floating negative significand power) := by
  intro cs value rest found
  obtain ⟨rfl, again⟩ := floating_ok found
  exact ⟨[], rfl, fun more _ => again more⟩

theorem exponentDigits_digits (n : Nat) {digits rest : List Char}
    (all : ∀ c ∈ digits, isDigit c = true) (stops : ∀ c ∈ rest.head?, isDigit c = false) :
    ∃ m large left, (∀ c ∈ left, isDigit c = true) ∧ (large = false → left = []) ∧
      exponentDigits n digits = (m, large, left) ∧
      exponentDigits n (digits ++ rest) = (m, large, left ++ rest) := by
  induction digits generalizing n with
  | nil =>
    refine ⟨n, false, [], nofun, fun _ => rfl, rfl, ?_⟩
    cases rest with
    | nil => rfl
    | cons c rest =>
      have other : isDigit c = false := stops c rfl
      simp [exponentDigits, other]
  | cons d digits ih =>
    have digit : isDigit d = true := all d (by simp)
    have others : ∀ c ∈ digits, isDigit c = true := fun c inside => all c (by simp [inside])
    by_cases large : greatestExponentDigits < n * 10 + digitValue d
    · refine ⟨n, true, digits, others, nofun, ?_, ?_⟩ <;>
        simp only [List.cons_append, exponentDigits, digit, large, if_true]
    · obtain ⟨m, large', left, left_digits, none_left, alone, before⟩ :=
        ih (n * 10 + digitValue d) others
      refine ⟨m, large', left, left_digits, none_left, ?_, ?_⟩
      · simp only [exponentDigits, digit, large, if_true, if_false, alone]
      · simp only [List.cons_append, exponentDigits, digit, large, if_true, if_false, before]

/-- Behind the first digit of an exponent. -/
def exponentFrom (negative : Bool) (significand : Nat) (power : Int) (down : Bool) (n : Nat)
    (cs : List Char) : Reading Json :=
  let (n, tooLarge, rest) := exponentDigits n cs
  if tooLarge then
    if significand ≠ 0 ∧ !down then .error (.behind .numberOutOfRange rest)
    else .ok (.float (.zero negative), rest.dropWhile isDigit)
  else floating negative significand (if down then power - n else power + n) rest

theorem exponentFrom_local (significand : Nat) (power : Int) (down : Bool) (n : Nat) :
    Local endsNumber (exponentFrom negative significand power down n) := by
  refine local_digits (fun digits rest =>
    let (m, tooLarge, left) := exponentDigits n digits
    if tooLarge then
      if significand ≠ 0 ∧ !down then .error (.behind .numberOutOfRange (left ++ rest))
      else .ok (.float (.zero negative), rest)
    else floating negative significand (if down then power - m else power + m) rest) ?_ ?_
  · intro digits cs value rest found
    revert found
    obtain ⟨m, large, left⟩ := exponentDigits n digits
    intro found
    cases large with
    | false => exact floating_local significand _ cs value rest found
    | true =>
      by_cases outside : significand ≠ 0 ∧ !down
      · simp only [if_true, if_pos outside] at found
        cases found
      · simp only [if_true, if_neg outside] at found ⊢
        obtain ⟨rfl, rfl⟩ := Prod.mk.inj (Except.ok.inj found)
        exact ⟨[], rfl, fun more _ => rfl⟩
  · intro digits rest all stops
    obtain ⟨m, large, left, left_digits, none_left, alone, before⟩ :=
      exponentDigits_digits n all stops
    simp only [exponentFrom, alone, before]
    cases large with
    | false => rw [none_left rfl]; rfl
    | true => simp only [if_true, dropWhile_digits left_digits stops]

/-- Behind the sign of an exponent. -/
def plainExponent (negative : Bool) (significand : Nat) (power : Int) (down : Bool)
    (cs : List Char) : Reading Json :=
  match cs with
  | [] => .error (.behind .endInValue [])
  | c :: rest =>
    if !isDigit c then .error (.next .invalidNumber (c :: rest))
    else exponentFrom negative significand power down (digitValue c) rest

theorem plainExponent_read {significand : Nat} {power : Int} {down : Bool} {cs rest : List Char}
    {value : Json} (found : plainExponent negative significand power down cs = .ok (value, rest)) :
    ∃ d used, cs = d :: (used ++ rest) ∧ ∀ more, endsNumber more = true →
      plainExponent negative significand power down (d :: (used ++ more)) = .ok (value, more) := by
  unfold plainExponent at found
  split at found
  · cases found
  · rename_i d others
    split at found
    · cases found
    · rename_i digit
      obtain ⟨used, rfl, again⟩ := exponentFrom_local significand power down _ _ _ _ found
      refine ⟨d, used, rfl, fun more ended => ?_⟩
      simp only [plainExponent, if_neg digit, again more ended]

theorem exponent_plain (significand : Nat) (power : Int) {c : Char} (plus : c ≠ '+')
    (minus : c ≠ '-') (cs : List Char) :
    exponent negative significand power (c :: cs) =
      plainExponent negative significand power false (c :: cs) := by
  simp [exponent, plainExponent, exponentFrom, plus, minus]

theorem exponent_local (significand : Nat) (power : Int) :
    Local endsNumber (exponent negative significand power) := by
  intro cs value rest found
  cases cs with
  | nil => cases found
  | cons c cs =>
    by_cases plus : c = '+'
    · subst plus
      obtain ⟨d, used, rfl, again⟩ := plainExponent_read found
      exact ⟨'+' :: d :: used, rfl, again⟩
    · by_cases minus : c = '-'
      · subst minus
        obtain ⟨d, used, rfl, again⟩ := plainExponent_read found
        exact ⟨'-' :: d :: used, rfl, again⟩
      · rw [exponent_plain significand power plus minus] at found
        obtain ⟨d, used, same, again⟩ := plainExponent_read found
        obtain ⟨rfl, rfl⟩ := List.cons.inj same
        refine ⟨c :: used, rfl, fun more ended => ?_⟩
        exact (exponent_plain significand power plus minus _).trans (again more ended)

theorem scaled_plain (significand : Nat) (power : Int) {cs : List Char}
    (other : ∀ c ∈ cs.head?, ¬ (c = 'e' ∨ c = 'E')) :
    scaled negative significand power cs = floating negative significand power cs := by
  cases cs with
  | nil => rfl
  | cons c cs => simp only [scaled, if_neg (other c rfl)]

theorem letter_ended {rest : List Char} (ended : endsNumber rest = true) :
    ∀ c ∈ rest.head?, ¬ (c = 'e' ∨ c = 'E') := by
  intro c first letter
  cases rest with
  | nil => cases first
  | cons d rest =>
    cases first
    rcases letter with rfl | rfl <;> cases ended

theorem scaled_local (significand : Nat) (power : Int) :
    Local endsNumber (scaled negative significand power) := by
  intro cs value rest found
  by_cases letter : ∃ c ∈ cs.head?, c = 'e' ∨ c = 'E'
  · obtain ⟨c, first, letter⟩ := letter
    obtain ⟨cs, rfl⟩ := List.head?_eq_some_iff.mp first
    simp only [scaled, if_pos letter] at found
    obtain ⟨used, rfl, again⟩ := exponent_local significand power _ _ _ found
    refine ⟨c :: used, rfl, fun more ended => ?_⟩
    simp only [List.cons_append, scaled, if_pos letter, again more ended]
  · rw [scaled_plain significand power fun c first other => letter ⟨c, first, other⟩] at found
    obtain ⟨rfl, again⟩ := floating_ok found
    refine ⟨[], rfl, fun more ended => ?_⟩
    exact (scaled_plain significand power (letter_ended ended)).trans (again more)

theorem decimals_digits (n : Nat) (power : Int) {digits rest : List Char}
    (all : ∀ c ∈ digits, isDigit c = true) (stops : ∀ c ∈ rest.head?, isDigit c = false) :
    decimals negative n power (digits ++ rest) =
      if digits = [] then .error (.next (if rest.isEmpty then .endInValue else .invalidNumber) rest)
      else
        scaled negative (fitting n digits).1
          (power - (digits.length - (fitting n digits).2.length : Nat)) rest := by
  have left : ∀ c ∈ (fitting n digits).2, isDigit c = true := fun c inside =>
    all c ((fitting_suffix n digits).subset inside)
  have taken : (digits ++ rest).length - ((fitting n digits).2 ++ rest).length =
      digits.length - (fitting n digits).2.length := by
    simp only [List.length_append]
    omega
  simp only [decimals, fitting_digits n digits stops, startsWithDigit_digits left stops,
    dropWhile_digits left stops, taken]
  cases digits with
  | nil => simp [fitting]
  | cons d digits =>
    cases beyond : (fitting n (d :: digits)).2 with
    | nil => simp
    | cons _ _ => simp

theorem decimals_local (n : Nat) (power : Int) : Local endsNumber (decimals negative n power) := by
  refine local_digits _ (fun digits => ?_) fun digits rest all stops =>
    decimals_digits n power all stops
  intro cs value rest found
  by_cases none : digits = []
  · simp only [if_pos none] at found
    cases found
  · simp only [if_neg none] at found ⊢
    exact scaled_local _ _ cs value rest found

/-- Behind the digits before the point; the `beyond` do not fit. -/
def behindInteger (negative : Bool) (n : Nat) (beyond cs : List Char) : Reading Json :=
  match cs with
  | '.' :: rest => decimals negative n beyond.length rest
  | rest =>
    if !beyond.isEmpty || rest.head? == some 'e' || rest.head? == some 'E' then
      scaled negative n beyond.length rest
    else .ok (integer negative n, rest)

theorem afterInteger_digits (n : Nat) {beyond rest : List Char}
    (all : ∀ c ∈ beyond, isDigit c = true) (stops : ∀ c ∈ rest.head?, isDigit c = false) :
    afterInteger negative n (beyond ++ rest) = behindInteger negative n beyond rest := by
  have left := dropWhile_digits all stops
  have taken := Text.takeWhile_run all stops
  have long := startsWithDigit_digits all stops
  cases rest with
  | nil =>
    rw [List.append_nil] at left taken long ⊢
    simp [afterInteger, behindInteger, left, taken, long]
  | cons c rest =>
    by_cases point : c = '.'
    · subst point
      simp [afterInteger, behindInteger, left, taken]
    · simp [afterInteger, behindInteger, left, taken, long, point]

theorem behindInteger_letter (n : Nat) (beyond : List Char) {c : Char} (letter : c = 'e' ∨ c = 'E')
    (cs : List Char) :
    behindInteger negative n beyond (c :: cs) = exponent negative n beyond.length cs := by
  rcases letter with rfl | rfl <;> simp [behindInteger, scaled]

theorem behindInteger_plain (n : Nat) (beyond : List Char) {cs : List Char}
    (point : cs.head? ≠ some '.') (letter : ∀ c ∈ cs.head?, ¬ (c = 'e' ∨ c = 'E')) :
    behindInteger negative n beyond cs =
      if beyond = [] then .ok (integer negative n, cs)
      else floating negative n beyond.length cs := by
  rw [← scaled_plain n beyond.length letter]
  cases cs with
  | nil => cases beyond <;> rfl
  | cons c cs =>
    have notPoint : c ≠ '.' := fun same => point (congrArg some same)
    obtain ⟨small, large⟩ := not_or.mp (letter c rfl)
    cases beyond <;> simp [behindInteger, notPoint, small, large]

theorem point_ended {rest : List Char} (ended : endsNumber rest = true) :
    rest.head? ≠ some '.' := by
  intro point
  obtain ⟨others, rfl⟩ := List.head?_eq_some_iff.mp point
  cases ended

theorem behindInteger_local (n : Nat) (beyond : List Char) :
    Local endsNumber (behindInteger negative n beyond) := by
  intro cs value rest found
  by_cases point : cs.head? = some '.'
  · obtain ⟨cs, rfl⟩ := List.head?_eq_some_iff.mp point
    obtain ⟨used, rfl, again⟩ := decimals_local n beyond.length cs _ _ found
    exact ⟨'.' :: used, rfl, again⟩
  · by_cases letter : ∃ c ∈ cs.head?, c = 'e' ∨ c = 'E'
    · obtain ⟨c, first, letter⟩ := letter
      obtain ⟨cs, rfl⟩ := List.head?_eq_some_iff.mp first
      rw [behindInteger_letter n beyond letter] at found
      obtain ⟨used, rfl, again⟩ := exponent_local n beyond.length _ _ _ found
      refine ⟨c :: used, rfl, fun more ended => ?_⟩
      exact (behindInteger_letter n beyond letter _).trans (again more ended)
    · have plain (more : List Char) (ended : endsNumber more = true) :
          behindInteger negative n beyond more =
            if beyond = [] then .ok (integer negative n, more)
            else floating negative n beyond.length more :=
        behindInteger_plain n beyond (point_ended ended) (letter_ended ended)
      rw [behindInteger_plain n beyond point fun c first other => letter ⟨c, first, other⟩] at found
      cases beyond with
      | nil =>
        obtain ⟨rfl, rfl⟩ := Prod.mk.inj (Except.ok.inj found)
        exact ⟨[], rfl, fun more ended => plain more ended⟩
      | cons d beyond =>
        obtain ⟨rfl, again⟩ := floating_ok found
        exact ⟨[], rfl, fun more ended => (plain more ended).trans (again more)⟩

theorem afterInteger_local (n : Nat) : Local endsNumber (afterInteger negative n) :=
  local_digits _ (behindInteger_local n) fun _ _ all stops => afterInteger_digits n all stops

/-- Behind a first digit other than zero. -/
theorem fitting_local (n : Nat) :
    Local endsNumber fun cs => afterInteger negative (fitting n cs).1 (fitting n cs).2 := by
  refine local_digits
    (fun digits => behindInteger negative (fitting n digits).1 (fitting n digits).2)
    (fun digits => behindInteger_local _ _) fun digits rest all stops => ?_
  have beyond : ∀ c ∈ (fitting n digits).2, isDigit c = true := fun c inside =>
    all c ((fitting_suffix n digits).subset inside)
  simp only [fitting_digits n digits stops, afterInteger_digits _ beyond stops]

theorem number_local : Local endsNumber (number negative) := by
  intro cs value rest found
  cases cs with
  | nil => cases found
  | cons c cs =>
    by_cases zero : c = '0'
    · subst zero
      cases digit : startsWithDigit cs with
      | true =>
        simp only [number, if_true, digit] at found
        cases found
      | false =>
        simp only [number, if_true, digit] at found
        obtain ⟨used, rfl, again⟩ := afterInteger_local 0 _ _ _ found
        refine ⟨'0' :: used, rfl, fun more ended => ?_⟩
        have still : startsWithDigit (used ++ more) = false := by
          cases used with
          | nil => exact startsWithDigit_ended ended
          | cons d used => exact digit
        simp only [List.cons_append, number, if_true, still]
        exact again more ended
    · cases digit : isDigit c with
      | true =>
        simp only [number, if_neg zero, digit, if_true] at found
        obtain ⟨used, rfl, again⟩ := fitting_local (digitValue c) _ _ _ found
        refine ⟨c :: used, rfl, fun more ended => ?_⟩
        simp only [List.cons_append, number, if_neg zero, digit, if_true]
        exact again more ended
      | false =>
        simp only [number, if_neg zero, digit] at found
        cases found

end Numbers

end NotebookKernel.Json
