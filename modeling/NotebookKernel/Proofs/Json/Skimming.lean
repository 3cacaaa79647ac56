import NotebookKernel.Proofs.Json.Grammar

/-!
Passing over a value, from end to end: what is passed over is spelled by the grammar, and what is
spelled by it is passed over. There is one way to do so, and twice the length of a value is fuel
enough for it.
-/

namespace NotebookKernel.Json

def Part.skim : Part → Nat → List Char → Except Stop (List Char)
  | .value => skimValue
  | .items => skimItems
  | .members => skimMembers

/-- A part stands first, and `rest` behind it. Fuel of twice its length is enough to pass it. -/
def Passes (part : Part) (cs rest : List Char) : Prop :=
  ∃ used, Spells part used ∧ cs = used ++ rest ∧
    ∀ fuel, 2 * used.length ≤ fuel → part.skim fuel cs = .ok rest

/-- There is one way to pass a part at most. -/
theorem Passes.unique {part : Part} {cs rest left : List Char} (passes : Passes part cs rest)
    (other : Passes part cs left) : rest = left := by
  obtain ⟨used, -, -, skims⟩ := passes
  obtain ⟨used', -, -, skims'⟩ := other
  let fuel := 2 * (used.length + used'.length)
  exact Except.ok.inj ((skims fuel (by omega)).symm.trans (skims' fuel (by omega)))

theorem Passes.skim {cs rest : List Char} (passes : Passes .value cs rest) :
    Json.skim cs = .ok rest := by
  obtain ⟨used, -, rfl, skims⟩ := passes
  refine skims _ ?_
  simp only [fuelFor, List.length_append]
  omega

section Rules

variable {cs rest : List Char}

theorem skimValue_blanks {blanks : List Char} (blank : ∀ c ∈ blanks, isSpace c = true)
    (fuel : Nat) (cs : List Char) :
    skimValue (fuel + 1) (blanks ++ cs) = skimValue (fuel + 1) cs := by
  simp only [skimValue, skip_blanks blank]

theorem skim_blanks (part : Part) {blanks : List Char} (blank : ∀ c ∈ blanks, isSpace c = true)
    (fuel : Nat) (cs : List Char) :
    part.skim (fuel + 2) (blanks ++ cs) = part.skim (fuel + 2) cs := by
  cases part with
  | value => exact skimValue_blanks blank (fuel + 1) cs
  | items => simp only [Part.skim, skimItems, skimValue_blanks blank]
  | members => simp only [Part.skim, skimMembers, skip_blanks blank]

theorem skim_skip (part : Part) (fuel : Nat) (cs : List Char) :
    part.skim (fuel + 2) (skip cs) = part.skim (fuel + 2) cs := by
  obtain ⟨gap, cut, blank⟩ := skip_split cs
  conv => rhs; rw [cut]
  exact (skim_blanks part blank fuel (skip cs)).symm

theorem Spells.blanks {part : Part} {blanks : List Char} (blank : ∀ c ∈ blanks, isSpace c = true)
    (spells : Spells part cs) : Spells part (blanks ++ cs) := by
  have value {cs : List Char} (value : Spells .value cs) : Spells .value (blanks ++ cs) := by
    induction blanks with
    | nil => exact value
    | cons c blanks ih =>
      exact .blank (blank c (by simp)) (ih fun d inside => blank d (by simp [inside]))
  cases part with
  | value => exact value spells
  | items =>
    cases spells with
    | lastItem first after => exact List.append_assoc _ _ _ ▸ .lastItem (value first) after
    | item first after later => exact List.append_assoc _ _ _ ▸ .item (value first) after later
  | members =>
    cases spells with
    | lastMember gaps string content =>
      refine List.append_assoc _ _ _ ▸ .lastMember ?_ string content
      rw [List.append_assoc]
      exact List.forall_mem_append.mpr ⟨blank, gaps⟩
    | member gaps string content later =>
      refine List.append_assoc _ _ _ ▸ .member ?_ string content later
      rw [List.append_assoc]
      exact List.forall_mem_append.mpr ⟨blank, gaps⟩

theorem Spells.ne_nil {part : Part} (spells : Spells part cs) : cs ≠ [] := by
  cases spells with
  | blank | text | negative | emptyList | list | emptyObject | object => simp
  | word known =>
    rintro rfl
    exact absurd known (by decide)
  | number number =>
    rintro rfl
    have ended : endsNumber [] = true := rfl
    cases number.skimmed ended
  | lastItem | item | lastMember | member => simp

theorem Passes.blanks {part : Part} {blanks : List Char}
    (blank : ∀ c ∈ blanks, isSpace c = true) (passes : Passes part cs rest) :
    Passes part (blanks ++ cs) rest := by
  obtain ⟨used, spells, rfl, skims⟩ := passes
  have some : 0 < used.length := List.length_pos_iff.mpr spells.ne_nil
  refine ⟨blanks ++ used, spells.blanks blank, (List.append_assoc _ _ _).symm,
    fun fuel enough => ?_⟩
  simp only [List.length_append] at enough
  obtain ⟨fuel, rfl⟩ : ∃ left, fuel = left + 2 := ⟨fuel - 2, by omega⟩
  rw [skim_blanks part blank]
  exact skims (fuel + 2) (by omega)

theorem Passes.of_skip {part : Part} (passes : Passes part (skip cs) rest) :
    Passes part cs rest := by
  obtain ⟨gap, cut, blank⟩ := skip_split cs
  rw [cut]
  exact passes.blanks blank

/-- A value that takes no fuel beyond its first step. -/
theorem Passes.flat {used : List Char} (spells : Spells .value used)
    (skims : ∀ fuel, skimValue (fuel + 1) (used ++ rest) = .ok rest) :
    Passes .value (used ++ rest) rest := by
  have some : 0 < used.length := List.length_pos_iff.mpr spells.ne_nil
  refine ⟨used, spells, rfl, fun fuel enough => ?_⟩
  obtain ⟨fuel, rfl⟩ : ∃ left, fuel = left + 1 := ⟨fuel - 1, by omega⟩
  exact skims fuel

theorem Passes.word (word : List Char)
    (known : word ∈ [['n', 'u', 'l', 'l'], ['t', 'r', 'u', 'e'], ['f', 'a', 'l', 's', 'e']]) :
    Passes .value (word ++ rest) rest := by
  refine .flat (.word known) fun fuel => ?_
  simp only [List.mem_cons, List.not_mem_nil, or_false] at known
  rcases known with rfl | rfl | rfl <;>
    simp [skimValue, skip, isSpace, keyword]

theorem Passes.text (skimmed : skimString cs = .ok rest) : Passes .value ('"' :: cs) rest := by
  obtain ⟨used, rfl, string⟩ := skimString_ok.mp skimmed
  have here : skip ('"' :: (used ++ rest)) = '"' :: (used ++ rest) := rfl
  refine .flat (.text string) fun fuel => ?_
  simp [skimValue, here, skimmed]

theorem Passes.negative (skimmed : skimNumber cs = .ok rest) :
    Passes .value ('-' :: cs) rest := by
  obtain ⟨used, number, rfl⟩ := skimNumber_spelled skimmed
  have here : skip ('-' :: (used ++ rest)) = '-' :: (used ++ rest) := rfl
  refine .flat (.negative number) fun fuel => ?_
  simp [skimValue, here, skimmed]

theorem digit_visible {c : Char} (digit : isDigit c = true) :
    isSpace c = false ∧ c ≠ 'n' ∧ c ≠ 't' ∧ c ≠ 'f' ∧ c ≠ '"' ∧ c ≠ '-' := by
  refine ⟨?_, ?_, ?_, ?_, ?_, ?_⟩
  · by_contra! space
    simp only [isSpace, Bool.not_eq_false, Bool.or_eq_true, beq_iff_eq] at space
    rcases space with ((rfl | rfl) | rfl) | rfl <;> cases digit
  all_goals
    rintro rfl
    cases digit

theorem IsNumber.begins (number : IsNumber cs) :
    ∃ d others, cs = d :: others ∧ isDigit d = true := by
  obtain ⟨whole, fraction, exponent, written, -, -, rfl⟩ := number
  cases written with
  | zero => exact ⟨'0', _, rfl, rfl⟩
  | digits _ all => exact ⟨_, _, rfl, all _ (by simp)⟩

theorem Passes.number (skimmed : skimNumber cs = .ok rest) : Passes .value cs rest := by
  obtain ⟨used, number, rfl⟩ := skimNumber_spelled skimmed
  obtain ⟨d, others, rfl, digit⟩ := number.begins
  obtain ⟨visible, notNull, notTrue, notFalse, notText, notMinus⟩ := digit_visible digit
  refine .flat (.number number) fun fuel => ?_
  simp only [List.cons_append] at skimmed ⊢
  simp only [skimValue, skip_visible visible, if_neg notNull, if_neg notTrue, if_neg notFalse,
    if_neg notText, if_neg notMinus, digit, if_true, skimmed]

theorem skimValue_list (fuel : Nat) (cs : List Char) :
    skimValue (fuel + 1) ('[' :: cs) =
      match skip cs with
      | [] => .error (.next .endInList [])
      | ']' :: rest => .ok rest
      | rest => skimItems fuel rest := by
  rw [skimValue]
  rfl

theorem skimValue_object (fuel : Nat) (cs : List Char) :
    skimValue (fuel + 1) ('{' :: cs) =
      match skip cs with
      | '}' :: rest => .ok rest
      | rest => skimMembers fuel rest := by
  rw [skimValue]
  rfl

theorem Passes.emptyList {gap : List Char} (blank : ∀ c ∈ gap, isSpace c = true) :
    Passes .value ('[' :: (gap ++ ']' :: rest)) rest := by
  have passes : Passes .value (('[' :: (gap ++ [']'])) ++ rest) rest := by
    refine .flat (.emptyList blank) fun fuel => ?_
    simp only [List.cons_append, List.append_assoc, List.nil_append, skimValue_list,
      skip_to blank ']' rfl]
  simpa using passes

theorem Passes.emptyObject {gap : List Char} (blank : ∀ c ∈ gap, isSpace c = true) :
    Passes .value ('{' :: (gap ++ '}' :: rest)) rest := by
  have passes : Passes .value (('{' :: (gap ++ ['}'])) ++ rest) rest := by
    refine .flat (.emptyObject blank) fun fuel => ?_
    simp only [List.cons_append, List.append_assoc, List.nil_append, skimValue_object,
      skip_to blank '}' rfl]
  simpa using passes

/-- Items begin with something else than what would close them. -/
theorem skimItems_opens {fuel : Nat} (skims : skimItems fuel cs = .ok rest) :
    skip cs ≠ [] ∧ ∀ others, skip cs ≠ ']' :: others := by
  match fuel with
  | 0 | 1 =>
    simp only [skimItems, skimValue] at skims
    cases skims
  | fuel + 2 =>
    constructor
    · intro none
      simp [skimItems, skimValue, none] at skims
    · intro others closes
      simp [skimItems, skimValue, closes, isDigit] at skims

/-- Members begin with the quote of a key. -/
theorem skimMembers_opens {fuel : Nat} (skims : skimMembers fuel cs = .ok rest) :
    ∃ others, skip cs = '"' :: others := by
  cases fuel with
  | zero =>
    simp only [skimMembers] at skims
    cases skims
  | succ fuel =>
    simp only [skimMembers] at skims
    split at skims
    · cases skims
    · rename_i others here
      exact ⟨others, here⟩
    · cases skims

theorem Passes.list (passes : Passes .items cs rest) : Passes .value ('[' :: cs) rest := by
  obtain ⟨used, spells, cut, skims⟩ := passes
  have some : 0 < used.length := List.length_pos_iff.mpr spells.ne_nil
  refine ⟨'[' :: used, .list spells, congrArg ('[' :: ·) cut, fun fuel enough => ?_⟩
  simp only [List.length_cons] at enough
  obtain ⟨fuel, rfl⟩ : ∃ left, fuel = left + 3 := ⟨fuel - 3, by omega⟩
  have inside := skims (fuel + 2) (by omega)
  obtain ⟨some, opens⟩ := skimItems_opens inside
  rw [← skim_skip] at inside
  simp only [Part.skim, skimValue_list]
  exact inside

theorem Passes.object (passes : Passes .members cs rest) : Passes .value ('{' :: cs) rest := by
  obtain ⟨used, spells, cut, skims⟩ := passes
  have some : 0 < used.length := List.length_pos_iff.mpr spells.ne_nil
  refine ⟨'{' :: used, .object spells, congrArg ('{' :: ·) cut, fun fuel enough => ?_⟩
  simp only [List.length_cons] at enough
  obtain ⟨fuel, rfl⟩ : ∃ left, fuel = left + 3 := ⟨fuel - 3, by omega⟩
  have inside := skims (fuel + 2) (by omega)
  obtain ⟨others, opens⟩ := skimMembers_opens inside
  rw [← skim_skip] at inside
  simp only [Part.skim, skimValue_object, opens] at inside ⊢
  exact inside

theorem Passes.lastItem {after : List Char} (value : Passes .value cs (after ++ ']' :: rest))
    (blank : ∀ c ∈ after, isSpace c = true) : Passes .items cs rest := by
  obtain ⟨item, spells, cut, skims⟩ := value
  refine ⟨item ++ (after ++ [']']), .lastItem spells blank, by simp [cut], fun fuel enough => ?_⟩
  simp only [List.length_append, List.length_cons] at enough
  obtain ⟨fuel, rfl⟩ : ∃ left, fuel = left + 1 := ⟨fuel - 1, by omega⟩
  have skimmed : skimValue fuel cs = _ := skims fuel (by omega)
  simp only [Part.skim, skimItems, skimmed, skip_to blank ']' rfl]

theorem Passes.item {after behind : List Char} (value : Passes .value cs (after ++ ',' :: behind))
    (blank : ∀ c ∈ after, isSpace c = true) (later : Passes .items behind rest) :
    Passes .items cs rest := by
  obtain ⟨item, spells, cut, skims⟩ := value
  obtain ⟨used, spells', rfl, skims'⟩ := later
  refine ⟨item ++ (after ++ ',' :: used), .item spells blank spells', by simp [cut],
    fun fuel enough => ?_⟩
  simp only [List.length_append, List.length_cons] at enough
  obtain ⟨fuel, rfl⟩ : ∃ left, fuel = left + 1 := ⟨fuel - 1, by omega⟩
  have skimmed : skimValue fuel cs = _ := skims fuel (by omega)
  simp only [Part.skim, skimItems, skimmed, skip_to blank ',' rfl]
  exact skims' fuel (by omega)

section Members

variable {before gap content after : List Char}
  (blank : ∀ c ∈ before ++ (gap ++ after), isSpace c = true)
  (string : skimString cs = .ok (gap ++ ':' :: content))

include blank string

theorem Passes.lastMember (value : Passes .value content (after ++ '}' :: rest)) :
    Passes .members (before ++ '"' :: cs) rest := by
  obtain ⟨key, rfl, isString⟩ := skimString_ok.mp string
  obtain ⟨used, spells, rfl, skims⟩ := value
  refine ⟨_, .lastMember blank isString spells, by simp, fun fuel enough => ?_⟩
  simp only [List.length_append, List.length_cons] at enough
  obtain ⟨fuel, rfl⟩ : ∃ left, fuel = left + 1 := ⟨fuel - 1, by omega⟩
  simp only [List.forall_mem_append] at blank
  obtain ⟨blank_before, blank_gap, blank_after⟩ := blank
  have skimmed : skimValue fuel _ = _ := skims fuel (by omega)
  simp only [Part.skim, skimMembers, skip_to blank_before '"' rfl, string, colon_gap blank_gap,
    skimmed, skip_to blank_after '}' rfl]

theorem Passes.member {behind : List Char} (value : Passes .value content (after ++ ',' :: behind))
    (later : Passes .members behind rest) : Passes .members (before ++ '"' :: cs) rest := by
  obtain ⟨key, rfl, isString⟩ := skimString_ok.mp string
  obtain ⟨used, spells, rfl, skims⟩ := value
  obtain ⟨used', spells', rfl, skims'⟩ := later
  refine ⟨_, .member blank isString spells spells', by simp, fun fuel enough => ?_⟩
  simp only [List.length_append, List.length_cons] at enough
  obtain ⟨fuel, rfl⟩ : ∃ left, fuel = left + 1 := ⟨fuel - 1, by omega⟩
  simp only [List.forall_mem_append] at blank
  obtain ⟨blank_before, blank_gap, blank_after⟩ := blank
  have skimmed : skimValue fuel _ = _ := skims fuel (by omega)
  simp only [Part.skim, skimMembers, skip_to blank_before '"' rfl, string, colon_gap blank_gap,
    skimmed, skip_to blank_after ',' rfl]
  exact skims' fuel (by omega)

end Members

end Rules

/-- What is spelled is passed, unless it is a number and goes on. -/
theorem Spells.passes {part : Part} {used : List Char} (spells : Spells part used)
    {rest : List Char} (ended : part = .value → endsNumber rest = true) :
    Passes part (used ++ rest) rest := by
  induction spells generalizing rest with
  | @blank c cs blank later ih =>
    have lead : ∀ d ∈ [c], isSpace d = true := List.forall_mem_singleton.mpr blank
    have passes : Passes .value ([c] ++ (cs ++ rest)) rest := (ih ended).blanks lead
    exact passes
  | word known => exact .word _ known
  | text string => exact .text (string.skimmed rest)
  | number number => exact .number (number.skimmed (ended rfl))
  | negative number => exact .negative (number.skimmed (ended rfl))
  | emptyList blank => simpa using Passes.emptyList blank
  | list items ih => exact .list (ih nofun)
  | emptyObject blank => simpa using Passes.emptyObject blank
  | object members ih => exact .object (ih nofun)
  | lastItem value blank ih =>
    simp only [List.append_assoc, List.singleton_append]
    exact .lastItem (ih fun _ => ended_before blank ']' rfl rest) blank
  | item value blank later ih ih' =>
    simp only [List.append_assoc, List.cons_append]
    exact .item (ih fun _ => ended_before blank ',' rfl _) blank (ih' nofun)
  | @lastMember before key gap content after blank string value ih =>
    have blank_after : ∀ c ∈ after, isSpace c = true := fun c inside => blank c (by simp [inside])
    simp only [List.append_assoc, List.cons_append]
    exact .lastMember blank (string.skimmed _) (ih fun _ => ended_before blank_after '}' rfl rest)
  | @member before key gap content after cs blank string value later ih ih' =>
    have blank_after : ∀ c ∈ after, isSpace c = true := fun c inside => blank c (by simp [inside])
    simp only [List.append_assoc, List.cons_append]
    exact .member blank (string.skimmed _) (ih fun _ => ended_before blank_after ',' rfl _)
      (ih' nofun)

section Sound

variable {fuel : Nat} {cs rest : List Char}

theorem skimValue_passes
    (items : ∀ cs rest, skimItems fuel cs = .ok rest → Passes .items cs rest)
    (members : ∀ cs rest, skimMembers fuel cs = .ok rest → Passes .members cs rest)
    (skims : skimValue (fuel + 1) cs = .ok rest) : Passes .value cs rest := by
  obtain ⟨lead, cut, blank⟩ := skip_split cs
  cases here : skip cs with
  | nil =>
    simp only [skimValue, here] at skims
    cases skims
  | cons c others =>
    have visible : isSpace c = false := skip_head here
    rw [here] at cut
    subst cut
    rw [skimValue_blanks blank] at skims
    refine .blanks blank ?_
    simp only [skimValue, skip_visible visible] at skims
    split at skims
    · rename_i isNull
      subst isNull
      obtain rfl := keyword_ok.mp skims
      exact .word ['n', 'u', 'l', 'l'] (by simp)
    split at skims
    · rename_i isTrue
      subst isTrue
      obtain rfl := keyword_ok.mp skims
      exact .word ['t', 'r', 'u', 'e'] (by simp)
    split at skims
    · rename_i isFalse
      subst isFalse
      obtain rfl := keyword_ok.mp skims
      exact .word ['f', 'a', 'l', 's', 'e'] (by simp)
    split at skims
    · rename_i isText
      subst isText
      exact .text skims
    split at skims
    · rename_i isMinus
      subst isMinus
      exact .negative skims
    split at skims
    · exact .number skims
    split at skims
    · rename_i isList
      subst isList
      obtain ⟨gap, cut, blank_gap⟩ := skip_split others
      split at skims
      · cases skims
      · rename_i closes
        cases skims
        rw [closes] at cut
        subst cut
        exact .emptyList blank_gap
      · exact .list (items _ _ skims).of_skip
    split at skims
    · rename_i isObject
      subst isObject
      obtain ⟨gap, cut, blank_gap⟩ := skip_split others
      split at skims
      · rename_i closes
        cases skims
        rw [closes] at cut
        subst cut
        exact .emptyObject blank_gap
      · exact .object (members _ _ skims).of_skip
    · cases skims

theorem skimItems_passes (values : ∀ cs rest, skimValue fuel cs = .ok rest → Passes .value cs rest)
    (items : ∀ cs rest, skimItems fuel cs = .ok rest → Passes .items cs rest)
    (skims : skimItems (fuel + 1) cs = .ok rest) : Passes .items cs rest := by
  simp only [skimItems] at skims
  split at skims
  · cases skims
  · rename_i behind value
    have passes := values _ _ value
    obtain ⟨after, cut, blank⟩ := skip_split behind
    split at skims
    · cases skims
    · rename_i closes
      cases skims
      rw [cut, closes] at passes
      exact .lastItem passes blank
    · rename_i others comma
      rw [cut, comma] at passes
      exact .item passes blank (items _ _ skims)
    · cases skims

theorem skimMembers_passes
    (values : ∀ cs rest, skimValue fuel cs = .ok rest → Passes .value cs rest)
    (members : ∀ cs rest, skimMembers fuel cs = .ok rest → Passes .members cs rest)
    (skims : skimMembers (fuel + 1) cs = .ok rest) : Passes .members cs rest := by
  obtain ⟨before, cut, blank_before⟩ := skip_split cs
  simp only [skimMembers] at skims
  split at skims
  · cases skims
  · rename_i opened quote
    rw [quote] at cut
    subst cut
    split at skims
    · cases skims
    · rename_i unnamed string
      split at skims
      · cases skims
      · rename_i content named
        obtain ⟨gap, rfl, blank_gap⟩ := colon_ok named
        split at skims
        · cases skims
        · rename_i behind value
          have passes := values _ _ value
          obtain ⟨after, cut, blank_after⟩ := skip_split behind
          have blank : ∀ c ∈ before ++ (gap ++ after), isSpace c = true := by
            simp only [List.forall_mem_append]
            exact ⟨blank_before, blank_gap, blank_after⟩
          split at skims
          · cases skims
          · rename_i closes
            cases skims
            rw [cut, closes] at passes
            exact .lastMember blank string passes
          · rename_i others comma
            rw [cut, comma] at passes
            exact .member blank string passes (members _ _ skims)
          · cases skims
  · cases skims

/-- What is passed over is spelled. -/
theorem skim_passes (fuel : Nat) (part : Part) (cs rest : List Char)
    (skims : part.skim fuel cs = .ok rest) : Passes part cs rest := by
  induction fuel generalizing part cs rest with
  | zero =>
    cases part <;> simp only [Part.skim, skimValue, skimItems, skimMembers] at skims <;> cases skims
  | succ fuel ih =>
    cases part with
    | value => exact skimValue_passes (ih .items) (ih .members) skims
    | items => exact skimItems_passes (ih .value) (ih .items) skims
    | members => exact skimMembers_passes (ih .value) (ih .members) skims

end Sound

end NotebookKernel.Json
