import NotebookKernel.Proofs.Json.Members

/-!
One of several names, as a text may give it: the name alone, or an object with the name as its only
key and null as its value.
-/

namespace NotebookKernel.Json

/-- A text that names a variant, with blanks before it. -/
inductive Names (name : String) : List Char → Prop
  | plain {lead key : List Char} (blank : ∀ c ∈ lead, isSpace c = true)
      (read : string key = .ok (name, [])) : Names name (lead ++ '"' :: key)
  | tagged {lead gap : List Char} {m : Member} (blank_lead : ∀ c ∈ lead, isSpace c = true)
      (blank : ∀ c ∈ gap, isSpace c = true) (named : m.name? = some name)
      (null : readText m.content = .ok .null) : Names name (lead ++ braced gap [m])

theorem isString_of_string {key : List Char} {name : String}
    (read : string key = .ok (name, [])) : IsString key := by
  obtain ⟨used, cut, string⟩ := skimString_ok.mp (string_skims read)
  rw [cut, List.append_nil]
  exact string

theorem null_spelled {content : List Char} (spells : Spells .value content) :
    readText content = .ok .null ↔ skip content = ['n', 'u', 'l', 'l'] := by
  rw [readText_spelled spells, readsAs_null, List.append_nil]

/-- The string of the name alone. -/
theorem Names.of_str {content : List Char} {name : String} (spells : Spells .value content)
    (read : readText content = .ok (.str name)) : Names name content := by
  obtain ⟨key, here, named⟩ := readsAs_str.mp ((readText_spelled spells).mp read)
  obtain ⟨lead, cut, blank⟩ := skip_split content
  rw [cut, here]
  exact .plain blank named

theorem Names.passes {name : String} {used : List Char} (names : Names name used)
    (rest : List Char) : Passes .value (used ++ rest) rest := by
  cases names with
  | @plain lead key blank read =>
    rw [List.append_assoc, List.cons_append]
    exact .blanks blank (.text (string_skims (string_before read rest)))
  | @tagged lead gap m blank_lead blank named null =>
    have members : Spells .members (gap ++ (joined [m] ++ ['}'])) :=
      (joined_spells m []).blanks blank
    rw [List.append_assoc]
    exact .blanks blank_lead (.object (members.passes nofun))

section Choice

variable {α : Type} {variants : List (String × α)} {rooms : Nat} {cs others rest : List Char}
  {a : α}

theorem variantFrom_ok :
    variantFrom variants ('"' :: others) = .ok (a, rest) ↔
      ∃ name, string others = .ok (name, rest) ∧ variant variants name = .ok a := by
  have opened : textFrom "variant identifier" ('"' :: others) = string others := rfl
  simp only [variantFrom, opened]
  cases read : string others with
  | error stop => simp
  | ok result =>
    obtain ⟨name, left⟩ := result
    cases found : variant variants name with
    | error m => simp [found]
    | ok b => grind

/-- A name that is known is on the list. -/
theorem variant_mem {name : String} (known : variant variants name = .ok a) :
    (name, a) ∈ variants := by
  unfold variant at known
  split at known
  · rename_i entry found
    cases known
    have same : entry.1 = name := by simpa using List.find?_some found
    exact same ▸ List.mem_of_find?_eq_some found
  · cases known

/-- The parts of an object with a name as its key. -/
theorem taggedFrom_ok {β : Type} {content : α → List Char → Reading β} {b : β} :
    taggedFrom variants content cs = .ok (b, rest) ↔
      ∃ key name gap inside after, skip cs = '"' :: key ∧
        string key = .ok (name, gap ++ ':' :: inside) ∧ (∀ c ∈ gap ++ after, isSpace c = true) ∧
        ∃ a, variant variants name = .ok a ∧ content a inside = .ok (b, after ++ '}' :: rest) := by
  constructor
  · intro read
    simp only [taggedFrom, tagFrom] at read
    split at read
    · cases read
    · rename_i a behind tag
      split at tag
      · cases tag
      · rename_i c key here
        split at tag
        · rename_i quote
          subst quote
          obtain ⟨name, named, known⟩ := variantFrom_ok.mp tag
          split at read
          · cases read
          · rename_i inside colon
            obtain ⟨gap, rfl, blank⟩ := colon_ok colon
            split at read
            · cases read
            · rename_i b' left taken
              obtain ⟨after, cut, blank_after⟩ := skip_split left
              split at read
              · cases read
              · rename_i rest closes
                cases read
                rw [cut, closes] at taken
                exact ⟨key, name, gap, inside, after, here, named,
                  List.forall_mem_append.mpr ⟨blank, blank_after⟩, a, known, taken⟩
              · cases read
        · split at tag <;> cases tag
  · rintro ⟨key, name, gap, inside, after, here, named, blank, a, known, taken⟩
    obtain ⟨blank_gap, blank_after⟩ := List.forall_mem_append.mp blank
    have tag : variantFrom variants ('"' :: key) = .ok (a, gap ++ ':' :: inside) :=
      variantFrom_ok.mpr ⟨name, named, known⟩
    simp only [taggedFrom, tagFrom, here, if_true, tag, colon_gap blank_gap, taken,
      skip_to blank_after '}' rfl]

/-- The content behind a name in an object. -/
theorem unit_ok {b : α} :
    (match skip cs with
      | 'n' :: rest => (keyword ['u', 'l', 'l'] rest).map fun rest => (a, rest)
      | rest => .error (unexpected "unit" rest) : Reading α) = .ok (b, rest) ↔
      skip cs = ['n', 'u', 'l', 'l'] ++ rest ∧ a = b := by
  constructor
  · intro read
    split at read
    · rename_i others here
      obtain ⟨rfl, rfl⟩ := word_ok.mp read
      exact ⟨here, rfl⟩
    · cases read
  · rintro ⟨here, rfl⟩
    simp only [here, List.cons_append, List.nil_append]
    exact word_ok.mpr ⟨rfl, rfl⟩

theorem choice_ok :
    (choice variants).fromText (rooms + 1) cs = .ok (a, rest) ↔
      ∃ name used, cs = used ++ rest ∧ Names name used ∧ variant variants name = .ok a := by
  constructor
  · intro read
    obtain ⟨lead, cut, blank⟩ := skip_split cs
    simp only [choice] at read
    split at read
    · cases read
    · rename_i c others here
      rw [here] at cut
      subst cut
      split at read
      · rename_i quote
        subst quote
        obtain ⟨name, named, known⟩ := variantFrom_ok.mp read
        obtain ⟨key, rfl, alone⟩ := string_alone named
        exact ⟨name, lead ++ '"' :: key, by simp, .plain blank alone, known⟩
      · split at read
        · rename_i brace
          subst brace
          obtain ⟨key, name, gap, inside, after, quote, named, blank', a, known, unit⟩ :=
            taggedFrom_ok.mp read
          obtain ⟨null, rfl⟩ := unit_ok.mp unit
          obtain ⟨before, cut, blank_before⟩ := skip_split others
          obtain ⟨key, rfl, alone⟩ := string_alone named
          obtain ⟨lead', cut', blank_lead'⟩ := skip_split inside
          rw [quote] at cut
          rw [null] at cut'
          subst cut cut'
          let m : Member := {
            before, key, gap, content := lead' ++ ['n', 'u', 'l', 'l'], after
            blank := List.forall_mem_append.mpr ⟨blank_before, blank'⟩
            string := isString_of_string alone
            value := Spells.blanks blank_lead' (.word (by simp)) }
          have null : skip m.content = ['n', 'u', 'l', 'l'] := skip_to blank_lead' 'n' rfl _
          have names : Names name (lead ++ braced [] [m]) :=
            .tagged blank (List.forall_mem_nil _) (Member.name?_ok.mpr alone)
              ((null_spelled m.value).mpr null)
          refine ⟨name, _, ?_, names, known⟩
          simp [m, braced, joined, more, Member.text, Member.opened]
        · cases read
  · rintro ⟨name, used, rfl, names, known⟩
    cases names with
    | @plain lead key blank read =>
      have named : string (key ++ rest) = .ok (name, rest) := string_before read rest
      simp only [choice, List.append_assoc, List.cons_append, skip_to blank '"' rfl, if_true]
      exact variantFrom_ok.mpr ⟨name, named, known⟩
    | @tagged lead gap m blank_lead blank named null =>
      have brace : '{' ≠ '"' := by decide
      have blank' : ∀ c ∈ m.gap ++ m.after, isSpace c = true :=
        List.forall_mem_append.mpr ⟨m.blank_gap, m.blank_after⟩
      have quote : skip (gap ++ (joined [m] ++ '}' :: rest)) =
          '"' :: (m.key ++ (m.gap ++ ':' :: (m.content ++ (m.after ++ '}' :: rest)))) := by
        rw [skip_blanks blank]
        simp only [joined, more, List.flatMap_nil, List.append_nil, Member.text, Member.opened,
          List.append_assoc, List.cons_append]
        exact skip_to m.blank_before '"' rfl _
      have unit : skip (m.content ++ (m.after ++ '}' :: rest)) =
          ['n', 'u', 'l', 'l'] ++ (m.after ++ '}' :: rest) := by
        obtain ⟨lead', cut', blank_lead'⟩ := skip_split m.content
        rw [cut', (null_spelled m.value).mp null, List.append_assoc]
        exact skip_to blank_lead' 'n' rfl _
      simp only [choice, List.append_assoc, braced_append, skip_to blank_lead '{' rfl, if_neg brace,
        if_true, enter]
      exact taggedFrom_ok.mpr ⟨_, name, m.gap, _, m.after, quote,
        Member.key_read.mpr ⟨rfl, named⟩, blank', a, known, unit_ok.mpr ⟨unit, rfl⟩⟩

theorem choice_regular (variants : List (String × α)) (rooms : Nat) :
    (choice variants).Regular (rooms + 1) where
  passes cs a rest read := by
    obtain ⟨name, used, rfl, names, -⟩ := choice_ok.mp read
    exact names.passes rest
  ends cs a rest read := by
    obtain ⟨name, used, rfl, names, known⟩ := choice_ok.mp read
    exact ⟨used, rfl, fun more _ => choice_ok.mpr ⟨name, used, rfl, names, known⟩⟩

end Choice

end NotebookKernel.Json
