import NotebookKernel.Cell.Directive
import NotebookKernel.Proofs.Text.Blank

/-!
The grammar of cells. What a cell asks for is said by the form of its text: the marker it begins
with, what stands behind the marker, and the last character that is no blank. Every text has
one of four forms, and `classify_iff` says that the form decides.
-/

namespace NotebookKernel.Directive

open Text

theorem after?_eq_some {marker cs rest : List Char} :
    after? marker cs = some rest ↔ cs = marker ++ rest := by
  induction marker generalizing cs with
  | nil => exact ⟨fun same => Option.some.inj same, fun same => congrArg some same⟩
  | cons m marker ih =>
    cases cs with
    | nil => simp [after?]
    | cons c cs =>
      by_cases same : m = c
      · subst same
        simp [after?, ih]
      · have other : ¬ c = m := fun h => same h.symm
        simp [after?, same, other]

theorem after?_eq_none {marker cs : List Char} : after? marker cs = none ↔ ¬ marker <+: cs := by
  rw [Option.eq_none_iff_forall_ne_some]
  constructor
  · rintro missing ⟨rest, rfl⟩
    exact missing rest (after?_eq_some.mpr rfl)
  · intro missing rest found
    apply missing
    exact ⟨rest, (after?_eq_some.mp found).symm⟩

/-- The toolchain marker, at least one blank, a name, and then nothing or a blank and any
text. -/
structure Naming (cell blanks name rest : List Char) : Prop where
  text : cell = toolchainMarker ++ (blanks ++ (name ++ rest))
  apart : blanks ≠ [] ∧ ∀ c ∈ blanks, isBlank c = true
  named : name ≠ [] ∧ ∀ c ∈ name, isBlank c = false
  ended : ∀ c ∈ rest.head?, isBlank c = true

namespace Naming

variable {cell blanks name rest : List Char}

theorem firstWord (h : Naming cell blanks name rest) :
    FirstWord (blanks ++ (name ++ rest)) blanks name rest :=
  ⟨rfl, h.apart.2, h.named.1, h.named.2, h.ended⟩

theorem unique {blanks' name' rest' : List Char} (h : Naming cell blanks name rest)
    (h' : Naming cell blanks' name' rest') : blanks = blanks' ∧ name = name' ∧ rest = rest' := by
  have same : blanks' ++ (name' ++ rest') = blanks ++ (name ++ rest) := by
    have whole : toolchainMarker ++ (blanks' ++ (name' ++ rest')) =
        toolchainMarker ++ (blanks ++ (name ++ rest)) := by
      rw [← h.text, ← h'.text]
    exact List.append_cancel_left whole
  have other := h'.firstWord
  rw [same] at other
  exact h.firstWord.unique other

end Naming

theorem toolchainName?_eq_some {cell name : List Char} :
    toolchainName? cell = some name ↔ ∃ blanks rest, Naming cell blanks name rest := by
  constructor
  · intro named
    unfold toolchainName? at named
    split at named
    · rename_i c text found
      split at named
      · rename_i blank
        rw [← words_blank blank] at named
        obtain ⟨blanks, rest, word⟩ := words_head?_eq_some.mp named
        have apart : blanks ≠ [] := by
          rintro rfl
          -- The first character would be one of the name.
          obtain ⟨d, others, rfl⟩ := List.exists_cons_of_ne_nil word.some
          obtain ⟨rfl, -⟩ := List.cons.inj word.cut
          have visible := word.visible c (by simp)
          exact absurd (blank.symm.trans visible) nofun
        refine ⟨blanks, rest, ?_, ⟨apart, word.apart⟩, ⟨word.some, word.visible⟩, word.ended⟩
        rw [← word.cut]
        exact after?_eq_some.mp found
      · cases named
    · cases named
  · rintro ⟨blanks, rest, naming⟩
    have found := after?_eq_some.mpr naming.text
    have first := naming.firstWord.words
    obtain ⟨c, others, rfl⟩ := List.exists_cons_of_ne_nil naming.apart.1
    have blank := naming.apart.2 c (by simp)
    rw [List.cons_append] at found first
    rw [words_blank blank] at first
    simp [toolchainName?, found, blank, first]

/-- Blanks aside, the text ends in a semicolon. -/
def EndsInSemicolon (cell : List Char) : Prop :=
  ∃ before blanks, cell = before ++ ';' :: blanks ∧ ∀ c ∈ blanks, isBlank c = true

theorem endsStatement_iff {cell : List Char} :
    endsStatement cell = true ↔ EndsInSemicolon cell := by
  rw [endsStatement, beq_iff_eq]
  constructor
  · intro last
    obtain ⟨blanks, cut, blank⟩ := trimRight_split cell
    obtain ⟨before, ended⟩ := List.getLast?_eq_some_iff.mp last
    refine ⟨before, blanks, ?_, blank⟩
    rw [cut, ended, List.append_assoc]
    rfl
  · rintro ⟨before, blanks, rfl, blank⟩
    have visible : ∀ c ∈ (before ++ [';']).getLast?, isBlank c = false := by
      intro c last
      rw [List.getLast?_concat] at last
      obtain rfl := Option.some.inj last
      rfl
    rw [← List.singleton_append, ← List.append_assoc, trimRight_append blank,
      trimRight_visible visible, List.getLast?_concat]

section Classify

variable {cell : String} (silent : Bool)

theorem classify_add {rest : List Char} (marked : cell.toList = addMarker ++ rest) :
    classify cell silent = .addDependency (.ofList (trim rest)) := by
  simp [classify, after?_eq_some.mpr marked]

variable (unmarked : ¬ addMarker <+: cell.toList)

include unmarked

theorem classify_toolchain {blanks name rest : List Char}
    (naming : Naming cell.toList blanks name rest) :
    classify cell silent = .setToolchain (.ofList name) := by
  have named := toolchainName?_eq_some.mpr ⟨blanks, rest, naming⟩
  simp [classify, after?_eq_none.mpr unmarked, named]

theorem classify_code (unnamed : ∀ blanks name rest, ¬ Naming cell.toList blanks name rest) :
    classify cell silent =
      if silent || endsStatement cell.toList then .accumulate else .evaluate := by
  have none : toolchainName? cell.toList = none := by
    rw [Option.eq_none_iff_forall_ne_some]
    intro name named
    obtain ⟨blanks, rest, naming⟩ := toolchainName?_eq_some.mp named
    exact unnamed blanks name rest naming
  simp [classify, after?_eq_none.mpr unmarked, none]

end Classify

/-- The forms of a text, and what a cell of each asks for. -/
inductive Form (cell : String) (silent : Bool) : Directive → Prop
  | dependency (rest : List Char) (marked : cell.toList = addMarker ++ rest) :
      Form cell silent (.addDependency (.ofList (trim rest)))
  | toolchain (blanks name rest : List Char) (unmarked : ¬ addMarker <+: cell.toList)
      (naming : Naming cell.toList blanks name rest) :
      Form cell silent (.setToolchain (.ofList name))
  | kept (unmarked : ¬ addMarker <+: cell.toList)
      (unnamed : ∀ blanks name rest, ¬ Naming cell.toList blanks name rest)
      (ends : silent = true ∨ EndsInSemicolon cell.toList) : Form cell silent .accumulate
  | run (unmarked : ¬ addMarker <+: cell.toList)
      (unnamed : ∀ blanks name rest, ¬ Naming cell.toList blanks name rest)
      (open_ : ¬ (silent = true ∨ EndsInSemicolon cell.toList)) : Form cell silent .evaluate

theorem classify_form (cell : String) (silent : Bool) :
    Form cell silent (classify cell silent) := by
  by_cases marked : addMarker <+: cell.toList
  · obtain ⟨rest, marked⟩ := marked
    rw [classify_add silent marked.symm]
    exact .dependency rest marked.symm
  · by_cases named : ∃ blanks name rest, Naming cell.toList blanks name rest
    · obtain ⟨blanks, name, rest, naming⟩ := named
      rw [classify_toolchain silent marked naming]
      exact .toolchain blanks name rest marked naming
    · have unnamed : ∀ blanks name rest, ¬ Naming cell.toList blanks name rest := by
        intro blanks name rest naming
        exact named ⟨blanks, name, rest, naming⟩
      have ends : (silent || endsStatement cell.toList) = true ↔
          silent = true ∨ EndsInSemicolon cell.toList := by
        rw [Bool.or_eq_true, endsStatement_iff]
      rw [classify_code silent marked unnamed]
      split
      · rename_i kept
        exact .kept marked unnamed (ends.mp kept)
      · rename_i run
        exact .run marked unnamed (fun kept => run (ends.mpr kept))

/-- No text has two forms. -/
theorem Form.unique {cell : String} {silent : Bool} {d d' : Directive}
    (h : Form cell silent d) (h' : Form cell silent d') : d = d' := by
  cases h with
  | dependency rest marked =>
    have marker : addMarker <+: cell.toList := ⟨rest, marked.symm⟩
    cases h' with
    | dependency rest' marked' =>
      rw [List.append_cancel_left (marked.symm.trans marked')]
    | toolchain _ _ _ unmarked | kept unmarked | run unmarked => exact absurd marker unmarked
  | toolchain blanks name rest unmarked naming =>
    cases h' with
    | dependency rest' marked' => exact absurd ⟨rest', marked'.symm⟩ unmarked
    | toolchain _ _ _ _ naming' => rw [(naming.unique naming').2.1]
    | kept _ unnamed | run _ unnamed => exact absurd naming (unnamed blanks name rest)
  | kept unmarked unnamed ends =>
    cases h' with
    | dependency rest' marked' => exact absurd ⟨rest', marked'.symm⟩ unmarked
    | toolchain blanks name rest _ naming => exact absurd naming (unnamed blanks name rest)
    | kept => rfl
    | run _ _ open_ => exact absurd ends open_
  | run unmarked unnamed open_ =>
    cases h' with
    | dependency rest' marked' => exact absurd ⟨rest', marked'.symm⟩ unmarked
    | toolchain blanks name rest _ naming => exact absurd naming (unnamed blanks name rest)
    | kept _ _ ends => exact absurd ends open_
    | run => rfl

theorem classify_eq_iff {cell : String} {silent : Bool} {d : Directive} :
    classify cell silent = d ↔ Form cell silent d := by
  constructor
  · rintro rfl
    exact classify_form cell silent
  · exact (classify_form cell silent).unique

/-- What a cell asks for is decided by the form of its text, the first of these that applies:
it begins with the dependency marker, and the specification is the rest without the blanks at
its ends; it is the toolchain marker, blanks and a name, which can be cut in one way only; it is
silent or ends in a semicolon, blanks aside; or none of these. -/
theorem classify_iff (cell : String) (silent : Bool) :
    ((∃ spec, classify cell silent = .addDependency spec) ↔ addMarker <+: cell.toList) ∧
    (∀ spec, classify cell silent = .addDependency spec ↔
      ∃ rest, cell.toList = addMarker ++ rest ∧ Trims rest spec.toList) ∧
    (∀ name, classify cell silent = .setToolchain name ↔
      ¬ addMarker <+: cell.toList ∧ ∃ blanks rest, Naming cell.toList blanks name.toList rest) ∧
    (∀ blanks name rest blanks' name' rest', Naming cell.toList blanks name rest →
      Naming cell.toList blanks' name' rest' → blanks = blanks' ∧ name = name' ∧ rest = rest') ∧
    (classify cell silent = .accumulate ↔
      ¬ addMarker <+: cell.toList ∧ (∀ blanks name rest, ¬ Naming cell.toList blanks name rest) ∧
        (silent = true ∨ EndsInSemicolon cell.toList)) ∧
    (classify cell silent = .evaluate ↔
      ¬ addMarker <+: cell.toList ∧ (∀ blanks name rest, ¬ Naming cell.toList blanks name rest) ∧
        ¬ (silent = true ∨ EndsInSemicolon cell.toList)) := by
  simp only [classify_eq_iff]
  refine ⟨⟨?_, ?_⟩, fun spec => ⟨?_, ?_⟩, fun name => ⟨?_, ?_⟩, ?_, ⟨?_, ?_⟩, ⟨?_, ?_⟩⟩
  · rintro ⟨_, ⟨rest, marked⟩⟩
    exact ⟨rest, marked.symm⟩
  · rintro ⟨rest, marked⟩
    exact ⟨_, .dependency rest marked.symm⟩
  · rintro ⟨rest, marked⟩
    refine ⟨rest, marked, ?_⟩
    rw [String.toList_ofList]
    exact trim_trims rest
  · rintro ⟨rest, marked, trims⟩
    have spec_eq : spec = .ofList (trim rest) := by rw [← trims.eq, String.ofList_toList]
    rw [spec_eq]
    exact .dependency rest marked
  · intro form
    cases form with
    | toolchain blanks name rest unmarked naming =>
      refine ⟨unmarked, blanks, rest, ?_⟩
      rw [String.toList_ofList]
      exact naming
  · rintro ⟨unmarked, blanks, rest, naming⟩
    have form : Form cell silent (.setToolchain (.ofList name.toList)) :=
      .toolchain blanks name.toList rest unmarked naming
    rwa [String.ofList_toList] at form
  · intro blanks name rest blanks' name' rest' naming naming'
    exact naming.unique naming'
  · rintro ⟨⟩
    exact ⟨‹_›, ‹_›, ‹_›⟩
  · rintro ⟨unmarked, unnamed, ends⟩
    exact .kept unmarked unnamed ends
  · rintro ⟨⟩
    exact ⟨‹_›, ‹_›, ‹_›⟩
  · rintro ⟨unmarked, unnamed, open_⟩
    exact .run unmarked unnamed open_

/-- Blanks of several kinds around the name, a semicolon at the end, and a silent cell: still a
toolchain, and no other part of the text is its name. -/
theorem classify_iff_toolchain :
    let cell := ":toolchain \u00a0nightly\u2003 x;"
    classify cell true = .setToolchain "nightly" ∧
      ∀ blanks name rest, Naming cell.toList blanks name rest →
        [' ', '\u00a0'] = blanks ∧ "nightly".toList = name ∧ ['\u2003', ' ', 'x', ';'] = rest := by
  intro cell
  obtain ⟨-, -, toolchain, unique, -, -⟩ := classify_iff cell true
  have unmarked : ¬ addMarker <+: cell.toList := by decide
  have naming : Naming cell.toList [' ', '\u00a0'] "nightly".toList ['\u2003', ' ', 'x', ';'] := by
    constructor
    · decide
    · simp [isBlank]
    · simp [isBlank]
    · simp [isBlank]
  constructor
  · exact (toolchain "nightly").mpr ⟨unmarked, _, _, naming⟩
  · intro blanks name rest other
    exact unique _ _ _ _ _ _ naming other

end NotebookKernel.Directive
