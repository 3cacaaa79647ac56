import Mathlib.Data.List.DropRight
import NotebookKernel.Text.Blank

/-!
Trimming and words, said without the functions that compute them: what is left of a text
without the blanks at its ends, and where the first word of a text begins and ends. There is
one such way to cut a text at most.
-/

namespace NotebookKernel.Text

section Run

variable {α : Type} {p : α → Bool} {run rest : List α}

/-- A run ends where the rest begins with something else. -/
theorem dropWhile_run (all : ∀ a ∈ run, p a = true) (stops : ∀ a ∈ rest.head?, p a = false) :
    (run ++ rest).dropWhile p = rest := by
  rw [List.dropWhile_append_of_pos all]
  cases rest with
  | nil => rfl
  | cons a rest =>
    have other : p a = false := stops a rfl
    exact List.dropWhile_cons_of_neg (by simp [other])

theorem takeWhile_run (all : ∀ a ∈ run, p a = true) (stops : ∀ a ∈ rest.head?, p a = false) :
    (run ++ rest).takeWhile p = run := by
  have parts : (run ++ rest).takeWhile p ++ (run ++ rest).dropWhile p = run ++ rest :=
    List.takeWhile_append_dropWhile
  rw [dropWhile_run all stops] at parts
  exact List.append_cancel_right parts

variable (p)

theorem run_stops (cs : List α) : ∀ a ∈ (cs.dropWhile p).head?, p a = false := by
  intro a first
  have visible := List.head?_dropWhile_not p cs
  rw [first] at visible
  simpa using visible

theorem run_all (cs : List α) : ∀ a ∈ cs.takeWhile p, p a = true :=
  fun _ member => List.mem_takeWhile_imp member

end Run

section TrimRight

variable {blanks : List Char} (blank : ∀ c ∈ blanks, isBlank c = true)

include blank

theorem trimRight_append (cs : List Char) : trimRight (cs ++ blanks) = trimRight cs := by
  have all : ∀ c ∈ blanks.reverse, isBlank c = true := by simpa using blank
  rw [trimRight, List.reverse_append, List.dropWhile_append_of_pos all, ← trimRight]

theorem trimLeft_append (cs : List Char) : trimLeft (blanks ++ cs) = trimLeft cs :=
  List.dropWhile_append_of_pos blank

end TrimRight

theorem trimLeft_visible {cs : List Char} (first : ∀ c ∈ cs.head?, isBlank c = false) :
    trimLeft cs = cs := by
  cases cs with
  | nil => rfl
  | cons c cs =>
    have visible : isBlank c = false := first c rfl
    exact List.dropWhile_cons_of_neg (by simp [visible])

theorem trimRight_visible {cs : List Char} (last : ∀ c ∈ cs.getLast?, isBlank c = false) :
    trimRight cs = cs := by
  refine List.rdropWhile_eq_self_iff.mpr fun some => ?_
  have visible := last _ (List.getLast?_eq_some_getLast some)
  simp [visible]

/-- What was cut off at the end. -/
theorem trimRight_split (cs : List Char) :
    ∃ blanks, cs = trimRight cs ++ blanks ∧ ∀ c ∈ blanks, isBlank c = true := by
  refine ⟨cs.rtakeWhile isBlank, List.rdropWhile_append_rtakeWhile.symm, ?_⟩
  intro c member
  exact List.mem_rtakeWhile_imp member

theorem trimRight_last (cs : List Char) : ∀ c ∈ (trimRight cs).getLast?, isBlank c = false := by
  intro c last
  have some : trimRight cs ≠ [] := by
    intro none
    rw [none] at last
    cases last
  have visible := List.rdropWhile_last_not isBlank cs some
  have same : (trimRight cs).getLast some = c := by
    rw [List.getLast?_eq_some_getLast some] at last
    exact Option.some.inj last
  rw [← same]
  exact Bool.eq_false_iff.mpr visible

/-- The text between the blanks at the ends of another; it has none at its own. -/
structure Trims (cs text : List Char) : Prop where
  cut : ∃ lead trail, cs = lead ++ (text ++ trail) ∧ (∀ c ∈ lead, isBlank c = true) ∧
    ∀ c ∈ trail, isBlank c = true
  first : ∀ c ∈ text.head?, isBlank c = false
  last : ∀ c ∈ text.getLast?, isBlank c = false

theorem trim_trims (cs : List Char) : Trims cs (trim cs) := by
  obtain ⟨trail, cut, trailing⟩ := trimRight_split (trimLeft cs)
  have whole : cs = cs.takeWhile isBlank ++ (trim cs ++ trail) := by
    rw [trim, ← cut, trimLeft, List.takeWhile_append_dropWhile]
  constructor
  · exact ⟨_, trail, whole, run_all isBlank cs, trailing⟩
  · intro c first
    have begins : (trimLeft cs).head? = (trim cs).head?.or trail.head? := by
      rw [← List.head?_append, trim, ← cut]
    apply run_stops isBlank cs c
    rw [← trimLeft, begins, Option.mem_def.mp first]
    rfl
  · exact trimRight_last (trimLeft cs)

theorem Trims.eq {cs text : List Char} (h : Trims cs text) : text = trim cs := by
  obtain ⟨⟨lead, trail, rfl, leading, trailing⟩, first, last⟩ := h
  rw [trim, trimLeft_append leading]
  cases text with
  | nil =>
    have none : trimLeft ([] ++ trail) = [] := by
      rw [List.nil_append, trimLeft, List.dropWhile_eq_nil_iff]
      exact trailing
    rw [none]
    rfl
  | cons c text =>
    have kept : trimLeft (c :: text ++ trail) = c :: text ++ trail := trimLeft_visible first
    rw [kept, trimRight_append trailing, trimRight_visible last]

theorem trim_visible {cs : List Char} (first : ∀ c ∈ cs.head?, isBlank c = false)
    (last : ∀ c ∈ cs.getLast?, isBlank c = false) : trim cs = cs := by
  have whole : Trims cs cs := ⟨⟨[], [], by simp, nofun, nofun⟩, first, last⟩
  exact whole.eq.symm

/-- Blanks at the ends of a text do not count. -/
theorem trim_blanks {lead trail : List Char} (leading : ∀ c ∈ lead, isBlank c = true)
    (trailing : ∀ c ∈ trail, isBlank c = true) (cs : List Char) :
    trim (lead ++ (cs ++ trail)) = trim cs := by
  obtain ⟨⟨before, after, cut, blank_before, blank_after⟩, first, last⟩ := trim_trims cs
  have whole : Trims (lead ++ (cs ++ trail)) (trim cs) := by
    refine ⟨⟨lead ++ before, after ++ trail, ?_, ?_, ?_⟩, first, last⟩
    · conv_lhs => rw [cut]
      simp only [List.append_assoc]
    · exact fun c inside => (List.mem_append.mp inside).elim (leading c) (blank_before c)
    · exact fun c inside => (List.mem_append.mp inside).elim (blank_after c) (trailing c)
  exact whole.eq.symm

theorem words_blank {c : Char} (blank : isBlank c = true) (cs : List Char) :
    words (c :: cs) = words cs := by
  simp [words, splitBlank, blank]

theorem words_blanks {blanks : List Char} (blank : ∀ c ∈ blanks, isBlank c = true)
    (cs : List Char) : words (blanks ++ cs) = words cs := by
  induction blanks with
  | nil => rfl
  | cons c blanks ih =>
    rw [List.cons_append, words_blank (blank c (by simp)),
      ih fun d later => blank d (by simp [later])]

/-- There is no word among blanks. -/
theorem words_eq_nil {blanks : List Char} (blank : ∀ c ∈ blanks, isBlank c = true) :
    words blanks = [] := by
  have none := words_blanks blank []
  rwa [List.append_nil] at none

/-- Characters that are no blanks go on with the first piece. -/
theorem splitBlank_append {word : List Char} (visible : ∀ c ∈ word, isBlank c = false)
    {rest piece : List Char} {pieces : List (List Char)} (cut : splitBlank rest = piece :: pieces) :
    splitBlank (word ++ rest) = (word ++ piece) :: pieces := by
  induction word with
  | nil => exact cut
  | cons c word ih =>
    have others := ih fun d later => visible d (by simp [later])
    rw [List.cons_append, splitBlank, if_neg (by simp [visible c]), others]
    rfl

/-- A word that is followed by a blank or by nothing. -/
theorem words_word {word rest : List Char} (some : word ≠ [])
    (visible : ∀ c ∈ word, isBlank c = false) (ended : ∀ c ∈ rest.head?, isBlank c = true) :
    words (word ++ rest) = word :: words rest := by
  obtain ⟨pieces, cut, others⟩ :
      ∃ pieces, splitBlank rest = [] :: pieces ∧ words rest = pieces.filter (!·.isEmpty) := by
    cases rest with
    | nil => exact ⟨[], rfl, rfl⟩
    | cons c rest =>
      have blank : isBlank c = true := ended c rfl
      refine ⟨splitBlank rest, by rw [splitBlank, if_pos blank], ?_⟩
      rw [words_blank blank, words]
  have whole := splitBlank_append visible cut
  rw [List.append_nil] at whole
  rw [words, whole, others, List.filter_cons_of_pos (by simpa using some)]

/-- Blanks, a word, and then nothing or a blank and any text. -/
structure FirstWord (cs blanks word rest : List Char) : Prop where
  cut : cs = blanks ++ (word ++ rest)
  apart : ∀ c ∈ blanks, isBlank c = true
  some : word ≠ []
  visible : ∀ c ∈ word, isBlank c = false
  ended : ∀ c ∈ rest.head?, isBlank c = true

theorem FirstWord.words {cs blanks word rest : List Char} (h : FirstWord cs blanks word rest) :
    words cs = word :: Text.words rest := by
  rw [h.cut, words_blanks h.apart, words_word h.some h.visible h.ended]

/-- The blanks are all those at the beginning, and the word all that follows up to the next. -/
theorem FirstWord.unique {cs blanks word rest blanks' word' rest' : List Char}
    (h : FirstWord cs blanks word rest) (h' : FirstWord cs blanks' word' rest') :
    blanks = blanks' ∧ word = word' ∧ rest = rest' := by
  have spread {blanks word rest : List Char} (h : FirstWord cs blanks word rest) :
      blanks = cs.takeWhile isBlank ∧
        word = (cs.dropWhile isBlank).takeWhile (!isBlank ·) ∧
        rest = (cs.dropWhile isBlank).dropWhile (!isBlank ·) := by
    have stops : ∀ c ∈ (word ++ rest).head?, isBlank c = false := by
      cases word with
      | nil => exact absurd rfl h.some
      | cons c word =>
        rintro _ ⟨⟩
        exact h.visible c (by simp)
    have all : ∀ c ∈ word, (!isBlank c) = true := by simpa using h.visible
    have ended : ∀ c ∈ rest.head?, (!isBlank c) = false := by simpa using h.ended
    rw [h.cut, takeWhile_run h.apart stops, dropWhile_run h.apart stops,
      takeWhile_run all ended, dropWhile_run all ended]
    exact ⟨rfl, rfl, rfl⟩
  obtain ⟨rfl, rfl, rfl⟩ := spread h
  obtain ⟨rfl, rfl, rfl⟩ := spread h'
  exact ⟨rfl, rfl, rfl⟩

/-- Every text is blank, or it has a first word. -/
theorem firstWord_or_blank (cs : List Char) :
    (∃ blanks word rest, FirstWord cs blanks word rest) ∨ ∀ c ∈ cs, isBlank c = true := by
  by_cases blank : cs.dropWhile isBlank = []
  · right
    exact List.dropWhile_eq_nil_iff.mp blank
  · left
    have parts : (cs.dropWhile isBlank).takeWhile (!isBlank ·) ++
        (cs.dropWhile isBlank).dropWhile (!isBlank ·) = cs.dropWhile isBlank :=
      List.takeWhile_append_dropWhile
    refine ⟨cs.takeWhile isBlank, (cs.dropWhile isBlank).takeWhile (!isBlank ·),
      (cs.dropWhile isBlank).dropWhile (!isBlank ·), ?_, run_all isBlank cs, ?_, ?_, ?_⟩
    · rw [parts, List.takeWhile_append_dropWhile]
    · obtain ⟨c, rest, cut⟩ := List.exists_cons_of_ne_nil blank
      have visible : isBlank c = false := run_stops isBlank cs c (by rw [cut]; rfl)
      rw [cut, List.takeWhile_cons_of_pos (by simp [visible])]
      exact List.cons_ne_nil _ _
    · intro c member
      simpa using run_all (!isBlank ·) _ c member
    · intro c first
      simpa using run_stops (!isBlank ·) _ c first

theorem words_head?_eq_some {cs word : List Char} :
    (words cs).head? = some word ↔ ∃ blanks rest, FirstWord cs blanks word rest := by
  constructor
  · intro first
    obtain ⟨blanks, other, rest, h⟩ | blank := firstWord_or_blank cs
    · rw [h.words] at first
      cases first
      exact ⟨blanks, rest, h⟩
    · rw [words_eq_nil blank] at first
      cases first
  · rintro ⟨blanks, rest, h⟩
    rw [h.words]
    rfl

/-- A blank between two texts parts their words. -/
theorem words_append {c : Char} (blank : isBlank c = true) (cs rest : List Char) :
    words (cs ++ c :: rest) = words cs ++ words rest := by
  induction length : cs.length using Nat.strongRecOn generalizing cs with
  | ind _ ih =>
    obtain ⟨blanks, word, behind, h⟩ | blanks := firstWord_or_blank cs
    · have further : FirstWord (cs ++ c :: rest) blanks word (behind ++ c :: rest) := by
        refine ⟨by simp [h.cut], h.apart, h.some, h.visible, ?_⟩
        cases behind with
        | nil => simpa using blank
        | cons d behind => exact h.ended
      have shorter : behind.length < cs.length := by
        have word_length := List.length_pos_of_ne_nil h.some
        rw [h.cut, List.length_append, List.length_append]
        omega
      rw [further.words, h.words, ih behind.length (length ▸ shorter) behind rfl, List.cons_append]
    · rw [words_blanks blanks, words_blank blank, words_eq_nil blanks, List.nil_append]

theorem words_append_blanks {blanks : List Char} (blank : ∀ c ∈ blanks, isBlank c = true)
    (cs : List Char) : words (cs ++ blanks) = words cs := by
  cases blanks with
  | nil => rw [List.append_nil]
  | cons c blanks =>
    have others : ∀ d ∈ blanks, isBlank d = true := fun d later => blank d (by simp [later])
    rw [words_append (blank c (by simp)), words_eq_nil others, List.append_nil]

end NotebookKernel.Text
