import Mathlib.Data.List.ReduceOption
import NotebookKernel.Console
import NotebookKernel.Proofs.Text.Blank
import NotebookKernel.Proofs.Text.Utf8

/-!
The cells of an input, and what they do not depend on: how its lines end, blanks at their ends,
blank lines, and whether a line feed ends the last one.
-/

namespace NotebookKernel.Console

open Text (Bytes)

/-- The cell on a line, which may be empty; none if the line cannot be read. -/
def cell? (line : Bytes) : Option String :=
  (Text.Utf8.decode line).toOption.map cellOf

/-- The cells up to the first line that cannot be read. -/
def cells (lines : List Bytes) : List String :=
  ((lines.map cell?).takeWhile Option.isSome).reduceOption.filter (· ≠ "")

def Readable (lines : List Bytes) : Prop := ∀ line ∈ lines, (cell? line).isSome

section Cons

variable {line : Bytes} (lines : List Bytes)

theorem cells_unreadable (unreadable : cell? line = none) : cells (line :: lines) = [] := by
  simp [cells, unreadable]

theorem cells_blank (blank : cell? line = some "") : cells (line :: lines) = cells lines := by
  simp [cells, blank]

theorem cells_cell {cell : String} (written : cell? line = some cell) (some : cell ≠ "") :
    cells (line :: lines) = cell :: cells lines := by
  simp [cells, written, some]

theorem readable_cons : Readable (line :: lines) ↔ (cell? line).isSome ∧ Readable lines :=
  List.forall_mem_cons

end Cons

/-- What comes first on the line decides. -/
theorem cells_congr {line line' : Bytes} (same : cell? line = cell? line')
    {lines lines' : List Bytes} (rest : cells lines = cells lines') :
    cells (line :: lines) = cells (line' :: lines') := by
  cases written : cell? line' with
  | none => rw [cells_unreadable _ (same.trans written), cells_unreadable _ written]
  | some cell =>
    by_cases blank : cell = ""
    · subst blank
      rw [cells_blank _ (same.trans written), cells_blank _ written, rest]
    · rw [cells_cell _ (same.trans written) blank, cells_cell _ written blank, rest]

section Blanks

variable {blanks : List Char} (blank : ∀ c ∈ blanks, Text.isBlank c = true)

include blank

theorem cell?_append (line : Bytes) : cell? (line ++ Text.Utf8.encode blanks) = cell? line := by
  rw [cell?, cell?, Text.Utf8.decode_append]
  cases (Text.Utf8.decode line).toOption with
  | none => rfl
  | some cs => simp only [Option.map_some, cellOf, Text.trimRight_append blank]

theorem cell?_blanks : cell? (Text.Utf8.encode blanks) = some "" :=
  cell?_append blank []

end Blanks

/-- The same lines but for blanks at their ends and blank lines. -/
inductive Restyled : List Bytes → List Bytes → Prop
  | nil : Restyled [] []
  | line (line : Bytes) (blanks blanks' : List Char) {lines lines' : List Bytes}
      (blank : ∀ c ∈ blanks, Text.isBlank c = true) (blank' : ∀ c ∈ blanks', Text.isBlank c = true)
      (rest : Restyled lines lines') :
      Restyled ((line ++ Text.Utf8.encode blanks) :: lines)
        ((line ++ Text.Utf8.encode blanks') :: lines')
  | left (blanks : List Char) {lines lines' : List Bytes}
      (blank : ∀ c ∈ blanks, Text.isBlank c = true) (rest : Restyled lines lines') :
      Restyled (Text.Utf8.encode blanks :: lines) lines'
  | right (blanks : List Char) {lines lines' : List Bytes}
      (blank : ∀ c ∈ blanks, Text.isBlank c = true) (rest : Restyled lines lines') :
      Restyled lines (Text.Utf8.encode blanks :: lines')

namespace Restyled

variable {lines lines' : List Bytes}

theorem cells (restyled : Restyled lines lines') : cells lines = cells lines' := by
  induction restyled with
  | nil => rfl
  | line line _ _ blank blank' _ ih =>
    exact cells_congr ((cell?_append blank line).trans (cell?_append blank' line).symm) ih
  | left _ blank _ ih => rw [cells_blank _ (cell?_blanks blank), ih]
  | right _ blank _ ih => rw [cells_blank _ (cell?_blanks blank), ih]

theorem readable (restyled : Restyled lines lines') : Readable lines ↔ Readable lines' := by
  induction restyled with
  | nil => exact Iff.rfl
  | line line _ _ blank blank' _ ih =>
    rw [readable_cons, readable_cons, cell?_append blank, cell?_append blank', ih]
  | left _ blank _ ih =>
    simp only [readable_cons, cell?_blanks blank, ih, Option.isSome_some, true_and]
  | right _ blank _ ih =>
    simp only [readable_cons, cell?_blanks blank, ih, Option.isSome_some, true_and]

theorem refl (lines : List Bytes) : Restyled lines lines := by
  induction lines with
  | nil => exact .nil
  | cons line lines ih =>
    have same : Restyled ((line ++ []) :: lines) ((line ++ []) :: lines) :=
      .line line [] [] nofun nofun ih
    rwa [List.append_nil] at same

end Restyled

/-- Every line but the last has the line feed that it was cut at; an empty last one is none. -/
theorem lines_splitOn (input : Bytes) :
    ∃ whole last, input.splitOn 10 = whole ++ [last] ∧
      lines input = whole.map (· ++ [10]) ++ if last = [] then [] else [last] := by
  induction input with
  | nil => exact ⟨[], [], rfl, rfl⟩
  | cons b rest ih =>
    obtain ⟨whole, last, pieces, cut⟩ := ih
    rw [List.splitOn_eq_splitOnP] at pieces
    rw [List.splitOn_eq_splitOnP, List.splitOnP_cons_eq_if_modifyHead, pieces]
    by_cases feed : b = 10
    · subst feed
      refine ⟨[] :: whole, last, rfl, ?_⟩
      rw [lines, if_pos rfl, cut]
      rfl
    · rw [lines, if_neg feed, cut, if_neg (by simpa using feed)]
      cases whole with
      | nil =>
        refine ⟨[], b :: last, rfl, ?_⟩
        by_cases empty : last = [] <;> simp [empty]
      | cons line whole => exact ⟨(b :: line) :: whole, last, rfl, rfl⟩

theorem Restyled.feeds (whole : List Bytes) (last : Bytes) :
    Restyled (whole.map (· ++ [10]) ++ if last = [] then [] else [last]) (whole ++ [last]) := by
  induction whole with
  | nil =>
    by_cases empty : last = []
    · subst empty
      exact .right [] nofun .nil
    · rw [if_neg empty]
      exact .refl [last]
  | cons line whole ih =>
    have ended : Restyled ((line ++ [10]) ::
          (whole.map (· ++ [10]) ++ if last = [] then [] else [last]))
        ((line ++ []) :: (whole ++ [last])) :=
      .line line ['\n'] [] (List.forall_mem_singleton.mpr rfl) nofun ih
    rwa [List.append_nil] at ended

theorem lines_restyled (input : Bytes) : Restyled (lines input) (input.splitOn 10) := by
  obtain ⟨whole, last, pieces, cut⟩ := lines_splitOn input
  rw [pieces, cut]
  exact .feeds whole last

end NotebookKernel.Console
