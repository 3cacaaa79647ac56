import NotebookKernel.Proofs.Text.Utf8
import NotebookKernel.Text.Blank

/-!
Lines that stand one after the other are cut apart again, as long as none of them holds the
line feed that ends it.
-/

namespace NotebookKernel.Text

/-- One line feed, at the end. -/
def IsLine (text : List Char) : Prop :=
  text.count '\n' = 1 ∧ text.getLast? = some '\n'

/-- The lines of a stream in which every line ends in a line feed. -/
def lines (stream : Bytes) : List Bytes := (stream.splitOn 10).dropLast

theorem splitOn_flatten {α : Type} [BEq α] [LawfulBEq α] {feed : α} (lines : List (List α))
    (whole : ∀ line ∈ lines, feed ∉ line) :
    (lines.map (· ++ [feed])).flatten.splitOn feed = lines ++ [[]] := by
  induction lines with
  | nil => rfl
  | cons line lines ih =>
    have other : ∀ b ∈ line, (b == feed) = false := by
      intro b member
      rw [beq_eq_false_iff_ne]
      rintro rfl
      exact whole line (by simp) member
    rw [List.map_cons, List.flatten_cons, List.append_assoc, List.singleton_append,
      List.splitOn_eq_splitOnP, List.splitOnP_append_cons_of_forall_mem other feed (by simp),
      ← List.splitOn_eq_splitOnP, ih fun line later => whole line (by simp [later])]
    rfl

theorem lines_flatten (lines : List Bytes) (whole : ∀ line ∈ lines, 10 ∉ line) :
    Text.lines (lines.map (· ++ [10])).flatten = lines := by
  rw [Text.lines, splitOn_flatten lines whole, List.dropLast_concat]

section Printable

variable {text : List Char} (printable : ∀ c ∈ text, ¬ c < ' ')

include printable

theorem feed_not_mem : '\n' ∉ text := fun member => printable '\n' member (by decide)

theorem isLine_feed : IsLine (text ++ ['\n']) := by
  refine ⟨?_, List.getLast?_concat⟩
  rw [List.count_append, List.count_eq_zero.mpr (feed_not_mem printable)]
  rfl

theorem control_feed : ∀ c ∈ text ++ ['\n'], c < ' ' → c = '\n' := by
  intro c member control
  rcases List.mem_append.mp member with inside | last
  · exact absurd control (printable c inside)
  · exact List.mem_singleton.mp last

end Printable

section Stream

variable {α : Type} (text : α → List Char)

/-- Every item is on a line of its own, and nothing is left behind the last. -/
theorem splitOn_lines (printable : ∀ item, ∀ c ∈ text item, ¬ c < ' ') (items : List α) :
    (items.flatMap fun item => text item ++ ['\n']).splitOn '\n' = items.map text ++ [[]] := by
  have whole : ∀ line ∈ items.map text, '\n' ∉ line :=
    List.forall_mem_map.mpr fun item _ => feed_not_mem (printable item)
  have cut := splitOn_flatten (items.map text) whole
  rwa [← List.flatMap_def, List.flatMap_map] at cut

theorem encode_lines (items : List α) :
    Utf8.encode (items.flatMap fun item => text item ++ ['\n']) =
      ((items.map fun item => Utf8.encode (text item)).map (· ++ [10])).flatten := by
  rw [← List.flatMap_def, List.flatMap_map, Utf8.encode, List.flatMap_assoc]
  exact congrArg (items.flatMap ·) (funext fun item => Utf8.encode_feed (text item))

end Stream

/-- Of a line without blanks at its ends only the line feed is taken. -/
theorem trim_line {c d : Char} (body : List Char) (first : isBlank c = false)
    (last : isBlank d = false) : trim (c :: (body ++ [d]) ++ ['\n']) = c :: (body ++ [d]) := by
  have feed : isBlank '\n' = true := rfl
  simp [trim, trimLeft, trimRight, first, last, feed]

end NotebookKernel.Text
