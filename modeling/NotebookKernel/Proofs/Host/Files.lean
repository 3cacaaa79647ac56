import NotebookKernel.Host.FileTree

/-!
What is written to a file is read from it, and a directory that was made is there. A path leads
to the same place as long as the directories on its way stay.
-/

namespace NotebookKernel.FileTree

open Text (Bytes)

variable {tree later : FileTree} {path : String} {names : List String}

/-- There is a file, which keeps what is written to it as a device does not. -/
def HasFile (tree : FileTree) (path : String) : Prop :=
  ∃ content executable, tree.stat path = .ok (.file content executable)

/-- There is a file, or nothing yet in a directory that is there. -/
def HasRoom (tree : FileTree) (path : String) : Prop :=
  ∃ names, tree.resolve path = .ok names ∧ endsInSeparator path = false ∧
    ((∃ content executable, tree.node? names = some (.file content executable)) ∨
      tree.node? names = none ∧ tree.node? names.dropLast = some .directory)

theorem node?_put_self (below : names ≠ []) (tree : FileTree) (node : Node) :
    (tree.put names node).node? names = some node := by
  simp [node?, put, below]

theorem node?_put_other {other : List String} (different : other ≠ names) (tree : FileTree)
    (node : Node) : (tree.put names node).node? other = tree.node? other := by
  have left : (tree.nodes.filter fun old => old.1 != names).find? (fun old => old.1 == other) =
      tree.nodes.find? fun old => old.1 == other := by
    rw [List.find?_filter]
    congr 1
    funext old
    by_cases found : old.1 = other <;> simp [found, different]
  have fresh : (names == other) = false := beq_false_of_ne different.symm
  simp only [node?, put, List.find?_cons, fresh, left]

theorem isDirectory_iff :
    tree.isDirectory path = true ↔
      ∃ names, tree.resolve path = .ok names ∧ tree.node? names = some .directory := by
  unfold isDirectory stat
  cases tree.resolve path with
  | error e => simp
  | ok names =>
    cases here : tree.node? names with
    | none => simp [here]
    | some node => cases node <;> cases endsInSeparator path <;> simp [here]

/-- Directories stay, and so does the one that relative paths start from. -/
structure Keeps (tree later : FileTree) : Prop where
  here : later.here = tree.here
  directory : ∀ names, tree.node? names = some .directory → later.node? names = some .directory

/-- All that is there stays as it is. -/
structure Extends (tree later : FileTree) : Prop where
  here : later.here = tree.here
  node : ∀ names node, tree.node? names = some node → later.node? names = some node

namespace Extends

theorem refl (tree : FileTree) : tree.Extends tree := ⟨rfl, fun _ _ found => found⟩

theorem trans {last : FileTree} (first : tree.Extends later) (second : later.Extends last) :
    tree.Extends last :=
  ⟨second.here.trans first.here, fun names node found =>
    second.node names node (first.node names node found)⟩

theorem keeps (extended : tree.Extends later) : tree.Keeps later :=
  ⟨extended.here, fun names found => extended.node names .directory found⟩

end Extends

theorem put_extends (free : tree.node? names = none) (node : Node) :
    tree.Extends (tree.put names node) where
  here := rfl
  node other old found := by
    have different : other ≠ names := by
      rintro rfl
      rw [free] at found
      cases found
    rw [node?_put_other different, found]

theorem put_keeps (other : tree.node? names ≠ some .directory) (node : Node) :
    tree.Keeps (tree.put names node) where
  here := rfl
  directory place found := by
    have different : place ≠ names := by
      rintro rfl
      exact other found
    rw [node?_put_other different, found]

namespace Keeps

theorem walk (keeps : tree.Keeps later) {reached names place : List String}
    (found : tree.walk reached names = .ok place) : later.walk reached names = .ok place := by
  induction names generalizing reached with
  | nil => exact found
  | cons name names ih =>
    cases here : tree.node? reached with
    | none => simp only [FileTree.walk, here, reduceCtorEq] at found
    | some node =>
      cases node with
      | directory =>
        simp only [FileTree.walk, here, keeps.directory reached here] at found ⊢
        split at found
        · cases found
        · rename_i short
          rw [if_neg short, ih found]
      | _ => simp only [FileTree.walk, here, reduceCtorEq] at found

theorem resolve (keeps : tree.Keeps later) (found : tree.resolve path = .ok names) :
    later.resolve path = .ok names := by
  unfold FileTree.resolve at found ⊢
  split at found
  · cases found
  · split at found
    · cases found
    · split at found
      · cases found
      · rw [keeps.here]
        simp only [*, if_false, Bool.false_eq_true]
        exact keeps.walk found

theorem isDirectory (keeps : tree.Keeps later) (found : tree.isDirectory path = true) :
    later.isDirectory path = true := by
  obtain ⟨names, resolved, here⟩ := isDirectory_iff.mp found
  exact isDirectory_iff.mpr ⟨names, keeps.resolve resolved, keeps.directory names here⟩

end Keeps

theorem read_file {content : Bytes} {executable : Bool}
    (file : tree.stat path = .ok (.file content executable)) : tree.read path = .ok content := by
  rw [read, file]

/-- Where a file is found, and that its path does not ask for a directory. -/
theorem stat_file {content : Bytes} {executable : Bool}
    (file : tree.stat path = .ok (.file content executable)) :
    ∃ names, tree.resolve path = .ok names ∧ tree.node? names = some (.file content executable) ∧
      endsInSeparator path = false := by
  unfold stat at file
  cases resolved : tree.resolve path with
  | error e => simp only [resolved, reduceCtorEq] at file
  | ok names =>
    refine ⟨names, rfl, ?_⟩
    cases here : tree.node? names with
    | none => simp only [resolved, here, reduceCtorEq] at file
    | some node =>
      cases node with
      | directory => simp only [resolved, here, reduceCtorEq, Except.ok.injEq] at file
      | _ =>
        cases separator : endsInSeparator path <;>
          simp_all

theorem stat_put {content : Bytes} {executable : Bool} (resolved : tree.resolve path = .ok names)
    (other : tree.node? names ≠ some .directory) (plain : endsInSeparator path = false) :
    (tree.put names (.file content executable)).stat path = .ok (.file content executable) := by
  have below : names ≠ [] := by
    rintro rfl
    exact other rfl
  have again := (put_keeps other (.file content executable)).resolve resolved
  simp only [stat, again, node?_put_self below, plain, Bool.false_eq_true, if_false]

theorem HasFile.extends (file : tree.HasFile path) (extended : tree.Extends later) :
    later.HasFile path := by
  obtain ⟨content, executable, file⟩ := file
  obtain ⟨names, resolved, here, plain⟩ := stat_file file
  refine ⟨content, executable, ?_⟩
  simp only [stat, extended.keeps.resolve resolved, extended.node names _ here, plain,
    Bool.false_eq_true, if_false]

theorem HasFile.room (file : tree.HasFile path) : tree.HasRoom path := by
  obtain ⟨content, executable, file⟩ := file
  obtain ⟨names, resolved, here, plain⟩ := stat_file file
  exact ⟨names, resolved, plain, .inl ⟨content, executable, here⟩⟩

/-- Where there is room for a file, anything can be written. -/
theorem write_room (room : tree.HasRoom path) (content : Bytes) :
    ∃ later executable, tree.write path content = .ok later ∧
      later.stat path = .ok (.file content executable) ∧ tree.Keeps later := by
  obtain ⟨names, resolved, plain, ⟨old, executable, here⟩ | ⟨free, above⟩⟩ := room
  · have other : tree.node? names ≠ some .directory := by simp [here]
    refine ⟨tree.put names (.file content executable), executable, ?_,
      stat_put resolved other plain, put_keeps other _⟩
    simp only [write, resolved, here, plain, Bool.false_eq_true, if_false]
  · have other : tree.node? names ≠ some .directory := by simp [free]
    refine ⟨tree.put names (.file content false), false, ?_, stat_put resolved other plain,
      put_keeps other _⟩
    simp only [write, resolved, free, above, plain, Bool.false_eq_true, if_false]

/-- What was written to a place that keeps it is there. -/
theorem write_ok {content : Bytes} (written : tree.write path content = .ok later)
    (file : later.HasFile path) :
    ∃ executable, later.stat path = .ok (.file content executable) ∧ tree.Keeps later := by
  unfold write at written
  split at written
  · cases written
  · rename_i names resolved
    split at written
    · cases written
    · rename_i old executable here
      have other : tree.node? names ≠ some .directory := by simp [here]
      split at written
      · cases written
      · rename_i separator
        cases written
        exact ⟨executable, stat_put resolved other (by simpa using separator), put_keeps other _⟩
    · -- Neither a device nor a program is a file that keeps what is written.
      rename_i node noDirectory noFile here
      cases written
      obtain ⟨old, executable, file⟩ := file
      obtain ⟨place, found, there, -⟩ := stat_file file
      rw [resolved] at found
      cases found
      rw [here] at there
      exact absurd (Option.some.inj there) (noFile old executable)
    · rename_i free
      have other : tree.node? names ≠ some .directory := by simp [free]
      split at written
      · cases written
      · rename_i separator
        split at written
        · cases written
          exact ⟨false, stat_put resolved other (by simpa using separator), put_keeps other _⟩
        · cases written
        · cases written

theorem makeDirectory_ok (made : tree.makeDirectory path = .ok later) :
    tree.Extends later ∧ later.isDirectory path = true := by
  unfold makeDirectory at made
  split at made
  · cases made
  · rename_i names resolved
    split at made
    · cases made
    · rename_i free
      split at made
      · cases made
        have extended : tree.Extends (tree.put names .directory) := put_extends free _
        have below : names ≠ [] := by
          rintro rfl
          cases free
        exact ⟨extended, isDirectory_iff.mpr
          ⟨names, extended.keeps.resolve resolved, node?_put_self below tree _⟩⟩
      · cases made
      · cases made

theorem isDirectory_there {e : IoError}
    (there : (if tree.isDirectory path then Except.ok tree else .error e) = .ok later) :
    tree.Extends later ∧ later.isDirectory path = true := by
  split at there
  · rename_i directory
    cases there
    exact ⟨.refl _, directory⟩
  · cases there

theorem makeDirectories_ok {fuel : Nat} (made : tree.makeDirectories fuel path = .ok later) :
    tree.Extends later ∧ (path = "" ∨ later.isDirectory path = true) := by
  induction fuel generalizing tree later path with
  | zero => cases made
  | succ fuel ih =>
    unfold makeDirectories at made
    split at made
    · rename_i nowhere
      cases made
      exact ⟨.refl _, .inl nowhere⟩
    · split at made
      · rename_i direct
        cases made
        exact (makeDirectory_ok direct).imp_right .inr
      · split at made
        · split at made
          · cases made
          · split at made
            · cases made
            · -- The parents are there; the directory itself is made behind them.
              rename_i parents
              have above := (ih parents).1
              split at made
              · rename_i last
                cases made
                exact ⟨above.trans (makeDirectory_ok last).1, .inr (makeDirectory_ok last).2⟩
              · exact ⟨above.trans (isDirectory_there made).1, .inr (isDirectory_there made).2⟩
        · exact (isDirectory_there made).imp_right .inr

theorem ensureDirectory_ok (made : tree.ensureDirectory path = .ok later) :
    tree.Extends later ∧ (path = "" ∨ later.isDirectory path = true) :=
  makeDirectories_ok made

theorem ensureDirectory_there (there : path = "" ∨ tree.isDirectory path = true) :
    tree.ensureDirectory path = .ok tree := by
  rw [ensureDirectory, makeDirectories]
  rcases there with rfl | directory
  · rw [if_pos rfl]
  · obtain ⟨names, resolved, here⟩ := isDirectory_iff.mp directory
    have taken : tree.makeDirectory path = .error .alreadyExists := by
      simp only [makeDirectory, resolved, here]
    split
    · rfl
    · simp only [taken]
      rw [if_neg (by decide)]

end NotebookKernel.FileTree
