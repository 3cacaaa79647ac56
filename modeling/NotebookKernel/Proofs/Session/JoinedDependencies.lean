import NotebookKernel.Proofs.Text.Blank
import NotebookKernel.Session

/-!
The dependencies of a session as one text. The blank that joins two specs parts the last word
of the one from the first word of the other, so the words of the text are those of the specs;
and specs that are single words can be told from it.
-/

namespace NotebookKernel

namespace Text

theorem splitBlank_visible (cs : List Char) :
    ∀ piece ∈ splitBlank cs, ∀ c ∈ piece, isBlank c = false := by
  induction cs with
  | nil => simp [splitBlank]
  | cons c cs ih =>
    rw [splitBlank]
    split
    · exact List.forall_mem_cons.mpr ⟨List.forall_mem_nil _, ih⟩
    · rename_i visible
      have first : isBlank c = false := by simpa using visible
      split
      · simpa using first
      · rename_i word words cut
        rw [cut] at ih
        obtain ⟨others, later⟩ := List.forall_mem_cons.mp ih
        exact List.forall_mem_cons.mpr ⟨List.forall_mem_cons.mpr ⟨first, others⟩, later⟩

theorem words_visible {cs word : List Char} (member : word ∈ words cs) :
    ∀ c ∈ word, isBlank c = false :=
  splitBlank_visible cs word (List.mem_of_mem_filter member)

/-- A text without blanks is its only word. -/
theorem words_visible_eq {word : List Char} (some : word ≠ [])
    (visible : ∀ c ∈ word, isBlank c = false) : words word = [word] := by
  have only : words (word ++ []) = word :: words [] := words_word some visible nofun
  rwa [List.append_nil, words_nil] at only

theorem words_intercalate (parts : List (List Char)) :
    words ([' '].intercalate parts) = parts.flatMap words := by
  induction parts with
  | nil => rfl
  | cons part parts ih =>
    cases parts with
    | nil => simp
    | cons next parts =>
      rw [List.intercalate_cons_cons, List.append_assoc, List.singleton_append,
        words_append (by decide), ih, ← List.flatMap_cons]

end Text

namespace Session

/-- What a session can have become since it was new. The specs are all that were declared to
it, in their order. -/
inductive Reached : List String → Session → Prop
  | new : Reached [] {}
  | addDependency {specs : List String} {s : Session} (before : Reached specs s) (spec : String) :
      Reached (specs ++ [spec]) (s.addDependency spec)
  | accumulate {specs : List String} {s : Session} (before : Reached specs s) (code : String) :
      Reached specs (s.accumulate code)
  | setToolchain {specs : List String} {s : Session} (before : Reached specs s)
      (toolchain : Toolchain) : Reached specs (s.setToolchain toolchain)
  | countEvaluation {specs : List String} {s : Session} (before : Reached specs s) :
      Reached specs s.countEvaluation

/-- A spec that is a single word. -/
def Unbroken (spec : String) : Prop := ∀ c ∈ spec.toList, Text.isBlank c = false

instance (spec : String) : Decidable (Unbroken spec) :=
  List.decidableBAll (fun c => Text.isBlank c = false) spec.toList

theorem addDependency_dependencies (s : Session) (spec : String) :
    (s.addDependency spec).dependencies = s.dependencies ++ [spec].filter s.records := by
  cases fresh : s.records spec <;> simp [addDependency, fresh]

/-- The first of equal specs is recorded, unless it is empty. -/
theorem Reached.dependencies {specs : List String} {s : Session} (reached : Reached specs s) :
    s.dependencies = (specs.filter (· ≠ "")).eraseDups := by
  induction reached with
  | new => rfl
  | @addDependency specs s before spec ih =>
    have known : spec ∈ s.dependencies ↔ spec ∈ specs ∧ spec ≠ "" := by
      rw [ih, List.mem_eraseDups, List.mem_filter, decide_eq_true_iff]
    have fresh : [spec].filter s.records =
        (([spec].filter (· ≠ "")).removeAll (specs.filter (· ≠ ""))).eraseDups := by
      by_cases empty : spec = "" <;> by_cases old : spec ∈ specs <;>
        simp [empty, old, records, known, List.removeAll, List.eraseDups_cons]
    rw [addDependency_dependencies, fresh, List.filter_append, List.eraseDups_append, ← ih]
  | accumulate _ _ ih | setToolchain _ _ ih | countEvaluation _ ih => exact ih

theorem Reached.nonempty {specs : List String} {s : Session} (reached : Reached specs s) :
    "" ∉ s.dependencies := by
  simp [reached.dependencies]

theorem joinedDependencies_words (s : Session) :
    Text.words s.joinedDependencies.toList =
      s.dependencies.flatMap fun spec => Text.words spec.toList := by
  have joined : s.joinedDependencies.toList =
      [' '].intercalate (s.dependencies.map String.toList) := String.toList_intercalate
  rw [joined, Text.words_intercalate, List.flatMap_map]

/-- Single words are the words of the text. -/
theorem joinedDependencies_unbroken {s : Session} (nonempty : "" ∉ s.dependencies)
    (unbroken : ∀ spec ∈ s.dependencies, Unbroken spec) :
    (Text.words s.joinedDependencies.toList).map String.ofList = s.dependencies := by
  have single (spec : String) (recorded : spec ∈ s.dependencies) :
      (Text.words spec.toList).map String.ofList = [spec] := by
    have some : spec.toList ≠ [] := by
      rw [Ne, String.toList_eq_nil_iff]
      exact fun empty => nonempty (empty ▸ recorded)
    rw [Text.words_visible_eq some (unbroken spec recorded), List.map_singleton,
      String.ofList_toList]
  rw [joinedDependencies_words, List.map_flatMap, List.flatMap_congr single,
    List.flatMap_singleton']

/-- However a session came about, the words of its joined dependencies are those of the specs
it recorded, one spec after the other: the first of equal specs, and none that is empty. They
are the specs themselves just if each of these is a single word, and then no other list of
single words is joined to the same text. -/
theorem dependencies_read_back {specs : List String} {s : Session} (reached : Reached specs s) :
    s.dependencies = (specs.filter (· ≠ "")).eraseDups ∧
    Text.words s.joinedDependencies.toList =
      s.dependencies.flatMap (fun spec => Text.words spec.toList) ∧
    ((Text.words s.joinedDependencies.toList).map String.ofList = s.dependencies ↔
      ∀ spec ∈ s.dependencies, Unbroken spec) ∧
    ∀ specs' s', Reached specs' s' → (∀ spec ∈ s.dependencies, Unbroken spec) →
      (∀ spec ∈ s'.dependencies, Unbroken spec) →
      s.joinedDependencies = s'.joinedDependencies → s.dependencies = s'.dependencies := by
  refine ⟨reached.dependencies, s.joinedDependencies_words,
    ⟨fun same spec recorded => ?_, joinedDependencies_unbroken reached.nonempty⟩, ?_⟩
  · rw [← same] at recorded
    obtain ⟨word, member, rfl⟩ := List.mem_map.mp recorded
    intro c inside
    rw [String.toList_ofList] at inside
    exact Text.words_visible member c inside
  · intro specs' s' reached' unbroken unbroken' same
    rw [← joinedDependencies_unbroken reached.nonempty unbroken, same,
      joinedDependencies_unbroken reached'.nonempty unbroken']

/-- A spec of three words beside one of a single word, with an empty one between them; and two
sessions with the same single words, one of which was told them twice. -/
theorem dependencies_read_back_features :
    ∃ s t t', Reached ["serde --features derive", "", "rand"] s ∧
      Reached ["rand", "regex", "rand"] t ∧ Reached ["", "rand", "regex"] t' ∧
      s.dependencies = ["serde --features derive", "rand"] ∧
      Text.words s.joinedDependencies.toList =
        ["serde".toList, "--features".toList, "derive".toList, "rand".toList] ∧
      (Text.words s.joinedDependencies.toList).map String.ofList ≠ s.dependencies ∧
      t.joinedDependencies = "rand regex" ∧
      (Text.words t.joinedDependencies.toList).map String.ofList = t.dependencies ∧
      t.dependencies = t'.dependencies := by
  have broad := (Reached.new.addDependency "serde --features derive").addDependency ""
  have reached := broad.addDependency "rand"
  have first := (Reached.new.addDependency "rand").accumulate "1;"
  have twice := (first.addDependency "regex").addDependency "rand"
  have once := ((Reached.new.addDependency "").addDependency "rand").addDependency "regex"
  obtain ⟨recorded, words, single, -⟩ := dependencies_read_back reached
  obtain ⟨-, -, unbroken, told⟩ := dependencies_read_back twice
  have broken : ¬ Unbroken "serde --features derive" := by decide
  have plain : ∀ spec ∈ ["rand", "regex"], Unbroken spec := by decide
  refine ⟨_, _, _, reached, twice, once, recorded, words, ?_, rfl, unbroken.mpr plain, ?_⟩
  · exact fun same => broken (single.mp same _ (by decide))
  · exact told _ _ once plain plain rfl

end Session

end NotebookKernel
