import NotebookKernel.Kernel
import NotebookKernel.Proofs.Cell.Classification
import NotebookKernel.Proofs.Console.Transcript
import NotebookKernel.Proofs.Dispatcher.Gathering
import NotebookKernel.Proofs.Kernel.CellMessages
import NotebookKernel.Rehearsal

/-!
Blanks behind a cell do not change what it asks for. A console takes them off and a kernel does
not, so a text that is typed and the same text in a request come to the same action.
-/

namespace NotebookKernel

open Text

namespace Directive

section Append

variable {blanks : List Char} (blank : ∀ c ∈ blanks, isBlank c = true)

include blank

/-- Blanks do not complete a marker. -/
theorem after?_append {marker : List Char} (visible : ∀ c ∈ marker, isBlank c = false)
    (cs : List Char) : after? marker (cs ++ blanks) = (after? marker cs).map (· ++ blanks) := by
  induction marker generalizing cs with
  | nil => rfl
  | cons m marker ih =>
    have others : ∀ c ∈ marker, isBlank c = false := fun c inside => visible c (by simp [inside])
    cases cs with
    | cons c cs =>
      by_cases same : m = c
      · simp only [List.cons_append, after?, if_pos same, ih others]
      · simp only [List.cons_append, after?, if_neg same, Option.map_none]
    | nil =>
      cases blanks with
      | nil => rfl
      | cons c blanks =>
        have other : m ≠ c := by
          rintro rfl
          exact Bool.false_ne_true ((visible m (by simp)).symm.trans (blank m (by simp)))
        simp only [List.nil_append, after?, if_neg other, Option.map_none]

/-- A marker with nothing behind it is still without a name. -/
theorem toolchainName?_append (cs : List Char) :
    toolchainName? (cs ++ blanks) = toolchainName? cs := by
  have found : after? toolchainMarker (cs ++ blanks) = _ :=
    after?_append blank (by simp [toolchainMarker, isBlank]) cs
  unfold toolchainName?
  rw [found]
  cases after? toolchainMarker cs with
  | none => rfl
  | some rest =>
    cases rest with
    | cons c rest => simp only [Option.map_some, List.cons_append, words_append_blanks blank]
    | nil =>
      cases blanks with
      | nil => rfl
      | cons c blanks =>
        have others : ∀ d ∈ blanks, isBlank d = true := fun d later => blank d (by simp [later])
        simp [words_eq_nil others]

theorem endsStatement_append (cs : List Char) :
    endsStatement (cs ++ blanks) = endsStatement cs := by
  simp only [endsStatement, trimRight_append blank]

theorem classify_append (cs : List Char) (silent : Bool) :
    classify (.ofList (cs ++ blanks)) silent = classify (.ofList cs) silent := by
  have found : after? addMarker (cs ++ blanks) = _ :=
    after?_append blank (by simp [addMarker, isBlank]) cs
  have nothing : ∀ c ∈ ([] : List Char), isBlank c = true := List.forall_mem_nil _
  have trimmed (rest : List Char) : trim (rest ++ blanks) = trim rest :=
    trim_blanks nothing blank rest
  simp only [classify, String.toList_ofList, found, toolchainName?_append blank,
    endsStatement_append blank]
  cases after? addMarker cs with
  | none => rfl
  | some rest => simp only [Option.map_some, trimmed]

end Append

/-- What the console makes of a line asks for the same as the line. -/
theorem classify_cellOf (line : List Char) (silent : Bool) :
    classify (Console.cellOf line) silent = classify (.ofList line) silent := by
  obtain ⟨blanks, cut, blank⟩ := trimRight_split line
  have same := classify_append blank (trimRight line) silent
  rw [← cut] at same
  exact same.symm

end Directive

namespace Session

/-- What a cell does to the session apart from the text that is kept is a matter of its
directive. -/
structure Agree (s t : Session) : Prop where
  dependencies : s.dependencies = t.dependencies
  toolchain : s.toolchain = t.toolchain
  count : s.count = t.count

theorem Agree.begin (session : Session) {cell other : Submission}
    (same : cell.directive = other.directive) :
    (session.begin cell).Agree (session.begin other) := by
  have dependency : cell.dependency? = other.dependency? := by
    simp only [Submission.dependency?, same]
  have toolchain : cell.toolchain? = other.toolchain? := by
    simp only [Submission.toolchain?, same]
  simp only [begin_eq, dependency, toolchain, same]
  exact ⟨rfl, rfl, rfl⟩

end Session

namespace Dispatcher

theorem submit_begin {τ ε : Type} [Transport τ ε] (d : Dispatcher τ) (cell : Submission) :
    (d.submit cell.code cell.silent).1.session =
      if d.isDefunct then d.session else d.session.begin cell :=
  d.submit_session cell.code cell.silent

/-- Whatever it hears, the session is what the start of the cell has made of it. -/
theorem dispatch_session {τ ε : Type} [Transport τ ε] (d : Dispatcher τ) (cell : String)
    (silent : Bool) (heard : List ε) :
    (d.dispatch cell silent heard).1.session = (d.submit cell silent).1.session :=
  dispatch_keeps (P := fun came => came.1.session = (d.submit cell silent).1.session)
    (fun now stage heard same => (now.resume_session stage heard).trans same) rfl heard

end Dispatcher

namespace Kernel

variable {τ ε : Type} [Transport τ ε]

theorem progress_session (cell : Cell) (came : Dispatcher τ × Step) :
    (progress cell came).1.dispatcher.session = came.1.session := by
  obtain ⟨dispatcher, stage | result⟩ := came
  · rfl
  · simp only [progress]
    obtain ⟨shown, concluded⟩ | ⟨failure, concluded⟩ :=
      conclude_cases { dispatcher, activity := .idle } cell (.finished result) true
    · rw [concluded]
      rfl
    · rw [concluded]
      rfl

/-- An announced cell that begins. -/
theorem start_session (d : Dispatcher τ) (cell : Cell) :
    (handle ⟨d, .running cell none⟩ .start).1.dispatcher.session =
      (d.submit cell.code cell.silent).1.session :=
  progress_session cell (d.submit cell.code cell.silent)

end Kernel

namespace Console

theorem cellOf_eq_empty {line : List Char} :
    cellOf line = "" ↔ ∀ c ∈ line, isBlank c = true := by
  rw [cellOf, String.ofList_eq_empty_iff]
  exact List.rdropWhile_eq_nil_iff

/-- A line is one cell, or none if it is blank. -/
theorem start_line {τ ε : Type} [Transport τ ε] (d : Dispatcher τ) {line : List Char}
    (oneLine : '\n' ∉ line) (heard : List ε) :
    ((start d (Utf8.encode line)).hearAll heard).dispatcher =
      if cellOf line = "" then d else (d.dispatch (cellOf line) false heard).1 := by
  have noFeed : ∀ b ∈ Utf8.encode line, (b == 10) = false := by
    intro b inside
    rw [beq_eq_false_iff_ne]
    rintro rfl
    exact oneLine ((Utf8.feed_mem_encode line).mp inside)
  have pieces : (Utf8.encode line).splitOn 10 = [Utf8.encode line] :=
    List.splitOn_eq_splitOnP.trans (List.splitOnP_eq_singleton noFeed)
  have written : cell? (Utf8.encode line) = some (cellOf line) := by
    rw [cell?, Utf8.decode_encode]
    rfl
  obtain ⟨done, dispatches, stands⟩ := start_dispatches d (Utf8.encode line) heard
  rw [stands.dispatcher]
  rw [pieces] at dispatches
  by_cases blank : cellOf line = ""
  · rw [cells_blank [] (by rw [written, blank])] at dispatches
    rw [if_pos blank]
    cases dispatches with
    | complete => rfl
  · rw [cells_cell [] written blank] at dispatches
    rw [if_neg blank]
    cases dispatches with
    | waiting _ waits => rw [waits]
    | failed _ late split takes => rw [split, Dispatcher.dispatch_append takes.ends]
    | @shown _ _ _ _ _ late _ _ _ split takes rest =>
      cases rest with
      | complete => rw [split, Dispatcher.dispatch_append takes.ends]

theorem run_line {τ ε : Type} [Live τ ε] (d : Dispatcher τ) {line : List Char}
    (oneLine : '\n' ∉ line) :
    (run d (Utf8.encode line)).1 =
      if cellOf line = "" then d
      else (d.timed.dispatch (cellOf line) false (Live.moments none)).1.untimed := by
  obtain ⟨c, watched, comes⟩ := run_eq d (Utf8.encode line)
  rw [comes, watched]
  simp only [start_line d.timed oneLine]
  split <;> rfl

end Console

namespace Directive

/-- A typed cell and a request with the text of its line. -/
theorem submit_agree {τ ε : Type} [Transport τ ε] (d : Dispatcher τ) (line : List Char)
    (request : String) :
    (d.submit (Console.cellOf line) false).1.session.Agree
      (Kernel.handle ⟨d, .running ⟨request, .ofList line, false⟩ none⟩
        .start).1.dispatcher.session := by
  rw [Kernel.start_session d ⟨request, .ofList line, false⟩,
    d.submit_begin ⟨Console.cellOf line, false⟩, d.submit_begin ⟨.ofList line, false⟩]
  split
  · exact ⟨rfl, rfl, rfl⟩
  · exact .begin d.session (classify_cellOf line false)

/-- For every cell, silent or not, and whatever blanks follow it: it asks for the same, with the
same specification or name. So a line that is typed at a console and a request with the same text
come to the same action and leave the same dependencies, toolchain and number of evaluations,
whatever the cell hears and also in the world of its transport; only a line of nothing but blanks
is no cell of the console. -/
theorem classify_trailing_blanks :
    (∀ (cell blanks : String) (silent : Bool), (∀ c ∈ blanks.toList, isBlank c = true) →
      classify (cell ++ blanks) silent = classify cell silent) ∧
    (∀ (τ ε : Type) [Transport τ ε] (d : Dispatcher τ) (line : List Char) (request : String)
      (heard : List ε), '\n' ∉ line →
      let typed := ((Console.start d (Utf8.encode line)).hearAll heard).dispatcher
      let served := (Kernel.handle ⟨d, .running ⟨request, .ofList line, false⟩ none⟩ .start).1
      ((∀ c ∈ line, isBlank c = true) → typed = d) ∧
      ((∃ c ∈ line, isBlank c = false) →
        typed = (d.dispatch (Console.cellOf line) false heard).1 ∧
        classify (Console.cellOf line) false = classify (.ofList line) false ∧
        typed.session.Agree served.dispatcher.session)) ∧
    ∀ (τ ε : Type) [Live τ ε] (d : Dispatcher τ) (line : List Char) (request : String),
      '\n' ∉ line →
      let typed := (Console.run d (Utf8.encode line)).1
      let served := (Kernel.handle ⟨d, .running ⟨request, .ofList line, false⟩ none⟩ .start).1
      ((∀ c ∈ line, isBlank c = true) → typed = d) ∧
      ((∃ c ∈ line, isBlank c = false) →
        typed = (d.timed.dispatch (Console.cellOf line) false (Live.moments none)).1.untimed ∧
        typed.session.Agree served.dispatcher.session) := by
  have visible {line : List Char} (some : ∃ c ∈ line, isBlank c = false) :
      Console.cellOf line ≠ "" := fun empty => by
    obtain ⟨c, inside, shows⟩ := some
    exact absurd (shows.symm.trans (Console.cellOf_eq_empty.mp empty c inside)) nofun
  refine ⟨fun cell blanks silent blank => ?_, ?_, ?_⟩
  · have same := classify_append blank cell.toList silent
    rwa [String.ofList_append, String.ofList_toList, String.ofList_toList] at same
  · intro τ ε _ d line request heard oneLine typed served
    have came := Console.start_line d oneLine heard
    refine ⟨fun blank => ?_, fun some => ?_⟩
    · rwa [if_pos (Console.cellOf_eq_empty.mpr blank)] at came
    · rw [if_neg (visible some)] at came
      refine ⟨came, classify_cellOf line false, ?_⟩
      simp only [typed, came, d.dispatch_session]
      exact submit_agree d line request
  · intro τ ε _ d line request oneLine typed served
    have came := Console.run_line d oneLine
    refine ⟨fun blank => ?_, fun some => ?_⟩
    · rwa [if_pos (Console.cellOf_eq_empty.mpr blank)] at came
    · rw [if_neg (visible some)] at came
      have session : typed.session = (d.submit (Console.cellOf line) false).1.session := by
        simp only [typed, came, Dispatcher.untimed, d.timed.dispatch_session]
        exact (d.timed.submit_session _ false).trans (d.submit_session _ false).symm
      refine ⟨came, ?_⟩
      rw [session]
      exact submit_agree d line request

/-- Blanks of other scripts behind a name, on a line that is typed and in a request, and behind a
specification that ends in a semicolon. The cell has not ended in the one console, and in the
world of a transport that answers at once it has. -/
theorem classify_trailing_blanks_beta :
    let line := ":toolchain beta\u2003 \u00a0".toList
    let waiting : Dispatcher (JsonLine Unit) := { transport := { host := (), timeout := none } }
    let typed := ((Console.start waiting (Utf8.encode line)).hearAll [.accepted]).dispatcher
    let served := (Kernel.handle ⟨waiting, .running ⟨"1", .ofList line, false⟩ none⟩ .start).1
    let d : Dispatcher Rehearsal := { transport := {} }
    let ran := (Console.run d (Utf8.encode line)).1
    let served' := (Kernel.handle ⟨d, .running ⟨"1", .ofList line, false⟩ none⟩ .start).1
    classify (":add serde;" ++ "\u3000\n") true = classify ":add serde;" true ∧
      typed = (waiting.dispatch (Console.cellOf line) false [.accepted]).1 ∧
      typed.session.Agree served.dispatcher.session ∧
      ran = (d.timed.dispatch (Console.cellOf line) false (Live.moments none)).1.untimed ∧
      ran.session.Agree served'.dispatcher.session := by
  intro line waiting typed served d ran served'
  obtain ⟨same, console, live⟩ := classify_trailing_blanks
  obtain ⟨-, cell⟩ := console _ _ waiting line "1" [.accepted] (by decide)
  obtain ⟨-, cell'⟩ := live _ _ d line "1" (by decide)
  obtain ⟨came, -, agree⟩ := cell ⟨':', by decide, by decide⟩
  obtain ⟨came', agree'⟩ := cell' ⟨':', by decide, by decide⟩
  exact ⟨same _ _ true (by simp [isBlank]), came, agree, came', agree'⟩

end Directive

end NotebookKernel
