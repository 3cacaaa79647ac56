import NotebookKernel.Proofs.Bridge.RoundTrip
import NotebookKernel.Proofs.Console.Lines
import NotebookKernel.Proofs.Dispatcher.Results

/-!
What a console does with its input, over any transport. It dispatches the cells in order up to
the first that fails, which leaves the dispatcher defunct; it prints what the cells show, each
text on lines of its own, and then the error if there is one.
-/

namespace NotebookKernel

open Text (Bytes)

/-- The text of an event: what was printed, or the value, whatever its media type. -/
inductive DisplayEvent.Shows : DisplayEvent → String → Prop
  | printed (text : String) : Shows (.stdout text) text
  | value (mimeType text : String) : Shows (.value mimeType text) text

theorem DisplayEvent.Shows.plainText {event : DisplayEvent} {text : String}
    (shows : event.Shows text) : event.plainText? = some text := by
  cases shows with
  | printed => rfl
  | value mimeType =>
    by_cases plain : mimeType = "text/plain" <;>
      simp [plainText?, DisplayEvent.value, Json.find?, plain]

theorem RawResult.translate_shows (raw : RawResult) :
    ∃ texts, List.Forall₂ DisplayEvent.Shows raw.translate texts := by
  match raw with
  | .text printed => exact ⟨[printed], .cons (.printed printed) .nil⟩
  | .response (.eval output) =>
    exact ⟨[output.value], .cons (.value output.mimeType output.value) .nil⟩
  | .response .silent => exact ⟨[], .nil⟩

namespace Step

def failure? : Step → Option DispatchError
  | .done (.error e) => some e
  | .done (.ok _) | .waiting _ => none

def stage? : Step → Option Stage
  | .waiting stage => some stage
  | .done _ => none

namespace Sound

variable {τ ε : Type} [Transport τ ε] {d : Dispatcher τ}

theorem shows {dispatched : Dispatched} (sound : (Step.done (.ok dispatched)).Sound d) :
    ∃ texts, List.Forall₂ DisplayEvent.Shows dispatched.events texts := by
  cases sound with
  | shown action raw => exact raw.translate_shows

theorem fails {e : DispatchError} (sound : (Step.done (.error e)).Sound d) :
    d.isDefunct = true := by
  cases sound with
  | failed _ fault => exact Option.isSome_iff_ne_none.mpr fault

end Sound

end Step

namespace Dispatcher

variable {τ ε : Type} [Transport τ ε] {d : Dispatcher τ} {cell : String} {heard : List ε}

theorem dispatch_sound (d : Dispatcher τ) (cell : String) (silent : Bool) (heard : List ε) :
    (d.dispatch cell silent heard).2.Sound (d.dispatch cell silent heard).1 :=
  dispatch_keeps (P := fun came => came.2.Sound came.1)
    (fun _ _ heard sound => resume_sound sound heard) (d.submit_sound cell silent) heard

theorem resumeAll_append {stage : Stage} {next : Dispatcher τ}
    {result : Except DispatchError Dispatched}
    (ends : d.resumeAll stage heard = (next, .done result)) (late : List ε) :
    d.resumeAll stage (heard ++ late) = (next, .done result) := by
  induction heard generalizing d stage with
  | nil => cases ends
  | cons first rest ih =>
    rcases came : d.resume stage first with ⟨left, later | other⟩
    · rw [resumeAll_waiting came] at ends
      rw [List.cons_append, resumeAll_waiting came]
      exact ih ends
    · rw [resumeAll_done came] at ends
      rw [List.cons_append, resumeAll_done came, ends]

/-- A cell that has ended hears nothing more. -/
theorem dispatch_append {silent : Bool} {next : Dispatcher τ}
    {result : Except DispatchError Dispatched}
    (ends : d.dispatch cell silent heard = (next, .done result)) (late : List ε) :
    d.dispatch cell silent (heard ++ late) = (next, .done result) := by
  rcases came : d.submit cell silent with ⟨left, stage | other⟩
  · rw [dispatch_waiting came] at ends ⊢
    exact resumeAll_append ends late
  · rw [dispatch_done came] at ends ⊢
    exact ends

/-- The waiting cell has ended once it has heard this, and not before. -/
structure Awaits (d : Dispatcher τ) (stage : Stage) (heard : List ε) (next : Dispatcher τ)
    (result : Except DispatchError Dispatched) : Prop where
  ends : d.resumeAll stage heard = (next, .done result)
  waits : ∀ part, part <+: heard → part ≠ heard →
    ∃ left later, d.resumeAll stage part = (left, .waiting later)

namespace Awaits

variable {left next : Dispatcher τ} {stage later : Stage} {first : ε}
  {result : Except DispatchError Dispatched}

theorem last (came : d.resume stage first = (next, .done result)) :
    d.Awaits stage [first] next result := by
  refine ⟨resumeAll_done came [], fun part within different => ?_⟩
  rcases List.prefix_cons_iff.mp within with rfl | ⟨less, rfl, shorter⟩
  · exact ⟨d, stage, rfl⟩
  · exact absurd (congrArg _ (List.prefix_nil.mp shorter)) different

theorem cons (came : d.resume stage first = (left, .waiting later))
    (rest : left.Awaits later heard next result) : d.Awaits stage (first :: heard) next result := by
  refine ⟨(resumeAll_waiting came heard).trans rest.ends, fun part within different => ?_⟩
  rcases List.prefix_cons_iff.mp within with rfl | ⟨less, rfl, shorter⟩
  · exact ⟨d, stage, rfl⟩
  · rw [resumeAll_waiting came]
    exact rest.waits less shorter fun same => different (congrArg _ same)

end Awaits

/-- The cell has ended once it has heard this, and not before. -/
structure Takes (d : Dispatcher τ) (cell : String) (heard : List ε) (next : Dispatcher τ)
    (result : Except DispatchError Dispatched) : Prop where
  ends : d.dispatch cell false heard = (next, .done result)
  waits : ∀ part, part <+: heard → part ≠ heard →
    ∃ left stage, d.dispatch cell false part = (left, .waiting stage)

namespace Takes

variable {next : Dispatcher τ} {result : Except DispatchError Dispatched}

theorem of_awaits {left : Dispatcher τ} {stage : Stage}
    (came : d.submit cell false = (left, .waiting stage))
    (awaits : left.Awaits stage heard next result) : d.Takes cell heard next result := by
  refine ⟨(dispatch_waiting came heard).trans awaits.ends, fun part within different => ?_⟩
  rw [dispatch_waiting came]
  exact awaits.waits part within different

theorem of_done (came : d.submit cell false = (next, .done result)) :
    d.Takes cell ([] : List ε) next result :=
  ⟨dispatch_done came [], fun _ within different => absurd (List.prefix_nil.mp within) different⟩

/-- A cell that fails leaves the dispatcher defunct. -/
theorem fails {e : DispatchError} (takes : d.Takes cell heard next (.error e)) :
    next.isDefunct = true := by
  have sound := d.dispatch_sound cell false heard
  rw [takes.ends] at sound
  exact sound.fails

/-- Every event that a cell shows has a text. -/
theorem shows {dispatched : Dispatched} (takes : d.Takes cell heard next (.ok dispatched)) :
    ∃ texts, List.Forall₂ DisplayEvent.Shows dispatched.events texts := by
  have sound := d.dispatch_sound cell false heard
  rw [takes.ends] at sound
  exact sound.shows

theorem not_waiting {late : List ε} (takes : d.Takes cell heard next result) {left : Dispatcher τ}
    {stage : Stage} : d.dispatch cell false (heard ++ late) ≠ (left, .waiting stage) := by
  rw [dispatch_append takes.ends]
  exact nofun

/-- A cell that waited before the last thing, and failed with that. -/
theorem of_failure (heard : List ε) (last : ε) {e : DispatchError}
    (waits : (d.dispatch cell false heard).2.stage?.isSome)
    (fails : (d.dispatch cell false (heard ++ [last])).2.failure? = some e) :
    ∃ next, d.Takes cell (heard ++ [last]) next (.error e) := by
  rcases ends : d.dispatch cell false (heard ++ [last]) with ⟨next, stage | ⟨_ | dispatched⟩⟩
  all_goals
    rw [ends] at fails
    cases fails
  refine ⟨next, ends, fun part within different => ?_⟩
  obtain ⟨more, rfl⟩ := (List.prefix_concat_iff.mp within).resolve_left different
  rcases came : d.dispatch cell false part with ⟨left, stage | result⟩
  · exact ⟨left, stage, rfl⟩
  · rw [dispatch_append came] at waits
    cases waits

/-- How much a cell hears is up to the cell. -/
theorem unique {heard' late late' : List ε} {next' : Dispatcher τ}
    {result' : Except DispatchError Dispatched} (takes : d.Takes cell heard next result)
    (takes' : d.Takes cell heard' next' result') (same : heard ++ late = heard' ++ late') :
    heard = heard' ∧ late = late' ∧ next = next' ∧ result = result' := by
  have shorter {first last : List ε} {next last' : Dispatcher τ}
      {result other : Except DispatchError Dispatched} (ends : d.Takes cell first next result)
      (longer : d.Takes cell last last' other) (part : first <+: last) : first = last := by
    by_contra different
    obtain ⟨left, stage, waits⟩ := longer.waits first part different
    exact absurd (ends.ends.symm.trans waits) nofun
  have length : heard = heard' := by
    rcases List.prefix_or_prefix_of_prefix ⟨late, same⟩ (List.prefix_append heard' late') with
      part | part
    · exact shorter takes takes' part
    · exact (shorter takes' takes part).symm
  subst length
  have ends := takes.ends.symm.trans takes'.ends
  cases ends
  exact ⟨rfl, List.append_cancel_left same, rfl, rfl⟩

end Takes

end Dispatcher

namespace Console

/-- What the cells that were dispatched came to. -/
inductive Ending where
  | complete
  | failed (e : DispatchError)
  | waiting (stage : Stage)

namespace Ending

def failure? : Ending → Option DispatchError
  | .failed e => some e
  | .complete | .waiting _ => none

def stage? : Ending → Option Stage
  | .waiting stage => some stage
  | .complete | .failed _ => none

end Ending

/-- Cells that were dispatched one after the other. -/
structure Series (τ : Type) where
  dispatcher : Dispatcher τ
  /-- The cells that did not fail. -/
  shown : List Dispatched
  ending : Ending

/-- Dispatches the cells in order, up to the first that fails; each hears things until it has
ended, and the next one hears what comes then. -/
inductive Dispatches {τ ε : Type} [Transport τ ε] :
    Dispatcher τ → List String → List ε → Series τ → Prop
  | complete (d : Dispatcher τ) (late : List ε) : Dispatches d [] late ⟨d, [], .complete⟩
  | waiting {d left : Dispatcher τ} {cell : String} (cells : List String) {heard : List ε}
      {stage : Stage} (waits : d.dispatch cell false heard = (left, .waiting stage)) :
      Dispatches d (cell :: cells) heard ⟨left, [], .waiting stage⟩
  | failed {d left : Dispatcher τ} {cell : String} (cells : List String) {first heard : List ε}
      (late : List ε) {e : DispatchError} (split : heard = first ++ late)
      (takes : d.Takes cell first left (.error e)) :
      Dispatches d (cell :: cells) heard ⟨left, [], .failed e⟩
  | shown {d next : Dispatcher τ} {cell : String} {cells : List String} {first late heard : List ε}
      {dispatched : Dispatched} {done : Series τ} (split : heard = first ++ late)
      (takes : d.Takes cell first next (.ok dispatched)) (rest : Dispatches next cells late done) :
      Dispatches d (cell :: cells) heard { done with shown := dispatched :: done.shown }

/-- What is printed for a cell: its texts, each with a line feed unless it has one. -/
def Prints (dispatched : Dispatched) (printed : String) : Prop :=
  ∃ texts, List.Forall₂ DisplayEvent.Shows dispatched.events texts ∧
    printed = String.join (texts.map fun text =>
      if text.toList.getLast? = some '\n' then text else text ++ "\n")

theorem shown_texts {events : List DisplayEvent} {texts : List String}
    (shows : List.Forall₂ DisplayEvent.Shows events texts) :
    shown events = String.join (texts.map closed) := by
  rw [shown]
  congr 1
  induction shows with
  | nil => rfl
  | cons first _ ih =>
    simp only [List.filterMap_cons, first.plainText, ih, Option.map_some, List.map_cons]

theorem shown_prints {dispatched : Dispatched} {texts : List String}
    (shows : List.Forall₂ DisplayEvent.Shows dispatched.events texts) :
    Prints dispatched (shown dispatched.events) := by
  refine ⟨texts, shows, ?_⟩
  rw [shown_texts shows]
  congr 2
  funext text
  simp [closed]

variable {τ ε : Type} [Transport τ ε]

namespace Dispatches

variable {d : Dispatcher τ} {cells : List String} {heard : List ε} {done : Series τ}

theorem unique {other : Series τ} (h : Dispatches d cells heard done)
    (h' : Dispatches d cells heard other) : done = other := by
  induction h generalizing other with
  | complete => cases h' with
    | complete => rfl
  | waiting cells waits => cases h' with
    | waiting _ waits' =>
      cases waits.symm.trans waits'
      rfl
    | failed _ late split takes => exact absurd (split ▸ waits) takes.not_waiting
    | shown split takes => exact absurd (split ▸ waits) takes.not_waiting
  | failed cells late split takes => cases h' with
    | waiting _ waits => exact absurd (split ▸ waits) takes.not_waiting
    | failed _ _ split' takes' =>
      obtain ⟨-, -, rfl, ⟨⟩⟩ := takes.unique takes' (split.symm.trans split')
      rfl
    | shown split' takes' =>
      obtain ⟨-, -, -, ⟨⟩⟩ := takes.unique takes' (split.symm.trans split')
  | shown split takes _ ih => cases h' with
    | waiting _ waits => exact absurd (split ▸ waits) takes.not_waiting
    | failed _ _ split' takes' =>
      obtain ⟨-, -, -, ⟨⟩⟩ := takes.unique takes' (split.symm.trans split')
    | shown split' takes' rest =>
      obtain ⟨-, rfl, rfl, ⟨⟩⟩ := takes.unique takes' (split.symm.trans split')
      rw [ih rest]

theorem defunct (h : Dispatches d cells heard done) (failed : done.ending.failure?.isSome) :
    done.dispatcher.isDefunct = true := by
  induction h with
  | complete | waiting => cases failed
  | failed _ _ _ takes => exact takes.fails
  | shown _ _ _ ih => exact ih failed

end Dispatches

/-- The text that the console prints. -/
def Series.output (done : Series τ) : String :=
  String.join (done.shown.map fun dispatched => Console.shown dispatched.events) ++
    (done.ending.failure?.map complaint).getD ""

theorem Dispatches.prints {d : Dispatcher τ} {cells : List String} {heard : List ε}
    {done : Series τ} (h : Dispatches d cells heard done) :
    ∃ records, List.Forall₂ Prints done.shown records ∧
      done.output = String.join records ++ (done.ending.failure?.map complaint).getD "" := by
  refine ⟨done.shown.map fun dispatched => Console.shown dispatched.events, ?_, rfl⟩
  induction h with
  | complete | waiting | failed => exact .nil
  | shown _ takes _ ih =>
    obtain ⟨texts, shows⟩ := takes.shows
    exact .cons (shown_prints shows) ih

/-- A console that began with this output stands as it does after these cells. -/
structure Stands (output : String) (readable : Prop) (done : Series τ) (c : Console τ) : Prop where
  dispatcher : c.dispatcher = done.dispatcher
  output : c.output = output ++ done.output
  stage : c.stage? = done.ending.stage?
  fault : c.fault?.isSome ↔ done.ending = .complete ∧ ¬ readable

theorem hearAll_ended {c : Console τ} {fault : Option Text.Utf8.Fault}
    (ended : c.position = .ended fault) (heard : List ε) : c.hearAll heard = c := by
  induction heard with
  | nil => rfl
  | cons first rest ih =>
    have deaf : c.hear first = c := by rw [hear, ended]
    rw [hearAll, List.foldl_cons, deaf]
    exact ih

theorem hearAll_append (c : Console τ) (heard more : List ε) :
    c.hearAll (heard ++ more) = (c.hearAll heard).hearAll more :=
  List.foldl_append

/-- With these lines behind it, a cell has come to this. -/
def goOn (output : String) (unread : List Bytes) (came : Dispatcher τ × Step) : Console τ :=
  proceed (fun d output => read d output unread) output unread came

/-- A console whose cell waits either waits on, or goes on as soon as the cell has ended. -/
theorem hearAll_waiting (d : Dispatcher τ) (stage : Stage) (output : String) (unread : List Bytes)
    (heard : List ε) :
    let c : Console τ := ⟨d, output, unread, .waiting stage⟩
    (∃ left later, d.resumeAll stage heard = (left, .waiting later) ∧
        c.hearAll heard = ⟨left, output, unread, .waiting later⟩) ∨
      ∃ first late next result, heard = first ++ late ∧ d.Awaits stage first next result ∧
        c.hearAll heard = (goOn output unread (next, .done result)).hearAll late := by
  intro c
  induction heard generalizing d stage with
  | nil => exact .inl ⟨d, stage, rfl, rfl⟩
  | cons first rest ih =>
    have hears : c.hearAll (first :: rest) =
        (goOn output unread (d.resume stage first)).hearAll rest := rfl
    rw [hears]
    rcases came : d.resume stage first with ⟨next, later | result⟩
    · obtain ⟨left, last, waits, stands⟩ | ⟨part, late, last, result, rfl, awaits, stands⟩ :=
        ih next later
      · exact .inl ⟨left, last, (Dispatcher.resumeAll_waiting came rest).trans waits, stands⟩
      · exact .inr ⟨first :: part, late, last, result, rfl, awaits.cons came, stands⟩
    · exact .inr ⟨[first], rest, next, result, rfl, .last came, rfl⟩

section Stands

variable {d : Dispatcher τ} {output : String} {unread : List Bytes} {readable : Prop}

theorem stands_failed {e : DispatchError} :
    Stands output readable ⟨d, [], .failed e⟩ ⟨d, output ++ complaint e, unread, .ended none⟩ :=
  ⟨rfl, by simp [Series.output, Ending.failure?], rfl, by simp [fault?]⟩

theorem stands_waiting {stage : Stage} :
    Stands output readable ⟨d, [], .waiting stage⟩ ⟨d, output, unread, .waiting stage⟩ :=
  ⟨rfl, by simp [Series.output, Ending.failure?], rfl, by simp [fault?]⟩

theorem stands_complete {fault : Option Text.Utf8.Fault} (faulty : fault.isSome ↔ ¬ readable) :
    Stands output readable ⟨d, [], .complete⟩ ⟨d, output, unread, .ended fault⟩ :=
  ⟨rfl, by simp [Series.output, Ending.failure?], rfl, by simp [fault?, faulty]⟩

end Stands

section Goes

variable {d : Dispatcher τ} {output : String} {unread : List Bytes}
  (reads : ∀ (d : Dispatcher τ) (output : String) (heard : List ε),
    ∃ done, Dispatches d (cells unread) heard done ∧
      Stands output (Readable unread) done ((read d output unread).hearAll heard))

include reads

/-- The console goes on with the lines behind a cell that has ended. -/
theorem goOn_dispatches {cell : String} {first : List ε} {next : Dispatcher τ}
    {result : Except DispatchError Dispatched} (takes : d.Takes cell first next result)
    (late : List ε) :
    ∃ done, Dispatches d (cell :: cells unread) (first ++ late) done ∧
      Stands output (Readable unread) done
        ((goOn output unread (next, .done result)).hearAll late) := by
  cases result with
  | error e =>
    refine ⟨⟨next, [], .failed e⟩, .failed _ late rfl takes, ?_⟩
    have ended : goOn output unread (next, .done (.error e)) =
        ⟨next, output ++ complaint e, unread, .ended none⟩ := by
      simp only [goOn, proceed, takes.fails, if_true]
    rw [ended, hearAll_ended rfl]
    exact stands_failed
  | ok dispatched =>
    obtain ⟨done, rest, stands⟩ := reads next (output ++ shown dispatched.events) late
    refine ⟨_, .shown rfl takes rest, ⟨stands.dispatcher, ?_, stands.stage, stands.fault⟩⟩
    exact stands.output.trans (by simp [Series.output, String.append_assoc])

/-- The cell on a line waits until it has heard enough. -/
theorem submit_dispatches (cell : String) (heard : List ε) :
    ∃ done, Dispatches d (cell :: cells unread) heard done ∧
      Stands output (Readable unread) done
        ((goOn output unread (d.submit cell false)).hearAll heard) := by
  rcases came : d.submit cell false with ⟨next, stage | result⟩
  · have goes : goOn output unread (next, .waiting stage) =
        ⟨next, output, unread, .waiting stage⟩ := rfl
    rw [goes]
    obtain ⟨left, later, waits, stands⟩ | ⟨first, late, last, result, rfl, awaits, stands⟩ :=
      hearAll_waiting next stage output unread heard
    · refine ⟨_, .waiting _ ((Dispatcher.dispatch_waiting came heard).trans waits), ?_⟩
      rw [stands]
      exact stands_waiting
    · rw [stands]
      exact goOn_dispatches reads (.of_awaits came awaits) late
  · exact goOn_dispatches reads (.of_done came) heard

end Goes

/-- By induction over the lines: what a line comes to, and then the lines behind it. -/
theorem read_dispatches (d : Dispatcher τ) (output : String) (lines : List Bytes)
    (heard : List ε) :
    ∃ done, Dispatches d (cells lines) heard done ∧
      Stands output (Readable lines) done ((read d output lines).hearAll heard) := by
  induction lines generalizing d output heard with
  | nil =>
    refine ⟨⟨d, [], .complete⟩, .complete d heard, ?_⟩
    rw [read, hearAll_ended rfl]
    exact stands_complete (by simp [Readable])
  | cons line lines ih =>
    rw [read]
    cases decoded : Text.Utf8.decode line with
    | error fault =>
      have unreadable : cell? line = none := by rw [cell?, decoded]; rfl
      rw [cells_unreadable lines unreadable]
      refine ⟨⟨d, [], .complete⟩, .complete d heard, ?_⟩
      rw [hearAll_ended rfl]
      exact stands_complete (by simp [readable_cons, unreadable])
    | ok cs =>
      have written : cell? line = some (cellOf cs) := by rw [cell?, decoded]; rfl
      have readable : Readable (line :: lines) = Readable lines := by
        simp [readable_cons, written]
      rw [readable]
      by_cases blank : cellOf cs = ""
      · rw [cells_blank lines (by rw [written, blank])]
        simp only [blank, if_true]
        exact ih d output heard
      · rw [cells_cell lines written blank]
        simp only [blank, if_false]
        exact submit_dispatches ih (cellOf cs) heard

theorem start_dispatches (d : Dispatcher τ) (input : Bytes) (heard : List ε) :
    ∃ done, Dispatches d (cells (input.splitOn 10)) heard done ∧
      Stands "" (Readable (input.splitOn 10)) done ((start d input).hearAll heard) := by
  rw [← (lines_restyled input).cells, ← propext (lines_restyled input).readable]
  exact read_dispatches d "" (lines input) heard

/-- A run has watched the console for so long. -/
theorem run_eq {σ δ : Type} [Live σ δ] (d : Dispatcher σ) (input : Bytes) :
    ∃ c, c = (start d.timed input).hearAll (Live.moments none) ∧
      run d input = (c.dispatcher.untimed, ⟨c.output, c.fault?, c.stage?.isSome⟩) := by
  refine ⟨_, rfl, ?_⟩
  rw [run]

/-- Nothing comes of what is heard behind the end of a console. -/
theorem hearAll_longer {c : Console τ} {heard : List ε}
    (ended : (c.hearAll heard).stage? = none) (more : List ε) :
    c.hearAll (heard ++ more) = c.hearAll heard := by
  rw [hearAll_append]
  cases position : (c.hearAll heard).position with
  | waiting => simp [stage?, position] at ended
  | ended fault => exact hearAll_ended position more

/-- Over any transport, for any input and whatever its cells hear: they are dispatched in order up
to the first that fails, each as soon as the one before it has ended; what is printed is what
they show and then the error, if there is one, which leaves the dispatcher defunct; a cell that
waits, waits for more to be heard; and it is a fault if a line cannot be read that is come to.
So neither the dispatcher, with all that its transport was asked for, nor what is printed
depends on the ends of the lines or on blank lines. In the world of a transport a run is such a
console, and if no cell waits any more, nothing would have come of more time. -/
theorem run_as_series :
    (∀ (τ ε : Type) [Transport τ ε] (d : Dispatcher τ) (input : Bytes) (heard : List ε),
      let pieces := input.splitOn 10
      let c := (start d input).hearAll heard
      ∃ done, (∀ other, Dispatches d (cells pieces) heard other ↔ other = done) ∧
        c.dispatcher = done.dispatcher ∧ c.stage? = done.ending.stage? ∧
        (∃ records, List.Forall₂ Prints done.shown records ∧
          c.output = String.join records ++
            (done.ending.failure?.map fun e => "error: " ++ e.message ++ "\n").getD "") ∧
        (done.ending.failure?.isSome → done.dispatcher.isDefunct) ∧
        (c.fault?.isSome ↔ done.ending = .complete ∧ ¬ Readable pieces) ∧
        ∀ input', Restyled pieces (input'.splitOn 10) →
          let c' := (start d input').hearAll heard
          c'.dispatcher = c.dispatcher ∧ c'.output = c.output ∧ c'.stage? = c.stage? ∧
            (c'.fault?.isSome ↔ c.fault?.isSome)) ∧
    ∀ (τ ε : Type) [Live τ ε] (d : Dispatcher τ) (input : Bytes),
      let c := (start d.timed input).hearAll (Live.moments none)
      run d input = (c.dispatcher.untimed, ⟨c.output, c.fault?, c.stage?.isSome⟩) ∧
        ((run d input).2.waits = false → ∀ more,
          (start d.timed input).hearAll (Live.moments none ++ more) = c) := by
  constructor
  · intro τ ε _ d input heard pieces c
    obtain ⟨done, dispatches, stands⟩ := start_dispatches d input heard
    obtain ⟨records, prints, output⟩ := dispatches.prints
    refine ⟨done, fun other =>
      ⟨fun h => (dispatches.unique h).symm, fun same => same ▸ dispatches⟩, stands.dispatcher,
      stands.stage, ⟨records, prints, ?_⟩, dispatches.defunct, stands.fault, ?_⟩
    · exact (stands.output.trans String.empty_append).trans output
    · intro input' restyled c'
      obtain ⟨done', dispatches', stands'⟩ := start_dispatches d input' heard
      rw [← restyled.cells] at dispatches'
      obtain rfl := dispatches.unique dispatches'
      refine ⟨stands'.dispatcher.trans stands.dispatcher.symm,
        stands'.output.trans stands.output.symm, stands'.stage.trans stands.stage.symm, ?_⟩
      rw [stands'.fault, stands.fault, restyled.readable]
  · intro τ ε _ d input
    obtain ⟨c, watched, comes⟩ := run_eq d input
    rw [← watched, comes]
    refine ⟨rfl, fun ended more => ?_⟩
    have still : c.stage? = none := by simpa using ended
    rw [watched] at still ⊢
    exact hearAll_longer still more

/-- Two lines that end in CRLF with a blank one between them, and the same two lines without
all that. Both cells wait: the first is answered in two pieces, the second finds its interpreter
gone, whose end is waited for. Before that is heard neither console has ended. In its world the
interpreter has answered before it is asked, and is gone when it is asked again. -/
theorem run_as_series_endings :
    let d : Dispatcher (JsonLine Unit) := { transport := { host := (), timeout := none } }
    let long := Text.Utf8.encode "a\r\n \t\r\nb \r\n".toList
    let short := Text.Utf8.encode "a\nb".toList
    let response := Text.Utf8.encode "\x7b\"Eval\":[\"x\",\"1\"]\x7d\n".toList
    let before : List Wake :=
      [.accepted, .arrived (response.take 9), .arrived (response.drop 9), .accepted, .ended]
    let console (input : Bytes) (heard : List Wake) := (start d input).hearAll heard
    let heard := before ++ [.ended]
    let process : Shell.Process :=
      { scope := { bindings := [], name := [], arguments := [] }
        files := { nodes := [], here := [] }
        streams := ⟨.pipe, .pipe, .complaints⟩
        todo := []
        printed := [response] }
    let machine : Machine :=
      { files := process.files, environment := [], child := some { process, converses := true } }
    let live : Dispatcher (Bridge Machine) :=
      { transport := .jsonLine { host := machine, timeout := none } }
    (console long heard).dispatcher = (console short heard).dispatcher ∧
      (console long heard).output = (console short heard).output ∧
      (console short heard).dispatcher.isDefunct = true ∧
      (console short heard).stage?.isNone ∧
      (console short heard).output = "1\nerror: interpreter exited unexpectedly\n" ∧
      (console long before).stage? = (console short before).stage? ∧
      (console short before).stage?.isSome ∧ (console short before).output = "1\n" ∧
      (run live short).2 =
        ⟨"1\nerror: interpreter pipe error: Broken pipe (os error 32)\n", none, false⟩ ∧
      ∀ more, (start live.timed short).hearAll (Live.moments none ++ more) =
        (start live.timed short).hearAll (Live.moments none) := by
  intro d long short response before console heard process machine live
  obtain ⟨anyway, watched⟩ := run_as_series
  have restyled : Restyled (short.splitOn 10) (long.splitOn 10) :=
    .line [97] [] ['\r'] nofun (List.all_eq_true.mp rfl) <|
      .right [' ', '\t', '\r'] (List.all_eq_true.mp rfl) <|
      .line [98] [] [' ', '\r'] nofun (List.all_eq_true.mp rfl) <| .right [] nofun .nil
  obtain ⟨_, -, -, -, -, -, -, same⟩ := anyway _ _ d short heard
  obtain ⟨_, -, -, -, -, -, -, same'⟩ := anyway _ _ d short before
  obtain ⟨after, printed, -, -⟩ := same long restyled
  obtain ⟨-, -, stage, -⟩ := same' long restyled
  obtain ⟨ran, longer⟩ := watched _ _ live short
  have enough : Live.moments none = .replicate 4 none ++ .replicate (Live.patience - 4) none := by
    rw [List.replicate_append_replicate]
    rfl
  have ends : (start live.timed short).hearAll (Live.moments none) =
      (start live.timed short).hearAll (.replicate 4 none) := by
    rw [enough]
    exact hearAll_longer (Option.isNone_iff_eq_none.mp (by decide +kernel)) _
  have done : (run live short).2 =
      ⟨"1\nerror: interpreter pipe error: Broken pipe (os error 32)\n", none, false⟩ := by
    rw [ran, ends]
    decide +kernel
  exact ⟨after, printed, by decide +kernel, by decide +kernel, by decide +kernel, stage,
    by decide +kernel, by decide +kernel, done, longer (congrArg Printed.waits done)⟩

end Console

end NotebookKernel
