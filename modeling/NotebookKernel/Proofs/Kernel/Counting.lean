import NotebookKernel.Proofs.Kernel.Announcement
import NotebookKernel.Proofs.Kernel.Use

/-!
The numbers in the replies to cells, over a whole run. A reply takes its number from what
the dispatcher returns or, after a failure or an interrupt, from the session; either way it
is the number of evaluations that have begun so far.
-/

namespace NotebookKernel

/-- Whether the announced cell begins before anything interrupts it. -/
def Event.begins {ε : Type} : List (Event ε) → Bool
  | [] => false
  | .start :: _ => true
  | event :: events => event.interrupts?.isNone && begins events

/-- A cell that was asked for, with what the kernel made of it. -/
structure Arrival where
  cell : Cell
  /-- The dispatcher was not defunct when the cell came in. -/
  usable : Bool
  /-- The cell began before anything interrupted it. -/
  begun : Bool
  deriving DecidableEq, Repr

/-- Whether the cell is an evaluation that counts. -/
def Arrival.counts (arrival : Arrival) : Bool :=
  decide (Directive.classify arrival.cell.code arrival.cell.silent = .evaluate) &&
    arrival.usable && arrival.begun

/-- The replies to these cells, counted from a number on. -/
def tally (count : Nat) : List Arrival → List (String × Nat)
  | [] => []
  | arrival :: later =>
    let count := count + if arrival.counts then 1 else 0
    (arrival.cell.request, count) :: tally count later

theorem tally_length (count : Nat) (arrivals : List Arrival) :
    (tally count arrivals).length = arrivals.length := by
  induction arrivals generalizing count with
  | nil => rfl
  | cons arrival later ih => simp only [tally, List.length_cons, ih]

theorem tally_getElem? (count : Nat) (arrivals : List Arrival) (i : Nat) :
    (tally count arrivals)[i]? = arrivals[i]?.map fun arrival =>
      (arrival.cell.request, count + (arrivals.take (i + 1)).countP Arrival.counts) := by
  induction arrivals generalizing count i with
  | nil => rfl
  | cons arrival later ih =>
    cases i with
    | zero => simp [tally, List.countP_cons]
    | succ i =>
      simp only [tally, List.getElem?_cons_succ, ih, List.take_succ_cons, List.countP_cons]
      congr 2
      funext
      congr 1
      omega

/-- The number of a cell is one more than the one before just if the cell counts. -/
theorem tally_succ {count : Nat} {arrivals : List Arrival} {i : Nat} {arrival : Arrival}
    (arrived : arrivals[i + 1]? = some arrival) {first second : String × Nat}
    (before : (tally count arrivals)[i]? = some first)
    (after : (tally count arrivals)[i + 1]? = some second) :
    second.2 = first.2 + if arrival.counts then 1 else 0 := by
  rw [tally_getElem?] at before after
  obtain ⟨earlier, -, rfl⟩ := Option.map_eq_some_iff.mp before
  rw [arrived] at after
  cases after
  rw [List.take_add_one, arrived, List.countP_append]
  simp only [Option.toList_some, List.countP_singleton]
  omega

namespace Dispatcher

variable {τ ε : Type}

/-- The number that the reply to a cell at this stage will have. -/
def number (d : Dispatcher τ) (cell : Cell) (events : List (Event ε)) : Option Stage → Nat
  | some _ => d.session.count
  | none =>
    d.session.count +
      if (Arrival.mk cell (!d.isDefunct) (Event.begins events)).counts then 1 else 0

variable [Transport τ ε] {d : Dispatcher τ} {cell : Cell} {stage : Option Stage} {event : Event ε}

theorem number_advances {came : Dispatcher τ × Step}
    (moved : d.advance cell stage event = some came) (events : List (Event ε)) :
    d.number cell (event :: events) stage = came.1.session.count := by
  cases stage with
  | some stage => exact congrArg Session.count (advance_session moved).symm
  | none =>
    obtain ⟨-, rfl, rfl⟩ | ⟨_, _, ⟨⟩, -⟩ := advance_cases moved
    rw [Kernel.submit_count, Kernel.announced_eq]
    cases fault : d.isDefunct <;> simp [number, Arrival.counts, Event.begins, fault]

theorem number_interrupts {goesOn : Bool} (broken : event.interrupts? = some goesOn)
    {after : Dispatcher τ} {result : Except DispatchError Unit}
    (cancelled : (d.dropAt stage).cancel = (after, result)) (events : List (Event ε)) :
    d.number cell (event :: events) stage = after.session.count := by
  have kept := congrArg Session.count (d.dropAt stage).cancel_session
  rw [cancelled, d.dropAt_session] at kept
  cases stage with
  | some stage => exact kept.symm
  | none =>
    have unbegun : Event.begins (event :: events) = false := by
      cases event with
      | start => cases broken
      | shell | control | interrupt | terminate | wake => simp [Event.begins, broken]
    simpa [number, Arrival.counts, unbegun] using kept.symm

theorem number_passes (unmoved : d.advance cell stage event = none)
    (unbroken : event.interrupts? = none) (events : List (Event ε)) :
    d.number cell (event :: events) stage = d.number cell events stage := by
  cases stage with
  | some stage => rfl
  | none =>
    have same : Event.begins (event :: events) = Event.begins events := by
      cases event with
      | start => cases unmoved
      | shell | control | interrupt | terminate | wake => simp [Event.begins, unbroken]
    simp only [number, same]

end Dispatcher

theorem Step.Sound.count {τ ε : Type} [Transport τ ε] {d : Dispatcher τ}
    {result : Except DispatchError Dispatched} (sound : (Step.done result).Sound d) :
    (Outcome.finished result).count d.session = d.session.count := by
  cases sound <;> rfl

namespace Kernel

variable {τ ε : Type}

theorem answer_cellReply (event : Event ε) : event.answer.filterMap Sent.cellReply? = [] := by
  apply List.filterMap_eq_nil_iff.mpr
  rintro ⟨socket, request, content⟩ member
  have single : ⟨socket, request, content⟩ ∈ [event].flatMap Event.answer := by simpa using member
  obtain ⟨rfl, -⟩ := answer_parent single
  rfl

theorem closing_cellReply (request : String) (shown : List Content) (count : Nat)
    (failure : Option CellError) :
    (closing request shown count failure).filterMap Sent.cellReply? = [(request, count)] := by
  have published : (shown.map (Sent.mk .iopub request)).filterMap Sent.cellReply? = [] := by
    simp [List.filterMap_eq_nil_iff, Sent.cellReply?]
  rw [closing, List.filterMap_append, published]
  rfl

/-- A cell that is read now. What comes later shows whether it begins. -/
def arrival? (k : Kernel τ) (event : Event ε) (later : List (Event ε)) : Option Arrival :=
  if k.reads event then
    event.cell?.map fun cell => ⟨cell, !k.dispatcher.isDefunct, Event.begins later⟩
  else none

theorem arrival?_busy {k : Kernel τ} (busy : k.isIdle = false) (event : Event ε)
    (later : List (Event ε)) : k.arrival? event later = none := by
  cases event with
  | shell => simp [arrival?, reads, busy]
  | control | interrupt | terminate | start | wake => simp [arrival?, Event.cell?]

variable [Transport τ ε]

/-- The cells that are read as the events come in. -/
def arrivals (k : Kernel τ) : List (Event ε) → List Arrival
  | [] => []
  | event :: events => (k.arrival? event events).toList ++ arrivals (k.handle event).1 events

/-- The replies that are to come. -/
def due (k : Kernel τ) (events : List (Event ε)) : List (String × Nat) :=
  match k.activity with
  | .idle => tally k.dispatcher.session.count (k.arrivals events)
  | .running cell stage =>
    let count := k.dispatcher.number cell events stage
    (cell.request, count) :: tally count (k.arrivals events)
  | .stopped _ => []

/-- What was sent and what is to come are all that was due, or the kernel has failed one
reply. -/
def Pays (came : Kernel τ × List Sent) (events : List (Event ε)) (due : List (String × Nat)) :
    Prop :=
  came.2.filterMap Sent.cellReply? ++ came.1.due events = due ∨
    (∃ failure, came.1.activity = .stopped (some failure)) ∧
      ∃ lost, came.2.filterMap Sent.cellReply? ++ [lost] = due

theorem arrivals_stopped {k : Kernel τ} {failure : Option String}
    (stopped : k.activity = .stopped failure) (events : List (Event ε)) :
    k.arrivals events = [] := by
  have busy : k.isIdle = false := by simp only [isIdle, stopped]
  induction events with
  | nil => rfl
  | cons event events ih =>
    simp only [arrivals, arrival?_busy busy, handle_stopped stopped, ih]
    rfl

theorem due_running {k : Kernel τ} {cell : Cell} {stage : Option Stage}
    (running : k.activity = .running cell stage) (event : Event ε) (events : List (Event ε)) :
    k.due (event :: events) =
      (cell.request, k.dispatcher.number cell (event :: events) stage) ::
        tally (k.dispatcher.number cell (event :: events) stage)
          ((k.handle event).1.arrivals events) := by
  have busy : k.isIdle = false := by simp only [isIdle, running]
  simp only [due, running, arrivals, arrival?_busy busy]
  rfl

/-- The end of a cell pays for the cell, unless what it shows makes the kernel fail. -/
theorem conclude_pays {after : Dispatcher τ} (cell : Cell) {outcome : Outcome} (goesOn : Bool)
    (counted : outcome.count after.session = after.session.count) (event : Event ε)
    (events : List (Event ε)) :
    let came := (conclude { dispatcher := after } cell outcome goesOn).map id (event.answer ++ ·)
    Pays came events
      ((cell.request, after.session.count) ::
        tally after.session.count (came.1.arrivals events)) := by
  intro came
  have stopped (failure : Option String) :
      (stop { dispatcher := after } failure).activity = .stopped failure := rfl
  obtain ⟨shown, ends⟩ | ⟨failure, fails⟩ :=
    conclude_cases { dispatcher := after } cell outcome goesOn
  · refine .inl ?_
    simp only [came, ends, Prod.map, List.filterMap_append, answer_cellReply, closing_cellReply,
      counted]
    cases goesOn with
    | true => rfl
    | false => simp [due, stopped, arrivals_stopped (stopped none), tally]
  · refine .inr ⟨⟨failure, ?_⟩, (cell.request, after.session.count), ?_⟩
    · simp only [came, fails]
      rfl
    · simp [came, fails, arrivals_stopped (stopped (some failure)), answer_cellReply, tally]

theorem running_pays {k : Kernel τ} {cell : Cell} {stage : Option Stage}
    (running : k.activity = .running cell stage)
    (sound : ∀ reached, stage = some reached → (Step.waiting reached).Sound k.dispatcher)
    (event : Event ε) (events : List (Event ε)) :
    Pays (k.handle event) events (k.due (event :: events)) := by
  rw [due_running running]
  have meets := handle_meets running event
  generalize k.handle event = served at meets ⊢
  cases meets with
  | @advances came silent moved =>
    rw [Dispatcher.number_advances moved]
    have reached := Dispatcher.advance_sound sound moved
    obtain ⟨next, step⟩ := came
    cases step with
    | waiting stage => exact .inl rfl
    | done result =>
      have concludes : progress cell (next, .done result) =
          (conclude { dispatcher := next } cell (.finished result) true).map id
            (event.answer ++ ·) := by
        rw [silent]
        rfl
      rw [concludes]
      exact conclude_pays cell true reached.count event events
  | @interrupts goesOn after result broken cancelled =>
    rw [Dispatcher.number_interrupts broken cancelled]
    exact conclude_pays cell goesOn rfl event events
  | passes unmoved unbroken =>
    refine .inl ?_
    rw [answer_cellReply, Dispatcher.number_passes unmoved unbroken]
    simp only [due, running, List.nil_append]
  | @fails message failure =>
    refine .inr
      ⟨⟨failure, rfl⟩, (cell.request, k.dispatcher.number cell (event :: events) stage), ?_⟩
    have stopped : ((k.drop stage).stop (some failure)).activity = .stopped (some failure) := rfl
    rw [arrivals_stopped stopped]
    rfl

theorem idle_pays {k : Kernel τ} (idle : k.activity = .idle) (event : Event ε)
    (events : List (Event ε)) : Pays (k.handle event) events (k.due (event :: events)) := by
  have due_eq : k.due (event :: events) =
      tally k.dispatcher.session.count
        ((k.arrival? event events).toList ++ (k.handle event).1.arrivals events) := by
    simp only [due, idle, arrivals]
  rw [due_eq]
  have serves := handle_serves idle event
  generalize k.handle event = served at serves ⊢
  cases serves with
  | @begins cell asked =>
    have arrives : k.arrival? event events =
        some ⟨cell, !k.dispatcher.isDefunct, Event.begins events⟩ := by
      cases event with
      | shell => simp only [arrival?, reads, isIdle, idle, asked]; rfl
      | control | interrupt | terminate | start | wake => cases asked
    have announced : (k.announcement cell).filterMap Sent.cellReply? = [] := by
      unfold announcement
      split <;> rfl
    refine .inl ?_
    rw [announced, arrives]
    rfl
  | goesOn other unanswered =>
    refine .inl ?_
    have unread : k.arrival? event events = none := by simp [arrival?, other]
    rw [unanswered, unread]
    simp [due, idle]
  | stops failure other unanswered =>
    refine .inl ?_
    have unread : k.arrival? event events = none := by simp [arrival?, other]
    have stopped : (k.stop failure).activity = .stopped failure := rfl
    rw [unanswered, unread, arrivals_stopped stopped]
    rfl

theorem handle_pays {d : Dispatcher τ} {k : Kernel τ} (follows : Follows d k) (event : Event ε)
    (events : List (Event ε)) : Pays (k.handle event) events (k.due (event :: events)) := by
  cases activity : k.activity with
  | idle => exact idle_pays activity event events
  | running cell stage => exact running_pays activity (follows.sound activity) event events
  | stopped failure =>
    refine .inl ?_
    rw [handle_stopped activity]
    simp only [due, activity]
    rfl

theorem handleAll_pays {d : Dispatcher τ} {k : Kernel τ} (follows : Follows d k)
    (events : List (Event ε)) : Pays (k.handleAll events) [] (k.due events) := by
  induction events generalizing k with
  | nil => exact .inl rfl
  | cons event events ih =>
    obtain paid | ⟨⟨failure, stopped⟩, lost, paid⟩ := handle_pays follows event events
    · rw [← paid]
      simp only [Pays, handleAll, List.filterMap_append, List.append_assoc,
        List.append_cancel_left_eq]
      exact ih (handle_follows follows event)
    · refine .inr ?_
      simp only [handleAll, handleAll_stopped stopped, List.append_nil]
      exact ⟨⟨failure, stopped⟩, lost, paid⟩

theorem due_nil (k : Kernel τ) : (k.due ([] : List (Event ε))).length ≤ 1 := by
  cases activity : k.activity <;> simp [due, activity, arrivals, tally]

/-- At most one reply is missing in the end, and none if the kernel is between cells or was
stopped in good order. -/
theorem handleAll_owes {k : Kernel τ} (idle : k.activity = .idle) (events : List (Event ε)) :
    ∃ missing,
      (k.handleAll events).2.filterMap Sent.cellReply? ++ missing =
        tally k.dispatcher.session.count (k.arrivals events) ∧
      missing.length ≤ 1 ∧
      ((k.handleAll events).1.activity = .idle ∨
        (k.handleAll events).1.activity = .stopped none → missing = []) := by
  have fresh : Follows k.dispatcher k := by
    simpa only [Follows, position, idle] using History.Leads.start k.dispatcher
  have due_eq : k.due events = tally k.dispatcher.session.count (k.arrivals events) := by
    simp only [due, idle]
  rw [← due_eq]
  obtain paid | ⟨⟨failure, stopped⟩, lost, paid⟩ := handleAll_pays fresh events
  · refine ⟨_, paid, due_nil _, ?_⟩
    rintro (ended | ended) <;> simp [due, ended, arrivals, tally]
  · refine ⟨[lost], paid, Nat.le_refl 1, ?_⟩
    rintro (ended | ended) <;> cases stopped.symm.trans ended

/-- Over a whole run, from whatever number the session has reached: the reply to the i-th
cell has the number of evaluations among the first i that came in while the dispatcher was
not defunct and began before anything interrupted them. So the numbers go up by one with
each of them and by nothing with any other cell. Every cell is replied to, but for one that
still runs or that the kernel has failed over. -/
theorem reply_counts {k : Kernel τ} (idle : k.activity = .idle) (events : List (Event ε)) :
    let arrivals := k.arrivals events
    let replies := (k.handleAll events).2.filterMap Sent.cellReply?
    (∀ i request count, replies[i]? = some (request, count) →
      ∃ arrival, arrivals[i]? = some arrival ∧ arrival.cell.request = request ∧
        count = k.dispatcher.session.count +
          (arrivals.take (i + 1)).countP Arrival.counts) ∧
    (∀ i arrival first second, arrivals[i + 1]? = some arrival → replies[i]? = some first →
      replies[i + 1]? = some second → second.2 = first.2 + if arrival.counts then 1 else 0) ∧
    replies.length ≤ arrivals.length ∧ arrivals.length ≤ replies.length + 1 ∧
    ((k.handleAll events).1.activity = .idle ∨ (k.handleAll events).1.activity = .stopped none →
      replies.length = arrivals.length) := by
  intro arrivals replies
  obtain ⟨missing, all, few, none_missing⟩ := handleAll_owes idle events
  have at_ {i : Nat} {reply : String × Nat} (replied : replies[i]? = some reply) :
      (tally k.dispatcher.session.count arrivals)[i]? = some reply := by
    rw [← all, List.getElem?_append_left (List.getElem?_eq_some_iff.mp replied).1]
    exact replied
  have lengths : replies.length + missing.length = arrivals.length := by
    rw [← tally_length k.dispatcher.session.count arrivals, ← all, List.length_append]
  refine ⟨?_, ?_, by omega, by omega, ?_⟩
  · intro i request count replied
    have counted := at_ replied
    rw [tally_getElem?] at counted
    obtain ⟨arrival, arrived, same⟩ := Option.map_eq_some_iff.mp counted
    cases same
    exact ⟨arrival, arrived, rfl, rfl⟩
  · intro i arrival first second arrived before after
    exact tally_succ arrived (at_ before) (at_ after)
  · intro ended
    rw [← lengths, none_missing ended]
    rfl

/-- An evaluation that hangs is interrupted and counts. Text to keep, a cell that is
interrupted at once and one that comes after a failure do not; the failure itself does. -/
theorem reply_counts_mixed :
    let k : Kernel Rehearsal :=
      { dispatcher := { transport := { cues := [.hang, .answer (.error .childExited)] } } }
    let cell (id code : String) : Event Empty := .shell ⟨id, "execute_request",
      .obj [("code", .str code), ("silent", .bool false), ("store_history", .bool true)]⟩
    let events : List (Event Empty) :=
      [cell "1" "a", .start, .interrupt, cell "2" "b;", .start, cell "3" "a", .interrupt,
        cell "4" "a", .start, cell "5" "a", .start]
    let replies := (k.handleAll events).2.filterMap Sent.cellReply?
    replies = [("1", 1), ("2", 1), ("3", 1), ("4", 2), ("5", 2)] ∧
      (k.arrivals events).map Arrival.counts = [true, false, false, true, false] ∧
      ∀ i request count, replies[i]? = some (request, count) →
        count = 0 + ((k.arrivals events).take (i + 1)).countP Arrival.counts := by
  intro k cell events replies
  have idle : k.activity = .idle := rfl
  refine ⟨rfl, by decide +kernel, fun i request count replied => ?_⟩
  obtain ⟨arrival, -, -, counted⟩ := (reply_counts idle events).1 i request count replied
  exact counted

end Kernel

end NotebookKernel
