import NotebookKernel.Proofs.Dispatcher.Latch
import NotebookKernel.Proofs.Kernel.Replies

/-!
What is asked in passing. Between cells that is every message but a cell and a shutdown, and
the signal that interrupts; while a cell runs, every control message but those that end it. It
is answered if it has an answer. Two runs that differ in nothing else leave the same session,
ask the transport for the same, and send the same on behalf of cells.
-/

namespace NotebookKernel

namespace Event

variable {ε : Type}

/-- The name of the message that comes in. -/
def id? (event : Event ε) : Option String :=
  event.message?.map fun message => message.2.id

/-- The names of the cells that are asked for. -/
def requests (events : List (Event ε)) : List String :=
  events.filterMap fun event => event.cell?.map (·.request)

/-- No other message goes by the name of a cell. -/
def NamesCells (events : List (Event ε)) : Prop :=
  ∀ event ∈ events, event.cell? = none → ∀ id ∈ event.id?, id ∉ requests events

instance (events : List (Event ε)) : Decidable (NamesCells events) :=
  inferInstanceAs (Decidable
    (∀ event ∈ events, event.cell? = none → ∀ id ∈ event.id?, id ∉ requests events))

end Event

namespace Kernel

variable {τ ε : Type}

/-- An event that a kernel can read in passing. -/
inductive Aside (k : Kernel τ) : Event ε → Prop
  | shell {message : Message} {inquiry : Inquiry} (idle : k.activity = .idle)
      (asked : message.inquiry = .ok inquiry)
      (noCell : ∀ code silent, inquiry ≠ .execute code silent)
      (goesOn : ∀ restart, inquiry ≠ .shutdown restart) : Aside k (.shell message)
  | control {message : Message} {inquiry : Inquiry} (idle : k.activity = .idle)
      (asked : message.inquiry = .ok inquiry) (goesOn : ∀ restart, inquiry ≠ .shutdown restart) :
      Aside k (.control message)
  | signal (idle : k.activity = .idle) : Aside k .interrupt
  | meanwhile {message : Message} {inquiry : Inquiry} {cell : Cell} {stage : Option Stage}
      (running : k.activity = .running cell stage) (asked : message.inquiry = .ok inquiry)
      (undisturbed : inquiry ≠ .interrupt) (goesOn : ∀ restart, inquiry ≠ .shutdown restart) :
      Aside k (.control message)

theorem Aside.noCell {k : Kernel τ} {event : Event ε} (aside : k.Aside event) :
    event.cell? = none := by
  cases aside with
  | shell idle asked noCell goesOn =>
    rename_i message inquiry
    cases inquiry with
    | execute code silent => exact absurd rfl (noCell code silent)
    | kernelInfo | isComplete | shutdown | interrupt | unsupported =>
      simp only [Event.cell?, asked]
  | control | signal | meanwhile => rfl

variable [Transport τ ε]

/-- Nothing is left of it, and whatever is sent is sent on its own behalf. -/
theorem Aside.handle {k : Kernel τ} {event : Event ε} (aside : k.Aside event) :
    ∃ sent, k.handle event = (k, sent) ∧ ∀ message ∈ sent, event.id? = some message.parent := by
  cases aside with
  | @shell message inquiry idle asked noCell goesOn =>
    simp only [Kernel.handle, idle, shellMessage, asked]
    cases inquiry with
    | execute code silent => exact absurd rfl (noCell code silent)
    | shutdown restart => exact absurd rfl (goesOn restart)
    | kernelInfo | isComplete | interrupt | unsupported =>
      exact ⟨_, rfl, by simp [Event.id?, Event.message?]⟩
  | @control message inquiry idle asked goesOn =>
    simp only [Kernel.handle, idle, controlMessage, asked]
    cases inquiry with
    | shutdown restart => exact absurd rfl (goesOn restart)
    | execute | kernelInfo | isComplete | interrupt | unsupported =>
      exact ⟨_, rfl, by simp [controlReply, Event.id?, Event.message?]⟩
  | signal idle =>
    simp only [Kernel.handle, idle]
    exact ⟨[], rfl, by simp⟩
  | @meanwhile message inquiry cell stage running asked undisturbed goesOn =>
    simp only [Kernel.handle, running, controlDuring, asked]
    cases inquiry with
    | interrupt => exact absurd rfl undisturbed
    | shutdown restart => exact absurd rfl (goesOn restart)
    | execute | kernelInfo | isComplete | unsupported =>
      exact ⟨_, rfl, by simp [controlReply, Event.id?, Event.message?]⟩

theorem Aside.parents {k : Kernel τ} {event : Event ε} (aside : k.Aside event) {p : String → Bool}
    (other : ∀ id ∈ event.id?, p id = false) :
    (k.handle event).2.filter (fun sent => p sent.parent) = [] := by
  obtain ⟨sent, handles, own⟩ := aside.handle
  rw [handles, List.filter_eq_nil_iff]
  intro message member mine
  exact absurd ((other _ (own message member)).symm.trans mine) Bool.false_ne_true

/-- Two runs that hear the same but for what either is asked in passing. -/
inductive SameButAsides : Kernel τ → Kernel τ → List (Event ε) → List (Event ε) → Prop
  | nil (k k' : Kernel τ) : SameButAsides k k' [] []
  | both {k k' : Kernel τ} {event : Event ε} {events events' : List (Event ε)}
      (rest : SameButAsides (k.handle event).1 (k'.handle event).1 events events') :
      SameButAsides k k' (event :: events) (event :: events')
  | left {k k' : Kernel τ} {event : Event ε} {events events' : List (Event ε)}
      (aside : k.Aside event) (rest : SameButAsides (k.handle event).1 k' events events') :
      SameButAsides k k' (event :: events) events'
  | right {k k' : Kernel τ} {event : Event ε} {events events' : List (Event ε)}
      (aside : k'.Aside event) (rest : SameButAsides k (k'.handle event).1 events events') :
      SameButAsides k k' events (event :: events')

namespace SameButAsides

variable {k k' : Kernel τ} {events events' : List (Event ε)}

theorem requests (same : SameButAsides k k' events events') :
    Event.requests events = Event.requests events' := by
  induction same with
  | nil => rfl
  | @both _ _ event _ _ _ ih =>
    simp only [Event.requests] at ih
    simp only [Event.requests, List.filterMap_cons, ih]
  | left aside _ ih =>
    simp only [Event.requests] at ih
    simp only [Event.requests, List.filterMap_cons, aside.noCell, Option.map_none, ih]
  | right aside _ ih =>
    simp only [Event.requests] at ih
    simp only [Event.requests, List.filterMap_cons, aside.noCell, Option.map_none, ih]

/-- The two kernels never part, whatever transport they use. -/
theorem kernel (same : SameButAsides k k' events events') (start : k = k') :
    (k.handleAll events).1 = (k'.handleAll events').1 := by
  induction same with
  | nil => exact start
  | both _ ih =>
    subst start
    exact ih rfl
  | @left k k' event _ _ aside _ ih =>
    obtain ⟨sent, handles, -⟩ := aside.handle
    exact ih (by rw [handles, start])
  | @right k k' event _ _ aside _ ih =>
    obtain ⟨sent, handles, -⟩ := aside.handle
    exact ih (by rw [handles, start])

/-- So they send the same on behalf of everything but the asides. -/
theorem sent (same : SameButAsides k k' events events') (start : k = k') {p : String → Bool}
    (others : ∀ event ∈ events, event.cell? = none → ∀ id ∈ event.id?, p id = false)
    (others' : ∀ event ∈ events', event.cell? = none → ∀ id ∈ event.id?, p id = false) :
    (k.handleAll events).2.filter (fun sent => p sent.parent) =
      (k'.handleAll events').2.filter fun sent => p sent.parent := by
  induction same with
  | nil => rfl
  | both _ ih =>
    subst start
    rw [List.forall_mem_cons] at others others'
    simp only [handleAll, List.filter_append, ih rfl others.2 others'.2]
  | left aside _ ih =>
    rw [List.forall_mem_cons] at others
    obtain ⟨sent, handles, -⟩ := aside.handle
    simp only [handleAll, List.filter_append, aside.parents (others.1 aside.noCell),
      List.nil_append]
    exact ih (by rw [handles, start]) others.2 others'
  | right aside _ ih =>
    rw [List.forall_mem_cons] at others'
    obtain ⟨sent, handles, -⟩ := aside.handle
    simp only [handleAll, List.filter_append, aside.parents (others'.1 aside.noCell),
      List.nil_append]
    exact ih (by rw [handles, start]) others others'.2

end SameButAsides

/-- What is sent on behalf of cells. -/
def cellMessages (k : Kernel τ) (events : List (Event ε)) : List Sent :=
  (k.handleAll events).2.filter fun sent => sent.parent ∈ Event.requests events

/-- Over whatever transport: two runs that differ only in what is asked in passing, however
often and wherever it can be read, end with the same session, have asked the transport for the
same in the same order, and have sent the same on behalf of cells. -/
theorem asides_change_nothing (k : Kernel (Minuted τ)) {events events' : List (Event ε)}
    (same : SameButAsides k k events events') :
    let after := (k.handleAll events).1.dispatcher
    let after' := (k.handleAll events').1.dispatcher
    after.session = after'.session ∧ after.transport.asked = after'.transport.asked ∧
      (Event.NamesCells events → Event.NamesCells events' →
        k.cellMessages events = k.cellMessages events') := by
  intro after after'
  have ended : after = after' := congrArg Kernel.dispatcher (same.kernel rfl)
  refine ⟨congrArg _ ended, congrArg (fun d => d.transport.asked) ended, fun named named' => ?_⟩
  simp only [cellMessages, ← same.requests]
  refine same.sent (p := fun id => decide (id ∈ Event.requests events)) rfl ?_ ?_
  · intro event member other id own
    exact decide_eq_false (named event member other id own)
  · intro event member other id own
    rw [same.requests]
    exact decide_eq_false (named' event member other id own)

/-- A cell hangs and is interrupted. In one of the runs there is a question before it and one
while it runs, an interrupt before it and one behind it. -/
theorem asides_change_nothing_questions :
    let k : Kernel (Minuted Rehearsal) :=
      { dispatcher := { transport := { transport := { cues := [.hang] } } } }
    let info (id : String) : Message := ⟨id, "kernel_info_request", .obj []⟩
    let interrupt (id : String) : Message := ⟨id, "interrupt_request", .obj []⟩
    let cell : Message := ⟨"1", "execute_request",
      .obj [("code", .str "a"), ("silent", .bool false), ("store_history", .bool true)]⟩
    let plain : List (Event Empty) := [.shell cell, .start, .control (interrupt "2")]
    let busy : List (Event Empty) :=
      [.shell (info "3"), .interrupt, .shell cell, .control (info "4"), .start,
        .control (info "5"), .control (interrupt "2"), .control (interrupt "6")]
    let after := (k.handleAll plain).1.dispatcher
    let after' := (k.handleAll busy).1.dispatcher
    after.session = after'.session ∧ after.transport.asked = after'.transport.asked ∧
      k.cellMessages plain = k.cellMessages busy ∧
      after.transport.asked = [.evaluate ⟨"a", "", .stable⟩, .cancel] ∧
      (k.cellMessages plain).length = 5 := by
  intro k info interrupt cell plain busy after after'
  let announced : Kernel (Minuted Rehearsal) :=
    { k with activity := .running ⟨"1", "a", false⟩ none }
  let waiting : Kernel (Minuted Rehearsal) :=
    { dispatcher :=
        { session := { count := 1 }
          transport :=
            { transport := { asked := [.evaluate ⟨"a", "", .stable⟩] }
              asked := [.evaluate ⟨"a", "", .stable⟩] } }
      activity := .running ⟨"1", "a", false⟩ (some (.calling .evaluate [])) }
  have question (id : String) : (info id).inquiry = .ok .kernelInfo := rfl
  have request (id : String) : (interrupt id).inquiry = .ok .interrupt := rfl
  have during : SameButAsides waiting waiting [.control (interrupt "2")]
      [.control (info "5"), .control (interrupt "2"), .control (interrupt "6")] :=
    .right (.meanwhile rfl (question "5") nofun nofun)
      (.both (.right (.control rfl (request "6") nofun) (.nil _ _)))
  have starting : SameButAsides announced announced (plain.drop 1) (busy.drop 3) :=
    .right (.meanwhile rfl (question "4") nofun nofun) (.both during)
  have same : SameButAsides k k plain busy :=
    .right (.shell rfl (question "3") nofun nofun) (.right (.signal rfl) (.both starting))
  have named : Event.NamesCells plain := by decide +kernel
  have named' : Event.NamesCells busy := by decide +kernel
  obtain ⟨session, asked, messages⟩ := asides_change_nothing k same
  exact ⟨session, asked, messages named named', by decide +kernel, by decide +kernel⟩

end Kernel

end NotebookKernel
