import Mathlib.Data.List.Forall2
import NotebookKernel.Proofs.Dispatcher.Processes
import NotebookKernel.Proofs.Dispatcher.Turns

/-!
With one process for each evaluation, cells do not depend on how others end. As long as
every process starts and can be read, what a run leaves behind is a matter of its cells
alone, whatever was printed, however late it came and whoever was dropped.
-/

namespace NotebookKernel

open Text (Bytes)

/-- What an evaluation shows that hears this after so much was printed; it may still
wait. -/
def OneShot.output? (limit : Option Duration) : Bytes → List Wake → Option String
  | _, [] => none
  | bytes, .accepted :: heard => output? limit bytes heard
  | bytes, .arrived more :: heard => output? limit (bytes ++ more) heard
  | bytes, .ended :: _ => some (.ofList (Text.Utf8.repair bytes))
  | _, .failed _ :: _ => none
  | bytes, .deadline :: heard =>
    match limit with
    | none => output? limit bytes heard
    | some limit => some ((TransportError.timeout limit).message ++ "\n")

/-- What a cell returns in this session if its process starts and can be read. -/
def Submission.result? (session : Session) (limit : Option Duration) (cell : Submission)
    (heard : List Wake) : Option (Except DispatchError Dispatched) :=
  let shown (action : Action) (events : List DisplayEvent) : Except DispatchError Dispatched :=
    .ok ⟨action, events, (session.begin cell).count⟩
  match cell.directive with
  | .addDependency _ => some (shown .addDependency [])
  | .setToolchain name => some (shown .setToolchain (Dispatcher.unanswered (.setToolchain name)))
  | .accumulate => some (shown .accumulate [])
  | .evaluate =>
    (OneShot.output? limit [] heard).map fun out => shown .evaluate (RawResult.text out).translate

namespace Turn

/-- What a turn returns after these, if every process starts and can be read. -/
def result? (session : Session) (limit : Option Duration) (before : List (Turn Wake)) :
    Turn Wake → Option (Except DispatchError Dispatched)
  | .cell submission heard =>
    if .shutdown ∈ before then some (.error (.defunct "kernel shut down"))
    else submission.result? (session.gather (begun before)) limit heard
  | .cancel | .shutdown => none

/-- Whatever the process prints can be read. -/
def Readable : Turn Wake → Prop
  | .cell _ heard => ∀ e, Wake.failed e ∉ heard
  | .cancel | .shutdown => True

/-- The same turn, or the same evaluation with another end. -/
inductive Alike {ε : Type} : Turn ε → Turn ε → Prop
  | same (turn : Turn ε) : Alike turn turn
  | ends (submission : Submission) (evaluates : submission.directive = .evaluate)
      (heard heard' : List ε) : Alike (.cell submission heard) (.cell submission heard')

theorem Alike.begun {ε : Type} {turns turns' : List (Turn ε)}
    (alike : List.Forall₂ Alike turns turns') :
    Turn.begun turns = Turn.begun turns' ∧ (.shutdown ∈ turns ↔ .shutdown ∈ turns') := by
  induction alike with
  | nil => exact ⟨rfl, Iff.rfl⟩
  | @cons turn _ _ _ alike _ ih =>
    obtain ⟨cells, closed⟩ := ih
    cases alike with
    | same => cases turn <;> simp [Turn.begun, cells, closed]
    | ends submission evaluates heard heard' => simp [Turn.begun, cell?, cells, closed]

end Turn

namespace Dispatcher

variable {η : Type} [Host η]

/-- A process that can be read is heard to its end, to its limit, or for ever. -/
theorem resumeAll_readable (d : Dispatcher (OneShot η)) {bytes : Bytes}
    (printed : d.transport.captured = some bytes) (action : Action) (events : List DisplayEvent)
    {heard : List Wake} (readable : ∀ e, Wake.failed e ∉ heard) :
    ∃ b, d.resumeAll (.calling action events) heard =
      ({ d with transport := b },
        match OneShot.output? d.transport.timeout bytes heard with
        | none => .waiting (.calling action events)
        | some out => .done (.ok (d.dispatched action (RawResult.text out).translate))) := by
  induction heard generalizing d bytes with
  | nil => exact ⟨d.transport, rfl⟩
  | cons first heard ih =>
    have later (e : IoError) : Wake.failed e ∉ heard :=
      fun member => readable e (List.mem_cons_of_mem _ member)
    simp only [resumeAll, resume, Transport.resume, OneShot.resume, printed]
    cases first with
    | accepted => exact ih d printed later
    | arrived more =>
      exact ih { d with transport := { d.transport with captured := some (bytes ++ more) } } rfl later
    | ended => exact ⟨_, rfl⟩
    | failed e => exact absurd List.mem_cons_self (readable e)
    | deadline =>
      cases limit : d.transport.timeout with
      | none =>
        obtain ⟨b, same⟩ := ih d printed later
        rw [limit] at same
        exact ⟨b, same⟩
      | some limit => exact ⟨_, rfl⟩

/-- A cell of a usable dispatcher whose process is not refused and can be read. -/
theorem take_cell {d : Dispatcher (OneShot (Ledger η))} (usable : d.fault = none)
    (cell : Submission) {heard : List Wake} (readable : ∀ e, Wake.failed e ∉ heard)
    (accepted : (d.take (.cell cell heard)).1.transport.host.refusals =
      d.transport.host.refusals) :
    ∃ b, d.take (.cell cell heard) =
      ({ d with session := d.session.begin cell, transport := b },
        cell.result? d.session d.transport.timeout heard) := by
  have directive : Directive.classify cell.code cell.silent = cell.directive := rfl
  cases kind : cell.directive with
  | addDependency | setToolchain | accumulate =>
    refine ⟨d.transport, ?_⟩
    simp only [take, dispatch, submit, usable, directive, kind, Submission.result?, Session.begin]
    rfl
  | evaluate =>
    let noted : Dispatcher (OneShot (Ledger η)) := { d with session := d.session.begin cell }
    let snapshot := evaluation noted.session cell.code
    have submitted : d.submit cell.code cell.silent =
        noted.call .evaluate [] (.evaluate snapshot) := by
      simp only [submit, usable, directive, kind, snapshot, noted, Session.begin]
    obtain ⟨host, begun, -⟩ | ⟨left, failure, begun, refused⟩ := d.transport.begin_evaluate snapshot
    · let waiting : Dispatcher (OneShot (Ledger η)) :=
        { noted with transport := { d.transport with host, captured := some [] } }
      have waits : noted.call .evaluate [] (.evaluate snapshot) =
          (waiting, .waiting (.calling .evaluate [])) := by
        simp only [call, Transport.begin, noted, begun]
        rfl
      obtain ⟨b, hears⟩ := waiting.resumeAll_readable rfl .evaluate [] readable
      simp only [take, dispatch_waiting (submitted.trans waits), hears, Submission.result?, kind]
      cases OneShot.output? d.transport.timeout [] heard with
      | none => exact ⟨b.kill, rfl⟩
      | some out => exact ⟨b, rfl⟩
    · have fails : noted.call .evaluate [] (.evaluate snapshot) =
          ({ noted with transport := left, fault := some failure.message },
            .done (.error (.transport failure))) := by
        simp only [call, Transport.begin, noted, begun]
        rfl
      -- What was refused would stand in the ledger.
      simp only [take, dispatch_done (submitted.trans fails)] at accepted
      exact absurd (refused.symm.trans accepted) (by simp)

theorem take_fault {d : Dispatcher (OneShot (Ledger η))} (usable : d.fault = none)
    {turn : Turn Wake} (readable : turn.Readable)
    (accepted : (d.take turn).1.transport.host.refusals = d.transport.host.refusals) :
    (d.take turn).1.fault = if turn = .shutdown then some "kernel shut down" else none := by
  cases turn with
  | cell cell heard =>
    obtain ⟨b, took⟩ := take_cell usable cell readable accepted
    rw [took]
    exact usable
  | cancel => exact usable
  | shutdown => simp [take, shutdown, usable]

/-- A defunct dispatcher is left as it is. -/
theorem take_defunct {d : Dispatcher (OneShot η)} {reason : String} (fault : d.fault = some reason)
    (turn : Turn Wake) :
    d.take turn = (d, turn.cell?.map fun _ => .error (.defunct reason)) := by
  cases turn with
  | cell cell heard => simp only [take, d.dispatch_defunct cell.code cell.silent fault heard]; rfl
  | cancel => rfl
  | shutdown =>
    obtain ⟨session, transport, recorded⟩ := d
    cases fault
    rfl

/-- Every process starts, and whatever it prints can be read. -/
structure Calm (d : Dispatcher (OneShot (Ledger η))) (turns : List (Turn Wake)) : Prop where
  started : (d.play turns).transport.host.refusals = d.transport.host.refusals
  readable : ∀ turn ∈ turns, turn.Readable

section Runs

variable {d : Dispatcher (OneShot (Ledger η))} {turns more : List (Turn Wake)}

theorem play_refusals (d : Dispatcher (OneShot (Ledger η))) (turns : List (Turn Wake)) :
    d.transport.host.refusals <+: (d.play turns).transport.host.refusals := by
  obtain ⟨s, reachable, -, same⟩ := History.reaches_play d turns
  have tally := OneShot.refusals_tally (η := η) d.transport.host.refusals
  exact same ▸ History.reachable_tally tally (List.prefix_refl _) (l := []) reachable

theorem Calm.before (calm : Calm d (turns ++ more)) : Calm d turns where
  started := by
    have later := (d.play turns).play_refusals more
    rw [← play_append, calm.started] at later
    exact later.eq_of_length_le (d.play_refusals turns).length_le
  readable turn member := calm.readable turn (List.mem_append_left _ member)

theorem Calm.accepted {turn : Turn Wake} (calm : Calm d (turns ++ [turn])) :
    ((d.play turns).take turn).1.transport.host.refusals =
      (d.play turns).transport.host.refusals := by
  rw [← play_concat, calm.started, calm.before.started]

theorem Calm.last {turn : Turn Wake} (calm : Calm d (turns ++ [turn])) : turn.Readable :=
  calm.readable turn List.mem_concat_self

/-- Only a shutdown ends a calm run, and its cells are those of a history. -/
theorem calm_play (usable : d.fault = none) (calm : Calm d turns) :
    (d.play turns).fault = (if .shutdown ∈ turns then some "kernel shut down" else none) ∧
      ∃ s, History.Reachable d s ∧ s.position = .free ∧ s.dispatcher = d.play turns ∧
        s.live = Turn.begun turns := by
  induction turns using List.reverseRecOn with
  | nil => exact ⟨usable, _, .start, rfl, rfl, rfl⟩
  | append_singleton turns turn ih =>
    obtain ⟨fault, s, reachable, free, same, live⟩ := ih calm.before
    obtain ⟨t, later, free, next, began⟩ := History.reaches_take reachable free turn
    rw [same] at next began
    refine ⟨?_, t, later, free, next.trans (d.play_concat turns turn).symm, ?_⟩
    · rw [play_concat]
      -- After a shutdown nothing leaves a trace; before it only a shutdown records a fault.
      by_cases closed : .shutdown ∈ turns
      · rw [if_pos closed] at fault
        rw [take_defunct fault, fault, if_pos (List.mem_append_left _ closed)]
      · rw [if_neg closed] at fault
        rw [take_fault fault calm.last calm.accepted]
        simp [closed, eq_comm]
    · rw [began, live, Turn.begun_concat, isDefunct, fault]
      split <;> rfl

/-- What a calm run leaves is a matter of its cells alone. -/
theorem calm_leaves (usable : d.fault = none) (calm : Calm d turns) :
    (d.play turns).session = d.session.gather (Turn.begun turns) ∧
      OneShot.Carries d.transport.command d.transport.timeout (d.play turns).transport
        (d.transport.host.attempts ++ (callsOf d.session (Turn.begun turns)).filterMap
          (OneShot.process? d.transport.command)) := by
  obtain ⟨-, s, reachable, -, same, live⟩ := calm_play usable calm
  rw [← same, ← live]
  have tally := OneShot.processes_tally (η := η) d.transport.command d.transport.timeout
  exact ⟨History.session_of_live reachable,
    History.reachable_tally tally ⟨rfl, rfl, rfl⟩ reachable⟩

/-- What a cell returns in a calm run is a matter of the cells before it and of what it
hears itself. -/
theorem calm_returns (usable : d.fault = none) {turn : Turn Wake}
    (calm : Calm d (turns ++ [turn])) :
    ((d.play turns).take turn).2 = turn.result? d.session d.transport.timeout turns := by
  have fault := (calm_play usable calm.before).1
  obtain ⟨session, carries⟩ := calm_leaves usable calm.before
  cases turn with
  | cancel | shutdown => rfl
  | cell cell heard =>
    by_cases closed : .shutdown ∈ turns
    · rw [if_pos closed] at fault
      rw [take_defunct fault]
      simp [Turn.result?, Turn.cell?, closed]
    · rw [if_neg closed] at fault
      obtain ⟨b, took⟩ := take_cell fault cell calm.last calm.accepted
      rw [took, session, carries.timeout]
      simp [Turn.result?, closed]

theorem Calm.take (calm : Calm d turns) (n : Nat) : Calm d (turns.take n) :=
  ((List.take_append_drop n turns).symm ▸ calm).before

/-- With one process for each evaluation, and as long as every process starts and can be
read, a dispatcher is usable until it is shut down, and an evaluation that is ended by its
limit has that for its output. Two runs of the same cells that differ in how some evaluations
end agree, at every moment, in the session and in the processes that were asked for, and
every other cell returns the same in both. -/
theorem ends_cost_own_output (session : Session) (command : Command) (timeout : Option Duration) :
    let fresh (host : η) : Dispatcher (OneShot (Ledger η)) :=
      { session, transport := { host := ⟨host, [], []⟩, command, timeout } }
    (∀ host turns, (fresh host).Calm turns → ∀ n,
      let d := (fresh host).play (turns.take n)
      (.shutdown ∉ turns.take n → d.fault = none) ∧
        ∀ turn, turns[n]? = some turn →
          (d.take turn).2 = turn.result? session timeout (turns.take n)) ∧
    ∀ host host' turns turns', (fresh host).Calm turns → (fresh host').Calm turns' →
      List.Forall₂ Turn.Alike turns turns' → ∀ n,
      let d := (fresh host).play (turns.take n)
      let d' := (fresh host').play (turns'.take n)
      d.session = d'.session ∧ d.transport.host.attempts = d'.transport.host.attempts ∧
        ∀ turn, turns[n]? = some turn → turns'[n]? = some turn →
          (d.take turn).2 = (d'.take turn).2 := by
  intro fresh
  have returns {host turns} (calm : (fresh host).Calm turns) {n turn}
      (stands : turns[n]? = some turn) :
      (((fresh host).play (turns.take n)).take turn).2 =
        turn.result? session timeout (turns.take n) := by
    have next := calm.take (n + 1)
    rw [List.take_add_one, stands, Option.toList_some] at next
    exact calm_returns rfl next
  refine ⟨fun host turns calm n => ⟨fun before => ?_, fun turn => returns calm⟩,
    fun host host' turns turns' calm calm' alike n => ?_⟩
  · rw [(calm_play rfl (calm.take n)).1, if_neg before]
  · obtain ⟨cells, closed⟩ := Turn.Alike.begun (List.forall₂_take n alike)
    obtain ⟨left, carries⟩ := calm_leaves rfl (calm.take n)
    obtain ⟨left', carries'⟩ := calm_leaves rfl (calm'.take n)
    refine ⟨?_, ?_, fun turn stands stands' => ?_⟩
    · rw [left, left', cells]
    · rw [carries.attempts, carries'.attempts, cells]
    · rw [returns calm stands, returns calm' stands']
      cases turn <;> simp [Turn.result?, cells, closed]

/-- A loop that is ended by its limit, and one that is dropped: neither the evaluation nor
the refusal after them can tell. -/
theorem ends_cost_own_output_loop :
    let limit : Duration := .ofSeconds 1
    let fresh : Dispatcher (OneShot (Ledger Unit)) :=
      { transport := { host := ⟨(), [], []⟩, command := ⟨"re", []⟩, timeout := some limit } }
    let last : Turn Wake := .cell ⟨"a", false⟩ [.arrived [49], .ended]
    let loop (heard : List Wake) : Turn Wake := .cell ⟨"loop \x7b\x7d", false⟩ heard
    let turns (heard : List Wake) : List (Turn Wake) :=
      [.cell ⟨"let a = 1;", false⟩ [], loop heard, last, .shutdown, last]
    let late := turns [.arrived [46], .deadline]
    let dropped := turns [.arrived [46, 46]]
    fresh.Calm late ∧ fresh.Calm dropped ∧ List.Forall₂ Turn.Alike late dropped ∧
      (fresh.play (late.take 2)).fault = none ∧
      ((fresh.play (late.take 1)).take (loop [.arrived [46], .deadline])).2 =
        some (.ok ⟨.evaluate, [.stdout ((TransportError.timeout limit).message ++ "\n")], 1⟩) ∧
      (fresh.play late).session = (fresh.play dropped).session ∧
      (fresh.play late).transport.host.attempts = (fresh.play dropped).transport.host.attempts ∧
      ((fresh.play (late.take 2)).take last).2 = ((fresh.play (dropped.take 2)).take last).2 := by
  intro limit fresh last loop turns late dropped
  have calm : fresh.Calm late := ⟨rfl, by simp [late, turns, loop, last, Turn.Readable]⟩
  have calm' : fresh.Calm dropped := ⟨rfl, by simp [dropped, turns, loop, last, Turn.Readable]⟩
  have loops : Submission.directive ⟨"loop \x7b\x7d", false⟩ = .evaluate := by decide +kernel
  have alike : List.Forall₂ Turn.Alike late dropped :=
    .cons (.same _) (.cons (.ends _ loops _ _) (.cons (.same last)
      (.cons (.same .shutdown) (.cons (.same last) .nil))))
  obtain ⟨runs, agree⟩ := ends_cost_own_output (η := Unit) {} ⟨"re", []⟩ (some limit)
  have shown := (runs () late calm 1).2 _ rfl
  obtain ⟨-, -, between⟩ := agree () () late dropped calm calm' alike 2
  obtain ⟨session, attempts, -⟩ := agree () () late dropped calm calm' alike 5
  exact ⟨calm, calm', alike, (runs () late calm 2).1 (by decide), shown.trans rfl, session,
    attempts, between last rfl rfl⟩

end Runs

end Dispatcher

end NotebookKernel
