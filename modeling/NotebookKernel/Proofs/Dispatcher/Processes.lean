import NotebookKernel.Host.Machine
import NotebookKernel.Proofs.Bridge.RoundTrip
import NotebookKernel.Proofs.Dispatcher.Calls
import NotebookKernel.Startup

/-!
The processes of the one-shot protocol. Every live cell that is evaluated has one, in the
order of the cells, and nothing else has any. Its arguments and its toolchain are written
down here from the cells before it, without a session.
-/

namespace NotebookKernel

/-- A host with the processes that it was asked for, and those among them that it could not
start. -/
structure Ledger (η : Type) where
  host : η
  attempts : List Invocation := []
  refusals : List Invocation := []

instance {η : Type} [Host η] : Host (Ledger η) where
  start l process :=
    (Host.start l.host process).map fun host =>
      { l with host, attempts := l.attempts ++ [process] }
  refused l process :=
    ⟨Host.refused l.host process, l.attempts ++ [process], l.refusals ++ [process]⟩
  send l bytes := { l with host := Host.send l.host bytes }
  stop l := { l with host := Host.stop l.host }

/-- The specs that are declared, each where it first stands. -/
def declared (cells : List Submission) : List String :=
  ((cells.filterMap Submission.dependency?).filter (· ≠ "")).eraseDups

/-- The process that evaluates a cell after these. -/
def Submission.process? (settings : Settings) (program : String) (earlier : List Submission)
    (cell : Submission) : Option Invocation :=
  if cell.directive = .evaluate then
    some
      { program
        args := settings.interpreterArgs ++
          [String.intercalate " " (declared earlier), keptCode earlier ++ cell.code]
        toolchain := (earlier.filterMap Submission.toolchain?).getLast?.getD settings.toolchain
        converses := false }
  else none

def processesOf (settings : Settings) (program : String) (cells : List Submission) :
    List Invocation :=
  afterEach (fun earlier cell => cell.process? settings program earlier) cells

theorem Submission.process?_isSome (settings : Settings) (program : String)
    (earlier : List Submission) (cell : Submission) :
    (cell.process? settings program earlier).isSome ↔ cell.directive = .evaluate := by
  unfold process?
  split <;> simp [*]

/-- No process is left to a default toolchain. -/
theorem Submission.process?_toolchain {settings : Settings} {program : String}
    {earlier : List Submission} {cell : Submission} {process : Invocation}
    (needs : cell.process? settings program earlier = some process) :
    process.toolchain.isSome := by
  unfold process? at needs
  split at needs <;> cases needs
  rfl

namespace OneShot

/-- The process that a call needs. -/
def process? (command : Command) : Call → Option Invocation
  | .evaluate snapshot => some (invocation command snapshot)
  | .forward _ => none

variable {η : Type}

/-- A bridge with this command and this limit that has asked for these processes. -/
structure Carries (command : Command) (timeout : Option Duration) (b : OneShot (Ledger η))
    (attempts : List Invocation) : Prop where
  command : b.command = command
  timeout : b.timeout = timeout
  attempts : b.host.attempts = attempts

variable [Host η] {command : Command} {timeout : Option Duration} {b : OneShot (Ledger η)}
  {attempts : List Invocation}

theorem begin_carries (h : Carries command timeout b attempts) (c : Call) :
    Carries command timeout (b.begin c).1 (attempts ++ (process? command c).toList) := by
  obtain ⟨rfl, rfl, rfl⟩ := h
  cases c with
  | forward => exact ⟨rfl, rfl, (List.append_nil _).symm⟩
  | evaluate snapshot =>
    cases started : Host.start b.host.host (invocation b.command snapshot) <;>
      simp only [begin, Host.start, started, Except.map] <;> exact ⟨rfl, rfl, rfl⟩

theorem kill_carries (h : Carries command timeout b attempts) :
    Carries command timeout b.kill attempts :=
  ⟨h.command, h.timeout, h.attempts⟩

theorem resume_carries (h : Carries command timeout b attempts) (heard : Wake) :
    Carries command timeout (b.resume heard).1 attempts := by
  fun_cases b.resume heard <;> exact ⟨h.command, h.timeout, h.attempts⟩

/-- Only the calls add processes. -/
theorem processes_tally (command : Command) (timeout : Option Duration) :
    Tally (Carries (η := η) command timeout) (process? command) where
  begin h c := begin_carries h c
  resume h heard := resume_carries h heard
  abandon h := kill_carries h
  cancel h := h
  terminate h := h

/-- An evaluation waits for its process, or is refused one. -/
theorem begin_evaluate (b : OneShot (Ledger η)) (snapshot : Snapshot) :
    (∃ host, b.begin (.evaluate snapshot) = ({ b with host, captured := some [] }, .waiting) ∧
        host.refusals = b.host.refusals) ∨
      ∃ left failure, b.begin (.evaluate snapshot) = (left, .done (.error failure)) ∧
        left.host.refusals = b.host.refusals ++ [invocation b.command snapshot] := by
  cases started : Host.start b.host.host (invocation b.command snapshot) <;>
    simp only [begin, Host.start, started, Except.map]
  · exact .inr ⟨_, _, rfl, rfl⟩
  · exact .inl ⟨_, rfl, rfl⟩

theorem begin_refusals (b : OneShot (Ledger η)) (c : Call) :
    b.host.refusals <+: (b.begin c).1.host.refusals := by
  cases c with
  | forward => exact List.prefix_refl _
  | evaluate snapshot =>
    obtain ⟨host, begun, same⟩ | ⟨left, failure, begun, refused⟩ := b.begin_evaluate snapshot
    · have kept : (b.begin (.evaluate snapshot)).1.host.refusals = b.host.refusals := begun ▸ same
      exact kept ▸ List.prefix_rfl
    · rw [begun, refused]
      exact List.prefix_append _ _

/-- What was refused is never forgotten. -/
theorem refusals_tally (before : List Invocation) :
    Tally (fun (b : OneShot (Ledger η)) (_ : List Empty) => before <+: b.host.refusals)
      (fun _ => none) where
  begin h c := h.trans (begin_refusals _ c)
  resume {b _} h heard := by
    have same : (b.resume heard).1.host.refusals = b.host.refusals := by
      fun_cases b.resume heard <;> rfl
    exact same.symm ▸ h
  abandon h := h
  cancel h := h
  terminate h := h

end OneShot

/-- A list that goes along with the processes of single evaluations does so wherever these
are chosen. -/
theorem Tally.bridge {η β : Type} [Host η] {holds : OneShot η → List β → Prop}
    {f : Call → Option β} (tally : Tally holds f) :
    Tally (fun (b : Bridge η) l => ∃ single, b = .oneShot single ∧ holds single l) f where
  begin := by
    rintro _ l ⟨single, rfl, h⟩ c
    exact ⟨_, rfl, tally.begin h c⟩
  resume := by
    rintro _ l ⟨single, rfl, h⟩ heard
    exact ⟨_, rfl, tally.resume h heard⟩
  abandon := by
    rintro _ l ⟨single, rfl, h⟩
    exact ⟨_, rfl, tally.abandon h⟩
  cancel := by
    rintro _ l ⟨single, rfl, h⟩
    exact ⟨_, rfl, tally.cancel h⟩
  terminate := by
    rintro _ l ⟨single, rfl, h⟩
    exact ⟨_, rfl, tally.terminate h⟩

/-- The calls of a session that begins with the settings' toolchain need the processes of
its cells. -/
theorem callsOf_processes (settings : Settings) (command : Command)
    (args : command.args = settings.interpreterArgs) (cells : List Submission) :
    (callsOf { toolchain := settings.toolchain } cells).filterMap (OneShot.process? command) =
      processesOf settings command.program cells := by
  have fresh : Session.records { toolchain := settings.toolchain } = (· ≠ "") := by
    funext spec
    simp [Session.records]
  rw [callsOf, afterEach_filterMap, processesOf]
  congr 1
  funext earlier cell
  unfold Submission.call? Submission.process?
  cases cell.directive with
  | accumulate | addDependency | setToolchain => rfl
  | evaluate =>
    simp [OneShot.process?, OneShot.invocation, Dispatcher.evaluation, Session.snapshot,
      Session.joinedDependencies, Session.gather_pending, Session.gather_dependencies,
      Session.gather_toolchain, fresh, args, declared, keptCode]

/-- The program comes without arguments of its own. -/
theorem Settings.command_args (settings : Settings) (files : FileTree) (env : Environment) :
    (settings.command files env).args = settings.interpreterArgs := by
  unfold command Command.interpreter
  cases settings.interpreter <;> rfl

/-- The one-shot protocol starts nothing by itself. -/
theorem Dispatcher.start_oneShot {η : Type} [Host η] {settings : Settings}
    (single : settings.protocol = .oneShot) (command : Command) (host : η) :
    Dispatcher.start host settings command =
      .ok
        { session := { toolchain := settings.toolchain }
          transport := .oneShot { host, command, timeout := settings.timeout } } := by
  simp only [start, Bridge.connect, single]

/-- A new process finds the toolchain in its environment, whatever was there before. -/
theorem Machine.inherited_toolchain (m : Machine) (toolchain : Toolchain) :
    (m.inherited (some toolchain)).lookup "RUSTUP_TOOLCHAIN" =
      some (Shell.bytesOfText toolchain.name) :=
  List.lookup_cons_self

namespace History

variable {η : Type}

/-- The processes that were asked for, started or not. -/
def attempts (s : History (Bridge (Ledger η))) : List Invocation :=
  s.dispatcher.transport.host.attempts

/-- With the one-shot protocol there is, at any moment of any history, one process for each
live cell that is evaluated, in the order of the cells, and no other. It is the program of
the settings with their arguments, what the cells before it declared, and what they kept
with the cell itself; its environment names the last toolchain that was chosen. -/
theorem processes_of_cells [Host η] {settings : Settings} (single : settings.protocol = .oneShot)
    (files : FileTree) (env : Environment) (host : η) :
    ∃ d, Dispatcher.start (⟨host, [], []⟩ : Ledger η) settings (settings.command files env) = .ok d ∧
      ∀ s, Reachable d s →
        s.attempts = processesOf settings
          (Command.interpreter files env settings.interpreter).program s.live ∧
        s.attempts.length = s.live.countP (·.directive = .evaluate) ∧
        ∀ process ∈ s.attempts, ∃ toolchain, process.toolchain = some toolchain ∧
          ∀ m : Machine, (m.inherited process.toolchain).lookup "RUSTUP_TOOLCHAIN" =
            some (Shell.bytesOfText toolchain.name) := by
  let command := settings.command files env
  refine ⟨_, Dispatcher.start_oneShot single command _, fun s reachable => ?_⟩
  have tally := (OneShot.processes_tally (η := η) command settings.timeout).bridge
  obtain ⟨b, carried, asked⟩ := reachable_tally tally ⟨_, rfl, rfl, rfl, rfl⟩ reachable
  have all : s.attempts = processesOf settings command.program s.live := by
    rw [← callsOf_processes settings command (settings.command_args files env)]
    rw [attempts, carried]
    exact asked.attempts
  refine ⟨all, ?_, fun process member => ?_⟩
  · rw [all]
    exact afterEach_length _ (fun _ cell => cell.process?_isSome settings _ _) s.live
  · rw [all] at member
    obtain ⟨earlier, cell, needs⟩ := exists_of_mem_afterEach _ member
    obtain ⟨toolchain, chosen⟩ := Option.isSome_iff_exists.mp (Submission.process?_toolchain needs)
    exact ⟨toolchain, chosen, fun m => chosen ▸ m.inherited_toolchain toolchain⟩

/-- Two evaluations of the same cell. The first is dropped; the second comes after a spec
that was there before, and with another toolchain. -/
theorem processes_of_cells_again :
    let settings : Settings := { interpreter := some "re", interpreterArgs := ["-q"] }
    let files : FileTree := .initial []
    ∃ d s, settings.protocol = .oneShot ∧
      Dispatcher.start (⟨(), [], []⟩ : Ledger Unit) settings (settings.command files ⟨[], "/"⟩) = .ok d ∧
      Reachable d s ∧
      s.attempts = [⟨"re", ["-q", "serde", "let a = 1;a"], some .stable, false⟩,
        ⟨"re", ["-q", "serde rand", "let a = 1;a"], some .nightly, false⟩] := by
  intro settings files
  have protocol : settings.protocol = .oneShot := rfl
  obtain ⟨d, started, processes⟩ := processes_of_cells protocol files ⟨[], "/"⟩ ()
  cases started
  let single : OneShot (Ledger Unit) :=
    { host := ⟨(), [], []⟩, command := ⟨"re", ["-q"]⟩, timeout := none }
  let d : Dispatcher (Bridge (Ledger Unit)) := { transport := .oneShot single }
  have fresh : Reachable d { dispatcher := d } := .start
  have added := fresh.step (.submit _ ⟨":add serde", false⟩ rfl)
  have kept := added.step (.submit _ ⟨"let a = 1;", false⟩ rfl)
  have waits := kept.step (.submit _ ⟨"a", false⟩ rfl)
  have dropped := waits.step (.drop _ _ rfl)
  have cancelled := dropped.step (.cancel _ nofun)
  have again := cancelled.step (.submit _ ⟨":add  serde ", false⟩ rfl)
  have more := again.step (.submit _ ⟨":add rand", false⟩ rfl)
  have chosen := more.step (.submit _ ⟨":toolchain Nightly", false⟩ rfl)
  have last := chosen.step (.submit _ ⟨"a", false⟩ rfl)
  exact ⟨_, _, protocol, rfl, last, (processes _ last).1.trans (by decide +kernel)⟩

end History

end NotebookKernel
