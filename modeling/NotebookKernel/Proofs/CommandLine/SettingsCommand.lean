import NotebookKernel.CommandLine
import NotebookKernel.Proofs.Settings.Persistence

/-!
The command that shows the settings. What it prints decodes to the settings of the file with
the given values in place of theirs. Once it has kept them, it goes on printing the same.
-/

namespace NotebookKernel

namespace CommandLine

namespace Overrides

theorem apply_none (settings : Settings) : ({} : Overrides).apply settings = settings := rfl

theorem apply_apply (overrides : Overrides) (settings : Settings) :
    overrides.apply (overrides.apply settings) = overrides.apply settings := by
  obtain ⟨protocol, interpreter, timeout⟩ := overrides
  cases protocol <;> cases interpreter <;> cases timeout <;> rfl

end Overrides

theorem showSettings_output (world : World) (settings : Settings) (path : String) (save : Bool) :
    (showSettings world settings path save).output = settings.text ++ "\n" := by
  unfold showSettings
  cases save with
  | false => rfl
  | true =>
    rw [if_pos rfl]
    cases settings.save world.machine.files path <;> rfl

theorem showSettings_saved {world : World} {settings : Settings} {path : String}
    {files : FileTree} (saved : settings.save world.machine.files path = .ok files) :
    showSettings world settings path true =
      succeed { world.machine with files } (settings.text ++ "\n") s!"Saved to {path}\n" := by
  simp only [showSettings, if_true, saved]

/-- The settings are kept, or the machine is left as it was. -/
theorem showSettings_cases (world : World) (settings : Settings) (path : String) (save : Bool) :
    ((showSettings world settings path save).machine = world.machine ∧
        (save = true → (showSettings world settings path save).code = 1)) ∨
      save = true ∧ ∃ files, settings.save world.machine.files path = .ok files ∧
        (showSettings world settings path save).machine = { world.machine with files } := by
  unfold showSettings
  cases save with
  | false => exact .inl ⟨rfl, by simp⟩
  | true =>
    rw [if_pos rfl]
    cases saved : settings.save world.machine.files path with
    | error failure => exact .inl ⟨rfl, fun _ => rfl⟩
    | ok files => exact .inr ⟨rfl, files, rfl, rfl⟩

theorem showSettings_kept {world : World} {settings : Settings} {path : String}
    (done : (showSettings world settings path true).code = 0)
    (file : (showSettings world settings path true).machine.files.HasFile path) :
    settings.StandAt (showSettings world settings path true).machine.files path := by
  rcases showSettings_cases world settings path true with ⟨-, failed⟩ | ⟨-, files, saved, kept⟩
  · rw [failed rfl] at done
    cases done
  · rw [kept] at file ⊢
    exact (Settings.saved_there saved file).1

/-- Showing settings that stand at the path leaves them there. -/
theorem showSettings_stands {world : World} {settings : Settings} {path : String}
    (stands : settings.StandAt world.machine.files path) (save : Bool) :
    settings.StandAt (showSettings world settings path save).machine.files path := by
  rcases showSettings_cases world settings path save with ⟨same, -⟩ | ⟨-, files, saved, kept⟩
  · rwa [same]
  · rw [kept]
    exact Settings.saved_over saved stands.hasFile

/-- The program with its words in its world. -/
structure Use where
  world : World
  words : List String

namespace Use

def finish (use : Use) : Finish := perform use.world use.words

def load (use : Use) (path : String) : Settings := Settings.load use.world.machine.files path

/-- The words are the settings command for this file, with these values. -/
def Shows (use : Use) (path : String) (overrides : Overrides) (save : Bool) : Prop :=
  ∃ arguments, understand use.words = some arguments ∧
    arguments.action = some (.settings save) ∧ arguments.overrides = overrides ∧
    arguments.settingsPath.getD use.world.environment.settingsPath = path

variable {use : Use} {path : String} {overrides : Overrides} {save : Bool}

theorem Shows.finish_eq (shows : use.Shows path overrides save) :
    use.finish = showSettings use.world (overrides.apply (use.load path)) path save := by
  obtain ⟨arguments, understood, action, rfl, rfl⟩ := shows
  simp only [finish, perform, understood, action, load]

end Use

/-- Nothing happens to what is at the path from one use to the next. -/
def Undisturbed (path : String) : Machine → List Use → Prop
  | _, [] => True
  | machine, use :: uses =>
    use.world.machine.files.stat path = machine.files.stat path ∧
      Undisturbed path use.finish.machine uses

/-- Settings that stand at the path are printed by every use whose values are theirs already. -/
theorem outputs_settled {settings : Settings} {path : String} {machine : Machine} {uses : List Use}
    (stands : settings.StandAt machine.files path) (undisturbed : Undisturbed path machine uses)
    (shows : ∀ use ∈ uses, ∃ overrides save, use.Shows path overrides save ∧
      overrides.apply settings = settings) :
    ∀ use ∈ uses, use.finish.output = settings.text ++ "\n" := by
  induction uses generalizing machine with
  | nil => simp
  | cons use uses ih =>
    obtain ⟨same, undisturbed⟩ := undisturbed
    obtain ⟨overrides, save, shown, settled⟩ := shows use (by simp)
    have here : settings.StandAt use.world.machine.files path := by
      rwa [Settings.StandAt, same]
    have finished : use.finish = showSettings use.world settings path save := by
      rw [shown.finish_eq, Use.load, here.load, settled]
    have first : use.finish.output = settings.text ++ "\n" := by
      rw [finished, showSettings_output]
    have after : settings.StandAt use.finish.machine.files path := by
      rw [finished]
      exact showSettings_stands here save
    exact List.forall_mem_cons.mpr
      ⟨first, ih after undisturbed fun later member => shows later (by simp [member])⟩

/-- What is printed decodes to the settings of the file with exactly the given values replaced.
Without being asked to keep them, the command touches nothing. Asked to, it does where there is
room for the file; and once it has kept them, each later one prints the same, with the same values
or with none. -/
theorem settings_command {use : Use} {path : String} {overrides : Overrides} {save : Bool}
    (shows : use.Shows path overrides save) :
    (∃ shown, Settings.ofText use.finish.output = .ok shown ∧
        shown.protocol = overrides.protocol.getD (use.load path).protocol ∧
        shown.interpreter = overrides.interpreter.or (use.load path).interpreter ∧
        shown.timeoutSeconds = overrides.timeout.or (use.load path).timeoutSeconds ∧
        shown.interpreterArgs = (use.load path).interpreterArgs ∧
        shown.toolchain = (use.load path).toolchain) ∧
      (save = false → use.finish.machine = use.world.machine) ∧
      (save = true → use.world.machine.files.HasRoom path →
        Settings.Ready use.world.machine.files path →
          use.finish.code = 0 ∧ use.finish.machine.files.HasFile path) ∧
      (save = true → use.finish.code = 0 → use.finish.machine.files.HasFile path →
        ∀ later : List Use, Undisturbed path use.finish.machine later →
          (∀ next ∈ later, ∃ again, next.Shows path {} again ∨ next.Shows path overrides again) →
          ∀ next ∈ later, next.finish.output = use.finish.output) := by
  rw [shows.finish_eq]
  refine ⟨⟨overrides.apply (use.load path), ?_, rfl, rfl, rfl, rfl, rfl⟩, ?_, ?_, ?_⟩
  · have whole (text : String) : text ++ "\n" = .ofList (text.toList ++ ['\n']) := by
      rw [String.ofList_append, String.ofList_toList]
    rw [showSettings_output, whole]
    exact Settings.ofText_blanks _ (by simp [Json.isSpace])
  · rintro rfl
    rfl
  · rintro rfl room ready
    obtain ⟨files, saved, stands⟩ :=
      (overrides.apply (use.load path)).save_room ready room
    rw [showSettings_saved saved]
    exact ⟨rfl, stands.hasFile⟩
  · rintro rfl done file later undisturbed repeats
    rw [showSettings_output]
    refine outputs_settled (showSettings_kept done file) undisturbed fun next member => ?_
    obtain ⟨again, plain | same⟩ := repeats next member
    · exact ⟨{}, again, plain, Overrides.apply_none _⟩
    · exact ⟨overrides, again, same, overrides.apply_apply _⟩

theorem settings_command_kept :
    ∃ first plain same : Use,
      first.words = ["--settings", "d/s", "settings", "--save", "--timeout", "0"] ∧
      plain.words = ["--settings", "d/s", "settings"] ∧
      same.words = ["settings", "--settings=d/s", "--timeout=0", "--save"] ∧
      first.finish.code = 0 ∧ plain.world.machine = first.finish.machine ∧
      same.world.machine = plain.finish.machine ∧
      plain.finish.output = first.finish.output ∧ same.finish.output = first.finish.output := by
  let world (machine : Machine) : World := ⟨machine, ⟨[], "/root"⟩, []⟩
  let first : Use :=
    ⟨world { files := ⟨[], []⟩, environment := [] },
      ["--settings", "d/s", "settings", "--save", "--timeout", "0"]⟩
  let plain : Use := ⟨world first.finish.machine, ["--settings", "d/s", "settings"]⟩
  let same : Use :=
    ⟨world plain.finish.machine, ["settings", "--settings=d/s", "--timeout=0", "--save"]⟩
  have shows : first.Shows "d/s" { timeout := some 0 } true :=
    ⟨⟨some "d/s", { timeout := some 0 }, some (.settings true)⟩, by decide +kernel, rfl, rfl, rfl⟩
  have plainly : plain.Shows "d/s" {} false :=
    ⟨⟨some "d/s", {}, some (.settings false)⟩, by decide +kernel, rfl, rfl, rfl⟩
  have again : same.Shows "d/s" { timeout := some 0 } true :=
    ⟨⟨some "d/s", { timeout := some 0 }, some (.settings true)⟩, by decide +kernel, rfl, rfl, rfl⟩
  obtain ⟨files, saved, file⟩ :=
    Settings.save_fresh (({ timeout := some 0 } : Overrides).apply (first.load "d/s"))
  have finished := shows.finish_eq.trans (showSettings_saved saved)
  have done : first.finish.code = 0 := by
    rw [finished]
    rfl
  have settled := (settings_command shows).2.2.2 rfl done (by rwa [finished]) [plain, same]
    ⟨rfl, rfl, trivial⟩ (List.forall_mem_cons.mpr
      ⟨⟨false, .inl plainly⟩, List.forall_mem_singleton.mpr ⟨true, .inr again⟩⟩)
  exact ⟨first, plain, same, rfl, rfl, rfl, done, rfl, rfl, settled plain (by simp),
    settled same (by simp)⟩

end CommandLine

end NotebookKernel
