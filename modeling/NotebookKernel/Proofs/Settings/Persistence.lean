import Mathlib
import NotebookKernel.Proofs.Host.Files
import NotebookKernel.Proofs.Json.Pretty
import NotebookKernel.Proofs.Settings.Fields
import NotebookKernel.Proofs.Text.Utf8

/-!
Settings that were saved are loaded again, whatever they are, and saving them once more writes
the same octets.
-/

namespace NotebookKernel.Settings

open Json (Decoder maxNesting prettyAt nullable stringAs listOf stringDecoder choice field)
open Text (Bytes)

section Members

variable (rooms depth : Nat)

theorem protocol_read (protocol : Protocol) :
    (choice protocols).Reads rooms (prettyAt depth (.str protocol.name)) protocol :=
  Decoder.choice_reads (protocols_known.mpr rfl)

theorem toolchain_read (toolchain : Toolchain) :
    (choice toolchains).Reads rooms (prettyAt depth (.str toolchain.name)) toolchain :=
  Decoder.choice_reads (toolchains_known.mpr rfl)

theorem interpreter_read (interpreter : Option String) :
    (nullable (stringAs "path string")).Reads rooms (prettyAt depth (orNull .str interpreter))
      interpreter := by
  cases interpreter with
  | none => exact Decoder.nullable_null _
  | some path => exact (Decoder.stringAs_reads _ path).nullable (by simp [prettyAt, Json.quote])

theorem arguments_read (arguments : List String) :
    (listOf stringDecoder).Reads (rooms + 1) (prettyAt depth (.arr (arguments.map .str)))
      arguments := by
  refine Decoder.listOf_reads ?_
  rw [List.forall₂_map_left_iff, List.forall₂_same]
  exact fun argument _ => Decoder.stringAs_reads _ argument

theorem timeout_read (timeout : Option UInt64) :
    (nullable seconds).Reads rooms (prettyAt depth (orNull (fun n => .int n.toNat) timeout))
      timeout := by
  cases timeout with
  | none => exact Decoder.nullable_null _
  | some n =>
    have fits : n.toNat ≤ Json.greatestUnsigned := Nat.le_sub_one_of_lt n.toNat_lt
    have read : seconds.Reads rooms (prettyAt depth (.int n.toNat)) (.ofNat n.toNat) :=
      (Decoder.unsigned_reads n.toNat_lt (Nat.le_refl 64)).map UInt64.ofNat
    rw [UInt64.ofNat_toNat] at read
    exact read.nullable (Decoder.int_head fits)

end Members

theorem reads (settings : Settings) (rooms : Nat) :
    record.decoder.Reads (rooms + 2) (prettyAt 0 settings.toJson) settings := by
  refine Json.Record.Fills.reads
    (.member rfl ?_ (protocol_read _ _ settings.protocol) <|
      .member rfl ?_ (interpreter_read _ _ settings.interpreter) <|
      .member rfl ?_ (arguments_read _ _ settings.interpreterArgs) <|
      .member rfl ?_ (toolchain_read _ _ settings.toolchain) <|
      .member rfl ?_ (timeout_read _ _ settings.timeoutSeconds) <| .done _) ?_ <;> rfl

theorem ofText_blanks (settings : Settings) {blanks : List Char}
    (blank : ∀ c ∈ blanks, Json.isSpace c = true) :
    ofText (.ofList (settings.text.toList ++ blanks)) = .ok settings := by
  rw [text, Json.pretty, String.toList_ofList]
  exact (settings.reads 125).ofText blank

theorem ofText_text (settings : Settings) : ofText settings.text = .ok settings := by
  have nothing : ∀ c ∈ ([] : List Char), Json.isSpace c = true := by simp
  simpa using settings.ofText_blanks nothing

/-- The settings as the octets of their file. -/
def octets (settings : Settings) : Bytes := Text.Utf8.encode settings.text.toList

variable {settings : Settings} {files later : FileTree} {path : String}

/-- There is a file at the path with these settings in it. -/
def StandAt (settings : Settings) (files : FileTree) (path : String) : Prop :=
  ∃ executable, files.stat path = .ok (.file settings.octets executable)

theorem StandAt.read (stands : settings.StandAt files path) :
    files.read path = .ok settings.octets := by
  obtain ⟨executable, there⟩ := stands
  exact FileTree.read_file there

theorem StandAt.load (stands : settings.StandAt files path) :
    Settings.load files path = settings := by
  have text : files.readText path = .ok settings.text := by
    simp only [FileTree.readText, stands.read, octets, Text.Utf8.decode_encode,
      String.ofList_toList]
  simp only [Settings.load, text, ofContent, ofText_text]

theorem StandAt.hasFile (stands : settings.StandAt files path) : files.HasFile path := by
  obtain ⟨executable, there⟩ := stands
  exact ⟨settings.octets, executable, there⟩

/-- Nothing is missing on the way to the file. -/
def Ready (files : FileTree) (path : String) : Prop :=
  ∀ parent, Path.parent? path = some parent → parent = "" ∨ files.isDirectory parent = true

theorem Ready.keeps (ready : Ready files path) (kept : files.Keeps later) : Ready later path :=
  fun parent above => (ready parent above).imp_right kept.isDirectory

theorem mapError_eq_ok {ε ε' α : Type} {outcome : Except ε α} {wrap : ε → ε'} {a : α} :
    outcome.mapError wrap = .ok a ↔ outcome = .ok a := by
  cases outcome <;> simp [Except.mapError]

/-- Saving makes the directories that are missing, then it writes. -/
theorem save_ok (saved : settings.save files path = .ok later) :
    ∃ prepared, files.Extends prepared ∧ Ready prepared path ∧
      prepared.write path settings.octets = .ok later := by
  unfold save at saved
  cases above : Path.parent? path with
  | none =>
    simp only [above, mapError_eq_ok] at saved
    exact ⟨files, .refl files, fun parent found => by simp [above] at found, saved⟩
  | some parent =>
    simp only [above] at saved
    split at saved
    · cases saved
    · rename_i prepared made
      have made := FileTree.ensureDirectory_ok (mapError_eq_ok.mp made)
      refine ⟨prepared, made.1, fun other found => ?_, mapError_eq_ok.mp saved⟩
      rw [above] at found
      cases found
      exact made.2

theorem save_prepared {prepared : FileTree} {parent : String}
    (above : Path.parent? path = some parent) (made : files.ensureDirectory parent = .ok prepared)
    (written : prepared.write path settings.octets = .ok later) :
    settings.save files path = .ok later := by
  simp only [save, above, made, Except.mapError]
  exact mapError_eq_ok.mpr written

theorem save_ready (ready : Ready files path)
    (written : files.write path settings.octets = .ok later) :
    settings.save files path = .ok later := by
  cases above : Path.parent? path with
  | none =>
    simp only [save, above]
    exact mapError_eq_ok.mpr written
  | some parent =>
    exact save_prepared above (FileTree.ensureDirectory_there (ready parent above)) written

/-- What was saved stands at the path, and so do the directories that lead there. -/
theorem saved_there (saved : settings.save files path = .ok later) (file : later.HasFile path) :
    settings.StandAt later path ∧ Ready later path := by
  obtain ⟨prepared, -, ready, written⟩ := save_ok saved
  obtain ⟨executable, there, kept⟩ := FileTree.write_ok written file
  exact ⟨⟨executable, there⟩, ready.keeps kept⟩

/-- Where there is room for the file, saving works. -/
theorem save_room (settings : Settings) (ready : Ready files path) (room : files.HasRoom path) :
    ∃ later, settings.save files path = .ok later ∧ settings.StandAt later path := by
  obtain ⟨later, executable, written, there, -⟩ := FileTree.write_room room settings.octets
  exact ⟨later, save_ready ready written, executable, there⟩

/-- A file that is there is written over. -/
theorem saved_over (saved : settings.save files path = .ok later) (file : files.HasFile path) :
    settings.StandAt later path := by
  obtain ⟨prepared, extended, -, written⟩ := save_ok saved
  obtain ⟨last, executable, same, there, -⟩ :=
    FileTree.write_room (file.extends extended).room settings.octets
  rw [written] at same
  cases same
  exact ⟨executable, there⟩

/-- Settings can be saved where there is room for their file. Wherever they were saved to a file,
they are loaded again, and saving them once more writes the same; so whatever is in a file, what
is loaded from it is what is loaded after it was saved. -/
theorem save_then_load (settings : Settings) (path : String) :
    (∀ files, files.HasRoom path → Ready files path →
      ∃ later, settings.save files path = .ok later ∧ later.HasFile path) ∧
    (∀ files later, settings.save files path = .ok later → later.HasFile path →
      load later path = settings ∧
        ∃ bytes again, later.read path = .ok bytes ∧
          (load later path).save later path = .ok again ∧ again.read path = .ok bytes) ∧
    ∀ files, files.HasRoom path → Ready files path →
      ∃ later, (load files path).save files path = .ok later ∧
        load later path = load files path := by
  refine ⟨fun files room ready => ?_, fun files later saved file => ?_, fun files room ready => ?_⟩
  · obtain ⟨later, saved, stands⟩ := settings.save_room ready room
    exact ⟨later, saved, stands.hasFile⟩
  · obtain ⟨stands, ready⟩ := saved_there saved file
    obtain ⟨again, resaved, same⟩ := settings.save_room ready file.room
    exact ⟨stands.load, settings.octets, again, stands.read, by rwa [stands.load], same.read⟩
  · obtain ⟨later, saved, stands⟩ := (load files path).save_room ready room
    exact ⟨later, saved, stands.load⟩

theorem room_in_directory :
    FileTree.HasRoom ⟨[(["d"], .directory)], []⟩ "d/s" ∧
      Ready ⟨[(["d"], .directory)], []⟩ "d/s" := by
  have first : Path.names "d" = ["d"] := by cbv
  have both : Path.names "d/s" = ["d", "s"] := by cbv
  have outer : FileTree.resolve ⟨[(["d"], .directory)], []⟩ "d" = .ok ["d"] := by
    simp only [FileTree.resolve, first]
    decide +kernel
  have inner : FileTree.resolve ⟨[(["d"], .directory)], []⟩ "d/s" = .ok ["d", "s"] := by
    simp only [FileTree.resolve, both]
    decide +kernel
  refine ⟨⟨["d", "s"], inner, by decide +kernel, .inr (by decide +kernel)⟩, ?_⟩
  intro parent above
  rw [show Path.parent? "d/s" = some "d" by decide +kernel] at above
  cases above
  exact .inr (FileTree.isDirectory_iff.mpr ⟨["d"], outer, by decide +kernel⟩)

/-- In an empty tree the directory of the file is made first. -/
theorem save_fresh (settings : Settings) :
    ∃ later, settings.save ⟨[], []⟩ "d/s" = .ok later ∧ later.HasFile "d/s" := by
  have first : Path.names "d" = ["d"] := by cbv
  have outer : FileTree.resolve ⟨[], []⟩ "d" = .ok ["d"] := by
    simp only [FileTree.resolve, first]
    decide +kernel
  have made : FileTree.ensureDirectory ⟨[], []⟩ "d" = .ok ⟨[(["d"], .directory)], []⟩ := by
    simp only [FileTree.ensureDirectory, FileTree.makeDirectories, FileTree.makeDirectory, outer]
    rfl
  obtain ⟨later, executable, written, there, -⟩ :=
    FileTree.write_room room_in_directory.1 settings.octets
  exact ⟨later, save_prepared (by decide +kernel) made written, settings.octets, executable, there⟩

/-- Into an empty tree, into a directory, and over a file with a single brace in it. -/
theorem save_then_load_fresh :
    let settings : Settings := ⟨.jsonLine, some "/opt/é", ["--quiet", "\"\n"], .nightly, some 0⟩
    let directory : FileTree := ⟨[(["d"], .directory)], []⟩
    (∃ later, settings.save ⟨[], []⟩ "d/s" = .ok later ∧ later.HasFile "d/s" ∧
        load later "d/s" = settings) ∧
      (∃ later, settings.save directory "d/s" = .ok later ∧ later.HasFile "d/s") ∧
      ∃ spoilt later, directory.write "d/s" [123] = .ok spoilt ∧
        (load spoilt "d/s").save spoilt "d/s" = .ok later ∧
        load later "d/s" = load spoilt "d/s" := by
  intro settings directory
  obtain ⟨room, ready⟩ := room_in_directory
  obtain ⟨works, keeps, again⟩ := save_then_load settings "d/s"
  refine ⟨?_, works directory room ready, ?_⟩
  · obtain ⟨later, saved, file⟩ := settings.save_fresh
    exact ⟨later, saved, file, (keeps _ later saved file).1⟩
  · obtain ⟨spoilt, executable, written, there, kept⟩ := FileTree.write_room room [123]
    have file : spoilt.HasFile "d/s" := ⟨[123], executable, there⟩
    obtain ⟨later, saved, same⟩ := again spoilt file.room (ready.keeps kept)
    exact ⟨spoilt, later, written, saved, same⟩

end NotebookKernel.Settings
