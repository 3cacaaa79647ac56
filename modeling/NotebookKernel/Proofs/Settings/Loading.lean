import NotebookKernel.Proofs.Json.RecordText
import NotebookKernel.Proofs.Settings.Persistence

/-!
Settings loaded from any text. Each known member gives its field, in whatever order and among
whatever others; a single member that cannot give its field spoils all of them.
-/

namespace NotebookKernel.Settings

open Json (IsText Member Spells braced isSpace)

/-- What the keys are read as, in the order of the text. -/
def keys (members : List Member) : List String := members.filterMap Member.name?

/-- Every key can be read, that is its codes make characters, and each field is given at most once,
by a value that it accepts. -/
structure Acceptable (members : List Member) : Prop where
  readable : ∀ m ∈ members, m.name?.isSome = true
  once : ∀ name ∈ names, (keys members).count name ≤ 1
  accepted : ∀ m ∈ members, ∀ name ∈ names, m.name? = some name →
    ∃ settings, Gives settings name m.content

section Run

variable {draft next last : Draft} {m : Member} {members : List Member} {name : String}

theorem keys_cons (named : m.name? = some name) : keys (m :: members) = name :: keys members :=
  List.filterMap_cons_some named

theorem mem_keys : name ∈ keys members ↔ ∃ m ∈ members, m.name? = some name :=
  List.mem_filterMap

theorem puts_named (puts : record.Puts inside draft m next) : ∃ name, m.name? = some name := by
  cases puts with
  | unknown named => exact ⟨_, named⟩
  | known named => exact ⟨_, named⟩

/-- A member gives the field of its name and no other. -/
theorem puts_given (puts : record.Puts inside draft m next) (known : name ∈ names) :
    m.name? = some name ∧ draft.given name = none ∧
        (∃ value, Means name m.content value ∧ next.given name = some value) ∨
      m.name? ≠ some name ∧ next.given name = draft.given name := by
  cases puts with
  | @unknown other named unknown =>
    refine .inr ⟨fun same => ?_, rfl⟩
    cases named.symm.trans same
    rw [← field?_isSome, unknown] at known
    cases known
  | @known other f later named field unset taken =>
    obtain ⟨value, means, given⟩ := (keeps field).taken _ _ _ m.value taken
    by_cases same : name = other
    · subst same
      rw [(keeps field).isSet, Option.isSome_eq_false_iff, Option.isNone_iff_eq_none] at unset
      exact .inl ⟨named, unset, value, means, by rw [given, if_pos rfl]⟩
    · refine .inr ⟨fun there => same ?_, by rw [given, if_neg same]⟩
      exact (Option.some.inj (named.symm.trans there)).symm

/-- Over all members a field is left as it was, or given once. -/
theorem putsAll_given (puts : record.PutsAll inside draft members last) (known : name ∈ names) :
    name ∉ keys members ∧ last.given name = draft.given name ∨
      draft.given name = none ∧ (keys members).count name = 1 ∧
        ∃ value, last.given name = some value ∧
          ∀ m ∈ members, m.name? = some name → Means name m.content value := by
  induction puts with
  | done draft => exact .inl ⟨List.not_mem_nil, rfl⟩
  | @member draft next last m members puts others ih =>
    obtain ⟨first, read⟩ := puts_named puts
    rw [keys_cons read]
    obtain ⟨named, fresh, value, means, given⟩ | ⟨other, same⟩ := puts_given puts known
    · -- No later member has this name: its field would have been set.
      obtain rfl : first = name := Option.some.inj (read.symm.trans named)
      obtain ⟨absent, kept⟩ | ⟨unset, -⟩ := ih
      · refine .inr ⟨fresh, ?_, value, kept.trans given, ?_⟩
        · rw [List.count_cons_self, List.count_eq_zero_of_not_mem absent]
        · intro m' there named'
          rcases List.mem_cons.mp there with rfl | later
          · exact means
          · exact absurd (mem_keys.mpr ⟨m', later, named'⟩) absent
      · cases given.symm.trans unset
    · have apart : name ≠ first := fun eq => other (eq ▸ read)
      obtain ⟨absent, kept⟩ | ⟨unset, once, value, given, means⟩ := ih
      · exact .inl ⟨List.not_mem_cons_of_ne_of_not_mem apart absent, kept.trans same⟩
      · refine .inr ⟨same.symm.trans unset, ?_, value, given, ?_⟩
        · rwa [List.count_cons_of_ne apart.symm]
        · intro m' there named'
          rcases List.mem_cons.mp there with rfl | later
          · exact absurd named' other
          · exact means m' later named'

theorem putsAll_readable (puts : record.PutsAll inside draft members last) :
    ∀ m ∈ members, m.name?.isSome = true := by
  induction puts with
  | done => exact List.forall_mem_nil _
  | member puts _ ih =>
    obtain ⟨first, read⟩ := puts_named puts
    exact List.forall_mem_cons.mpr ⟨by rw [read]; rfl, ih⟩

/-- Fields that are accepted, and given once altogether, can all be filled. -/
theorem exists_putsAll (readable : ∀ m ∈ members, m.name?.isSome = true)
    (once : ∀ name ∈ names, (keys members).count name ≤ 1)
    (accepted : ∀ m ∈ members, ∀ name ∈ names, m.name? = some name →
      ∃ settings, Gives settings name m.content)
    (fresh : ∀ name ∈ names, name ∈ keys members → draft.given name = none) :
    ∃ last, record.PutsAll inside draft members last := by
  induction members generalizing draft with
  | nil => exact ⟨draft, .done draft⟩
  | cons m members ih =>
    obtain ⟨readable_m, readable⟩ := List.forall_mem_cons.mp readable
    obtain ⟨accepted_m, accepted⟩ := List.forall_mem_cons.mp accepted
    obtain ⟨first, named⟩ := Option.isSome_iff_exists.mp readable_m
    rw [keys_cons named] at once fresh
    have once_later : ∀ name ∈ names, (keys members).count name ≤ 1 := fun name known =>
      (List.count_le_count_cons).trans (once name known)
    have ih := fun draft fresh => @ih draft readable once_later accepted fresh
    cases field : record.field? first with
    | none =>
      obtain ⟨last, puts⟩ := ih draft fun name known later => fresh name known (by simp [later])
      exact ⟨last, .member (.unknown named field) puts⟩
    | some f =>
      have known : first ∈ names := field?_isSome.mp (by rw [field]; rfl)
      have unset : f.isSet draft = false := by
        rw [(keeps field).isSet, fresh first known (by simp)]
        rfl
      obtain ⟨settings, gives⟩ := accepted_m first known named
      obtain ⟨next, taken⟩ := (keeps field).takes draft settings _ m.value gives
      obtain ⟨value, -, given⟩ := (keeps field).taken _ _ _ m.value taken
      -- The field that is filled now does not come again; all others are as free as before.
      obtain ⟨last, puts⟩ := ih next fun name known' later => by
        have apart : name ≠ first := by
          rintro rfl
          have twice := once name known'
          rw [List.count_cons_self] at twice
          have again : 0 < (keys members).count name := List.count_pos_iff.mpr later
          omega
        rw [given, if_neg apart]
        exact fresh name known' (by simp [later])
      exact ⟨last, .member (.known named field unset taken) puts⟩

/-- The fields that are given by the members, and the others as by default. -/
theorem putsAll_settings (puts : record.PutsAll inside {} members last) (known : name ∈ names) :
    (∀ m ∈ members, m.name? = some name → Gives last.settings name m.content) ∧
      (name ∉ keys members →
        last.settings.toJson.get? name = ({} : Settings).toJson.get? name) := by
  have written := settings_get? last known
  obtain ⟨absent, kept⟩ | ⟨-, once, value, given, means⟩ := putsAll_given puts known
  · refine ⟨fun m there named => absurd (mem_keys.mpr ⟨m, there, named⟩) absent, fun _ => ?_⟩
    rw [written, kept, given_empty]
    rfl
  · refine ⟨fun m there named => ⟨value, means m there named, ?_⟩, fun absent => ?_⟩
    · rw [written, given]
      rfl
    · rw [List.count_eq_zero_of_not_mem absent] at once
      cases once

theorem putsAll_iff :
    (∃ last, record.PutsAll inside {} members last) ↔ Acceptable members := by
  constructor
  · rintro ⟨last, puts⟩
    refine ⟨putsAll_readable puts, fun name known => ?_, fun m there name known named =>
      ⟨last.settings, (putsAll_settings puts known).1 m there named⟩⟩
    obtain ⟨absent, -⟩ | ⟨-, once, -⟩ := putsAll_given puts known
    · rw [List.count_eq_zero_of_not_mem absent]
      exact Nat.zero_le 1
    · exact once.le
  · intro acceptable
    exact exists_putsAll acceptable.readable acceptable.once acceptable.accepted
      fun name _ _ => given_empty name

end Run

section Load

variable {files : FileTree} {path text : String}

theorem ofText_braced {lead gap trail : List Char} {members : List Member}
    (blank : ∀ c ∈ lead ++ (gap ++ trail), isSpace c = true)
    (written : text.toList = lead ++ (braced gap members ++ trail)) {settings : Settings} :
    ofText text = .ok settings ↔
      ∃ last, record.PutsAll inside {} members last ∧ last.settings = settings := by
  simp only [List.forall_mem_append] at blank
  obtain ⟨blank_lead, blank_gap, blank_trail⟩ := blank
  refine Json.Decoder.ofText_ok.trans ?_
  rw [written]
  constructor
  · rintro ⟨rest, read, -⟩
    obtain ⟨-, last, puts, finished⟩ :=
      (Json.Record.fromText_braced regular_fields blank_lead blank_gap).mp read
    exact ⟨last, puts, Except.ok.inj finished⟩
  · rintro ⟨last, puts, rfl⟩
    refine ⟨trail, ?_, blank_trail⟩
    exact (Json.Record.fromText_braced regular_fields blank_lead blank_gap).mpr
      ⟨rfl, last, puts, rfl⟩

theorem load_ok {settings : Settings} (there : files.readText path = .ok text)
    (read : ofText text = .ok settings) : load files path = settings := by
  simp only [load, there, ofContent, read]

theorem load_error (there : files.readText path = .ok text)
    (unread : ∀ settings, ofText text ≠ .ok settings) : load files path = {} := by
  simp only [load, there, ofContent]
  cases read : ofText text with
  | error e => rfl
  | ok settings => exact absurd read (unread settings)

/-- The text of an object is one of members with blanks around them. From it all fields are loaded
that it gives, and the others by default; or, if one of its members is at fault, none. From a text
that is no JSON at all none are. -/
theorem load_all_or_none (there : files.readText path = .ok text) :
    (IsText text.toList ∧ (Json.skip text.toList).head? = some '{' ↔
      ∃ lead gap trail members, (∀ c ∈ lead ++ (gap ++ trail), isSpace c = true) ∧
        text.toList = lead ++ (braced gap members ++ trail)) ∧
    (∀ lead gap trail members, (∀ c ∈ lead ++ (gap ++ trail), isSpace c = true) →
      text.toList = lead ++ (braced gap members ++ trail) →
      (Acceptable members → ∀ name ∈ names,
        (∀ m ∈ members, m.name? = some name → Gives (load files path) name m.content) ∧
          (name ∉ keys members →
            (load files path).toJson.get? name = ({} : Settings).toJson.get? name)) ∧
        (¬ Acceptable members → load files path = {})) ∧
    (¬ IsText text.toList → load files path = {}) := by
  refine ⟨Json.isText_object,
    fun lead gap trail members blank written => ⟨?_, ?_⟩, ?_⟩
  · intro acceptable name known
    obtain ⟨last, puts⟩ := putsAll_iff.mpr acceptable
    rw [load_ok there ((ofText_braced blank written).mpr ⟨last, puts, rfl⟩)]
    exact putsAll_settings puts known
  · intro fault
    refine load_error there fun settings read => fault ?_
    obtain ⟨last, puts, -⟩ := (ofText_braced blank written).mp read
    exact putsAll_iff.mp ⟨last, puts⟩
  · intro other
    exact load_error there fun settings read =>
      other (Json.Record.ofText_isText regular_fields read)

/-- A number that is too large to be read. -/
theorem large_spelled : Spells .value ['1', 'e', '9', '9', '9'] := by
  have digits : Json.IsDigits ['9', '9', '9'] := ⟨List.cons_ne_nil _ _, by simp [Json.isDigit]⟩
  exact .number ⟨['1'], [], _, .digits (by decide) (List.forall_mem_singleton.mpr rfl), .none,
    .letter (.inl rfl) (.inl rfl) digits, rfl⟩

theorem x_named : Json.string ['x', '"'] = .ok ("x", []) := by
  simp [Json.string, Json.stringBody, Except.map]

/-- The text ` "x":1e999`. -/
def unknownMember : Member where
  before := [' ']
  key := ['x', '"']
  gap := []
  content := ['1', 'e', '9', '9', '9']
  after := []
  blank := List.forall_mem_singleton.mpr rfl
  string := Json.isString_of_string x_named
  value := large_spelled

theorem protocol_named :
    Json.string ['p', 'r', 'o', 't', 'o', 'c', 'o', 'l', '"'] = .ok ("protocol", []) := by
  simp [Json.string, Json.stringBody, Except.map]

theorem jsonLine_named :
    Json.string ['j', 's', 'o', 'n', '-', 'l', 'i', 'n', 'e', '"'] = .ok ("json-line", []) := by
  simp [Json.string, Json.stringBody, Except.map]

/-- The text ` "protocol":"json-line"`. -/
def protocolMember : Member where
  before := [' ']
  key := ['p', 'r', 'o', 't', 'o', 'c', 'o', 'l', '"']
  gap := []
  content := ['"', 'j', 's', 'o', 'n', '-', 'l', 'i', 'n', 'e', '"']
  after := []
  blank := List.forall_mem_singleton.mpr rfl
  string := Json.isString_of_string protocol_named
  value := .text (Json.isString_of_string jsonLine_named)

/-- A known member behind an unknown one, and the same one given again. -/
theorem load_all_or_none_protocol :
    (∃ files : FileTree,
      files.readText "d/s" = .ok "\x7b \"x\":1e999, \"protocol\":\"json-line\"\x7d" ∧
        Gives (load files "d/s") "protocol" protocolMember.content ∧
        (load files "d/s").toJson.get? "interpreter" = some .null) ∧
    ∃ files : FileTree,
      files.readText "d/s" =
        .ok "\x7b \"protocol\":\"json-line\", \"protocol\":\"json-line\"\x7d" ∧
        load files "d/s" = {} := by
  have named : protocolMember.name? = some "protocol" := Member.name?_ok.mpr protocol_named
  have unknown : unknownMember.name? = some "x" := Member.name?_ok.mpr x_named
  have text (text : String) : ∃ files : FileTree, files.readText "d/s" = .ok text := by
    obtain ⟨files, executable, -, there, -⟩ :=
      FileTree.write_room room_in_directory.1 (Text.Utf8.encode text.toList)
    refine ⟨files, ?_⟩
    simp only [FileTree.readText, FileTree.read_file there, Text.Utf8.decode_encode,
      String.ofList_toList]
  have nothing : ∀ c ∈ ([] : List Char) ++ ([] ++ []), isSpace c = true := by simp
  refine ⟨?_, ?_⟩
  · obtain ⟨files, there⟩ := text "\x7b \"x\":1e999, \"protocol\":\"json-line\"\x7d"
    obtain ⟨-, objects, -⟩ := load_all_or_none there
    have read : keys [unknownMember, protocolMember] = ["x", "protocol"] := by
      rw [keys_cons unknown, keys_cons named]
      rfl
    have acceptable : Acceptable [unknownMember, protocolMember] := by
      refine ⟨?_, ?_, ?_⟩
      · simp [unknown, named]
      · rw [read]
        decide
      · simp only [List.forall_mem_cons, unknown, named, Option.some.injEq]
        refine ⟨?_, ?_, List.forall_mem_nil _⟩
        · rintro _ known rfl
          exact absurd known (by decide)
        · rintro _ known rfl
          have plain : Json.Names "json-line" protocolMember.content :=
            Json.Names.plain (List.forall_mem_nil _) jsonLine_named
          exact ⟨{ protocol := .jsonLine }, .str "json-line", .named (.inl rfl) plain, rfl⟩
    have fields := (objects [] [] [] [unknownMember, protocolMember] nothing rfl).1 acceptable
    refine ⟨files, there, (fields "protocol" (by decide)).1 _ (by simp) named, ?_⟩
    exact (fields "interpreter" (by decide)).2 (by rw [read]; decide)
  · obtain ⟨files, there⟩ :=
      text "\x7b \"protocol\":\"json-line\", \"protocol\":\"json-line\"\x7d"
    obtain ⟨-, objects, -⟩ := load_all_or_none there
    refine ⟨files, there, (objects [] [] [] [protocolMember, protocolMember] nothing rfl).2 ?_⟩
    intro acceptable
    have once := acceptable.once "protocol" (by decide)
    rw [keys_cons named, keys_cons named] at once
    exact absurd once (by decide)

end Load

end NotebookKernel.Settings
