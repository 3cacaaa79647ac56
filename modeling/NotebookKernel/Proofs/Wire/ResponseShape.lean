import Mathlib.Logic.Relation
import NotebookKernel.Proofs.Json.Record
import NotebookKernel.Proofs.Json.Written
import NotebookKernel.Wire.Response

/-!
Which JSON values are responses, and what of the text of a response line counts: the last
entry for `Eval`, and in it the media type and the value. Other entries, the order of
different keys and blanks around the line do not matter.
-/

namespace NotebookKernel

open Json

namespace EvalOutput

/-- An object with both entries, or their two values in a list. -/
inductive Shows : Json → EvalOutput → Prop
  | object {members : List (String × Json)} {output : EvalOutput}
      (mimeType : ("mime_type", .str output.mimeType) ∈ members)
      (value : ("value", .str output.value) ∈ members) : Shows (.obj members) output
  | list (output : EvalOutput) : Shows (.arr [.str output.mimeType, .str output.value]) output

theorem field?_isSome {key : String} (known : (record.field? key).isSome = true) :
    key = "mime_type" ∨ key = "value" := by
  obtain ⟨f, found⟩ := Option.isSome_iff_exists.mp known
  have inside := List.mem_of_find?_eq_some found
  have named : f.name = key := by simpa using List.find?_some found
  simp only [record, List.mem_cons, List.not_mem_nil, or_false] at inside
  rcases inside with rfl | rfl
  · exact .inl named.symm
  · exact .inr named.symm

/-- What a draft holds for a field behind these members, if all went well. -/
def Takes (name : String) (members : List (String × Json)) (before after : Option String) : Prop :=
  match find? name members with
  | none => after = before
  | some value => ∃ s, value = .str s ∧ after = some s

theorem takes_first {name : String} {value : Json} {members : List (String × Json)}
    {before after : Option String} :
    Takes name ((name, value) :: members) before after ↔ ∃ s, value = .str s ∧ after = some s := by
  simp only [Takes, find?_cons, if_true]

theorem takes_other {name key : String} (other : key ≠ name) {value : Json}
    {members : List (String × Json)} {before after : Option String} :
    Takes name ((key, value) :: members) before after ↔ Takes name members before after := by
  simp only [Takes, find?_cons, if_neg other]

theorem takes_none {name : String} {members : List (String × Json)}
    (none : name ∉ members.map (·.1)) {before after : Option String} :
    Takes name members before after ↔ after = before := by
  have missing : find? name members = .none := by
    cases found : find? name members with
    | none => rfl
    | some value =>
      obtain ⟨member, first, -⟩ := Option.map_eq_some_iff.mp found
      have named : member.1 = name := by simpa using List.find?_some first
      exact absurd (List.mem_map.mpr ⟨member, List.mem_of_find?_eq_some first, named⟩) none
  simp only [Takes, missing]

theorem valueMembers_ok {draft last : Draft} {members : List (String × Json)}
    (distinct : (members.map (·.1)).Nodup)
    (mimeType : "mime_type" ∈ members.map (·.1) → draft.mimeType = none)
    (value : "value" ∈ members.map (·.1) → draft.value = none) :
    record.valueMembers draft members = .ok last ↔
      Takes "mime_type" members draft.mimeType last.mimeType ∧
        Takes "value" members draft.value last.value := by
  induction members generalizing draft with
  | nil =>
    obtain ⟨mimeType, value⟩ := draft
    obtain ⟨mimeType', value'⟩ := last
    simp [Record.valueMembers, Takes, find?, eq_comm]
  | cons member members ih =>
    obtain ⟨key, content⟩ := member
    obtain ⟨apart, others⟩ := List.nodup_cons.mp distinct
    by_cases isMime : key = "mime_type"
    · subst isMime
      have unset := mimeType (by simp)
      have step (s : String) :
          record.valueMembers { draft with mimeType := some s } members = .ok last ↔
            last.mimeType = some s ∧ Takes "value" members draft.value last.value :=
        (@ih { draft with mimeType := some s } others (fun inside => absurd inside apart)
          (fun inside => value (List.mem_cons_of_mem _ inside))).trans
            (and_congr_left' (takes_none apart))
      rw [Record.valueMembers_text rfl unset, takes_first, takes_other (by decide)]
      simp only [step, ← and_assoc, exists_and_right]
    · by_cases isValue : key = "value"
      · subst isValue
        have unset := value (by simp)
        have step (s : String) :
            record.valueMembers { draft with value := some s } members = .ok last ↔
              Takes "mime_type" members draft.mimeType last.mimeType ∧ last.value = some s :=
          (@ih { draft with value := some s } others (fun inside => mimeType (List.mem_cons_of_mem _ inside))
            (fun inside => absurd inside apart)).trans (and_congr_right' (takes_none apart))
        rw [Record.valueMembers_text rfl unset, takes_first, takes_other (by decide)]
        simp only [step, and_left_comm, exists_and_left]
      · have unknown : record.field? key = none := by
          cases known : record.field? key with
          | none => rfl
          | some f =>
            have one : key = "mime_type" ∨ key = "value" := field?_isSome (by simp [known])
            exact absurd one (by simp [isMime, isValue])
        rw [Record.valueMembers_unknown unknown, takes_other isMime, takes_other isValue]
        exact ih others (fun inside => mimeType (List.mem_cons_of_mem _ inside))
          (fun inside => value (List.mem_cons_of_mem _ inside))

theorem takes_text {name : String} {members : List (String × Json)}
    (distinct : (members.map (·.1)).Nodup) {s : String} :
    Takes name members none (some s) ↔ (name, .str s) ∈ members := by
  rw [← find?_eq_some distinct]
  cases found : find? name members with
  | none => simp [Takes, found]
  | some value => simp [Takes, found]

theorem finish_ok {draft : Draft} {output : EvalOutput} :
    record.finish draft = .ok output ↔ draft = ⟨some output.mimeType, some output.value⟩ := by
  obtain ⟨mimeType, value⟩ := draft
  obtain ⟨m, x⟩ := output
  cases mimeType <;> cases value <;> simp [record, need]

theorem fromValue_object {members : List (String × Json)} (distinct : (members.map (·.1)).Nodup)
    {output : EvalOutput} :
    record.fromValue (.obj members) = .ok output ↔
      ("mime_type", .str output.mimeType) ∈ members ∧ ("value", .str output.value) ∈ members := by
  have gathers (last : Draft) : record.valueMembers {} members = .ok last ↔
      Takes "mime_type" members none last.mimeType ∧ Takes "value" members none last.value :=
    valueMembers_ok distinct (fun _ => rfl) (fun _ => rfl)
  rw [Record.fromValue_members, ← takes_text distinct, ← takes_text distinct]
  simp only [finish_ok, exists_eq_right]
  exact gathers ⟨some output.mimeType, some output.value⟩

theorem fromValue_list {items : List Json} {output : EvalOutput} :
    record.fromValue (.arr items) = .ok output ↔
      items = [.str output.mimeType, .str output.value] := by
  simp only [Record.fromValue_items, finish_ok, exists_eq_right]
  have fields : record.fields =
      [field "mime_type" stringDecoder (·.mimeType) (fun d s => { d with mimeType := some s }) false,
        field "value" stringDecoder (·.value) (fun d s => { d with value := some s }) false] := rfl
  rw [fields]
  rcases items with _ | ⟨first, _ | ⟨second, others⟩⟩
  · simp [Record.valueItems, field]
  · rw [Record.valueItems_text]
    simp [Record.valueItems, field]
  · simp only [Record.valueItems_text]
    simp only [Record.valueItems, Except.ok.injEq, Prod.mk.injEq, Draft.mk.injEq,
      Option.some.injEq, List.cons.injEq]
    constructor
    · rintro ⟨_, rfl, _, rfl, ⟨rfl, rfl⟩, rfl⟩
      exact ⟨rfl, rfl, rfl⟩
    · rintro ⟨rfl, rfl, rfl⟩
      exact ⟨_, rfl, _, rfl, ⟨rfl, rfl⟩, rfl⟩

/-- What is taken for an output. -/
theorem fromValue_iff {payload : Json} (keyed : Keyed payload) {output : EvalOutput} :
    record.fromValue payload = .ok output ↔ Shows payload output := by
  constructor
  · intro taken
    cases keyed with
    | obj members distinct inside =>
      obtain ⟨mimeType, value⟩ := (fromValue_object distinct).mp taken
      exact .object mimeType value
    | arr items inside =>
      rw [fromValue_list.mp taken]
      exact .list output
    | _ => cases taken
  · intro shows
    cases shows with
    | object mimeType value =>
      cases keyed with
      | obj members distinct inside => exact (fromValue_object distinct).mpr ⟨mimeType, value⟩
    | list => exact fromValue_list.mpr rfl

end EvalOutput

namespace Response

open EvalOutput

/-- The value is an object with an entry for `Eval`. -/
inductive Carries : Json → Json → Prop
  | entry {members : List (String × Json)} {payload : Json}
      (inside : ("Eval", payload) ∈ members) : Carries (.obj members) payload

theorem get?_eval {value payload : Json} (keyed : Keyed value) :
    value.get? "Eval" = some payload ↔ Carries value payload := by
  constructor
  · intro found
    cases keyed with
    | obj members distinct inside => exact .entry ((find?_eq_some distinct).mp found)
    | _ => cases found
  · intro carries
    cases carries with
    | entry here =>
      cases keyed with
      | obj members distinct inside => exact (find?_eq_some distinct).mpr here

theorem Carries.keyed {value payload : Json} (carries : Carries value payload)
    (keyed : Keyed value) : Keyed payload := by
  cases carries with
  | entry here =>
    cases keyed with
    | obj members distinct inside => exact inside _ here

theorem ofJson_carries {value payload : Json} (keyed : Keyed value)
    (carries : Carries value payload) :
    ofJson value = (EvalOutput.record.fromValue payload).map .eval := by
  simp only [ofJson, (get?_eval keyed).mpr carries]

theorem ofJson_silent {value : Json} (keyed : Keyed value) :
    ofJson value = .ok .silent ↔ ∀ payload, ¬ Carries value payload := by
  constructor
  · intro silent payload carries
    rw [ofJson_carries keyed carries] at silent
    cases read : EvalOutput.record.fromValue payload <;> simp [read, Except.map] at silent
  · intro none
    have missing : value.get? "Eval" = .none :=
      Option.eq_none_iff_forall_ne_some.mpr fun payload found =>
        none payload ((get?_eval keyed).mp found)
    simp only [ofJson, missing]

theorem map_eval {taken : Except Mismatch EvalOutput} {output : EvalOutput} :
    taken.map Response.eval = .ok (.eval output) ↔ taken = .ok output := by
  cases taken <;> simp [Except.map]

theorem ofJson_eval {value : Json} (keyed : Keyed value) {output : EvalOutput} :
    ofJson value = .ok (.eval output) ↔
      ∃ payload, Carries value payload ∧ Shows payload output := by
  constructor
  · intro shown
    cases found : value.get? "Eval" with
    | none => simp [ofJson, found] at shown
    | some payload =>
      have carries := (get?_eval keyed).mp found
      rw [ofJson_carries keyed carries, map_eval] at shown
      exact ⟨payload, carries, (fromValue_iff (carries.keyed keyed)).mp shown⟩
  · rintro ⟨payload, carries, shows⟩
    rw [ofJson_carries keyed carries, map_eval]
    exact (fromValue_iff (carries.keyed keyed)).mpr shows

theorem ofJson_error {value : Json} (keyed : Keyed value) :
    (∃ mismatch, ofJson value = .error mismatch) ↔
      ∃ payload, Carries value payload ∧ ∀ output, ¬ Shows payload output := by
  constructor
  · rintro ⟨mismatch, failed⟩
    have loud : ¬ ∀ payload, ¬ Carries value payload := fun none => by
      cases failed.symm.trans ((ofJson_silent keyed).mpr none)
    obtain ⟨payload, carries⟩ := not_forall_not.mp loud
    refine ⟨payload, carries, fun output shows => ?_⟩
    cases failed.symm.trans ((ofJson_eval keyed).mpr ⟨payload, carries, shows⟩)
  · rintro ⟨payload, carries, none⟩
    cases result : ofJson value with
    | error mismatch => exact ⟨mismatch, rfl⟩
    | ok response =>
      cases response with
      | silent => exact absurd carries ((ofJson_silent keyed).mp result payload)
      | eval output =>
        rw [ofJson_carries keyed carries, map_eval] at result
        exact absurd ((fromValue_iff (carries.keyed keyed)).mp result) (none output)

/-- What a line holding an object is read as, by its entry for `Eval`. -/
def outcome : Option Json → Except Error Response
  | some payload => ((EvalOutput.record.fromValue payload).map .eval).mapError .ofMismatch
  | none => .ok .silent

theorem ofLine_objectText {gap : List Char} (blank : ∀ c ∈ gap, isSpace c = true)
    (entries : List (Entry 126)) :
    ofLine (.ofList (objectText gap entries)) =
      outcome ((ofKey "Eval" entries).getLast?.map (·.value)) := by
  have trimmed : Text.trim (objectText gap entries) = objectText gap entries := by
    obtain ⟨body, closed⟩ := objectText_closed gap entries
    rw [closed]
    refine Text.trim_visible ?_ ?_
    · rintro _ ⟨⟩
      rfl
    · intro c last
      rw [List.getLast?_cons, List.getLast?_concat] at last
      cases last
      rfl
  rw [← find?_entries]
  simp only [ofLine, String.toList_ofList, trimmed, readText_object blank, ofJson, object, get?]
  cases find? "Eval" (canonical (entries.map Entry.member)) <;> rfl

theorem ofLine_blanks {lead trail : List Char} (leading : ∀ c ∈ lead, Text.isBlank c = true)
    (trailing : ∀ c ∈ trail, Text.isBlank c = true) (text : List Char) :
    ofLine (.ofList (lead ++ (text ++ trail))) = ofLine (.ofList text) := by
  simp only [ofLine, String.toList_ofList, Text.trim_blanks leading trailing]

/-- A payload whose entries for other keys, or whose order of different keys, is changed. -/
theorem fromValue_edit {entries others : List (Entry 125)}
    (edit : Edit ["mime_type", "value"] entries others) :
    EvalOutput.record.fromValue (object (entries.map Entry.member)) =
      EvalOutput.record.fromValue (object (others.map Entry.member)) := by
  refine Record.fromValue_congr _ (canonical_ordered _) (canonical_ordered _) fun key known => ?_
  refine edit.find? ?_
  rcases field?_isSome known with rfl | rfl <;> simp

/-- Changes to a line that holds an object. -/
inductive Revises : String → String → Prop
  /-- Blanks around the line. -/
  | blanks {lead trail : List Char} (leading : ∀ c ∈ lead, Text.isBlank c = true)
      (trailing : ∀ c ∈ trail, Text.isBlank c = true) (text : List Char) :
      Revises (.ofList text) (.ofList (lead ++ (text ++ trail)))
  /-- Entries of the object, apart from those for `Eval`. -/
  | entries {gap : List Char} (blank : ∀ c ∈ gap, isSpace c = true)
      {entries others : List (Entry 126)} (edit : Edit ["Eval"] entries others) :
      Revises (.ofList (objectText gap entries)) (.ofList (objectText gap others))
  /-- Entries of an object that is the value of an entry for `Eval`, apart from those that are
  shown. -/
  | payload {gap lead inside : List Char} (blank : ∀ c ∈ gap, isSpace c = true)
      (blank_lead : ∀ c ∈ lead, isSpace c = true) (blank_inside : ∀ c ∈ inside, isSpace c = true)
      (front back : List (Entry 126)) {entry other : Entry 126} (named : entry.name = "Eval")
      (named' : other.name = "Eval") {entries others : List (Entry 125)}
      (content : entry.content = lead ++ objectText inside entries)
      (content' : other.content = lead ++ objectText inside others)
      (edit : Edit ["mime_type", "value"] entries others) :
      Revises (.ofList (objectText gap (front ++ entry :: back)))
        (.ofList (objectText gap (front ++ other :: back)))

theorem Revises.ofLine {line other : String} (revises : Revises line other) :
    ofLine line = Response.ofLine other := by
  cases revises with
  | blanks leading trailing text => exact (ofLine_blanks leading trailing text).symm
  | entries blank edit =>
    rw [ofLine_objectText blank, ofLine_objectText blank, edit.ofKey (by simp)]
  | payload blank blank_lead blank_inside front back named named' content content' edit =>
    rw [ofLine_objectText blank, ofLine_objectText blank]
    have value := Entry.value_object _ blank_lead blank_inside content
    have value' := Entry.value_object _ blank_lead blank_inside content'
    have same := fromValue_edit edit
    simp only [ofKey, List.filter_append, List.filter_cons, named, named', beq_self_eq_true,
      if_true, List.getLast?_append]
    cases back.filter (·.name == "Eval") with
    | nil => simp [outcome, value, value', same]
    | cons later others => simp

/-- Of several entries for `Eval` the last one decides. -/
theorem ofLine_last {gap gap' : List Char} (blank : ∀ c ∈ gap, isSpace c = true)
    (blank' : ∀ c ∈ gap', isSpace c = true) (front : List (Entry 126)) {entry : Entry 126}
    {back : List (Entry 126)} (named : entry.name = "Eval")
    (last : ∀ later ∈ back, later.name ≠ "Eval") :
    ofLine (.ofList (objectText gap (front ++ entry :: back))) =
      ofLine (.ofList (objectText gap' [entry])) := by
  have none : back.filter (·.name == "Eval") = [] :=
    List.filter_eq_nil_iff.mpr fun later inside => by simpa using last later inside
  rw [ofLine_objectText blank, ofLine_objectText blank']
  simp only [ofKey, List.filter_append, List.filter_cons, named, beq_self_eq_true, if_true, none,
    List.getLast?_concat, List.filter_nil, List.getLast?_singleton]

theorem isBlank_space {c : Char} (space : isSpace c = true) : Text.isBlank c = true := by
  simp only [isSpace, Bool.or_eq_true, beq_iff_eq] at space
  rcases space with ((rfl | rfl) | rfl) | rfl <;> rfl

/-- A line that holds an object is the text of its entries with blanks around. -/
theorem trim_written {line : String} {members : List (String × Json)}
    (holds : readText (Text.trim line.toList) = .ok (.obj members)) :
    ∃ (gap : List Char) (entries : List (Entry 126)), (∀ c ∈ gap, isSpace c = true) ∧
      Text.trim line.toList = objectText gap entries ∧
      members = canonical (entries.map Entry.member) := by
  obtain ⟨lead, gap, trail, entries, blank_lead, blank, blank_trail, cut, rfl⟩ :=
    readText_written holds
  have trims := Text.trim_trims line.toList
  have no_lead : lead = [] := by
    cases lead with
    | nil => rfl
    | cons c lead =>
      have visible := trims.first c (by rw [cut]; rfl)
      rw [isBlank_space (blank_lead c (by simp))] at visible
      cases visible
  have no_trail : trail = [] := by
    rcases List.eq_nil_or_concat trail with none | ⟨others, c, rfl⟩
    · exact none
    · have visible := trims.last c (by simp [cut])
      rw [isBlank_space (blank_trail c (by simp))] at visible
      cases visible
  subst no_lead no_trail
  exact ⟨gap, entries, blank, by simpa using cut, rfl⟩

/-- The value of an entry that is an object is the text of its own entries. -/
theorem content_written {entry : Entry 126} {members : List (String × Json)}
    (holds : entry.value = .obj members) :
    ∃ (lead inside : List Char) (entries : List (Entry 125)), (∀ c ∈ lead, isSpace c = true) ∧
      (∀ c ∈ inside, isSpace c = true) ∧ entry.content = lead ++ objectText inside entries ∧
      members = canonical (entries.map Entry.member) := by
  have read := entry.reads
  rw [holds] at read
  obtain ⟨lead, inside, entries, blank_lead, blank_inside, cut, same⟩ := readValue_written read
  rw [List.append_nil] at cut
  exact ⟨lead, inside, entries, blank_lead, blank_inside, cut, same⟩

/-- A value without an entry for `Eval` is silent; one with such an entry is an output if the
entry is one, as an object or as a list, and a fault if not. Every text is read as a value that
has each key of an object once. A line that holds an object is the text of its entries, those
of a payload included; it is read the same after any changes to entries that do not count, to
the order of different keys, and to the blanks around the line; and of several entries for
`Eval` the last one decides. -/
theorem response_shape :
    (∀ value, Keyed value →
      (ofJson value = .ok .silent ↔ ∀ payload, ¬ Carries value payload) ∧
      (∀ output, ofJson value = .ok (.eval output) ↔
        ∃ payload, Carries value payload ∧ Shows payload output) ∧
      ((∃ mismatch, ofJson value = .error mismatch) ↔
        ∃ payload, Carries value payload ∧ ∀ output, ¬ Shows payload output)) ∧
    (∀ (line : String) value, readText (Text.trim line.toList) = .ok value →
      Keyed value ∧ ofLine line = (ofJson value).mapError .ofMismatch) ∧
    (∀ (line : String) members, readText (Text.trim line.toList) = .ok (.obj members) →
      ∃ (gap : List Char) (entries : List (Entry 126)), (∀ c ∈ gap, isSpace c = true) ∧
        Text.trim line.toList = objectText gap entries ∧
        members = canonical (entries.map Entry.member)) ∧
    (∀ (entry : Entry 126) members, entry.value = .obj members →
      ∃ (lead inside : List Char) (entries : List (Entry 125)), (∀ c ∈ lead, isSpace c = true) ∧
        (∀ c ∈ inside, isSpace c = true) ∧ entry.content = lead ++ objectText inside entries ∧
        members = canonical (entries.map Entry.member)) ∧
    (∀ line other, Relation.EqvGen Revises line other → ofLine line = ofLine other) ∧
    ∀ (gap : List Char) (front : List (Entry 126)) (entry : Entry 126) (back : List (Entry 126)),
      (∀ c ∈ gap, isSpace c = true) → entry.name = "Eval" →
      (∀ later ∈ back, later.name ≠ "Eval") →
      ofLine (.ofList (objectText gap (front ++ entry :: back))) =
        ofLine (.ofList (objectText [] [entry])) := by
  refine ⟨fun value keyed => ?_, fun line value read => ?_, fun line members => trim_written,
    fun entry members => content_written, fun line other revises => ?_,
    fun gap front entry back blank named last => ofLine_last blank (by simp) front named last⟩
  · exact ⟨ofJson_silent keyed, fun output => ofJson_eval keyed, ofJson_error keyed⟩
  · refine ⟨readText_keyed read, ?_⟩
    simp only [ofLine, read]
  · induction revises with
    | rel line other revises => exact revises.ofLine
    | refl line => rfl
    | symm line other _ ih => exact ih.symm
    | trans line middle other _ _ ih ih' => exact ih.trans ih'

/-- The text `"Eval":["a","b"]`. -/
def listEntry : Entry 126 where
  before := []
  key := "Eval\"".toList
  gap := []
  content := "[\"a\",\"b\"]".toList
  after := []
  name := "Eval"
  value := .arr [.str "a", .str "b"]
  blank := List.forall_mem_nil _
  named := by simp [string, stringBody, Except.map]
  reads := by
    simp [fuelFor, readValue, readList, readItems, skip, isSpace, isDigit, string, stringBody,
      Except.map]

/-- The text `"n":null`. -/
def nullEntry : Entry 126 where
  before := []
  key := "n\"".toList
  gap := []
  content := "null".toList
  after := []
  name := "n"
  value := .null
  blank := List.forall_mem_nil _
  named := by simp [string, stringBody, Except.map]
  reads := by simp [fuelFor, readValue, skip, isSpace, keyword, Except.map]

/-- A list under `Eval`, and the same with another entry written before it, then moved behind it,
and a wide blank before the line. -/
theorem response_shape_list :
    Keyed (.obj [listEntry.member]) ∧
      ofJson (.obj [listEntry.member]) = .ok (.eval ⟨"a", "b"⟩) ∧
      ofLine "\u2003\x7b\"Eval\":[\"a\",\"b\"],\"n\":null\x7d" =
        ofLine "\x7b\"Eval\":[\"a\",\"b\"]\x7d" := by
  obtain ⟨shapes, -, -, -, revised, -⟩ := response_shape
  have keyed : Keyed (.obj [listEntry.member]) :=
    .obj _ (List.nodup_singleton _) (List.forall_mem_singleton.mpr (readValue_keyed listEntry.reads))
  refine ⟨keyed, ?_, ?_⟩
  · exact ((shapes _ keyed).2.1 ⟨"a", "b"⟩).mpr
      ⟨_, .entry (List.mem_singleton.mpr rfl), .list ⟨"a", "b"⟩⟩
  · have added : Revises (.ofList (objectText [] [listEntry]))
        (.ofList (objectText [] [nullEntry, listEntry])) :=
      .entries (by simp) (.added [] [listEntry] nullEntry (by simp [nullEntry]))
    have moved : Revises (.ofList (objectText [] [nullEntry, listEntry]))
        (.ofList (objectText [] [listEntry, nullEntry])) :=
      .entries (by simp) (.of_perm _ (.swap _ _ _) (by simp [nullEntry, listEntry]))
    have around : Revises (.ofList (objectText [] [listEntry, nullEntry]))
        (.ofList (['\u2003'] ++ (objectText [] [listEntry, nullEntry] ++ []))) :=
      .blanks (by simp [Text.isBlank]) (by simp) _
    have behind := Relation.EqvGen.trans _ _ _ (.rel _ _ added) (.rel _ _ moved)
    exact (revised _ _ (behind.trans _ _ _ (.rel _ _ around))).symm

end Response

end NotebookKernel
