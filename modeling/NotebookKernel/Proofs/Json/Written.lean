import NotebookKernel.Proofs.Json.Reading

/-!
Objects as they are written: members with their keys, their values and the blanks between
them. Each such text is read as the object of its members, whatever comes behind it, and what
is read as an object is such a text.
-/

namespace NotebookKernel.Json

/-- A member of an object as it is written, and what it is read as. -/
structure Entry (rooms : Nat) where
  before : List Char
  /-- Behind the opening quote. -/
  key : List Char
  gap : List Char
  content : List Char
  after : List Char
  name : String
  value : Json
  blank : ∀ c ∈ before ++ (gap ++ after), isSpace c = true
  named : string key = .ok (name, [])
  reads : readValue (fuelFor content) rooms content = .ok (value, [])

namespace Entry

variable {rooms : Nat} (entry : Entry rooms)

def member : String × Json := (entry.name, entry.value)

/-- From behind the quote that opens the key. -/
def opened : List Char :=
  entry.key ++ (entry.gap ++ ':' :: (entry.content ++ entry.after))

def text : List Char := entry.before ++ '"' :: entry.opened

theorem blank_before : ∀ c ∈ entry.before, isSpace c = true :=
  fun c inside => entry.blank c (by simp [inside])

theorem blank_gap : ∀ c ∈ entry.gap, isSpace c = true :=
  fun c inside => entry.blank c (by simp [inside])

theorem blank_after : ∀ c ∈ entry.after, isSpace c = true :=
  fun c inside => entry.blank c (by simp [inside])

theorem key_read (more : List Char) : string (entry.key ++ more) = .ok (entry.name, more) :=
  string_before entry.named more

theorem content_read {fuel : Nat} (enough : 2 * entry.content.length ≤ fuel) {more : List Char}
    (ended : endsNumber more = true) :
    readValue fuel rooms (entry.content ++ more) = .ok (entry.value, more) := by
  obtain ⟨used, cut, again⟩ := readValue_stretch entry.reads
  rw [List.append_nil] at cut
  rw [cut] at enough ⊢
  exact again fuel more enough ended

end Entry

/-- The members behind the first one and the brace. -/
def closing {rooms : Nat} (entries : List (Entry rooms)) : List Char :=
  entries.flatMap (fun entry => ',' :: entry.text) ++ ['}']

def objectText {rooms : Nat} (gap : List Char) : List (Entry rooms) → List Char
  | [] => '{' :: (gap ++ ['}'])
  | entry :: entries => '{' :: (gap ++ (entry.text ++ closing entries))

variable {rooms : Nat}

theorem closing_cons (entry : Entry rooms) (entries : List (Entry rooms)) :
    closing (entry :: entries) =
      ',' :: (entry.before ++ '"' :: (entry.opened ++ closing entries)) := by
  simp [closing, Entry.text]

theorem objectText_closed (gap : List Char) (entries : List (Entry rooms)) :
    ∃ body, objectText gap entries = '{' :: (body ++ ['}']) := by
  cases entries with
  | nil => exact ⟨gap, rfl⟩
  | cons entry entries =>
    refine ⟨gap ++ (entry.text ++ entries.flatMap fun entry => ',' :: entry.text), ?_⟩
    simp [objectText, closing]

theorem readMembers_opened (entry : Entry rooms) (entries : List (Entry rooms)) (fuel : Nat)
    (more : List Char) (enough : 2 * (entry.opened ++ closing entries).length ≤ fuel) :
    readMembers fuel rooms (entry.opened ++ (closing entries ++ more)) =
      .ok ((entry :: entries).map Entry.member, more) := by
  induction entries generalizing entry fuel with
  | nil =>
    simp only [Entry.opened, closing, List.length_append, List.length_cons] at enough
    obtain ⟨fuel, rfl⟩ : ∃ left, fuel = left + 1 := ⟨fuel - 1, by omega⟩
    have ended := ended_before entry.blank_after '}' rfl more
    simp only [Entry.opened, List.append_assoc, List.cons_append]
    exact readMembers_last (entry.key_read _) entry.blank_gap
      (entry.content_read (by omega) ended) entry.blank_after
  | cons next entries ih =>
    simp only [Entry.opened, closing_cons, List.length_append, List.length_cons] at enough
    obtain ⟨fuel, rfl⟩ : ∃ left, fuel = left + 1 := ⟨fuel - 1, by omega⟩
    have ended := ended_before entry.blank_after ',' rfl
      (next.before ++ '"' :: (next.opened ++ (closing entries ++ more)))
    have tail := ih next fuel (by simp only [Entry.opened, List.length_append, List.length_cons]; omega)
    rw [Entry.opened, closing_cons]
    simp only [List.append_assoc, List.cons_append]
    refine (readMembers_more (entry.key_read _) entry.blank_gap
      (entry.content_read (by omega) ended) entry.blank_after next.blank_before).trans ?_
    exact map_ok.mpr ⟨_, tail, rfl⟩

/-- What is written is read as the object of its members. -/
theorem objectText_read {gap : List Char} (blank : ∀ c ∈ gap, isSpace c = true)
    (entries : List (Entry rooms)) (fuel : Nat) (more : List Char)
    (enough : 2 * (objectText gap entries).length ≤ fuel) :
    readValue fuel (rooms + 1) (objectText gap entries ++ more) =
      .ok (object (entries.map Entry.member), more) := by
  cases entries with
  | nil =>
    simp only [objectText, List.length_append, List.length_cons] at enough
    obtain ⟨fuel, rfl⟩ : ∃ left, fuel = left + 2 := ⟨fuel - 2, by omega⟩
    simp only [objectText, List.cons_append, List.append_assoc, List.nil_append]
    rw [readValue_object, readObject_empty blank]
    rfl
  | cons entry entries =>
    simp only [objectText, Entry.text, List.length_append, List.length_cons] at enough
    obtain ⟨fuel, rfl⟩ : ∃ left, fuel = left + 2 := ⟨fuel - 2, by omega⟩
    have blanks : ∀ c ∈ gap ++ entry.before, isSpace c = true := fun c inside =>
      (List.mem_append.mp inside).elim (blank c) (entry.blank_before c)
    have read := readMembers_opened entry entries fuel more (by
      simp only [List.length_append]
      omega)
    have start : objectText gap (entry :: entries) ++ more =
        '{' :: ((gap ++ entry.before) ++ '"' :: (entry.opened ++ (closing entries ++ more))) := by
      simp [objectText, Entry.text]
    rw [start, readValue_object, readObject_members blanks, read]
    rfl

theorem readText_object {gap : List Char} (blank : ∀ c ∈ gap, isSpace c = true)
    (entries : List (Entry 126)) :
    readText (objectText gap entries) = .ok (object (entries.map Entry.member)) := by
  have enough : 2 * (objectText gap entries).length ≤ fuelFor (objectText gap entries) :=
    Nat.le_add_right _ _
  have read := objectText_read blank entries (fuelFor (objectText gap entries)) [] enough
  rw [List.append_nil] at read
  exact readText_ok.mpr ⟨[], read, List.forall_mem_nil _⟩

/-- What a member is read as whose value is an object. -/
theorem Entry.value_object (entry : Entry (rooms + 1)) {lead gap : List Char}
    {entries : List (Entry rooms)} (blank_lead : ∀ c ∈ lead, isSpace c = true)
    (blank : ∀ c ∈ gap, isSpace c = true) (content : entry.content = lead ++ objectText gap entries) :
    entry.value = object (entries.map Entry.member) := by
  have read := entry.reads
  have enough : 2 * (objectText gap entries).length ≤ fuelFor (lead ++ objectText gap entries) := by
    simp only [fuelFor, List.length_append]
    omega
  have again := objectText_read blank entries _ [] enough
  rw [List.append_nil] at again
  rw [content, fuelFor, readValue_blanks blank_lead, ← fuelFor, again] at read
  exact (Prod.mk.inj (Except.ok.inj read)).1.symm

theorem readMembers_written {fuel : Nat} {cs rest : List Char} {members : List (String × Json)}
    (found : readMembers fuel rooms cs = .ok (members, rest)) {before : List Char}
    (blank : ∀ c ∈ before, isSpace c = true) :
    ∃ (entry : Entry rooms) (entries : List (Entry rooms)), entry.before = before ∧
      cs = entry.opened ++ (closing entries ++ rest) ∧
      members = (entry :: entries).map Entry.member := by
  induction fuel generalizing cs members before with
  | zero =>
    simp only [readMembers] at found
    cases found
  | succ fuel ih =>
    obtain ⟨key, gap, content, value, after, left, named, blank_gap, read, blank_after, goes⟩ :=
      readMembers_cases found
    obtain ⟨quoted, rfl, key_read⟩ := string_alone named
    obtain ⟨used, rfl, again⟩ := readValue_stretch read
    have value_read := again (fuelFor used) [] (by simp only [fuelFor]; omega) rfl
    rw [List.append_nil] at value_read
    let entry : Entry rooms := {
      before, key := quoted, gap, content := used, after, name := key, value
      blank := by
        intro c inside
        simp only [List.mem_append] at inside
        rcases inside with first | second | third
        · exact blank c first
        · exact blank_gap c second
        · exact blank_after c third
      named := key_read
      reads := value_read }
    rcases goes with ⟨rfl, rfl⟩ | ⟨lead, behind, members, rfl, blank_lead, tail, rfl⟩
    · exact ⟨entry, [], rfl, by simp [entry, Entry.opened, closing], rfl⟩
    · obtain ⟨next, entries, rfl, rfl, rfl⟩ := ih tail blank_lead
      refine ⟨entry, next :: entries, rfl, ?_, rfl⟩
      simp [entry, Entry.opened, closing_cons]

theorem readObject_written {fuel : Nat} {cs rest : List Char} {members : List (String × Json)}
    (found : readObject fuel rooms cs = .ok (members, rest)) :
    ∃ (gap : List Char) (entries : List (Entry rooms)), (∀ c ∈ gap, isSpace c = true) ∧
      '{' :: cs = objectText gap entries ++ rest ∧ members = entries.map Entry.member := by
  cases fuel with
  | zero =>
    simp only [readObject] at found
    cases found
  | succ fuel =>
    obtain ⟨gap, blank, goes⟩ := readObject_cases found
    rcases goes with ⟨rfl, rfl⟩ | ⟨behind, rfl, read⟩
    · exact ⟨gap, [], blank, by simp [objectText], rfl⟩
    · obtain ⟨entry, entries, same, rfl, rfl⟩ := readMembers_written read blank
      refine ⟨[], entry :: entries, List.forall_mem_nil _, ?_, rfl⟩
      simp [objectText, Entry.text, same]

/-- What is read as an object is written so. -/
theorem readValue_written {fuel : Nat} {cs rest : List Char} {members : List (String × Json)}
    (found : readValue fuel (rooms + 1) cs = .ok (.obj members, rest)) :
    ∃ (lead gap : List Char) (entries : List (Entry rooms)), (∀ c ∈ lead, isSpace c = true) ∧
      (∀ c ∈ gap, isSpace c = true) ∧ cs = lead ++ (objectText gap entries ++ rest) ∧
      members = canonical (entries.map Entry.member) := by
  cases fuel with
  | zero =>
    simp only [readValue] at found
    cases found
  | succ fuel =>
    obtain ⟨lead, cut, blank⟩ := skip_split cs
    cases here : skip cs with
    | nil =>
      simp only [readValue, here] at found
      cases found
    | cons c others =>
      have visible : isSpace c = false := skip_head here
      rw [here] at cut
      subst cut
      rw [readValue_blanks blank] at found
      by_cases list : c = '['
      · subst list
        rw [readValue_list] at found
        obtain ⟨items, -, other⟩ := map_ok.mp found
        cases other
      · by_cases brace : c = '{'
        · subst brace
          rw [readValue_object] at found
          obtain ⟨read_members, read, same⟩ := map_ok.mp found
          obtain ⟨gap, entries, blank_gap, cut, rfl⟩ := readObject_written read
          cases same
          exact ⟨lead, gap, entries, blank, blank_gap, congrArg (lead ++ ·) cut, rfl⟩
        · obtain ⟨read, scalar⟩ := readsScalar visible list brace (rooms + 1)
          rw [scalar.reads] at found
          cases scalar.scalar _ _ _ found

theorem readText_written {cs : List Char} {members : List (String × Json)}
    (found : readText cs = .ok (.obj members)) :
    ∃ (lead gap trail : List Char) (entries : List (Entry 126)),
      (∀ c ∈ lead, isSpace c = true) ∧ (∀ c ∈ gap, isSpace c = true) ∧
      (∀ c ∈ trail, isSpace c = true) ∧ cs = lead ++ (objectText gap entries ++ trail) ∧
      members = canonical (entries.map Entry.member) := by
  obtain ⟨trail, read, blank_trail⟩ := readText_ok.mp found
  obtain ⟨lead, gap, entries, blank_lead, blank, cut, same⟩ := readValue_written read
  exact ⟨lead, gap, trail, entries, blank_lead, blank, blank_trail, cut, same⟩

section Edits

/-- The entries with one key, in the order of the text. -/
def ofKey (key : String) (entries : List (Entry rooms)) : List (Entry rooms) :=
  entries.filter (·.name == key)

theorem find?_entries (key : String) (entries : List (Entry rooms)) :
    find? key (canonical (entries.map Entry.member)) =
      (ofKey key entries).getLast?.map (·.value) := by
  have first (es : List (Entry rooms)) :
      find? key (es.map Entry.member) = (ofKey key es).head?.map (·.value) := by
    rw [ofKey, List.head?_filter, find?, List.find?_map, Option.map_map]
    rfl
  rw [find?_canonical, ← List.map_reverse, first, ofKey, List.filter_reverse, List.head?_reverse]
  rfl

/-- An entry with a key that does not count is written or left out, or entries with different
keys are put in another order. -/
inductive Edit (counts : List String) : List (Entry rooms) → List (Entry rooms) → Prop
  | added (front back : List (Entry rooms)) (entry : Entry rooms) (other : entry.name ∉ counts) :
      Edit counts (front ++ back) (front ++ entry :: back)
  | reordered {entries others : List (Entry rooms)} (perm : entries.Perm others)
      (ofOneKey : ∀ key, ofKey key entries = ofKey key others) : Edit counts entries others

/-- Entries whose keys all differ may be put in any order. -/
theorem Edit.of_perm (counts : List String) {entries others : List (Entry rooms)}
    (perm : entries.Perm others) (distinct : (entries.map (·.name)).Nodup) :
    Edit counts entries others := by
  refine .reordered perm fun key => ?_
  have same : (ofKey key entries).Perm (ofKey key others) := perm.filter _
  have apart : (ofKey key entries).Pairwise fun a b => a.name ≠ b.name :=
    (List.pairwise_map.mp distinct).filter _
  have named : ∀ entry ∈ ofKey key entries, entry.name = key := fun entry inside => by
    simpa using (List.mem_filter.mp inside).2
  rcases one : ofKey key entries with _ | ⟨first, _ | ⟨second, rest⟩⟩
  · rw [one] at same
    exact (List.nil_perm.mp same).symm
  · rw [one] at same
    exact List.singleton_perm.mp same
  · rw [one] at apart named
    have differ := List.rel_of_pairwise_cons apart (List.mem_cons_self (a := second) (l := rest))
    exact absurd ((named first (by simp)).trans (named second (by simp)).symm) differ

theorem Edit.ofKey {counts : List String} {entries others : List (Entry rooms)}
    (edit : Edit counts entries others) {key : String} (counted : key ∈ counts) :
    ofKey key entries = ofKey key others := by
  cases edit with
  | added front back entry other =>
    have notKey : entry.name ≠ key := fun same => other (same ▸ counted)
    simp [Json.ofKey, notKey]
  | reordered perm ofOneKey => exact ofOneKey key

theorem Edit.find? {counts : List String} {entries others : List (Entry rooms)}
    (edit : Edit counts entries others) {key : String} (counted : key ∈ counts) :
    find? key (canonical (entries.map Entry.member)) =
      Json.find? key (canonical (others.map Entry.member)) := by
  rw [find?_entries, find?_entries, edit.ofKey counted]

end Edits

end NotebookKernel.Json
