import NotebookKernel.Proofs.Json.Agreement
import NotebookKernel.Proofs.Json.Pretty

/-!
Records that are read from the text of an object, member after member. Each member is passed over,
or fills a field that was not filled before; if one can do neither, there is no record.
-/

namespace NotebookKernel.Json

section Objects

/-- A member of an object as it is written, with the blanks around it. -/
structure Member where
  before : List Char
  /-- Behind the opening quote. -/
  key : List Char
  gap : List Char
  content : List Char
  after : List Char
  blank : ∀ c ∈ before ++ (gap ++ after), isSpace c = true
  string : IsString key
  value : Spells .value content

namespace Member

variable (m : Member)

/-- From behind the quote that opens the key. -/
def opened : List Char := m.key ++ (m.gap ++ ':' :: (m.content ++ m.after))

def text : List Char := m.before ++ '"' :: m.opened

/-- What the key is read as; none if its codes do not make characters. -/
def name? : Option String := (Json.string m.key).toOption.map (·.1)

theorem blank_before : ∀ c ∈ m.before, isSpace c = true :=
  fun c inside => m.blank c (by simp [inside])

theorem blank_gap : ∀ c ∈ m.gap, isSpace c = true :=
  fun c inside => m.blank c (by simp [inside])

theorem blank_after : ∀ c ∈ m.after, isSpace c = true :=
  fun c inside => m.blank c (by simp [inside])

variable {m} {name : String}

theorem name?_ok : m.name? = some name ↔ Json.string m.key = .ok (name, []) := by
  have skimmed : skimString m.key = .ok [] := by simpa using m.string.skimmed []
  cases read : Json.string m.key with
  | error stop => simp [name?, read, Except.toOption]
  | ok result =>
    obtain ⟨s, left⟩ := result
    obtain rfl : left = [] := Except.ok.inj ((string_skims read).symm.trans skimmed)
    simp [name?, read, Except.toOption]

theorem key_read {more left : List Char} :
    Json.string (m.key ++ more) = .ok (name, left) ↔ left = more ∧ m.name? = some name := by
  rw [name?_ok]
  constructor
  · intro read
    obtain rfl : left = more :=
      Except.ok.inj ((string_skims read).symm.trans (m.string.skimmed more))
    obtain ⟨key, cut, alone⟩ := string_alone read
    exact ⟨rfl, List.append_cancel_right cut ▸ alone⟩
  · rintro ⟨rfl, read⟩
    exact string_before read left

end Member

/-- Members with the commas between them. -/
def joined : List Member → List Char
  | [] => []
  | m :: members => m.text ++ more Member.text members

/-- An object as it is written, with blanks behind its opening brace. -/
def braced (gap : List Char) (members : List Member) : List Char :=
  '{' :: (gap ++ (joined members ++ ['}']))

theorem braced_append (gap : List Char) (members : List Member) (rest : List Char) :
    braced gap members ++ rest = '{' :: (gap ++ (joined members ++ '}' :: rest)) := by
  simp [braced]

theorem joined_spells (m : Member) (members : List Member) :
    Spells .members (joined (m :: members) ++ ['}']) := by
  induction members generalizing m with
  | nil =>
    have last : Spells .members _ := .lastMember m.blank m.string m.value
    simpa [joined, Member.text, Member.opened, more] using last
  | cons next members ih =>
    have member : Spells .members _ := .member m.blank m.string m.value (ih next)
    simpa [joined, Member.text, Member.opened, more_cons] using member

theorem braced_spells {gap : List Char} (blank : ∀ c ∈ gap, isSpace c = true)
    (members : List Member) : Spells .value (braced gap members) := by
  cases members with
  | nil => exact .emptyObject blank
  | cons m members => exact .object ((joined_spells m members).blanks blank)

/-- What the grammar calls the members of an object are such members. -/
theorem spelled_members {cs : List Char} (spells : Spells .members cs) :
    ∃ (m : Member) (members : List Member),
      cs = joined (m :: members) ++ ['}'] := by
  generalize same : Part.members = part at spells
  induction spells with
  | @lastMember before key gap content after blank string value =>
    exact ⟨⟨before, key, gap, content, after, blank, string, value⟩, [],
      by simp [joined, Member.text, Member.opened, more]⟩
  | @member before key gap content after cs blank string value later _ ih =>
    obtain ⟨next, members, rfl⟩ := ih rfl
    exact ⟨⟨before, key, gap, content, after, blank, string, value⟩, next :: members,
      by simp [joined, Member.text, Member.opened, more_cons]⟩
  | _ => cases same

/-- The blanks in front of a value do not count. -/
theorem Spells.skip {cs : List Char} (spells : Spells .value cs) : Spells .value (skip cs) := by
  generalize same : Part.value = part at spells
  induction spells with
  | @blank c cs blank later ih =>
    have skipped : Json.skip (c :: cs) = Json.skip cs := List.dropWhile_cons_of_pos blank
    rw [skipped]
    exact ih rfl
  | word known =>
    simp only [List.mem_cons, List.not_mem_nil, or_false] at known
    rcases known with rfl | rfl | rfl <;> exact .word (by simp [Json.skip, isSpace])
  | number number =>
    obtain ⟨d, others, rfl, digit⟩ := number.begins
    rw [skip_visible (digit_visible digit).1]
    exact .number number
  | text string => exact .text string
  | negative number => exact .negative number
  | emptyList blank => exact .emptyList blank
  | list items => exact .list items
  | emptyObject blank => exact .emptyObject blank
  | object members => exact .object members
  | _ => cases same

/-- What the grammar calls an object is written so. -/
theorem spelled_object {cs : List Char} (spells : Spells .value ('{' :: cs)) :
    ∃ (gap : List Char) (members : List Member), (∀ c ∈ gap, isSpace c = true) ∧
      '{' :: cs = braced gap members := by
  cases spells with
  | blank blank => cases blank
  | word known => simp at known
  | number number =>
    have skimmed : skimNumber _ = .ok [] := number.skimmed rfl
    cases skimmed
  | emptyObject blank => exact ⟨_, [], blank, rfl⟩
  | object inside =>
    obtain ⟨m, members, rfl⟩ := spelled_members inside
    exact ⟨[], m :: members, List.forall_mem_nil _, rfl⟩

/-- Whole texts whose value begins with a brace. -/
theorem isText_object {cs : List Char} :
    IsText cs ∧ (Json.skip cs).head? = some '{' ↔
      ∃ lead gap trail members, (∀ c ∈ lead ++ (gap ++ trail), isSpace c = true) ∧
        cs = lead ++ (braced gap members ++ trail) := by
  simp only [List.forall_mem_append]
  constructor
  · rintro ⟨⟨used, trail, spells, blank_trail, rfl⟩, here⟩
    obtain ⟨lead, cut, blank_lead⟩ := skip_split used
    have value := spells.skip
    obtain ⟨c, behind, first⟩ := List.exists_cons_of_ne_nil value.ne_nil
    obtain rfl : c = '{' := by
      rw [cut, first, List.append_assoc, List.cons_append,
        skip_to blank_lead c (skip_head first)] at here
      exact Option.some.inj here
    rw [first] at value
    obtain ⟨gap, members, blank_gap, written⟩ := spelled_object value
    exact ⟨lead, gap, trail, members, ⟨blank_lead, blank_gap, blank_trail⟩,
      by rw [cut, first, written, List.append_assoc]⟩
  · rintro ⟨lead, gap, trail, members, ⟨blank_lead, blank_gap, blank_trail⟩, rfl⟩
    refine ⟨⟨lead ++ braced gap members, trail, (braced_spells blank_gap members).blanks blank_lead,
      blank_trail, (List.append_assoc _ _ _).symm⟩, ?_⟩
    rw [braced_append, skip_to blank_lead '{' rfl]
    rfl

end Objects

section Fields

variable {α σ : Type} {rooms : Nat}

structure Field.Regular (f : Field σ) (rooms : Nat) : Prop where
  passes : ∀ draft cs later rest, f.fromText rooms draft cs = .ok (later, rest) →
    Passes .value cs rest
  ends : ∀ draft, Local endsNumber (f.fromText rooms draft)

theorem Decoder.Regular.field {decoder : Decoder α} (regular : decoder.Regular rooms)
    (name : String) (get : σ → Option α) (set : σ → α → σ) (mayEnd : Bool) :
    (field name decoder get set mayEnd).Regular rooms where
  passes draft cs later rest taken := by
    obtain ⟨a, taken, -⟩ := map_ok.mp taken
    exact regular.passes cs a rest taken
  ends draft cs later rest taken := by
    obtain ⟨a, taken, same⟩ := map_ok.mp taken
    obtain ⟨used, cut, again⟩ := regular.ends cs a rest taken
    exact ⟨used, cut, fun more ended => map_ok.mpr ⟨a, again more ended, same⟩⟩

/-- A field takes a value the same from the text of the value alone. -/
theorem Field.Regular.stretch {f : Field σ} (regular : f.Regular rooms) {content rest : List Char}
    (spells : Spells .value content) (ended : endsNumber rest = true) {draft later : σ}
    {left : List Char} :
    f.fromText rooms draft (content ++ rest) = .ok (later, left) ↔
      left = rest ∧ f.fromText rooms draft content = .ok (later, []) := by
  constructor
  · intro taken
    obtain rfl : left = rest :=
      (regular.passes _ _ _ _ taken).unique (spells.passes fun _ => ended)
    obtain ⟨used, cut, again⟩ := regular.ends _ _ _ _ taken
    rw [List.append_cancel_right cut]
    exact ⟨rfl, by simpa using again [] rfl⟩
  · rintro ⟨rfl, taken⟩
    obtain ⟨used, cut, again⟩ := regular.ends _ _ _ _ taken
    rw [cut, List.append_nil]
    exact again left ended

end Fields

namespace Record

variable {α σ : Type} (record : Record σ α) (rooms : Nat)

/-- One member is passed over, or fills a field that was not filled before. -/
inductive Puts (draft : σ) (m : Member) : σ → Prop
  | unknown {name : String} (named : m.name? = some name) (unknown : record.field? name = none) :
      Puts draft m draft
  | known {name : String} {f : Field σ} {later : σ} (named : m.name? = some name)
      (known : record.field? name = some f) (unset : f.isSet draft = false)
      (taken : f.fromText rooms draft m.content = .ok (later, [])) : Puts draft m later

/-- Member after member. -/
inductive PutsAll : σ → List Member → σ → Prop
  | done (draft : σ) : PutsAll draft [] draft
  | member {draft next last : σ} {m : Member} {members : List Member}
      (puts : record.Puts rooms draft m next) (others : PutsAll next members last) :
      PutsAll draft (m :: members) last

variable {record rooms}

section Step

variable {first : Bool} {fuel : Nat} {draft next last : σ} {m : Member} {cs rest left : List Char}

theorem opened_append (m : Member) (rest : List Char) :
    m.opened ++ rest = m.key ++ (m.gap ++ ':' :: (m.content ++ (m.after ++ rest))) := by
  simp [Member.opened]

theorem ended_behind (m : Member) (ended : endsNumber rest = true) :
    endsNumber (m.after ++ rest) = true := by
  cases blanks : m.after with
  | nil => exact ended
  | cons c after => exact endsNumber_space (m.blank_after c (by simp [blanks])) _

variable (regular : ∀ f ∈ record.fields, f.Regular rooms)
  (goes : nextKey first cs = .ok (some (m.opened ++ rest))) (ended : endsNumber rest = true)

include regular goes ended

theorem Puts.fromMembers (puts : record.Puts rooms draft m next) :
    record.fromMembers rooms (fuel + 1) first draft cs =
      record.fromMembers rooms fuel false next (m.after ++ rest) := by
  have behind := ended_behind m ended
  have key {name : String} (named : m.name? = some name) :
      string (m.opened ++ rest) =
        .ok (name, m.gap ++ ':' :: (m.content ++ (m.after ++ rest))) := by
    rw [opened_append]
    exact Member.key_read.mpr ⟨rfl, named⟩
  cases puts with
  | unknown named unknown =>
    have skimmed : skim (m.content ++ (m.after ++ rest)) = .ok (m.after ++ rest) :=
      (m.value.passes fun _ => behind).skim
    simp only [Record.fromMembers, goes, key named, unknown, colon_gap m.blank_gap, skimmed]
  | @known name f later named known unset taken =>
    have inside : f ∈ record.fields := List.mem_of_find?_eq_some known
    have taken := ((regular f inside).stretch m.value behind).mpr ⟨rfl, taken⟩
    simp only [Record.fromMembers, goes, key named, known, unset, Bool.false_eq_true, if_false,
      colon_gap m.blank_gap, taken]

theorem fromMembers_puts
    (read : record.fromMembers rooms (fuel + 1) first draft cs = .ok (last, left)) :
    ∃ next, record.Puts rooms draft m next := by
  have behind := ended_behind m ended
  simp only [Record.fromMembers, goes] at read
  split at read
  · cases read
  · rename_i name unnamed key
    rw [opened_append] at key
    obtain ⟨rfl, named⟩ := Member.key_read.mp key
    simp only [colon_gap m.blank_gap] at read
    split at read
    · rename_i unknown
      exact ⟨draft, .unknown named unknown⟩
    · rename_i f known
      have inside : f ∈ record.fields := List.mem_of_find?_eq_some known
      split at read
      · cases read
      · rename_i unset
        split at read
        · cases read
        · rename_i later left' taken
          obtain ⟨-, alone⟩ := ((regular f inside).stretch m.value behind).mp taken
          exact ⟨later, .known named known (by simpa using unset) alone⟩

end Step

theorem fromText_brace {lead body rest : List Char} (blank : ∀ c ∈ lead, isSpace c = true) {a : α} :
    record.fromText (rooms + 1) (lead ++ '{' :: body) = .ok (a, rest) ↔
      ∃ last left, record.fromMembers rooms (fuelFor body) true record.empty body =
        .ok (last, left) ∧ record.finish last = .ok a ∧ giveUp '}' left = rest := by
  have brace : '{' ≠ '[' := by decide
  simp only [fromText, skip_to blank '{' rfl, if_neg brace, if_true, enter]
  cases read : record.fromMembers rooms (fuelFor body) true record.empty body with
  | error stop => simp
  | ok result =>
    obtain ⟨last, left⟩ := result
    cases finished : record.finish last with
    | error m => simp [finishAt, finished, Except.mapError, Except.map]
    | ok a => simp [finishAt, finished, Except.mapError, Except.map]

section Run

variable {fuel : Nat} {draft last : σ} {members : List Member} {gap rest left : List Char}

theorem nextKey_opened (blank : ∀ c ∈ gap, isSpace c = true) (m : Member) (behind : List Char) :
    nextKey true (gap ++ (m.text ++ behind)) = .ok (some (m.opened ++ behind)) := by
  have here : skip (gap ++ (m.text ++ behind)) = '"' :: (m.opened ++ behind) := by
    rw [skip_blanks blank, Member.text, List.append_assoc, List.cons_append,
      skip_to m.blank_before '"' rfl]
  simp [nextKey, here]

theorem nextKey_comma (blank : ∀ c ∈ gap, isSpace c = true) (m : Member) (behind : List Char) :
    nextKey false (gap ++ ',' :: (m.text ++ behind)) = .ok (some (m.opened ++ behind)) := by
  have here : skip (m.text ++ behind) = '"' :: (m.opened ++ behind) := by
    rw [Member.text, List.append_assoc, List.cons_append, skip_to m.blank_before '"' rfl]
  simp [nextKey, skip_to blank ',' rfl, here]

theorem nextKey_brace (blank : ∀ c ∈ gap, isSpace c = true) (first : Bool) :
    nextKey first (gap ++ '}' :: rest) = .ok none := by
  simp [nextKey, skip_to blank '}' rfl]

theorem ended_more (members : List Member) (rest : List Char) :
    endsNumber (more Member.text members ++ '}' :: rest) = true :=
  endsNumber_more Member.text members rfl

variable (regular : ∀ f ∈ record.fields, f.Regular rooms)

include regular

/-- From behind a member on, to the brace. -/
theorem PutsAll.fromMembers (puts : record.PutsAll rooms draft members last)
    (blank : ∀ c ∈ gap, isSpace c = true) (enough : members.length < fuel) :
    ∃ after, (∀ c ∈ after, isSpace c = true) ∧
      record.fromMembers rooms fuel false draft
        (gap ++ (more Member.text members ++ '}' :: rest)) = .ok (last, after ++ '}' :: rest) := by
  induction puts generalizing gap fuel with
  | done draft =>
    obtain ⟨fuel, rfl⟩ : ∃ less, fuel = less + 1 := ⟨fuel - 1, by omega⟩
    refine ⟨gap, blank, ?_⟩
    simp only [more, List.flatMap_nil, List.nil_append, Record.fromMembers, nextKey_brace blank]
  | @member draft next last m members puts _ ih =>
    rw [List.length_cons] at enough
    obtain ⟨fuel, rfl⟩ : ∃ less, fuel = less + 1 := ⟨fuel - 1, by omega⟩
    have goes := nextKey_comma blank m (more Member.text members ++ '}' :: rest)
    rw [more_cons, List.cons_append, List.append_assoc,
      puts.fromMembers regular goes (ended_more members rest)]
    exact ih m.blank_after (by omega)

theorem fromMembers_putsAll (blank : ∀ c ∈ gap, isSpace c = true)
    (read : record.fromMembers rooms fuel false draft
      (gap ++ (more Member.text members ++ '}' :: rest)) = .ok (last, left)) :
    record.PutsAll rooms draft members last := by
  induction members generalizing gap fuel draft with
  | nil =>
    cases fuel with
    | zero => cases read
    | succ fuel =>
      simp only [more, List.flatMap_nil, List.nil_append, Record.fromMembers,
        nextKey_brace blank] at read
      cases read
      exact .done _
  | cons m members ih =>
    cases fuel with
    | zero => cases read
    | succ fuel =>
      have goes := nextKey_comma blank m (more Member.text members ++ '}' :: rest)
      have ended := ended_more members rest
      rw [more_cons, List.cons_append, List.append_assoc] at read
      obtain ⟨next, puts⟩ := fromMembers_puts regular goes ended read
      rw [puts.fromMembers regular goes ended] at read
      exact .member puts (ih m.blank_after read)

theorem fromMembers_joined (blank : ∀ c ∈ gap, isSpace c = true) :
    (∃ behind, record.fromMembers rooms (fuelFor (gap ++ (joined members ++ '}' :: rest))) true
        draft (gap ++ (joined members ++ '}' :: rest)) = .ok (last, behind) ∧
        giveUp '}' behind = left) ↔
      left = rest ∧ record.PutsAll rooms draft members last := by
  have gives {after : List Char} (blank : ∀ c ∈ after, isSpace c = true) :
      giveUp '}' (after ++ '}' :: rest) = rest := by
    simp [giveUp, skip_to blank '}' rfl]
  cases members with
  | nil =>
    simp only [joined, List.nil_append, fuelFor, Record.fromMembers, nextKey_brace blank]
    constructor
    · rintro ⟨behind, read, rfl⟩
      cases read
      exact ⟨gives blank, .done _⟩
    · rintro ⟨rfl, puts⟩
      cases puts
      exact ⟨_, rfl, gives blank⟩
  | cons m members =>
    -- The first member stands behind the brace, the others behind a comma each.
    have goes := nextKey_opened blank m (more Member.text members ++ '}' :: rest)
    have ended := ended_more members rest
    have many : members.length ≤ (more Member.text members).length := length_le_more _ members
    have enough : members.length <
        2 * (gap ++ (joined (m :: members) ++ '}' :: rest)).length + 1 := by
      simp only [joined, List.length_append]
      omega
    simp only [joined, fuelFor, List.append_assoc] at enough ⊢
    constructor
    · rintro ⟨behind, read, rfl⟩
      obtain ⟨next, puts⟩ := fromMembers_puts regular goes ended read
      rw [puts.fromMembers regular goes ended] at read
      have others := fromMembers_putsAll regular m.blank_after read
      obtain ⟨after, blank_after, again⟩ := others.fromMembers regular m.blank_after enough
      obtain ⟨-, rfl⟩ := Prod.mk.inj (Except.ok.inj (read.symm.trans again))
      exact ⟨gives blank_after, .member puts others⟩
    · rintro ⟨rfl, puts⟩
      cases puts with
      | member puts others =>
        obtain ⟨after, blank_after, again⟩ := others.fromMembers regular m.blank_after enough
        exact ⟨_, (puts.fromMembers regular goes ended).trans again, gives blank_after⟩

/-- An object is read as a record just if its members fill the draft of one. -/
theorem fromText_braced {lead : List Char} (blank_lead : ∀ c ∈ lead, isSpace c = true)
    (blank : ∀ c ∈ gap, isSpace c = true) {a : α} :
    record.fromText (rooms + 1) (lead ++ (braced gap members ++ rest)) = .ok (a, left) ↔
      left = rest ∧
        ∃ last, record.PutsAll rooms record.empty members last ∧ record.finish last = .ok a := by
  rw [braced_append, fromText_brace blank_lead]
  constructor
  · rintro ⟨last, behind, read, finished, gives⟩
    obtain ⟨rfl, puts⟩ := (fromMembers_joined regular blank).mp ⟨behind, read, gives⟩
    exact ⟨rfl, last, puts, finished⟩
  · rintro ⟨rfl, last, puts, finished⟩
    obtain ⟨behind, read, gives⟩ := (fromMembers_joined regular blank).mpr ⟨rfl, puts⟩
    exact ⟨last, behind, read, finished, gives⟩

end Run

end Record

end NotebookKernel.Json
