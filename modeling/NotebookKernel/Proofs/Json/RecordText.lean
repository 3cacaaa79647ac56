import NotebookKernel.Proofs.Json.Lists
import NotebookKernel.Proofs.Json.Members

/-!
The text that a record is read from is spelled by the grammar, whether it is an object or a list.
-/

namespace NotebookKernel.Json

section Closing

variable {cs left rest : List Char}

/-- What follows a part of a list or object, to the end of it. -/
def Closes (part : Part) (close : Char) (cs rest : List Char) : Prop :=
  ∃ gap, (∀ c ∈ gap, isSpace c = true) ∧
    (cs = gap ++ close :: rest ∨ ∃ others, cs = gap ++ ',' :: others ∧ Passes part others rest)

theorem Passes.items (value : Passes .value cs left) (closes : Closes .items ']' left rest) :
    Passes .items cs rest := by
  obtain ⟨gap, blank, rfl | ⟨others, rfl, later⟩⟩ := closes
  · exact value.lastItem blank
  · exact value.item blank later

theorem Passes.members {before gap content : List Char}
    (blank_before : ∀ c ∈ before, isSpace c = true) (blank_gap : ∀ c ∈ gap, isSpace c = true)
    (string : skimString cs = .ok (gap ++ ':' :: content)) (value : Passes .value content left)
    (closes : Closes .members '}' left rest) : Passes .members (before ++ '"' :: cs) rest := by
  obtain ⟨after, blank_after, goes⟩ := closes
  have blank : ∀ c ∈ before ++ (gap ++ after), isSpace c = true := by
    simp only [List.forall_mem_append]
    exact ⟨blank_before, blank_gap, blank_after⟩
  rcases goes with rfl | ⟨others, rfl, later⟩
  · exact value.lastMember blank string
  · exact value.member blank string later

theorem closeList_ok (closed : closeList cs = .ok rest) : skip cs = ']' :: rest := by
  unfold closeList at closed
  split at closed
  · cases closed
  · rename_i left here
    cases closed
    exact here
  · split at closed <;> cases closed
  · cases closed

theorem nextItem_first_ok {next : List Char} (goes : nextItem true cs = .ok (some next)) :
    next = skip cs := by
  unfold nextItem at goes
  split at goes
  · cases goes
  · cases goes
  · rename_i c others _ here
    cases goes
    exact here.symm

end Closing

namespace Record

variable {α σ : Type} {record : Record σ α} {rooms fuel : Nat} {draft last : σ}
  {cs left rest : List Char}

theorem nextKey_first_ok {next : Option (List Char)} (goes : nextKey true cs = .ok next) :
    (∃ rest, skip cs = '}' :: rest ∧ next = none) ∨
      ∃ others, skip cs = '"' :: others ∧ next = some others := by
  unfold nextKey at goes
  split at goes
  · cases goes
  · rename_i rest closes
    cases goes
    exact .inl ⟨rest, closes, rfl⟩
  · rename_i c others _ here
    rw [if_pos rfl] at goes
    split at goes
    · rename_i quote
      subst quote
      cases goes
      exact .inr ⟨others, here, rfl⟩
    · cases goes

theorem nextKey_later_ok {next : Option (List Char)} (goes : nextKey false cs = .ok next) :
    (∃ rest, skip cs = '}' :: rest ∧ next = none) ∨
      ∃ gap lead others, (∀ c ∈ gap, isSpace c = true) ∧ (∀ c ∈ lead, isSpace c = true) ∧
        cs = gap ++ ',' :: (lead ++ '"' :: others) ∧ next = some others := by
  obtain ⟨gap, cut, blank⟩ := skip_split cs
  unfold nextKey at goes
  split at goes
  · cases goes
  · rename_i rest closes
    cases goes
    exact .inl ⟨rest, closes, rfl⟩
  · rename_i c behind _ here
    rw [if_neg Bool.false_ne_true] at goes
    split at goes
    · rename_i comma
      subst comma
      obtain ⟨lead, cut', blank_lead⟩ := skip_split behind
      split at goes
      · cases goes
      · rename_i others quote
        cases goes
        rw [quote] at cut'
        exact .inr ⟨gap, lead, others, blank, blank_lead, by rw [← cut', ← here, ← cut], rfl⟩
      · cases goes
      · cases goes
    · cases goes

section Object

variable (regular : ∀ f ∈ record.fields, f.Regular rooms)

include regular

/-- A key is followed by one value, whether it is known or not. -/
theorem fromMembers_key {first : Bool} {body : List Char}
    (goes : nextKey first cs = .ok (some body))
    (read : record.fromMembers rooms (fuel + 1) first draft cs = .ok (last, left)) :
    ∃ gap content behind next, (∀ c ∈ gap, isSpace c = true) ∧
      skimString body = .ok (gap ++ ':' :: content) ∧ Passes .value content behind ∧
      record.fromMembers rooms fuel false next behind = .ok (last, left) := by
  simp only [fromMembers, goes] at read
  split at read
  · cases read
  · rename_i name unnamed key
    have string := string_skims key
    split at read
    · split at read
      · cases read
      · rename_i content named
        obtain ⟨gap, rfl, blank⟩ := colon_ok named
        split at read
        · cases read
        · rename_i behind skimmed
          exact ⟨gap, content, behind, draft, blank, string, skim_passes _ .value _ _ skimmed, read⟩
    · rename_i f known
      have inside : f ∈ record.fields := List.mem_of_find?_eq_some known
      split at read
      · cases read
      · split at read
        · cases read
        · rename_i content named
          obtain ⟨gap, rfl, blank⟩ := colon_ok named
          split at read
          · cases read
          · rename_i next behind taken
            exact ⟨gap, content, behind, next, blank, string,
              (regular f inside).passes _ _ _ _ taken, read⟩

theorem fromMembers_closes
    (read : record.fromMembers rooms fuel false draft cs = .ok (last, left)) :
    ∃ rest, skip left = '}' :: rest ∧ Closes .members '}' cs rest := by
  induction fuel generalizing draft cs with
  | zero => cases read
  | succ fuel ih =>
    cases goes : nextKey false cs with
    | error stop =>
      simp only [fromMembers, goes] at read
      cases read
    | ok next =>
      obtain ⟨rest, closes, rfl⟩ | ⟨gap, lead, others, blank, blank_lead, rfl, rfl⟩ :=
        nextKey_later_ok goes
      · simp only [fromMembers, goes] at read
        cases read
        obtain ⟨gap, cut, blank⟩ := skip_split left
        exact ⟨rest, closes, gap, blank, .inl (closes ▸ cut)⟩
      · obtain ⟨gap', content, behind, next, blank', string, value, later⟩ :=
          fromMembers_key regular goes read
        obtain ⟨rest, closes, others⟩ := ih later
        have members := value.members blank_lead blank' string others
        exact ⟨rest, closes, gap, blank, .inr ⟨_, rfl, members⟩⟩

theorem fromMembers_object
    (read : record.fromMembers rooms fuel true draft cs = .ok (last, left)) :
    Passes .value ('{' :: cs) (giveUp '}' left) := by
  cases fuel with
  | zero => cases read
  | succ fuel =>
    obtain ⟨gap, cut, blank⟩ := skip_split cs
    cases goes : nextKey true cs with
    | error stop =>
      simp only [fromMembers, goes] at read
      cases read
    | ok next =>
      obtain ⟨rest, closes, rfl⟩ | ⟨others, quote, rfl⟩ := nextKey_first_ok goes
      · simp only [fromMembers, goes] at read
        cases read
        have gives : giveUp '}' cs = rest := by simp [giveUp, closes]
        rw [closes] at cut
        rw [gives, cut]
        exact .emptyObject blank
      · obtain ⟨gap', content, behind, next, blank', string, value, later⟩ :=
          fromMembers_key regular goes read
        obtain ⟨rest, closes, others⟩ := fromMembers_closes regular later
        have gives : giveUp '}' left = rest := by simp [giveUp, closes]
        rw [quote] at cut
        rw [gives, cut]
        exact .object (value.members blank blank' string others)

end Object

section List

variable {fields : List (Field σ)} (regular : ∀ f ∈ fields, f.Regular rooms)

include regular

theorem fromItems_closes {index : Nat} (later : index ≠ 0)
    (read : record.fromItems rooms fields index draft cs = .ok (last, left))
    (closed : closeList left = .ok rest) : Closes .items ']' cs rest := by
  induction fields generalizing index draft cs with
  | nil =>
    cases read
    obtain ⟨gap, cut, blank⟩ := skip_split left
    exact ⟨gap, blank, .inl (closeList_ok closed ▸ cut)⟩
  | cons f fields ih =>
    have others : ∀ g ∈ fields, g.Regular rooms :=
      fun g inside => regular g (List.mem_cons_of_mem f inside)
    simp only [fromItems, beq_false_of_ne later] at read
    split at read
    · cases read
    · split at read
      · exact ih others later read
      · cases read
    · rename_i next goes
      obtain ⟨gap, rest, -, -, same⟩ | ⟨gap, items, blank, rfl, same⟩ :=
        Decoder.nextItem_later_ok goes
      · cases same
      · cases same
        split at read
        · cases read
        · rename_i filled behind taken
          have value := ((regular f (by simp)).passes _ _ _ _ taken).of_skip
          have closes := ih others (Nat.succ_ne_zero _) read
          exact ⟨gap, blank, .inr ⟨items, rfl, value.items closes⟩⟩

theorem fromItems_list
    (read : record.fromItems rooms fields 0 draft cs = .ok (last, left))
    (closed : closeList left = .ok rest) : Passes .value ('[' :: cs) rest := by
  have empty (closes : skip cs = ']' :: rest) : Passes .value ('[' :: cs) rest := by
    obtain ⟨gap, cut, blank⟩ := skip_split cs
    rw [cut, closes]
    exact .emptyList blank
  induction fields generalizing draft with
  | nil =>
    cases read
    exact empty (closeList_ok closed)
  | cons f fields ih =>
    have others : ∀ g ∈ fields, g.Regular rooms :=
      fun g inside => regular g (List.mem_cons_of_mem f inside)
    simp only [fromItems, BEq.rfl] at read
    split at read
    · cases read
    · split at read
      · exact ih others read
      · cases read
    · rename_i next goes
      obtain rfl := nextItem_first_ok goes
      split at read
      · cases read
      · rename_i filled behind taken
        have value := ((regular f (by simp)).passes _ _ _ _ taken).of_skip
        exact .list (value.items (fromItems_closes others (Nat.succ_ne_zero _) read closed))

end List

/-- Whatever a record is read from is one value. -/
theorem fromText_passes (regular : ∀ f ∈ record.fields, f.Regular rooms) {a : α}
    (read : record.fromText (rooms + 1) cs = .ok (a, rest)) :
    Passes .value cs rest := by
  refine .of_skip ?_
  simp only [fromText] at read
  split at read
  · cases read
  · rename_i c body here
    rw [here]
    split at read
    · rename_i bracket
      subst bracket
      simp only [enter] at read
      split at read
      · cases read
      · rename_i draft left items
        split at read
        · cases read
        · obtain ⟨_, closed⟩ : ∃ left', closeList left = .ok left' := by
            cases closed : closeList left with
            | error stop =>
              rw [closed] at read
              cases read
            | ok left' => exact ⟨left', rfl⟩
          rw [closed] at read
          cases read
          exact fromItems_list regular items closed
    · split at read
      · rename_i brace
        subst brace
        simp only [enter] at read
        split at read
        · cases read
        · rename_i draft left members
          have object := fromMembers_object regular members
          cases finished : record.finish draft with
          | error m =>
            simp only [finishAt, finished] at read
            cases read
          | ok b =>
            simp only [finishAt, finished] at read
            cases read
            exact object
      · cases read

/-- A text that is no value at all is no record either. -/
theorem ofText_isText (regular : ∀ f ∈ record.fields, f.Regular (maxNesting - 1)) {text : String}
    {a : α} (read : record.decoder.ofText text = .ok a) : IsText text.toList := by
  obtain ⟨trail, taken, blank⟩ := Decoder.ofText_ok.mp read
  obtain ⟨used, spells, cut, -⟩ := fromText_passes regular taken
  exact ⟨used, trail, spells, blank, cut⟩

end Record

end NotebookKernel.Json
