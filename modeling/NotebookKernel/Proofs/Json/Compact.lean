import NotebookKernel.Json.Reader
import NotebookKernel.Proofs.Json.Quote
import NotebookKernel.Proofs.Text.Lines

/-!
Values of texts and objects on one line. The line is read back as the value, and it has neither
control characters nor blanks at its ends, whatever is in the texts.
-/

namespace NotebookKernel.Json

/-- Texts, and objects whose keys are in order, nested at most so deep. -/
inductive Plain : Nat → Json → Prop
  | str (depth : Nat) (s : String) : Plain depth (.str s)
  | obj (depth : Nat) (members : List (String × Json)) (ordered : canonical members = members)
      (inside : ∀ member ∈ members, Plain depth member.2) : Plain (depth + 1) (.obj members)

/-- What is written behind a member that is followed by these. -/
def afterMember : List (String × Json) → List Char
  | [] => ['}']
  | members => ',' :: compactMembers members

theorem compactMembers_cons (key : String) (value : Json) (members : List (String × Json)) :
    compactMembers ((key, value) :: members) =
      quote key ++ ':' :: (compact value ++ afterMember members) := by
  cases members <;> simp [compactMembers, afterMember]

theorem colon_cons (cs : List Char) : colon (':' :: cs) = .ok cs := rfl

/-- What is written for this value is read as it, whatever comes after. The length of the
text is fuel enough. -/
def ReadsBack (rooms : Nat) (value : Json) : Prop :=
  ∀ fuel rest, (compact value).length ≤ fuel →
    readValue fuel rooms (compact value ++ rest) = .ok (value, rest)

theorem str_readsBack (rooms : Nat) (s : String) : ReadsBack rooms (.str s) := by
  intro fuel rest enough
  cases fuel with
  | zero => simp [compact, quote] at enough
  | succ fuel =>
    obtain ⟨body, quoted, read⟩ := quote_read s rest
    have opens : skip ('"' :: body) = '"' :: body := rfl
    simp only [compact, quoted, readValue, opens, read]
    rfl

theorem members_readBack {rooms : Nat} {members : List (String × Json)} (some : members ≠ [])
    (inside : ∀ member ∈ members, ReadsBack rooms member.2) (rest : List Char) (fuel : Nat)
    (enough : (compactMembers members).length ≤ fuel + 1) :
    ∃ body, compactMembers members ++ rest = '"' :: body ∧
      readMembers fuel rooms body = .ok (members, rest) := by
  induction members generalizing fuel with
  | nil => exact absurd rfl some
  | cons member members ih =>
    obtain ⟨key, value⟩ := member
    have first : ReadsBack rooms value := inside (key, value) (by simp)
    obtain ⟨body, quoted, read⟩ :=
      quote_read key (':' :: (compact value ++ (afterMember members ++ rest)))
    refine ⟨body, by simpa [compactMembers_cons] using quoted, ?_⟩
    simp only [compactMembers_cons, quote, List.length_append, List.length_cons] at enough
    obtain ⟨fuel, rfl⟩ : ∃ left, fuel = left + 1 := ⟨fuel - 1, by omega⟩
    have reads := first fuel (afterMember members ++ rest) (by omega)
    cases members with
    | nil =>
      have closes : skip (afterMember [] ++ rest) = '}' :: rest := rfl
      simp only [readMembers, read, colon_cons, reads, closes]
    | cons next members =>
      simp only [afterMember, List.length_cons] at enough
      obtain ⟨tail, others, left⟩ :=
        ih (by simp) (fun member later => inside member (by simp [later])) fuel (by omega)
      have comma : skip (afterMember (next :: members) ++ rest) = ',' :: '"' :: tail := by
        rw [← others]
        rfl
      have opens : skip ('"' :: tail) = '"' :: tail := rfl
      simp only [readMembers, read, colon_cons, reads, comma, opens, left]
      rfl

theorem obj_readsBack {rooms : Nat} {members : List (String × Json)}
    (ordered : canonical members = members)
    (inside : ∀ member ∈ members, ReadsBack rooms member.2) :
    ReadsBack (rooms + 1) (.obj members) := by
  intro fuel rest enough
  simp only [compact, List.length_cons] at enough
  cases members with
  | nil =>
    simp only [compactMembers, List.length_cons, List.length_nil] at enough
    obtain ⟨fuel, rfl⟩ : ∃ left, fuel = left + 2 := ⟨fuel - 2, by omega⟩
    have opens : skip ('{' :: '}' :: rest) = '{' :: '}' :: rest := rfl
    have closes : skip ('}' :: rest) = '}' :: rest := rfl
    simp only [compact, compactMembers, List.cons_append, List.nil_append, readValue, opens,
      readObject, closes, object]
    rfl
  | cons member members =>
    have many : 2 ≤ (compactMembers (member :: members)).length := by
      rw [compactMembers_cons]
      simp [quote]
      omega
    obtain ⟨fuel, rfl⟩ : ∃ left, fuel = left + 2 := ⟨fuel - 2, by omega⟩
    obtain ⟨body, quoted, read⟩ := members_readBack (by simp) inside rest fuel (by omega)
    have opens : skip ('{' :: '"' :: body) = '{' :: '"' :: body := rfl
    have key : skip ('"' :: body) = '"' :: body := rfl
    simp only [compact, List.cons_append, quoted, readValue, opens, readObject, key, read, object,
      ordered, Except.map]
    rfl

namespace Plain

variable {depth : Nat} {value : Json}

theorem readsBack (plain : Plain depth value) {rooms : Nat} (deep : depth ≤ rooms) :
    ReadsBack rooms value := by
  induction plain generalizing rooms with
  | str depth s => exact str_readsBack rooms s
  | obj depth members ordered _ ih =>
    obtain ⟨rooms, rfl⟩ : ∃ left, rooms = left + 1 := ⟨rooms - 1, by omega⟩
    exact obj_readsBack ordered fun member inside => ih member inside (by omega)

theorem readText_compact (plain : Plain maxNesting value) : readText (compact value) = .ok value := by
  have enough : (compact value).length ≤ fuelFor (compact value) := by
    simp only [fuelFor]
    omega
  have read := plain.readsBack (Nat.le_refl _) (fuelFor (compact value)) [] enough
  rw [List.append_nil] at read
  rw [readText, read]
  rfl

end Plain

theorem compactMembers_printable {members : List (String × Json)}
    (inside : ∀ member ∈ members, ∀ c ∈ compact member.2, ¬ c < ' ') :
    ∀ c ∈ compactMembers members, ¬ c < ' ' := by
  induction members with
  | nil =>
    intro c closes
    rw [List.mem_singleton.mp closes]
    decide
  | cons member members ih =>
    obtain ⟨key, value⟩ := member
    intro c written
    simp only [compactMembers_cons, List.mem_append, List.mem_cons] at written
    rcases written with quoted | rfl | own | later
    · exact quote_printable key c quoted
    · decide
    · exact inside (key, value) (by simp) c own
    · cases members with
      | nil =>
        rw [List.mem_singleton.mp later]
        decide
      | cons next members =>
        rcases List.mem_cons.mp later with rfl | later
        · decide
        · exact ih (fun member other => inside member (by simp [other])) c later

theorem compactMembers_closed (members : List (String × Json)) :
    ∃ body, compactMembers members = body ++ ['}'] := by
  induction members with
  | nil => exact ⟨[], rfl⟩
  | cons member members ih =>
    obtain ⟨key, value⟩ := member
    rw [compactMembers_cons]
    cases members with
    | nil => exact ⟨quote key ++ ':' :: compact value, by simp [afterMember]⟩
    | cons next members =>
      obtain ⟨body, closed⟩ := ih
      exact ⟨quote key ++ ':' :: (compact value ++ ',' :: body), by simp [afterMember, closed]⟩

namespace Plain

variable {depth : Nat} {value : Json}

theorem printable (plain : Plain depth value) : ∀ c ∈ compact value, ¬ c < ' ' := by
  induction plain with
  | str depth s => exact quote_printable s
  | obj depth members _ _ ih =>
    exact List.forall_mem_cons.mpr ⟨by decide, compactMembers_printable ih⟩

/-- The line begins and ends with a quote or a brace. -/
theorem trim_line (plain : Plain depth value) :
    Text.trim (compact value ++ ['\n']) = compact value := by
  cases plain with
  | str depth s =>
    have ends : compact (.str s) = '"' :: (s.toList.flatMap escapeChar ++ ['"']) := rfl
    rw [ends]
    exact Text.trim_line _ rfl rfl
  | obj depth members =>
    obtain ⟨body, closed⟩ := compactMembers_closed members
    have ends : compact (.obj members) = '{' :: (body ++ ['}']) := by simp only [compact, closed]
    rw [ends]
    exact Text.trim_line _ rfl rfl

end Plain

end NotebookKernel.Json
