import NotebookKernel.Proofs.Json.Agreement

/-!
Lists that are read item after item. If a decoder takes from a text what it takes from the value
of the text, so does the decoder of lists of its values.
-/

namespace NotebookKernel.Json

variable {fuel rooms : Nat} {cs left rest : List Char} {value : Json} {values : List Json}

theorem ReadsAs.opens (reads : ReadsAs rooms cs value rest) :
    ∃ c others, skip cs = c :: others ∧ isSpace c = false ∧ c ≠ ']' := by
  obtain ⟨fuel, c, others, here, begins⟩ := reads.begins
  refine ⟨c, others, here, skip_head here, ?_⟩
  rintro rfl
  cases begins with
  | digit digit => cases digit

/-- What follows an item of a list, to the end of the list. -/
inductive Follows (rooms : Nat) : List Char → List Json → List Char → Prop
  | closing {gap rest : List Char} (blank : ∀ c ∈ gap, isSpace c = true) :
      Follows rooms (gap ++ ']' :: rest) [] rest
  | item {gap cs left rest : List Char} {value : Json} {values : List Json}
      (blank : ∀ c ∈ gap, isSpace c = true) (reads : ReadsAs rooms cs value left)
      (later : Follows rooms left values rest) :
      Follows rooms (gap ++ ',' :: cs) (value :: values) rest

/-- The items of a list from behind its bracket, to its end. -/
inductive Lists (rooms : Nat) : List Char → List Json → List Char → Prop
  | none {cs rest : List Char} (closes : skip cs = ']' :: rest) : Lists rooms cs [] rest
  | some {cs left rest : List Char} {value : Json} {values : List Json}
      (reads : ReadsAs rooms cs value left) (follows : Follows rooms left values rest) :
      Lists rooms cs (value :: values) rest

theorem Follows.ended (follows : Follows rooms cs values rest) : endsNumber cs = true := by
  cases follows with
  | closing blank => exact ended_before blank ']' rfl rest
  | item blank => exact ended_before blank ',' rfl _

theorem readItems_lists (read : readItems fuel rooms cs = .ok (values, rest)) :
    Lists rooms cs values rest := by
  induction fuel generalizing cs values with
  | zero =>
    simp only [readItems] at read
    cases read
  | succ fuel ih =>
    obtain ⟨item, gap, left, first, blank, goes⟩ := readItems_cases read
    rcases goes with ⟨rfl, rfl⟩ | ⟨lead, behind, others, rfl, blank_lead, opens, tail, rfl⟩
    · exact .some ⟨fuel, first⟩ (.closing blank)
    · refine .some ⟨fuel, first⟩ ?_
      cases ih tail with
      | none closes =>
        obtain ⟨gap', cut, blank'⟩ := skip_split behind
        cases gap' with
        | nil =>
          rw [List.nil_append, closes] at cut
          exact absurd rfl (opens ']' (by rw [cut, List.head?_cons]; rfl)).2
        | cons c gap' =>
          have visible := (opens c (by rw [cut]; rfl)).1
          rw [blank' c (by simp)] at visible
          cases visible
      | some reads follows => exact .item blank ((ReadsAs.blanks blank_lead).mpr reads) follows

theorem Follows.readItems (follows : Follows rooms left values rest)
    (reads : ReadsAs rooms cs value left) (enough : 2 * cs.length < fuel) :
    readItems fuel rooms cs = .ok (value :: values, rest) := by
  have ended := follows.ended
  induction follows generalizing cs value fuel with
  | closing blank =>
    obtain ⟨fuel, rfl⟩ : ∃ less, fuel = less + 1 := ⟨fuel - 1, by omega⟩
    exact readItems_last (reads.read ended (by omega)) blank
  | @item gap next behind rest value' values blank reads' later ih =>
    obtain ⟨fuel, rfl⟩ : ∃ less, fuel = less + 1 := ⟨fuel - 1, by omega⟩
    obtain ⟨c, others, here, visible, opens⟩ := reads'.opens
    obtain ⟨lead, cut, blank_lead⟩ := skip_split next
    rw [here] at cut
    subst cut
    have first : readValue fuel rooms cs = .ok (value, _) := reads.read ended (by omega)
    have shorter := reads.shorter
    simp only [List.length_append, List.length_cons] at shorter
    have tail : readItems fuel rooms (c :: others) = .ok (value' :: values, rest) :=
      ih ((ReadsAs.blanks blank_lead).mp reads') (by rw [List.length_cons]; omega) later.ended
    rw [readItems_more first blank blank_lead visible opens]
    exact map_ok.mpr ⟨_, tail, rfl⟩

/-- Lists are read item after item. -/
theorem readList_iff :
    (∃ fuel, readList fuel rooms cs = .ok (values, rest)) ↔ Lists rooms cs values rest := by
  constructor
  · rintro ⟨fuel, read⟩
    cases fuel with
    | zero =>
      simp only [readList] at read
      cases read
    | succ fuel =>
      simp only [readList] at read
      split at read
      · cases read
      · rename_i closes
        cases read
        exact .none closes
      · rename_i opens
        cases readItems_lists read with
        | none closes =>
          have twice : skip (skip cs) = skip cs := List.dropWhile_idempotent _ _
          exact absurd (twice.symm.trans closes) (opens _)
        | some reads follows => exact .some (ReadsAs.skipped.mp reads) follows
  · intro lists
    cases lists with
    | none closes => exact ⟨1, by simp only [readList, closes]⟩
    | some reads follows =>
      obtain ⟨c, others, here, visible, opens⟩ := reads.opens
      obtain ⟨lead, cut, blank⟩ := skip_split cs
      rw [here] at cut
      subst cut
      have items := follows.readItems ((ReadsAs.blanks blank).mp reads) (Nat.lt_succ_self _)
      exact ⟨_, (readList_blanks blank _ rooms _).trans
        ((readList_items visible opens _ rooms others).trans items)⟩

theorem readsAs_arr :
    ReadsAs rooms cs (.arr values) rest ↔
      ∃ inner behind, rooms = inner + 1 ∧ skip cs = '[' :: behind ∧
        Lists inner behind values rest := by
  constructor
  · intro reads
    obtain ⟨fuel, c, others, here, begins⟩ := reads.begins
    cases begins with
    | list room read => exact ⟨_, others, room, here, readList_iff.mp ⟨fuel, read⟩⟩
    | negative read => cases number_numeric read
    | digit digit read => cases number_numeric read
  · rintro ⟨inner, behind, rfl, here, lists⟩
    obtain ⟨fuel, read⟩ := readList_iff.mpr lists
    exact .of_begins here (.list rfl read)

namespace Decoder

variable {α : Type} {inner : Decoder α} {items : List α}

theorem mapM_cons_ok {read : Json → Except Mismatch α} :
    (value :: values).mapM read = .ok items ↔
      ∃ a others, read value = .ok a ∧ values.mapM read = .ok others ∧ items = a :: others := by
  rw [List.mapM_cons]
  cases read value with
  | error m => simp [bind, Except.bind]
  | ok a =>
    cases values.mapM read with
    | error m => simp [bind, Except.bind]
    | ok others => simp [bind, Except.bind, pure, Except.pure, eq_comm]

/-- Whether a list goes on behind an item. -/
theorem nextItem_later_ok {next : Option (List Char)} (goes : nextItem false cs = .ok next) :
    (∃ gap rest, (∀ c ∈ gap, isSpace c = true) ∧ cs = gap ++ ']' :: rest ∧ next = none) ∨
      ∃ gap others, (∀ c ∈ gap, isSpace c = true) ∧ cs = gap ++ ',' :: others ∧
        next = some (skip others) := by
  obtain ⟨gap, cut, blank⟩ := skip_split cs
  unfold nextItem at goes
  split at goes
  · cases goes
  · rename_i rest closes
    cases goes
    exact .inl ⟨gap, rest, blank, closes ▸ cut, rfl⟩
  · rename_i c others _ here
    rw [if_neg Bool.false_ne_true] at goes
    split at goes
    · rename_i comma
      subst comma
      split at goes
      · cases goes
      · cases goes
      · cases goes
        exact .inr ⟨gap, others, blank, here ▸ cut, rfl⟩
    · cases goes

theorem itemsFrom_follows (agrees : inner.Agrees)
    (taken : itemsFrom (inner.fromText rooms) fuel false cs = .ok (items, rest)) :
    ∃ values, Follows rooms cs values rest ∧ values.mapM inner.fromValue = .ok items := by
  induction fuel generalizing cs items with
  | zero => cases taken
  | succ fuel ih =>
    simp only [itemsFrom] at taken
    split at taken
    · cases taken
    · rename_i stops
      obtain ⟨gap, left, blank, rfl, -⟩ | ⟨gap, others, -, -, same⟩ := nextItem_later_ok stops
      · simp only [closeList, skip_to blank ']' rfl] at taken
        cases taken
        exact ⟨[], .closing blank, rfl⟩
      · cases same
    · rename_i next goes
      obtain ⟨gap, left, -, -, same⟩ | ⟨gap, others, blank, rfl, same⟩ := nextItem_later_ok goes
      · cases same
      · cases same
        split at taken
        · cases taken
        · rename_i a behind read
          obtain ⟨as, tail, rfl⟩ := map_ok.mp taken
          obtain ⟨value, reads, accepted⟩ := (agrees _ _ _ _).mp read
          obtain ⟨values, follows, all⟩ := ih tail
          exact ⟨value :: values, .item blank (ReadsAs.skipped.mp reads) follows,
            mapM_cons_ok.mpr ⟨a, as, accepted, all, rfl⟩⟩

theorem itemsFrom_of_follows (agrees : inner.Agrees) (follows : Follows rooms cs values rest)
    (all : values.mapM inner.fromValue = .ok items) (enough : cs.length < fuel) :
    itemsFrom (inner.fromText rooms) fuel false cs = .ok (items, rest) := by
  induction follows generalizing items fuel with
  | closing blank =>
    obtain ⟨fuel, rfl⟩ : ∃ less, fuel = less + 1 := ⟨fuel - 1, by omega⟩
    cases all
    simp only [itemsFrom, nextItem, closeList, skip_to blank ']' rfl]
    rfl
  | @item gap next left rest value values blank reads later ih =>
    obtain ⟨fuel, rfl⟩ : ∃ less, fuel = less + 1 := ⟨fuel - 1, by omega⟩
    obtain ⟨a, others, accepted, accepted', rfl⟩ := mapM_cons_ok.mp all
    obtain ⟨c, behind, here, -, opens⟩ := reads.opens
    have shorter := reads.shorter
    simp only [List.length_append, List.length_cons] at enough
    have taken := (agrees _ _ _ _).mpr ⟨value, ReadsAs.skipped.mpr reads, accepted⟩
    have goes : nextItem false (gap ++ ',' :: next) = .ok (some (skip next)) := by
      simp [nextItem, skip_to blank ',' rfl, here, opens]
    have tail : itemsFrom (inner.fromText rooms) fuel false left = .ok (others, rest) :=
      ih accepted' (by omega)
    simp only [itemsFrom, goes, taken]
    exact map_ok.mpr ⟨others, tail, rfl⟩

theorem nextItem_first_value {c : Char} {others : List Char} (here : skip cs = c :: others)
    (opens : c ≠ ']') : nextItem true cs = .ok (some (skip cs)) := by
  simp [nextItem, here]

theorem itemsFrom_lists (agrees : inner.Agrees)
    (taken : itemsFrom (inner.fromText rooms) fuel true cs = .ok (items, rest)) :
    ∃ values, Lists rooms cs values rest ∧ values.mapM inner.fromValue = .ok items := by
  cases fuel with
  | zero => cases taken
  | succ fuel =>
    cases here : skip cs with
    | nil => simp [itemsFrom, nextItem, here] at taken
    | cons c others =>
      by_cases closes : c = ']'
      · subst closes
        simp only [itemsFrom, nextItem, closeList, here] at taken
        cases taken
        exact ⟨[], .none here, rfl⟩
      · simp only [itemsFrom, nextItem_first_value here closes] at taken
        split at taken
        · cases taken
        · rename_i a behind read
          obtain ⟨as, tail, rfl⟩ := map_ok.mp taken
          obtain ⟨value, reads, accepted⟩ := (agrees _ _ _ _).mp read
          obtain ⟨values, follows, all⟩ := itemsFrom_follows agrees tail
          exact ⟨value :: values, .some (ReadsAs.skipped.mp reads) follows,
            mapM_cons_ok.mpr ⟨a, as, accepted, all, rfl⟩⟩

theorem itemsFrom_of_lists (agrees : inner.Agrees) (lists : Lists rooms cs values rest)
    (all : values.mapM inner.fromValue = .ok items) (enough : cs.length < fuel) :
    itemsFrom (inner.fromText rooms) fuel true cs = .ok (items, rest) := by
  obtain ⟨fuel, rfl⟩ : ∃ less, fuel = less + 1 := ⟨fuel - 1, by omega⟩
  cases lists with
  | none closes =>
    cases all
    simp only [itemsFrom, nextItem, closeList, closes]
    rfl
  | some reads follows =>
    obtain ⟨a, others, accepted, accepted', rfl⟩ := mapM_cons_ok.mp all
    obtain ⟨c, behind, here, -, opens⟩ := reads.opens
    have shorter := reads.shorter
    have taken := (agrees _ _ _ _).mpr ⟨_, ReadsAs.skipped.mpr reads, accepted⟩
    have tail : itemsFrom (inner.fromText rooms) fuel false _ = .ok (others, rest) :=
      itemsFrom_of_follows agrees follows accepted' (by omega)
    simp only [itemsFrom, nextItem_first_value here opens, taken]
    exact map_ok.mpr ⟨others, tail, rfl⟩

theorem Agrees.listOf (agrees : inner.Agrees) : (Json.listOf inner).Agrees := by
  intro rooms cs items rest
  constructor
  · intro taken
    simp only [Json.listOf] at taken
    split at taken
    · rename_i behind here
      cases rooms with
      | zero => cases taken
      | succ rooms =>
        obtain ⟨values, lists, all⟩ := itemsFrom_lists agrees taken
        exact ⟨.arr values, readsAs_arr.mpr ⟨rooms, behind, rfl, here, lists⟩, all⟩
    · cases taken
  · rintro ⟨value, reads, taken⟩
    cases value with
    | arr values =>
      obtain ⟨rooms, behind, rfl, here, lists⟩ := readsAs_arr.mp reads
      simp only [Json.listOf, here, enter]
      exact itemsFrom_of_lists agrees lists taken (by simp only [fuelFor]; omega)
    | _ => cases taken

end Decoder

end NotebookKernel.Json
