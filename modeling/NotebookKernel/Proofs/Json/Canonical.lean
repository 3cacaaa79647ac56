import Mathlib.Data.List.Induction
import Mathlib.Data.List.Sort
import NotebookKernel.Json.Basic

/-!
The entries of an object that was read stand in the order of their keys, each key once. A key
that was given several times has the value it was given last.
-/

namespace NotebookKernel.Json

/-- Objects have each key once. -/
inductive Keyed : Json → Prop
  | null : Keyed .null
  | bool (b : Bool) : Keyed (.bool b)
  | int (i : Int) : Keyed (.int i)
  | float (x : Binary64) : Keyed (.float x)
  | str (s : String) : Keyed (.str s)
  | arr (items : List Json) (inside : ∀ item ∈ items, Keyed item) : Keyed (.arr items)
  | obj (members : List (String × Json)) (distinct : (members.map (·.1)).Nodup)
      (inside : ∀ member ∈ members, Keyed member.2) : Keyed (.obj members)

theorem find?_cons (key name : String) (value : Json) (members : List (String × Json)) :
    find? key ((name, value) :: members) =
      if name = key then some value else find? key members := by
  by_cases same : name = key
  · subst same
    simp [find?]
  · simp [find?, same]

theorem find?_eq_some {key : String} {value : Json} {members : List (String × Json)}
    (distinct : (members.map (·.1)).Nodup) :
    find? key members = some value ↔ (key, value) ∈ members := by
  induction members with
  | nil => simp [find?]
  | cons first members ih =>
    obtain ⟨name, v⟩ := first
    obtain ⟨apart, others⟩ := List.nodup_cons.mp distinct
    rw [find?_cons, List.mem_cons]
    by_cases same : name = key
    · subst same
      have notLater : (name, value) ∉ members := fun later =>
        apart (List.mem_map.mpr ⟨_, later, rfl⟩)
      simp [notLater, eq_comm]
    · have notFirst : (key, value) ≠ (name, v) := fun equal => same (congrArg Prod.fst equal).symm
      simp [same, notFirst, ih others]

theorem mem_insert {key : String} {value : Json} {members : List (String × Json)}
    {member : String × Json} (inside : member ∈ insert key value members) :
    member = (key, value) ∨ member ∈ members := by
  induction members with
  | nil => exact .inl (List.mem_singleton.mp inside)
  | cons first members ih =>
    obtain ⟨k, v⟩ := first
    simp only [insert] at inside
    split at inside
    · exact List.mem_cons.mp inside
    · split at inside
      · exact (List.mem_cons.mp inside).imp_right (List.mem_cons_of_mem _)
      · rcases List.mem_cons.mp inside with first | later
        · exact .inr (List.mem_cons.mpr (.inl first))
        · exact (ih later).imp_right (List.mem_cons_of_mem _)

theorem find?_insert (key name : String) (value : Json) (members : List (String × Json)) :
    find? key (insert name value members) =
      if name = key then some value else find? key members := by
  induction members with
  | nil => exact find?_cons key name value []
  | cons first members ih =>
    obtain ⟨k, v⟩ := first
    simp only [insert]
    split
    · exact find?_cons key name value _
    · split
      · rename_i same
        subst same
        simp only [find?_cons]
        split <;> rfl
      · rename_i other
        simp only [find?_cons, ih]
        by_cases here : k = key
        · have notName : ¬ name = key := fun same => other (same.trans here.symm)
          rw [if_pos here, if_pos here, if_neg notName]
        · rw [if_neg here, if_neg here]

/-- In the order of their keys, no key twice. -/
def Ordered (members : List (String × Json)) : Prop :=
  members.Pairwise fun a b => a.1 < b.1

theorem ordered_insert {members : List (String × Json)} (ordered : Ordered members)
    (key : String) (value : Json) : Ordered (insert key value members) := by
  induction members with
  | nil => exact List.pairwise_singleton _ _
  | cons first members ih =>
    obtain ⟨k, v⟩ := first
    obtain ⟨least, others⟩ := List.pairwise_cons.mp ordered
    simp only [insert]
    split
    · rename_i before
      refine List.pairwise_cons.mpr ⟨fun member inside => ?_, ordered⟩
      rcases List.mem_cons.mp inside with rfl | later
      · exact before
      · exact String.lt_trans before (least member later)
    · rename_i notBefore
      split
      · rename_i same
        subst same
        exact List.pairwise_cons.mpr ⟨least, others⟩
      · rename_i other
        refine List.pairwise_cons.mpr ⟨fun member inside => ?_, ih others⟩
        rcases mem_insert inside with rfl | later
        · exact Std.lt_of_le_of_ne (Std.not_lt.mp notBefore) (fun same => other same.symm)
        · exact least member later

theorem ordered_nodup {members : List (String × Json)} (ordered : Ordered members) :
    (members.map (·.1)).Nodup := by
  refine List.pairwise_map.mpr (ordered.imp fun {a b} less same => ?_)
  rw [same] at less
  exact String.lt_irrefl _ less

/-- Entries in the order of their keys are told apart by the keys they have. -/
theorem ordered_ext {members others : List (String × Json)} (ordered : Ordered members)
    (ordered' : Ordered others) (same : ∀ member, member ∈ members ↔ member ∈ others) :
    members = others := by
  have antisymm : Std.Antisymm fun a b : String × Json => a.1 < b.1 :=
    ⟨fun a _ less more => absurd (String.lt_trans less more) (String.lt_irrefl a.1)⟩
  have irrefl : Std.Irrefl fun a b : String × Json => a.1 < b.1 :=
    ⟨fun a => String.lt_irrefl a.1⟩
  exact ordered.eq_of_mem_iff ordered' same

/-- The entries with some keys only. -/
theorem filter_ext {members others : List (String × Json)} (ordered : Ordered members)
    (ordered' : Ordered others) {keep : String → Bool}
    (same : ∀ key, keep key = true → find? key members = find? key others) :
    members.filter (keep ·.1) = others.filter (keep ·.1) := by
  refine ordered_ext (List.Pairwise.filter _ ordered) (List.Pairwise.filter _ ordered') ?_
  rintro ⟨key, value⟩
  simp only [List.mem_filter, and_congr_left_iff]
  intro kept
  rw [← find?_eq_some (ordered_nodup ordered), ← find?_eq_some (ordered_nodup ordered'),
    same key kept]

theorem canonical_concat (members : List (String × Json)) (member : String × Json) :
    canonical (members ++ [member]) = insert member.1 member.2 (canonical members) := by
  simp only [canonical, List.foldl_append, List.foldl_cons, List.foldl_nil]

theorem canonical_ordered (members : List (String × Json)) : Ordered (canonical members) := by
  induction members using List.reverseRecOn with
  | nil => exact List.Pairwise.nil
  | append_singleton members member ih =>
    rw [canonical_concat]
    exact ordered_insert ih _ _

theorem mem_canonical {members : List (String × Json)} {member : String × Json}
    (inside : member ∈ canonical members) : member ∈ members := by
  induction members using List.reverseRecOn with
  | nil => exact inside
  | append_singleton members last ih =>
    rw [canonical_concat] at inside
    rcases mem_insert inside with rfl | earlier
    · simp
    · exact List.mem_append_left _ (ih earlier)

/-- Of a repeated key the last counts. -/
theorem find?_canonical (key : String) (members : List (String × Json)) :
    find? key (canonical members) = find? key members.reverse := by
  induction members using List.reverseRecOn with
  | nil => rfl
  | append_singleton members last ih =>
    rw [canonical_concat, find?_insert, List.reverse_concat, find?_cons, ih]

theorem object_keyed {members : List (String × Json)}
    (inside : ∀ member ∈ members, Keyed member.2) : Keyed (object members) :=
  .obj _ (ordered_nodup (canonical_ordered members)) fun member here =>
    inside member (mem_canonical here)

end NotebookKernel.Json
