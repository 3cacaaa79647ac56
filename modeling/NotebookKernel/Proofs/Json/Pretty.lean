import Mathlib.Data.List.Forall2
import Mathlib.Data.List.TakeWhile
import NotebookKernel.Json.Decoder
import NotebookKernel.Proofs.Json.Compact
import NotebookKernel.Proofs.Json.Digits

/-!
Indented text is read back. A decoder passes over the blanks before its value and leaves what
follows it, so lists and records are read member after member.
-/

namespace NotebookKernel.Json

theorem skip_indent (depth : Nat) (cs : List Char) : skip (indent depth ++ cs) = skip cs := by
  refine List.dropWhile_append_of_pos fun c blank => ?_
  rcases List.mem_cons.mp blank with rfl | blank
  · rfl
  · rw [List.eq_of_mem_replicate blank]
    rfl

/-- Neither a blank nor the end of a list. -/
def beginsValue : List Char → Bool
  | [] => false
  | c :: _ => !(isSpace c || c == ']')

theorem beginsValue_cons {text : List Char} (begins : beginsValue text = true) :
    ∃ c others, text = c :: others ∧ isSpace c = false ∧ c ≠ ']' := by
  cases text with
  | nil => cases begins
  | cons c others => exact ⟨c, others, rfl, by simpa [beginsValue] using begins⟩

theorem skip_value {text : List Char} (begins : beginsValue text = true) (rest : List Char) :
    skip (text ++ rest) = text ++ rest := by
  obtain ⟨c, others, rfl, visible, -⟩ := beginsValue_cons begins
  exact List.dropWhile_cons_of_neg (by simp [visible])

theorem beginsValue_digit {c : Char} (digit : isDigit c = true) (cs : List Char) :
    beginsValue (c :: cs) = true := by
  rw [beginsValue, Bool.not_eq_true']
  by_contra! other
  simp only [isSpace, Bool.or_eq_true, beq_iff_eq, Bool.not_eq_false] at other
  rcases other with (((rfl | rfl) | rfl) | rfl) | rfl <;> cases digit

/-- The decoder reads the text as the value, wherever it stands. -/
structure Decoder.Reads {α : Type} (decoder : Decoder α) (rooms : Nat) (text : List Char)
    (a : α) : Prop where
  begins : beginsValue text = true
  read : ∀ cs rest, skip cs = text ++ rest → endsNumber rest = true →
    decoder.fromText rooms cs = .ok (a, rest)

namespace Decoder

variable {α β : Type} {rooms depth : Nat}

theorem Reads.map {decoder : Decoder α} {text : List Char} {a : α}
    (reads : decoder.Reads rooms text a) (f : α → β) : (decoder.map f).Reads rooms text (f a) where
  begins := reads.begins
  read cs rest here ended := by
    simp only [Decoder.map, reads.read cs rest here ended]
    rfl

theorem beginsValue_str (depth : Nat) (s : String) :
    beginsValue (prettyAt depth (.str s)) = true := by
  rw [prettyAt]
  rfl

theorem stringAs_reads (expected s : String) :
    (stringAs expected).Reads rooms (prettyAt depth (.str s)) s where
  begins := beginsValue_str depth _
  read cs rest here _ := by
    obtain ⟨body, quoted, read⟩ := quote_read s rest
    simp only [prettyAt] at here
    simp only [stringAs, textFrom, here, quoted, read]

theorem choice_reads {variants : List (String × α)} {name : String} {a : α}
    (named : variant variants name = .ok a) :
    (choice variants).Reads rooms (prettyAt depth (.str name)) a where
  begins := beginsValue_str depth _
  read cs rest here _ := by
    obtain ⟨body, quoted, read⟩ := quote_read name rest
    simp only [prettyAt] at here
    have again : textFrom "variant identifier" ('"' :: body) = string body := rfl
    simp only [choice, here, quoted, if_true, variantFrom, again, read, named]

theorem nullable_null (inner : Decoder α) :
    (nullable inner).Reads rooms (prettyAt depth .null) none where
  begins := by
    rw [prettyAt]
    rfl
  read cs rest here _ := by
    simp only [prettyAt] at here
    simp only [nullable, here]
    rfl

theorem Reads.nullable {inner : Decoder α} {text : List Char} {a : α}
    (reads : inner.Reads rooms text a) (given : text.head? ≠ some 'n') :
    (Json.nullable inner).Reads rooms text (some a) where
  begins := reads.begins
  read cs rest here ended := by
    have value := reads.read (text ++ rest) rest (skip_value reads.begins rest) ended
    cases text with
    | nil => cases reads.begins
    | cons c text =>
      have other : c ≠ 'n' := by simpa using given
      simp only [Json.nullable, here]
      split
      · rename_i found
        exact absurd (List.cons.inj found).1 other
      · rw [value]
        rfl

theorem integerAs_reads (expected : String) {low high : Int} {n : Nat} (least : low ≤ n)
    (below : n < high) (fits : n ≤ greatestUnsigned) :
    (integerAs expected low high).Reads rooms (prettyAt depth (.int n)) (n : Int) := by
  rw [prettyAt]
  constructor
  · obtain ⟨first, others, written, digit⟩ := toString_begins fits
    rw [written, beginsValue_digit digit]
  · intro cs rest here ended
    obtain ⟨first, others, written, digit, read⟩ := number_read ended fits
    rw [written, List.cons_append] at here
    rw [List.cons_append] at read
    have plain : first ≠ '-' := by
      rintro rfl
      cases digit
    have within : integerOf expected low high (.int n) = .ok (n : Int) := if_pos ⟨least, below⟩
    simp only [integerAs, here, if_neg plain, digit, if_true, read, within]

theorem unsigned_reads {bits n : Nat} (fits : n < Nat.pow 2 bits) (small : bits ≤ 64) :
    (unsigned bits).Reads rooms (prettyAt depth (.int n)) n := by
  have greatest : greatestUnsigned + 1 = Nat.pow 2 64 := by decide
  have fewer : Nat.pow 2 bits ≤ Nat.pow 2 64 := Nat.pow_le_pow_right (by decide) small
  have below : (n : Int) < Int.pow 2 bits := Int.ofNat_lt.mpr fits
  exact (integerAs_reads _ (Int.natCast_nonneg n) below (by omega)).map Int.toNat

theorem int_head {n : Nat} (fits : n ≤ greatestUnsigned) :
    (prettyAt depth (.int n)).head? ≠ some 'n' := by
  obtain ⟨first, others, written, digit⟩ := toString_begins fits
  rw [prettyAt, written, List.head?_cons]
  rintro ⟨⟩
  cases digit

end Decoder

/-- What is written behind an entry that is followed by these. -/
def more {α : Type} (write : α → List Char) (entries : List α) : List Char :=
  entries.flatMap fun entry => ',' :: write entry

section More

variable {α : Type} (write : α → List Char)

theorem more_cons (entry : α) (entries : List α) :
    more write (entry :: entries) = ',' :: (write entry ++ more write entries) := by
  simp only [more, List.flatMap_cons, List.cons_append]

theorem length_le_more (entries : List α) : entries.length ≤ (more write entries).length := by
  induction entries with
  | nil => exact Nat.le_refl _
  | cons entry entries ih =>
    simp only [more_cons, List.length_cons, List.length_append]
    omega

theorem endsNumber_more (entries : List α) {closing : List Char}
    (ended : endsNumber closing = true) : endsNumber (more write entries ++ closing) = true := by
  cases entries with
  | nil => exact ended
  | cons entry entries => rfl

end More

def itemAt (depth : Nat) (item : Json) : List Char :=
  indent depth ++ prettyAt depth item

def memberAt (depth : Nat) (member : String × Json) : List Char :=
  indent depth ++ (quote member.1 ++ ':' :: ' ' :: prettyAt depth member.2)

theorem prettyItems_cons (depth : Nat) (item : Json) (items : List Json) :
    prettyItems depth (item :: items) = itemAt depth item ++ more (itemAt depth) items := by
  induction items generalizing item with
  | nil => simp [prettyItems, itemAt, more]
  | cons next items ih => simp [prettyItems, ih, itemAt, more_cons]

theorem prettyMembers_cons (depth : Nat) (member : String × Json)
    (members : List (String × Json)) :
    prettyMembers depth (member :: members) =
      memberAt depth member ++ more (memberAt depth) members := by
  induction members generalizing member with
  | nil => simp [prettyMembers, memberAt, more]
  | cons next members ih => simp [prettyMembers, ih, memberAt, more_cons]

theorem nextItem_first {text : List Char} (begins : beginsValue text = true) (depth : Nat)
    (rest : List Char) :
    nextItem true (indent depth ++ (text ++ rest)) = .ok (some (text ++ rest)) := by
  rw [nextItem, skip_indent, skip_value begins]
  obtain ⟨c, others, rfl, -, opens⟩ := beginsValue_cons begins
  simp

theorem nextItem_later {text : List Char} (begins : beginsValue text = true) (depth : Nat)
    (rest : List Char) :
    nextItem false (',' :: (indent depth ++ (text ++ rest))) = .ok (some (text ++ rest)) := by
  have comma (cs : List Char) : skip (',' :: cs) = ',' :: cs := rfl
  have here : skip (indent depth ++ (text ++ rest)) = text ++ rest := by
    rw [skip_indent, skip_value begins]
  obtain ⟨c, others, rfl, -, opens⟩ := beginsValue_cons begins
  rw [List.cons_append] at here ⊢
  simp only [nextItem, comma, Char.reduceEq, imp_self, Bool.false_eq_true, if_false, if_true, here]
  split
  · contradiction
  · rename_i bracket
    exact absurd (List.cons.inj bracket).1 opens
  · rfl

section Items

variable {α : Type} {inner : Decoder α} {rooms depth : Nat} {closing rest : List Char}

theorem itemsFrom_item {first : Bool} {cs : List Char} {value : Json} {values : List Json} {a : α}
    (next : nextItem first cs =
      .ok (some (prettyAt depth value ++ (more (itemAt depth) values ++ closing))))
    (reads : inner.Reads rooms (prettyAt depth value) a) (ended : endsNumber closing = true)
    {fuel : Nat} {items : List α}
    (others : itemsFrom (inner.fromText rooms) fuel false
      (more (itemAt depth) values ++ closing) = .ok (items, rest)) :
    itemsFrom (inner.fromText rooms) (fuel + 1) first cs = .ok (a :: items, rest) := by
  have here := reads.read _ _ (skip_value reads.begins (more (itemAt depth) values ++ closing))
    (endsNumber_more (itemAt depth) values ended)
  simp only [itemsFrom, next, here, others]
  rfl

theorem itemsFrom_more {values : List Json} {items : List α}
    (closes : skip closing = ']' :: rest) (ended : endsNumber closing = true)
    (each : List.Forall₂ (fun value a => inner.Reads rooms (prettyAt depth value) a) values items)
    (fuel : Nat) (enough : values.length < fuel) :
    itemsFrom (inner.fromText rooms) fuel false (more (itemAt depth) values ++ closing) =
      .ok (items, rest) := by
  induction each generalizing fuel with
  | nil =>
    obtain ⟨fuel, rfl⟩ : ∃ left, fuel = left + 1 := ⟨fuel - 1, by omega⟩
    have stops : nextItem false closing = .ok none := by
      rw [nextItem, closes]
      rfl
    simp only [more, List.flatMap_nil, List.nil_append, itemsFrom, stops, closeList, closes]
    rfl
  | @cons value a values items reads _ ih =>
    rw [List.length_cons] at enough
    obtain ⟨fuel, rfl⟩ : ∃ left, fuel = left + 1 := ⟨fuel - 1, by omega⟩
    refine itemsFrom_item ?_ reads ended (ih fuel (by omega))
    rw [more_cons, itemAt, List.cons_append, List.append_assoc, List.append_assoc,
      nextItem_later reads.begins]

end Items

theorem Decoder.listOf_reads {α : Type} {inner : Decoder α} {rooms depth : Nat}
    {values : List Json} {items : List α}
    (each : List.Forall₂ (fun value a => inner.Reads rooms (prettyAt (depth + 1) value) a)
      values items) :
    (listOf inner).Reads (rooms + 1) (prettyAt depth (.arr values)) items := by
  cases each with
  | nil =>
    refine ⟨rfl, fun cs rest here _ => ?_⟩
    have stops : nextItem true (']' :: rest) = .ok none := rfl
    have closed : closeList (']' :: rest) = .ok rest := rfl
    simp only [prettyAt, List.cons_append, List.nil_append] at here
    simp only [listOf, here, enter, fuelFor, itemsFrom, stops, closed]
    rfl
  | @cons value a values items reads others =>
    refine ⟨rfl, fun cs rest here _ => ?_⟩
    have closes : skip (indent depth ++ ']' :: rest) = ']' :: rest := skip_indent depth _
    simp only [prettyAt, prettyItems_cons, itemAt, List.cons_append, List.nil_append,
      List.append_assoc] at here
    have many := length_le_more (itemAt (depth + 1)) values
    have first := nextItem_first reads.begins (depth + 1)
      (more (itemAt (depth + 1)) values ++ (indent depth ++ ']' :: rest))
    simp only [listOf, here, enter, fuelFor]
    refine itemsFrom_item first reads rfl (itemsFrom_more closes rfl others _ ?_)
    simp only [List.length_append]
    omega

namespace Record

variable {σ α : Type} {record : Record σ α} {rooms depth : Nat}

theorem nextKey_first (depth : Nat) (key : String) (rest : List Char) :
    ∃ body, nextKey true (indent depth ++ (quote key ++ rest)) = .ok (some body) ∧
      string body = .ok (key, rest) := by
  obtain ⟨body, quoted, read⟩ := quote_read key rest
  refine ⟨body, ?_, read⟩
  rw [nextKey, skip_indent, quoted]
  rfl

theorem nextKey_later (depth : Nat) (key : String) (rest : List Char) :
    ∃ body, nextKey false (',' :: (indent depth ++ (quote key ++ rest))) = .ok (some body) ∧
      string body = .ok (key, rest) := by
  obtain ⟨body, quoted, read⟩ := quote_read key rest
  have comma (cs : List Char) : skip (',' :: cs) = ',' :: cs := rfl
  have here : skip (indent depth ++ '"' :: body) = '"' :: body := skip_indent depth _
  refine ⟨body, ?_, read⟩
  rw [nextKey, comma, quoted]
  simp [here]

/-- From one draft to another by members that are known and were not read before. -/
inductive Fills (record : Record σ α) (rooms depth : Nat) : σ → List (String × Json) → σ → Prop
  | done (draft : σ) : Fills record rooms depth draft [] draft
  | member {β : Type} {decoder : Decoder β} {get : σ → Option β} {set : σ → β → σ} {mayEnd : Bool}
      {draft last : σ} {key : String} {value : Json} {a : β} {members : List (String × Json)}
      (known : record.field? key = some (field key decoder get set mayEnd))
      (unset : get draft = none) (reads : decoder.Reads rooms (prettyAt depth value) a)
      (others : Fills record rooms depth (set draft a) members last) :
      Fills record rooms depth draft ((key, value) :: members) last

theorem fromMembers_member {β : Type} {decoder : Decoder β} {get : σ → Option β}
    {set : σ → β → σ} {mayEnd first : Bool} {draft : σ} {key : String} {text : List Char} {a : β}
    (known : record.field? key = some (field key decoder get set mayEnd))
    (unset : get draft = none) (reads : decoder.Reads rooms text a) {cs body rest : List Char}
    (next : nextKey first cs = .ok (some body))
    (named : string body = .ok (key, ':' :: ' ' :: (text ++ rest)))
    (ended : endsNumber rest = true) (fuel : Nat) :
    record.fromMembers rooms (fuel + 1) first draft cs =
      record.fromMembers rooms fuel false (set draft a) rest := by
  have blank : skip (' ' :: (text ++ rest)) = text ++ rest := skip_value reads.begins rest
  have value := reads.read _ rest blank ended
  have free : (field key decoder get set mayEnd).isSet draft = false := by
    simp only [field, unset, Option.isSome_none]
  have taken : (field key decoder get set mayEnd).fromText rooms draft (' ' :: (text ++ rest)) =
      .ok (set draft a, rest) := by
    simp only [field, value]
    rfl
  simp only [fromMembers, next, named, known, free, Bool.false_eq_true, if_false, colon_cons, taken]

theorem Fills.fromMembers_more {draft last : σ} {members : List (String × Json)}
    (fills : Fills record rooms depth draft members last) {closing rest : List Char}
    (closes : skip closing = '}' :: rest) (ended : endsNumber closing = true) (fuel : Nat)
    (enough : members.length < fuel) :
    record.fromMembers rooms fuel false draft (more (memberAt depth) members ++ closing) =
      .ok (last, closing) := by
  induction fills generalizing fuel with
  | done draft =>
    obtain ⟨fuel, rfl⟩ : ∃ left, fuel = left + 1 := ⟨fuel - 1, by omega⟩
    have stops : nextKey false closing = .ok none := by
      rw [nextKey, closes]
      rfl
    simp only [more, List.flatMap_nil, List.nil_append, fromMembers, stops]
  | @member _ _ _ _ _ _ _ key value _ members known unset reads _ ih =>
    rw [List.length_cons] at enough
    obtain ⟨fuel, rfl⟩ : ∃ left, fuel = left + 1 := ⟨fuel - 1, by omega⟩
    obtain ⟨body, next, named⟩ := nextKey_later depth key
      (':' :: ' ' :: (prettyAt depth value ++ (more (memberAt depth) members ++ closing)))
    have other := endsNumber_more (memberAt depth) members ended
    simp only [more_cons, memberAt, List.cons_append, List.append_assoc]
    rw [fromMembers_member known unset reads next named other, ih fuel (by omega)]

/-- An object of members that fill the draft is read as the record. -/
theorem Fills.reads {last : σ} {members : List (String × Json)} {result : α}
    (fills : Fills record rooms (depth + 1) record.empty members last)
    (finished : record.finish last = .ok result) :
    record.decoder.Reads (rooms + 1) (prettyAt depth (.obj members)) result := by
  have brace : '{' ≠ '[' := by decide
  cases fills with
  | done draft =>
    refine ⟨rfl, fun cs rest here _ => ?_⟩
    have stops : nextKey true ('}' :: rest) = .ok none := rfl
    have left : giveUp '}' ('}' :: rest) = rest := rfl
    simp only [prettyAt, List.cons_append, List.nil_append] at here
    simp only [decoder, fromText, here, if_neg brace, if_true, enter, fuelFor, fromMembers, stops,
      left, finishAt, finished]
    rfl
  | @member _ _ _ _ _ _ _ key value _ members known unset reads others =>
    refine ⟨rfl, fun cs rest here _ => ?_⟩
    have closes : skip (indent depth ++ '}' :: rest) = '}' :: rest := skip_indent depth _
    have left : giveUp '}' (indent depth ++ '}' :: rest) = rest := by
      rw [giveUp, closes]
      rfl
    obtain ⟨body, next, named⟩ := nextKey_first (depth + 1) key (':' :: ' ' ::
      (prettyAt (depth + 1) value ++
        (more (memberAt (depth + 1)) members ++ (indent depth ++ '}' :: rest))))
    have ended : endsNumber (indent depth ++ '}' :: rest) = true := rfl
    have other := endsNumber_more (memberAt (depth + 1)) members ended
    have many := length_le_more (memberAt (depth + 1)) members
    simp only [prettyAt, prettyMembers_cons, memberAt, List.cons_append, List.nil_append,
      List.append_assoc] at here
    simp only [decoder, fromText, here, if_neg brace, if_true, enter, fuelFor]
    rw [fromMembers_member known unset reads next named other,
      others.fromMembers_more closes ended]
    · simp only [left, finishAt, finished]
      rfl
    · simp only [List.length_append, List.length_cons]
      omega

end Record

/-- A whole text may have blanks behind its value. -/
theorem Decoder.Reads.ofText {α : Type} {decoder : Decoder α} {text : List Char} {a : α}
    (reads : decoder.Reads maxNesting text a) {blanks : List Char}
    (blank : ∀ c ∈ blanks, isSpace c = true) :
    decoder.ofText (.ofList (text ++ blanks)) = .ok a := by
  have read := reads.read _ blanks (skip_value reads.begins blanks) (endsNumber_blanks blank)
  have stops : skip blanks = [] := List.dropWhile_eq_nil_iff.mpr blank
  simp only [Decoder.ofText, readText, String.toList_ofList, read, whole, stops]
  rfl

end NotebookKernel.Json
