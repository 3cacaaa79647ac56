import NotebookKernel.Text.Utf8

/-!
Text survives its way through octets, and a line feed among the octets is one in the text.
What is a text stays one with whole characters behind it, and nothing else becomes one.
-/

namespace NotebookKernel.Text.Utf8

section Scan

variable {b : Nat} (octet : b < 256) (rest : Bytes)

include octet

theorem scan_opens {p : Partial} (opens : lead b = .ok p) :
    scan none (.ofNat b :: rest) = scan (some p) rest := by
  simp only [scan, UInt8.toNat_ofNat_of_lt' octet, opens]

variable {value seen missing low high : Nat} (above : low ≤ b) (below : b ≤ high)

include above below

theorem scan_continues (more : 1 < missing) :
    scan (some ⟨value, seen, missing, low, high⟩) (.ofNat b :: rest) =
      scan (some ⟨value * 64 + b % 64, seen + 1, missing - 1, 0x80, 0xBF⟩) rest := by
  simp only [scan, UInt8.toNat_ofNat_of_lt' octet, above, below, and_self, if_true,
    Nat.not_le.mpr more, if_false]

theorem scan_completes (last : missing ≤ 1) :
    scan (some ⟨value, seen, missing, low, high⟩) (.ofNat b :: rest) =
      .good (Char.ofNat (value * 64 + b % 64)) :: scan none rest := by
  simp only [scan, UInt8.toNat_ofNat_of_lt' octet, above, below, and_self, if_true, last]

end Scan

/-- A first octet that opens a character whose second octet is this. -/
def Opens (first value missing second : Nat) : Prop :=
  ∃ low high, lead first = .ok ⟨value, 1, missing, low, high⟩ ∧ low ≤ second ∧ second ≤ high

theorem opens_two {n : Nat} (least : 0x80 ≤ n) (most : n < 0x800) :
    Opens (0xC0 + n / 64) (n / 64) 1 (0x80 + n % 64) := by
  refine ⟨0x80, 0xBF, ?_, by omega, by omega⟩
  unfold lead
  rw [if_neg (by omega), if_neg (by omega), if_pos (by omega), Nat.add_sub_cancel_left]

/-- The octets E0 and ED keep overlong forms and surrogates out. -/
theorem opens_three {n : Nat} (least : 0x800 ≤ n) (most : n < 0x10000)
    (scalar : n < 0xD800 ∨ 0xDFFF < n) :
    Opens (0xE0 + n / 4096) (n / 4096) 2 (0x80 + n / 64 % 64) := by
  unfold Opens lead
  rw [if_neg (by omega), if_neg (by omega), if_neg (by omega)]
  by_cases lowest : n / 4096 = 0
  · simp only [lowest]
    exact ⟨0xA0, 0xBF, rfl, by omega, by omega⟩
  · rw [if_neg (by omega)]
    by_cases surrogates : n / 4096 = 13
    · simp only [surrogates]
      exact ⟨0x80, 0x9F, rfl, by omega, by omega⟩
    · rw [if_neg (by omega), if_pos (by omega), Nat.add_sub_cancel_left]
      exact ⟨0x80, 0xBF, rfl, by omega, by omega⟩

/-- The octets F0 and F4 keep overlong forms and what is beyond Unicode out. -/
theorem opens_four {n : Nat} (least : 0x10000 ≤ n) (most : n < 0x110000) :
    Opens (0xF0 + n / 262144) (n / 262144) 3 (0x80 + n / 4096 % 64) := by
  unfold Opens lead
  rw [if_neg (by omega), if_neg (by omega), if_neg (by omega), if_neg (by omega),
    if_neg (by omega), if_neg (by omega)]
  by_cases lowest : n / 262144 = 0
  · simp only [lowest]
    exact ⟨0x90, 0xBF, rfl, by omega, by omega⟩
  · rw [if_neg (by omega)]
    by_cases highest : n / 262144 = 4
    · simp only [highest]
      exact ⟨0x80, 0x8F, rfl, by omega, by omega⟩
    · rw [if_pos (by omega), Nat.add_sub_cancel_left]
      exact ⟨0x80, 0xBF, rfl, by omega, by omega⟩

/-- The octets of a character are read as that character. -/
theorem scan_encodeChar (c : Char) (rest : Bytes) :
    scan none (encodeChar c ++ rest) = .good c :: scan none rest := by
  have scalar : c.toNat < 0xD800 ∨ 0xDFFF < c.toNat ∧ c.toNat < 0x110000 := c.valid
  have same {m : Nat} (h : m = c.toNat) : Char.ofNat m = c := h ▸ Char.ofNat_toNat c
  simp only [encodeChar]
  generalize c.toNat = n at scalar same
  -- One case for each number of octets; what the octets add up to is arithmetic.
  split
  · rename_i ascii
    have opens : lead n = .error (.good (Char.ofNat n)) := if_pos ascii
    simp only [List.cons_append, List.nil_append, scan,
      UInt8.toNat_ofNat_of_lt' (show n < 256 by omega), opens, same rfl]
  · split
    · have opened : Opens (0xC0 + n / 64) (n / 64) 1 (0x80 + n % 64) :=
        opens_two (by omega) (by omega)
      obtain ⟨low, high, opens, above, below⟩ := opened
      simp only [List.cons_append, List.nil_append]
      rw [scan_opens (by omega) _ opens, scan_completes (by omega) _ above below (by decide),
        same (by omega)]
    · split
      · have opened : Opens (0xE0 + n / 4096) (n / 4096) 2 (0x80 + n / 64 % 64) :=
          opens_three (by omega) (by omega) (by omega)
        obtain ⟨low, high, opens, above, below⟩ := opened
        simp only [List.cons_append, List.nil_append]
        rw [scan_opens (by omega) _ opens,
          scan_continues (by omega) _ above below (by decide),
          scan_completes (by omega) _ (by omega) (by omega) (by decide), same (by omega)]
      · have opened : Opens (0xF0 + n / 262144) (n / 262144) 3 (0x80 + n / 4096 % 64) :=
          opens_four (by omega) (by omega)
        obtain ⟨low, high, opens, above, below⟩ := opened
        simp only [List.cons_append, List.nil_append]
        rw [scan_opens (by omega) _ opens,
          scan_continues (by omega) _ above below (by decide),
          scan_continues (by omega) _ (by omega) (by omega) (by decide),
          scan_completes (by omega) _ (by omega) (by omega) (by decide), same (by omega)]

theorem pieces_encode (cs : List Char) : pieces (encode cs) = cs.map .good := by
  unfold pieces encode
  induction cs with
  | nil => rfl
  | cons c cs ih => rw [List.flatMap_cons, scan_encodeChar, ih, List.map_cons]

theorem join_good (index : Nat) (cs : List Char) : join index (cs.map .good) = .ok cs := by
  induction cs generalizing index with
  | nil => rfl
  | cons c cs ih =>
    rw [List.map_cons, join, ih]
    rfl

theorem decode_encode (cs : List Char) : decode (encode cs) = .ok cs := by
  rw [decode, pieces_encode, join_good]

theorem encode_feed (cs : List Char) : encode (cs ++ ['\n']) = encode cs ++ [10] := by
  rw [encode, List.flatMap_append]
  rfl

theorem encode_inj {cs ds : List Char} : encode cs = encode ds ↔ cs = ds := by
  refine ⟨fun same => ?_, congrArg encode⟩
  have decoded := (decode_encode cs).symm.trans (congrArg decode same)
  rw [decode_encode] at decoded
  exact Except.ok.inj decoded

/-- The octets of a character beyond ASCII are beyond it too. -/
theorem encodeChar_high {c : Char} (beyond : 0x80 ≤ c.toNat) {b : UInt8}
    (member : b ∈ encodeChar c) : 0x80 ≤ b.toNat := by
  have scalar : c.toNat < 0xD800 ∨ 0xDFFF < c.toNat ∧ c.toNat < 0x110000 := c.valid
  have high {m : Nat} (most : m < 256) (least : 0x80 ≤ m) : 0x80 ≤ (UInt8.ofNat m).toNat := by
    rwa [UInt8.toNat_ofNat_of_lt' most]
  simp only [encodeChar, if_neg (Nat.not_lt.mpr beyond)] at member
  split at member
  · simp only [List.mem_cons, List.not_mem_nil, or_false] at member
    rcases member with rfl | rfl <;> exact high (by omega) (by omega)
  · split at member
    · simp only [List.mem_cons, List.not_mem_nil, or_false] at member
      rcases member with rfl | rfl | rfl <;> exact high (by omega) (by omega)
    · simp only [List.mem_cons, List.not_mem_nil, or_false] at member
      rcases member with rfl | rfl | rfl | rfl <;> exact high (by omega) (by omega)

/-- Only a line feed has the octet of one. -/
theorem feed_mem_encodeChar (c : Char) : 10 ∈ encodeChar c ↔ c = '\n' := by
  refine ⟨fun member => ?_, ?_⟩
  · have ascii : c.toNat < 0x80 := by
      refine Nat.lt_of_not_le fun beyond => ?_
      exact absurd (encodeChar_high beyond member) (by decide)
    simp only [encodeChar, if_pos ascii, List.mem_singleton] at member
    have value := congrArg UInt8.toNat member
    rw [UInt8.toNat_ofNat_of_lt' (show c.toNat < 256 by omega)] at value
    exact Char.toNat_inj.mp value.symm
  · rintro rfl
    decide

theorem feed_mem_encode (cs : List Char) : 10 ∈ encode cs ↔ '\n' ∈ cs := by
  simp only [encode, List.mem_flatMap, feed_mem_encodeChar, exists_eq_right]

/-- Only octets that cannot begin a character go on with it. -/
def Partial.Proper (p : Partial) : Prop := 0x80 ≤ p.low ∧ p.high ≤ 0xBF

/-- What becomes of a character at the end of the text if another one follows. -/
def Piece.broken : Piece → Piece
  | .cut n => .bad n
  | .good c => .good c
  | .bad n => .bad n

theorem lead_cases (b : Nat) :
    (∃ piece, lead b = .error piece ∧ piece.broken = piece) ∨ ∃ p, lead b = .ok p ∧ p.Proper := by
  unfold lead
  iterate 2
    split
    · exact .inl ⟨_, rfl, rfl⟩
  iterate 7
    split
    · exact .inr ⟨_, rfl, by simp, by simp⟩
  exact .inl ⟨_, rfl, rfl⟩

theorem encodeChar_begins (c : Char) :
    ∃ b tail, encodeChar c = b :: tail ∧ (b.toNat < 0x80 ∨ 0xC0 ≤ b.toNat) := by
  have scalar : c.toNat < 0xD800 ∨ 0xDFFF < c.toNat ∧ c.toNat < 0x110000 := c.valid
  have octet {m : Nat} (most : m < 256) : (UInt8.ofNat m).toNat = m :=
    UInt8.toNat_ofNat_of_lt' most
  simp only [encodeChar]
  split
  · exact ⟨_, _, rfl, .inl (by rw [octet (by omega)]; assumption)⟩
  · split
    · exact ⟨_, _, rfl, .inr (by rw [octet (by omega)]; omega)⟩
    · split
      · exact ⟨_, _, rfl, .inr (by rw [octet (by omega)]; omega)⟩
      · exact ⟨_, _, rfl, .inr (by rw [octet (by omega)]; omega)⟩

theorem scan_breaks {p : Partial} {b : UInt8} (other : ¬ (p.low ≤ b.toNat ∧ b.toNat ≤ p.high))
    (rest : Bytes) : scan (some p) (b :: rest) = .bad p.seen :: scan none (b :: rest) := by
  simp only [scan, if_neg other]

/-- A character is read whatever stands before it; what was open there is broken. -/
theorem scan_append (c : Char) (rest bytes : Bytes) {s : Option Partial}
    (proper : ∀ p ∈ s, p.Proper) :
    scan s (bytes ++ (encodeChar c ++ rest)) =
      (scan s bytes).map Piece.broken ++ .good c :: scan none rest := by
  induction bytes generalizing s with
  | nil =>
    cases s with
    | none => exact scan_encodeChar c rest
    | some p =>
      obtain ⟨low, high⟩ := proper p rfl
      obtain ⟨b, tail, encoded, begins⟩ := encodeChar_begins c
      have afresh := scan_encodeChar c rest
      rw [encoded, List.cons_append] at afresh
      rw [encoded, List.nil_append, List.cons_append, scan_breaks (by omega), afresh]
      rfl
  | cons b bytes ih =>
    have fresh : scan none (b :: bytes ++ (encodeChar c ++ rest)) =
        (scan none (b :: bytes)).map Piece.broken ++ .good c :: scan none rest := by
      obtain ⟨piece, opens, whole⟩ | ⟨p, opens, proper⟩ := lead_cases b.toNat
      · simp only [List.cons_append, scan, opens, ih (s := none) nofun, List.map_cons, whole]
      · simp only [List.cons_append, scan, opens]
        exact ih (by simpa using proper)
    cases s with
    | none => exact fresh
    | some p =>
      by_cases inside : p.low ≤ b.toNat ∧ b.toNat ≤ p.high
      · simp only [List.cons_append, scan, if_pos inside]
        split
        · simp only [ih (s := none) nofun, List.map_cons, List.cons_append, Piece.broken]
        · exact ih (by simp [Partial.Proper])
      · rw [List.cons_append, scan_breaks inside, scan_breaks inside, ← List.cons_append, fresh]
        rfl

theorem toOption_map {ε α β : Type} (f : α → β) (result : Except ε α) :
    (result.map f).toOption = result.toOption.map f := by
  cases result <;> rfl

theorem join_broken (index : Nat) (pieces : List Piece) (cs : List Char) :
    (join index (pieces.map Piece.broken ++ cs.map .good)).toOption =
      (join index pieces).toOption.map (· ++ cs) := by
  induction pieces generalizing index with
  | nil =>
    rw [List.map_nil, List.nil_append, join_good]
    rfl
  | cons piece pieces ih =>
    cases piece with
    | bad | cut => rfl
    | good c =>
      simp only [List.map_cons, List.cons_append, Piece.broken, join, toOption_map, ih]
      cases (join (index + width c) pieces).toOption <;> rfl

/-- Whole characters behind them do not change whether octets are a text, nor which. -/
theorem decode_append (bytes : Bytes) (cs : List Char) :
    (decode (bytes ++ encode cs)).toOption = (decode bytes).toOption.map (· ++ cs) := by
  cases cs with
  | nil => simp [encode]
  | cons c cs =>
    have split : pieces (bytes ++ encode (c :: cs)) =
        (pieces bytes).map Piece.broken ++ (c :: cs).map .good := by
      have rest := pieces_encode cs
      rw [encode, List.flatMap_cons, pieces, scan_append c _ _ (s := none) nofun]
      rw [pieces, encode] at rest
      rw [rest]
      rfl
    rw [decode, decode, split, join_broken]

theorem join_ok {index : Nat} {pieces : List Piece} {cs : List Char}
    (text : join index pieces = .ok cs) : pieces = cs.map .good := by
  induction pieces generalizing index cs with
  | nil =>
    cases text
    rfl
  | cons piece pieces ih =>
    cases piece with
    | bad | cut => cases text
    | good c =>
      rw [join] at text
      cases others : join (index + width c) pieces with
      | error fault =>
        rw [others] at text
        cases text
      | ok ds =>
        rw [others] at text
        cases text
        rw [ih others, List.map_cons]

/-- Octets that end with a whole character are read the same before any others. -/
theorem scan_whole {s : Option Partial} {bytes : Bytes} {cs : List Char}
    (whole : scan s bytes = cs.map .good) (rest : Bytes) :
    scan s (bytes ++ rest) = cs.map .good ++ scan none rest := by
  induction bytes generalizing s cs with
  | nil =>
    cases s with
    | none =>
      have empty : cs = [] := List.map_eq_nil_iff.mp whole.symm
      rw [empty]
      rfl
    | some p =>
      obtain ⟨c, _, -, other, -⟩ := List.map_eq_cons_iff.mp whole.symm
      cases other
  | cons b bytes ih =>
    have goes {piece : Piece} {s : Option Partial}
        (whole : piece :: scan s bytes = cs.map .good) :
        piece :: scan s (bytes ++ rest) = cs.map .good ++ scan none rest := by
      obtain ⟨c, others, rfl, rfl, tail⟩ := List.map_eq_cons_iff.mp whole.symm
      rw [ih tail.symm]
      rfl
    cases s with
    | none =>
      rw [List.cons_append]
      simp only [scan] at whole ⊢
      split
      · rename_i piece opens
        rw [opens] at whole
        exact goes whole
      · rename_i p opens
        rw [opens] at whole
        exact ih whole
    | some p =>
      by_cases inside : p.low ≤ b.toNat ∧ b.toNat ≤ p.high
      · rw [List.cons_append]
        simp only [scan, if_pos inside] at whole ⊢
        split
        · rename_i last
          rw [if_pos last] at whole
          exact goes whole
        · rename_i more
          rw [if_neg more] at whole
          exact ih whole
      · rw [scan_breaks inside] at whole
        obtain ⟨c, _, -, other, -⟩ := List.map_eq_cons_iff.mp whole.symm
        cases other

theorem scan_open_ne_nil (p : Partial) (bytes : Bytes) : scan (some p) bytes ≠ [] := by
  induction bytes generalizing p with
  | nil => exact List.cons_ne_nil _ _
  | cons b bytes ih =>
    by_cases inside : p.low ≤ b.toNat ∧ b.toNat ≤ p.high
    · simp only [scan, if_pos inside]
      split
      · exact List.cons_ne_nil _ _
      · exact ih _
    · rw [scan_breaks inside]
      exact List.cons_ne_nil _ _

theorem scan_eq_nil {bytes : Bytes} (none : scan none bytes = []) : bytes = [] := by
  cases bytes with
  | nil => rfl
  | cons b bytes =>
    simp only [scan] at none
    split at none
    · cases none
    · exact absurd none (scan_open_ne_nil _ _)

/-- What stands at the beginning of a text and is one itself is a beginning of its characters. -/
theorem decode_prefix {bytes rest : Bytes} {cs ds : List Char} (text : decode bytes = .ok ds)
    (whole : bytes ++ rest = encode cs) : ∃ es, cs = ds ++ es ∧ (es = [] → rest = []) := by
  have good : scan none bytes = ds.map .good := join_ok text
  have all : scan none (bytes ++ rest) = cs.map .good := by
    rw [whole]
    exact pieces_encode cs
  rw [scan_whole good] at all
  obtain ⟨front, back, rfl, same, left⟩ := List.map_eq_append_iff.mp all.symm
  have first : front = ds := (List.map_inj_right fun _ _ h => Piece.good.inj h).mp same
  refine ⟨back, by rw [first], fun none => scan_eq_nil ?_⟩
  rw [← left, none]
  rfl

end NotebookKernel.Text.Utf8
