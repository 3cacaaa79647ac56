import NotebookKernel.Proofs.Json.Choice
import NotebookKernel.Proofs.Json.Lists
import NotebookKernel.Settings

/-!
What a field of the settings takes from the text of a value: what the settings have there when they
are written as JSON. A name may also stand as the only key of an object.
-/

namespace NotebookKernel.Settings

open Json (Decoder Names Spells choice field listOf maxNesting nullable stringAs stringDecoder
  unsigned)

/-- What the text of a value stands for in a field. -/
inductive Means (name : String) (content : List Char) : Json → Prop
  | value {value : Json} (read : Json.readText content = .ok value) : Means name content value
  | named {variant : String} (choice : name = "protocol" ∨ name = "toolchain")
      (names : Names variant content) : Means name content (.str variant)

/-- The settings have in the field what the text of a value stands for. -/
def Gives (settings : Settings) (name : String) (content : List Char) : Prop :=
  ∃ value, Means name content value ∧ settings.toJson.get? name = some value

section Values

variable {α : Type} {name : String}

/-- The decoder takes a value just from what is written for it. -/
def Inverts (decoder : Decoder α) (write : α → Json) : Prop :=
  ∀ value a, decoder.fromValue value = .ok a ↔ value = write a

theorem stringAs_inverts (expected : String) : Inverts (stringAs expected) .str := by
  intro value s
  cases value <;> simp [stringAs]

theorem Inverts.nullable {inner : Decoder α} {write : α → Json} (inverts : Inverts inner write)
    (given : ∀ a, write a ≠ .null) : Inverts (nullable inner) (orNull write) := by
  intro value a
  by_cases null : value = .null
  · subst null
    cases a with
    | none => simp [Json.nullable, orNull]
    | some a => simpa [Json.nullable, orNull] using (given a).symm
  · rw [Decoder.nullable_value inner null, Decoder.map_eq_ok]
    cases a with
    | none => simpa [orNull] using null
    | some a => simp [inverts value, orNull]

theorem Inverts.listOf {inner : Decoder α} {write : α → Json} (inverts : Inverts inner write) :
    Inverts (listOf inner) fun items => .arr (items.map write) := by
  have each (values : List Json) (items : List α) :
      values.mapM inner.fromValue = .ok items ↔ values = items.map write := by
    induction values generalizing items with
    | nil => cases items <;> simp [pure, Except.pure]
    | cons value values ih =>
      rw [Decoder.mapM_cons_ok]
      cases items with
      | nil => simp
      | cons a items =>
        simp only [inverts value, ih, List.map_cons, List.cons.injEq]
        constructor
        · rintro ⟨_, _, rfl, rfl, rfl, rfl⟩
          exact ⟨rfl, rfl⟩
        · rintro ⟨rfl, rfl⟩
          exact ⟨a, items, rfl, rfl, rfl, rfl⟩
  intro value items
  cases value with
  | arr values => simpa [Json.listOf] using each values items
  | _ => simp [Json.listOf]

theorem unsigned_ok {bits n : Nat} {value : Json} :
    (unsigned bits).fromValue value = .ok n ↔ value = .int n ∧ n < Nat.pow 2 bits := by
  simp only [unsigned, Decoder.map, Decoder.map_eq_ok]
  constructor
  · rintro ⟨i, taken, rfl⟩
    obtain ⟨rfl, least, below⟩ := Decoder.integerOf_ok.mp taken
    obtain ⟨m, rfl⟩ := Int.eq_ofNat_of_zero_le least
    exact ⟨rfl, Int.ofNat_lt.mp below⟩
  · rintro ⟨rfl, fits⟩
    have below : (n : Int) < Int.pow 2 bits := Int.ofNat_lt.mpr fits
    exact ⟨n, Decoder.integerOf_ok.mpr ⟨rfl, Int.natCast_nonneg n, below⟩, rfl⟩

theorem seconds_inverts : Inverts seconds fun n => .int n.toNat := by
  intro value n
  have taken : seconds.fromValue value = .ok n ↔
      ∃ m, (unsigned 64).fromValue value = .ok m ∧ UInt64.ofNat m = n := Decoder.map_eq_ok
  simp only [taken, unsigned_ok]
  constructor
  · rintro ⟨m, ⟨rfl, fits⟩, rfl⟩
    rw [UInt64.toNat_ofNat_of_lt' fits]
  · rintro rfl
    exact ⟨n.toNat, ⟨rfl, n.toNat_lt⟩, UInt64.ofNat_toNat⟩

theorem protocols_known {name : String} {protocol : Protocol} :
    Json.variant protocols name = .ok protocol ↔ name = protocol.name := by
  constructor
  · intro known
    obtain ⟨p, -, same⟩ := List.mem_map.mp (Json.variant_mem known)
    cases same
    rfl
  · rintro rfl
    cases protocol <;> simp [Json.variant, protocols, Protocol.all, Protocol.name]

theorem toolchains_known {name : String} {toolchain : Toolchain} :
    Json.variant toolchains name = .ok toolchain ↔ name = toolchain.name := by
  constructor
  · intro known
    obtain ⟨t, -, same⟩ := List.mem_map.mp (Json.variant_mem known)
    cases same
    rfl
  · rintro rfl
    cases toolchain <;> simp [Json.variant, toolchains, Toolchain.all, Toolchain.name]

end Values

section Texts

variable {α : Type} {name : String}

/-- One list or object is open around the field. -/
abbrev inside : Nat := maxNesting - 1

/-- The decoder takes from the text of a value what the value means in the field. -/
structure Fits (decoder : Decoder α) (name : String) (write : α → Json) : Prop where
  regular : decoder.Regular inside
  takes : ∀ content a, Spells .value content →
    (decoder.fromText inside content = .ok (a, []) ↔ Means name content (write a))

theorem Fits.of_agrees {decoder : Decoder α} {write : α → Json} (agrees : decoder.Agrees)
    (inverts : Inverts decoder write)
    (shallow : decoder.fromText inside = decoder.fromText maxNesting)
    (plain : name ≠ "protocol" ∧ name ≠ "toolchain") : Fits decoder name write where
  regular := agrees.regular inside
  takes content a spells := by
    rw [shallow, agrees.readText spells]
    constructor
    · rintro ⟨value, read, taken⟩
      exact .value ((inverts value a).mp taken ▸ read)
    · intro means
      generalize same : write a = value at means
      cases means with
      | value read => exact ⟨value, read, (inverts value a).mpr same.symm⟩
      | named choice => exact absurd choice (not_or.mpr plain)

theorem Fits.of_choice {variants : List (String × α)} {text : α → String}
    (known : ∀ {name a}, Json.variant variants name = .ok a ↔ name = text a)
    (chosen : name = "protocol" ∨ name = "toolchain") :
    Fits (choice variants) name fun a => .str (text a) where
  regular := Json.choice_regular variants (inside - 1)
  takes content a spells := by
    have taken : (choice variants).fromText inside content = .ok (a, []) ↔
        Names (text a) content := by
      refine Json.choice_ok.trans ?_
      constructor
      · rintro ⟨name, used, cut, names, variant⟩
        rw [cut, List.append_nil, ← known.mp variant]
        exact names
      · exact fun names => ⟨text a, content, by simp, names, known.mpr rfl⟩
    rw [taken]
    constructor
    · exact .named chosen
    · intro means
      cases means with
      | value read => exact .of_str spells read
      | named _ names => exact names

end Texts

/-- What the draft has in a field, as it is written. -/
def Draft.given (draft : Draft) (name : String) : Option Json :=
  match name with
  | "protocol" => draft.protocol.map fun protocol => .str protocol.name
  | "interpreter" => draft.interpreter.map (orNull .str)
  | "interpreter_args" => draft.interpreterArgs.map fun items => .arr (items.map .str)
  | "toolchain" => draft.toolchain.map fun toolchain => .str toolchain.name
  | "eval_timeout_secs" => draft.timeoutSeconds.map (orNull fun n => .int n.toNat)
  | _ => none

/-- What a field of the record does, for the values that are its own. -/
structure Keeps (f : Json.Field Draft) (name : String) : Prop where
  regular : f.Regular inside
  isSet : ∀ draft, f.isSet draft = (draft.given name).isSome
  taken : ∀ draft later content, Spells .value content →
    f.fromText inside draft content = .ok (later, []) →
    ∃ value, Means name content value ∧
      ∀ other, later.given other = if other = name then some value else draft.given other
  takes : ∀ draft settings content, Spells .value content → Gives settings name content →
    ∃ later, f.fromText inside draft content = .ok (later, [])

section Record

variable {α : Type} {name : String} {decoder : Decoder α} {get : Draft → Option α}
  {set : Draft → α → Draft} {mayEnd : Bool} {write : α → Json}

theorem Fits.keeps (fits : Fits decoder name write)
    (given : ∀ draft : Draft, draft.given name = (get draft).map write)
    (kept : ∀ draft a, get (set draft a) = some a)
    (others : ∀ (draft : Draft) a other, other ≠ name →
      (set draft a).given other = draft.given other)
    (written : ∀ settings : Settings, ∃ a, settings.toJson.get? name = some (write a)) :
    Keeps (field name decoder get set mayEnd) name where
  regular := fits.regular.field name get set mayEnd
  isSet draft := by
    rw [given, Option.isSome_map]
    rfl
  taken draft later content spells read := by
    obtain ⟨a, alone, rfl⟩ := Json.map_ok.mp read
    refine ⟨write a, (fits.takes content a spells).mp alone, fun other => ?_⟩
    split
    · rename_i same
      rw [same, given, kept]
      rfl
    · rename_i apart
      exact others draft a other apart
  takes draft settings content spells gives := by
    obtain ⟨value, means, there⟩ := gives
    obtain ⟨a, written⟩ := written settings
    obtain rfl := Option.some.inj (written.symm.trans there)
    exact ⟨_, Json.map_ok.mpr ⟨a, (fits.takes content a spells).mpr means, rfl⟩⟩

/-- The names of the fields. -/
def names : List String :=
  ["protocol", "interpreter", "interpreter_args", "toolchain", "eval_timeout_secs"]

theorem names_fields : names = record.fields.map (·.name) := rfl

theorem protocol_fits : Fits (choice protocols) "protocol" fun protocol => .str protocol.name :=
  .of_choice protocols_known (.inl rfl)

theorem interpreter_fits :
    Fits (nullable (stringAs "path string")) "interpreter" (orNull .str) :=
  .of_agrees (Decoder.stringAs_agrees _).nullable
    ((stringAs_inverts _).nullable fun _ => nofun) rfl (by decide)

theorem arguments_fits :
    Fits (listOf stringDecoder) "interpreter_args" fun items => .arr (items.map .str) :=
  .of_agrees (Decoder.stringAs_agrees _).listOf (stringAs_inverts _).listOf rfl (by decide)

theorem toolchain_fits :
    Fits (choice toolchains) "toolchain" fun toolchain => .str toolchain.name :=
  .of_choice toolchains_known (.inr rfl)

theorem timeout_fits :
    Fits (nullable seconds) "eval_timeout_secs" (orNull fun n => .int n.toNat) :=
  .of_agrees (((Decoder.integerAs_agrees _ _ _).map _).map _).nullable
    (seconds_inverts.nullable fun _ => nofun) rfl (by decide)

theorem keeps_fields : ∀ f ∈ record.fields, Keeps f f.name := by
  simp only [record, List.forall_mem_cons]
  refine ⟨protocol_fits.keeps (fun _ => rfl) (fun _ _ => rfl) ?_ fun s => ⟨s.protocol, rfl⟩,
    interpreter_fits.keeps (fun _ => rfl) (fun _ _ => rfl) ?_ fun s => ⟨s.interpreter, rfl⟩,
    arguments_fits.keeps (fun _ => rfl) (fun _ _ => rfl) ?_ fun s => ⟨s.interpreterArgs, rfl⟩,
    toolchain_fits.keeps (fun _ => rfl) (fun _ _ => rfl) ?_ fun s => ⟨s.toolchain, rfl⟩,
    timeout_fits.keeps (fun _ => rfl) (fun _ _ => rfl) ?_ fun s => ⟨s.timeoutSeconds, rfl⟩,
    List.forall_mem_nil _⟩
  -- Each setter leaves what is written of the other fields.
  all_goals
    intro draft a other apart
    unfold Draft.given
    split <;> simp_all

theorem regular_fields : ∀ f ∈ record.fields, f.Regular inside :=
  fun f there => (keeps_fields f there).regular

theorem keeps {f : Json.Field Draft} (known : record.field? name = some f) : Keeps f name := by
  have same : f.name = name := by simpa using List.find?_some known
  exact same ▸ keeps_fields f (List.mem_of_find?_eq_some known)

theorem field?_isSome : (record.field? name).isSome ↔ name ∈ names := by
  simp [Json.Record.field?, names_fields]

/-- What the draft does not have is written as by default. -/
theorem settings_get? (draft : Draft) {name : String} (known : name ∈ names) :
    draft.settings.toJson.get? name =
      (draft.given name).or (({} : Settings).toJson.get? name) := by
  simp only [names, List.mem_cons, List.not_mem_nil, or_false] at known
  obtain ⟨protocol, interpreter, interpreterArgs, toolchain, timeoutSeconds⟩ := draft
  rcases known with rfl | rfl | rfl | rfl | rfl
  · cases protocol <;> rfl
  · cases interpreter <;> rfl
  · cases interpreterArgs <;> rfl
  · cases toolchain <;> rfl
  · cases timeoutSeconds <;> rfl

theorem given_empty (name : String) : ({} : Draft).given name = none := by
  unfold Draft.given
  split <;> rfl

end Record

end NotebookKernel.Settings
