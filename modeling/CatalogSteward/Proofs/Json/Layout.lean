import CatalogSteward.Proofs.Json.MergePatch

/-!
# Layouts of records

The fields that a record is written with: what they are called, what each is when it
is absent, and which of them are records themselves. A record that was written may be
altered in ways that leave its meaning: members are added that are no fields, and
fields are left out that hold what they are when absent.
-/

set_option autoImplicit false

namespace CatalogSteward.Json

/-- A field of a record: its name, what it is when it is absent, if it may be, and the fields of
the record that it holds, if it holds one. -/
structure Field where
  name : String
  absent : Option Json
  inner : Option (List Field)

namespace Field

/-- A field that is not left out once it is written. -/
def plain (name : String) : Field :=
  ⟨name, none, none⟩

/-- A field that is not left out once it is written, and holds a record. -/
def record (name : String) (inner : List Field) : Field :=
  ⟨name, none, some inner⟩

/-- A field that is some value when it is absent. -/
def defaulted (name : String) (absent : Json) : Field :=
  ⟨name, some absent, none⟩

end Field

/-- The members of a written record may be altered to those of another: a member that is no field
is added, a field that holds what it is when absent is left out, and what is inside of a record
within the record is altered in the same way. -/
inductive Altered : List Field → List (String × Json) → List (String × Json) → Prop where
  | nil {fields : List Field} : Altered fields [] []
  | added {fields : List Field} {name : String} {value : Json}
      {written others : List (String × Json)} (unknown : name ∉ fields.map Field.name)
      (rest : Altered fields written others) :
      Altered fields written ((name, value) :: others)
  | dropped {fields : List Field} {field : Field} {value : Json}
      {written others : List (String × Json)} (known : field ∈ fields)
      (absent : field.absent = some value) (rest : Altered fields written others) :
      Altered fields ((field.name, value) :: written) others
  | kept {fields : List Field} {field : Field} {value : Json}
      {written others : List (String × Json)} (known : field ∈ fields)
      (rest : Altered fields written others) :
      Altered fields ((field.name, value) :: written) ((field.name, value) :: others)
  | changed {fields inner : List Field} {field : Field}
      {written others members changes : List (String × Json)} (known : field ∈ fields)
      (record : field.inner = some inner) (inside : Altered inner members changes)
      (rest : Altered fields written others) :
      Altered fields ((field.name, .object members) :: written)
        ((field.name, .object changes) :: others)

/-- A written record is altered, as its members are. -/
inductive AlteredRecord (fields : List Field) : Json → Json → Prop where
  | intro {written others : List (String × Json)} (altered : Altered fields written others) :
      AlteredRecord fields (.object written) (.object others)

/-- Every value is read back from what is written of it, as it is and however that is altered. -/
def RoundTrips {α : Type} (encode : α → Json) (decode : Json → Option α) (fields : List Field) :
    Prop :=
  ∀ value, decode (encode value) = some value ∧
    ∀ altered, AlteredRecord fields (encode value) altered → decode altered = some value

/-! ## What is found of a field -/

/-- What is found of a field in a record that was altered, given what was written of it. -/
inductive Field.Yields (field : Field) : Option Json → Option Json → Prop where
  | absent : Yields field none none
  | dropped {value : Json} (absent : field.absent = some value) : Yields field (some value) none
  | kept (value : Json) : Yields field (some value) (some value)
  | changed {inner : List Field} {value altered : Json} (record : field.inner = some inner)
      (inside : AlteredRecord inner value altered) : Yields field (some value) (some altered)

variable {fields : List Field} {field : Field} {name : String}
  {written others members : List (String × Json)}

@[simp]
theorem find?_cons_self {value : Json} : find? name ((name, value) :: members) = some value :=
  if_pos rfl

theorem find?_cons_of_ne {other : String} {value : Json} (different : other ≠ name) :
    find? name ((other, value) :: members) = find? name members :=
  if_neg different

/-- A field that was not written is not found after an alteration. -/
theorem Altered.find?_eq_none (altered : Altered fields written others) (known : field ∈ fields)
    (missing : field.name ∉ written.map Prod.fst) : find? field.name others = none := by
  induction altered with
  | nil => rfl
  | @added _ name _ _ _ unknown _ ih =>
      have other : name ≠ field.name := fun same => unknown (same ▸ List.mem_map_of_mem known)
      rw [find?_cons_of_ne other]
      exact ih known missing
  | dropped _ _ _ ih => exact ih known fun member => missing (List.mem_cons_of_mem _ member)
  | @kept _ first _ _ _ _ _ ih =>
      have other : first.name ≠ field.name :=
        ne_of_mem_of_not_mem List.mem_cons_self missing
      rw [find?_cons_of_ne other]
      exact ih known fun member => missing (List.mem_cons_of_mem _ member)
  | @changed _ _ first _ _ _ _ _ _ _ _ _ ih =>
      have other : first.name ≠ field.name :=
        ne_of_mem_of_not_mem List.mem_cons_self missing
      rw [find?_cons_of_ne other]
      exact ih known fun member => missing (List.mem_cons_of_mem _ member)

/-- In an altered record, every field is found as it was written, or as an alteration may leave
it. -/
theorem Altered.yields (altered : Altered fields written others)
    (distinct : (fields.map Field.name).Nodup) (single : (written.map Prod.fst).Nodup)
    (known : field ∈ fields) :
    field.Yields (find? field.name written) (find? field.name others) := by
  induction altered with
  | nil => exact .absent
  | @added _ name _ _ _ unknown _ ih =>
      have other : name ≠ field.name := fun same => unknown (same ▸ List.mem_map_of_mem known)
      rw [find?_cons_of_ne other]
      exact ih distinct single known
  | @dropped _ first _ _ _ knownFirst absent rest ih =>
      obtain ⟨missing, single⟩ := List.nodup_cons.mp single
      by_cases same : first.name = field.name
      · obtain rfl := List.inj_on_of_nodup_map distinct knownFirst known same
        rw [find?_cons_self, rest.find?_eq_none known missing]
        exact .dropped absent
      · rw [find?_cons_of_ne same]
        exact ih distinct single known
  | @kept _ first _ _ _ knownFirst _ ih =>
      by_cases same : first.name = field.name
      · rw [same, find?_cons_self, find?_cons_self]
        exact .kept _
      · rw [find?_cons_of_ne same, find?_cons_of_ne same]
        exact ih distinct (List.nodup_cons.mp single).2 known
  | @changed _ _ first _ _ _ _ knownFirst record inside _ _ ih =>
      by_cases same : first.name = field.name
      · obtain rfl := List.inj_on_of_nodup_map distinct knownFirst known same
        rw [find?_cons_self, find?_cons_self]
        exact .changed record (.intro inside)
      · rw [find?_cons_of_ne same, find?_cons_of_ne same]
        exact ih distinct (List.nodup_cons.mp single).2 known

/-! ## Writing by a layout -/

/-- The members that are written of fields, where one may be left out. -/
def writtenMembers (entries : List (Field × Option Json)) : List (String × Json) :=
  entries.filterMap fun entry => entry.2.map (entry.1.name, ·)

theorem keys_writtenMembers_sublist (entries : List (Field × Option Json)) :
    ((writtenMembers entries).map Prod.fst).Sublist ((entries.map Prod.fst).map Field.name) := by
  induction entries with
  | nil => exact .slnil
  | cons entry rest ih =>
      obtain ⟨field, written⟩ := entry
      cases written with
      | none => exact ih.cons field.name
      | some value => exact ih.cons_cons field.name

theorem find?_writtenMembers {entries : List (Field × Option Json)} {entry : Field × Option Json}
    (distinct : ((entries.map Prod.fst).map Field.name).Nodup) (member : entry ∈ entries) :
    find? entry.1.name (writtenMembers entries) = entry.2 := by
  induction entries with
  | nil => exact absurd member List.not_mem_nil
  | cons first rest ih =>
      obtain ⟨field, written⟩ := first
      obtain ⟨missing, distinctRest⟩ := List.nodup_cons.mp distinct
      cases List.mem_cons.mp member with
      | inl same =>
          subst same
          have later : find? field.name (writtenMembers rest) = none :=
            find?_eq_none_iff.mpr fun found =>
              missing ((keys_writtenMembers_sublist rest).subset found)
          cases written with
          | none => exact later
          | some value => exact find?_cons_self
      | inr later =>
          have other : field.name ≠ entry.1.name := fun same =>
            missing (same ▸ List.mem_map_of_mem (List.mem_map_of_mem later))
          cases written with
          | none => exact ih distinctRest later
          | some value => exact (find?_cons_of_ne other).trans (ih distinctRest later)

/-- Of a record that is written by a layout, every field is found as the layout says, however the
record is altered. -/
theorem Altered.yields_of_entries {entries : List (Field × Option Json)}
    (altered : Altered (entries.map Prod.fst) (writtenMembers entries) others)
    (distinct : ((entries.map Prod.fst).map Field.name).Nodup) :
    ∀ entry ∈ entries, entry.1.Yields entry.2 (find? entry.1.name others) := by
  intro entry member
  have single := (keys_writtenMembers_sublist entries).nodup distinct
  have yields := altered.yields distinct single (List.mem_map_of_mem member)
  rwa [find?_writtenMembers distinct member] at yields

theorem yields_self {entries : List (Field × Option Json)}
    (distinct : ((entries.map Prod.fst).map Field.name).Nodup) :
    ∀ entry ∈ entries, entry.1.Yields entry.2 (find? entry.1.name (writtenMembers entries)) := by
  intro entry member
  rw [find?_writtenMembers distinct member]
  cases entry.2 with
  | none => exact .absent
  | some value => exact .kept value

/-- A record round-trips if it is written field by field, and is read back wherever every field is
found as its layout says. -/
theorem roundTrips_of_layout {α : Type} {encode : α → Json} {decode : Json → Option α}
    (written : α → List (Option Json)) (distinct : (fields.map Field.name).Nodup)
    (complete : ∀ value, (written value).length = fields.length)
    (writes : ∀ value, encode value = .object (writtenMembers (fields.zip (written value))))
    (reads : ∀ value members,
      (∀ entry ∈ fields.zip (written value),
        entry.1.Yields entry.2 (find? entry.1.name members)) →
        decode (.object members) = some value) :
    RoundTrips encode decode fields := by
  intro value
  have layout : (fields.zip (written value)).map Prod.fst = fields :=
    List.map_fst_zip (Nat.le_of_eq (complete value).symm)
  rw [← layout] at distinct
  rw [writes value]
  refine ⟨reads value _ (yields_self distinct), fun other record => ?_⟩
  cases record with
  | intro altered => exact reads value _ (Altered.yields_of_entries (by rwa [layout]) distinct)

/-! ## Reading what is found -/

/-- A field reads back what it writes, also if that is a record that was altered. -/
structure Field.ReadsBack {α : Type} (field : Field) (encode : α → Json)
    (decode : Json → Option α) : Prop where
  same : ∀ value, decode (encode value) = some value
  inside : ∀ inner, field.inner = some inner → ∀ value altered,
    AlteredRecord inner (encode value) altered → decode altered = some value

section Reading

variable {α : Type} {encode : α → Json} {decode : Json → Option α} {value absent : α}
  {given : Option α} {place : Nat} {found writes : Option Json}

theorem Field.ReadsBack.plain (alone : field.inner = none)
    (same : ∀ value, decode (encode value) = some value) : field.ReadsBack encode decode where
  same := same
  inside := by
    intro inner record
    rw [alone] at record
    exact nomatch record

theorem RoundTrips.readsBack {inner : List Field} (roundTrips : RoundTrips encode decode inner)
    (record : field.inner = some inner) : field.ReadsBack encode decode where
  same := fun value => (roundTrips value).1
  inside := by
    intro other same value
    rw [record, Option.some.injEq] at same
    exact same ▸ (roundTrips value).2

/-- A field that was written is left out, or something is found that is read back as it. -/
theorem Field.Yields.decoded (yields : field.Yields (some (encode value)) found)
    (readsBack : field.ReadsBack encode decode) :
    (found = none ∧ field.absent = some (encode value)) ∨
      ∃ altered, found = some altered ∧ decode altered = some value := by
  cases yields with
  | dropped absent => exact .inl ⟨rfl, absent⟩
  | kept => exact .inr ⟨_, rfl, readsBack.same value⟩
  | changed record inside => exact .inr ⟨_, rfl, readsBack.inside _ record value _ inside⟩

theorem Field.Yields.required (readsBack : field.ReadsBack encode decode)
    (yields : field.Yields (some (encode value)) (find? field.name members))
    (needed : field.absent = none) :
    (Record.named members).required decode place field.name = some value := by
  rw [Record.required, Record.field?]
  cases yields.decoded readsBack with
  | inl dropped => exact nomatch needed.symm.trans dropped.2
  | inr read =>
      obtain ⟨altered, found, decoded⟩ := read
      rw [found]
      exact decoded

theorem Field.Yields.optional (readsBack : field.ReadsBack encode decode)
    (yields : field.Yields (given.map encode) (find? field.name members))
    (needed : field.absent = none) (noNull : decode .null = none) :
    (Record.named members).optional decode place field.name = some given := by
  rw [Record.optional, Record.field?]
  cases given with
  | none =>
      generalize find? field.name members = found at yields
      cases yields
      rfl
  | some value =>
      cases yields.decoded readsBack with
      | inl dropped => exact nomatch needed.symm.trans dropped.2
      | inr read =>
          obtain ⟨altered, found, decoded⟩ := read
          rw [found]
          cases altered with
          | null => exact nomatch noNull.symm.trans decoded
          | _ => exact congrArg (Option.map some) decoded

/-- A field with a value for where it is absent may be left out where it holds that, when it is
written or afterwards. -/
theorem Field.Yields.defaulted (readsBack : field.ReadsBack encode decode)
    (yields : field.Yields writes (find? field.name members))
    (isAbsent : field.absent = some (encode absent))
    (written : writes = some (encode value) ∨ writes = none ∧ value = absent) :
    (Record.named members).defaulted absent decode place field.name = some value := by
  rw [Record.defaulted, Record.field?]
  cases written with
  | inr omitted =>
      obtain ⟨rfl, rfl⟩ := omitted
      generalize find? field.name members = found at yields
      cases yields
      rfl
  | inl written =>
      subst written
      cases yields.decoded readsBack with
      | inl dropped =>
          -- What is read back from two values that are written alike is the same.
          obtain ⟨found, same⟩ := dropped
          rw [isAbsent, Option.some.injEq] at same
          have alike := (readsBack.same absent).symm.trans (same ▸ readsBack.same value)
          rw [found]
          exact alike
      | inr read =>
          obtain ⟨altered, found, decoded⟩ := read
          rw [found]
          exact decoded

end Reading

end CatalogSteward.Json
