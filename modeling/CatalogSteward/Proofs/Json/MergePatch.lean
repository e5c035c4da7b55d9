import CatalogSteward.Json.MergePatch
import CatalogSteward.Json.Record
import Mathlib.Data.List.Nodup

/-!
# What merging leaves of members

A merge patch makes of each member what its own change says, and nothing of a
member that no change names. Of a patch of plain values, with `null` for the
fields that it lacks, merging keeps exactly those values in every field: what was
stored before is nowhere to be read from them.
-/

set_option autoImplicit false

namespace CatalogSteward.Json

variable {name other : String} {value : Json} {members : List (String × Json)}

/-! ## Finding members -/

theorem find?_append (name : String) (left right : List (String × Json)) :
    find? name (left ++ right) = (find? name left).or (find? name right) := by
  induction left with
  | nil => rfl
  | cons member rest ih =>
      obtain ⟨key, value⟩ := member
      simp only [List.cons_append, find?]
      split
      · rfl
      · exact ih

@[simp]
theorem find?_erase_self : find? name (erase name members) = none := by
  induction members with
  | nil => rfl
  | cons member rest ih =>
      rw [erase] at ih ⊢
      by_cases same : member.1 = name
      · rw [List.filter_cons_of_neg (by simpa using same)]
        exact ih
      · rw [List.filter_cons_of_pos (by simpa using same), find?, if_neg same]
        exact ih

theorem find?_erase_of_ne (different : name ≠ other) :
    find? other (erase name members) = find? other members := by
  induction members with
  | nil => rfl
  | cons member rest ih =>
      rw [erase] at ih ⊢
      by_cases same : member.1 = name
      · rw [List.filter_cons_of_neg (by simpa using same), find?, if_neg (same ▸ different)]
        exact ih
      · rw [List.filter_cons_of_pos (by simpa using same), find?, find?, ih]

@[simp]
theorem find?_set_self : find? name (set name value members) = some value := by
  simp [set, find?_append, find?]

theorem find?_set_of_ne (different : name ≠ other) :
    find? other (set name value members) = find? other members := by
  simp [set, find?_append, find?, find?_erase_of_ne different, different]

@[simp]
theorem erase_set : erase name (set name value members) = erase name members := by
  simp [set, erase]

@[simp]
theorem erase_erase : erase name (erase name members) = erase name members := by
  simp [erase]

theorem find?_eq_none_iff : find? name members = none ↔ name ∉ members.map Prod.fst := by
  induction members with
  | nil => simp [find?]
  | cons member rest ih =>
      rw [find?, List.map_cons, List.mem_cons, not_or, ← ih]
      by_cases same : member.1 = name
      · simp [same]
      · simp [same, Ne.symm same]

theorem mem_of_find? (found : find? name members = some value) : (name, value) ∈ members := by
  induction members with
  | nil => cases found
  | cons member rest ih =>
      rw [find?] at found
      split at found
      case isTrue same =>
        cases found
        exact same ▸ List.mem_cons_self
      case isFalse => exact List.mem_cons_of_mem _ (ih found)

theorem find?_optionalMember {α : Type} (encode : α → Json) (given : Option α) :
    find? other (optionalMember name encode given) =
      if name = other then given.map encode else none := by
  cases given with
  | none => simp [optionalMember, find?]
  | some given => simp [optionalMember, find?]

theorem keys_optionalMember_sublist {α : Type} (encode : α → Json) (given : Option α) :
    ((optionalMember name encode given).map Prod.fst).Sublist [name] := by
  cases given with
  | none => exact List.nil_sublist [name]
  | some given => exact List.Sublist.refl [name]

/-! ## Nulls for the fields that are absent -/

theorem find?_orNull :
    find? other (orNull members name) =
      (find? other members).or (if name = other then some .null else none) := by
  rw [orNull]
  split
  case isTrue present =>
    by_cases same : name = other
    · obtain ⟨value, found⟩ := Option.isSome_iff_exists.mp (same ▸ present)
      rw [found, Option.some_or]
    · rw [if_neg same, Option.or_none]
  case isFalse => rw [find?_append, find?, find?]

theorem find?_withNulls (names : List String) (members : List (String × Json)) (name : String) :
    find? name (withNulls names members) =
      (find? name members).or (if name ∈ names then some .null else none) := by
  induction names generalizing members with
  | nil => simp [withNulls]
  | cons first rest ih =>
      rw [withNulls, List.foldl_cons, ← withNulls, ih, find?_orNull, Option.or_assoc]
      by_cases same : first = name
      · simp [same]
      · simp [same, Ne.symm same]

theorem nodup_orNull (distinct : (members.map Prod.fst).Nodup) :
    ((orNull members name).map Prod.fst).Nodup := by
  rw [orNull]
  split
  case isTrue => exact distinct
  case isFalse absent =>
    have fresh : name ∉ members.map Prod.fst :=
      find?_eq_none_iff.mp (by simpa using absent)
    rw [List.map_append]
    exact distinct.append (List.nodup_singleton name) (by simpa using fresh)

theorem nodup_withNulls (names : List String) (distinct : (members.map Prod.fst).Nodup) :
    ((withNulls names members).map Prod.fst).Nodup := by
  induction names generalizing members with
  | nil => exact distinct
  | cons first rest ih => exact ih (nodup_orNull distinct)

/-! ## Merging -/

/-- What a change makes of the member that it names, which may be absent before and after. -/
def mergedMember (stored : Option Json) : Json → Option Json
  | .null => none
  | change => some ((stored.getD .null).mergePatch change)

/-- A value that takes the place of whatever it is merged into. -/
def Replaces (value : Json) : Prop :=
  ∀ stored, mergedMember stored value = some value

theorem replaces_string (text : String) : Replaces (.string text) :=
  fun _ => by rw [mergedMember, mergePatch]; simp

theorem replaces_integer (number : Int) : Replaces (.integer number) :=
  fun _ => by rw [mergedMember, integer, mergePatch]; simp [integer]

theorem replaces_optionalMember {α : Type} {encode : α → Json}
    (replacing : ∀ value, Replaces (encode value)) (given : Option α) :
    ∀ member ∈ optionalMember name encode given, Replaces member.2 := by
  cases given with
  | none => exact fun _ impossible => nomatch impossible
  | some given => exact List.forall_mem_singleton.mpr (replacing given)

theorem find?_mergeMember_self :
    find? name (mergeMember members (name, value)) = mergedMember (find? name members) value := by
  cases value <;> simp [mergeMember, mergedMember]

theorem find?_mergeMember_of_ne (different : name ≠ other) :
    find? other (mergeMember members (name, value)) = find? other members := by
  cases value <;> simp [mergeMember, find?_erase_of_ne different, find?_set_of_ne different]

theorem erase_mergeMember :
    erase name (mergeMember members (name, value)) = erase name members := by
  cases value <;> simp [mergeMember]

/-- Each member becomes what the change of its name makes of it, where there is one change of each
name. -/
theorem find?_mergeMembers {changes : List (String × Json)}
    (distinct : (changes.map Prod.fst).Nodup) :
    find? name (mergeMembers members changes) =
      match find? name changes with
      | none => find? name members
      | some value => mergedMember (find? name members) value := by
  induction changes generalizing members with
  | nil => rfl
  | cons change rest ih =>
      obtain ⟨key, value⟩ := change
      obtain ⟨fresh, distinct⟩ := List.nodup_cons.mp distinct
      rw [mergeMembers, ih distinct, find?]
      by_cases same : key = name
      · cases same
        rw [if_pos rfl, find?_eq_none_iff.mpr fresh]
        exact find?_mergeMember_self
      · rw [if_neg same, find?_mergeMember_of_ne same]

/-- A record of replacing values, with `null` for the fields it lacks, is what merging leaves of
each of its fields, whatever was there before. -/
theorem find?_mergeMembers_withNulls {stored : List (String × Json)} {names : List String}
    (distinct : (members.map Prod.fst).Nodup)
    (replacing : ∀ member ∈ members, Replaces member.2)
    (isField : (find? name members).isSome ∨ name ∈ names) :
    find? name (mergeMembers stored (withNulls names members)) = find? name members := by
  rw [find?_mergeMembers (nodup_withNulls names distinct), find?_withNulls]
  cases found : find? name members with
  | some value => exact replacing _ (mem_of_find? found) _
  | none =>
      have named : name ∈ names := isField.resolve_left (by simp [found])
      rw [if_pos named]
      rfl

end CatalogSteward.Json
