import ClauseTx.Json.Record
import ClauseTx.Proofs.Json.Text

/-!
# Records of one field

A record of one field is an object with that member once, whatever else it
has, or an array of one item (`Syntax.HasField`).  `fields?_singleton_iff`
says that the reader of records finds the field in these and in nothing else.
-/

namespace ClauseTx.Json.Syntax

/-- A value stands for the only field of a record: in an object as the one
member with its name, among members whose keys are all texts, and in an array
as the one item. -/
inductive HasField (name : String) : Syntax → Syntax → Prop
  | member {members : List (List Piece × Syntax)} {key : List Piece} {value : Syntax}
      (hkeys : ∀ m ∈ members, (text? m.1).isSome)
      (hone : members.filter (fun m => text? m.1 = some name) = [(key, value)]) :
      HasField name (.object members) value
  | item (value : Syntax) : HasField name (.array [value]) value

variable {name : String} {members : List (List Piece × Syntax)}

theorem keyed?_cons_eq_some_iff {m : List Piece × Syntax} {ms : List (String × Syntax)} :
    keyed? (m :: members) = some ms ↔
      ∃ k ms', text? m.1 = some k ∧ keyed? members = some ms' ∧ ms = (k, m.2) :: ms' := by
  simp only [keyed?, List.mapM_cons, Option.bind_eq_bind, Option.bind_eq_some_iff,
    Option.map_eq_some_iff, Option.pure_def, Option.some.injEq]
  constructor
  · rintro ⟨_, ⟨k, hk, rfl⟩, ms', hms, rfl⟩
    exact ⟨k, ms', hk, hms, rfl⟩
  · rintro ⟨k, ms', hk, hms, rfl⟩
    exact ⟨_, ⟨k, hk, rfl⟩, ms', hms, rfl⟩

/-- The members of an object are read if their keys are texts. -/
theorem exists_keyed?_iff :
    (∃ ms, keyed? members = some ms) ↔ ∀ m ∈ members, (text? m.1).isSome := by
  induction members with
  | nil => exact iff_of_true ⟨[], rfl⟩ nofun
  | cons m members ih =>
    simp only [keyed?_cons_eq_some_iff]
    rw [List.forall_mem_cons, ← ih, Option.isSome_iff_exists]
    constructor
    · rintro ⟨_, k, ms, hk, hms, -⟩
      exact ⟨⟨k, hk⟩, ms, hms⟩
    · rintro ⟨⟨k, hk⟩, ms, hms⟩
      exact ⟨_, k, ms, hk, hms, rfl⟩

/-- The values of a name are not changed by reading the keys. -/
theorem map_filter_of_keyed? {ms : List (String × Syntax)} (h : keyed? members = some ms) :
    (ms.filter (·.1 = name)).map (·.2) =
      (members.filter fun m => text? m.1 = some name).map (·.2) := by
  induction members generalizing ms with
  | nil =>
    cases h
    rfl
  | cons m members ih =>
    obtain ⟨k, ms', hk, hms, rfl⟩ := keyed?_cons_eq_some_iff.mp h
    rw [List.filter_cons, List.filter_cons, hk]
    by_cases hname : k = name
    · simp [hname, ih hms]
    · simp [hname, ih hms]

/-- A name has a value if it has no other. -/
theorem member?_eq_some_iff {ms : List (String × Syntax)} {value : Syntax} :
    member? name ms = some (some value) ↔ (ms.filter (·.1 = name)).map (·.2) = [value] := by
  unfold member?
  split
  case h_1 hnone => simp [hnone]
  case h_2 k v hone => simp [hone]
  case h_3 hmany =>
    refine iff_of_false nofun ?_
    intro h
    obtain ⟨⟨k, v⟩, hms, hv⟩ := List.map_eq_singleton_iff.mp h
    exact hmany k v hms

theorem fields?_object_iff {value : Syntax} :
    fields? [⟨name, false⟩] (.object members) = some [some value] ↔
      HasField name (.object members) value := by
  have hfields : fields? [⟨name, false⟩] (.object members) = some [some value] ↔
      ∃ ms, keyed? members = some ms ∧ member? name ms = some (some value) := by
    simp [fields?, Option.bind_eq_some_iff]
  rw [hfields]
  constructor
  · intro ⟨ms, hms, hmember⟩
    have hvalues := (map_filter_of_keyed? hms).symm.trans (member?_eq_some_iff.mp hmember)
    obtain ⟨⟨key, v⟩, hone, rfl⟩ := List.map_eq_singleton_iff.mp hvalues
    exact .member (exists_keyed?_iff.mp ⟨ms, hms⟩) hone
  · intro h
    cases h with
    | member hkeys hone =>
      obtain ⟨ms, hms⟩ := exists_keyed?_iff.mpr hkeys
      refine ⟨ms, hms, member?_eq_some_iff.mpr ?_⟩
      rw [map_filter_of_keyed? hms, hone]
      rfl

theorem fields?_array_iff {items : List Syntax} {value : Syntax} :
    fields? [⟨name, false⟩] (.array items) = some [some value] ↔
      HasField name (.array items) value := by
  match items with
  | [] => exact iff_of_false nofun nofun
  | [item] =>
    constructor
    · intro h
      cases h
      exact .item value
    · intro h
      cases h
      rfl
  | _ :: _ :: _ =>
    refine iff_of_false ?_ nofun
    simp [fields?]

/-- The field of a record is found where it is, and nowhere else. -/
theorem fields?_singleton_iff {syn value : Syntax} :
    fields? [⟨name, false⟩] syn = some [some value] ↔ HasField name syn value := by
  cases syn with
  | object members => exact fields?_object_iff
  | array items => exact fields?_array_iff
  | _ => exact iff_of_false nofun nofun

/-- A text is read in the place of a field that may be missing. -/
theorem optional?_string?_iff {field : Option Syntax} {text : String} :
    optional? string? field = some (some text) ↔
      ∃ pieces, field = some (.string pieces) ∧ text? pieces = some text := by
  cases field with
  | none => simp [optional?]
  | some syn => cases syn <;> simp [optional?, nullable?, string?]

/-- An object of one text has that text in the place of its field. -/
theorem exists_hasField_of_texts? {record : Syntax} {text : String}
    (h : record.texts? = some [(name, text)]) :
    ∃ pieces, HasField name record (.string pieces) ∧ text? pieces = some text := by
  obtain ⟨key, pieces, rfl, hkey, htext⟩ := exists_of_texts?_eq_singleton h
  have hone : [(key, string pieces)].filter (fun m => text? m.1 = some name) =
      [(key, string pieces)] := by
    simp [hkey]
  exact ⟨pieces, .member (by simp [hkey]) hone, htext⟩

end ClauseTx.Json.Syntax
