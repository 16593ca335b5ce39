import Stockroom.Device.Form
import Stockroom.Device.Row
import Stockroom.Inventory.Schema
import Stockroom.Proofs.Sql.Declaration
import Stockroom.Proofs.Text.Numeral

/-!
# What the devices table admits

Lengths and states are limited in several places: where forms and patches are
checked, in the schema, and where rows become devices.  The limits agree.  What
passes a check fits the table, and the rows that become devices are those whose
state the schema lets in.
-/

namespace Stockroom

/-! ## The devices table -/

/-- The rules that the schema states for the devices table. -/
def devicesTable : Sql.TableRule where
  name := "devices"
  columns := [
    ⟨"id", .uuid, .key, none, none⟩,
    ⟨"name", .varchar 255, .required, none, none⟩,
    ⟨"brand", .varchar 255, .required, none, none⟩,
    ⟨"state", .varchar 32, .required, some "'available'",
      some ["available", "in-use", "inactive"]⟩,
    ⟨"created_at", .timestamp, .required, some "NOW()", none⟩,
    ⟨"updated_at", .timestamp, .required, some "NOW()", none⟩]

/-- The schema begins with the text of the table; the lines behind it create indexes. -/
theorem schema_eq :
    schema = devicesTable.text ++ String.join ((schemaLines.drop 9).map (· ++ "\n")) := by
  have table : String.join ((schemaLines.take 9).map (· ++ "\n")) = devicesTable.text := by
    decide +kernel
  rw [← table, ← String.join_append, ← List.map_append, List.take_append_drop, schema]

theorem checks_state_iff {text : String} :
    devicesTable.Checks "state" text ↔ ∃ state : DeviceState, state.word = text := by
  have listed : devicesTable.Checks "state" text ↔ text ∈ ["available", "in-use", "inactive"] := by
    simp [Sql.TableRule.Checks, devicesTable]
  rw [listed]
  constructor
  · intro h
    simp only [List.mem_cons, List.not_mem_nil, or_false] at h
    obtain rfl | rfl | rfl := h
    · exact ⟨.available, rfl⟩
    · exact ⟨.inUse, rfl⟩
    · exact ⟨.inactive, rfl⟩
  · rintro ⟨state, rfl⟩
    cases state <;> simp [DeviceState.word]

/-! ## Lengths -/

/-- The text has 1 to 255 characters. -/
def LengthFits (text : String) : Prop := 1 ≤ text.length ∧ text.length ≤ 255

theorem lengthOk_iff {text : String} : lengthOk text = true ↔ LengthFits text := by
  rw [lengthOk, Bool.and_eq_true, decide_eq_true_iff, decide_eq_true_iff, maxLength, LengthFits]

namespace Complaints

def fields (complaints : Complaints) : List String := complaints.entries.map Prod.fst

theorem insert_of_not_mem {field : String} (message : String)
    {entries : List (String × List String)} (h : field ∉ entries.map Prod.fst) :
    insert field message entries = entries ++ [(field, [message])] := by
  induction entries with
  | nil => rfl
  | cons entry entries ih =>
      obtain ⟨first, rest⟩ := not_or.mp (mt List.mem_cons.mpr h)
      rw [insert, if_neg (Ne.symm first), ih rest, List.cons_append]

/-- The fields to complain about for a text that may be missing. -/
def lengthFields (field : String) (given : Option String) : List String :=
  if given.all lengthOk then [] else [field]

theorem fields_checkPresent {complaints : Complaints} {field : String}
    (h : field ∉ complaints.fields) (given : Option String) :
    (DevicePatch.checkPresent complaints field given).fields =
      complaints.fields ++ lengthFields field given := by
  cases given with
  | none => exact (List.append_nil _).symm
  | some text =>
      rw [DevicePatch.checkPresent, checkLength, lengthFields, Option.all_some]
      split
      · exact (List.append_nil _).symm
      · rw [fields, add, insert_of_not_mem lengthMessage h, List.map_append]
        rfl

theorem mem_lengthFields {field other : String} {given : Option String} :
    other ∈ lengthFields field given ↔ other = field ∧ ∃ text ∈ given, ¬LengthFits text := by
  cases given with
  | none => simp [lengthFields]
  | some text => by_cases fits : LengthFits text <;> simp [lengthFields, lengthOk_iff, fits]

theorem verdict_eq_ok_iff {complaints : Complaints} :
    complaints.verdict = .ok () ↔ complaints.fields = [] := by
  rw [fields, List.map_eq_nil_iff, ← List.isEmpty_iff, verdict, isEmpty]
  split <;> simp_all

theorem eq_of_verdict_eq_error {complaints other : Complaints}
    (h : complaints.verdict = .error other) : other = complaints := by
  unfold verdict at h
  split at h
  · cases h
  · exact (Except.error.inj h).symm

end Complaints

namespace DevicePatch

variable {patch : DevicePatch} {complaints : Complaints}

theorem fields_complaints (patch : DevicePatch) :
    patch.complaints.fields =
      Complaints.lengthFields "name" patch.name ++ Complaints.lengthFields "brand" patch.brand := by
  have name : (checkPresent .empty "name" patch.name).fields =
      Complaints.lengthFields "name" patch.name :=
    Complaints.fields_checkPresent List.not_mem_nil patch.name
  -- A second complaint about one field would join the first entry; the fields differ.
  have apart : "brand" ∉ (checkPresent .empty "name" patch.name).fields := by
    rw [name, Complaints.mem_lengthFields]
    exact fun h => absurd h.1 (by decide)
  rw [complaints, Complaints.fields_checkPresent apart, name]

theorem mem_fields_complaints {field : String} :
    field ∈ patch.complaints.fields ↔
      (field = "name" ∧ ∃ name ∈ patch.name, ¬LengthFits name) ∨
        (field = "brand" ∧ ∃ brand ∈ patch.brand, ¬LengthFits brand) := by
  rw [fields_complaints, List.mem_append, Complaints.mem_lengthFields,
    Complaints.mem_lengthFields]

theorem nodup_fields_complaints : patch.complaints.fields.Nodup := by
  rw [fields_complaints, Complaints.lengthFields, Complaints.lengthFields]
  split <;> split <;> decide

theorem validate_eq_ok_iff :
    patch.validate = .ok () ↔
      (∀ name ∈ patch.name, LengthFits name) ∧ ∀ brand ∈ patch.brand, LengthFits brand := by
  rw [validate, Complaints.verdict_eq_ok_iff, List.eq_nil_iff_forall_not_mem]
  simp only [mem_fields_complaints]
  constructor
  · intro h
    constructor
    · exact fun name given => by_contra fun wrong => h "name" (.inl ⟨rfl, name, given, wrong⟩)
    · exact fun brand given => by_contra fun wrong => h "brand" (.inr ⟨rfl, brand, given, wrong⟩)
  · rintro ⟨names, brands⟩ field (⟨-, name, given, wrong⟩ | ⟨-, brand, given, wrong⟩)
    · exact wrong (names name given)
    · exact wrong (brands brand given)

theorem complaints_of_validate (h : patch.validate = .error complaints) :
    complaints.fields.Nodup ∧ ∀ field, field ∈ complaints.fields ↔
      (field = "name" ∧ ∃ name ∈ patch.name, ¬LengthFits name) ∨
        (field = "brand" ∧ ∃ brand ∈ patch.brand, ¬LengthFits brand) := by
  obtain rfl := Complaints.eq_of_verdict_eq_error h
  exact ⟨nodup_fields_complaints, fun _ => mem_fields_complaints⟩

/-- What a patch puts into a column; none leaves the cell as it is. -/
def cell (patch : DevicePatch) : String → Option String
  | "name" => patch.name
  | "brand" => patch.brand
  | "state" => patch.state.map DeviceState.word
  | _ => none

theorem admits_cell (h : patch.validate = .ok ()) :
    ∀ rule ∈ devicesTable.columns, ∀ text ∈ patch.cell rule.name, rule.Admits (some text) := by
  obtain ⟨names, brands⟩ := validate_eq_ok_iff.mp h
  simp only [devicesTable, List.forall_mem_cons]
  refine ⟨nofun, ?_, ?_, ?_, nofun, nofun, nofun⟩
  · exact fun text given => .text (names text given).2 nofun
  · exact fun text given => .text (brands text given).2 nofun
  · intro text given
    obtain ⟨state, -, rfl⟩ := Option.map_eq_some_iff.mp given
    cases state <;> decide

end DevicePatch

namespace DeviceForm

variable {form : DeviceForm}

/-- A form is checked and written like the patch that gives every field. -/
def patch (form : DeviceForm) : DevicePatch := ⟨some form.name, some form.brand, some form.state⟩

def cell (form : DeviceForm) : String → Option String := form.patch.cell

theorem validate_patch (form : DeviceForm) : form.patch.validate = form.validate := rfl

/-- The name, the brand and the state of a form are never empty cells. -/
theorem admits_cell (h : form.validate = .ok ()) :
    ∀ rule ∈ devicesTable.columns, rule.type.isText = true → rule.Admits (form.cell rule.name) := by
  have given : ∀ rule ∈ devicesTable.columns, rule.type.isText = true →
      ∃ text, form.cell rule.name = some text := by
    simp only [devicesTable, List.forall_mem_cons]
    exact ⟨nofun, fun _ => ⟨_, rfl⟩, fun _ => ⟨_, rfl⟩, fun _ => ⟨_, rfl⟩, nofun, nofun, nofun⟩
  intro rule hrule isText
  obtain ⟨text, htext⟩ := given rule hrule isText
  rw [htext]
  exact DevicePatch.admits_cell (form.validate_patch.trans h) rule hrule text htext

end DeviceForm

/-! ## Rows -/

/-- A list is refused at its first member that is refused. -/
theorem mapM_eq_error_iff {ε α β : Type} {f : α → Except ε β} {list : List α} {fault : ε} :
    list.mapM f = .error fault ↔ ∃ front a back, list = front ++ a :: back ∧
      (∀ earlier ∈ front, ∃ b, f earlier = .ok b) ∧ f a = .error fault := by
  induction list with
  | nil =>
      refine iff_of_false nofun ?_
      rintro ⟨front, a, back, split, -⟩
      exact absurd split (by simp)
  | cons first list ih =>
      rw [List.mapM_cons]
      simp only [Text.bind_eq_error_iff, ih]
      constructor
      · rintro (refused | ⟨b, accepted, later | ⟨_, -, further⟩⟩)
        · exact ⟨[], first, list, rfl, nofun, refused⟩
        · obtain ⟨front, a, back, rfl, earlier, refused⟩ := later
          exact ⟨first :: front, a, back, rfl, List.forall_mem_cons.mpr ⟨⟨b, accepted⟩, earlier⟩,
            refused⟩
        · cases further
      · -- The first member is the refused one, or it is accepted and stands in front of it.
        rintro ⟨front, a, back, split, accepted, refused⟩
        cases front with
        | nil =>
            obtain ⟨rfl, rfl⟩ := List.cons_eq_cons.mp split
            exact .inl refused
        | cons _ front =>
            obtain ⟨rfl, rfl⟩ := List.cons_eq_cons.mp split
            obtain ⟨⟨b, first⟩, earlier⟩ := List.forall_mem_cons.mp accepted
            exact .inr ⟨b, first, .inl ⟨front, a, back, rfl, earlier, refused⟩⟩

theorem DeviceState.ofWord?_eq_some_iff {text : String} {state : DeviceState} :
    ofWord? text = some state ↔ state.word = text := by
  constructor
  · intro h
    simpa using List.find?_some h
  · rintro rfl
    exact ofWord?_word state

/-- The row in which a device is kept. -/
def Device.row (device : Device) : DeviceRow :=
  ⟨device.id, device.name, device.brand, device.state.word, device.createdAt, device.updatedAt⟩

namespace DeviceRow

variable {row : DeviceRow} {rows : List DeviceRow} {fault : StoreFault}

theorem device_eq_ok_iff {device : Device} : row.device = .ok device ↔ row = device.row := by
  rw [DeviceRow.device, DeviceState.parse]
  cases hstate : DeviceState.ofWord? row.state with
  | none =>
      refine iff_of_false nofun ?_
      rintro rfl
      rw [Device.row, DeviceState.ofWord?_word] at hstate
      cases hstate
  | some state =>
      have word := DeviceState.ofWord?_eq_some_iff.mp hstate
      constructor
      · intro h
        obtain rfl := Except.ok.inj h
        rw [Device.row, word]
      · rintro rfl
        rw [Device.row, DeviceState.ofWord?_word] at hstate
        obtain rfl := Option.some.inj hstate
        rfl

theorem exists_device_iff :
    (∃ device, row.device = .ok device) ↔ devicesTable.Checks "state" row.state := by
  rw [checks_state_iff]
  constructor
  · rintro ⟨device, h⟩
    obtain rfl := device_eq_ok_iff.mp h
    exact ⟨device.state, rfl⟩
  · rintro ⟨state, word⟩
    refine ⟨⟨row.id, row.name, row.brand, state, row.createdAt, row.updatedAt⟩, ?_⟩
    rw [device_eq_ok_iff, Device.row, word]

theorem device_eq_error_iff :
    row.device = .error fault ↔
      ¬devicesTable.Checks "state" row.state ∧
        fault = .database (.unreadableState ⟨row.state⟩) := by
  rw [← exists_device_iff, DeviceRow.device, DeviceState.parse]
  cases DeviceState.ofWord? row.state with
  | none => simp [eq_comm]
  | some state => simp

theorem devices_eq_ok_iff {found : List Device} :
    devices rows = .ok found ↔ rows = found.map Device.row := by
  induction rows generalizing found with
  | nil => cases found <;> simp [devices, pure, Except.pure]
  | cons row rows ih =>
      rw [devices, List.mapM_cons]
      simp only [Text.bind_eq_ok_iff, Text.pure_eq_ok_iff, device_eq_ok_iff]
      constructor
      · rintro ⟨device, rfl, others, hothers, rfl⟩
        rw [ih.mp hothers, List.map_cons]
      · intro h
        cases found with
        | nil => cases h
        | cons device others =>
            obtain ⟨rfl, rfl⟩ := List.cons_eq_cons.mp h
            exact ⟨device, rfl, others, ih.mpr rfl, rfl⟩

theorem exists_devices_iff :
    (∃ found, devices rows = .ok found) ↔
      ∀ row ∈ rows, devicesTable.Checks "state" row.state := by
  simp only [← exists_device_iff, devices_eq_ok_iff, device_eq_ok_iff]
  constructor
  · rintro ⟨found, rfl⟩ row hrow
    obtain ⟨device, -, rfl⟩ := List.mem_map.mp hrow
    exact ⟨device, rfl⟩
  · intro h
    induction rows with
    | nil => exact ⟨[], rfl⟩
    | cons row rows ih =>
        obtain ⟨⟨device, rfl⟩, others⟩ := List.forall_mem_cons.mp h
        obtain ⟨found, rfl⟩ := ih others
        exact ⟨device :: found, rfl⟩

theorem devices_eq_error_iff :
    devices rows = .error fault ↔ ∃ front row back, rows = front ++ row :: back ∧
      (∀ earlier ∈ front, devicesTable.Checks "state" earlier.state) ∧
      ¬devicesTable.Checks "state" row.state ∧
      fault = .database (.unreadableState ⟨row.state⟩) := by
  rw [devices, mapM_eq_error_iff]
  simp only [exists_device_iff, device_eq_error_iff]

end DeviceRow

/-! ## Agreement -/

/--
The limits agree.  The schema begins with the text of the table.  Forms and
patches are accepted if and only if each of their names and brands has 1 to 255
characters, complaints name exactly the fields that do not, and what is accepted
gives only cells that the table admits.  Rows become devices, in order and with
all that they hold, if and only if each state passes the check of the table; the
first that does not decides.
-/
theorem checks_agree_with_table :
    (∃ further, schema = devicesTable.text ++ further) ∧
    (∀ form : DeviceForm,
      (form.validate = .ok () ↔ LengthFits form.name ∧ LengthFits form.brand) ∧
      (∀ complaints, form.validate = .error complaints →
        complaints.fields.Nodup ∧ ∀ field, field ∈ complaints.fields ↔
          (field = "name" ∧ ¬LengthFits form.name) ∨ (field = "brand" ∧ ¬LengthFits form.brand)) ∧
      (form.validate = .ok () →
        ∀ rule ∈ devicesTable.columns, rule.type.isText = true →
          rule.Admits (form.cell rule.name))) ∧
    (∀ patch : DevicePatch,
      (patch.validate = .ok () ↔
        (∀ name ∈ patch.name, LengthFits name) ∧ ∀ brand ∈ patch.brand, LengthFits brand) ∧
      (∀ complaints, patch.validate = .error complaints →
        complaints.fields.Nodup ∧ ∀ field, field ∈ complaints.fields ↔
          (field = "name" ∧ ∃ name ∈ patch.name, ¬LengthFits name) ∨
            (field = "brand" ∧ ∃ brand ∈ patch.brand, ¬LengthFits brand)) ∧
      (patch.validate = .ok () →
        ∀ rule ∈ devicesTable.columns, ∀ text ∈ patch.cell rule.name,
          rule.Admits (some text))) ∧
    ∀ rows : List DeviceRow,
      ((∃ found, DeviceRow.devices rows = .ok found) ↔
        ∀ row ∈ rows, devicesTable.Checks "state" row.state) ∧
      (∀ found, DeviceRow.devices rows = .ok found ↔ rows = found.map Device.row) ∧
      ∀ fault, DeviceRow.devices rows = .error fault ↔
        ∃ front row back, rows = front ++ row :: back ∧
          (∀ earlier ∈ front, devicesTable.Checks "state" earlier.state) ∧
          ¬devicesTable.Checks "state" row.state ∧
          fault = .database (.unreadableState ⟨row.state⟩) := by
  refine ⟨⟨_, schema_eq⟩, fun form => ⟨?_, fun complaints h => ?_, DeviceForm.admits_cell⟩,
    fun patch => ⟨DevicePatch.validate_eq_ok_iff, fun _ => DevicePatch.complaints_of_validate,
      DevicePatch.admits_cell⟩,
    fun rows => ⟨DeviceRow.exists_devices_iff, fun _ => DeviceRow.devices_eq_ok_iff,
      fun _ => DeviceRow.devices_eq_error_iff⟩⟩
  · rw [← form.validate_patch, DevicePatch.validate_eq_ok_iff]
    simp [DeviceForm.patch]
  · have reported := DevicePatch.complaints_of_validate (form.validate_patch.trans h)
    simpa [DeviceForm.patch] using reported

/-- A name of 255 characters passes although it takes more bytes; an empty one does not. -/
theorem checks_agree_with_table_of_longest :
    let longest := String.ofList (List.replicate 255 'é')
    let form : DeviceForm := ⟨longest, "acme", .inUse⟩
    let patch : DevicePatch := ⟨some longest, none, some .inactive⟩
    (form.validate = .ok () ∧
      ∀ rule ∈ devicesTable.columns, rule.type.isText = true →
        rule.Admits (form.cell rule.name)) ∧
    (patch.validate = .ok () ∧
      ∀ rule ∈ devicesTable.columns, ∀ text ∈ patch.cell rule.name, rule.Admits (some text)) ∧
    ∃ complaints, DevicePatch.validate ⟨some "", none, none⟩ = .error complaints ∧
      complaints.fields.Nodup := by
  intro longest form patch
  have length : longest.length = 255 := by rw [String.length_ofList, List.length_replicate]
  have fits : LengthFits longest := by rw [LengthFits, length]; decide
  obtain ⟨-, forms, patches, -⟩ := checks_agree_with_table
  obtain ⟨formOk, -, formAdmitted⟩ := forms form
  obtain ⟨patchOk, -, patchAdmitted⟩ := patches patch
  have formValid : form.validate = .ok () := formOk.mpr ⟨fits, by decide, by decide⟩
  have patchValid : patch.validate = .ok () :=
    patchOk.mpr ⟨fun _ given => Option.mem_some_iff.mp given ▸ fits, nofun⟩
  refine ⟨⟨formValid, formAdmitted formValid⟩, ⟨patchValid, patchAdmitted patchValid⟩, _, rfl, ?_⟩
  exact ((patches ⟨some "", none, none⟩).2.1 _ rfl).1

end Stockroom
