import Stockroom.Device.Basic
import Stockroom.Proofs.Query.Token
import Stockroom.Proofs.Time.Timestamp
import Stockroom.Proofs.Uuid

/-!
# Devices as boundary rows

A cursor keeps the value of a field and the identifier of a device.  Both are
found again when the cursor is read, for the column of the field, and the token
of the cursor is read back as the cursor.  Only an instant whose year has not
four digits is lost.
-/

namespace Stockroom

/-! ## Values of a kind -/

/-- A value of the kind that a cursor can carry. -/
def Value.Fits (value : Value) : Kind → Prop
  | .text => ∃ s, value = .text s
  | .timestamp => ∃ t : Instant, t.Readable ∧ value = .instant t
  | .integer => ∃ n, value = .int n
  | .uuid => ∃ id, value = .uuid id

theorem Cursor.readJson_json {kind : Kind} {value : Value} (h : value.Fits kind) :
    readJson kind value.json = .ok value := by
  cases kind with
  | text =>
      obtain ⟨s, rfl⟩ := h
      rfl
  | timestamp =>
      obtain ⟨t, readable, rfl⟩ := h
      simp [Value.json, readJson, Kind.coerce, Kind.read?, Instant.parse?_render readable,
        Except.mapError]
  | integer =>
      obtain ⟨n, rfl⟩ := h
      have range : Int64.minValue.toInt ≤ n.toInt ∧ n.toInt ≤ Int64.maxValue.toInt :=
        ⟨n.minValue_le_toInt, n.toInt_le⟩
      rw [Value.json, readJson, if_pos rfl, if_pos range, Int64.ofInt_toInt]
  | uuid =>
      obtain ⟨id, rfl⟩ := h
      simp [Value.json, readJson, Kind.coerce, Kind.read?, Except.mapError]

theorem Cursor.readJson_render_of_signed {t : Instant} (h : ¬(0 ≤ t.year ∧ t.year ≤ 9999)) :
    readJson .timestamp (Value.json (.instant t)) =
      .error (.unreadable ⟨.timestamp, t.render⟩) := by
  simp [Value.json, readJson, Kind.coerce, Kind.read?, Instant.parse?_render_of_signed h,
    Except.mapError]

namespace Device

/-- The instants of the device can be written and read back. -/
structure Readable (device : Device) : Prop where
  created : device.createdAt.Readable
  updated : device.updatedAt.Readable

def columnValue (device : Device) (column : String) : Value :=
  if column = "id" then .uuid device.id
  else if column = "name" then .text device.name
  else if column = "brand" then .text device.brand
  else if column = "state" then .text device.state.word
  else if column = "created_at" then .instant device.createdAt
  else if column = "updated_at" then .instant device.updatedAt
  else .null

@[simp] theorem columnValue_id (device : Device) : device.columnValue "id" = .uuid device.id := rfl

theorem resolve_eq (field : String) :
    catalog.resolve field =
      if field = "id" then ⟨"id", .uuid⟩
      else if field = "name" then ⟨"name", .text⟩
      else if field = "brand" then ⟨"brand", .text⟩
      else if field = "state" then ⟨"state", .text⟩
      else if field = "updatedAt" then ⟨"updated_at", .timestamp⟩
      else ⟨"created_at", .timestamp⟩ := by
  rcases eq_or_ne field "createdAt" with rfl | hcreated
  · rfl
  · split_ifs with hid hname hbrand hstate hupdated
    · rw [hid]; rfl
    · rw [hname]; rfl
    · rw [hbrand]; rfl
    · rw [hstate]; rfl
    · rw [hupdated]; rfl
    · rw [catalog, Catalog.resolve, Catalog.column?_register_of_ne _ _ hupdated,
        Catalog.column?_register_of_ne _ _ hcreated, Catalog.column?_register_of_ne _ _ hstate,
        Catalog.column?_register_of_ne _ _ hbrand, Catalog.column?_register_of_ne _ _ hname,
        Catalog.column?_register_of_ne _ _ hid]
      rfl

theorem columnValue_resolve (device : Device) (field : String) :
    device.columnValue (catalog.resolve field).name = device.fieldValue field := by
  rw [resolve_eq, fieldValue]
  split_ifs <;> rfl

/-- The instants of a device stand in columns of timestamps. -/
theorem fieldValue_eq_instant {device : Device} {field : String} {t : Instant}
    (h : device.fieldValue field = .instant t) :
    (catalog.resolve field).kind = .timestamp ∧ (t = device.createdAt ∨ t = device.updatedAt) := by
  unfold fieldValue at h
  rw [resolve_eq]
  split_ifs at h ⊢
  · cases h
    exact ⟨rfl, .inr rfl⟩
  · cases h
    exact ⟨rfl, .inl rfl⟩

theorem fieldValue_fits {device : Device} {field : String}
    (h : ∀ t, device.fieldValue field = .instant t → t.Readable) :
    (device.fieldValue field).Fits (catalog.resolve field).kind := by
  unfold fieldValue at h ⊢
  rw [resolve_eq]
  split_ifs at h ⊢
  · exact ⟨_, rfl⟩
  · exact ⟨_, rfl⟩
  · exact ⟨_, rfl⟩
  · exact ⟨_, rfl⟩
  · exact ⟨_, h _ rfl, rfl⟩
  · exact ⟨_, h _ rfl, rfl⟩

theorem Readable.fieldValue {device : Device} (h : device.Readable) {field : String} :
    ∀ t, device.fieldValue field = .instant t → t.Readable := by
  intro t ht
  rcases (fieldValue_eq_instant ht).2 with rfl | rfl
  · exact h.created
  · exact h.updated

theorem exists_text_json_fieldValue (device : Device) (field : String) :
    ∃ s, (device.fieldValue field).json = .text s := by
  -- No field of a device is a number.
  unfold fieldValue
  split_ifs <;> exact ⟨_, rfl⟩

/-! ## Cursors of devices -/

theorem render_id_ne_empty (device : Device) : device.id.render ≠ "" := by
  obtain ⟨c, rest, hhead, -, -⟩ := Uuid.hyphenate_head device.id
  intro empty
  have chars := congrArg String.toList empty
  rw [Uuid.render, String.toList_ofList, hhead] at chars
  cases chars

theorem readValue_cursor_eq (device : Device) (sort : String) (travel : Travel) (kind : Kind) :
    (device.cursor sort travel).readValue kind =
      (Cursor.readJson kind (device.fieldValue (SortKey.parse sort).field).json).mapError
        fun fault => .value fault sort := rfl

theorem readValue_cursor_of_forall {device : Device} {sort : String}
    (h : ∀ t, device.fieldValue (SortKey.parse sort).field = .instant t → t.Readable)
    (travel : Travel) :
    (device.cursor sort travel).readValue (catalog.resolve (SortKey.parse sort).field).kind =
      .ok (device.columnValue (catalog.resolve (SortKey.parse sort).field).name) := by
  rw [columnValue_resolve, readValue_cursor_eq, Cursor.readJson_json (fieldValue_fits h)]
  rfl

theorem readValue_cursor {device : Device} (h : device.Readable) (sort : String)
    (travel : Travel) :
    (device.cursor sort travel).readValue (catalog.resolve (SortKey.parse sort).field).kind =
      .ok (device.columnValue (catalog.resolve (SortKey.parse sort).field).name) :=
  readValue_cursor_of_forall h.fieldValue travel

theorem readValue_cursor_of_signed {device : Device} {sort : String} {t : Instant}
    (h : device.fieldValue (SortKey.parse sort).field = .instant t)
    (hyear : ¬(0 ≤ t.year ∧ t.year ≤ 9999)) (travel : Travel) :
    (device.cursor sort travel).readValue (catalog.resolve (SortKey.parse sort).field).kind =
      .error (.value (.unreadable ⟨.timestamp, t.render⟩) sort) := by
  rw [readValue_cursor_eq, h, (fieldValue_eq_instant h).1, Cursor.readJson_render_of_signed hyear]
  rfl

theorem readId_cursor (device : Device) (sort : String) (travel : Travel) :
    (device.cursor sort travel).readId catalog.id.kind = .ok (device.columnValue "id") := by
  have fits : (Value.uuid device.id).Fits catalog.id.kind := ⟨_, rfl⟩
  have read := Cursor.readJson_json fits
  rw [Value.json] at read
  rw [columnValue_id, Cursor.readId, cursor, Cursor.ofValue, read]
  rfl

theorem ofToken_token_cursor (device : Device) {sort : String} (travel : Travel)
    (h : (SortKey.parse sort).field ≠ "") :
    Cursor.ofToken (device.cursor sort travel).token = .ok (device.cursor sort travel) := by
  obtain ⟨s, hs⟩ := device.exists_text_json_fieldValue (SortKey.parse sort).field
  have value : (device.cursor sort travel).value = .text s := hs
  apply Cursor.ofToken_token
  · exact h
  · exact device.render_id_ne_empty
  · rw [value]
    rfl
  · rw [value]
    rfl

theorem ofToken_token_cursor_of_field_eq_empty (device : Device) {sort : String}
    (travel : Travel) (h : (SortKey.parse sort).field = "") :
    Cursor.ofToken (device.cursor sort travel).token = .error .missingSortField := by
  obtain ⟨s, hs⟩ := device.exists_text_json_fieldValue (SortKey.parse sort).field
  have value : (device.cursor sort travel).value = .text s := hs
  apply Cursor.ofToken_token_of_field_eq_empty
  · exact h
  · rw [value]
    rfl
  · rw [value]
    rfl

/-! ## Cursors and columns -/

/--
A cursor of a device is read back as it is, by the sort key that it was taken
for.  It keeps the value of the device in the column that this key is resolved
to, which is read for the column unless it is an instant whose year has not four
digits, and the identifier.
-/
theorem cursor_reads_resolved_column {device : Device}
    (hcreated : device.createdAt.LeapEndsMinute) (hupdated : device.updatedAt.LeapEndsMinute)
    {sort : String} (hfield : (SortKey.parse sort).field ≠ "") (travel : Travel) :
    let cursor := device.cursor sort travel
    let column := catalog.resolve cursor.sortKey.field
    Cursor.ofToken cursor.token = .ok cursor ∧
    cursor.sortKey = SortKey.parse sort ∧
    ((∀ t, device.columnValue column.name = .instant t → 0 ≤ t.year ∧ t.year ≤ 9999) →
      cursor.readValue column.kind = .ok (device.columnValue column.name)) ∧
    (∀ t, device.columnValue column.name = .instant t → ¬(0 ≤ t.year ∧ t.year ≤ 9999) →
      cursor.readValue column.kind =
        .error (.value (.unreadable ⟨.timestamp, t.render⟩) sort)) ∧
    cursor.readId catalog.id.kind = .ok (.uuid device.id) := by
  intro cursor column
  have value : device.columnValue column.name = device.fieldValue (SortKey.parse sort).field :=
    device.columnValue_resolve _
  refine ⟨device.ofToken_token_cursor travel hfield, rfl, ?_, ?_, device.readId_cursor sort travel⟩
  · intro years
    refine readValue_cursor_of_forall (fun t ht => ?_) travel
    have leap : t.LeapEndsMinute := by
      rcases (fieldValue_eq_instant ht).2 with rfl | rfl
      · exact hcreated
      · exact hupdated
    exact leap.readable (years t (value.trans ht))
  · intro t ht hyear
    exact readValue_cursor_of_signed (value.symm.trans ht) hyear travel

/-- Created behind the last year of four digits, and updated within a leap second. -/
def late : Device where
  id := .nil
  name := "drill"
  brand := "acme"
  state := .available
  createdAt := ⟨253402300800, 1000, by decide⟩
  updatedAt := ⟨1483228799, 1500000000, by decide⟩

theorem cursor_reads_resolved_column_of_late :
    (late.cursor " -updatedAt" .prev).readValue (catalog.resolve "updatedAt").kind =
        .ok (.instant late.updatedAt) ∧
      (late.cursor "shelf" .next).readValue (catalog.resolve "shelf").kind =
        .error (.value (.unreadable ⟨.timestamp, "+10000-01-01T00:00:00.000001000Z"⟩) "shelf") := by
  have created : late.createdAt.LeapEndsMinute := by decide
  have updated : late.updatedAt.LeapEndsMinute := by decide
  have byUpdate : (SortKey.parse " -updatedAt").field ≠ "" := by decide
  have byShelf : (SortKey.parse "shelf").field ≠ "" := by decide
  constructor
  · obtain ⟨-, -, reads, -⟩ := cursor_reads_resolved_column created updated byUpdate .prev
    refine reads fun t ht => ?_
    cases ht
    decide
  · obtain ⟨-, -, -, refused, -⟩ := cursor_reads_resolved_column created updated byShelf .next
    exact refused late.createdAt rfl (by decide)

end Device

end Stockroom
