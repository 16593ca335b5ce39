import Stockroom.Proofs.Json.Written
import Stockroom.Proofs.Text.Bytes
import Stockroom.Query.Cursor

/-!
# Tokens

A token is read back as the cursor that it was written for, unless the cursor
lacks a sort field or a row identifier: a reader refuses those.
-/

namespace Stockroom

@[simp] theorem Travel.ofWord?_word (travel : Travel) : ofWord? travel.word = some travel := by
  cases travel <;> decide

namespace Cursor

theorem payload_isExact {cursor : Cursor} (h : cursor.value.isExact = true) :
    cursor.payload.isExact = true := by
  simp [payload, Json.isExact, Json.membersExact, h]

/-- Of the payload all is read again but the value, which may be refused or read differently. -/
theorem ofDocument?_payload (cursor : Cursor) :
    ofDocument? (Json.document cursor.payload) =
      ((Json.document cursor.value).json? (Json.Document.maxDepth - 1)).map
        fun value => { cursor with value := value } := by
  cases hvalue : (Json.document cursor.value).json? (Json.Document.maxDepth - 1) <;>
    simp [ofDocument?, payload, Json.document, Json.memberDocuments, Json.Document.record?,
      Json.Document.field?, Json.Document.string?, Json.Document.choice?, hvalue]

theorem ofBytes?_payload {cursor : Cursor} (h : cursor.value.isExact = true) :
    Json.Document.ofBytes? (Text.Utf8.encode cursor.payload.write) =
      some (Json.document cursor.payload) := by
  rw [Json.Document.ofBytes?, Text.Utf8.decode_encode, Json.ofGlyphs?_write (payload_isExact h)]

theorem trimChars_token (cursor : Cursor) :
    Text.trimChars cursor.token.toList =
      Text.Base64.encode (Text.Utf8.encode cursor.payload.write) := by
  rw [token, String.toList_ofList]
  exact Text.trimChars_of_forall fun c => Text.Base64.isBlank_of_mem_encode

theorem encode_payload_ne_nil (cursor : Cursor) :
    Text.Base64.encode (Text.Utf8.encode cursor.payload.write) ≠ [] := by
  refine Text.Base64.encode_ne_nil ?_
  simp [payload, Json.write, Text.Utf8.encode, String.utf8EncodeChar_ne_nil]

/-- The checks that a reader makes of a cursor once it has one. -/
theorem ofToken_token_of_isExact {cursor : Cursor} (hexact : cursor.value.isExact = true) :
    ofToken cursor.token =
      match (Json.document cursor.value).json? (Json.Document.maxDepth - 1) with
      | none => .error .malformedPayload
      | some value =>
          if cursor.sortKey.field.isEmpty then .error .missingSortField
          else if cursor.id.isEmpty then .error .missingRowId
          else .ok { cursor with value := value } := by
  have started : (Text.Base64.encode (Text.Utf8.encode cursor.payload.write)).isEmpty = false := by
    simpa using encode_payload_ne_nil cursor
  have read := ofDocument?_payload cursor
  unfold ofToken
  simp only [trimChars_token, started, Text.Base64.decode?_encode, ofBytes?_payload hexact,
    Option.bind_eq_bind, Option.bind_some, read]
  cases (Json.document cursor.value).json? (Json.Document.maxDepth - 1) with
  | none => rfl
  | some value =>
      have same : sortKey { cursor with value := value } = cursor.sortKey := rfl
      simp only [Option.map_some, same]
      cases cursor.sortKey.field.isEmpty <;> cases cursor.id.isEmpty <;> rfl

/-- What is written is read again, up to the checks that a reader makes of a cursor. -/
theorem ofToken_token_eq {cursor : Cursor} (hexact : cursor.value.isExact = true)
    (hvalue : (Json.document cursor.value).json? (Json.Document.maxDepth - 1) =
      some cursor.value) :
    ofToken cursor.token =
      if cursor.sortKey.field.isEmpty then .error .missingSortField
      else if cursor.id.isEmpty then .error .missingRowId
      else .ok cursor := by
  rw [ofToken_token_of_isExact hexact, hvalue]

theorem ofToken_token {cursor : Cursor} (hfield : cursor.sortKey.field ≠ "")
    (hid : cursor.id ≠ "") (hexact : cursor.value.isExact = true)
    (hvalue : (Json.document cursor.value).json? (Json.Document.maxDepth - 1) =
      some cursor.value) :
    ofToken cursor.token = .ok cursor := by
  rw [ofToken_token_eq hexact hvalue]
  simp [hfield, hid]

theorem ofToken_token_of_field_eq_empty {cursor : Cursor} (hfield : cursor.sortKey.field = "")
    (hexact : cursor.value.isExact = true)
    (hvalue : (Json.document cursor.value).json? (Json.Document.maxDepth - 1) =
      some cursor.value) :
    ofToken cursor.token = .error .missingSortField := by
  rw [ofToken_token_eq hexact hvalue]
  simp [hfield]

/-- The document that a token spells out, before any field of it is read. -/
def document? (token : String) : Option Json.Document :=
  Text.Base64.decode? (Text.trimChars token.toList) >>= Json.Document.ofBytes?

theorem document?_token {cursor : Cursor} (h : cursor.value.isExact = true) :
    document? cursor.token = some (Json.document cursor.payload) := by
  rw [document?, trimChars_token, Text.Base64.decode?_encode, Option.bind_eq_bind,
    Option.bind_some, ofBytes?_payload h]

theorem exists_document_of_ofToken {token : String} {cursor : Cursor}
    (h : ofToken token = .ok cursor) :
    ∃ document, document? token = some document ∧ ofDocument? document = some cursor ∧
      cursor.sortKey.field ≠ "" ∧ cursor.id ≠ "" := by
  unfold ofToken at h
  dsimp only [] at h
  split at h
  next => cases h
  next =>
    split at h
    next bytes hbytes =>
      split at h
      next _ read =>
        obtain ⟨document, hdocument, hread⟩ := Option.bind_eq_some_iff.mp read
        split at h
        next => cases h
        next hfield =>
          split at h
          next => cases h
          next hid =>
            cases h
            refine ⟨document, ?_, hread, ?_, ?_⟩
            · exact Option.bind_eq_some_iff.mpr ⟨bytes, hbytes, hdocument⟩
            · simpa using hfield
            · simpa using hid
      next => cases h
    next => cases h

theorem field_ne_empty_of_ofToken {token : String} {cursor : Cursor}
    (h : ofToken token = .ok cursor) : cursor.sortKey.field ≠ "" := by
  obtain ⟨_, -, -, hfield, -⟩ := exists_document_of_ofToken h
  exact hfield

end Cursor

/-! ## Values inside tokens -/

namespace Value

theorem json_isExact {value : Value} (h : ∀ x, value ≠ .float x) : value.json.isExact = true := by
  cases value with
  | int n =>
      have low := n.le_toInt
      have high := n.toInt_lt
      simp only [json, Json.isExact, Bool.and_eq_true, decide_eq_true_iff]
      omega
  | float x => exact absurd rfl (h x)
  | _ => rfl

/-- A value that is no double is read again as it was written, at any depth. -/
theorem json?_document_json {value : Value} (h : ∀ x, value ≠ .float x) (depth : Nat) :
    (Json.document value.json).json? depth = some value.json := by
  cases value with
  | float x => exact absurd rfl (h x)
  | _ => rfl

end Value

/-! ## Blanks around tokens -/

namespace Cursor

theorem ofToken_padded {before after : String} (hbefore : ∀ c ∈ before.toList, Text.isBlank c)
    (hafter : ∀ c ∈ after.toList, Text.isBlank c) (token : String) :
    ofToken (before ++ token ++ after) = ofToken token := by
  unfold ofToken
  rw [String.toList_append, String.toList_append, Text.trimChars_padded hbefore hafter]

/--
The token of a cursor, with any blanks around it, is read as this cursor if and
only if the cursor names a sort field and a row.  Else it is refused for the sort
field, if that is missing, and for the row identifier otherwise.
-/
theorem ofToken_padded_token_iff (field id : String) (travel : Travel) {value : Value}
    (hvalue : ∀ x, value ≠ .float x) {before after : String}
    (hbefore : ∀ c ∈ before.toList, Text.isBlank c) (hafter : ∀ c ∈ after.toList, Text.isBlank c) :
    (ofToken (before ++ (ofValue field value id travel).token ++ after) =
        .ok (ofValue field value id travel) ↔ (SortKey.parse field).field ≠ "" ∧ id ≠ "") ∧
    ((SortKey.parse field).field = "" →
      ∃ fault, ofToken (before ++ (ofValue field value id travel).token ++ after) = .error fault ∧
        fault.reason = "missing sort field") ∧
    ((SortKey.parse field).field ≠ "" → id = "" →
      ∃ fault, ofToken (before ++ (ofValue field value id travel).token ++ after) = .error fault ∧
        fault.reason = "missing row id") := by
  have read : ofToken (before ++ (ofValue field value id travel).token ++ after) =
      if (SortKey.parse field).field.isEmpty then .error .missingSortField
      else if id.isEmpty then .error .missingRowId
      else .ok (ofValue field value id travel) := by
    rw [ofToken_padded hbefore hafter]
    exact ofToken_token_eq (Value.json_isExact hvalue) (Value.json?_document_json hvalue _)
  rw [read]
  by_cases hfield : (SortKey.parse field).field = ""
  · simp [hfield, CursorFault.reason]
  · by_cases hid : id = ""
    · simp [hfield, hid, CursorFault.reason]
    · simp [hfield, hid]

theorem ofToken_padded_token_of_name :
    ofToken ("\u3000" ++ (ofValue "-name" (.text "3\" \\ ü") "1" .prev).token ++ "\n") =
        .ok (ofValue "-name" (.text "3\" \\ ü") "1" .prev) ∧
      ∃ fault, ofToken ("\u3000" ++ (ofValue "-" .null "1" .next).token ++ "\n") = .error fault ∧
        fault.reason = "missing sort field" := by
  have before : ∀ c ∈ "\u3000".toList, Text.isBlank c := List.all_eq_true.mp (by decide)
  have after : ∀ c ∈ "\n".toList, Text.isBlank c := List.all_eq_true.mp (by decide)
  constructor
  · exact (ofToken_padded_token_iff "-name" "1" .prev (by simp) before after).1.mpr
      ⟨by decide, by decide⟩
  · exact (ofToken_padded_token_iff "-" "1" .next (by simp) before after).2.1 (by decide)

end Cursor

end Stockroom
