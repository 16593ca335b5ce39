import Stockroom.Proofs.Json.Again
import Stockroom.Proofs.Query.Token

/-!
# Tokens that are written anew

A reader takes a token in many forms and gives the cursor of it; the cursor is written
in one form.  The new token says the same as the old one, unless the value inside
cannot be read again: a value is nested deeper than its own text only with a text
embedded in it, and only an object that gives an embedded text a neighbour begins
with the key reserved for such texts once its keys are sorted.
-/

namespace Stockroom.Cursor

theorem exists_value_of_ofDocument? {document : Json.Document} {cursor : Cursor}
    (h : ofDocument? document = some cursor) :
    ∃ part ∈ document.parts, part.json? (Json.Document.maxDepth - 1) = some cursor.value := by
  obtain ⟨fields, hrecord, hfields⟩ := Option.bind_eq_some_iff.mp h
  split at hfields
  next v _ _ =>
    have inside : v ∈ document.parts := Json.Document.mem_parts_of_record? hrecord (by simp)
    obtain ⟨field, -, hrest⟩ := Option.bind_eq_some_iff.mp hfields
    obtain ⟨value, hvalue, hids⟩ := Option.bind_eq_some_iff.mp hrest
    obtain ⟨id, -, htravel⟩ := Option.bind_eq_some_iff.mp hids
    obtain ⟨travel, -, hcursor⟩ := Option.bind_eq_some_iff.mp htravel
    cases hcursor
    exact ⟨v, inside, hvalue⟩
  next => cases hfields

theorem regular_of_document? {token : String} {document : Json.Document}
    (h : document? token = some document) : document.Regular := by
  obtain ⟨bytes, -, hdocument⟩ := Option.bind_eq_some_iff.mp h
  exact Json.Document.regular_of_ofGlyphs? hdocument

/-- The value of a document is read again where it is not too deep and plain. -/
theorem ofToken_token_of_regular {cursor : Cursor} (hregular : cursor.value.Regular)
    (hvalue : cursor.value.noDoubles = true) (hfield : cursor.sortKey.field ≠ "")
    (hid : cursor.id ≠ "") :
    ofToken cursor.token =
      if cursor.value.depth < Json.Document.maxDepth ∧ cursor.value.isPlain = true then .ok cursor
      else .error .malformedPayload := by
  rw [ofToken_token_of_isExact (Json.isExact_of_regular hregular hvalue), Json.Document.json?,
    Json.Document.jsonWith?_document hregular]
  have limit : cursor.value.depth ≤ Json.Document.maxDepth - 1 ↔
      cursor.value.depth < Json.Document.maxDepth := Nat.le_sub_one_iff_lt (by decide)
  by_cases readable : cursor.value.depth < Json.Document.maxDepth ∧ cursor.value.isPlain = true
  · simp [limit, readable, hfield, hid]
  · simp [limit, readable]

/--
Whatever form a token has, the cursor read from it names a sort field and a row.  If no
double is in its value, its own token is read as the same cursor exactly where the value
is not too deep and has no object that begins with the reserved key, and else refused for
its payload.  A token that spells the reserved key nowhere has no such value.
-/
theorem ofToken_token_of_ofToken {token : String} {cursor : Cursor} (h : ofToken token = .ok cursor)
    (hvalue : cursor.value.noDoubles = true) :
    cursor.sortKey.field ≠ "" ∧ cursor.id ≠ "" ∧
      (ofToken cursor.token =
        if cursor.value.depth < Json.Document.maxDepth ∧ cursor.value.isPlain = true then .ok cursor
        else .error .malformedPayload) ∧
      ((∀ document, document? token = some document → document.isFree = true) →
        ofToken cursor.token = .ok cursor) := by
  obtain ⟨document, hdocument, hcursor, hfield, hid⟩ := exists_document_of_ofToken h
  obtain ⟨part, inside, hpart⟩ := exists_value_of_ofDocument? hcursor
  have regular := Json.Document.regular_of_mem_parts (regular_of_document? hdocument) inside
  have read := ofToken_token_of_regular (Json.Document.regular_of_json? regular hpart) hvalue
    hfield hid
  refine ⟨hfield, hid, read, fun hfree => ?_⟩
  have free := Json.Document.isFree_of_mem_parts (hfree document hdocument) inside
  obtain ⟨shallow, plain⟩ := Json.Document.depth_le_of_jsonWith? regular free hpart
  rw [read, if_pos ⟨Nat.lt_of_le_pred (by decide) shallow, plain⟩]

theorem ofToken_token_of_unsorted :
    ∃ cursor,
      ofToken "eyJmIjoiLW4iLCJ2IjpbeyJiIjoxLCJhIjpbXX1dLCJpZCI6IjciLCJkIjoibmV4dCJ9" = .ok cursor ∧
        cursor.value.noDoubles = true ∧ ofToken cursor.token = .ok cursor := by
  have unsorted : "eyJmIjoiLW4iLCJ2IjpbeyJiIjoxLCJhIjpbXX1dLCJpZCI6IjciLCJkIjoibmV4dCJ9" =
      token ⟨"-n", .array [.object [("b", .int 1), ("a", .array [])]], "7", .next⟩ := by
    decide +kernel
  have read : ofToken "eyJmIjoiLW4iLCJ2IjpbeyJiIjoxLCJhIjpbXX1dLCJpZCI6IjciLCJkIjoibmV4dCJ9" =
      .ok ⟨"-n", .array [.object [("a", .array []), ("b", .int 1)]], "7", .next⟩ := by
    rw [unsorted, ofToken_token_of_isExact rfl]
    rfl
  refine ⟨_, read, rfl, (ofToken_token_of_ofToken read rfl).2.2.2 ?_⟩
  intro document hdocument
  rw [unsorted, document?_token rfl] at hdocument
  cases hdocument
  rfl

/-- The reserved key is put first, and then it has a neighbour. -/
theorem token_of_reserved_neighbour_refused :
    ∃ cursor,
      ofToken ("eyJmIjoibiIsInYiOnsiYSI6MSwiJHNlcmRlX2pzb246OnByaXZh" ++
          "dGU6OlJhd1ZhbHVlIjoiNSJ9LCJpZCI6IjciLCJkIjoibmV4dCJ9") = .ok cursor ∧
        cursor.value.noDoubles = true ∧ ofToken cursor.token = .error .malformedPayload := by
  have unsorted :
      "eyJmIjoibiIsInYiOnsiYSI6MSwiJHNlcmRlX2pzb246OnByaXZh" ++
          "dGU6OlJhd1ZhbHVlIjoiNSJ9LCJpZCI6IjciLCJkIjoibmV4dCJ9" =
        token ⟨"n", .object [("a", .int 1), (Json.Document.embeddingKey, .text "5")], "7",
          .next⟩ := by
    decide +kernel
  refine ⟨⟨"n", .object [(Json.Document.embeddingKey, .text "5"), ("a", .int 1)], "7", .next⟩,
    ?_, rfl, ?_⟩
  · rw [unsorted, ofToken_token_of_isExact rfl]
    rfl
  · rw [ofToken_token_of_isExact rfl]
    rfl

end Stockroom.Cursor
