import Mathlib.Data.List.DropRight
import Stockroom.Device.Basic
import Stockroom.Proofs.Text.Bytes

/-!
# Sort keys read again

A cursor keeps its sort key as a signed text, and the text is read when the
cursor is.  What was read without a plus is found again.  A plus is not written,
so a sign or a blank behind it counts when the key is read for the second time.
The last section says exactly which keys, and which texts, survive that.
-/

namespace Stockroom

/-! ## Trimming twice -/

namespace Text

theorem trimStart_trimChars (text : List Char) : trimStart (trimChars text) = trimChars text := by
  cases hchars : trimChars text with
  | nil => rfl
  | cons c rest =>
      have front : trimChars text <+: trimStart text := List.rdropWhile_prefix _ _
      obtain ⟨back, hback⟩ := front
      rw [hchars, trimStart] at hback
      have head := List.head?_dropWhile_not isBlank text
      rw [← hback] at head
      have solid : isBlank c = false := head
      simp [trimStart, solid]

@[simp] theorem trimChars_trimChars (text : List Char) :
    trimChars (trimChars text) = trimChars text := by
  rw [trimChars, trimStart_trimChars]
  exact List.rdropWhile_idempotent _ _

@[simp] theorem trim_trim (text : String) : trim (trim text) = trim text := by
  rw [trim, toList_trim, trimChars_trimChars, trim]

theorem trim_eq_empty_iff {text : String} : trim text = "" ↔ trimChars text.toList = [] := by
  rw [← String.toList_inj, toList_trim]
  rfl

end Text

namespace SortKey

@[simp] theorem parse_trim (text : String) : parse (Text.trim text) = parse text := by
  rw [parse, Text.toList_trim, Text.trimChars_trimChars, parse]

/-! ## Keys that are found again -/

theorem parse_signed_of_registered {key : SortKey}
    (h : (Device.catalog.column? key.field).isSome) : parse key.signed = key := by
  obtain ⟨field, order⟩ := key
  rw [Catalog.column?, List.lookup_isSome_iff] at h
  have known : field ∈ Device.catalog.fields.map Prod.fst := by
    obtain ⟨entry, mem, same⟩ := h
    exact List.mem_map.mpr ⟨entry, mem, (beq_iff_eq.mp same).symm⟩
  have each : ∀ field ∈ Device.catalog.fields.map Prod.fst,
      ∀ order ∈ [Order.ascending, .descending], parse (signed ⟨field, order⟩) = ⟨field, order⟩ := by
    decide
  exact each field known order (by cases order <;> simp)

/-- Written with its sign and read again, the key names a field and orders the same column. -/
structure Stable (key : SortKey) : Prop where
  field : (parse key.signed).field ≠ ""
  column : (Device.catalog.resolve (parse key.signed).field).name =
    (Device.catalog.resolve key.field).name
  order : (parse key.signed).order = key.order

theorem stable_of_parse_signed {key : SortKey} (h : parse key.signed = key)
    (hfield : key.field ≠ "") : key.Stable := by
  constructor
  · rwa [h]
  · rw [h]
  · rw [h]

theorem stable_of_registered {key : SortKey} (h : (Device.catalog.column? key.field).isSome) :
    key.Stable := by
  refine stable_of_parse_signed (parse_signed_of_registered h) ?_
  intro empty
  rw [empty] at h
  cases h

end SortKey

/-! ## Blank ends -/

namespace Text

/-- The text begins with a blank. -/
def opensBlank (text : List Char) : Bool := text.head?.any isBlank

/-- The text ends with a blank. -/
def endsBlank (text : List Char) : Bool := text.getLast?.any isBlank

theorem endsBlank_cons {c : Char} (h : isBlank c = false) (text : List Char) :
    endsBlank (c :: text) = endsBlank text := by
  cases text with
  | nil => simp [endsBlank, h]
  | cons d rest => rw [endsBlank, List.getLast?_cons_cons, endsBlank]

theorem trimStart_eq_self_iff {text : List Char} :
    trimStart text = text ↔ opensBlank text = false := by
  cases text with
  | nil => exact iff_of_true rfl rfl
  | cons c rest => simp [trimStart, opensBlank, List.dropWhile_eq_self_iff]

theorem trimEnd_eq_self_iff {text : List Char} :
    trimEnd text = text ↔ endsBlank text = false := by
  rw [trimEnd, List.reverse_eq_iff]
  exact trimStart_eq_self_iff.trans (by rw [opensBlank, endsBlank, List.head?_reverse])

theorem trimChars_eq_self_iff {text : List Char} :
    trimChars text = text ↔ opensBlank text = false ∧ endsBlank text = false := by
  rw [← trimStart_eq_self_iff, ← trimEnd_eq_self_iff]
  constructor
  · intro h
    have front : trimStart text = text := by
      have kept := trimStart_trimChars text
      rwa [h] at kept
    rw [trimChars, front] at h
    exact ⟨front, h⟩
  · rintro ⟨front, back⟩
    rw [trimChars, front, back]

theorem length_trimChars_le (text : List Char) : (trimChars text).length ≤ text.length := by
  have front : trimChars text <+: trimStart text := List.rdropWhile_prefix _ _
  exact front.length_le.trans (List.dropWhile_suffix _).length_le

theorem trimChars_cons {c : Char} (h : isBlank c = false) (text : List Char) :
    trimChars (c :: text) = c :: trimEnd text := by
  have start : trimStart (c :: text) = c :: text := trimStart_eq_self_iff.mpr h
  have alone : [c].dropWhile isBlank = [c] := by simp [h]
  rw [trimChars, start, trimEnd, List.reverse_cons, List.dropWhile_append, alone, trimEnd]
  cases text.reverse.dropWhile isBlank <;> simp

end Text

/-! ## Exactly the keys that are found again -/

namespace SortKey

theorem sign_cases (chars : List Char) :
    (∃ rest, chars = '-' :: rest) ∨ (∃ rest, chars = '+' :: rest) ∨
      (chars.head? ≠ some '-' ∧ chars.head? ≠ some '+') := by
  cases chars with
  | nil => simp
  | cons c rest => by_cases minus : c = '-' <;> by_cases plus : c = '+' <;> simp_all

theorem ofChars_of_unsigned {chars : List Char} (minus : chars.head? ≠ some '-')
    (plus : chars.head? ≠ some '+') : ofChars chars = ⟨String.ofList chars, .ascending⟩ := by
  unfold ofChars
  split
  next => simp at minus
  next => simp at plus
  next => rfl

/-- A key in ascending order is read from its name, or from its name behind a plus. -/
theorem ofChars_eq_ascending_iff {chars : List Char} {field : String} :
    ofChars chars = ⟨field, .ascending⟩ ↔
      chars = '+' :: field.toList ∨
        chars = field.toList ∧ chars.head? ≠ some '-' ∧ chars.head? ≠ some '+' := by
  have named (rest : List Char) : String.ofList rest = field ↔ rest = field.toList := by
    rw [← String.toList_inj, String.toList_ofList]
  obtain ⟨rest, rfl⟩ | ⟨rest, rfl⟩ | ⟨minus, plus⟩ := sign_cases chars
  · simp [ofChars]
  · simp [ofChars, named]
  · have unsigned : chars ≠ '+' :: field.toList := by
      rintro rfl
      exact plus rfl
    simp [ofChars_of_unsigned minus plus, named, minus, plus, unsigned]

theorem parse_eq_ascending_iff {field : String} :
    parse field = ⟨field, .ascending⟩ ↔
      Text.trimChars field.toList = field.toList ∧
        field.toList.head? ≠ some '-' ∧ field.toList.head? ≠ some '+' := by
  have longer : Text.trimChars field.toList ≠ '+' :: field.toList := by
    intro h
    have bound := Text.length_trimChars_le field.toList
    rw [h, List.length_cons] at bound
    omega
  rw [parse, ofChars_eq_ascending_iff, or_iff_right longer]
  exact and_congr_right fun kept => by rw [kept]

theorem parse_minus_eq_iff {field : String} :
    parse ("-" ++ field) = ⟨field, .descending⟩ ↔ Text.endsBlank field.toList = false := by
  have trimmed : Text.trimChars ("-" ++ field).toList = '-' :: Text.trimEnd field.toList := by
    rw [String.toList_append]
    exact Text.trimChars_cons (by decide) field.toList
  rw [parse, trimmed, ofChars, SortKey.mk.injEq, ← String.toList_inj, String.toList_ofList,
    Text.trimEnd_eq_self_iff]
  exact and_iff_left rfl

theorem parse_signed_eq_iff (key : SortKey) :
    parse key.signed = key ↔
      (key.order = .descending ∧ Text.endsBlank key.field.toList = false) ∨
        (key.order = .ascending ∧ Text.opensBlank key.field.toList = false ∧
          Text.endsBlank key.field.toList = false ∧
          key.field.toList.head? ≠ some '-' ∧ key.field.toList.head? ≠ some '+') := by
  obtain ⟨field, order⟩ := key
  cases order with
  | ascending => simp [signed, parse_eq_ascending_iff, Text.trimChars_eq_self_iff, and_assoc]
  | descending => simp [signed, parse_minus_eq_iff]

/-- The trimmed text has no blank at its ends, so only what follows a plus can be lost. -/
theorem parse_signed_ofChars_iff {chars : List Char} (hopens : Text.opensBlank chars = false)
    (hends : Text.endsBlank chars = false) :
    parse (ofChars chars).signed = ofChars chars ↔
      ¬∃ c rest, chars = '+' :: c :: rest ∧ (c = '-' ∨ c = '+' ∨ Text.isBlank c = true) := by
  rw [parse_signed_eq_iff]
  obtain ⟨rest, rfl⟩ | ⟨rest, rfl⟩ | ⟨minus, plus⟩ := sign_cases chars
  · rw [Text.endsBlank_cons (by decide)] at hends
    simp [ofChars, hends]
  · rw [Text.endsBlank_cons (by decide)] at hends
    cases rest with
    | nil => simp [ofChars, Text.opensBlank, hends]
    | cons c rest =>
        suffices Text.isBlank c = false ∧ c ≠ '-' ∧ c ≠ '+' ↔
            c ≠ '-' ∧ c ≠ '+' ∧ Text.isBlank c = false by
          simpa [ofChars, Text.opensBlank, hends]
        exact and_rotate
  · have unsigned : ¬∃ c rest, chars = '+' :: c :: rest ∧
        (c = '-' ∨ c = '+' ∨ Text.isBlank c = true) := by
      rintro ⟨c, rest, rfl, -⟩
      exact plus rfl
    rw [iff_true_right unsigned]
    simp [ofChars_of_unsigned minus plus, hopens, hends, minus, plus]

/--
How far the signed text of a key stands for the key.  Behind a minus only a blank
at the end is lost; without one also a blank or a sign in front.  So a text
survives being read, written and read again unless its plus has a sign or a blank
behind it.
-/
theorem signed_reads_back_iff :
    (∀ key : SortKey, parse key.signed = key ↔
      (key.order = .descending ∧ Text.endsBlank key.field.toList = false) ∨
        (key.order = .ascending ∧ Text.opensBlank key.field.toList = false ∧
          Text.endsBlank key.field.toList = false ∧
          key.field.toList.head? ≠ some '-' ∧ key.field.toList.head? ≠ some '+')) ∧
    ∀ text : String, parse (parse text).signed = parse text ↔
      ¬∃ c rest, Text.trimChars text.toList = '+' :: c :: rest ∧
        (c = '-' ∨ c = '+' ∨ Text.isBlank c = true) := by
  refine ⟨parse_signed_eq_iff, fun text => ?_⟩
  obtain ⟨opens, ends⟩ := Text.trimChars_eq_self_iff.mp (Text.trimChars_trimChars text.toList)
  exact parse_signed_ofChars_iff opens ends

end SortKey

end Stockroom
