import Mathlib.Data.List.TakeWhile
import Stockroom.Proofs.Sql.Query

/-!
# Placeholders in texts

A placeholder is a dollar with the digits behind it.  The words and signs that
texts are made of have no dollars in them, so the placeholders of a text are
those of its tests, one after the other.
-/

namespace Stockroom.Sql

/-! ## Scanning a text -/

def placeholdersOf : List Char → List String
  | [] => []
  | c :: rest =>
      if c = '$' then String.ofList (c :: rest.takeWhile Char.isDigit) :: placeholdersOf rest
      else placeholdersOf rest

/-- The placeholders of a text from left to right. -/
def placeholders (text : String) : List String := placeholdersOf text.toList

/-- No digit stands at the front, which could belong to a placeholder before it. -/
def Apart (text : String) : Prop := text.toList.head?.any Char.isDigit = false

instance (text : String) : Decidable (Apart text) :=
  inferInstanceAs (Decidable (text.toList.head?.any Char.isDigit = false))

theorem Apart.append {front : String} (h : Apart front) (hne : front.toList ≠ [])
    (back : String) : Apart (front ++ back) := by
  rwa [Apart, String.toList_append, List.head?_append_of_ne_nil _ hne]

theorem placeholdersOf_append {a b : List Char} (h : b.head?.any Char.isDigit = false) :
    placeholdersOf (a ++ b) = placeholdersOf a ++ placeholdersOf b := by
  -- A dollar near the end of `a` takes its digits from `a` alone.
  have stops : b.takeWhile Char.isDigit = [] := by
    cases b with
    | nil => rfl
    | cons c rest => simpa using h
  have digits : ∀ a : List Char, (a ++ b).takeWhile Char.isDigit = a.takeWhile Char.isDigit := by
    intro a
    rw [List.takeWhile_append, stops, List.append_nil]
    split
    next whole => exact ((List.takeWhile_prefix _).eq_of_length whole).symm
    next => rfl
  induction a with
  | nil => rfl
  | cons c a ih =>
      simp only [List.cons_append, placeholdersOf, ih, digits]
      split <;> rfl

theorem placeholdersOf_append_of_not_mem {a : List Char} (h : '$' ∉ a) (b : List Char) :
    placeholdersOf (a ++ b) = placeholdersOf b := by
  induction a with
  | nil => rfl
  | cons c a ih =>
      rw [List.mem_cons, not_or] at h
      rw [List.cons_append, placeholdersOf, if_neg (Ne.symm h.1), ih h.2]

theorem placeholders_append {back : String} (h : Apart back) (text : String) :
    placeholders (text ++ back) = placeholders text ++ placeholders back := by
  rw [placeholders, String.toList_append, placeholdersOf_append h]
  rfl

theorem placeholders_append_of_not_mem {text : String} (h : '$' ∉ text.toList) (back : String) :
    placeholders (text ++ back) = placeholders back := by
  rw [placeholders, String.toList_append, placeholdersOf_append_of_not_mem h]
  rfl

theorem placeholders_of_not_mem {text : String} (h : '$' ∉ text.toList) :
    placeholders text = [] := by
  have whole := placeholders_append_of_not_mem h ""
  rwa [String.append_empty] at whole

theorem dollar_not_mem_toDigits (n : Nat) : '$' ∉ Nat.toDigits 10 n := by
  intro mem
  exact absurd (Nat.isDigit_of_mem_toDigits (by decide) (by decide) mem) (by decide)

theorem placeholders_slotText (slot : Nat) : placeholders (slotText slot) = [slotText slot] := by
  have chars : (slotText slot).toList = '$' :: Nat.toDigits 10 slot := by
    rw [slotText, String.toList_append, toList_toString_nat]
    rfl
  have digits : (Nat.toDigits 10 slot).takeWhile Char.isDigit = Nat.toDigits 10 slot :=
    List.takeWhile_eq_self_iff.mpr fun c hc =>
      Nat.isDigit_of_mem_toDigits (by decide) (by decide) hc
  have behind : placeholdersOf (Nat.toDigits 10 slot) = [] := by
    have whole := placeholdersOf_append_of_not_mem (dollar_not_mem_toDigits slot) []
    rwa [List.append_nil] at whole
  rw [placeholders, chars, placeholdersOf, if_pos rfl, behind, digits, ← chars,
    String.ofList_toList]

/-- The texts of consecutive slots. -/
def slotTexts (first count : Nat) : List String := (List.range' first count).map slotText

theorem slotTexts_append (first m n : Nat) :
    slotTexts first m ++ slotTexts (first + m) n = slotTexts first (m + n) := by
  rw [slotTexts, slotTexts, ← List.map_append, List.range'_append_1, slotTexts]

theorem placeholders_enclosed (text : String) :
    placeholders ("(" ++ text ++ ")") = placeholders text := by
  have opening : '$' ∉ "(".toList := by decide
  have closing : '$' ∉ ")".toList := by decide
  rw [placeholders_append (by decide), placeholders_append_of_not_mem opening,
    placeholders_of_not_mem closing, List.append_nil]

/-! ## Predicates -/

namespace Predicate

theorem placeholders_constant (value : Bool) : placeholders (constant value).text = [] := by
  cases value <;> exact placeholders_of_not_mem (by decide)

theorem placeholders_compare {column : String} (h : '$' ∉ column.toList)
    (comparison : Comparison) (slot : Nat) :
    placeholders (compare column comparison slot).text = [slotText slot] := by
  have front : '$' ∉ (column ++ " " ++ comparison.symbol ++ " ").toList := by
    cases comparison <;> simp [h, Comparison.symbol]
  rw [text_compare, placeholders_append_of_not_mem front, placeholders_slotText]

theorem placeholders_slots (slots : List Nat) :
    placeholders (",".intercalate (slots.map slotText)) = slots.map slotText := by
  have comma : '$' ∉ ",".toList := by decide
  induction slots with
  | nil => rfl
  | cons first slots ih =>
      cases slots with
      | nil => simp [placeholders_slotText]
      | cons next slots =>
          have apart : Apart ("," ++ ",".intercalate ((next :: slots).map slotText)) :=
            Apart.append (by decide) (by decide) _
          rw [List.map_cons, List.map_cons, String.intercalate_cons_cons, String.append_assoc,
            ← List.map_cons, placeholders_append apart, placeholders_append_of_not_mem comma, ih,
            placeholders_slotText]
          rfl

theorem placeholders_member {column : String} (h : '$' ∉ column.toList) (slots : List Nat) :
    placeholders (member column slots).text = slots.map slotText := by
  have front : '$' ∉ (column ++ " IN (").toList := by simp [h]
  have closing : '$' ∉ ")".toList := by decide
  rw [text_member, placeholders_append (by decide), placeholders_append_of_not_mem front,
    placeholders_slots, placeholders_of_not_mem closing, List.append_nil]

theorem placeholders_search {column : String} (h : '$' ∉ column.toList) (slot : Nat) :
    placeholders (search column slot).text = [slotText slot] := by
  have front : '$' ∉ ("to_tsvector('simple', " ++ column ++
      ") @@ plainto_tsquery('simple', ").toList := by
    simp [h]
  have closing : '$' ∉ ")".toList := by decide
  rw [text_search, placeholders_append (by decide), placeholders_append_of_not_mem front,
    placeholders_slotText, placeholders_of_not_mem closing, List.append_nil]

theorem placeholders_chainText {connective : String} (hclean : '$' ∉ connective.toList)
    (hapart : Apart connective) (hne : connective.toList ≠ []) (text : String)
    (parts : List Predicate) :
    placeholders (text ++ chainText connective parts) =
      placeholders text ++ parts.flatMap fun part => placeholders part.text := by
  induction parts generalizing text with
  | nil =>
      have whole : text ++ chainText connective [] = text := String.append_empty
      rw [whole, List.flatMap_nil, List.append_nil]
  | cons part parts ih =>
      rw [chainText_cons, ← String.append_assoc, ih, placeholders_append (hapart.append hne _),
        placeholders_append_of_not_mem hclean, List.flatMap_cons, List.append_assoc]

theorem placeholders_conjunction (parts : List Predicate) :
    placeholders (conjunction parts).text = parts.flatMap fun part => placeholders part.text := by
  match parts with
  | [] => exact placeholders_constant true
  | [part] =>
      rw [List.flatMap_singleton]
      rfl
  | part :: next :: parts =>
      rw [text_conjunction, placeholders_enclosed,
        placeholders_chainText (by decide) (by decide) (by decide)]
      rfl

theorem placeholders_disjunction (parts : List Predicate) :
    placeholders (disjunction parts).text = parts.flatMap fun part => placeholders part.text := by
  match parts with
  | [] => exact placeholders_constant false
  | [part] =>
      rw [List.flatMap_singleton]
      rfl
  | part :: next :: parts =>
      rw [text_disjunction, placeholders_enclosed,
        placeholders_chainText (by decide) (by decide) (by decide)]
      rfl

theorem placeholders_negation (part : Predicate) :
    placeholders (negation part).text = placeholders part.text := by
  rw [text_negation, placeholders_append_of_not_mem (by decide), placeholders_enclosed]

end Predicate

/-! ## Other clauses -/

theorem placeholders_boundary {boundary : Boundary} (hcolumn : '$' ∉ boundary.column.toList)
    (hid : '$' ∉ boundary.id.toList) :
    placeholders boundary.text = [slotText boundary.valueSlot, slotText boundary.idSlot] := by
  have front : '$' ∉ ("(" ++ boundary.column ++ ", " ++ boundary.id ++ ") " ++
      (if boundary.above then ">" else "<") ++ " (").toList := by
    cases boundary.above <;> simp [hcolumn, hid]
  have text : boundary.text = ("(" ++ boundary.column ++ ", " ++ boundary.id ++ ") " ++
      (if boundary.above then ">" else "<") ++ " (") ++ slotText boundary.valueSlot ++
        (", " ++ slotText boundary.idSlot) ++ ")" := by
    rw [← String.append_assoc]
    rfl
  have apart : Apart (", " ++ slotText boundary.idSlot) := Apart.append (by decide) (by decide) _
  have comma : '$' ∉ ", ".toList := by decide
  have closing : '$' ∉ ")".toList := by decide
  rw [text, placeholders_append (by decide), placeholders_append apart,
    placeholders_append_of_not_mem front, placeholders_append_of_not_mem comma,
    placeholders_of_not_mem closing, placeholders_slotText, placeholders_slotText]
  rfl

theorem apart_clauseText (clause : Option String) : Apart (clauseText clause) := by
  cases clause with
  | none => decide
  | some text => exact .append (by decide) (by decide) text

theorem placeholders_clauseText (clause : Option String) :
    placeholders (clauseText clause) = clause.elim [] placeholders := by
  cases clause with
  | none => rfl
  | some text => exact placeholders_append_of_not_mem (by decide) text

theorem dollar_not_mem_intercalate {separator : String} (hseparator : '$' ∉ separator.toList)
    {texts : List String} (h : ∀ text ∈ texts, '$' ∉ text.toList) :
    '$' ∉ (separator.intercalate texts).toList := by
  induction texts with
  | nil => simp
  | cons text texts ih =>
      have first := h text (by simp)
      have rest := ih fun other hother => h other (List.mem_cons_of_mem text hother)
      cases texts with
      | nil => simpa using first
      | cons next texts =>
          rw [String.intercalate_cons_cons, String.toList_append, String.toList_append,
            List.mem_append, List.mem_append, not_or, not_or]
          exact ⟨⟨first, hseparator⟩, rest⟩

theorem dollar_not_mem_orderText {terms : List OrderTerm}
    (h : ∀ term ∈ terms, '$' ∉ term.column.toList) : '$' ∉ (orderText terms).toList := by
  have clean : ∀ text ∈ terms.map OrderTerm.text, '$' ∉ text.toList := by
    intro text htext
    obtain ⟨term, hterm, rfl⟩ := List.mem_map.mp htext
    cases horder : term.order <;> simp [OrderTerm.text, h term hterm, horder, Order.word]
  have comma : '$' ∉ ", ".toList := by decide
  rw [orderText, String.toList_append, List.mem_append, not_or]
  exact ⟨by decide, dollar_not_mem_intercalate comma clean⟩

theorem dollar_not_mem_windowText (limit : UInt32) (offset : Option UInt64) :
    '$' ∉ (windowText limit offset).toList := by
  cases offset <;> simp [windowText, dollar_not_mem_toDigits]

end Stockroom.Sql
