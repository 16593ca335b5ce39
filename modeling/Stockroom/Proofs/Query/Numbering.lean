import Stockroom.Proofs.Query.Translation
import Stockroom.Proofs.Sql.Placeholders

/-!
# Numbers of placeholders

The placeholders of a predicate are the slots behind the parameters that were
bound before it, one after the other and each once.  A statement numbers the
slots of its filter from one and the two of its keyset behind them, so a query
holds exactly one placeholder for each of its parameters.
-/

namespace Stockroom

open Sql (placeholders slotText slotTexts slotTexts_append)

/-! ## Predicates -/

/-- No column has a dollar in its name. -/
structure Catalog.SlotFree (catalog : Catalog) : Prop where
  id : '$' ∉ catalog.id.name.toList
  fallback : '$' ∉ catalog.fallback.name.toList
  registered : ∀ field column, catalog.column? field = some column → '$' ∉ column.name.toList

theorem Catalog.SlotFree.resolve {catalog : Catalog} (h : catalog.SlotFree) (field : String) :
    '$' ∉ (catalog.resolve field).name.toList := by
  rw [Catalog.resolve]
  cases hcolumn : catalog.column? field with
  | none => exact h.fallback
  | some column => exact h.registered field column hcolumn

namespace Condition

mutual

theorem placeholders_predicate {catalog : Catalog} (hcatalog : catalog.SlotFree) :
    ∀ (condition : Condition) (count : Nat),
      placeholders (condition.predicate catalog count).text =
        slotTexts (count + 1) condition.inputs.length
  | .eq field _, _ => Sql.Predicate.placeholders_compare (hcatalog.resolve field) _ _
  | .oneOf _ [], _ => Sql.Predicate.placeholders_constant false
  | .oneOf field (first :: others), count => by
      rw [predicate, Sql.Predicate.placeholders_member (hcatalog.resolve field), inputs,
        List.length_map, slotTexts]
  | .like field _, _ => Sql.Predicate.placeholders_compare (hcatalog.resolve field) _ _
  | .between field _ _, count => by
      have side (comparison slot) :=
        Sql.Predicate.placeholders_compare (hcatalog.resolve field) comparison slot
      rw [predicate, Sql.Predicate.placeholders_conjunction, List.flatMap_cons,
        List.flatMap_singleton, side, side]
      rfl
  | .fullText field _, _ => Sql.Predicate.placeholders_search (hcatalog.resolve field) _
  | .all parts, count => by
      rw [predicate, Sql.Predicate.placeholders_conjunction, inputs,
        placeholders_predicates hcatalog parts]
  | .any parts, count => by
      rw [predicate, Sql.Predicate.placeholders_disjunction, inputs,
        placeholders_predicates hcatalog parts]
  | .not part, count => by
      rw [predicate, Sql.Predicate.placeholders_negation, inputs,
        placeholders_predicate hcatalog part]

theorem placeholders_predicates {catalog : Catalog} (hcatalog : catalog.SlotFree) :
    ∀ (parts : List Condition) (count : Nat),
      ((predicates catalog count parts).flatMap fun predicate => placeholders predicate.text) =
        slotTexts (count + 1) (inputsOf parts).length
  | [], _ => rfl
  | part :: parts, count => by
      rw [predicates, List.flatMap_cons, placeholders_predicate hcatalog part,
        placeholders_predicates hcatalog parts, inputsOf, List.length_append,
        ← slotTexts_append, Nat.add_right_comm]

end

end Condition

/-! ## Texts of statements -/

namespace Statement

theorem placeholders_whereText (statement : Statement) :
    statement.whereText.elim [] placeholders =
      statement.predicateText.elim [] placeholders ++
        statement.keysetText.elim [] placeholders := by
  rw [whereText]
  cases statement.predicateText with
  | none => cases statement.keysetText <;> rfl
  | some predicate => cases statement.keysetText with
    | none => exact (List.append_nil _).symm
    | some keyset =>
        have apart : Sql.Apart (" AND " ++ keyset) := .append (by decide) (by decide) keyset
        rw [Option.elim_some, String.append_assoc, Sql.placeholders_append apart,
          Sql.placeholders_append_of_not_mem (by decide)]
        rfl

theorem placeholders_countText (statement : Statement) (table : String) :
    placeholders (statement.countText table) =
      placeholders table ++ statement.predicateText.elim [] placeholders := by
  rw [countText_eq, Sql.placeholders_append (Sql.apart_clauseText _),
    Sql.placeholders_append_of_not_mem (by decide), Sql.placeholders_clauseText]

theorem placeholders_rowsText {statement : Statement} (horder : '$' ∉ statement.orderText.toList)
    (table columns : String) (extra : UInt32) :
    placeholders (statement.rowsText table columns extra) =
      placeholders columns ++ placeholders table ++
        (statement.predicateText.elim [] placeholders ++
          statement.keysetText.elim [] placeholders) := by
  have window : '$' ∉ (statement.windowText extra).toList := Sql.dollar_not_mem_windowText _ _
  have tail : '$' ∉ (statement.orderText ++ (" " ++ statement.windowText extra)).toList := by
    simp [horder, window]
  have text : statement.rowsText table columns extra =
      "SELECT " ++ columns ++ (" FROM " ++ table) ++ Sql.clauseText statement.whereText ++
        (" " ++ (statement.orderText ++ (" " ++ statement.windowText extra))) := by
    rw [rowsText_eq]
    simp only [String.append_assoc]
    rfl
  rw [text, Sql.placeholders_append (.append (by decide) (by decide) _),
    Sql.placeholders_append (Sql.apart_clauseText _),
    Sql.placeholders_append (.append (by decide) (by decide) _),
    Sql.placeholders_append_of_not_mem (by decide), Sql.placeholders_append_of_not_mem (by decide),
    Sql.placeholders_append_of_not_mem (by decide), Sql.placeholders_of_not_mem tail,
    List.append_nil, Sql.placeholders_clauseText, placeholders_whereText]

end Statement

/-! ## Statements -/

namespace Catalog

variable {catalog : Catalog} {selection : Selection} {statement : Statement}

theorem Filters.placeholders_predicateText {condition : Option Condition}
    (h : catalog.Filters condition statement) (hcatalog : catalog.SlotFree) :
    statement.predicateText.elim [] placeholders =
      slotTexts 1 statement.filterParams.length := by
  obtain ⟨hpredicate, binds⟩ := h.lowers
  rw [Statement.predicateText, hpredicate, ← binds.length_eq]
  cases condition with
  | none => rfl
  | some condition => exact condition.placeholders_predicate hcatalog 0

/-- The placeholders of the keyset stand for the parameters behind those of the predicate. -/
theorem keyset_of_statement (hcatalog : catalog.SlotFree)
    (h : catalog.statement selection = .ok statement) :
    (statement.keysetText = none ∧ statement.params.length = statement.filterParams.length) ∨
      ∃ text, statement.keysetText = some text ∧
        placeholders text = slotTexts (statement.filterParams.length + 1) 2 ∧
        statement.params.length = statement.filterParams.length + 2 := by
  cases hcursor : selection.cursor with
  | none =>
      have pages := pages_of_statement hcursor h
      exact .inl ⟨by rw [Statement.keysetText, pages.window]; rfl, by rw [pages.params]⟩
  | some cursor =>
      have pages := pagesBeyond_of_statement hcursor h
      obtain ⟨value, id, -, hparams⟩ := pages.params
      refine .inr ⟨_, by rw [Statement.keysetText, pages.window]; rfl, ?_, by simp [hparams]⟩
      exact Sql.placeholders_boundary (hcatalog.resolve cursor.sortKey.field) hcatalog.id

theorem dollar_not_mem_orderText_of_statement (hcatalog : catalog.SlotFree)
    (h : catalog.statement selection = .ok statement) : '$' ∉ statement.orderText.toList := by
  refine Sql.dollar_not_mem_orderText ?_
  cases hcursor : selection.cursor with
  | none =>
      rw [(pages_of_statement hcursor h).terms]
      exact forall_sortTerms (p := ('$' ∉ ·.toList)) hcatalog.fallback hcatalog.resolve _
  | some cursor =>
      rw [(pagesBeyond_of_statement hcursor h).terms]
      exact forall_keysetTerms (p := ('$' ∉ ·.toList)) (hcatalog.resolve cursor.sortKey.field)
        hcatalog.id _

/--
Placeholders and parameters agree.  Lowering a condition binds its inputs in
order, and the placeholders of its predicate are those of the new parameters.
In a statement those of the predicate come first and the two of the keyset
behind them; the query for the rows holds all of them, the count those of the
predicate.
-/
theorem placeholders_number_params (hcatalog : catalog.SlotFree) :
    (∀ (condition : Condition) (before after : Bindings) (predicate : Sql.Predicate),
      (condition.lower catalog).Yields before predicate after →
        ∃ params, after.params = before.params ++ params ∧
          List.Forall₂ catalog.Binds condition.inputs params ∧
          placeholders predicate.text = slotTexts (before.params.length + 1) params.length) ∧
    ∀ (selection : Selection) (statement : Statement),
      catalog.statement selection = .ok statement →
        List.Forall₂ catalog.Binds (Condition.clauseInputs selection.condition)
            statement.filterParams ∧
        statement.predicateText.elim [] placeholders =
          slotTexts 1 statement.filterParams.length ∧
        (match statement.keysetText with
          | none => statement.params.length = statement.filterParams.length
          | some text =>
              placeholders text = [slotText (statement.filterParams.length + 1),
                slotText (statement.filterParams.length + 2)] ∧
              statement.params.length = statement.filterParams.length + 2) ∧
        (∀ table columns extra,
          placeholders (statement.rowsText table columns extra) =
            placeholders columns ++ placeholders table ++
              slotTexts 1 statement.params.length) ∧
        ∀ table, placeholders (statement.countText table) =
          placeholders table ++ slotTexts 1 statement.filterParams.length := by
  constructor
  · intro condition before after predicate h
    obtain ⟨rfl, params, hparams, binds⟩ := Condition.yields_lower condition h
    refine ⟨params, hparams, binds, ?_⟩
    rw [condition.placeholders_predicate hcatalog, binds.length_eq]
  · intro selection statement h
    have filters := filters_of_statement h
    have predicate := filters.placeholders_predicateText hcatalog
    refine ⟨filters.lowers.2, predicate, ?_, fun table columns extra => ?_, fun table => ?_⟩
    · obtain ⟨hkeyset, hlength⟩ | ⟨text, hkeyset, htext, hlength⟩ := keyset_of_statement hcatalog h
      · rw [hkeyset]
        exact hlength
      · rw [hkeyset]
        exact ⟨htext, hlength⟩
    · rw [Statement.placeholders_rowsText (dollar_not_mem_orderText_of_statement hcatalog h),
        predicate]
      obtain ⟨hkeyset, hlength⟩ | ⟨text, hkeyset, htext, hlength⟩ := keyset_of_statement hcatalog h
      · rw [hkeyset, hlength, Option.elim_none, List.append_nil]
      · rw [hkeyset, hlength, Option.elim_some, htext, ← slotTexts_append, Nat.add_comm 1]
    · rw [statement.placeholders_countText, predicate]

/-- A filter with an empty list of values, and a cursor on a field without a column. -/
def beyondStock : Selection :=
  Draft.empty.require (.all [.eq "stock" (.int 3), .oneOf "brand" [],
      .not (.between "stock" (.int 1) (.int 2))])
    |>.continueFrom ⟨"-stock", .text "m", "r", .next⟩ |>.build

theorem placeholders_number_params_of_beyondStock :
    ∃ statement,
      (ofColumns ⟨"id", .text⟩ ⟨"name", .text⟩).statement beyondStock = .ok statement ∧
      statement.params = [.int 3, .int 1, .int 2, .text "m", .text "r"] ∧
      placeholders (statement.rowsText "devices" "*" 1) = ["$1", "$2", "$3", "$4", "$5"] := by
  have free : (ofColumns ⟨"id", .text⟩ ⟨"name", .text⟩).SlotFree :=
    ⟨by decide, by decide, by simp [ofColumns, column?]⟩
  refine ⟨_, rfl, rfl, ?_⟩
  exact ((placeholders_number_params free).2 beyondStock _ rfl).2.2.2.1 "devices" "*" 1

end Catalog

end Stockroom
