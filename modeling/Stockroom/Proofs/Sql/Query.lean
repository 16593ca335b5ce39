import Stockroom.Proofs.Sql.Reading
import Stockroom.Proofs.Text.Woven
import Stockroom.Query.Statement

/-!
# How whole statements read

Two forms of statements are sent: one for the rows of a window and one for the
number of rows.  Each text reads as one query, whose condition is the reading of
the text behind `WHERE`.
-/

namespace Stockroom.Sql

structure Select where
  columns : List String
  table : String
  condition : Option Expr
  terms : List OrderTerm
  limit : Nat
  offset : Option Nat
  deriving Repr

structure Count where
  table : String
  condition : Option Expr
  deriving Repr

/-! ## Spelling -/

inductive SpellsWhere : List Token → Option Expr → Prop where
  | absent : SpellsWhere [] none
  | given {tokens : List Token} {expr : Expr} (h : Spells .disjunction tokens expr) :
      SpellsWhere (.keyword .where :: tokens) (some expr)

def columnTokens : List String → List Token
  | [] => []
  | [column] => [.name column]
  | column :: columns => .name column :: .sign .comma :: columnTokens columns

def orderToken : Order → Token
  | .ascending => .keyword .asc
  | .descending => .keyword .desc

def termTokens : List OrderTerm → List Token
  | [] => []
  | [term] => [.name term.column, orderToken term.order]
  | term :: terms =>
      .name term.column :: orderToken term.order :: .sign .comma :: termTokens terms

def windowTokens (limit : Nat) : Option Nat → List Token
  | none => [.keyword .limit, .number limit]
  | some offset => [.keyword .limit, .number limit, .keyword .offset, .number offset]

def Select.around (query : Select) (condition : List Token) : List Token :=
  .keyword .select :: (columnTokens query.columns ++ .keyword .from :: .name query.table ::
    (condition ++ .keyword .order :: .keyword .by ::
      (termTokens query.terms ++ windowTokens query.limit query.offset)))

def Count.around (query : Count) (condition : List Token) : List Token :=
  .keyword .select :: .name "COUNT" :: .sign .opening :: .sign .star :: .sign .closing ::
    .keyword .from :: .name query.table :: condition

def ReadsSelect (text : String) (query : Select) : Prop :=
  query.columns ≠ [] ∧ query.terms ≠ [] ∧ ∃ condition, SpellsWhere condition query.condition ∧
    tokens? text.toList = some (query.around condition)

def ReadsCount (text : String) (query : Count) : Prop :=
  ∃ condition, SpellsWhere condition query.condition ∧
    tokens? text.toList = some (query.around condition)

/-- The text orders rows by the terms, of which there is at least one. -/
def ReadsOrder (text : String) (terms : List OrderTerm) : Prop :=
  terms ≠ [] ∧ tokens? text.toList = some (.keyword .order :: .keyword .by :: termTokens terms)

def OrdersOnlyBy (text : String) (terms : List OrderTerm) : Prop :=
  ∀ other, ReadsOrder text other ↔ other = terms

/-! ## One reading at most -/

theorem Spells.order_not_mem {level : Level} {tokens : List Token} {expr : Expr}
    (h : Spells level tokens expr) : Token.keyword .order ∉ tokens := by
  induction h with
  | constant value => cases value <;> simp [constantToken]
  | test test => cases test with
    | compare _ comparison _ => cases comparison <;> simp [Test.tokens, Comparison.token]
    | member | search | beyond => simp [Test.tokens, furtherSlots]
  | enclosed part ih => simpa using ih
  | not part ih => simpa using ih
  | and front back ihFront ihBack => simpa using ⟨ihFront, ihBack⟩
  | or front back ihFront ihBack => simpa using ⟨ihFront, ihBack⟩
  | primary part ih => exact ih
  | negation part ih => exact ih
  | conjunction part ih => exact ih

theorem SpellsWhere.order_not_mem {tokens : List Token} {condition : Option Expr}
    (h : SpellsWhere tokens condition) : Token.keyword .order ∉ tokens := by
  cases h with
  | absent => simp
  | given h => simpa using h.order_not_mem

theorem SpellsWhere.unique {tokens : List Token} {a b : Option Expr} (ha : SpellsWhere tokens a)
    (hb : SpellsWhere tokens b) : a = b := by
  cases ha with
  | absent =>
      cases hb
      rfl
  | given ha => cases hb with
    | given hb => rw [ha.unique hb]

def Token.name? : Token → Option String
  | .name text => some text
  | _ => none

def Token.order? : Token → Option Order
  | .keyword .asc => some .ascending
  | .keyword .desc => some .descending
  | _ => none

@[simp] theorem name?_name (text : String) : (Token.name text).name? = some text := rfl

@[simp] theorem name?_sign (sign : Sign) : (Token.sign sign).name? = none := rfl

@[simp] theorem order?_name (text : String) : (Token.name text).order? = none := rfl

@[simp] theorem order?_sign (sign : Sign) : (Token.sign sign).order? = none := rfl

@[simp] theorem name?_orderToken (order : Order) : (orderToken order).name? = none := by
  cases order <;> rfl

@[simp] theorem order?_orderToken (order : Order) : (orderToken order).order? = some order := by
  cases order <;> rfl

theorem names_columnTokens (columns : List String) :
    (columnTokens columns).filterMap Token.name? = columns := by
  fun_induction columnTokens columns <;> simp_all [List.filterMap_cons]

theorem names_termTokens (terms : List OrderTerm) :
    (termTokens terms).filterMap Token.name? = terms.map OrderTerm.column := by
  fun_induction termTokens terms <;> simp_all [List.filterMap_cons]

theorem orders_termTokens (terms : List OrderTerm) :
    (termTokens terms).filterMap Token.order? = terms.map OrderTerm.order := by
  fun_induction termTokens terms <;> simp_all [List.filterMap_cons]

theorem termTokens_injective {a b : List OrderTerm} (h : termTokens a = termTokens b) :
    a = b := by
  have columns := congrArg (List.filterMap Token.name?) h
  have orders := congrArg (List.filterMap Token.order?) h
  rw [names_termTokens, names_termTokens] at columns
  rw [orders_termTokens, orders_termTokens] at orders
  have pairs : ∀ terms : List OrderTerm,
      List.zipWith OrderTerm.mk (terms.map OrderTerm.column) (terms.map OrderTerm.order) =
        terms := by
    intro terms
    induction terms with
    | nil => rfl
    | cons term terms ih => simp [ih]
  rw [← pairs a, columns, orders, pairs]

theorem ReadsOrder.unique {text : String} {a b : List OrderTerm} (ha : ReadsOrder text a)
    (hb : ReadsOrder text b) : a = b := by
  have same := Option.some.inj (ha.2.symm.trans hb.2)
  simp only [List.cons.injEq, true_and] at same
  exact termTokens_injective same

theorem from_not_mem_columnTokens (columns : List String) :
    Token.keyword .from ∉ columnTokens columns := by
  fun_induction columnTokens columns <;> simp_all

theorem limit_not_mem_termTokens (terms : List OrderTerm) :
    Token.keyword .limit ∉ termTokens terms := by
  have order : ∀ order, Token.keyword .limit ≠ orderToken order := by
    intro order
    cases order <;> simp [orderToken]
  fun_induction termTokens terms <;> simp_all

theorem ReadsSelect.unique {text : String} {a b : Select} (ha : ReadsSelect text a)
    (hb : ReadsSelect text b) : a = b := by
  obtain ⟨-, -, first, spelledA, cutA⟩ := ha
  obtain ⟨-, -, second, spelledB, cutB⟩ := hb
  have same := Option.some.inj (cutA.symm.trans cutB)
  simp only [Select.around, List.cons.injEq, true_and] at same
  obtain ⟨columns, behindColumns⟩ := Text.append_cons_cancel
    (from_not_mem_columnTokens _) (from_not_mem_columnTokens _) same
  obtain ⟨table, behindTable⟩ := List.cons.inj behindColumns
  obtain ⟨rfl, behindCondition⟩ :=
    Text.append_cons_cancel spelledB.order_not_mem spelledA.order_not_mem behindTable
  have columnsEq : a.columns = b.columns := by
    rw [← names_columnTokens a.columns, columns, names_columnTokens]
  have window : ∀ query : Select, windowTokens query.limit query.offset =
      .keyword .limit :: (windowTokens query.limit query.offset).tail := by
    intro query
    cases query.offset <;> rfl
  simp only [List.cons.injEq, true_and] at behindCondition
  rw [window a, window b] at behindCondition
  obtain ⟨terms, windows⟩ := Text.append_cons_cancel
    (limit_not_mem_termTokens _) (limit_not_mem_termTokens _) behindCondition
  have termsEq := termTokens_injective terms
  have condition := spelledA.unique spelledB
  cases a with
  | mk _ _ _ _ _ offsetA => cases b with
    | mk _ _ _ _ _ offsetB => cases offsetA <;> cases offsetB <;> simp_all [windowTokens]

theorem ReadsCount.unique {text : String} {a b : Count} (ha : ReadsCount text a)
    (hb : ReadsCount text b) : a = b := by
  obtain ⟨first, spelledA, cutA⟩ := ha
  obtain ⟨second, spelledB, cutB⟩ := hb
  have same := Option.some.inj (cutA.symm.trans cutB)
  simp only [Count.around, List.cons.injEq, Token.name.injEq, true_and] at same
  obtain ⟨table, rfl⟩ := same
  have condition := spelledA.unique spelledB
  cases a
  cases b
  simp_all

/-! ## Texts of clauses -/

/-- Texts with commas between them are cut into the tokens of each, with commas between them. -/
theorem tokens?_commas {α : Type} {text : α → String} {piece : α → List Token} {list : List α}
    (h : ∀ a ∈ list, tokens? (text a).toList = some (piece a)) :
    tokens? (", ".intercalate (list.map text)).toList =
      some ([.sign .comma].intercalate (list.map piece)) := by
  induction list with
  | nil => rfl
  | cons first list ih =>
      obtain ⟨cut, further⟩ := List.forall_mem_cons.mp h
      cases list with
      | nil => simpa using cut
      | cons second list =>
          have chars : (", ".intercalate ((first :: second :: list).map text)).toList =
              (text first).toList ++
                ',' :: ([] ++ ' ' :: (", ".intercalate ((second :: list).map text)).toList) := by
            simp [String.intercalate_cons_of_ne_nil]
          have behind := tokens?_append_blank tokens?_nil (ih further)
          rw [chars, tokens?_append_mark (c := ',') rfl cut behind]
          simp

theorem columnTokens_eq : ∀ columns : List String,
    columnTokens columns = [.sign .comma].intercalate (columns.map fun column => [.name column])
  | [] => rfl
  | [_] => by simp [columnTokens]
  | column :: next :: columns => by
      rw [columnTokens, columnTokens_eq (next :: columns)]
      · simp
      · exact List.cons_ne_nil next columns

theorem termTokens_eq : ∀ terms : List OrderTerm,
    termTokens terms = [.sign .comma].intercalate
      (terms.map fun term => [.name term.column, orderToken term.order])
  | [] => rfl
  | [_] => by simp [termTokens]
  | term :: next :: terms => by
      rw [termTokens, termTokens_eq (next :: terms)]
      · simp
      · exact List.cons_ne_nil next terms

theorem tokens?_columns {columns : List String} (h : ∀ column ∈ columns, isPlain column = true) :
    tokens? (", ".intercalate columns).toList = some (columnTokens columns) := by
  rw [columnTokens_eq, ← tokens?_commas fun column mem => tokens?_name (h column mem), List.map_id']

theorem OrderTerm.tokens?_text {term : OrderTerm} (h : isPlain term.column = true) :
    tokens? term.text.toList = some [.name term.column, orderToken term.order] := by
  have chars : term.text.toList = term.column.toList ++ ' ' :: term.order.word.toList := by
    simp [OrderTerm.text]
  have word : tokens? term.order.word.toList = some [orderToken term.order] := by
    cases term.order <;> decide
  rw [chars]
  exact tokens?_append_blank (tokens?_name h) word

theorem tokens?_terms {terms : List OrderTerm} (h : ∀ term ∈ terms, isPlain term.column = true) :
    tokens? (", ".intercalate (terms.map OrderTerm.text)).toList = some (termTokens terms) := by
  rw [termTokens_eq]
  exact tokens?_commas fun term mem => term.tokens?_text (h term mem)

theorem tokens?_orderText {terms : List OrderTerm}
    (h : ∀ term ∈ terms, isPlain term.column = true) :
    tokens? (orderText terms).toList =
      some (.keyword .order :: .keyword .by :: termTokens terms) := by
  have chars : (orderText terms).toList = "ORDER".toList ++ ' ' :: ("BY".toList ++
      ' ' :: (", ".intercalate (terms.map OrderTerm.text)).toList) := by
    simp [orderText]
  have order : tokens? "ORDER".toList = some [.keyword .order] := by decide
  have «by» : tokens? "BY".toList = some [.keyword .by] := by decide
  rw [chars]
  exact tokens?_append_blank order (tokens?_append_blank «by» (tokens?_terms h))

theorem ordersOnlyBy_text {terms : List OrderTerm} (hterms : terms ≠ [])
    (h : ∀ term ∈ terms, isPlain term.column = true) : OrdersOnlyBy (orderText terms) terms := by
  have reads : ReadsOrder (orderText terms) terms := ⟨hterms, tokens?_orderText h⟩
  intro other
  constructor
  · exact fun hother => hother.unique reads
  · rintro rfl
    exact reads

theorem tokens?_windowText (limit : UInt32) (offset : Option UInt64) :
    tokens? (windowText limit offset).toList =
      some (windowTokens limit.toNat (offset.map UInt64.toNat)) := by
  have word : tokens? "LIMIT".toList = some [.keyword .limit] := by decide
  have offsetWord : tokens? "OFFSET".toList = some [.keyword .offset] := by decide
  cases offset with
  | none =>
      have chars : (windowText limit none).toList =
          "LIMIT".toList ++ ' ' :: (toString limit.toNat).toList := by simp [windowText]
      rw [chars]
      exact tokens?_append_blank word (tokens?_toString _)
  | some offset =>
      have chars : (windowText limit (some offset)).toList =
          "LIMIT".toList ++ ' ' :: ((toString limit.toNat).toList ++
            ' ' :: ("OFFSET".toList ++ ' ' :: (toString offset.toNat).toList)) := by
        simp [windowText]
      rw [chars]
      exact tokens?_append_blank word (tokens?_append_blank (tokens?_toString _)
        (tokens?_append_blank offsetWord (tokens?_toString _)))

/-- The text behind the table: nothing, or the keyword and a condition. -/
def clauseText : Option String → String
  | none => ""
  | some condition => " WHERE " ++ condition

theorem tokens?_append_clauseText {text : Option String} {condition : Option Expr}
    (h : Option.Rel Reads text condition) {front : List Char} {tokens : List Token}
    (hfront : tokens? front = some tokens) :
    ∃ clause, SpellsWhere clause condition ∧
      tokens? (front ++ (clauseText text).toList) = some (tokens ++ clause) := by
  cases h with
  | none => exact ⟨[], .absent, by simpa [clauseText] using hfront⟩
  | @some text expr h =>
      obtain ⟨inner, cut, spelled⟩ := h
      have chars : front ++ (clauseText (some text)).toList =
          front ++ ' ' :: ("WHERE".toList ++ ' ' :: text.toList) := by
        simp [clauseText]
      have word : tokens? "WHERE".toList = some [.keyword .where] := by decide
      refine ⟨_, .given spelled, ?_⟩
      rw [chars]
      exact tokens?_append_blank hfront (tokens?_append_blank word cut)

/-! ## Texts of statements -/

theorem readsCount_text {table : String} (htable : isPlain table = true) {text : Option String}
    {condition : Option Expr} (h : Option.Rel Reads text condition) :
    ReadsCount ("SELECT COUNT(*) FROM " ++ table ++ clauseText text) ⟨table, condition⟩ := by
  have chars : ("SELECT COUNT(*) FROM " ++ table).toList =
      "SELECT".toList ++ ' ' :: ("COUNT".toList ++ '(' :: ([] ++ '*' :: ([] ++ ')' :: ([] ++
        ' ' :: ("FROM".toList ++ ' ' :: table.toList))))) := by
    simp
  have select : tokens? "SELECT".toList = some [.keyword .select] := by decide
  have count : tokens? "COUNT".toList = some [.name "COUNT"] := by decide
  have «from» : tokens? "FROM".toList = some [.keyword .from] := by decide
  have source := tokens?_append_blank tokens?_nil
    (tokens?_append_blank «from» (tokens?_name htable))
  have star := tokens?_append_mark (c := '*') rfl tokens?_nil
    (tokens?_append_mark (c := ')') rfl tokens?_nil source)
  have front := tokens?_append_blank select (tokens?_append_mark (c := '(') rfl count star)
  obtain ⟨clause, spelled, cut⟩ := tokens?_append_clauseText h front
  refine ⟨clause, spelled, ?_⟩
  rw [String.toList_append, chars]
  exact cut

theorem readsSelect_text {columns : List String} (hcolumns : columns ≠ [])
    (hplain : ∀ column ∈ columns, isPlain column = true) {table : String}
    (htable : isPlain table = true) {text : Option String} {condition : Option Expr}
    (h : Option.Rel Reads text condition) {terms : List OrderTerm} (hterms : terms ≠ [])
    (hordered : ∀ term ∈ terms, isPlain term.column = true) (limit : UInt32)
    (offset : Option UInt64) :
    ReadsSelect ("SELECT " ++ ", ".intercalate columns ++ " FROM " ++ table ++ clauseText text ++
      " " ++ orderText terms ++ " " ++ windowText limit offset)
      ⟨columns, table, condition, terms, limit.toNat, offset.map UInt64.toNat⟩ := by
  have chars : ("SELECT " ++ ", ".intercalate columns ++ " FROM " ++ table).toList =
      "SELECT".toList ++ ' ' :: ((", ".intercalate columns).toList ++
        ' ' :: ("FROM".toList ++ ' ' :: table.toList)) := by
    simp
  have select : tokens? "SELECT".toList = some [.keyword .select] := by decide
  have «from» : tokens? "FROM".toList = some [.keyword .from] := by decide
  have front := tokens?_append_blank select (tokens?_append_blank (tokens?_columns hplain)
    (tokens?_append_blank «from» (tokens?_name htable)))
  obtain ⟨clause, spelled, cut⟩ := tokens?_append_clauseText h front
  have whole : ("SELECT " ++ ", ".intercalate columns ++ " FROM " ++ table ++ clauseText text ++
      " " ++ orderText terms ++ " " ++ windowText limit offset).toList =
      (("SELECT " ++ ", ".intercalate columns ++ " FROM " ++ table).toList ++
        (clauseText text).toList) ++ ' ' :: ((orderText terms).toList ++
          ' ' :: (windowText limit offset).toList) := by
    simp
  refine ⟨hcolumns, hterms, clause, spelled, ?_⟩
  rw [whole, chars]
  have cutWhole := tokens?_append_blank cut (tokens?_append_blank (tokens?_orderText hordered)
    (tokens?_windowText limit offset))
  simpa [Select.around] using cutWhole

end Stockroom.Sql
