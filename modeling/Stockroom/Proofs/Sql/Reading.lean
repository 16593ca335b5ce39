import Stockroom.Proofs.Sql.Grammar

/-!
# How the texts of conditions read

The text of a predicate reads as its own expression wherever it stands: a chain
of several parts is enclosed, and every other predicate binds at least as tight
as a negation.
-/

namespace Stockroom.Sql

/-- The text is cut into tokens that spell the expression at the level. -/
def ReadsAt (level : Level) (text : String) (expr : Expr) : Prop :=
  ∃ tokens, tokens? text.toList = some tokens ∧ Spells level tokens expr

def Reads (text : String) (expr : Expr) : Prop := ReadsAt .disjunction text expr

theorem Reads.unique {text : String} {a b : Expr} (ha : Reads text a) (hb : Reads text b) :
    a = b := by
  obtain ⟨tokens, cut, spelled⟩ := ha
  obtain ⟨others, cutAgain, spelledAgain⟩ := hb
  obtain rfl : tokens = others := Option.some.inj (cut.symm.trans cutAgain)
  exact spelled.unique spelledAgain

def ReadsOnlyAs (text : String) (expr : Expr) : Prop := ∀ other, Reads text other ↔ other = expr

theorem Reads.only {text : String} {expr : Expr} (h : Reads text expr) :
    ReadsOnlyAs text expr := by
  intro other
  constructor
  · exact fun hother => hother.unique h
  · rintro rfl
    exact h

namespace ReadsAt

variable {text back : String} {expr left right : Expr}

theorem negation (h : ReadsAt .negation text expr) : ReadsAt .conjunction text expr := by
  obtain ⟨tokens, cut, spelled⟩ := h
  exact ⟨tokens, cut, .negation spelled⟩

theorem primary (h : ReadsAt .primary text expr) : ReadsAt .negation text expr := by
  obtain ⟨tokens, cut, spelled⟩ := h
  exact ⟨tokens, cut, .primary spelled⟩

theorem conjunction (h : ReadsAt .conjunction text expr) : ReadsAt .disjunction text expr := by
  obtain ⟨tokens, cut, spelled⟩ := h
  exact ⟨tokens, cut, .conjunction spelled⟩

theorem enclosed (h : ReadsAt .disjunction text expr) :
    ReadsAt .primary ("(" ++ text ++ ")") expr := by
  obtain ⟨tokens, cut, spelled⟩ := h
  have chars : ("(" ++ text ++ ")").toList = [] ++ '(' :: (text.toList ++ ')' :: []) := by simp
  refine ⟨_, ?_, .enclosed spelled⟩
  rw [chars]
  exact tokens?_append_mark rfl tokens?_nil (tokens?_append_mark rfl cut tokens?_nil)

theorem not (h : ReadsAt .primary text expr) :
    ReadsAt .negation ("NOT " ++ text) (.negation expr) := by
  obtain ⟨tokens, cut, spelled⟩ := h
  have chars : ("NOT " ++ text).toList = "NOT".toList ++ ' ' :: text.toList := by simp
  have word : tokens? "NOT".toList = some [.keyword .not] := by decide
  refine ⟨_, ?_, .not (.primary spelled)⟩
  rw [chars]
  exact tokens?_append_blank word cut

theorem and (front : ReadsAt .conjunction text left) (next : ReadsAt .negation back right) :
    ReadsAt .conjunction (text ++ " AND " ++ back) (.conjunction left right) := by
  obtain ⟨tokens, cut, spelled⟩ := front
  obtain ⟨others, cutNext, spelledNext⟩ := next
  have chars : (text ++ " AND " ++ back).toList =
      text.toList ++ ' ' :: ("AND".toList ++ ' ' :: back.toList) := by simp
  have word : tokens? "AND".toList = some [.keyword .and] := by decide
  refine ⟨_, ?_, .and spelled spelledNext⟩
  rw [chars]
  exact tokens?_append_blank cut (tokens?_append_blank word cutNext)

theorem or (front : ReadsAt .disjunction text left) (next : ReadsAt .conjunction back right) :
    ReadsAt .disjunction (text ++ " OR " ++ back) (.disjunction left right) := by
  obtain ⟨tokens, cut, spelled⟩ := front
  obtain ⟨others, cutNext, spelledNext⟩ := next
  have chars : (text ++ " OR " ++ back).toList =
      text.toList ++ ' ' :: ("OR".toList ++ ' ' :: back.toList) := by simp
  have word : tokens? "OR".toList = some [.keyword .or] := by decide
  refine ⟨_, ?_, .or spelled spelledNext⟩
  rw [chars]
  exact tokens?_append_blank cut (tokens?_append_blank word cutNext)

end ReadsAt

/-! ## The texts of predicates -/

namespace Predicate

theorem text_compare (column : String) (comparison : Comparison) (slot : Nat) :
    (compare column comparison slot).text =
      column ++ " " ++ comparison.symbol ++ " " ++ slotText slot := rfl

theorem text_member (column : String) (slots : List Nat) :
    (member column slots).text =
      column ++ " IN (" ++ ",".intercalate (slots.map slotText) ++ ")" := rfl

theorem text_search (column : String) (slot : Nat) :
    (search column slot).text =
      "to_tsvector('simple', " ++ column ++ ") @@ plainto_tsquery('simple', " ++
        slotText slot ++ ")" := rfl

theorem text_conjunction (part next : Predicate) (parts : List Predicate) :
    (conjunction (part :: next :: parts)).text =
      "(" ++ (part.text ++ chainText " AND " (next :: parts)) ++ ")" := by
  rw [← String.append_assoc]
  rfl

theorem text_disjunction (part next : Predicate) (parts : List Predicate) :
    (disjunction (part :: next :: parts)).text =
      "(" ++ (part.text ++ chainText " OR " (next :: parts)) ++ ")" := by
  rw [← String.append_assoc]
  rfl

theorem text_negation (part : Predicate) :
    (negation part).text = "NOT " ++ ("(" ++ part.text ++ ")") := by
  rw [← String.append_assoc, ← String.append_assoc]
  rfl

theorem chainText_cons (connective : String) (part : Predicate) (parts : List Predicate) :
    chainText connective (part :: parts) =
      connective ++ part.text ++ chainText connective parts := rfl

end Predicate

/-! ## Tests -/

theorem Comparison.tokens?_symbol (comparison : Comparison) :
    tokens? comparison.symbol.toList = some [comparison.token] := by
  cases comparison <;> decide

theorem readsAt_compare {column : String} (h : isPlain column = true) (comparison : Comparison)
    (slot : Nat) :
    ReadsAt .primary (Predicate.compare column comparison slot).text
      (.test (.compare column comparison slot)) := by
  have chars : (Predicate.compare column comparison slot).text.toList =
      column.toList ++ ' ' :: (comparison.symbol.toList ++ ' ' :: (slotText slot).toList) := by
    simp [Predicate.text_compare]
  refine ⟨_, ?_, .test _⟩
  rw [chars]
  exact tokens?_append_blank (tokens?_name h)
    (tokens?_append_blank comparison.tokens?_symbol (tokens?_slotText slot))

theorem tokens?_furtherSlots (slots : List Nat) (first : Nat) :
    tokens? (",".intercalate ((first :: slots).map slotText)).toList =
      some (.slot first :: furtherSlots slots) := by
  induction slots generalizing first with
  | nil => simpa [furtherSlots] using tokens?_slotText first
  | cons next slots ih =>
      have chars : (",".intercalate ((first :: next :: slots).map slotText)).toList =
          (slotText first).toList ++
            ',' :: (",".intercalate ((next :: slots).map slotText)).toList := by
        simp [String.intercalate_cons_cons]
      rw [chars]
      exact tokens?_append_mark rfl (tokens?_slotText first) (ih next)

theorem readsAt_member {column : String} (h : isPlain column = true) (first : Nat)
    (others : List Nat) :
    ReadsAt .primary (Predicate.member column (first :: others)).text
      (.test (.member column first others)) := by
  have chars : (Predicate.member column (first :: others)).text.toList =
      column.toList ++ ' ' :: ("IN".toList ++ ' ' :: ([] ++
        '(' :: ((",".intercalate ((first :: others).map slotText)).toList ++ ')' :: []))) := by
    simp [Predicate.text_member]
  have word : tokens? "IN".toList = some [.keyword .in] := by decide
  refine ⟨_, ?_, .test _⟩
  rw [chars]
  have cut := tokens?_append_blank (tokens?_name h) (tokens?_append_blank word
    (tokens?_append_mark (c := '(') rfl tokens?_nil
      (tokens?_append_mark (c := ')') rfl (tokens?_furtherSlots others first) tokens?_nil)))
  exact cut

theorem readsAt_search {column : String} (h : isPlain column = true) (slot : Nat) :
    ReadsAt .primary (Predicate.search column slot).text (.test (.search column slot)) := by
  have chars : (Predicate.search column slot).text.toList =
      "to_tsvector".toList ++ '(' :: ("'simple'".toList ++ ',' :: ([] ++ ' ' ::
        (column.toList ++ ')' :: ([] ++ ' ' :: ("@@".toList ++ ' ' ::
          ("plainto_tsquery".toList ++ '(' :: ("'simple'".toList ++ ',' :: ([] ++ ' ' ::
            ((slotText slot).toList ++ ')' :: []))))))))) := by
    simp [Predicate.text_search]
  have vector : tokens? "to_tsvector".toList = some [.name "to_tsvector"] := by decide
  have query : tokens? "plainto_tsquery".toList = some [.name "plainto_tsquery"] := by decide
  have simple : tokens? "'simple'".toList = some [.quoted "simple"] := by decide
  have sign : tokens? "@@".toList = some [.sign .matches] := by decide
  refine ⟨_, ?_, .test _⟩
  rw [chars]
  have operand := tokens?_append_blank tokens?_nil
    (tokens?_append_mark (c := ')') rfl (tokens?_slotText slot) tokens?_nil)
  have right := tokens?_append_blank tokens?_nil (tokens?_append_blank sign
    (tokens?_append_mark (c := '(') rfl query (tokens?_append_mark (c := ',') rfl simple operand)))
  have left := tokens?_append_blank tokens?_nil
    (tokens?_append_mark (c := ')') rfl (tokens?_name h) right)
  exact tokens?_append_mark (c := '(') rfl vector
    (tokens?_append_mark (c := ',') rfl simple left)

def Boundary.expr (boundary : Boundary) : Expr :=
  .test (.beyond boundary.column boundary.id boundary.above boundary.valueSlot boundary.idSlot)

theorem readsAt_boundary {boundary : Boundary} (hcolumn : isPlain boundary.column = true)
    (hid : isPlain boundary.id = true) : ReadsAt .primary boundary.text boundary.expr := by
  have chars : boundary.text.toList =
      [] ++ '(' :: (boundary.column.toList ++ ',' :: ([] ++ ' ' :: (boundary.id.toList ++
        ')' :: ([] ++ ' ' :: ((if boundary.above then ">" else "<").toList ++ ' ' :: ([] ++
          '(' :: ((slotText boundary.valueSlot).toList ++ ',' :: ([] ++ ' ' ::
            ((slotText boundary.idSlot).toList ++ ')' :: []))))))))) := by
    simp [Boundary.text]
  have direction : tokens? (if boundary.above then ">" else "<").toList =
      some [.sign (if boundary.above then .greater else .less)] := by
    cases boundary.above <;> decide
  refine ⟨_, ?_, .test _⟩
  rw [chars]
  have idOperand := tokens?_append_blank tokens?_nil
    (tokens?_append_mark (c := ')') rfl (tokens?_slotText boundary.idSlot) tokens?_nil)
  have operands := tokens?_append_mark (c := '(') rfl tokens?_nil
    (tokens?_append_mark (c := ',') rfl (tokens?_slotText boundary.valueSlot) idOperand)
  have right := tokens?_append_blank tokens?_nil (tokens?_append_blank direction operands)
  have idColumn := tokens?_append_blank tokens?_nil
    (tokens?_append_mark (c := ')') rfl (tokens?_name hid) right)
  exact tokens?_append_mark (c := '(') rfl tokens?_nil
    (tokens?_append_mark (c := ',') rfl (tokens?_name hcolumn) idColumn)

/-! ## Predicates -/

namespace Predicate

mutual

def expr : Predicate → Expr
  | .constant value => .constant value
  | .compare column comparison slot => .test (.compare column comparison slot)
  | .member _ [] => .constant false
  | .member column (first :: others) => .test (.member column first others)
  | .search column slot => .test (.search column slot)
  | .conjunction [] => .constant true
  | .conjunction (part :: parts) => chainExpr .conjunction part.expr parts
  | .disjunction [] => .constant false
  | .disjunction (part :: parts) => chainExpr .disjunction part.expr parts
  | .negation part => .negation part.expr

/-- Chains associate to the left. -/
def chainExpr (join : Expr → Expr → Expr) (front : Expr) : List Predicate → Expr
  | [] => front
  | part :: parts => chainExpr join (join front part.expr) parts

end

/-- Every column can stand in a text as it is, and no membership test is empty. -/
inductive Plain : Predicate → Prop where
  | constant (value : Bool) : Plain (.constant value)
  | compare {column : String} (h : isPlain column = true) (comparison : Comparison)
      (slot : Nat) : Plain (.compare column comparison slot)
  | member {column : String} (h : isPlain column = true) (first : Nat) (others : List Nat) :
      Plain (.member column (first :: others))
  | search {column : String} (h : isPlain column = true) (slot : Nat) :
      Plain (.search column slot)
  | conjunction {parts : List Predicate} (h : ∀ part ∈ parts, Plain part) :
      Plain (.conjunction parts)
  | disjunction {parts : List Predicate} (h : ∀ part ∈ parts, Plain part) :
      Plain (.disjunction parts)
  | negation {part : Predicate} (h : Plain part) : Plain (.negation part)

theorem readsAt_constant (value : Bool) :
    ReadsAt .primary (constantText value) (.constant value) := by
  refine ⟨_, ?_, .constant value⟩
  cases value <;> decide

theorem readsAt_and_chain {parts : List Predicate} {text : String} {front : Expr}
    (hfront : ReadsAt .conjunction text front)
    (hparts : ∀ part ∈ parts, ReadsAt .negation part.text part.expr) :
    ReadsAt .conjunction (text ++ chainText " AND " parts)
      (chainExpr .conjunction front parts) := by
  induction parts generalizing text front with
  | nil =>
      have whole : text ++ chainText " AND " [] = text := String.append_empty
      rw [whole]
      exact hfront
  | cons part parts ih =>
      rw [chainText_cons, ← String.append_assoc, ← String.append_assoc]
      exact ih (hfront.and (hparts part (by simp))) fun other h => hparts other (by simp [h])

theorem readsAt_or_chain {parts : List Predicate} {text : String} {front : Expr}
    (hfront : ReadsAt .disjunction text front)
    (hparts : ∀ part ∈ parts, ReadsAt .negation part.text part.expr) :
    ReadsAt .disjunction (text ++ chainText " OR " parts)
      (chainExpr .disjunction front parts) := by
  induction parts generalizing text front with
  | nil =>
      have whole : text ++ chainText " OR " [] = text := String.append_empty
      rw [whole]
      exact hfront
  | cons part parts ih =>
      rw [chainText_cons, ← String.append_assoc, ← String.append_assoc]
      exact ih (hfront.or (hparts part (by simp)).negation) fun other h =>
        hparts other (by simp [h])

/-- A text binds at least as tight as a negation, whatever stands around it. -/
theorem readsAt_text {predicate : Predicate} (h : predicate.Plain) :
    ReadsAt .negation predicate.text predicate.expr := by
  induction h with
  | constant value => exact (readsAt_constant value).primary
  | compare h comparison slot => exact (readsAt_compare h comparison slot).primary
  | member h first others => exact (readsAt_member h first others).primary
  | search h slot => exact (readsAt_search h slot).primary
  | @conjunction parts _ ih =>
      match parts with
      | [] => exact (readsAt_constant true).primary
      | [part] => exact ih part (by simp)
      | part :: next :: parts =>
          have chain := readsAt_and_chain (ih part (by simp)).negation fun other h =>
            ih other (List.mem_cons_of_mem part h)
          rw [text_conjunction]
          exact chain.conjunction.enclosed.primary
  | @disjunction parts _ ih =>
      match parts with
      | [] => exact (readsAt_constant false).primary
      | [part] => exact ih part (by simp)
      | part :: next :: parts =>
          have chain := readsAt_or_chain (ih part (by simp)).negation.conjunction fun other h =>
            ih other (List.mem_cons_of_mem part h)
          rw [text_disjunction]
          exact chain.enclosed.primary
  | negation _ ih =>
      rw [text_negation]
      exact ih.negation.conjunction.enclosed.not

theorem reads_text {predicate : Predicate} (h : predicate.Plain) :
    Reads predicate.text predicate.expr := (readsAt_text h).negation.conjunction

/-! ## Truth of a chain -/

theorem outcome_and_chain (test : Test Nat → Truth) (front : Expr) (parts : List Predicate) :
    (chainExpr .conjunction front parts).outcome test =
      (front.outcome test).and (.all (parts.map fun part => part.expr.outcome test)) := by
  induction parts generalizing front with
  | nil => simp [chainExpr]
  | cons part parts ih =>
      rw [chainExpr, ih, Expr.outcome, Truth.and_assoc, List.map_cons, Truth.all_cons]

theorem outcome_or_chain (test : Test Nat → Truth) (front : Expr) (parts : List Predicate) :
    (chainExpr .disjunction front parts).outcome test =
      (front.outcome test).or (.any (parts.map fun part => part.expr.outcome test)) := by
  induction parts generalizing front with
  | nil => simp [chainExpr]
  | cons part parts ih =>
      rw [chainExpr, ih, Expr.outcome, Truth.or_assoc, List.map_cons, Truth.any_cons]

@[simp] theorem outcome_conjunction (test : Test Nat → Truth) (parts : List Predicate) :
    (conjunction parts).expr.outcome test =
      .all (parts.map fun part => part.expr.outcome test) := by
  cases parts with
  | nil => rfl
  | cons part parts => rw [expr, outcome_and_chain, List.map_cons, Truth.all_cons]

@[simp] theorem outcome_disjunction (test : Test Nat → Truth) (parts : List Predicate) :
    (disjunction parts).expr.outcome test =
      .any (parts.map fun part => part.expr.outcome test) := by
  cases parts with
  | nil => rfl
  | cons part parts => rw [expr, outcome_or_chain, List.map_cons, Truth.any_cons]

end Predicate

end Stockroom.Sql
