import Stockroom.Proofs.Sql.Tokens
import Stockroom.Query.Value

/-!
# Conditions of SQL

A condition of a statement is made of tests on columns, joined by the three
connectives.  It has one of three truth values, as tests with a null have none.
A test is about slots in a text, and about values once the parameters are bound.
-/

namespace Stockroom

inductive Truth where
  | holds
  | fails
  | unknown
  deriving DecidableEq, Repr

namespace Truth

def ofBool (value : Bool) : Truth := if value then holds else fails

def not : Truth → Truth
  | holds => fails
  | fails => holds
  | unknown => unknown

def and : Truth → Truth → Truth
  | fails, _ | _, fails => fails
  | holds, holds => holds
  | _, _ => unknown

def or : Truth → Truth → Truth
  | holds, _ | _, holds => holds
  | fails, fails => fails
  | _, _ => unknown

def all (truths : List Truth) : Truth := truths.foldr and holds

def any (truths : List Truth) : Truth := truths.foldr or fails

theorem and_assoc (a b c : Truth) : (a.and b).and c = a.and (b.and c) := by
  cases a <;> cases b <;> cases c <;> rfl

theorem or_assoc (a b c : Truth) : (a.or b).or c = a.or (b.or c) := by
  cases a <;> cases b <;> cases c <;> rfl

@[simp] theorem and_holds (a : Truth) : a.and holds = a := by
  cases a <;> rfl

@[simp] theorem or_fails (a : Truth) : a.or fails = a := by
  cases a <;> rfl

@[simp] theorem holds_and (a : Truth) : holds.and a = a := by
  cases a <;> rfl

@[simp] theorem and_eq_holds {a b : Truth} : a.and b = holds ↔ a = holds ∧ b = holds := by
  cases a <;> cases b <;> decide

@[simp] theorem ofBool_eq_holds {value : Bool} : ofBool value = holds ↔ value = true := by
  cases value <;> decide

theorem ofBool_or (a b : Bool) : (ofBool a).or (ofBool b) = ofBool (a || b) := by
  cases a <;> cases b <;> rfl

@[simp] theorem all_nil : all [] = holds := rfl

@[simp] theorem all_cons (a : Truth) (truths : List Truth) :
    all (a :: truths) = a.and (all truths) := rfl

@[simp] theorem any_nil : any [] = fails := rfl

@[simp] theorem any_cons (a : Truth) (truths : List Truth) :
    any (a :: truths) = a.or (any truths) := rfl

theorem all_append (truths others : List Truth) :
    all (truths ++ others) = (all truths).and (all others) := by
  induction truths with
  | nil => rw [List.nil_append, all_nil, holds_and]
  | cons a truths ih => rw [List.cons_append, all_cons, all_cons, ih, and_assoc]

theorem any_map_ofBool {α : Type} (holds : α → Bool) (items : List α) :
    any (items.map fun item => ofBool (holds item)) = ofBool (items.any holds) := by
  induction items with
  | nil => rfl
  | cons item items ih => rw [List.map_cons, any_cons, ih, ofBool_or, List.any_cons]

end Truth

namespace Sql

/-! ## Tests and expressions -/

/-- A test on columns with operands of some kind: slots, or the values bound to them. -/
inductive Test (α : Type) where
  | compare (column : String) (comparison : Comparison) (operand : α)
  | member (column : String) (first : α) (others : List α)
  | search (column : String) (operand : α)
  | beyond (column id : String) (above : Bool) (value idValue : α)
  deriving Repr

def Test.map {α β : Type} (f : α → β) : Test α → Test β
  | .compare column comparison operand => .compare column comparison (f operand)
  | .member column first others => .member column (f first) (others.map f)
  | .search column operand => .search column (f operand)
  | .beyond column id above value idValue => .beyond column id above (f value) (f idValue)

inductive Expr where
  | constant (value : Bool)
  | test (test : Test Nat)
  | conjunction (left right : Expr)
  | disjunction (left right : Expr)
  | negation (part : Expr)
  deriving Repr

namespace Expr

def outcome (test : Test Nat → Truth) : Expr → Truth
  | .constant value => .ofBool value
  | .test t => test t
  | .conjunction left right => (left.outcome test).and (right.outcome test)
  | .disjunction left right => (left.outcome test).or (right.outcome test)
  | .negation part => (part.outcome test).not

/-- The parameter in a slot; slots are numbered from one. -/
def bound (params : List Value) : Nat → Value
  | 0 => .null
  | slot + 1 => params.getD slot .null

/-- The truth value under bound parameters, where `judge` decides the tests on values. -/
def truth (judge : Test Value → Truth) (params : List Value) (expr : Expr) : Truth :=
  expr.outcome fun test => judge (test.map (bound params))

end Expr

end Sql

end Stockroom
