import Mathlib.Logic.Relation
import Stockroom.Proofs.Sql.Expression

/-!
# The grammar of conditions

Tests bind tighter than `NOT`, `NOT` binds tighter than `AND`, and `AND` binds
tighter than `OR`; chains of either associate to the left.  The grammar spells
an expression at each of these levels, and it is unambiguous: a reader that
moves through the tokens once, without a choice, finds every expression that
they spell.
-/

namespace Stockroom.Sql

def Comparison.token : Comparison → Token
  | .equal => .sign .equal
  | .atLeast => .sign .atLeast
  | .atMost => .sign .atMost
  | .like => .keyword .like

def furtherSlots (slots : List Nat) : List Token :=
  slots.flatMap fun slot => [.sign .comma, .slot slot]

def Test.tokens : Test Nat → List Token
  | .compare column comparison slot => [.name column, comparison.token, .slot slot]
  | .member column first others =>
      [.name column, .keyword .in, .sign .opening, .slot first] ++ furtherSlots others ++
        [.sign .closing]
  | .search column slot =>
      [.name "to_tsvector", .sign .opening, .quoted "simple", .sign .comma, .name column,
        .sign .closing, .sign .matches, .name "plainto_tsquery", .sign .opening,
        .quoted "simple", .sign .comma, .slot slot, .sign .closing]
  | .beyond column id above value idValue =>
      [.sign .opening, .name column, .sign .comma, .name id, .sign .closing,
        .sign (if above then .greater else .less), .sign .opening, .slot value, .sign .comma,
        .slot idValue, .sign .closing]

def constantToken (value : Bool) : Token := .keyword (if value then .true else .false)

inductive Level where
  | primary
  | negation
  | conjunction
  | disjunction
  deriving DecidableEq, Repr

inductive Spells : Level → List Token → Expr → Prop where
  | constant (value : Bool) : Spells .primary [constantToken value] (.constant value)
  | test (test : Test Nat) : Spells .primary test.tokens (.test test)
  | enclosed {tokens : List Token} {expr : Expr} (part : Spells .disjunction tokens expr) :
      Spells .primary (.sign .opening :: (tokens ++ [.sign .closing])) expr
  | not {tokens : List Token} {expr : Expr} (part : Spells .negation tokens expr) :
      Spells .negation (.keyword .not :: tokens) (.negation expr)
  | and {lefts rights : List Token} {left right : Expr}
      (front : Spells .conjunction lefts left) (back : Spells .negation rights right) :
      Spells .conjunction (lefts ++ .keyword .and :: rights) (.conjunction left right)
  | or {lefts rights : List Token} {left right : Expr}
      (front : Spells .disjunction lefts left) (back : Spells .conjunction rights right) :
      Spells .disjunction (lefts ++ .keyword .or :: rights) (.disjunction left right)
  | primary {tokens : List Token} {expr : Expr} (part : Spells .primary tokens expr) :
      Spells .negation tokens expr
  | negation {tokens : List Token} {expr : Expr} (part : Spells .negation tokens expr) :
      Spells .conjunction tokens expr
  | conjunction {tokens : List Token} {expr : Expr} (part : Spells .conjunction tokens expr) :
      Spells .disjunction tokens expr

/-! ## Reading a test -/

def Comparison.ofToken? : Token → Option Comparison
  | .sign .equal => some .equal
  | .sign .atLeast => some .atLeast
  | .sign .atMost => some .atMost
  | .keyword .like => some .like
  | _ => none

def furtherSlots? : List Token → Option (List Nat × List Token)
  | .sign .closing :: rest => some ([], rest)
  | .sign .comma :: .slot slot :: rest =>
      (furtherSlots? rest).map fun (slots, rest) => (slot :: slots, rest)
  | _ => none

def search? : List Token → Option (Test Nat × List Token)
  | .quoted _ :: .sign .comma :: .name column :: .sign .closing :: .sign .matches ::
      .name _ :: .sign .opening :: .quoted _ :: .sign .comma :: .slot slot ::
      .sign .closing :: rest => some (.search column slot, rest)
  | _ => none

def beyond? (column : String) : List Token → Option (Test Nat × List Token)
  | .name id :: .sign .closing :: .sign direction :: .sign .opening :: .slot value ::
      .sign .comma :: .slot idValue :: .sign .closing :: rest =>
      some (.beyond column id (direction == .greater) value idValue, rest)
  | _ => none

/-- A test at the front of the tokens, and the tokens behind it. -/
def Test.read? : List Token → Option (Test Nat × List Token)
  | .name column :: .keyword .in :: .sign .opening :: .slot first :: rest =>
      (furtherSlots? rest).map fun (others, rest) => (.member column first others, rest)
  | .name _ :: .sign .opening :: rest => search? rest
  | .name column :: token :: .slot slot :: rest =>
      (Comparison.ofToken? token).map fun comparison => (.compare column comparison slot, rest)
  | .sign .opening :: .name column :: .sign .comma :: rest => beyond? column rest
  | _ => none

theorem furtherSlots?_furtherSlots (slots : List Nat) (rest : List Token) :
    furtherSlots? (furtherSlots slots ++ .sign .closing :: rest) = some (slots, rest) := by
  induction slots with
  | nil => rfl
  | cons slot slots ih =>
      have cut : furtherSlots (slot :: slots) ++ .sign .closing :: rest =
          .sign .comma :: .slot slot :: (furtherSlots slots ++ .sign .closing :: rest) := rfl
      rw [cut, furtherSlots?, ih]
      rfl

theorem Test.read?_tokens (test : Test Nat) (rest : List Token) :
    read? (test.tokens ++ rest) = some (test, rest) := by
  cases test with
  | compare column comparison slot => cases comparison <;> rfl
  | member column first others =>
      simp [tokens, read?, furtherSlots?_furtherSlots]
  | search column slot => rfl
  | beyond column id above value idValue => cases above <;> rfl

/-! ## The reader -/

/-- What the reader has read of one pair of parentheses, in front of the next operand. -/
structure Frame where
  disjuncts : Option Expr
  conjuncts : Option Expr
  negations : Nat

namespace Frame

def empty : Frame := ⟨none, none, 0⟩

def negated (frame : Frame) (operand : Expr) : Expr := Expr.negation^[frame.negations] operand

def conjoined (frame : Frame) (operand : Expr) : Expr :=
  match frame.conjuncts with
  | none => frame.negated operand
  | some left => .conjunction left (frame.negated operand)

def closed (frame : Frame) (operand : Expr) : Expr :=
  match frame.disjuncts with
  | none => frame.conjoined operand
  | some left => .disjunction left (frame.conjoined operand)

end Frame

/-- The reader is in front of an operand or behind it; open parentheses keep their frames. -/
inductive Reader where
  | before (frame : Frame) (outer : List Frame)
  | behind (frame : Frame) (operand : Expr) (outer : List Frame)

namespace Reader

def step? : Reader × List Token → Option (Reader × List Token)
  | (.before frame outer, tokens) =>
      match Test.read? tokens with
      | some (test, rest) => some (.behind frame (.test test) outer, rest)
      | none =>
          match tokens with
          | .keyword .true :: rest => some (.behind frame (.constant true) outer, rest)
          | .keyword .false :: rest => some (.behind frame (.constant false) outer, rest)
          | .keyword .not :: rest =>
              some (.before { frame with negations := frame.negations + 1 } outer, rest)
          | .sign .opening :: rest => some (.before .empty (frame :: outer), rest)
          | _ => none
  | (.behind frame operand outer, .keyword .and :: rest) =>
      some (.before ⟨frame.disjuncts, some (frame.conjoined operand), 0⟩ outer, rest)
  | (.behind frame operand outer, .keyword .or :: rest) =>
      some (.before ⟨some (frame.closed operand), none, 0⟩ outer, rest)
  | (.behind frame operand (enclosing :: outer), .sign .closing :: rest) =>
      some (.behind enclosing (frame.closed operand) outer, rest)
  | _ => none

def Reaches : Reader × List Token → Reader × List Token → Prop :=
  Relation.ReflTransGen fun a b => step? a = some b

end Reader

/-- No expression starts like a pair of columns, so an open parenthesis tells which it is. -/
theorem Spells.not_pair {level : Level} {tokens : List Token} {expr : Expr}
    (h : Spells level tokens expr) (column : String) (rest tail : List Token) :
    tokens ++ rest ≠ .name column :: .sign .comma :: tail := by
  induction h generalizing rest with
  | constant value => simp [constantToken]
  | test test => cases test with
    | compare _ comparison _ => cases comparison <;> simp [Test.tokens, Comparison.token]
    | member | search | beyond => simp [Test.tokens]
  | enclosed => simp
  | not => simp
  | and front back ihFront => simpa using ihFront _
  | or front back ihFront => simpa using ihFront _
  | primary part ih => exact ih rest
  | negation part ih => exact ih rest
  | conjunction part ih => exact ih rest

theorem Spells.read?_opening {level : Level} {tokens : List Token} {expr : Expr}
    (h : Spells level tokens expr) (rest : List Token) :
    Test.read? (.sign .opening :: (tokens ++ rest)) = none := by
  unfold Test.read?
  split
  next heq => cases heq
  next heq => cases heq
  next heq => cases heq
  next heq => exact absurd (List.cons.inj heq).2 (h.not_pair _ _ _)
  next => rfl

/-- What the reader makes of tokens that spell the expression at the level. -/
def Level.Leads (tokens : List Token) (expr : Expr) : Level → Prop
  | .primary | .negation => ∀ frame outer rest, ∃ frame' operand,
      Reader.Reaches (.before frame outer, tokens ++ rest) (.behind frame' operand outer, rest) ∧
        frame'.disjuncts = frame.disjuncts ∧ frame'.conjuncts = frame.conjuncts ∧
        frame'.negated operand = frame.negated expr
  | .conjunction => ∀ disjuncts outer rest, ∃ frame' operand,
      Reader.Reaches (.before ⟨disjuncts, none, 0⟩ outer, tokens ++ rest)
          (.behind frame' operand outer, rest) ∧
        frame'.disjuncts = disjuncts ∧ frame'.conjoined operand = expr
  | .disjunction => ∀ outer rest, ∃ frame' operand,
      Reader.Reaches (.before .empty outer, tokens ++ rest) (.behind frame' operand outer, rest) ∧
        frame'.closed operand = expr

theorem Spells.leads {level : Level} {tokens : List Token} {expr : Expr}
    (h : Spells level tokens expr) : level.Leads tokens expr := by
  induction h with
  | constant value =>
      intro frame outer rest
      refine ⟨frame, .constant value, ?_, rfl, rfl, rfl⟩
      cases value <;> exact .single rfl
  | test test =>
      intro frame outer rest
      refine ⟨frame, .test test, .single ?_, rfl, rfl, rfl⟩
      simp [Reader.step?, test.read?_tokens]
  | @enclosed tokens expr part ih =>
      intro frame outer rest
      obtain ⟨inner, operand, inside, closed⟩ := ih (frame :: outer) (.sign .closing :: rest)
      refine ⟨frame, expr, ?_, rfl, rfl, rfl⟩
      have opening : Reader.step? (.before frame outer,
          .sign .opening :: (tokens ++ .sign .closing :: rest)) =
          some (.before .empty (frame :: outer), tokens ++ .sign .closing :: rest) := by
        simp [Reader.step?, part.read?_opening]
      have closing : Reader.step? (.behind inner operand (frame :: outer),
          .sign .closing :: rest) = some (.behind frame expr outer, rest) := by
        simp [Reader.step?, closed]
      rw [List.cons_append, List.append_assoc]
      exact .head opening (inside.tail closing)
  | @not tokens expr part ih =>
      intro frame outer rest
      obtain ⟨last, operand, inside, hdisjuncts, hconjuncts, hnegated⟩ :=
        ih { frame with negations := frame.negations + 1 } outer rest
      refine ⟨last, operand, .head rfl inside, hdisjuncts, hconjuncts, ?_⟩
      rw [hnegated, Frame.negated, Function.iterate_succ_apply]
      rfl
  | @and lefts rights left right front back ihFront ihBack =>
      intro disjuncts outer rest
      obtain ⟨middle, first, inFront, hfront, hleft⟩ :=
        ihFront disjuncts outer (.keyword .and :: (rights ++ rest))
      obtain ⟨last, operand, inBack, hback, hconjuncts, hright⟩ :=
        ihBack ⟨middle.disjuncts, some left, 0⟩ outer rest
      refine ⟨last, operand, ?_, hback.trans hfront, ?_⟩
      · have between : Reader.step? (.behind middle first outer,
            .keyword .and :: (rights ++ rest)) =
            some (.before ⟨middle.disjuncts, some left, 0⟩ outer, rights ++ rest) := by
          rw [← hleft]
          rfl
        rw [List.append_assoc]
        exact inFront.trans (.head between inBack)
      · simp only [Frame.conjoined, hconjuncts, hright]
        rfl
  | @or lefts rights left right front back ihFront ihBack =>
      intro outer rest
      obtain ⟨middle, first, inFront, hleft⟩ :=
        ihFront outer (.keyword .or :: (rights ++ rest))
      obtain ⟨last, operand, inBack, hdisjuncts, hright⟩ := ihBack (some left) outer rest
      refine ⟨last, operand, ?_, ?_⟩
      · have between : Reader.step? (.behind middle first outer,
            .keyword .or :: (rights ++ rest)) =
            some (.before ⟨some left, none, 0⟩ outer, rights ++ rest) := by
          rw [← hleft]
          rfl
        rw [List.append_assoc]
        exact inFront.trans (.head between inBack)
      · simp only [Frame.closed, hdisjuncts, hright]
  | primary part ih => exact ih
  | negation part ih =>
      intro disjuncts outer rest
      obtain ⟨last, operand, inside, hdisjuncts, hconjuncts, hnegated⟩ :=
        ih ⟨disjuncts, none, 0⟩ outer rest
      refine ⟨last, operand, inside, hdisjuncts, ?_⟩
      simp only [Frame.conjoined, hconjuncts, hnegated]
      rfl
  | conjunction part ih =>
      intro outer rest
      obtain ⟨last, operand, inside, hdisjuncts, hconjoined⟩ := ih none outer rest
      refine ⟨last, operand, inside, ?_⟩
      simp only [Frame.closed, hdisjuncts, hconjoined]

theorem Spells.unique {tokens : List Token} {a b : Expr} (ha : Spells .disjunction tokens a)
    (hb : Spells .disjunction tokens b) : a = b := by
  obtain ⟨lastA, operandA, reachA, closedA⟩ := ha.leads [] []
  obtain ⟨lastB, operandB, reachB, closedB⟩ := hb.leads [] []
  have deterministic : Relator.RightUnique fun a b => Reader.step? a = some b := by
    intro a b c hab hac
    exact Option.some.inj (hab.symm.trans hac)
  have stuck : ∀ {frame operand config},
      Reader.Reaches (.behind frame operand [], []) config →
        config = (.behind frame operand [], []) := by
    intro frame operand config reach
    rcases reach.cases_head with rfl | ⟨next, step, -⟩
    · rfl
    · cases step
  have same : (Reader.behind lastA operandA [], ([] : List Token)) =
      (.behind lastB operandB [], []) := by
    rcases Relation.ReflTransGen.total_of_right_unique deterministic reachA reachB with ab | ba
    · exact (stuck ab).symm
    · exact stuck ba
  injection same with same
  injection same with hframe hoperand
  rw [← closedA, ← closedB, hframe, hoperand]

end Stockroom.Sql
