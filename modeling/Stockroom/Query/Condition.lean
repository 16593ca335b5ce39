import Stockroom.Query.Value

/-!
# Conditions

A condition is a tree of tests on fields, joined by conjunction, disjunction and
negation.  It knows nothing of columns or of SQL.
-/

namespace Stockroom

inductive Condition where
  | eq (field : String) (value : Value)
  | oneOf (field : String) (values : List Value)
  | like (field : String) (pattern : String)
  | between (field : String) (low high : Value)
  | fullText (field : String) (query : String)
  | all (parts : List Condition)
  | any (parts : List Condition)
  | not (part : Condition)
  deriving Repr

namespace Condition

/-! ## Building -/

/-- Conjunction; a conjunction on the left takes the other condition in. -/
def and : Condition → Condition → Condition
  | .all parts, other => .all (parts ++ [other])
  | condition, other => .all [condition, other]

/-- Disjunction; a disjunction on the left takes the other condition in. -/
def or : Condition → Condition → Condition
  | .any parts, other => .any (parts ++ [other])
  | condition, other => .any [condition, other]

/-- Negation; the negation of a negation is the condition inside. -/
def negate : Condition → Condition
  | .not part => part
  | condition => .not condition

/-! ## Looking at a node -/

inductive Operator where
  | eq
  | oneOf
  | like
  | between
  | fullText
  | all
  | any
  | not
  deriving DecidableEq, Repr

inductive Operand where
  | scalar (value : Value)
  | list (values : List Value)
  | pair (low high : Value)
  | text (text : String)
  deriving DecidableEq, Repr

def Operator.word : Operator → String
  | .eq => "eq"
  | .oneOf => "in"
  | .like => "like"
  | .between => "between"
  | .fullText => "full_text"
  | .all => "must"
  | .any => "should"
  | .not => "must_not"

def Operator.isComposite : Operator → Bool
  | .all | .any | .not => true
  | _ => false

def operator : Condition → Operator
  | .eq .. => .eq
  | .oneOf .. => .oneOf
  | .like .. => .like
  | .between .. => .between
  | .fullText .. => .fullText
  | .all _ => .all
  | .any _ => .any
  | .not _ => .not

/-- The field that a test is about. -/
def field? : Condition → Option String
  | .eq field _ | .oneOf field _ | .like field _ | .between field _ _
  | .fullText field _ => some field
  | _ => none

/-- What a test compares its field with. -/
def operand? : Condition → Option Operand
  | .eq _ value => some (.scalar value)
  | .oneOf _ values => some (.list values)
  | .like _ pattern => some (.text pattern)
  | .between _ low high => some (.pair low high)
  | .fullText _ query => some (.text query)
  | _ => none

/-- The conditions directly under a node. -/
def parts : Condition → List Condition
  | .all parts | .any parts => parts
  | .not part => [part]
  | _ => []

/-! ## Equality, with doubles compared as numbers -/

def sameValues : List Value → List Value → Bool
  | [], [] => true
  | a :: as, b :: bs => a.same b && sameValues as bs
  | _, _ => false

mutual

def same : Condition → Condition → Bool
  | .eq f a, .eq g b => f == g && a.same b
  | .oneOf f as, .oneOf g bs => f == g && sameValues as bs
  | .like f p, .like g q => f == g && p == q
  | .between f a b, .between g c d => f == g && a.same c && b.same d
  | .fullText f p, .fullText g q => f == g && p == q
  | .all as, .all bs => sameAll as bs
  | .any as, .any bs => sameAll as bs
  | .not a, .not b => same a b
  | _, _ => false

def sameAll : List Condition → List Condition → Bool
  | [], [] => true
  | a :: as, b :: bs => same a b && sameAll as bs
  | _, _ => false

end

end Condition

end Stockroom
