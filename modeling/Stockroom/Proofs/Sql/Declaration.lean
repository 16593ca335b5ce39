/-!
# Table declarations

A script that creates a table says what may stand in its columns: the type of
each, whether its cells may be empty, and which texts a check lists.  A rule has
a text, in which the script states it, and it admits some cells and no others.
-/

namespace Stockroom.Sql

/-! ## Rules -/

inductive ColumnType where
  | uuid
  | timestamp
  /-- A text with a greatest number of characters. -/
  | varchar (limit : Nat)
  deriving DecidableEq, Repr

inductive Presence where
  /-- The column by which rows are told apart; its cells are never empty. -/
  | key
  | required
  | optional
  deriving DecidableEq, Repr

structure ColumnRule where
  name : String
  type : ColumnType
  presence : Presence
  /-- What a cell holds if nothing is said about it, in the words of SQL. -/
  initial : Option String
  /-- The texts that the check of the column lists. -/
  choices : Option (List String)
  deriving DecidableEq, Repr

structure TableRule where
  name : String
  columns : List ColumnRule
  deriving DecidableEq, Repr

/-! ## Texts -/

def ColumnType.text : ColumnType → String
  | .uuid => "UUID"
  | .timestamp => "TIMESTAMPTZ"
  | .varchar limit => "VARCHAR(" ++ toString limit ++ ")"

/-- Blanks behind a text that is shorter than the width. -/
def padded (width : Nat) (text : String) : String :=
  text ++ String.ofList (List.replicate (width - text.length) ' ')

namespace ColumnRule

/-- The type and whether a cell may be empty; `NOT NULL` stands below `NOT NULL`. -/
def typeText (rule : ColumnRule) : String :=
  match rule.presence with
  | .key => rule.type.text ++ " PRIMARY KEY"
  | .required => padded 13 rule.type.text ++ "NOT NULL"
  | .optional => rule.type.text

def initialText (rule : ColumnRule) : String :=
  match rule.initial with
  | none => ""
  | some initial => " DEFAULT " ++ initial

def checkText (rule : ColumnRule) : String :=
  match rule.choices with
  | none => ""
  | some choices =>
      "\n                CHECK (" ++ rule.name ++ " IN (" ++
        ", ".intercalate (choices.map fun choice => "'" ++ choice ++ "'") ++ "))"

def text (rule : ColumnRule) : String :=
  "    " ++ padded 12 rule.name ++ rule.typeText ++ rule.initialText ++ rule.checkText

end ColumnRule

def TableRule.text (table : TableRule) : String :=
  "CREATE TABLE IF NOT EXISTS " ++ table.name ++ " (\n" ++
    ",\n".intercalate (table.columns.map ColumnRule.text) ++ "\n);\n"

/-! ## Cells -/

namespace ColumnType

def isText : ColumnType → Bool
  | .varchar _ => true
  | _ => false

def Holds : ColumnType → String → Prop
  | .varchar limit, text => text.length ≤ limit
  | _, _ => False

instance : (type : ColumnType) → (text : String) → Decidable (type.Holds text)
  | .varchar limit, text => inferInstanceAs (Decidable (text.length ≤ limit))
  | .uuid, _ => inferInstanceAs (Decidable False)
  | .timestamp, _ => inferInstanceAs (Decidable False)

end ColumnType

namespace ColumnRule

/-- What may stand in a column of texts; none is the empty cell, which passes every check. -/
inductive Admits (rule : ColumnRule) : Option String → Prop
  | empty (optional : rule.presence = .optional) : Admits rule none
  | text {text : String} (holds : rule.type.Holds text)
      (listed : ∀ choices ∈ rule.choices, text ∈ choices) : Admits rule (some text)

variable {rule : ColumnRule} {text : String}

theorem admits_none_iff : rule.Admits none ↔ rule.presence = .optional :=
  ⟨fun | .empty optional => optional, .empty⟩

theorem admits_some_iff :
    rule.Admits (some text) ↔
      rule.type.Holds text ∧ ∀ choices ∈ rule.choices, text ∈ choices :=
  ⟨fun | .text holds listed => ⟨holds, listed⟩, fun h => .text h.1 h.2⟩

instance (rule : ColumnRule) : (cell : Option String) → Decidable (rule.Admits cell)
  | none => decidable_of_iff _ admits_none_iff.symm
  | some _ => decidable_of_iff _ admits_some_iff.symm

end ColumnRule

/-- The text passes the checks of the column of that name. -/
def TableRule.Checks (table : TableRule) (column text : String) : Prop :=
  ∀ rule ∈ table.columns, rule.name = column → ∀ choices ∈ rule.choices, text ∈ choices

end Stockroom.Sql
