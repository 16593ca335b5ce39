/-!
# Taking in arguments

A command takes options with values and at most one argument in a fixed place.
An option is written `--name value` or `--name=value`; behind a lone `--`
nothing is an option any more.  A value is not looked at when it is read but when
the next argument begins, so an unknown argument is noticed before a bad value
in front of it.
-/

namespace Stockroom.CommandLine

/-- Why a command line is not taken; asking for help or the version counts as such. -/
inductive UsageFault where
  | help
  | version
  | noCommand
  | unknownCommand
  | unknownArgument
  | missingValue
  /-- A flag that takes no value was given one. -/
  | needlessValue
  | badValue
  | repeatedOption
  | missingArgument
  deriving DecidableEq, Repr

/-- An option of a command that collects its arguments in `α`. -/
structure OptionRule (α : Type) where
  name : String
  repeatable : Bool
  /-- The argument behind the option is its value whatever it looks like. -/
  takesHyphens : Bool
  /-- Puts a value where it belongs; a value that cannot be read is refused. -/
  store : String → α → Option α

structure Rules (α : Type) where
  options : List (OptionRule α)
  /-- Stores the argument that stands in a fixed place, if the command takes one. -/
  placed : Option (String → α → Option α)

/-- An argument that has begun and is not stored yet. -/
inductive Pending (α : Type) where
  | option (rule : OptionRule α) (value : Option String)
  | placed (store : String → α → Option α) (value : String)

structure Intake (α : Type) where
  collected : α
  /-- The options stored so far. -/
  given : List String
  pending : Option (Pending α)
  placedTaken : Bool
  /-- A lone `--` has been read. -/
  noOptions : Bool

namespace Intake

variable {α : Type}

def start (collected : α) : Intake α := ⟨collected, [], none, false, false⟩

/-- Stores the pending argument. -/
def settle (intake : Intake α) : Except UsageFault (Intake α) :=
  match intake.pending with
  | none => .ok intake
  | some (.option _ none) => .error .missingValue
  | some (.option rule (some value)) =>
      if !rule.repeatable && intake.given.contains rule.name then .error .repeatedOption
      else
        match rule.store value intake.collected with
        | none => .error .badValue
        | some collected =>
            .ok { intake with
              collected, pending := none, given := rule.name :: intake.given }
  | some (.placed store value) =>
      match store value intake.collected with
      | none => .error .badValue
      | some collected => .ok { intake with collected, pending := none }

/-- The option that still waits for its value. -/
def waiting? (intake : Intake α) : Option (OptionRule α) :=
  match intake.pending with
  | some (.option rule none) => some rule
  | _ => none

/-- Begins an argument once the one before it is stored. -/
def begin (intake : Intake α) (pending : Pending α) : Except UsageFault (Intake α) := do
  return { ← intake.settle with pending := some pending }

/-- A request for help stands behind a fault of the argument before it. -/
def askHelp (intake : Intake α) : Except UsageFault (Intake α) := do
  discard intake.settle
  throw .help

def takePlaced (rules : Rules α) (intake : Intake α) (word : String) :
    Except UsageFault (Intake α) :=
  match rules.placed with
  | some store =>
      if intake.placedTaken then .error .unknownArgument
      else do return { ← intake.begin (.placed store word) with placedTaken := true }
  | none => .error .unknownArgument

/-- Splits the text behind the hyphens of a long option at the first equals sign. -/
def splitLong (text : List Char) : String × Option String :=
  let name := String.ofList (text.takeWhile (· ≠ '='))
  match text.dropWhile (· ≠ '=') with
  | [] => (name, none)
  | _ :: value => (name, some (String.ofList value))

def takeLong (rules : Rules α) (intake : Intake α) (text : List Char) :
    Except UsageFault (Intake α) :=
  let (name, attached) := splitLong text
  if name = "help" then
    if attached.isSome then .error .needlessValue else intake.askHelp
  else
    match rules.options.find? fun rule => rule.name == name with
    | none => .error .unknownArgument
    | some rule => do
        let intake ← intake.begin (.option rule attached)
        if attached.isSome then intake.settle else return intake

def takeShort (intake : Intake α) : List Char → Except UsageFault (Intake α)
  | 'h' :: _ => intake.askHelp
  | _ => .error .unknownArgument

/-- Gives a waiting option its value. -/
def takeValue (rules : Rules α) (intake : Intake α) (word : String) :
    Except UsageFault (Intake α) :=
  match intake.waiting? with
  | some rule => .ok { intake with pending := some (.option rule (some word)) }
  | none => intake.takePlaced rules word

def take (rules : Rules α) (intake : Intake α) (word : String) :
    Except UsageFault (Intake α) :=
  if intake.noOptions then intake.takePlaced rules word
  else if intake.waiting?.any OptionRule.takesHyphens then intake.takeValue rules word
  else
    match word.toList with
    | ['-', '-'] => .ok { intake with noOptions := true }
    | '-' :: '-' :: text => intake.takeLong rules text
    | '-' :: c :: text => intake.takeShort (c :: text)
    | _ => intake.takeValue rules word

/-- What a whole list of arguments adds to the start. -/
def collect (rules : Rules α) (start : α) (words : List String) : Except UsageFault α := do
  let intake ← words.foldlM (take rules) (.start start)
  return (← intake.settle).collected

end Intake

end Stockroom.CommandLine
