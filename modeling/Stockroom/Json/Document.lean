import Stockroom.Json.Lexeme

/-!
# JSON documents

A document is the tree that a JSON text spells out, before anything is asked of
it: members stand in their written order, repeated keys included, and a number
out of range or a string without characters is still a place in the tree.  The
reader keeps the unfinished arrays and objects on a stack, so a document may be
nested to any depth.
-/

namespace Stockroom.Json

inductive Document where
  | null
  | bool (value : Bool)
  | number (value : Option Json)
  | text (value : Option String)
  | array (items : List Document)
  | object (members : List (Option String × Document))
  deriving Repr

namespace Document

/-- An array or object that is still open; what it holds so far stands latest first. -/
inductive Frame where
  | array (items : List Document)
  | object (members : List (Option String × Document)) (key : Option String)

/-- What the lexemes read so far ask for next; the innermost open frame comes first. -/
inductive Stage where
  | needValue (frames : List Frame)
  /-- The first item of an array, or its end. -/
  | needItem (frames : List Frame)
  /-- A key, behind the members read so far; without any the object may end here. -/
  | needKey (members : List (Option String × Document)) (frames : List Frame)
  | needColon (members : List (Option String × Document)) (key : Option String)
      (frames : List Frame)
  | complete (document : Document) (frames : List Frame)

namespace Stage

/-- Takes the first lexeme of a value. -/
def openValue? (frames : List Frame) : Lexeme → Option Stage
  | .null => some (.complete .null frames)
  | .bool b => some (.complete (.bool b) frames)
  | .number n => some (.complete (.number n) frames)
  | .text s => some (.complete (.text s) frames)
  | .openArray => some (.needItem frames)
  | .openObject => some (.needKey [] frames)
  | _ => none

def step : Stage → Lexeme → Option Stage
  | .needValue frames, lexeme => openValue? frames lexeme
  | .needItem frames, .closeArray => some (.complete (.array []) frames)
  | .needItem frames, lexeme => openValue? (.array [] :: frames) lexeme
  | .needKey [] frames, .closeObject => some (.complete (.object []) frames)
  | .needKey members frames, .text key => some (.needColon members key frames)
  | .needColon members key frames, .colon =>
      some (.needValue (.object members key :: frames))
  | .complete document (.array items :: frames), .comma =>
      some (.needValue (.array (document :: items) :: frames))
  | .complete document (.array items :: frames), .closeArray =>
      some (.complete (.array (document :: items).reverse) frames)
  | .complete document (.object members key :: frames), .comma =>
      some (.needKey ((key, document) :: members) frames)
  | .complete document (.object members key :: frames), .closeObject =>
      some (.complete (.object ((key, document) :: members).reverse) frames)
  | _, _ => none

def finish? : Stage → Option Document
  | .complete document [] => some document
  | _ => none

end Stage

def ofGlyphs? (glyphs : List Text.Glyph) : Option Document := do
  (← (← lexemes? glyphs).foldlM Stage.step (.needValue [])).finish?

def ofBytes? (bytes : List UInt8) : Option Document :=
  ofGlyphs? (Text.Utf8.decode bytes)

def ofText? (text : String) : Option Document :=
  ofGlyphs? (text.toList.map .char)

/-!
## Values

An object whose first key is reserved for it stands for a value that is written
down as a text: the text is the object's only member, and it is read like a
document of its own.
-/

/-- The first key of an object that stands for the value of a text. -/
def embeddingKey : String := "$serde_json::private::RawValue"

def isEmbedding : List (Option String × Document) → Bool
  | (key, _) :: _ => key == some embeddingKey
  | [] => false

/-- The text of an embedding, which holds nothing else. -/
def embeddedText? : List (Option String × Document) → Option String
  | [(_, .text s)] => s
  | _ => none

mutual

/-- The value of a document whose containers are nested at most `depth` deep. -/
def jsonWith? (embedded : String → Option Json) (depth : Nat) : Document → Option Json
  | .null => some .null
  | .bool b => some (.bool b)
  | .number n => n
  | .text s => s.map .text
  | .array items =>
      match depth with
      | 0 => none
      | depth + 1 => (items? embedded depth items).map .array
  | .object members =>
      match depth with
      | 0 => none
      | depth + 1 =>
          if isEmbedding members then embeddedText? members >>= embedded
          else (members? embedded depth [] members).map .object

def items? (embedded : String → Option Json) (depth : Nat) :
    List Document → Option (List Json)
  | [] => some []
  | item :: items => do
      let value ← jsonWith? embedded depth item
      let values ← items? embedded depth items
      some (value :: values)

/-- Adds members to sorted ones; the last value of a repeated key wins. -/
def members? (embedded : String → Option Json) (depth : Nat)
    (sorted : List (String × Json)) :
    List (Option String × Document) → Option (List (String × Json))
  | [] => some sorted
  | (key, member) :: members => do
      let key ← key
      let value ← jsonWith? embedded depth member
      members? embedded depth (insertMember key value sorted) members

end

/-- Containers of one text may be nested this deep, whatever text it is embedded in. -/
def maxDepth : Nat := 127

/-- The value of a text, with texts embedded in each other on fewer than `levels` levels. -/
def textValue? : Nat → String → Option Json
  | 0, _ => none
  | levels + 1, source => do
      (← ofText? source).jsonWith? (textValue? levels) maxDepth

/-- The value of a text; its length bounds the levels, for it exceeds that of a text in it. -/
def embeddedValue? (text : String) : Option Json := textValue? (text.length + 1) text

def json? (depth : Nat) (document : Document) : Option Json :=
  document.jsonWith? embeddedValue? depth

/-! ## Fields of a record -/

def string? : Document → Option String
  | .text s => s
  | _ => none

def uint32? : Document → Option UInt32
  | .number (some (.int n)) =>
      if 0 ≤ n ∧ n < UInt32.size then some (UInt32.ofNat n.toNat) else none
  | _ => none

/-- A value or the null that stands for its absence. -/
def optional? {α : Type} (read : Document → Option α) : Document → Option (Option α)
  | .null => some none
  | document => (read document).map some

/-- A field that may be left out or null. -/
def optionalField? {α : Type} (read : Document → Option α) :
    Option Document → Option (Option α)
  | none => some none
  | some document => document.optional? read

/-- A field that may be left out, but has a value otherwise. -/
def fieldOr? {α : Type} (default : α) (read : Document → Option α) :
    Option Document → Option α
  | none => some default
  | some document => read document

def list? {α : Type} (read : Document → Option α) : Document → Option (List α)
  | .array items => items.mapM read
  | _ => none

/-- A word of a fixed choice, alone or as the only key of an object with a null. -/
def choice? {α : Type} (read : String → Option α) : Document → Option α
  | .text (some s) => read s
  | .object [(some s, .null)] => read s
  | _ => none

/-- The document at a key, if the key is there; a key must not be repeated. -/
def field? (members : List (Option String × Document)) (name : String) :
    Option (Option Document) :=
  match members.filter fun member => member.1 == some name with
  | [] => some none
  | [member] => some (some member.2)
  | _ => none

/--
The fields of a record by their names: an object may leave fields out and name
others, but repeats none; an array lists the fields in order and may leave out
only those behind the first `needed`.
-/
def record? (names : List String) (needed : Nat) :
    Document → Option (List (Option Document))
  | .object members =>
      if members.all fun member => member.1.isSome then names.mapM (field? members)
      else none
  | .array items =>
      if needed ≤ items.length ∧ items.length ≤ names.length then
        some (items.map some ++ List.replicate (names.length - items.length) none)
      else none
  | _ => none

end Document

end Stockroom.Json
