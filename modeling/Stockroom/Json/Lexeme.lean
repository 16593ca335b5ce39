import Stockroom.Json.Number
import Stockroom.Text.Utf8

/-!
# Lexemes of JSON texts

A text is cut into punctuation, literal words, numbers and strings, one glyph at
a time.  A string or a number may be well formed and still stand for nothing: a
string with a stray byte or a lone surrogate, a number out of range.  Such a
lexeme is kept without a value, so that a reader which skips it is not disturbed
by it.
-/

namespace Stockroom.Json

open Stockroom.Text (Glyph)

inductive Lexeme where
  | openArray
  | closeArray
  | openObject
  | closeObject
  | comma
  | colon
  | null
  | bool (value : Bool)
  | number (value : Option Json)
  | text (value : Option String)
  deriving Repr

/-! ## The content of a string -/

/-- What one glyph or escape adds to a string. -/
inductive Piece where
  | char (c : Char)
  | highSurrogate (code : Nat)
  | lowSurrogate (code : Nat)
  | stray
  deriving DecidableEq, Repr

def Piece.ofCode (code : Nat) : Piece :=
  if 0xD800 ≤ code ∧ code ≤ 0xDBFF then .highSurrogate code
  else if 0xDC00 ≤ code ∧ code ≤ 0xDFFF then .lowSurrogate code
  else .char (Char.ofNat code)

/-- The characters of a string; surrogates must come in pairs. -/
def assemble? : List Piece → Option (List Char)
  | [] => some []
  | .char c :: rest => (assemble? rest).map (c :: ·)
  | .highSurrogate high :: .lowSurrogate low :: rest =>
      (assemble? rest).map
        (Char.ofNat (0x10000 + (high - 0xD800) * 0x400 + (low - 0xDC00)) :: ·)
  | _ => none

/-- The character that a letter behind a backslash stands for. -/
def unescape? : Char → Option Char
  | '"' => some '"'
  | '\\' => some '\\'
  | '/' => some '/'
  | 'b' => some '\x08'
  | 'f' => some '\x0c'
  | 'n' => some '\n'
  | 'r' => some '\r'
  | 't' => some '\t'
  | _ => none

/-! ## Literal words and numbers -/

def isWordChar (c : Char) : Bool :=
  c.isAlphanum || c == '-' || c == '+' || c == '.'

def Lexeme.ofWord? (word : List Char) : Option Lexeme :=
  if word = "null".toList then some .null
  else if word = "true".toList then some (.bool true)
  else if word = "false".toList then some (.bool false)
  else (NumberParts.ofChars? word).map fun parts => .number parts.value?

/-! ## Cutting a text -/

/-- What the glyphs read last belong to; collected characters and pieces stand latest first. -/
inductive Mode where
  | between
  | word (chars : List Char)
  | text (pieces : List Piece)
  | escape (pieces : List Piece)
  | code (pieces : List Piece) (digitsLeft value : Nat)
  deriving DecidableEq, Repr

/-- The lexemes so far, latest first, and the unfinished one. -/
structure Cutter where
  lexemes : List Lexeme
  mode : Mode

namespace Cutter

def start : Cutter := ⟨[], .between⟩

/-- Takes a character that stands between lexemes. -/
def between? (lexemes : List Lexeme) (c : Char) : Option Cutter :=
  match c with
  | ' ' | '\n' | '\t' | '\r' => some ⟨lexemes, .between⟩
  | '[' => some ⟨.openArray :: lexemes, .between⟩
  | ']' => some ⟨.closeArray :: lexemes, .between⟩
  | '{' => some ⟨.openObject :: lexemes, .between⟩
  | '}' => some ⟨.closeObject :: lexemes, .between⟩
  | ',' => some ⟨.comma :: lexemes, .between⟩
  | ':' => some ⟨.colon :: lexemes, .between⟩
  | '"' => some ⟨lexemes, .text []⟩
  | c => if isWordChar c then some ⟨lexemes, .word [c]⟩ else none

def step (cutter : Cutter) (glyph : Glyph) : Option Cutter :=
  let lexemes := cutter.lexemes
  match cutter.mode, glyph with
  | .between, .char c => between? lexemes c
  | .word chars, .char c =>
      if isWordChar c then some ⟨lexemes, .word (c :: chars)⟩
      else do between? ((← Lexeme.ofWord? chars.reverse) :: lexemes) c
  | .text pieces, .char c =>
      if c = '"' then
        some ⟨.text ((assemble? pieces.reverse).map String.ofList) :: lexemes, .between⟩
      else if c = '\\' then some ⟨lexemes, .escape pieces⟩
      else if c.toNat < 0x20 then none
      else some ⟨lexemes, .text (.char c :: pieces)⟩
  | .text pieces, .stray _ => some ⟨lexemes, .text (.stray :: pieces)⟩
  | .escape pieces, .char c =>
      if c = 'u' then some ⟨lexemes, .code pieces 4 0⟩
      else (unescape? c).map fun plain => ⟨lexemes, .text (.char plain :: pieces)⟩
  | .code pieces digitsLeft value, .char c => do
      let value := 16 * value + (← Text.hexDigit? c)
      if digitsLeft ≤ 1 then some ⟨lexemes, .text (Piece.ofCode value :: pieces)⟩
      else some ⟨lexemes, .code pieces (digitsLeft - 1) value⟩
  | _, .stray _ => none

/-- The lexemes in their order, at the end of the text. -/
def finish? (cutter : Cutter) : Option (List Lexeme) :=
  match cutter.mode with
  | .between => some cutter.lexemes.reverse
  | .word chars => do some ((← Lexeme.ofWord? chars.reverse) :: cutter.lexemes).reverse
  | _ => none

end Cutter

def lexemes? (glyphs : List Glyph) : Option (List Lexeme) := do
  (← glyphs.foldlM Cutter.step .start).finish?

end Stockroom.Json
