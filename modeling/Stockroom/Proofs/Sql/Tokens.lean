import Mathlib.Data.List.SplitBy
import Stockroom.Query.Sql
import Stockroom.Text.Numeral

/-!
# Tokens of SQL

A text is cut into words and signs: characters of a word, and characters of a
comparison sign, stick together, and every other character stands for itself.
Keywords are words in letters of either case, so a column may not be named like
one.  Blanks separate tokens and mean nothing else.
-/

namespace Stockroom.Sql

inductive Keyword where
  | true | false | and | or | not | in | like
  | select | from | where | order | by | asc | desc | limit | offset
  deriving DecidableEq, Repr

inductive Sign where
  | opening | closing | comma | star
  | equal | atLeast | atMost | greater | less | matches
  deriving DecidableEq, Repr

inductive Token where
  | keyword (keyword : Keyword)
  | name (name : String)
  | number (value : Nat)
  | slot (slot : Nat)
  | quoted (text : String)
  | sign (sign : Sign)
  deriving DecidableEq, Repr

namespace Keyword

def all : List Keyword :=
  [true, false, and, or, not, «in», like, select, «from», «where», order, «by», asc, desc, limit,
    offset]

def word : Keyword → String
  | true => "TRUE"
  | false => "FALSE"
  | and => "AND"
  | or => "OR"
  | not => "NOT"
  | «in» => "IN"
  | like => "LIKE"
  | select => "SELECT"
  | «from» => "FROM"
  | «where» => "WHERE"
  | order => "ORDER"
  | «by» => "BY"
  | asc => "ASC"
  | desc => "DESC"
  | limit => "LIMIT"
  | offset => "OFFSET"

def ofChars? (chars : List Char) : Option Keyword :=
  all.find? fun keyword => keyword.word.toList == chars.map Char.toUpper

end Keyword

namespace Sign

/-- The signs that never stick to their neighbours. -/
def mark? : Char → Option Sign
  | '(' => some .opening
  | ')' => some .closing
  | ',' => some .comma
  | '*' => some .star
  | _ => none

def all : List Sign :=
  [opening, closing, comma, star, equal, atLeast, atMost, greater, less, «matches»]

def symbol : Sign → String
  | opening => "("
  | closing => ")"
  | comma => ","
  | star => "*"
  | equal => "="
  | atLeast => ">="
  | atMost => "<="
  | greater => ">"
  | less => "<"
  | «matches» => "@@"

def ofChars? (chars : List Char) : Option Sign :=
  all.find? fun sign => sign.symbol.toList == chars

end Sign

/-! ## Cutting a text -/

def isNameChar (c : Char) : Bool := c.isAlphanum || c == '_'

/-- A dollar starts the number of a slot, and quotes stand around a quoted word. -/
def isWordChar (c : Char) : Bool := isNameChar c || c == '$' || c == '\''

def isSignChar (c : Char) : Bool := c == '=' || c == '<' || c == '>' || c == '@'

def sticks (a b : Char) : Bool := isWordChar a && isWordChar b || isSignChar a && isSignChar b

def pieces (text : List Char) : List (List Char) :=
  (text.splitBy sticks).filter fun piece => piece != [' ']

/-! ## Reading a piece -/

def number? (digits : List Char) : Option Nat :=
  if digits ≠ [] ∧ digits.all Char.isDigit then some (Text.digitsValue digits) else none

def isName : List Char → Bool
  | [] => false
  | first :: rest => (first.isAlpha || first == '_') && rest.all isNameChar

def Token.ofWord? : List Char → Option Token
  | '$' :: digits => (number? digits).map .slot
  | '\'' :: rest =>
      if rest.getLast? = some '\'' ∧ rest.dropLast.all isNameChar then
        some (.quoted (String.ofList rest.dropLast))
      else none
  | word =>
      if isName word then
        some <| match Keyword.ofChars? word with
          | some found => .keyword found
          | none => .name (String.ofList word)
      else (number? word).map .number

def Token.ofPiece? (piece : List Char) : Option Token :=
  match Sign.ofChars? piece with
  | some found => some (.sign found)
  | none => ofWord? piece

def tokens? (text : List Char) : Option (List Token) := (pieces text).mapM Token.ofPiece?

/-- A name that can stand in a text as it is. -/
def isPlain (name : String) : Bool :=
  isName name.toList && (Keyword.ofChars? name.toList).isNone

/-! ## Cutting between two texts -/

@[simp] theorem tokens?_nil : tokens? [] = some [] := rfl

theorem pieces_append {a b : List Char}
    (h : ∀ x ∈ a.getLast?, ∀ y ∈ b.head?, sticks x y = false) :
    pieces (a ++ b) = pieces a ++ pieces b := by
  rw [pieces, List.splitBy_append h, List.filter_append]
  rfl

theorem tokens?_append {a b : List Char} {as bs : List Token}
    (h : ∀ x ∈ a.getLast?, ∀ y ∈ b.head?, sticks x y = false)
    (ha : tokens? a = some as) (hb : tokens? b = some bs) :
    tokens? (a ++ b) = some (as ++ bs) := by
  rw [tokens?] at ha hb
  rw [tokens?, pieces_append h, List.mapM_append, ha, hb]
  rfl

theorem tokens?_append_cons {a b : List Char} {c : Char} {as cs bs : List Token}
    (alone : ∀ d, sticks d c = false ∧ sticks c d = false)
    (ha : tokens? a = some as) (hc : tokens? [c] = some cs) (hb : tokens? b = some bs) :
    tokens? (a ++ c :: b) = some (as ++ cs ++ bs) := by
  have cut : a ++ c :: b = (a ++ [c]) ++ b := by simp
  have front : tokens? (a ++ [c]) = some (as ++ cs) := by
    apply tokens?_append _ ha hc
    rintro x - y hy
    obtain rfl : c = y := by simpa using hy
    exact (alone x).1
  rw [cut]
  apply tokens?_append _ front hb
  intro x hx y _
  obtain rfl : c = x := by simpa using hx
  exact (alone y).2

theorem tokens?_append_blank {a b : List Char} {as bs : List Token}
    (ha : tokens? a = some as) (hb : tokens? b = some bs) :
    tokens? (a ++ ' ' :: b) = some (as ++ bs) := by
  have alone : ∀ d, sticks d ' ' = false ∧ sticks ' ' d = false := by
    simp [sticks, isWordChar, isSignChar, isNameChar]
  have blank : tokens? [' '] = some [] := rfl
  simpa using tokens?_append_cons alone ha blank hb

theorem tokens?_append_mark {a b : List Char} {c : Char} {sign : Sign} {as bs : List Token}
    (hc : Sign.mark? c = some sign) (ha : tokens? a = some as) (hb : tokens? b = some bs) :
    tokens? (a ++ c :: b) = some (as ++ .sign sign :: bs) := by
  have isMark : c = '(' ∨ c = ')' ∨ c = ',' ∨ c = '*' := by
    unfold Sign.mark? at hc
    split at hc <;> simp_all
  have alone : ∀ d, sticks d c = false ∧ sticks c d = false := by
    rcases isMark with rfl | rfl | rfl | rfl <;>
      simp [sticks, isWordChar, isSignChar, isNameChar]
  have single : tokens? [c] = some [.sign sign] := by
    rcases isMark with rfl | rfl | rfl | rfl <;> cases hc <;> decide
  simpa using tokens?_append_cons alone ha single hb

/-! ## Single words -/

theorem tokens?_piece {piece : List Char} {token : Token}
    (hchain : piece.IsChain fun a b => sticks a b = true) (hblank : piece ≠ [' '])
    (h : Token.ofPiece? piece = some token) : tokens? piece = some [token] := by
  have hne : piece ≠ [] := by
    rintro rfl
    cases h
  simp [tokens?, pieces, List.splitBy_of_isChain hne hchain, hblank, h]

theorem ofChars?_of_word {word : List Char} (h : ∀ c ∈ word, isWordChar c = true) :
    Sign.ofChars? word = none := by
  have noWord : ∀ sign ∈ Sign.all, sign.symbol.toList.all isWordChar = false := by decide
  refine List.find?_eq_none.mpr fun sign hsign same => ?_
  have letters : sign.symbol.toList.all isWordChar = true := by
    rw [beq_iff_eq.mp same]
    exact List.all_eq_true.mpr h
  rw [noWord sign hsign] at letters
  cases letters

theorem tokens?_word {word : List Char} {token : Token}
    (hword : ∀ c ∈ word, isWordChar c = true) (h : Token.ofWord? word = some token) :
    tokens? word = some [token] := by
  have chain : word.IsChain fun a b => sticks a b = true := by
    apply List.Pairwise.isChain
    apply List.pairwise_of_forall_mem_list
    intro a ha b hb
    simp [sticks, hword a ha, hword b hb]
  have visible : word ≠ [' '] := by
    rintro rfl
    simp [isWordChar, isNameChar] at hword
  apply tokens?_piece chain visible
  rw [Token.ofPiece?, ofChars?_of_word hword, h]

theorem isNameChar_of_isName {word : List Char} (h : isName word = true) :
    ∀ c ∈ word, isNameChar c = true := by
  cases word with
  | nil => simp
  | cons first rest =>
      simp only [isName, Bool.and_eq_true, Bool.or_eq_true, List.all_eq_true] at h
      intro c hc
      rcases List.mem_cons.mp hc with rfl | hrest
      · rcases h.1 with letter | underscore
        · simp [isNameChar, Char.isAlphanum, letter]
        · simp [isNameChar, underscore]
      · exact h.2 c hrest

theorem ofWord?_of_isName {word : List Char} (h : isName word = true) :
    Token.ofWord? word = some (match Keyword.ofChars? word with
      | some found => .keyword found
      | none => .name (String.ofList word)) := by
  unfold Token.ofWord?
  split
  · simp [isName] at h
  · simp [isName] at h
  · rw [if_pos h]

theorem tokens?_name {name : String} (h : isPlain name = true) :
    tokens? name.toList = some [.name name] := by
  simp only [isPlain, Bool.and_eq_true, Option.isNone_iff_eq_none] at h
  apply tokens?_word
  · intro c hc
    simp [isWordChar, isNameChar_of_isName h.1 c hc]
  · rw [ofWord?_of_isName h.1, h.2, String.ofList_toList]

theorem number?_toDigits (n : Nat) : number? (Nat.toDigits 10 n) = some n := by
  have digits : (Nat.toDigits 10 n).all Char.isDigit = true := by
    rw [List.all_eq_true]
    exact fun c hc => Nat.isDigit_of_mem_toDigits (by decide) (by decide) hc
  rw [number?, if_pos ⟨Nat.toDigits_ne_nil, digits⟩, Text.digitsValue,
    Nat.ofDigitChars_toDigits (by decide) (by decide)]

theorem not_isAlpha_of_isDigit {c : Char} (h : c.isDigit = true) :
    (c.isAlpha || c == '_') = false := by
  have each : ∀ code < 58, 48 ≤ code →
      ((Char.ofNat code).isAlpha || Char.ofNat code == '_') = false := by
    decide
  have range : 48 ≤ c.toNat ∧ c.toNat ≤ 57 := by
    simpa [Char.isDigit, UInt32.le_iff_toNat_le] using h
  have found := each c.toNat (by omega) range.1
  rwa [Char.ofNat_toNat] at found

theorem ofWord?_toDigits (n : Nat) : Token.ofWord? (Nat.toDigits 10 n) = some (.number n) := by
  have digit : ∀ c ∈ Nat.toDigits 10 n, c.isDigit = true := fun c hc =>
    Nat.isDigit_of_mem_toDigits (by decide) (by decide) hc
  have noName : isName (Nat.toDigits 10 n) = false := by
    cases hdigits : Nat.toDigits 10 n with
    | nil => rfl
    | cons first rest =>
        rw [isName, not_isAlpha_of_isDigit (digit first (by simp [hdigits])), Bool.false_and]
  unfold Token.ofWord?
  split
  next heq => exact absurd (digit '$' (by simp [heq])) (by decide)
  next heq => exact absurd (digit '\'' (by simp [heq])) (by decide)
  next => simp [noName, number?_toDigits]

theorem toList_toString_nat (n : Nat) : (toString n).toList = Nat.toDigits 10 n := by
  simp

theorem isWordChar_of_mem_toDigits {n : Nat} {c : Char} (h : c ∈ Nat.toDigits 10 n) :
    isWordChar c = true := by
  have digit : c.isDigit = true := Nat.isDigit_of_mem_toDigits (by decide) (by decide) h
  simp [isWordChar, isNameChar, Char.isAlphanum, digit]

theorem tokens?_slotText (slot : Nat) : tokens? (slotText slot).toList = some [.slot slot] := by
  rw [slotText, String.toList_append, toList_toString_nat]
  apply tokens?_word
  · intro c hc
    rcases List.mem_cons.mp hc with rfl | hdigit
    · rfl
    · exact isWordChar_of_mem_toDigits hdigit
  · simp [Token.ofWord?, number?_toDigits]

theorem tokens?_toString (n : Nat) : tokens? (toString n).toList = some [.number n] := by
  rw [toList_toString_nat]
  exact tokens?_word (fun c hc => isWordChar_of_mem_toDigits hc) (ofWord?_toDigits n)

end Stockroom.Sql
