import Stockroom.Json.Document
import Stockroom.Proofs.Text.Digits
import Mathlib.Data.List.TakeWhile
import Mathlib.Tactic.Common

/-!
# Written values are read back

The compact text of a value is cut into the lexemes that spell it, and from
those the reader builds the document of the value.  Doubles are left out: their
digits are not read back exactly in general.
-/

namespace Stockroom.Json

/-! ## Lexemes of a value -/

mutual

/-- The lexemes that spell a value. -/
def lexemes : Json → List Lexeme
  | .null => [.null]
  | .bool b => [.bool b]
  | .int n => [.number (some (.int n))]
  | .float x => [.number (some (.float x))]
  | .text s => [.text (some s)]
  | .array [] => [.openArray, .closeArray]
  | .array (item :: items) => .openArray :: (lexemes item ++ itemLexemes items) ++ [.closeArray]
  | .object [] => [.openObject, .closeObject]
  | .object ((key, value) :: members) =>
      .openObject :: (.text (some key) :: .colon :: (lexemes value ++ memberLexemes members)) ++
        [.closeObject]

def itemLexemes : List Json → List Lexeme
  | [] => []
  | item :: items => .comma :: (lexemes item ++ itemLexemes items)

def memberLexemes : List (String × Json) → List Lexeme
  | [] => []
  | (key, value) :: members =>
      .comma :: .text (some key) :: .colon :: (lexemes value ++ memberLexemes members)

end

mutual

/-- No doubles, and whole numbers of 64 bits only. -/
def isExact : Json → Bool
  | .float _ => false
  | .int n => -2 ^ 63 ≤ n && n < 2 ^ 64
  | .array items => itemsExact items
  | .object members => membersExact members
  | _ => true

def itemsExact : List Json → Bool
  | [] => true
  | item :: items => isExact item && itemsExact items

def membersExact : List (String × Json) → Bool
  | [] => true
  | (_, value) :: members => isExact value && membersExact members

end

/-! ## Cutting -/

namespace Cutter

def feed (cutter : Cutter) (text : List Char) : Option Cutter :=
  (text.map Text.Glyph.char).foldlM step cutter

@[simp] theorem feed_nil (cutter : Cutter) : cutter.feed [] = some cutter := rfl

theorem feed_cons (cutter : Cutter) (c : Char) (text : List Char) :
    cutter.feed (c :: text) = (cutter.step (.char c)).bind (feed · text) := rfl

theorem feed_append (cutter : Cutter) (a b : List Char) :
    cutter.feed (a ++ b) = (cutter.feed a).bind (feed · b) := by
  simp only [feed, List.map_append, List.foldlM_append]
  rfl

def settle? (cutter : Cutter) : Option Cutter :=
  match cutter.mode with
  | .between => some cutter
  | .word chars => do some ⟨(← Lexeme.ofWord? chars.reverse) :: cutter.lexemes, .between⟩
  | _ => none

theorem finish?_eq (cutter : Cutter) :
    cutter.finish? = cutter.settle?.map fun settled => settled.lexemes.reverse := by
  rcases cutter with ⟨lexemes, mode⟩
  cases mode with
  | word chars => cases h : Lexeme.ofWord? chars.reverse <;> simp [finish?, settle?, h]
  | _ => rfl

theorem step_of_settle? {cutter settled : Cutter} (h : cutter.settle? = some settled) {c : Char}
    (hc : isWordChar c = false) : cutter.step (.char c) = settled.step (.char c) := by
  rcases cutter with ⟨lexemes, mode⟩
  cases mode with
  | between => cases h; rfl
  | word chars =>
      -- The character cannot belong to the word, so it ends the word like the end of the text.
      obtain ⟨lexeme, hword, rfl⟩ : ∃ lexeme, Lexeme.ofWord? chars.reverse = some lexeme ∧
          ⟨lexeme :: lexemes, .between⟩ = settled := by
        simpa [settle?, Option.bind_eq_some_iff] using h
      simp [step, hc, hword]
  | text pieces => simp [settle?] at h
  | escape pieces => simp [settle?] at h
  | code pieces digitsLeft value => simp [settle?] at h

end Cutter

/-- The text is cut into the lexemes, whatever stands before it; its last word may be open. -/
def Cuts (text : List Char) (lexemes : List Lexeme) : Prop :=
  ∀ before, ∃ cutter, Cutter.feed ⟨before, .between⟩ text = some cutter ∧
    cutter.settle? = some ⟨lexemes.reverse ++ before, .between⟩

theorem lexemes?_of_cuts {text : List Char} {lexemes : List Lexeme} (h : Cuts text lexemes) :
    lexemes? (text.map .char) = some lexemes := by
  obtain ⟨cutter, hfeed, hsettle⟩ := h []
  have folded : (text.map Text.Glyph.char).foldlM Cutter.step Cutter.start = some cutter := hfeed
  simp [lexemes?, folded, Cutter.finish?_eq, hsettle]

namespace Cuts

theorem nil : Cuts [] [] := fun before => ⟨⟨before, .between⟩, rfl, rfl⟩

theorem append_mark {a b : List Char} {ls ms : List Lexeme} {c : Char} {mark : Lexeme}
    (hc : isWordChar c = false)
    (hmark : ∀ before, Cutter.between? before c = some ⟨mark :: before, .between⟩)
    (ha : Cuts a ls) (hb : Cuts b ms) : Cuts (a ++ c :: b) (ls ++ mark :: ms) := by
  intro before
  obtain ⟨cutter, hfeed, hsettle⟩ := ha before
  obtain ⟨last, hlast, hdone⟩ := hb (mark :: (ls.reverse ++ before))
  have hstep : cutter.step (.char c) = some ⟨mark :: (ls.reverse ++ before), .between⟩ := by
    rw [Cutter.step_of_settle? hsettle hc]
    exact hmark _
  refine ⟨last, ?_, ?_⟩
  · rw [Cutter.feed_append, hfeed, Option.bind_some, Cutter.feed_cons, hstep, Option.bind_some,
      hlast]
  · rw [hdone, List.reverse_append, List.reverse_cons, List.append_assoc, List.append_assoc,
      List.singleton_append]

theorem append_comma {a b : List Char} {ls ms : List Lexeme} (ha : Cuts a ls) (hb : Cuts b ms) :
    Cuts (a ++ ',' :: b) (ls ++ .comma :: ms) :=
  append_mark (by decide) (fun _ => rfl) ha hb

theorem append_colon {a b : List Char} {ls ms : List Lexeme} (ha : Cuts a ls) (hb : Cuts b ms) :
    Cuts (a ++ ':' :: b) (ls ++ .colon :: ms) :=
  append_mark (by decide) (fun _ => rfl) ha hb

theorem brackets {a : List Char} {ls : List Lexeme} (ha : Cuts a ls) :
    Cuts ('[' :: a ++ [']']) (.openArray :: ls ++ [.closeArray]) :=
  append_mark (by decide) (fun _ => rfl)
    (append_mark (a := []) (by decide) (fun _ => rfl) nil ha) nil

theorem braces {a : List Char} {ls : List Lexeme} (ha : Cuts a ls) :
    Cuts ('{' :: a ++ ['}']) (.openObject :: ls ++ [.closeObject]) :=
  append_mark (by decide) (fun _ => rfl)
    (append_mark (a := []) (by decide) (fun _ => rfl) nil ha) nil

end Cuts

/-! ## Strings -/

theorem feed_code (lexemes : List Lexeme) (pieces : List Piece) {c : Char} (h : c.toNat < 0x20) :
    Cutter.feed ⟨lexemes, .text pieces⟩
        ['\\', 'u', '0', '0', Nat.digitChar (c.toNat / 16), Nat.digitChar (c.toNat % 16)] =
      some ⟨lexemes, .text (.char c :: pieces)⟩ := by
  have high := Text.hexDigit?_digitChar (n := c.toNat / 16) (by omega)
  have low := Text.hexDigit?_digitChar (n := c.toNat % 16) (by omega)
  have zero : Text.hexDigit? '0' = some 0 := by decide
  have whole : 16 * (c.toNat / 16) + c.toNat % 16 = c.toNat := by omega
  have plain : Piece.ofCode c.toNat = .char c := by
    rw [Piece.ofCode, if_neg (by omega), if_neg (by omega), Char.ofNat_toNat]
  simp [Cutter.feed_cons, Cutter.step, zero, high, low, whole, plain]

theorem feed_writeChar (lexemes : List Lexeme) (pieces : List Piece) (c : Char) :
    Cutter.feed ⟨lexemes, .text pieces⟩ (writeChar c) =
      some ⟨lexemes, .text (.char c :: pieces)⟩ := by
  unfold writeChar
  split
  next h => subst h; rfl
  split
  next h => subst h; rfl
  next hquote hback =>
  split
  next hcontrol =>
      unfold escapeControl
      split
      next h => subst h; rfl
      split
      next h => subst h; rfl
      split
      next h => subst h; rfl
      split
      next h => subst h; rfl
      split
      next h => subst h; rfl
      next => exact feed_code lexemes pieces hcontrol
  next hplain => simp [Cutter.feed_cons, Cutter.step, hquote, hback, hplain]

theorem feed_writeChars (lexemes : List Lexeme) (pieces : List Piece) (text : List Char) :
    Cutter.feed ⟨lexemes, .text pieces⟩ (text.flatMap writeChar) =
      some ⟨lexemes, .text ((text.map .char).reverse ++ pieces)⟩ := by
  induction text generalizing pieces with
  | nil => rfl
  | cons c text ih =>
      rw [List.flatMap_cons, Cutter.feed_append, feed_writeChar, Option.bind_some, ih]
      simp

theorem assemble?_chars (text : List Char) : assemble? (text.map .char) = some text := by
  induction text with
  | nil => rfl
  | cons c text ih => simp [assemble?, ih]

theorem cuts_writeText (s : String) : Cuts (writeText s) [.text (some s)] := by
  intro before
  refine ⟨⟨.text (some s) :: before, .between⟩, ?_, rfl⟩
  have start : Cutter.step ⟨before, .between⟩ (.char '"') = some ⟨before, .text []⟩ := rfl
  rw [writeText, List.cons_append, Cutter.feed_cons, start, Option.bind_some,
    Cutter.feed_append, feed_writeChars, Option.bind_some]
  simp [Cutter.feed_cons, Cutter.step, assemble?_chars]

/-! ## Words and whole numbers -/

theorem between?_of_isWordChar {c : Char} (h : isWordChar c = true) (lexemes : List Lexeme) :
    Cutter.between? lexemes c = some ⟨lexemes, .word [c]⟩ := by
  unfold Cutter.between?
  split
  all_goals first
    | exact absurd h (by decide)
    | simp [h]

theorem feed_word (lexemes : List Lexeme) (read word : List Char)
    (h : ∀ c ∈ word, isWordChar c = true) :
    Cutter.feed ⟨lexemes, .word read⟩ word = some ⟨lexemes, .word (word.reverse ++ read)⟩ := by
  induction word generalizing read with
  | nil => rfl
  | cons c word ih =>
      have step : Cutter.step ⟨lexemes, .word read⟩ (.char c) =
          some ⟨lexemes, .word (c :: read)⟩ := by
        simp [Cutter.step, h c]
      rw [Cutter.feed_cons, step, Option.bind_some, ih _ fun d hd => h d (by simp [hd])]
      simp

theorem cuts_word {word : List Char} {lexeme : Lexeme} (hne : word ≠ [])
    (hchars : ∀ c ∈ word, isWordChar c = true) (hword : Lexeme.ofWord? word = some lexeme) :
    Cuts word [lexeme] := by
  intro before
  cases word with
  | nil => exact absurd rfl hne
  | cons c word =>
      have start : Cutter.step ⟨before, .between⟩ (.char c) = some ⟨before, .word [c]⟩ :=
        between?_of_isWordChar (hchars c (by simp)) before
      refine ⟨⟨before, .word (word.reverse ++ [c])⟩, ?_, ?_⟩
      · rw [Cutter.feed_cons, start, Option.bind_some,
          feed_word _ _ _ fun d hd => hchars d (by simp [hd])]
      · simp [Cutter.settle?, hword]

theorem isWordChar_of_isDigit {c : Char} (h : c.isDigit = true) : isWordChar c = true := by
  simp [isWordChar, Char.isAlphanum, h]

theorem isDigit_of_mem_toDigits {n : Nat} {c : Char} (h : c ∈ Nat.toDigits 10 n) :
    c.isDigit = true :=
  Nat.isDigit_of_mem_toDigits (by decide) (by decide) h

theorem head_toDigits_ne_zero {n : Nat} (h : 0 < n) :
    ∃ c rest, Nat.toDigits 10 n = c :: rest ∧ c ≠ '0' := by
  induction n using Nat.strongRecOn with
  | ind n ih =>
      rcases Nat.lt_or_ge n 10 with small | large
      · refine ⟨n.digitChar, [], Nat.toDigits_of_lt_base small, ?_⟩
        simpa using by omega
      · obtain ⟨c, rest, hdigits, hc⟩ := ih (n / 10) (by omega) (by omega)
        exact ⟨c, _, by rw [Nat.toDigits_of_base_le (by decide) large, hdigits]; rfl, hc⟩

theorem wholeOk_toDigits (n : Nat) : NumberParts.wholeOk (Nat.toDigits 10 n) = true := by
  rcases Nat.eq_zero_or_pos n with rfl | positive
  · rfl
  · obtain ⟨c, rest, hdigits, hc⟩ := head_toDigits_ne_zero positive
    have digits : ∀ d ∈ c :: rest, d.isDigit = true := by
      intro d hd
      exact isDigit_of_mem_toDigits (n := n) (hdigits ▸ hd)
    have first := digits c (by simp)
    have others : rest.all Char.isDigit = true := by
      simpa using fun d hd => digits d (by simp [hd])
    rw [hdigits]
    unfold NumberParts.wholeOk
    split <;> simp_all

theorem splitAt?_of_forall {test : Char → Bool} {text : List Char}
    (h : ∀ c ∈ text, test c = false) : NumberParts.splitAt? test text = (text, none) := by
  have nothing : text.dropWhile (fun c => !test c) = [] := by
    simpa [List.dropWhile_eq_nil_iff] using h
  simp [NumberParts.splitAt?, nothing]

theorem ne_of_isDigit {c d : Char} (hc : c.isDigit = true) (hd : d.isDigit = false) : c ≠ d := by
  rintro rfl
  simp [hc] at hd

theorem splitAt?_digits {digits : List Char} (h : ∀ c ∈ digits, c.isDigit = true) :
    NumberParts.splitAt? (fun c => c == 'e' || c == 'E') digits = (digits, none) ∧
      NumberParts.splitAt? (· == '.') digits = (digits, none) := by
  constructor
  · refine splitAt?_of_forall fun c hc => ?_
    have small := ne_of_isDigit (d := 'e') (h c hc) (by decide)
    have capital := ne_of_isDigit (d := 'E') (h c hc) (by decide)
    simp [small, capital]
  · refine splitAt?_of_forall fun c hc => ?_
    simpa using ne_of_isDigit (d := '.') (h c hc) (by decide)

theorem ofChars?_toDigits (n : Nat) :
    NumberParts.ofChars? (Nat.toDigits 10 n) = some ⟨false, Nat.toDigits 10 n, none, none⟩ := by
  have digits : ∀ c ∈ Nat.toDigits 10 n, c.isDigit = true := fun c => isDigit_of_mem_toDigits
  obtain ⟨noExponent, noFraction⟩ := splitAt?_digits digits
  have whole := wholeOk_toDigits n
  cases hdigits : Nat.toDigits 10 n with
  | nil => exact absurd hdigits Nat.toDigits_ne_nil
  | cons c rest =>
      rw [hdigits] at digits noExponent noFraction whole
      have unsigned : c ≠ '-' := ne_of_isDigit (digits c (by simp)) (by decide)
      simp [NumberParts.ofChars?, unsigned, noExponent, noFraction, whole]

theorem ofChars?_minus_toDigits (n : Nat) :
    NumberParts.ofChars? ('-' :: Nat.toDigits 10 n) =
      some ⟨true, Nat.toDigits 10 n, none, none⟩ := by
  have digits : ∀ c ∈ Nat.toDigits 10 n, c.isDigit = true := fun c => isDigit_of_mem_toDigits
  obtain ⟨noExponent, noFraction⟩ := splitAt?_digits digits
  simp [NumberParts.ofChars?, noExponent, noFraction, wholeOk_toDigits]

theorem ofWord?_writeInt {n : Int} (low : -2 ^ 63 ≤ n) (high : n < 2 ^ 64) :
    Lexeme.ofWord? (writeInt n) = some (.number (some (.int n))) := by
  have read : NumberParts.ofChars? (writeInt n) =
      some ⟨decide (n < 0), Nat.toDigits 10 n.natAbs, none, none⟩ := by
    unfold writeInt
    split
    next h => simp [ofChars?_minus_toDigits, h]
    next h => simp [ofChars?_toDigits, h]
  have other {name : List Char} (h : NumberParts.ofChars? name = none) : writeInt n ≠ name := by
    intro same
    rw [same, h] at read
    cases read
  have magnitude : Text.digitsValue (Nat.toDigits 10 n.natAbs) = n.natAbs :=
    Nat.ofDigitChars_ten_toDigits
  have value : NumberParts.value? ⟨decide (n < 0), Nat.toDigits 10 n.natAbs, none, none⟩ =
      some (.int n) := by
    by_cases negative : n < 0
    · have least : Nat.pow 2 63 = 9223372036854775808 := rfl
      have range : 0 < n.natAbs ∧ n.natAbs ≤ Nat.pow 2 63 := by omega
      have whole : -(n.natAbs : Int) = n := by omega
      simp only [NumberParts.value?, magnitude, negative, decide_true, Option.isNone_none,
        Bool.and_self, if_true, if_pos range, whole]
    · have size : UInt64.size = 18446744073709551616 := rfl
      have range : n.natAbs < UInt64.size := by omega
      have whole : (n.natAbs : Int) = n := by omega
      simp only [NumberParts.value?, magnitude, negative, decide_false, Option.isNone_none,
        Bool.and_self, Bool.false_eq_true, if_true, if_false, if_pos range, whole]
  rw [Lexeme.ofWord?, if_neg (other (by decide)), if_neg (other (by decide)),
    if_neg (other (by decide)), read, Option.map_some, value]

theorem cuts_writeInt {n : Int} (low : -2 ^ 63 ≤ n) (high : n < 2 ^ 64) :
    Cuts (writeInt n) [.number (some (.int n))] := by
  refine cuts_word ?_ ?_ (ofWord?_writeInt low high)
  · unfold writeInt
    split <;> simp [Nat.toDigits_ne_nil]
  · intro c hc
    have cases : c = '-' ∨ c ∈ Nat.toDigits 10 n.natAbs := by
      unfold writeInt at hc
      split at hc <;> simp_all
    rcases cases with rfl | hdigit
    · decide
    · exact isWordChar_of_isDigit (isDigit_of_mem_toDigits hdigit)

/-! ## Values -/

mutual

theorem cuts_write {value : Json} (h : isExact value = true) :
    Cuts (write value) (lexemes value) := by
  match value with
  | .null => exact @cuts_word "null".toList _ (by decide) (List.all_eq_true.mp rfl) rfl
  | .bool true => exact @cuts_word "true".toList _ (by decide) (List.all_eq_true.mp rfl) rfl
  | .bool false => exact @cuts_word "false".toList _ (by decide) (List.all_eq_true.mp rfl) rfl
  | .int n =>
      have range : -2 ^ 63 ≤ n ∧ n < 2 ^ 64 := by simpa [isExact] using h
      exact cuts_writeInt range.1 range.2
  | .float _ => simp [isExact] at h
  | .text s => exact cuts_writeText s
  | .array [] => exact Cuts.brackets Cuts.nil
  | .array (item :: items) =>
      have parts : isExact item = true ∧ itemsExact items = true := by
        simpa [isExact, itemsExact] using h
      exact Cuts.brackets (cuts_writeItems parts.2 (cuts_write parts.1))
  | .object [] => exact Cuts.braces Cuts.nil
  | .object ((key, value) :: members) =>
      have parts : isExact value = true ∧ membersExact members = true := by
        simpa [isExact, membersExact] using h
      have first := (cuts_writeText key).append_colon (cuts_write parts.1)
      have whole := Cuts.braces (cuts_writeMembers parts.2 first)
      simpa [write, lexemes] using whole

theorem cuts_writeItems {items : List Json} (h : itemsExact items = true) {a : List Char}
    {ls : List Lexeme} (ha : Cuts a ls) :
    Cuts (a ++ writeItems items) (ls ++ itemLexemes items) := by
  match items with
  | [] => simpa [writeItems, itemLexemes] using ha
  | item :: items =>
      have parts : isExact item = true ∧ itemsExact items = true := by
        simpa [itemsExact] using h
      have first := ha.append_comma (cuts_write parts.1)
      simpa [writeItems, itemLexemes] using cuts_writeItems parts.2 first

theorem cuts_writeMembers {members : List (String × Json)} (h : membersExact members = true)
    {a : List Char} {ls : List Lexeme} (ha : Cuts a ls) :
    Cuts (a ++ writeMembers members) (ls ++ memberLexemes members) := by
  match members with
  | [] => simpa [writeMembers, memberLexemes] using ha
  | (key, value) :: members =>
      have parts : isExact value = true ∧ membersExact members = true := by
        simpa [membersExact] using h
      have member := (cuts_writeText key).append_colon (cuts_write parts.1)
      have first := ha.append_comma member
      simpa [writeMembers, memberLexemes] using cuts_writeMembers parts.2 first

end

/-! ## Documents -/

mutual

def document : Json → Document
  | .null => .null
  | .bool b => .bool b
  | .int n => .number (some (.int n))
  | .float x => .number (some (.float x))
  | .text s => .text (some s)
  | .array items => .array (documents items)
  | .object members => .object (memberDocuments members)

def documents : List Json → List Document
  | [] => []
  | item :: items => document item :: documents items

def memberDocuments : List (String × Json) → List (Option String × Document)
  | [] => []
  | (key, value) :: members => (some key, document value) :: memberDocuments members

end

namespace Document.Stage

def run (stage : Stage) (lexemes : List Lexeme) : Option Stage := lexemes.foldlM step stage

@[simp] theorem run_nil (stage : Stage) : stage.run [] = some stage := rfl

theorem run_cons (stage : Stage) (lexeme : Lexeme) (lexemes : List Lexeme) :
    stage.run (lexeme :: lexemes) = (stage.step lexeme).bind (run · lexemes) := rfl

theorem run_append (stage : Stage) (a b : List Lexeme) :
    stage.run (a ++ b) = (stage.run a).bind (run · b) := by
  simp only [run, List.foldlM_append]
  rfl

theorem run_needItem (value : Json) (frames : List Frame) (rest : List Lexeme) :
    (needItem frames).run (lexemes value ++ rest) =
      (needValue (.array [] :: frames)).run (lexemes value ++ rest) := by
  -- No value starts with the bracket that would end the array here.
  cases value with
  | array items => cases items <;> simp [lexemes, run_cons, step]
  | object members => cases members <;> simp [lexemes, run_cons, step]
  | _ => simp [lexemes, run_cons, step]

mutual

theorem run_lexemes (value : Json) (frames : List Frame) :
    (needValue frames).run (lexemes value) = some (complete (document value) frames) := by
  match value with
  | .null => rfl
  | .bool b => rfl
  | .int n => rfl
  | .float x => rfl
  | .text s => rfl
  | .array [] => rfl
  | .array (item :: items) =>
      have start : (needValue frames).step .openArray = some (needItem frames) := rfl
      obtain ⟨last, held, hrun, hheld⟩ := run_itemLexemes items (document item) [] frames
      have inside : (needItem frames).run (lexemes item ++ itemLexemes items) =
          some (complete last (.array held :: frames)) := by
        rw [run_needItem, run_append, run_lexemes item, Option.bind_some, hrun]
      have whole : (last :: held).reverse = documents (item :: items) := by
        rw [hheld]
        simp [documents]
      rw [lexemes, List.cons_append, run_cons, start, Option.bind_some, run_append, inside,
        Option.bind_some, run_cons]
      simp [step, document, ← whole]
  | .object [] => rfl
  | .object ((key, value) :: members) =>
      obtain ⟨last, held, name, hrun, hheld⟩ :=
        run_memberLexemes members (document value) [] (some key) frames
      have start : (needValue frames).run [.openObject, .text (some key), .colon] =
          some (needValue (.object [] (some key) :: frames)) := rfl
      have inside : (needValue frames).run
          ([.openObject, .text (some key), .colon] ++ (lexemes value ++ memberLexemes members)) =
          some (complete last (.object held name :: frames)) := by
        rw [run_append, start, Option.bind_some, run_append, run_lexemes value,
          Option.bind_some, hrun]
      have whole : ((name, last) :: held).reverse = memberDocuments ((key, value) :: members) := by
        rw [hheld]
        simp [memberDocuments]
      rw [lexemes, show ∀ a : List Lexeme,
        .openObject :: (.text (some key) :: .colon :: a) ++ [.closeObject] =
          ([.openObject, .text (some key), .colon] ++ a) ++ [.closeObject] from fun _ => rfl,
        run_append, inside, Option.bind_some, run_cons]
      simp [step, document, ← whole]

theorem run_itemLexemes (items : List Json) (last : Document) (held : List Document)
    (frames : List Frame) :
    ∃ last' held', (complete last (.array held :: frames)).run (itemLexemes items) =
        some (complete last' (.array held' :: frames)) ∧
      last' :: held' = (documents items).reverse ++ last :: held := by
  match items with
  | [] => exact ⟨last, held, rfl, rfl⟩
  | item :: items =>
      obtain ⟨last', held', hrun, hheld⟩ :=
        run_itemLexemes items (document item) (last :: held) frames
      refine ⟨last', held', ?_, ?_⟩
      · have comma : (complete last (.array held :: frames)).step .comma =
            some (needValue (.array (last :: held) :: frames)) := rfl
        rw [itemLexemes, run_cons, comma, Option.bind_some, run_append, run_lexemes item,
          Option.bind_some, hrun]
      · rw [hheld]
        simp [documents]

theorem run_memberLexemes (members : List (String × Json)) (last : Document)
    (held : List (Option String × Document)) (name : Option String) (frames : List Frame) :
    ∃ last' held' name', (complete last (.object held name :: frames)).run
        (memberLexemes members) = some (complete last' (.object held' name' :: frames)) ∧
      (name', last') :: held' = (memberDocuments members).reverse ++ (name, last) :: held := by
  match members with
  | [] => exact ⟨last, held, name, rfl, rfl⟩
  | (key, value) :: members =>
      obtain ⟨last', held', name', hrun, hheld⟩ :=
        run_memberLexemes members (document value) ((name, last) :: held) (some key) frames
      refine ⟨last', held', name', ?_, ?_⟩
      · have start : (complete last (.object held name :: frames)).run
            [.comma, .text (some key), .colon] =
            some (needValue (.object ((name, last) :: held) (some key) :: frames)) := rfl
        rw [memberLexemes, show ∀ a : List Lexeme, .comma :: .text (some key) :: .colon :: a =
          [.comma, .text (some key), .colon] ++ a from fun _ => rfl, run_append, start,
          Option.bind_some, run_append, run_lexemes value, Option.bind_some, hrun]
      · rw [hheld]
        simp [memberDocuments]

end

end Document.Stage

theorem ofGlyphs?_write {value : Json} (h : isExact value = true) :
    Document.ofGlyphs? (value.write.map .char) = some (document value) := by
  have cut := lexemes?_of_cuts (cuts_write h)
  have built : (lexemes value).foldlM Document.Stage.step (.needValue []) =
      some (.complete (document value) []) := Document.Stage.run_lexemes value []
  simp [Document.ofGlyphs?, cut, built, Document.Stage.finish?]

end Stockroom.Json
