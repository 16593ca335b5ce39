import Stockroom.Text.Range

/-!
# Blank characters and trimming

A character is blank when it has the Unicode property `White_Space`.  Texts that
people type (sort keys, keywords, tokens, settings) are trimmed by this
property, so no-break and ideographic spaces count while zero-width characters
do not.
-/

namespace Stockroom.Text

def blankRanges : List (Nat × Nat) :=
  [(0x09, 0x0D), (0x20, 0x20), (0x85, 0x85), (0xA0, 0xA0), (0x1680, 0x1680),
   (0x2000, 0x200A), (0x2028, 0x2029), (0x202F, 0x202F), (0x205F, 0x205F),
   (0x3000, 0x3000)]

def isBlank (c : Char) : Bool := inRanges blankRanges c

/-! ## Trimming -/

def trimStart (text : List Char) : List Char := text.dropWhile isBlank

def trimEnd (text : List Char) : List Char :=
  (text.reverse.dropWhile isBlank).reverse

def trimChars (text : List Char) : List Char := trimEnd (trimStart text)

def trim (text : String) : String := String.ofList (trimChars text.toList)

@[simp] theorem toList_trim (text : String) :
    (trim text).toList = trimChars text.toList := by
  simp [trim]

end Stockroom.Text
