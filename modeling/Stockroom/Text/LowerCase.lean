import Stockroom.Text.Letter

/-!
# Lower case of texts

The lower case of a text is that of its characters, with two exceptions: a
capital sigma that ends a word becomes the final sigma, and a capital I with a
dot becomes two characters.
-/

namespace Stockroom.Text

/-- The first character that is not ignored is a letter with case. -/
def leansOnLetter (text : List Char) : Bool :=
  (text.dropWhile isIgnorable).head?.any isCased

/-- The lower case of one character, between the text before it (latest first) and behind it. -/
def lowerAt (before : List Char) (c : Char) (behind : List Char) : List Char :=
  if c = 'Σ' then
    [if leansOnLetter before && !leansOnLetter behind then 'ς' else 'σ']
  else if c = 'İ' then ['i', '\u0307']
  else [lowerChar c]

def lowerFrom (before : List Char) : List Char → List Char
  | [] => []
  | c :: behind => lowerAt before c behind ++ lowerFrom (c :: before) behind

def lower (text : String) : String := String.ofList (lowerFrom [] text.toList)

end Stockroom.Text
