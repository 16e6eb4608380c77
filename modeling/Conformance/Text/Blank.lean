/-!
# Blank characters, trimming and words

A blank is a character of Unicode's White_Space property. Trimming removes blanks at the two ends
of a text, and `words` lists its maximal runs of other characters.
-/
namespace Conformance.Text

/-- The characters of the White_Space property. -/
def isBlank (c : Char) : Bool :=
  let n := c.toNat
  (9 ≤ n && n ≤ 13) || n == 0x20 || n == 0x85 || n == 0xA0 || n == 0x1680 ||
    (0x2000 ≤ n && n ≤ 0x200A) || n == 0x2028 || n == 0x2029 || n == 0x202F || n == 0x205F ||
    n == 0x3000

/-- Without the last characters that satisfy `p`. -/
def dropEndWhile (p : Char → Bool) (s : List Char) : List Char :=
  (s.reverse.dropWhile p).reverse

def trimStart (s : List Char) : List Char :=
  s.dropWhile isBlank

def trimEnd (s : List Char) : List Char :=
  dropEndWhile isBlank s

def trim (s : List Char) : List Char :=
  trimEnd (trimStart s)

/-- The words of `s`, after a word whose characters so far are `word`, in reverse. -/
def wordsAfter (word : List Char) : List Char → List (List Char)
  | [] => if word.isEmpty then [] else [word.reverse]
  | c :: s =>
    if isBlank c then
      if word.isEmpty then wordsAfter [] s else word.reverse :: wordsAfter [] s
    else wordsAfter (c :: word) s

/-- The maximal runs of characters that are no blanks. -/
def words (s : List Char) : List (List Char) :=
  wordsAfter [] s

/-- True of a text of blanks only, the empty one among them. -/
def allBlank (s : List Char) : Bool :=
  s.all isBlank

theorem trim_nil : trim [] = [] := rfl

end Conformance.Text
