/-!
# Blanks and words

The blank characters are those with the Unicode property `White_Space`. Numerals are read
after trimming blanks from both ends, and a role or a token list is the sequence of its
blank-separated words.
-/

namespace AccessAudit
namespace Text

/-- The character has the Unicode property `White_Space`. -/
def isBlank (c : Char) : Bool :=
  let code := c.toNat
  (0x09 ≤ code && code ≤ 0x0d) || code == 0x20 || code == 0x85 || code == 0xa0 ||
    code == 0x1680 || (0x2000 ≤ code && code ≤ 0x200a) || code == 0x2028 || code == 0x2029 ||
    code == 0x202f || code == 0x205f || code == 0x3000

/-- The characters left when blanks are dropped from both ends. -/
def trimmed (chars : List Char) : List Char :=
  ((chars.dropWhile isBlank).reverse.dropWhile isBlank).reverse

/-- The maximal runs of characters that are not blank, from left to right. -/
def wordChars : List Char → List (List Char)
  | [] => []
  | c :: rest =>
    if isBlank c then
      wordChars rest
    else
      match rest with
      | [] => [[c]]
      | next :: _ =>
        if isBlank next then
          [c] :: wordChars rest
        else
          match wordChars rest with
          | [] => [[c]]
          | word :: others => (c :: word) :: others

/-- The blank-separated words of a text. -/
def words (text : String) : List String :=
  (wordChars text.toList).map String.ofList

end Text
end AccessAudit
