/-!
# Texts

A text is a list of characters. This file holds what every reader of texts
shares: blanks and trimming, splitting, joining, and look-up in tables of
character ranges.
-/

namespace Rowscript

/-- Texts are lists of characters, so a scanner is a recursion on its input. -/
abbrev Text := List Char

namespace Text

/-- Membership of a character in a table of inclusive ranges of code points. -/
def inRanges (ranges : List (Nat × Nat)) (c : Char) : Bool :=
  ranges.any fun range => range.1 ≤ c.toNat && c.toNat ≤ range.2

/-- The blanks: every space and line separator of Unicode and the four information
separators of ASCII. -/
def isBlank (c : Char) : Bool :=
  inRanges [(0x09, 0x0D), (0x1C, 0x20), (0x85, 0x85), (0xA0, 0xA0), (0x1680, 0x1680),
    (0x2000, 0x200A), (0x2028, 0x2029), (0x202F, 0x202F), (0x205F, 0x205F),
    (0x3000, 0x3000)] c

/-- A text without its leading blanks. -/
def trimLeft (t : Text) : Text := t.dropWhile isBlank

/-- A text without its trailing blanks. -/
def trimRight (t : Text) : Text := (t.reverse.dropWhile isBlank).reverse

/-- A text without the blanks on both sides. -/
def trim (t : Text) : Text := trimRight (trimLeft t)

/-- What follows a given beginning, if the text has it. -/
def after? : Text → Text → Option Text
  | [], t => some t
  | _ :: _, [] => none
  | b :: beginning, c :: t => if b = c then after? beginning t else none

/-- Whether a text has a given beginning. -/
def startsWith (beginning t : Text) : Bool := (after? beginning t).isSome

/-- The pieces of a text between the occurrences of a character; there is one more
piece than there are occurrences. -/
def splitOn (separator : Char) : Text → List Text
  | [] => [[]]
  | c :: rest =>
    if c = separator then [] :: splitOn separator rest
    else match splitOn separator rest with
      | [] => [[c]]
      | piece :: pieces => (c :: piece) :: pieces

/-- Joins texts with a separator between them. -/
def join (separator : Text) (pieces : List Text) : Text := separator.intercalate pieces

/-- Writes every occurrence of a character twice. -/
def double (quote : Char) (t : Text) : Text :=
  t.flatMap fun c => if c = quote then [c, c] else [c]

/-- A text in lower case as far as ASCII letters go. It serves to recognise words in
ASCII letters. The only other characters whose lower case holds an ASCII letter are
the Kelvin sign, whose `k` is in none of these words, and the dotted capital I, whose
`i` is followed by a combining dot. -/
def lowerAscii (t : Text) : Text := t.map Char.toLower

/-- Fills a text with spaces on the right up to a width counted in characters. -/
def padRight (width : Nat) (t : Text) : Text := t ++ List.replicate (width - t.length) ' '

end Text

end Rowscript
