import ResourceDispatch.Text.Split

namespace ResourceDispatch.Text

/-- The characters with the Unicode property `White_Space`. -/
def isBlank (c : Char) : Bool :=
  (0x9 ≤ c.toNat && c.toNat ≤ 0xd) || c.toNat == 0x20 || c.toNat == 0x85 ||
    c.toNat == 0xa0 || c.toNat == 0x1680 || (0x2000 ≤ c.toNat && c.toNat ≤ 0x200a) ||
    c.toNat == 0x2028 || c.toNat == 0x2029 || c.toNat == 0x202f || c.toNat == 0x205f ||
    c.toNat == 0x3000

def trimStart (text : List Char) : List Char :=
  text.dropWhile isBlank

def trimEnd (text : List Char) : List Char :=
  (text.reverse.dropWhile isBlank).reverse

def trim (text : List Char) : List Char :=
  trimEnd (trimStart text)

/-- The maximal runs of characters that are not blank. -/
def words (text : List Char) : List (List Char) :=
  (splitWhere isBlank text).filter fun part => !part.isEmpty

def chopReturn (line : List Char) : List Char :=
  match line.reverse with
  | '\r' :: kept => kept.reverse
  | _ => line

/-- Reads the parts between line feeds as lines: what follows the last line feed is a line
only if it is not empty, and no line feed follows it. -/
def linesOfParts : List (List Char) → List (List Char)
  | [] => []
  | [last] => if last.isEmpty then [] else [last]
  | part :: parts => chopReturn part :: linesOfParts parts

/-- The lines of a text; a line ends with a line feed, or a carriage return and a line
feed. -/
def lines (text : List Char) : List (List Char) :=
  linesOfParts (splitOn '\n' text)

end ResourceDispatch.Text
