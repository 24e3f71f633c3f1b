import WikibaseQuery.Text.Ranges

/-!
# Blank characters and lines

The characters with the Unicode property `White_Space`, trimming by them, and the lines of a text.
-/

namespace WikibaseQuery

/-- The ranges of the property `White_Space`. -/
def blankRanges : List (Nat × Nat) :=
  [ (0x9, 0xD), (0x20, 0x20), (0x85, 0x85), (0xA0, 0xA0), (0x1680, 0x1680), (0x2000, 0x200A),
    (0x2028, 0x2029), (0x202F, 0x202F), (0x205F, 0x205F), (0x3000, 0x3000) ]

/-- Whether the character has the property `White_Space`. -/
def isBlank (c : Char) : Bool := inRanges blankRanges c

/-- The text without blank characters at its two ends. -/
def trim (cs : List Char) : List Char :=
  ((cs.dropWhile isBlank).reverse.dropWhile isBlank).reverse

/-- The lines of a text.  A line feed ends its line, so a final one starts no further line. -/
def lines : List Char → List (List Char)
  | [] => []
  | c :: rest =>
    if c = '\n' then [] :: lines rest
    else
      match lines rest with
      | [] => [[c]]
      | line :: others => (c :: line) :: others

/-- The parts with a separator between each two. -/
def join (separator : List Char) : List (List Char) → List Char
  | [] => []
  | [part] => part
  | part :: rest => part ++ separator ++ join separator rest

end WikibaseQuery
