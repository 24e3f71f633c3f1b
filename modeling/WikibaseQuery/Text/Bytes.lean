/-!
# Texts by their bytes

The size of a text in UTF-8, and the text that is left when bytes are taken from one end.
-/

namespace WikibaseQuery

/-- How many bytes the characters take in UTF-8. -/
def utf8Length (cs : List Char) : Nat := (String.ofList cs).utf8ByteSize

/-- The characters after the first `count` bytes.  A character that is cut goes as a whole. -/
def dropBytes : (count : Nat) → List Char → List Char
  | 0, cs => cs
  | _ + 1, [] => []
  | count + 1, c :: cs => dropBytes (count + 1 - c.utf8Size) cs

end WikibaseQuery
