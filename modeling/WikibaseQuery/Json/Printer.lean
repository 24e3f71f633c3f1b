import WikibaseQuery.Decimal.Layout
import WikibaseQuery.Json.Value

/-!
# JSON text

`Json.print` writes a value without blanks.  Of the characters of a text only the quotation mark,
the backslash and the controls below the space are escaped.
-/

namespace WikibaseQuery.Json

/-! ## Numbers and texts -/

/-- Numbers in JSON text keep a decimal point, turn to an exponent from `1e+16` up and below
`0.00001`, and of two equally near decimals have the even one. -/
def floatLayout : Layout := ⟨.even, true, fun power => -5 ≤ power && power ≤ 15⟩

/-- A whole number with its sign. -/
def integerText (n : Int) : List Char :=
  (if n < 0 then ['-'] else []) ++ Nat.toDigits 10 n.natAbs

def numberText : Number → List Char
  | .integer n => integerText n
  | .float x => x.text floatLayout

/-- The character as it stands between quotation marks. -/
def escapedChar (c : Char) : List Char :=
  match c with
  | '"' => ['\\', '"']
  | '\\' => ['\\', '\\']
  | '\x08' => ['\\', 'b']
  | '\x0c' => ['\\', 'f']
  | '\n' => ['\\', 'n']
  | '\r' => ['\\', 'r']
  | '\t' => ['\\', 't']
  | _ =>
    if c.toNat < 32 then
      ['\\', 'u', '0', '0', Nat.digitChar (c.toNat / 16), Nat.digitChar (c.toNat % 16)]
    else [c]

/-- A text between quotation marks. -/
def quotedText (s : String) : List Char :=
  '"' :: (s.toList.flatMap escapedChar ++ ['"'])

/-! ## Values -/

mutual

/-- The text of a value. -/
def print : Json → List Char
  | .null => ['n', 'u', 'l', 'l']
  | .bool true => ['t', 'r', 'u', 'e']
  | .bool false => ['f', 'a', 'l', 's', 'e']
  | .number n => numberText n
  | .text s => quotedText s
  | .array [] => ['[', ']']
  | .array (item :: items) => '[' :: (print item ++ printItems items)
  | .object [] => ['\x7b', '\x7d']
  | .object ((name, value) :: members) =>
    '\x7b' :: (quotedText name ++ ':' :: (print value ++ printMembers members))

/-- The items after the first, with the closing bracket. -/
def printItems : List Json → List Char
  | [] => [']']
  | item :: items => ',' :: (print item ++ printItems items)

/-- The members after the first, with the closing brace. -/
def printMembers : List (String × Json) → List Char
  | [] => ['\x7d']
  | (name, value) :: members =>
    ',' :: (quotedText name ++ ':' :: (print value ++ printMembers members))

end

end WikibaseQuery.Json
