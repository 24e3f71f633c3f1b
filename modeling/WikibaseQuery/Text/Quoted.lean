import WikibaseQuery.Text.Unprinted

/-!
# Quoted texts in messages

A message shows a text between double quotation marks, with escapes for the quotation mark, the
backslash and the usual controls, and with every other character that is not printed shown as
`\u` and its hexadecimal number in braces.
-/

namespace WikibaseQuery

/-- The escape `\u` with the number of the character in braces. -/
def numberEscape (c : Char) : List Char :=
  '\\' :: 'u' :: '\x7b' :: (Nat.toDigits 16 c.toNat ++ ['\x7d'])

/-- The character as it stands in a quoted text. -/
def quotedChar (c : Char) : List Char :=
  match c with
  | '\x00' => ['\\', '0']
  | '\t' => ['\\', 't']
  | '\r' => ['\\', 'r']
  | '\n' => ['\\', 'n']
  | '\\' => ['\\', '\\']
  | '"' => ['\\', '"']
  | _ => if isUnprinted c then numberEscape c else [c]

/-- The text between quotation marks. -/
def quoted (cs : List Char) : List Char :=
  '"' :: (cs.flatMap quotedChar ++ ['"'])

end WikibaseQuery
