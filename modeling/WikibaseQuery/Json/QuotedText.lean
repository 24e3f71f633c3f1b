import WikibaseQuery.Json.Problem
import WikibaseQuery.Text.Bytes

/-!
# Quoted texts

A quoted text is read in two steps.  `readPieces` cuts it into characters and numbered escapes and
needs only the rules that any quoted text keeps; `textOfPieces` puts the pieces together and refuses
halves of surrogate pairs.  A text that is skipped is only read, one that is taken is put together
as well.
-/

namespace WikibaseQuery

/-- A piece of a quoted text. -/
inductive Piece where
  /-- A character, as it stands or by a one-letter escape. -/
  | char (c : Char)
  /-- A 16-bit code unit given by its number. -/
  | unit (n : Nat)
  deriving DecidableEq, Repr

/-! ## Cutting -/

/-- The value of a hexadecimal digit. -/
def hexDigit? (c : Char) : Option Nat :=
  if '0' ≤ c ∧ c ≤ '9' then some (c.toNat - 48)
  else if 'a' ≤ c ∧ c ≤ 'f' then some (c.toNat - 87)
  else if 'A' ≤ c ∧ c ≤ 'F' then some (c.toNat - 55)
  else none

/-- Four hexadecimal digits. -/
def hexQuad? (a b c d : Char) : Option Nat := do
  return ((← hexDigit? a) * 16 + (← hexDigit? b)) * 256 + ((← hexDigit? c) * 16 + (← hexDigit? d))

/-- The character that a one-letter escape stands for. -/
def letterEscape? : Char → Option Char
  | '"' => some '"'
  | '\\' => some '\\'
  | '/' => some '/'
  | 'b' => some '\x08'
  | 'f' => some '\x0c'
  | 'n' => some '\n'
  | 'r' => some '\r'
  | 't' => some '\t'
  | _ => none

/-- What is wrong where no four hexadecimal digits follow `\u`: the text is over where fewer than
four bytes are left. -/
def quadProblem (cs : List Char) : Problem :=
  if utf8Length (cs.take 4) < 4 then .endInString else .invalidEscape

/-- The pieces up to the closing quotation mark, with what follows it, or the problem met first. -/
def readPieces : List Char → List Piece × Except Problem (List Char)
  | [] => ([], .error .endInString)
  | '"' :: rest => ([], .ok rest)
  | ['\\'] => ([], .error .endInString)
  | '\\' :: 'u' :: a :: b :: c :: d :: rest =>
    match hexQuad? a b c d with
    | some n => let (pieces, stop) := readPieces rest; (.unit n :: pieces, stop)
    | none => ([], .error (quadProblem (a :: b :: c :: d :: rest)))
  | '\\' :: c :: rest =>
    match letterEscape? c with
    | some e => let (pieces, stop) := readPieces rest; (.char e :: pieces, stop)
    | none => ([], .error (if c = 'u' then quadProblem rest else .invalidEscape))
  | c :: rest =>
    if c.toNat < 32 then ([], .error .controlCharacter)
    else let (pieces, stop) := readPieces rest; (.char c :: pieces, stop)

/-! ## Putting together -/

/-- The first half of a surrogate pair. -/
def isLeadingHalf (n : Nat) : Bool := 0xD800 ≤ n && n ≤ 0xDBFF

/-- The second half of a surrogate pair. -/
def isTrailingHalf (n : Nat) : Bool := 0xDC00 ≤ n && n ≤ 0xDFFF

/-- The character that two halves encode. -/
def pairChar (leading trailing : Nat) : Char :=
  Char.ofNat (0x10000 + (leading - 0xD800) * 0x400 + (trailing - 0xDC00))

/-- The characters of the pieces; the first half of a pair needs its second half right after it.
`stop` is the problem that ended the reading, if there was one. -/
def charsOfPieces (stop : Option Problem) : List Piece → Except Problem (List Char)
  | [] => match stop with
    | none => .ok []
    | some problem => .error problem
  | .char c :: rest => (c :: ·) <$> charsOfPieces stop rest
  | .unit n :: rest =>
    if isTrailingHalf n then .error .loneSurrogate
    else if isLeadingHalf n then
      match rest with
      | .unit m :: rest =>
        if isTrailingHalf m then (pairChar n m :: ·) <$> charsOfPieces stop rest
        else .error .loneSurrogate
      | .char _ :: _ => .error .loneSurrogate
      | [] => .error (stop.getD .loneSurrogate)
    else (Char.ofNat n :: ·) <$> charsOfPieces stop rest

/-- The text of the pieces. -/
def textOfPieces (stop : Option Problem) (pieces : List Piece) : Except Problem String :=
  String.ofList <$> charsOfPieces stop pieces

end WikibaseQuery
