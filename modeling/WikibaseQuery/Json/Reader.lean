import WikibaseQuery.Json.Document

/-!
# Reading documents

`Document.read` reads the document at the front of a text and gives what follows it.  After a break
nothing follows.  The recursion carries fuel; `Document.read` gives it more than a text of its
length can use, since every third step takes a character.
-/

namespace WikibaseQuery

/-- The blank characters of JSON text. -/
def isJsonBlank (c : Char) : Bool := c = ' ' || c = '\n' || c = '\t' || c = '\r'

/-- The text without leading blanks. -/
def dropBlanks (cs : List Char) : List Char := cs.dropWhile isJsonBlank

/-- What follows a word at the front of a text. -/
def readWord : List Char → List Char → Except Problem (List Char)
  | [], cs => .ok cs
  | _ :: _, [] => .error .endInValue
  | w :: word, c :: cs => if w = c then readWord word cs else .error .expectedWord

/-- The rest of a word whose first letter has been read, standing for `value`. -/
def wordDocument (opening : Opening) (word : List Char) (value : Document) (cs : List Char) :
    Document × List Char :=
  match readWord word cs with
  | .ok rest => (value, rest)
  | .error problem => (.broken ⟨opening, problem, problem⟩, [])

/-- A quoted text whose opening mark has been read. -/
def textDocument (cs : List Char) : Except Broken (Except Problem String × List Char) :=
  match readPieces cs with
  | (pieces, .ok rest) => .ok (textOfPieces none pieces, rest)
  | (pieces, .error problem) =>
    match textOfPieces (some problem) pieces with
    | .error first => .error ⟨.text, first, problem⟩
    | .ok _ => .error ⟨.text, problem, problem⟩

/-- A number at the front of a text. -/
def numberDocument (cs : List Char) : Document × List Char :=
  match Numeral.read cs with
  | .ok (numeral, rest) => (.number numeral, rest)
  | .error fault =>
    (.broken ⟨.number, if fault.atEnd then .endInValue else .invalidNumber, .invalidNumber⟩, [])

/-- A place where no value begins. -/
def noValue (problem : Problem) : Document × List Char :=
  (.broken ⟨.none, problem, problem⟩, [])

mutual

/-- The document at the front of a text. -/
def readDocument : Nat → List Char → Document × List Char
  | 0, _ => noValue .endInValue
  | fuel + 1, cs =>
    match dropBlanks cs with
    | [] => noValue .endInValue
    | 'n' :: rest => wordDocument .nullWord ['u', 'l', 'l'] .null rest
    | 't' :: rest => wordDocument .flagWord ['r', 'u', 'e'] (.bool true) rest
    | 'f' :: rest => wordDocument .flagWord ['a', 'l', 's', 'e'] (.bool false) rest
    | '"' :: rest =>
      match textDocument rest with
      | .ok (content, rest) => (.text content, rest)
      | .error fault => (.broken fault, [])
    | '[' :: rest => let (items, rest) := readItems fuel true rest; (.array items, rest)
    | '\x7b' :: rest => let (members, rest) := readMembers fuel true rest; (.object members, rest)
    | c :: rest =>
      if c = '-' ∨ c.isDigit then numberDocument (c :: rest) else noValue .expectedValue

/-- The items of an array, after the opening bracket or (where not `first`) after an item. -/
def readItems : Nat → Bool → List Char → Items × List Char
  | 0, _, _ => (.stopped .ended, [])
  | fuel + 1, first, cs =>
    match dropBlanks cs with
    | [] => (.stopped .ended, [])
    | ']' :: rest => (.closed, rest)
    | c :: rest =>
      if first then readItem fuel (c :: rest)
      else if c = ',' then
        match dropBlanks rest with
        | [] => (.stopped .commaEnded, [])
        | ']' :: _ => (.stopped .commaClosed, [])
        | rest => readItem fuel rest
      else (.stopped .unseparated, [])

/-- An item and those after it. -/
def readItem : Nat → List Char → Items × List Char
  | 0, _ => (.stopped .ended, [])
  | fuel + 1, cs =>
    let (value, rest) := readDocument fuel cs
    let (others, rest) := readItems fuel false rest
    (.item value others, rest)

/-- The members of an object, after the opening brace or (where not `first`) after a member. -/
def readMembers : Nat → Bool → List Char → Members × List Char
  | 0, _, _ => (.stopped .ended, [])
  | fuel + 1, first, cs =>
    match dropBlanks cs with
    | [] => (.stopped .ended, [])
    | '\x7d' :: rest => (.closed, rest)
    | c :: rest =>
      if first then readMember fuel (c :: rest)
      else if c = ',' then
        match dropBlanks rest with
        | [] => (.stopped .commaEnded, [])
        | '\x7d' :: _ => (.stopped .commaClosed, [])
        | rest => readMember fuel rest
      else (.stopped .unseparated, [])

/-- A member and those after it. -/
def readMember : Nat → List Char → Members × List Char
  | 0, _ => (.stopped .ended, [])
  | fuel + 1, cs =>
    match cs with
    | '"' :: rest =>
      match textDocument rest with
      | .error fault => (.brokenKey fault, [])
      | .ok (name, rest) =>
        match dropBlanks rest with
        | ':' :: rest =>
          let (value, rest) := readDocument fuel rest
          let (others, rest) := readMembers fuel false rest
          (.member name value others, rest)
        | [] => (.member name (noValue .endInObject).1 .closed, [])
        | _ => (.member name (noValue .expectedColon).1 .closed, [])
    | _ => (.oddKey, [])

end

/-- The document at the front of a text, with what follows it. -/
def Document.read (cs : List Char) : Document × List Char :=
  readDocument (3 * cs.length + 3) cs

end WikibaseQuery
