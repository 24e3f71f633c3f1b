import WikibaseQuery.Sparql.Term

/-!
# Writing IRIs

An IRI is written in full between angle brackets, or by a shorthand: a label that stands for the
beginning of the IRI, a colon, and the rest of it.  The rest must be a name that needs no escape.
Of several beginnings that fit the longest counts, and of equal ones the last; if the rest is no
name then, the IRI is written in full.
-/

namespace WikibaseQuery

/-- A label that stands for the beginning of IRIs. -/
structure Shorthand where
  label : String
  base : String
  deriving DecidableEq, Repr

/-! ## IRIs in full -/

/-- The characters that may not stand between angle brackets. -/
def isForbiddenInIri (c : Char) : Bool :=
  c ≤ ' ' || c = '\x7f' ||
    c ∈ ['<', '>', '"', '\x7b', '\x7d', '|', '^', '\x60', '\\']

/-- The character with its number in two hexadecimal digits. -/
def percentEscape (c : Char) : List Char :=
  ['%', (Nat.digitChar (c.toNat / 16)).toUpper, (Nat.digitChar (c.toNat % 16)).toUpper]

/-- The IRI without characters that may not stand between angle brackets. -/
def escapeIri (cs : List Char) : List Char :=
  cs.flatMap fun c => if isForbiddenInIri c then percentEscape c else [c]

/-- The IRI between angle brackets. -/
def bracketedIri (cs : List Char) : List Char := '<' :: (escapeIri cs ++ ['>'])

/-! ## Local names -/

/-- The characters that a local name may begin with. -/
def isNameStart (c : Char) : Bool := c.isAlphanum || c = '_'

/-- The characters that a local name may end with. -/
def isNameEnd (c : Char) : Bool := isNameStart c || c = '-'

/-- The characters inside a local name. -/
def isNameChar (c : Char) : Bool := isNameEnd c || c = '.'

/-- Whether the text may follow the colon of a shorthand; the empty one may. -/
def isLocalName : List Char → Bool
  | [] => true
  | c :: rest =>
    isNameStart c && rest.all isNameChar && (rest.getLast?.all isNameEnd)

/-! ## Choosing a shorthand -/

/-- Whether the shorthand fits the beginning of the IRI. -/
def Shorthand.fits (s : Shorthand) (cs : List Char) : Bool :=
  s.base ≠ "" && s.base.toList.isPrefixOf cs

/-- The longest shorthand that fits, the last one of equal length. -/
def longestFit (table : List Shorthand) (cs : List Char) : Option Shorthand :=
  table.foldl
    (fun best s =>
      if s.fits cs && best.all (fun b => b.base.length ≤ s.base.length) then some s else best)
    none

/-- The IRI as it is written with the shorthands of the table. -/
def writeIri (table : List Shorthand) (iri : Iri) : List Char :=
  let cs := iri.text.toList
  match longestFit table cs with
  | none => bracketedIri cs
  | some s =>
    let rest := cs.drop s.base.length
    if isLocalName rest then s.label.toList ++ ':' :: rest else bracketedIri cs

end WikibaseQuery
