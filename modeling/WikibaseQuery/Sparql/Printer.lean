import WikibaseQuery.Sparql.Pattern
import WikibaseQuery.Sparql.Shorthand
import WikibaseQuery.Text.Blank

/-!
# Printing queries

`SelectQuery.print` writes a query with one pattern to a line, indented by two spaces for each level
of braces.  The patterns of an existence test are written on the line of their filter.  IRIs are
shortened by a table of shorthands, which `declarations` writes out before the query.
-/

namespace WikibaseQuery

/-! ## Terms and paths -/

/-- A character of a literal, escaped where it could end the literal or its line. -/
def escapedLiteralChar (c : Char) : List Char :=
  match c with
  | '\\' => ['\\', '\\']
  | '"' => ['\\', '"']
  | '\n' => ['\\', 'n']
  | '\r' => ['\\', 'r']
  | '\t' => ['\\', 't']
  | _ => [c]

/-- The content of a literal between quotation marks. -/
def escapeLiteral (cs : List Char) : List Char := cs.flatMap escapedLiteralChar

namespace Variable

def print (v : Variable) : List Char := '?' :: v.name.toList

end Variable

def Literal.print (table : List Shorthand) (l : Literal) : List Char :=
  '"' :: (escapeLiteral l.text.toList ++ '"' ::
    match l.datatype with
    | none => []
    | some datatype => '^' :: '^' :: writeIri table datatype)

def Term.print (table : List Shorthand) : Term → List Char
  | .var v => v.print
  | .iri i => writeIri table i
  | .blank label => '_' :: ':' :: label.toList
  | .literal l => l.print table

mutual

/-- A path; all but a single IRI stands in parentheses. -/
def Path.print (table : List Shorthand) : Path → List Char
  | .iri i => writeIri table i
  | .compound operator items =>
    match operator with
    | .sequence | .alternative => '(' :: (join [operator.symbol] (printPaths table items) ++ [')'])
    | .inverse => '(' :: operator.symbol :: (join [] (printPaths table items) ++ [')'])
    | .zeroOrMore | .oneOrMore | .zeroOrOne =>
      '(' :: (join [] (printPaths table items) ++ [operator.symbol, ')'])

def printPaths (table : List Shorthand) : List Path → List (List Char)
  | [] => []
  | path :: paths => path.print table :: printPaths table paths

end

def Triple.print (table : List Shorthand) (t : Triple) : List Char :=
  t.subject.print table ++ ' ' :: (t.predicate.print table ++ ' ' :: (t.object.print table ++ ['.']))

/-! ## Patterns -/

/-- The indentation of a level. -/
def indent (depth : Nat) : List Char := List.replicate (2 * depth) ' '

/-- An indented line. -/
def line (depth : Nat) (cs : List Char) : List Char := indent depth ++ (cs ++ ['\n'])

/-- An indented line that opens a brace after `keyword`, the body, and the closing brace. -/
def block (depth : Nat) (keyword : String) (body : List Char) : List Char :=
  line depth (keyword.toList ++ ['\x7b']) ++ (body ++ line depth ['\x7d'])

/-- The first line of a query, up to its brace. -/
def selectKeyword (distinct : Bool) (projection : List Variable) : String :=
  "SELECT " ++ (if distinct then "DISTINCT " else "") ++
    String.ofList (join [' '] (projection.map Variable.print)) ++ " WHERE "

/-- The line with the limit, if there is one. -/
def limitLine (depth : Nat) : Option UInt64 → List Char
  | none => []
  | some limit => line depth ("LIMIT ".toList ++ Nat.toDigits 10 limit.toNat)

/-- The lines of a text as one, trimmed and separated by single spaces. -/
def onOneLine (cs : List Char) : List Char := join [' '] ((lines cs).map trim)

mutual

/-- An expression; an operation inside another one stands in parentheses. -/
def Expression.print (table : List Shorthand) (nested : Bool) : Expression → List Char
  | .term t => t.print table
  | .binary operator left right =>
    let operation := left.print table true ++
      ' ' :: (operator.symbol.toList ++ ' ' :: right.print table true)
    if nested then '(' :: (operation ++ [')']) else operation
  | .existence negated patterns =>
    (if negated then "NOT EXISTS ".toList else "EXISTS ".toList) ++
      '\x7b' :: ' ' :: (onOneLine (printPatterns table 0 patterns) ++ [' ', '\x7d'])

/-- The lines of a pattern. -/
def Pattern.print (table : List Shorthand) (depth : Nat) : Pattern → List Char
  | .triples triples => triples.flatMap fun t => line depth (t.print table)
  | .bind target value =>
    line depth ("BIND(".toList ++ value.print table false ++ " AS ".toList ++ target.print ++ [')'])
  | .filter condition => line depth ("FILTER(".toList ++ condition.print table false ++ [')'])
  | .union arms => printArms table depth true arms
  | .minus patterns => block depth "MINUS " (printPatterns table (depth + 1) patterns)
  | .group patterns => block depth "" (printPatterns table (depth + 1) patterns)
  | .service endpoint silent patterns =>
    block depth
      ((if silent then "SERVICE SILENT " else "SERVICE ") ++
        String.ofList (writeIri table endpoint) ++ " ")
      (printPatterns table (depth + 1) patterns)
  | .subquery distinct projection patterns limit =>
    block depth (selectKeyword distinct projection) (printPatterns table (depth + 1) patterns) ++
      limitLine depth limit

/-- The lines of patterns one after another. -/
def printPatterns (table : List Shorthand) (depth : Nat) : List Pattern → List Char
  | [] => []
  | pattern :: patterns => pattern.print table depth ++ printPatterns table depth patterns

/-- The arms of a union, each in braces, with `UNION` between them. -/
def printArms (table : List Shorthand) (depth : Nat) (first : Bool) : List Pattern → List Char
  | [] => []
  | arm :: arms =>
    (if first then [] else line depth "UNION".toList) ++
      ((match arm with
        | .group patterns => block depth "" (printPatterns table (depth + 1) patterns)
        | arm => block depth "" (arm.print table (depth + 1))) ++
        printArms table depth false arms)

end

/-! ## Queries -/

/-- The lines that declare the shorthands. -/
def declarations (table : List Shorthand) : List Char :=
  table.flatMap fun s =>
    line 0 ("PREFIX ".toList ++ s.label.toList ++ ": ".toList ++ bracketedIri s.base.toList)

namespace SelectQuery

/-- The text of a query, after the declarations of the shorthands where they are asked for. -/
def print (table : List Shorthand) (declare : Bool) (q : SelectQuery) : List Char :=
  (if declare then declarations table else []) ++ q.toPattern.print table 0

/-- The text of a query as a string. -/
def render (table : List Shorthand) (declare : Bool) (q : SelectQuery) : String :=
  String.ofList (q.print table declare)

end SelectQuery

end WikibaseQuery
