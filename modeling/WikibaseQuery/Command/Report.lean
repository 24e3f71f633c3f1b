import WikibaseQuery.Text.Blank

/-!
# Reports of failures

A failure says what was attempted and has a chain of causes.  It is reported on several lines, with
the causes indented and, if there are several, numbered; or on one line.
-/

namespace WikibaseQuery

/-- A failed attempt with its chain of causes. -/
structure Failure where
  attempt : String
  causes : List String
  deriving DecidableEq, Repr

/-- The text with its lines after the first indented. -/
def continued (indentation : List Char) (text : String) : List Char :=
  text.toList.flatMap fun c => if c = '\n' then c :: indentation else [c]

/-- A cause on lines of its own. -/
def causeText (number : Option Nat) (cause : String) : List Char :=
  match number with
  | none => ' ' :: ' ' :: ' ' :: ' ' :: continued "    ".toList cause
  | some n =>
    let digits := Nat.toDigits 10 n
    List.replicate (5 - digits.length) ' ' ++ digits ++ ':' :: ' ' ::
      continued "       ".toList cause

/-- The causes on lines of their own, numbered from `n` on. -/
def numberedCauses (n : Nat) : List String → List (List Char)
  | [] => []
  | cause :: causes => causeText (some n) cause :: numberedCauses (n + 1) causes

namespace Failure

/-- The report on several lines. -/
def report (f : Failure) : String :=
  let causes := match f.causes with
    | [] => []
    | [cause] => [[], "Caused by:".toList, causeText none cause]
    | causes => [] :: "Caused by:".toList :: numberedCauses 0 causes
  String.ofList (join ['\n'] (("Error: " ++ f.attempt).toList :: causes) ++ ['\n'])

/-- The report on one line. -/
def brief (f : Failure) : String :=
  "Error: " ++ String.intercalate ": " (f.attempt :: f.causes) ++ "\n"

end Failure

end WikibaseQuery
