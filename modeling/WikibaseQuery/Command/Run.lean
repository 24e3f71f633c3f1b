import WikibaseQuery.Command.Options
import WikibaseQuery.Command.Report
import WikibaseQuery.Compile.Select
import WikibaseQuery.Query.Decode
import WikibaseQuery.Settings.Load
import WikibaseQuery.Sparql.Printer
import WikibaseQuery.Text.Erasure

/-!
# Running the command

A run compiles the query in one file, or each line of the input as a query of its own.  What it
reads is given by a `World`, what it writes is an `Outcome`.
-/

namespace WikibaseQuery

/-- What a run can read. -/
structure World where
  file : String → FileContent
  /-- The variables of the environment that are set. -/
  environment : String → Option String
  input : String

/-- What a run writes, and its exit code. -/
structure Outcome where
  exit : UInt32
  output : String
  errors : String
  deriving DecidableEq, Repr

/-! ## One query -/

/-- The SPARQL of a query in JSON. -/
def answerQuery (s : Settings) (declare : Bool) (text : String) : Except Failure String := do
  let query ← (Query.decode text).mapError fun e => ⟨"Invalid query representation", [e.message]⟩
  let select ← (query.compile s).mapError fun e => ⟨"Failed to compile query", [e.message]⟩
  return select.render s.namespaces.shorthands declare

/-- The settings of a run: those of the file if one is given, else those of the environment if they
are in order, else the defaults. -/
def runSettings (world : World) (config : Option String) : Except Failure Settings :=
  match config with
  | some path =>
    (Settings.ofFile path (world.file path)).mapError fun e =>
      ⟨"Failed to load config from " ++ path, e.message :: e.cause.toList⟩
  | none => .ok ((Settings.ofEnvironment world.environment).toOption.getD {})

/-- The SPARQL of the query in a file. -/
def answerFile (world : World) (s : Settings) (declare : Bool) (path : String) :
    Except Failure String := do
  let text ← (world.file path).text.mapError fun fault =>
    ⟨"Failed to read query from " ++ path, [fault.message]⟩
  answerQuery s declare text

/-! ## Many queries -/

/-- The line that invites queries. -/
def invitation : String := "Enter one JSON query representation per line, Ctrl-D to exit.\n"

/-- The answer to a line, after its erasures: what is written to the output and to the errors.
Blank lines have none. -/
def answerLine (s : Settings) (declare : Bool) (cs : List Char) : String × String :=
  match trim (erased cs) with
  | [] => ("", "")
  | query =>
    match answerQuery s declare (String.ofList query) with
    | .ok sparql => (sparql ++ "\n", "")
    | .error failure => ("", failure.brief)

/-- The answers to all lines. -/
def answerInput (s : Settings) (declare : Bool) (input : String) : Outcome :=
  let answers := (lines input.toList).map (answerLine s declare)
  ⟨0, invitation ++ String.join (answers.map Prod.fst), String.join (answers.map Prod.snd)⟩

/-! ## Runs -/

/-- A run with these options. -/
def runOptions (world : World) (o : Options) : Outcome :=
  match runSettings world o.config with
  | .error failure => ⟨1, "", failure.report⟩
  | .ok settings =>
    match o.query with
    | none => answerInput settings o.declare world.input
    | some path =>
      match answerFile world settings o.declare path with
      | .ok sparql => ⟨0, sparql, ""⟩
      | .error failure => ⟨1, "", failure.report⟩

/-- The options in short. -/
def usage : String :=
  "Usage: sparql_query_builder [-c FILE] [-q FILE] [--prefixes] [--log-level LEVEL]\n"

/-- A run with these arguments. -/
def runCommand (world : World) (args : List String) : Outcome :=
  match Request.read args with
  | none => ⟨2, "", usage⟩
  | some .version => ⟨0, "sparql_query_builder 0.1.0\n", ""⟩
  | some .help => ⟨0, usage, ""⟩
  | some (.run options) => runOptions world options

end WikibaseQuery
