/-!
# Options of the command

The arguments are read from the front.  The first one that is wrong ends the reading, and so does a
call for the version or for help, so that what stands after it does not matter.

An option with a value is written `--name value`, `--name=value`, `-n value`, `-nvalue` or
`-n=value`; a value that stands apart may not begin with `-`, unless it is just that.  No option may
be given twice, and there are no arguments but options.
-/

namespace WikibaseQuery

/-- How much is written to the log. -/
inductive LogLevel where
  | error
  | warn
  | info
  | debug
  | trace
  deriving DecidableEq, Repr

/-- A level by its name in any case, or by its number from 1 to 5. -/
def LogLevel.ofText? (text : String) : Option LogLevel :=
  let levels := [error, warn, info, debug, trace]
  let digits := match text.toList with
    | '+' :: digits => digits
    | digits => digits
  if digits ≠ [] ∧ digits.all Char.isDigit then
    match Nat.ofDigitChars 10 digits 0 with
    | 0 => none
    | n + 1 => levels[n]?
  else
    [("error", error), ("warn", warn), ("info", info), ("debug", debug), ("trace", trace)].lookup
      (String.ofList (text.toList.map Char.toLower))

/-- The options of a run. -/
structure Options where
  /-- The file with the settings. -/
  config : Option String := none
  /-- The file with the query. -/
  query : Option String := none
  /-- Whether the shorthands are declared before a query. -/
  declare : Bool := false
  logLevel : Option LogLevel := none
  deriving DecidableEq, Repr

/-- What the arguments ask for. -/
inductive Request where
  | run (options : Options)
  | version
  | help
  deriving DecidableEq, Repr

/-- The options that have a value. -/
inductive ValueOption where
  | config
  | query
  | logLevel
  deriving DecidableEq, Repr

namespace Options

/-- A path, if the option has none yet; it may not be empty. -/
def path? (old : Option String) (value : String) : Option (Option String) :=
  if old.isSome ∨ value = "" then none else some (some value)

/-- The options with one more value, if it is in order. -/
def set? (o : Options) (option : ValueOption) (value : String) : Option Options :=
  match option with
  | .config => (path? o.config value).map fun config => { o with config }
  | .query => (path? o.query value).map fun query => { o with query }
  | .logLevel =>
    if o.logLevel.isSome then none
    else (LogLevel.ofText? value).map fun level => { o with logLevel := some level }

/-- The options with the declaration of shorthands asked for. -/
def declare? (o : Options) : Option Options :=
  if o.declare then none else some { o with declare := true }

end Options

/-! ## Arguments -/

/-- What one argument says. -/
inductive Argument where
  | version
  | help
  | declare
  /-- An option whose value is the next argument. -/
  | pending (option : ValueOption)
  | value (option : ValueOption) (value : String)
  /-- Two dashes: only other arguments may follow. -/
  | endOfOptions
  | wrong
  deriving DecidableEq, Repr

namespace Argument

/-- An option with the text that is attached to it. -/
def withValue (option : ValueOption) : Option (List Char) → Argument
  | none => pending option
  | some text => value option (String.ofList text)

/-- An option by its long name. -/
def ofLong (cs : List Char) : Argument :=
  let name := String.ofList (cs.takeWhile (· ≠ '='))
  let attached := match cs.dropWhile (· ≠ '=') with
    | [] => none
    | _ :: text => some text
  match name, attached with
  | "config", attached => withValue .config attached
  | "query", attached => withValue .query attached
  | "log-level", attached => withValue .logLevel attached
  | "prefixes", none => declare
  | "version", none => version
  | "help", none => help
  | _, _ => wrong

/-- An option by its letter, and the text right after it. -/
def ofShort (letter : Char) (text : List Char) : Argument :=
  let attached := match text with
    | [] => none
    | '=' :: text => some text
    | text => some text
  match letter with
  | 'c' => withValue .config attached
  | 'q' => withValue .query attached
  | 'V' => version
  | 'h' => help
  | _ => wrong

/-- What an argument says. -/
def ofText (text : String) : Argument :=
  match text.toList with
  | ['-', '-'] => endOfOptions
  | '-' :: '-' :: name => ofLong name
  | '-' :: letter :: text => ofShort letter text
  | _ => wrong

end Argument

/-- Whether an argument may be the value of the option before it. -/
def isSeparateValue (text : String) : Bool :=
  match text.toList with
  | '-' :: _ :: _ => false
  | _ => true

namespace Request

/-- Read the arguments; `option` is the one whose value comes next. -/
def readFrom (o : Options) (option : Option ValueOption) : List String → Option Request
  | [] => if option.isSome then none else some (.run o)
  | text :: rest =>
    match option with
    | some option =>
      if isSeparateValue text then
        match o.set? option text with
        | some o => readFrom o none rest
        | none => none
      else none
    | none =>
      match Argument.ofText text with
      | .version => some .version
      | .help => some .help
      | .declare => match o.declare? with
        | some o => readFrom o none rest
        | none => none
      | .pending option => readFrom o (some option) rest
      | .value option value => match o.set? option value with
        | some o => readFrom o none rest
        | none => none
      | .endOfOptions => if rest = [] then some (.run o) else none
      | .wrong => none

/-- What the arguments ask for, if they are in order. -/
def read (args : List String) : Option Request := readFrom {} none args

/-- The files that the request names. -/
def paths : Request → List String
  | run options => options.config.toList ++ options.query.toList
  | version | help => []

/-- Whether the request reads queries from the input. -/
def readsInput : Request → Bool
  | run options => options.query.isNone
  | version | help => false

end Request

end WikibaseQuery
