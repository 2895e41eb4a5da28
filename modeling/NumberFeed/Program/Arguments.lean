import NumberFeed.Program.Counting

/-!
# The command line of the counting program

An option has a long name, of which any beginning that belongs to no other option will do, and takes
a value: after an equals sign, or as the next argument, unless that looks like an option itself. The
last value given counts, but every count has to be an integer. Arguments that mean nothing are
skipped.
-/

namespace NumberFeed.Arguments

/-- The options. -/
inductive CliOption
  | help
  | numElements
  | maxNumRecords
  | maxReadTime
  | timezone
  deriving DecidableEq, Repr

/-- The long name of an option. -/
def CliOption.longName : CliOption → String
  | help => "--help"
  | numElements => "--num-elements"
  | maxNumRecords => "--max-num-records"
  | maxReadTime => "--max-read-time"
  | timezone => "--timezone"

/-- All options. -/
def CliOption.all : List CliOption := [help, numElements, maxNumRecords, maxReadTime, timezone]

/-- Why the program stops before it counts. -/
inductive EarlyExit
  /-- The user asked for help. -/
  | helped
  /-- The arguments are wrong. -/
  | misused
  deriving DecidableEq, Repr

/-- The status with which the program exits then. -/
def EarlyExit.status : EarlyExit → Nat
  | helped => 0
  | misused => 2

/-- What an argument looks like. -/
inductive Argument
  /-- Something that can be the value of an option. -/
  | plain (text : String)
  /-- The two dashes after which nothing is an option. -/
  | separator
  /-- An option, with its value if that comes in the same argument. -/
  | option (option : CliOption) (value : Option String)
  /-- Something that looks like an option and is none. -/
  | unknown
  deriving DecidableEq, Repr

/-- The parts before and after the first equals sign; without one, there is no second part. -/
def splitValue (text : List Char) : List Char × Option String :=
  match text.dropWhile (· != '=') with
  | [] => (text, none)
  | _ :: value => (text.takeWhile (· != '='), some (String.ofList value))

/-- Whether a text is a minus sign before digits, among which a point may stand with at least one
digit after it. A line break may follow. -/
def isNegativeNumber : List Char → Bool
  | '-' :: rest =>
    let body := if rest.getLast? = some '\n' then rest.dropLast else rest
    let fraction := body.dropWhile Text.isDigit
    match fraction with
    | [] => !body.isEmpty
    | '.' :: digits => !digits.isEmpty && digits.all Text.isDigit
    | _ => false
  | _ => false

/-- The options that a name stands for: the one that has just this name, or else all that begin with
it. -/
def optionsNamed (name : List Char) : List CliOption :=
  let exact := CliOption.all.filter fun option => option.longName.toList = name
  if exact.isEmpty then CliOption.all.filter fun option => name.isPrefixOf option.longName.toList
  else exact

/-- An argument that begins with a dash and names no option. It can be a value if it is a negative
number or holds a blank. -/
def dashed (text : List Char) : Argument :=
  if isNegativeNumber text || text.contains ' ' then .plain (String.ofList text) else .unknown

/-- What an argument is that begins with a dash and an `h`: it asks for help, once or several times.
Anything else after the first `h` is a value, with or without an equals sign, that help does not
take. -/
def shortHelp (rest : List Char) : Argument :=
  match rest with
  | [] => .option .help none
  | '=' :: value | value =>
    let again := !value.isEmpty && value.all (· == 'h')
    .option .help (if again then none else some (String.ofList value))

/-- What an argument looks like; it must not stand for several options. -/
def classify (text : String) : Except EarlyExit Argument :=
  match text.toList with
  | '-' :: '-' :: rest =>
    let (name, value) := splitValue ('-' :: '-' :: rest)
    match optionsNamed name with
    | [] => .ok (dashed text.toList)
    | [option] => .ok (.option option value)
    | _ => .error .misused
  | '-' :: 'h' :: rest => .ok (shortHelp rest)
  | ['-'] => .ok (.plain text)
  | '-' :: _ => .ok (dashed text.toList)
  | _ => .ok (.plain text)

/-- What the arguments look like; after the separator all of them are plain. -/
def classifyAll : List String → Except EarlyExit (List Argument)
  | [] => .ok []
  | "--" :: rest => .ok (.separator :: rest.map .plain)
  | text :: rest => do
    let argument ← classify text
    let others ← classifyAll rest
    return argument :: others

/-- What parsers make of two dashes in the place of a value. -/
inductive Dashes
  /-- A text like all others. -/
  | text
  /-- Nothing: the separator is taken out, and the empty list is left. Parsers did so that looked for
  it among the values of an option. -/
  | separator
  deriving DecidableEq, Repr

/-- The value that stands in the place of one for an option. -/
def textValue : Dashes → String → Value
  | .separator, "--" => .list []
  | _, text => .text text

/-- The integer that the text of an option writes, or nothing. -/
def integerValue (dashes : Dashes) (text : String) : Except EarlyExit Value :=
  match textValue dashes text with
  | .text text =>
    match Number.read text with
    | .ok n => .ok (.int n)
    | .error _ => .error .misused
  | value => .ok value

/-- Puts the value of an option into a request. -/
def store (dashes : Dashes) (option : CliOption) (text : String) (request : Counting.Request) :
    Except EarlyExit Counting.Request :=
  match option with
  | .help => .error .misused
  | .numElements => (integerValue dashes text).map fun n => { request with elements := n }
  | .maxNumRecords => (integerValue dashes text).map fun n => { request with records := n }
  | .maxReadTime => .ok { request with time := textValue dashes text }
  | .timezone => .ok { request with zone := textValue dashes text }

/-- Puts the values of all options into a request, from left to right. -/
def gather (dashes : Dashes) :
    List Argument → Counting.Request → Except EarlyExit Counting.Request
  | [], request => .ok request
  | .option .help none :: _, _ => .error .helped
  | .option option (some value) :: rest, request =>
    store dashes option value request >>= gather dashes rest
  | .option option none :: .plain value :: rest, request =>
    store dashes option value request >>= gather dashes rest
  | .option _ none :: _, _ => .error .misused
  | _ :: rest, request => gather dashes rest request

/-- The request that the arguments make. -/
def parse (arguments : List String) (dashes : Dashes := .separator) :
    Except EarlyExit Counting.Request :=
  classifyAll arguments >>= fun arguments => gather dashes arguments .plain

/-- How the program ends. -/
inductive Ending
  /-- It exits with a status. -/
  | exited (status : Nat)
  /-- It fails. -/
  | failed (cause : Failure)
  deriving DecidableEq, Repr

/-- Runs the program with arguments. -/
def run (arguments : List String) (around : Surroundings) (dashes : Dashes := .separator) :
    Ending × Surroundings :=
  match parse arguments dashes with
  | .error early => (.exited early.status, around)
  | .ok request =>
    match Counting.run request around with
    | (.ok (), around) => (.exited 0, around)
    | (.error cause, around) => (.failed cause, around)

end NumberFeed.Arguments
