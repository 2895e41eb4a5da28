/-!
# What can go wrong

An operation that does not succeed says why. A `Refusal` is an argument that the library itself does
not accept, with the wording in `Refusal.message`. A `Failure` is a refusal or one of the other
causes: an operand of a type the operation does not take, a number out of range, a clock or calendar
that cannot represent the result. `Failure.kind` sorts the causes into the few kinds that callers
tell apart.
-/

namespace NumberFeed

/-- Why an argument was refused. Values that appear in the message are kept as their text. -/
inductive Refusal
  /-- A precondition stated by the caller, with its message already put together. -/
  | stated (message : String)
  /-- An option was given a key that counts as empty. -/
  | emptyOptionKey
  /-- An integer option was given something that is no integer. -/
  | notAnInteger (shown : String)
  /-- There is no text to read a duration from. -/
  | durationMissing
  /-- The text does not have the form of a duration. -/
  | notADuration (text : String)
  /-- The unit of a duration is none of the known labels. -/
  | unknownUnit (label : String) (known : List String)
  /-- A count called `name` has to be a positive integer. -/
  | countNotPositive (name : String) (shown : String)
  /-- The greatest number of records has to be a positive integer. -/
  | recordsNotPositive (shown : String)
  /-- The first number of a range has to be a natural number. -/
  | startNegative (shown : String)
  /-- The end of a range has to be an integer that is not below its start. -/
  | endBeforeStart (shown start : String)
  /-- There is no timestamp function. -/
  | stamperMissing
  /-- The timestamp function cannot be called. -/
  | stamperNotCallable (shown : String)
  /-- There is no read time. -/
  | readTimeMissing
  /-- The read time is not a duration, but of the named type. -/
  | readTimeNotDuration (type : String)
  /-- There is no source to read. -/
  | sourceMissing
  /-- There is no configuration. -/
  | configurationMissing
  /-- The option `key` was given together with one of two others that exclude it. -/
  | conflictingOptions (key first second : String)
  deriving DecidableEq, Repr

/-- The wording of a refusal. -/
def Refusal.message : Refusal → String
  | .stated message => message
  | .emptyOptionKey => "The config option key must not be empty"
  | .notAnInteger shown => "Could not parse value '" ++ shown ++ "' as an integer"
  | .durationMissing => "Duration text cannot be None"
  | .notADuration text =>
    "Text '" ++ text ++ "' is not a valid duration, expected '<number><unit>'"
  | .unknownUnit label known =>
    "Time interval unit label '" ++ label ++ "' does not match any of the recognized units: " ++
      String.intercalate ", " known
  | .countNotPositive name shown => name ++ " (" ++ shown ++ ") must be greater than 0"
  | .recordsNotPositive shown =>
    "max_num_records must be a positive (nonzero) value. Got " ++ shown
  | .startNegative shown => "start (" ++ shown ++ ") must be greater than or equal to 0"
  | .endBeforeStart shown start =>
    "end (" ++ shown ++ ") must be greater than or equal to start (" ++ start ++ ")"
  | .stamperMissing => "timestamp_fn cannot be None"
  | .stamperNotCallable shown => "timestamp_fn must be callable, got " ++ shown
  | .readTimeMissing => "read_time cannot be None"
  | .readTimeNotDuration type => "read_time must be a Duration, got " ++ type
  | .sourceMissing => "source cannot be None"
  | .configurationMissing => "configuration cannot be None"
  | .conflictingOptions key first second =>
    "'" ++ key ++ "' cannot be combined with '" ++ first ++ "' or '" ++ second ++ "'"

/-- Why an operation did not succeed. -/
inductive Failure
  /-- The library refused an argument. -/
  | refused (reason : Refusal)
  /-- An operand has a type that the operation does not take. -/
  | wrongType
  /-- A number of more than 4300 decimal digits would have to be written or read as text. -/
  | tooManyDigits
  /-- A text that should be an integer is none. -/
  | malformedInteger
  /-- A float that is not a number has no integer value. -/
  | notANumber
  /-- A message template has a lone percent sign or an unknown placeholder. -/
  | malformedTemplate
  /-- The seconds of an instant lie outside the years 1 to 9999. -/
  | outsideCalendar
  /-- The seconds of an instant lie in a year that no clock of this machine can show. -/
  | outsideClock
  /-- A member of the data for a mapping is no pair of a key and a value. -/
  | notAPair
  /-- Bytes that should be a name have one that is no character of ASCII. -/
  | notAscii
  /-- The limit of a collect does not fit a machine word. -/
  | limitTooLarge
  /-- A result is too large for its type. -/
  | tooLarge
  /-- The object has no such operation. -/
  | noSuchOperation
  /-- No object of this name has been stored. -/
  | unboundName (name : String)
  /-- The timestamp function gave up. -/
  | stamperFailed
  /-- The fields of the object cannot be set. -/
  | frozen
  /-- There is no time zone of this name. -/
  | unknownZone
  deriving DecidableEq, Repr

/-- The kinds of failure that callers tell apart. -/
inductive Failure.Kind
  | illegalArgument
  | type
  | value
  | overflow
  | attribute
  | key
  | arithmetic
  | frozen
  | timeZone
  | decoding
  | system
  deriving DecidableEq, Repr

/-- The kind of a failure. -/
def Failure.kind : Failure → Failure.Kind
  | .refused _ => .illegalArgument
  | .wrongType => .type
  | .tooManyDigits | .malformedInteger | .notANumber | .malformedTemplate | .outsideCalendar
  | .limitTooLarge | .notAPair => .value
  | .tooLarge => .overflow
  | .noSuchOperation => .attribute
  | .unboundName _ => .key
  | .stamperFailed => .arithmetic
  | .frozen => .frozen
  | .unknownZone => .timeZone
  | .notAscii => .decoding
  | .outsideClock => .system

/-- The message of a failure: only refusals carry one. -/
def Failure.message? : Failure → Option String
  | .refused reason => some reason.message
  | _ => none

end NumberFeed
