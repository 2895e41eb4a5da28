import NumberFeed.Template
import NumberFeed.Value.Equality

/-!
# Settings

A setting names a key of a configuration, the type of its value and the value that holds when the
key is absent. Raw values are converted to the type; a value that has the type already stays what it
is. The value for an absent key is never converted.
-/

namespace NumberFeed

/-- The type of a setting's value. -/
inductive SettingType
  | integer
  | duration
  deriving DecidableEq, Repr

/-- A typed setting. -/
structure Setting where
  /-- The key. -/
  key : Value
  /-- The type. -/
  type : SettingType
  /-- The value when the key is absent. -/
  fallback : Value

namespace Setting

/-- A setting with a key that does not count as empty. -/
def make (key : Value) (type : SettingType) (fallback : Value) : Except Failure Setting :=
  if key.isTrue then .ok { key, type, fallback } else .error (.refused .emptyOptionKey)

/-- The text of a value as the only argument of a message; a tuple gives its members, of which there
has to be just one. -/
def soleText : Value → Except Failure String
  | .tuple [item] => item.shown
  | .tuple _ => .error .wrongType
  | value => value.shown

/-- Converts to an integer. Truth values and floats are no integers, though they could be made
such. -/
def toInteger (value : Value) : Except Failure Int :=
  let converted :=
    match value with
    | .bool _ | .float _ | .nan _ => none
    | value => value.toInt.toOption
  match converted with
  | some n => .ok n
  | none => soleText value >>= fun shown => .error (.refused (.notAnInteger shown))

/-- Converts to a duration: by way of its text, unless it is one. -/
def toDuration : Value → Except Failure Duration
  | .duration d => .ok d
  | value => value.shown >>= Duration.ofText

/-- Converts a raw value to the type of the setting. -/
def convert (setting : Setting) (value : Value) : Except Failure Value :=
  match setting.type with
  | .integer => (toInteger value).map Value.int
  | .duration => (toDuration value).map Value.duration

/-- Whether two settings have equal keys and equal values for an absent one. -/
def equal (a b : Setting) : Bool := a.key.equal b.key && a.fallback.equal b.fallback

/-- The number of different members of a set of two settings. The hash of a setting is that of its
key. -/
def setSize (a b : Setting) : Except Failure Nat := do
  a.key.checkHash
  b.key.checkHash
  return if a.equal b && a.key.matchesKey b.key then 1 else 2

/-- The text of a setting. -/
def text (setting : Setting) : Except Failure String := do
  let key ← setting.key.shown
  let fallback ← setting.fallback.shown
  return "ConfigOption<key=" ++ key ++ ", default=" ++ fallback ++ ">"

/-- An integer stays what it is. -/
@[simp] theorem toInteger_int (n : Int) : toInteger (.int n) = .ok n := rfl

/-- A duration stays what it is. -/
@[simp] theorem toDuration_duration (d : Duration) : toDuration (.duration d) = .ok d := rfl

end Setting

end NumberFeed
