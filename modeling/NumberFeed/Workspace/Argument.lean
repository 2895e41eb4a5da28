import NumberFeed.Config.Setting
import NumberFeed.Value.Entries

/-!
# Arguments

An argument is written with values, with names that stand for them, and with lists, tuples and
mappings of arguments. `eval` makes its value, given what the names stand for: from left to right,
and each key of a mapping needs a hash.
-/

namespace NumberFeed

/-- An argument. -/
inductive Argument
  /-- A value as it is. -/
  | literal (value : Value)
  /-- A calendar span of days, seconds and microseconds. -/
  | span (days seconds micros : Int)
  /-- What a name stands for. -/
  | named (name : String)
  | list (items : List Argument)
  | tuple (items : List Argument)
  | dict (entries : List (Argument × Argument))

namespace Argument

mutual

/-- The value of an argument. -/
def eval (find : String → Except Failure Value) : Argument → Except Failure Value
  | literal value => .ok value
  | span days seconds micros =>
    let span := Span.ofParts days seconds micros
    if span.InRange then .ok (.span span) else .error .tooLarge
  | named name => find name
  | list items => (evalAll find items).map .list
  | tuple items => (evalAll find items).map .tuple
  | dict entries => (evalEntries find [] entries).map .dict

/-- The values of arguments in order. -/
def evalAll (find : String → Except Failure Value) : List Argument → Except Failure (List Value)
  | [] => .ok []
  | item :: rest => do
    let value ← eval find item
    let others ← evalAll find rest
    return value :: others

/-- The entries of a mapping, put into the ones that are there already. -/
def evalEntries (find : String → Except Failure Value) (before : Entries) :
    List (Argument × Argument) → Except Failure Entries
  | [] => .ok before
  | (key, item) :: rest => do
    let key ← eval find key
    let value ← eval find item
    key.checkHash
    evalEntries find (before.insert key value) rest

end

/-- The value of an argument in which no name stands for anything. -/
def value (argument : Argument) : Except Failure Value :=
  argument.eval fun name => .error (.unboundName name)

end Argument

/-- A setting as it is written. -/
inductive SettingArgument
  /-- A setting that is known already. -/
  | known (setting : Setting)
  /-- A setting made of a key, a type and the value for an absent key. -/
  | made (key : Argument) (type : SettingType) (fallback : Argument)

/-- The setting that is written without names. The key is checked before the value for an absent key
is made. -/
def SettingArgument.setting : SettingArgument → Except Failure Setting
  | known setting => .ok setting
  | made key type fallback => do
    let key ← key.value
    let _ ← Setting.make key type .null
    let fallback ← fallback.value
    Setting.make key type fallback

end NumberFeed
