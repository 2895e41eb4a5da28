import NumberFeed.Exception
import NumberFeed.Template

/-!
# Preconditions

A check lets a value through or refuses it with a message of the caller's. The message is put
together only when it is needed: without arguments it is taken as it is, with arguments it is a
template. A template in bytes makes a message in bytes, and then the refusal has no text.
-/

namespace NumberFeed.Check

/-- The message for a refusal, made of what the caller gave. -/
def message (template : Value) (args : List Value) : Except Failure Value :=
  match template, args with
  | .null, _ => .ok (.text "Illegal argument")
  | template, [] => template.shown.map .text
  | .text template, args => (Template.format template args).map .text
  | .bytes template, args => (Template.formatBytes template args).map .bytes
  | _, _ => .error .wrongType

/-- The exception that a refusal raises. -/
def exception (template : Value) (args : List Value) : Except Failure Exception :=
  (message template args).map fun message => { illegalArgument := true, message }

/-- Refuses with the text of the exception; what keeps that from being told is the failure. -/
def refuse {α : Type} (template : Value) (args : List Value) : Except Failure α := do
  let raised ← exception template args
  let text ← raised.text
  .error (.refused (.stated text))

/-- Lets a condition through that counts as true. -/
def argument (condition template : Value) (args : List Value) : Except Failure Unit :=
  if condition.isTrue then .ok () else refuse template args

/-- Lets a value through that is not absent. -/
def notNull (value template : Value) (args : List Value) : Except Failure Value :=
  if value.isNull then refuse template args else .ok value

end NumberFeed.Check
