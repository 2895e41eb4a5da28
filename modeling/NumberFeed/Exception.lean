import NumberFeed.Value

/-!
# Exceptions of the library

An exception carries the message it was made with, which should be a text but need not be. Its own
text is that message and nothing else.
-/

namespace NumberFeed

/-- An exception as the library makes it. -/
structure Exception where
  /-- Whether it reports an illegal argument; then it counts as a bad value. -/
  illegalArgument : Bool
  /-- What it was made with. -/
  message : Value

/-- The text of an exception, which has to have been made with one. -/
def Exception.text (exception : Exception) : Except Failure String :=
  match exception.message with
  | .text s => .ok s
  | _ => .error .wrongType

end NumberFeed
