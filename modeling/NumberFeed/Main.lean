import NumberFeed.Program.Arguments

/-!
# The counting program as a command

Reads the real clock before each element and prints the log as it grows. All decisions are those of
`NumberFeed.Arguments` and `NumberFeed.Counting`.
-/

namespace NumberFeed.Main

/-- The surroundings at this moment: the monotonic clock stands still at its present reading. The
program takes no timestamp from the wall clock, which stays at the epoch. -/
def surroundings : IO Surroundings := do
  let nanos ← IO.monoNanosNow
  return {
    clock := ⟨fun _ => nanos.toFloat / 1000000000, 0⟩
    wall := ⟨fun _ => 0, 0⟩
    largest := Surroundings.usualLargest
    verbose := false
    log := []
    forgiving := true
    zones := Zone.known }

/-- Prints what has been logged. -/
def printLog (around : Surroundings) : IO Unit :=
  around.log.forM fun record => IO.println record.message

/-- Reports a failure. -/
def report (cause : Failure) : IO UInt32 := do
  IO.eprintln (cause.message?.getD "The program could not go on.")
  return 1

/-- How to call the program. -/
def usage : String :=
  "usage: counting [-h] [--num-elements N] [--max-num-records N] [--max-read-time TIME] " ++
    "[--timezone ZONE]"

/-- Tells how to call the program and stops. -/
def stopEarly (early : Arguments.EarlyExit) : IO UInt32 := do
  match early with
  | .helped => IO.println usage
  | .misused => IO.eprintln usage
  return early.status.toUInt32

/-- Reads and prints the elements to the end. -/
partial def follow (zone : Value) (reader : Reader) : IO UInt32 := do
  let (progress, around) := Counting.advance zone reader (← surroundings)
  printLog around
  match progress with
  | .going reader => follow zone reader
  | .finished => return 0
  | .failed cause => report cause

end NumberFeed.Main

/-- Runs the program with the arguments of the command line. -/
def main (arguments : List String) : IO UInt32 := do
  match NumberFeed.Arguments.parse arguments .text with
  | .error early => NumberFeed.Main.stopEarly early
  | .ok request =>
    let (started, around) := NumberFeed.Counting.start request (← NumberFeed.Main.surroundings)
    NumberFeed.Main.printLog around
    match started with
    | .error cause => NumberFeed.Main.report cause
    | .ok reader => NumberFeed.Main.follow request.zone reader
