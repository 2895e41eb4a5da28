import NumberFeed.Workspace.Basic

/-!
# Copies of values

A copy holds copies of all objects within the value, which from then on change on their own. There
are two depths: a copy in full, such as a source keeps of its timestamp function, and a copy in
which a configuration keeps its values, and a value that cannot change stays the one it is. A reader
cannot be copied, and neither can a rule that cannot be written down.
-/

namespace NumberFeed.Session

mutual

/-- A copy of a value. -/
def copy (inFull : Bool) : Value → Session Value
  | .nan mark => if inFull then Value.nan <$> newMark else return .nan mark
  | .moment m _ => Value.moment m <$> newMark
  | .list items => Value.list <$> copyAll inFull items
  | .tuple items => Value.tuple <$> copyAll inFull items
  | .dict entries => Value.dict <$> copyEntries inFull entries
  | .object _ form => copyForm inFull form
  | value => return value

/-- A new object of a form whose parts are copies. -/
def copyForm (inFull : Bool) : Form → Session Value
  | .stamper _ none => makeStamper .now
  | .stamper _ (some formula) => do
    let kept ← lift (Stamper.ofFormula formula).kept
    makeStamper kept
  | .element value timestamp => do
    let value ← copy inFull value
    let timestamp ← copy inFull timestamp
    make (.element value timestamp)
  | .configuration place entries =>
    if inFull then do
      let entries ← copyEntries inFull entries
      makeConfiguration none entries
    else makeConfiguration (some place) []
  | .unboundedInput stamper records time => do
    let stamper ← copy inFull stamper
    let time ← copy inFull time
    make (.unboundedInput stamper records time)
  | .read bounded _ source => do
    let item ← copy inFull source >>= itemOf
    make (.read bounded item.mark item.value)
  | .limitedRead limits _ source => do
    let item ← copy inFull source >>= itemOf
    make (.limitedRead limits item.mark item.value)
  | .collection bounded producer => do
    let producer ← copy inFull producer
    make (.collection bounded producer)
  | .reader _ _ => throw .wrongType
  | form => make form

/-- Copies of values in order. -/
def copyAll (inFull : Bool) : List Value → Session (List Value)
  | [] => return []
  | value :: rest => do
    let first ← copy inFull value
    let others ← copyAll inFull rest
    return first :: others

/-- Copies of entries in order. -/
def copyEntries (inFull : Bool) : List (Value × Value) → Session (List (Value × Value))
  | [] => return []
  | (key, value) :: rest => do
    let key ← copy inFull key
    let value ← copy inFull value
    let others ← copyEntries inFull rest
    return (key, value) :: others

end

mutual

/-- Whether a value cannot change, and so is its own copy. -/
def isFixed : Value → Bool
  | .null | .bool _ | .int _ | .float _ | .nan _ | .text _ | .bytes _ => true
  | .tuple items => areFixed items
  | _ => false

/-- Whether all values are their own copies. -/
def areFixed : List Value → Bool
  | [] => true
  | value :: rest => isFixed value && areFixed rest

end

/-- A copy of an item that leaves the values of configurations where they are. -/
def copyItem (item : Item) : Session Item :=
  if isFixed item.value then return item else copy false item.value >>= itemOf

end NumberFeed.Session
