import NumberFeed.Value.Text

/-!
# Equality of values

Numbers of all types are equal by their amount, points in time by their fields, containers and most
objects by what they hold, mappings whatever the order of their keys. Sources and reads, collections
and readers are equal only to themselves. A float that is not a number equals nothing; only within a
container it agrees with itself.

Sets and mappings find their members by hash, so that a member has to have one: lists and mappings
have none. Equal values have equal hashes, except that the hash of a configuration is made of the
texts of its values: `1` and `True` are equal, but tell configurations apart.
-/

namespace NumberFeed.Value

/-- Whether two values are numbers of one amount. -/
def sameAmount (a b : Value) : Bool :=
  match a.quantity?, b.quantity? with
  | some x, some y => x.compare? y == some .eq
  | _, _ => false

/-- The fields of a point in time as amounts: seconds and nanoseconds. -/
def timeFields? : Value → Option (Number.Quantity × Number.Quantity)
  | instant i => some (.ofInt i.seconds, .ofInt i.nanos)
  | moment m _ => some (.ofFloat m.seconds, .ofFloat m.nanos)
  | _ => none

/-- Whether two values are points in time with equal fields. -/
def sameTime (a b : Value) : Bool :=
  match a.timeFields?, b.timeFields? with
  | some (s, n), some (t, m) => s.compare? t == some .eq && n.compare? m == some .eq
  | _, _ => false

/-- Whether two values have texts, and the same. -/
def sameText (a b : Value) : Bool :=
  match a.shown, b.shown with
  | .ok s, .ok t => s == t
  | _, _ => false

mutual

/-- Whether two values are equal, or else whether they are equal and have one hash. -/
def equalAs (hashed : Bool) : Value → Value → Bool
  | null, null => true
  | text a, text b => a == b
  | bytes a, bytes b => a == b
  | list as, list bs => allAgree hashed as bs
  | tuple as, tuple bs => allAgree hashed as bs
  | dict as, dict bs => as.length == bs.length && allFound false as bs
  | duration a, duration b => a == b
  | span a, span b => a == b
  | instant a, instant b => a == b
  | object a form, object b other => (form.isUnique && a == b) || formsEqual hashed form other
  | a, b => sameAmount a b || sameTime a b
termination_by structural a => a

/-- Whether two objects that are not unique are equal, or else whether they also have one hash. -/
def formsEqual (hashed : Bool) : Form → Form → Bool
  | .stamper _ formula, .stamper _ other => formula == other
  | .element value timestamp, .element value' timestamp' =>
    equalAs hashed value value' && equalAs hashed timestamp timestamp'
  | .configuration _ entries, .configuration _ others =>
    entries.length == others.length && allFound hashed entries others
  | .boundedInput count, .boundedInput other => count == other
  | .unboundedInput stamper records time, .unboundedInput stamper' records' time' =>
    (isSameObject stamper stamper' || equalAs hashed stamper stamper') && records == records' &&
      (isSameObject time time' || equalAs hashed time time')
  | .range start stop, .range start' stop' => start == start' && stop == stop'
  | _, _ => false
termination_by structural form => form

/-- Whether two lists hold values that agree pairwise. -/
def allAgree (hashed : Bool) : List Value → List Value → Bool
  | [], [] => true
  | a :: as, b :: bs => (isSameObject a b || equalAs hashed a b) && allAgree hashed as bs
  | _, _ => false
termination_by structural as => as

/-- Whether each entry has one in the second list with the same key and an agreeing value, of the
same text if that is asked for. -/
def allFound (byText : Bool) : List (Value × Value) → List (Value × Value) → Bool
  | [], _ => true
  | (key, value) :: rest, entries =>
    entries.any (fun entry =>
      (isSameObject key entry.1 || equalAs true key entry.1) &&
        (isSameObject value entry.2 || equalAs false value entry.2) &&
        (!byText || sameText value entry.2)) && allFound byText rest entries
termination_by structural entries => entries

end

/-- Whether two values are equal. -/
def equal (a b : Value) : Bool := equalAs false a b

/-- Whether a container takes two values for the same: they are one object, or equal. -/
def agrees (a b : Value) : Bool := isSameObject a b || equal a b

/-- Whether a set or a mapping takes two values for the same: they are one object, or equal with
one hash. -/
def matchesKey (a b : Value) : Bool := isSameObject a b || equalAs true a b

mutual

/-- Fails for a value that has no hash. -/
def checkHash : Value → Except Failure Unit
  | list _ | dict _ => .error .wrongType
  | tuple items => checkHashes items
  | object _ form => checkFormHash form
  | _ => .ok ()

/-- Fails for an object that has no hash. -/
def checkFormHash : Form → Except Failure Unit
  | .element value timestamp => do
    checkHash value
    checkHash timestamp
  | .configuration _ entries => (textEntries entries).map fun _ => ()
  | .unboundedInput stamper _ time => do
    checkHash stamper
    checkHash time
  | _ => .ok ()

/-- Fails when some value has no hash. -/
def checkHashes : List Value → Except Failure Unit
  | [] => .ok ()
  | item :: items => do
    checkHash item
    checkHashes items

end

/-- Whether two values have one hash, for which both need to have any. That of a configuration is
made of the texts of its values, whatever their order. -/
def sameHash (a b : Value) : Except Failure Bool := do
  a.checkHash
  b.checkHash
  match a, b with
  | object _ (.configuration _ entries), object _ (.configuration _ others) =>
    let texts ← textEntries entries
    let otherTexts ← textEntries others
    return (dict texts).equal (dict otherTexts)
  | a, b => return a.matchesKey b

/-- The number of different members of a set of two values. -/
def setSize (a b : Value) : Except Failure Nat := do
  a.checkHash
  b.checkHash
  return if a.matchesKey b then 1 else 2

end NumberFeed.Value
