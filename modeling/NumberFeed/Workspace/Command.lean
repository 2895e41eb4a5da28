import NumberFeed.Value.Comparison
import NumberFeed.Workspace.Copy

/-!
# Commands on a workspace

A command makes, changes, reads or compares items. Its arguments are looked up first, from left to
right; then the target has to have the operation, and only then is a setting made that the command
describes. The result of a command may be given a name; a command that fails names nothing.
-/

namespace NumberFeed

/-- A command. -/
inductive Command
  /-- Makes a timestamp function. -/
  | makeStamper (stamper : Stamper)
  /-- Calls a timestamp function. -/
  | callStamper (target value : Argument)
  /-- Makes a bounded input. -/
  | boundedInput (count : Argument)
  /-- Makes the unbounded input without limits. -/
  | unlimitedInput
  /-- Makes an unbounded input of its parts. -/
  | unboundedInput (stamper records time : Option Argument)
  /-- Makes the input that a configuration describes. -/
  | inputOf (configuration : Argument)
  /-- Changes the timestamp function of an input. -/
  | withStamper (target stamper : Argument)
  /-- Changes the greatest number of records of an input or a read. -/
  | withMaxRecords (target count : Argument)
  /-- Changes the greatest amount of time of an input or a read. -/
  | withMaxReadTime (target time : Argument)
  /-- Tries to set a field of an input. -/
  | assign (target value : Argument)
  /-- Makes the source of the numbers below a count. -/
  | sourceUpTo (count : Argument)
  /-- Makes the source of a range. -/
  | sourceRange (start stop : Argument)
  /-- Makes the unbounded source. -/
  | sourceUnbounded
  /-- Makes the unbounded source of a timestamp function. -/
  | sourceOfStamper (stamper : Argument)
  /-- Takes the timestamp function out of a source. -/
  | stamperOf (target : Argument)
  /-- Takes the source out of a read. -/
  | sourceOf (target : Argument)
  /-- Makes a read. -/
  | makeRead (bounded : Bool) (source : Argument)
  /-- Makes a pipeline, with a configuration or without. -/
  | pipeline (configuration : Option Argument)
  /-- Applies a transform. -/
  | apply (transform : Argument)
  /-- Collects a collection. -/
  | collect (target limit : Argument)
  /-- Opens a collection, a source or a read. -/
  | openReader (target : Argument) (valuesOnly : Bool)
  /-- Takes elements from a reader. -/
  | take (target : Argument) (count : Nat)
  /-- Replaces the readings of the monotonic clock. -/
  | setClock (clock : Readings Float)
  /-- Gives the argument back. -/
  | keep (value : Argument)
  /-- Makes an element. -/
  | timestamped (value : Argument) (timestamp : Option Argument)
  /-- Tells the literal of an item. -/
  | literal (target : Argument)
  /-- Tells the text of an item. -/
  | text (target : Argument)
  /-- Compares two items. -/
  | compare (a b : Argument)
  /-- Tells whether two items are one object. -/
  | same (a b : Argument)
  /-- Tells whether two items have one hash. -/
  | sameHash (a b : Argument)
  /-- Makes a configuration. -/
  | configuration (other data : Option Argument)
  /-- Sets a value in a configuration. -/
  | set (target : Argument) (setting : SettingArgument) (value : Argument)
  /-- Reads a value of a configuration. -/
  | get (target : Argument) (setting : SettingArgument)
  /-- Tells whether a configuration has a key. -/
  | hasKey (target key : Argument)
  /-- Copies a configuration. -/
  | copy (target : Argument)

/-- What a command that does not fail comes to. -/
inductive Result
  /-- An item. -/
  | item (item : Item)
  /-- A reader that has been opened, of which nothing is told. -/
  | opened (item : Item)
  /-- A comparison. -/
  | comparison (comparison : Comparison)
  /-- Elements, with or without their timestamps. -/
  | taken (elements : List Timestamped) (stop : Stop) (valuesOnly : Bool)
  /-- A value that could not be set in the target. -/
  | notSet (cause : Failure) (target : Item)

namespace Session

/-- The setting that a command describes, with the item of the value for an absent key. The key is
checked before that value is looked up. -/
def resolveSetting : SettingArgument → Session (Setting × Item)
  | .known setting => return (setting, ⟨← newMark, setting.fallback⟩)
  | .made key type fallback => do
    let key ← resolveValue key
    let _ ← lift (Setting.make key type .null)
    let fallback ← resolve fallback
    return (⟨key, type, fallback.value⟩, fallback)

/-- Calls the timestamp function in a cell. -/
def callStamper (cell : Nat) (value : Item) : Session Item := do
  let workspace ← get
  let mark ← newMark
  let stamper := workspace.stamperAt cell
  let (stamp, after, around) := stamper.callOn value.value mark workspace.around
  modify fun workspace =>
    { workspace with around, stampers := workspace.stampers.set cell after }
  let stamp ← lift stamp
  match stamper.formula? with
  | some ⟨.index, _, _⟩ => return value
  | _ => itemOf stamp

/-- Changes a limit of an input or a read. -/
def changeLimit (target : Item) (limit : Value)
    (ofInput : Value → UnboundedInput → Except Failure UnboundedInput)
    (ofRead : Value → Source → Except Failure Source) : Session Item := do
  let changed (mark : Nat) (inner : Value) : Session Item := do
    match ← lift (ofRead limit (Source.ofValue target.value)) with
    | .limited limits _ => makeItem (.limitedRead limits mark inner)
    | _ => throw .noSuchOperation
  match target.value with
  | .object _ (.unboundedInput stamper records time) =>
    let input : UnboundedInput :=
      { stamper := Stamper.ofValue stamper, maxRecords := records, maxReadTime := time }
    makeInput stamper (← lift (ofInput limit input))
  | .object _ (.read false mark inner) => changed mark inner
  | .object _ (.limitedRead _ mark inner) => changed mark inner
  | _ => throw .noSuchOperation

/-- The place of the configuration that an item is. -/
def asPlace (item : Item) : Session Nat :=
  match item.value with
  | .object _ (.configuration place _) => pure place
  | _ => throw .noSuchOperation

/-- The configuration that an item is. -/
def asConfiguration (item : Item) : Session Configuration :=
  return (← get).configurationAt (← asPlace item)

/-- A new input with a timestamp function of its own. -/
def makeInputOf : Input → Session Item
  | .bounded input => makeItem (.boundedInput input.count)
  | .unbounded input => do makeInput (← makeStamper input.stamper) input

/-- The input of a configuration, which must not be missing. A plain mapping has no settings. -/
def inputOf (item : Item) : Session Item :=
  match item.value with
  | .null => throw (.refused .configurationMissing)
  | .dict _ => makeInputOf (.unbounded .unlimited)
  | _ => do makeInputOf (← lift (Input.ofConfiguration (← asConfiguration item)))

/-- The source within a read: the very one the read was made of. -/
def sourceOf (item : Item) : Session Item :=
  match item.value with
  | .object _ (.read _ mark source) | .object _ (.limitedRead _ mark source) =>
    return ⟨mark, source⟩
  | _ => throw .noSuchOperation

/-- Applies an item. A read makes the elements of the collection itself, an input by way of a new
read. -/
def apply (item : Item) : Session Item := do
  let transform := Transform.ofValue item.value
  let collection ← within (Pipeline.apply transform)
  let producer ←
    match transform with
    | .source _ => pure item.value
    | _ => makeSource collection.producer
  makeItem (.collection collection.bounded producer)

/-- Opens an item for reading. -/
def openReader (item : Item) (valuesOnly : Bool) : Session Item := do
  match Collection.ofValue? item.value with
  | some collection => makeReader (← lift collection.open?) valuesOnly >>= itemOf
  | none =>
    match Source.ofValue item.value with
    | .foreign _ => throw .noSuchOperation
    | source => makeReader (← lift source.open?) false >>= itemOf

/-- Collects the values of a collection. -/
def collect (item : Item) (limit : Value) : Session Item := do
  match Collection.ofValue? item.value with
  | none => throw .noSuchOperation
  | some collection =>
    match ← within (Pipeline.collect collection limit) with
    | .reader _ => itemOf (.text "iterator")
    | .values values => itemOf (.list values)

/-- Takes elements from the reader in a cell. -/
def takeAt (cell : Nat) (act : Reader → Surroundings → Taken) : Session Taken := do
  let workspace ← get
  let taken := act (workspace.readers[cell]?.getD .ended) workspace.around
  let readers := workspace.readers.set cell taken.reader
  set { workspace with readers, around := taken.around }
  return taken

/-- Takes elements from an item, which has to be a reader unless none are wanted. -/
def take (item : Item) (count : Nat) : Session Result :=
  match item.value with
  | .object _ (.reader cell valuesOnly) => do
    let taken ← takeAt cell (Reader.take count)
    return .taken taken.elements taken.stop valuesOnly
  | _ => return .taken [] (if count = 0 then .paused else .failed .wrongType) false

/-- The elements of a reader as values. -/
def elementValues (valuesOnly : Bool) : List Timestamped → Session (List Value)
  | [] => return []
  | element :: rest => do
    let first ←
      if valuesOnly then pure element.value
      else make (.element element.value element.timestamp)
    let others ← elementValues valuesOnly rest
    return first :: others

/-- The members of a value that can be gone through. A reader is read to its end. -/
def members : Value → Session (List Value)
  | .list items | .tuple items => return items
  | .dict entries => return entries.map (·.1)
  | .text s => return s.toList.map fun c => .text (String.singleton c)
  | .bytes bs => return bs.map fun b => .int b.toNat
  | .object _ (.reader cell valuesOnly) => do
    let taken ← takeAt cell Reader.drain
    match taken.stop with
    | .failed cause => throw cause
    | _ => elementValues valuesOnly taken.elements
  | _ => throw .wrongType

/-- Entries with more put in, each as a pair of a key and a value. -/
def putPairs (before : Entries) : List Value → Session Entries
  | [] => return before
  | pair :: rest => do
    match ← members pair with
    | [key, value] =>
      lift key.checkHash
      putPairs (before.insert key value) rest
    | _ => throw .notAPair

/-- The entries that a value holds: a mapping, or whatever has pairs as its members. The elements of
a reader are no pairs, as the first one shows. -/
def asEntries : Value → Session Entries
  | .null => return []
  | .dict entries => return entries
  | .object _ (.reader cell _) => do
    let taken ← takeAt cell (Reader.take 1)
    match taken.stop with
    | .failed cause => throw cause
    | .ended => return []
    | .paused => throw .wrongType
  | value => members value >>= putPairs []

/-- Makes a configuration out of another one and data. -/
def configuration (other data : Value) : Session Item := do
  let place ←
    match other with
    | .null => pure none
    | .object _ (.configuration place _) => pure (some place)
    | _ => throw .noSuchOperation
  makeConfiguration place (← asEntries data) >>= itemOf

/-- Sets a value in a configuration. -/
def setValue (item : Item) (setting : SettingArgument) (value : Value) : Session Result := do
  let place ← asPlace item
  let (setting, _) ← resolveSetting setting
  let workspace ← get
  let shelf ← lift (workspace.shelf.set place setting value)
  set { workspace with shelf }
  return .item item

/-- Reads a value of a configuration; a plain mapping has no settings. -/
def getValue (item : Item) (setting : SettingArgument) : Session Item := do
  match item.value with
  | .dict _ =>
    let (setting, _) ← resolveSetting setting
    lift setting.key.checkHash
    itemOf .null
  | _ =>
    let configuration ← asConfiguration item
    let (setting, fallback) ← resolveSetting setting
    let value ← lift (configuration.get setting)
    if configuration.hasKey setting.key then itemOf value else return fallback

/-- Carries out a command. -/
def perform : Command → Session Result
  | .makeStamper stamper => .item <$> (makeStamper stamper >>= itemOf)
  | .callStamper target value => do
    let target ← resolve target
    let value ← resolve value
    match target.value with
    | .object _ (.stamper cell _) => .item <$> callStamper cell value
    | _ => throw .wrongType
  | .boundedInput count => do
    let input ← lift (BoundedInput.make (← resolveValue count))
    .item <$> makeInputOf (.bounded input)
  | .unlimitedInput => .item <$> makeInputOf (.unbounded .unlimited)
  | .unboundedInput stamper records time => do
    let stamper ← resolve? stamper
    let records ← resolveValue? records
    let time ← resolveValue? time
    let stamper ←
      match stamper with
      | some item => pure item.value
      | none => makeStamper .now
    .item <$>
      makeInput stamper (← lift (UnboundedInput.make (Stamper.ofValue stamper) records time))
  | .inputOf configuration => .item <$> (resolve configuration >>= inputOf)
  | .withStamper target stamper => do
    let target ← resolve target
    let stamper ← resolveValue stamper
    match UnboundedInput.ofValue? target.value with
    | none => throw .noSuchOperation
    | some input =>
      .item <$> makeInput stamper (← lift (input.withStamper (Stamper.ofValue stamper)))
  | .withMaxRecords target count => do
    let target ← resolve target
    let count ← resolveValue count
    .item <$> changeLimit target count UnboundedInput.withMaxRecords Source.withMaxRecords
  | .withMaxReadTime target time => do
    let target ← resolve target
    let time ← resolveValue time
    .item <$> changeLimit target time UnboundedInput.withMaxReadTime Source.withMaxReadTime
  | .assign target value => do
    let target ← resolve target
    let _ ← resolve value
    throw (if (Input.ofValue? target.value).isSome then .frozen else .noSuchOperation)
  | .sourceUpTo count => do
    let source ← lift (Source.upTo (← resolveValue count))
    .item <$> (makeSource source >>= itemOf)
  | .sourceRange start stop => do
    let start ← resolveValue start
    let stop ← resolveValue stop
    let source ← lift (Source.ofRange start stop)
    .item <$> (makeSource source >>= itemOf)
  | .sourceUnbounded => .item <$> (makeSource .unbounded >>= itemOf)
  | .sourceOfStamper stamper => do
    let stamper ← resolveValue stamper
    let _ ← lift (Source.ofStamper (Stamper.ofValue stamper))
    let kept ← copy true stamper
    .item <$> makeItem (.counting kept)
  | .stamperOf target => do
    match (← resolve target).value with
    | .object _ (.counting kept) => .item <$> (copy true kept >>= itemOf)
    | _ => throw .noSuchOperation
  | .sourceOf target => .item <$> (resolve target >>= sourceOf)
  | .makeRead bounded source => do
    let source ← resolve source
    let _ ← lift (Source.ofRead bounded (Source.ofValue source.value))
    .item <$> makeItem (.read bounded source.mark source.value)
  | .pipeline configuration => do
    let item ←
      match ← resolve? configuration with
      | none | some ⟨_, .null⟩ => makeConfiguration none [] >>= itemOf
      | some item => pure item
    modify fun workspace => { workspace with pipeline := item }
    return .item item
  | .apply transform => .item <$> (resolve transform >>= apply)
  | .collect target limit => do
    let target ← resolve target
    let limit ← resolveValue limit
    .item <$> collect target limit
  | .openReader target valuesOnly => do
    let target ← resolve target
    .opened <$> openReader target valuesOnly
  | .take target count => do
    let target ← resolve target
    take target count
  | .setClock clock => do
    modify fun workspace => { workspace with around := { workspace.around with clock } }
    .item <$> itemOf .null
  | .keep value => .item <$> resolve value
  | .timestamped value timestamp => do
    let value ← resolveValue value
    let timestamp ← resolveValue? timestamp
    .item <$> makeItem (.element value timestamp)
  | .literal target => do
    let literal ← lift (← resolveValue target).literal
    .item <$> itemOf (.text literal)
  | .text target => do
    let text ← lift (← resolveValue target).shown
    .item <$> itemOf (.text text)
  | .compare a b => do
    let a ← resolveValue a
    let b ← resolveValue b
    return .comparison (.ofValues a b)
  | .same a b => do
    let a ← resolve a
    let b ← resolve b
    .item <$> itemOf (.bool (a.isSame b))
  | .sameHash a b => do
    let a ← resolveValue a
    let b ← resolveValue b
    let same ← lift (a.sameHash b)
    .item <$> itemOf (.bool same)
  | .configuration other data => do
    let other ← resolveValue? other
    let data ← resolveValue? data
    .item <$> configuration other data
  | .set target setting value => do
    let target ← resolve target
    let value ← resolveValue value
    tryCatch (setValue target setting value) fun cause => return .notSet cause target
  | .get target setting => do
    let target ← resolve target
    .item <$> getValue target setting
  | .hasKey target key => do
    let target ← resolve target
    let key ← resolveValue key
    let configuration ← asConfiguration target
    lift key.checkHash
    .item <$> itemOf (.bool (configuration.hasKey key))
  | .copy target => .item <$> (resolve target >>= copyItem)

end Session

/-- What is told of a command. -/
inductive Answer
  /-- A value. -/
  | shown (value : Value)
  /-- A comparison. -/
  | compared (comparison : Comparison)
  /-- Elements, with or without their timestamps. -/
  | taken (elements : List Timestamped) (stop : Stop) (valuesOnly : Bool)
  /-- A failure, with the target that was left alone when something could not be set. -/
  | failed (cause : Failure) (target : Option Value)

/-- What is told of a command, and what was logged meanwhile. -/
structure Report where
  /-- The answer. -/
  answer : Answer
  /-- The log records, the first one first. -/
  records : List LogRecord

namespace Workspace

/-- Carries out a command, names its result and tells of it. -/
def perform (workspace : Workspace) (command : Command) (name : Option String) :
    Report × Workspace :=
  let start := { workspace with around := { workspace.around with log := [] } }
  let (result, after) := ((Session.perform command).run).run start
  let keep (item : Item) : Workspace := (name.map (after.name · item)).getD after
  let (answer, after) : Answer × Workspace :=
    match result with
    | .error cause => (.failed cause none, after)
    | .ok (.item item) => (.shown (after.refresh item.value), keep item)
    | .ok (.opened item) => (.shown .null, keep item)
    | .ok (.comparison comparison) => (.compared comparison, after)
    | .ok (.taken elements stop valuesOnly) => (.taken elements stop valuesOnly, after)
    | .ok (.notSet cause target) => (.failed cause (some (after.refresh target.value)), after)
  (⟨answer, after.around.log⟩, after)

/-- Carries out commands in order. -/
def performAll (workspace : Workspace) : List (Command × Option String) → List Report × Workspace
  | [] => ([], workspace)
  | (command, name) :: rest =>
    let (report, after) := workspace.perform command name
    let (reports, final) := after.performAll rest
    (report :: reports, final)

end Workspace

end NumberFeed
