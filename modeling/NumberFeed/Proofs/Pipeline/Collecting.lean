import NumberFeed.Proofs.Reading.Prefix
import NumberFeed.Proofs.Reading.Private
import NumberFeed.Proofs.Workspace.Frame

/-!
# Collecting the elements of a collection

Collecting with a limit takes an exact prefix of what a full read yields. As long as there are as
many elements as the limit says, the read is paused after the last of them and never resumed: it
makes no element that is not among the values, looks at the clock once at its start and once for
each element if it is timed, and does not get as far as a record that tells why it has stopped
(`Pipeline.LimitLaw.within`). With a greater limit it is a full read, with all that a full read
leaves in its surroundings (`Pipeline.LimitLaw.beyond`). The number of records of a limited read is
where the two meet: a limit that is the same number gives the same values without the record
(`Pipeline.LimitLaw.told`).

Without a limit a collection is opened and not read (`Pipeline.LazyLaw`), and with a value that is
no limit it is not read either. `Pipeline.collect_law` is all of this for every collection, in all
surroundings.
-/

namespace NumberFeed

namespace Source

/-- Whether a source can be opened; a limited read shows only later that it has nothing to read. -/
def Opens : Source → Prop
  | range _ _ | counting _ | limited _ _ => True
  | read _ source => source.Opens
  | foreign _ => False

/-- A source that can be opened has a reader that is not broken, and no other source has. -/
theorem reader_of_opens (source : Source) :
    (source.Opens ∧ ∀ cause, source.reader ≠ .broken cause) ∨
      (¬ source.Opens ∧ source.reader = .broken .noSuchOperation) := by
  induction source with
  | range start stop => exact .inl ⟨trivial, fun _ => Reader.noConfusion⟩
  | counting stamper => exact .inl ⟨trivial, fun _ => Reader.noConfusion⟩
  | limited limits source => exact .inl ⟨trivial, fun _ => Reader.noConfusion⟩
  | read bounded source ih => exact ih
  | foreign value => exact .inr ⟨id, rfl⟩

/-- What a source opens as is its reader. -/
theorem open?_of_opens {source : Source} (h : source.Opens) :
    source.open? = .ok source.reader := by
  obtain ⟨-, hreader⟩ | ⟨hnot, -⟩ := source.reader_of_opens
  · unfold open?
    split
    · rename_i cause hbroken
      exact absurd hbroken (hreader cause)
    · rfl
  · exact absurd h hnot

/-- A source that cannot be opened lacks the operation. -/
theorem open?_of_not_opens {source : Source} (h : ¬ source.Opens) :
    source.open? = .error .noSuchOperation := by
  obtain ⟨hopens, -⟩ | ⟨-, hreader⟩ := source.reader_of_opens
  · exact absurd hopens h
  · rw [open?, hreader]

end Source

namespace Collection

/-- A full read of a collection. -/
def readAll (collection : Collection) (around : Surroundings) : Taken :=
  collection.producer.reader.drain around

/-- The number of elements that a full read yields. -/
def size (collection : Collection) (around : Surroundings) : Nat :=
  (collection.readAll around).elements.length

end Collection

namespace Session

/-- Opening a collection makes a reader that has not been started, and reads nothing. -/
theorem on_openReader {item : Item} {collection : Collection}
    (hitem : Collection.ofValue? item.value = some collection) (hopens : collection.producer.Opens)
    (valuesOnly : Bool) (workspace : Workspace) :
    (openReader item valuesOnly).on workspace =
      (.ok ⟨workspace.nextMark,
          .object workspace.nextMark (.reader workspace.readers.length valuesOnly)⟩,
        { workspace with
          readers := workspace.readers ++ [collection.producer.reader]
          nextMark := workspace.nextMark + 1 }) := by
  unfold openReader
  rw [hitem]
  simp only
  rw [on_bind, on_lift, Collection.open?, Source.open?_of_opens hopens]
  rfl

/-- Elements that are shown without their timestamps are their values. -/
theorem on_elementValues (elements : List Timestamped) (workspace : Workspace) :
    (elementValues true elements).on workspace = (.ok (elements.map (·.value)), workspace) := by
  induction elements with
  | nil => rfl
  | cons element rest ih =>
    show (elementValues true rest >>= fun others => pure (element.value :: others)).on workspace = _
    rw [on_bind_of_ok ih]
    rfl

/-- The members of a reader that shows values only are the values of all its elements. -/
theorem on_members_reader {workspace : Workspace} {cell mark : Nat} {reader : Reader}
    (hcell : workspace.readers[cell]? = some reader)
    (hended : (reader.drain workspace.around).stop = .ended) :
    ((members (.object mark (.reader cell true))).on workspace).1 =
      .ok ((reader.drain workspace.around).elements.map (·.value)) := by
  rw [members, on_bind, on_takeAt, hcell]
  simp only [Option.getD_some, hended]
  rw [on_elementValues]

end Session

namespace Pipeline

/-- What collecting with a limit comes to. -/
structure LimitLaw (collection : Collection) (around : Surroundings) (limit : Nat) : Prop where
  /-- A limit that is no greater than the number of elements gives the first values. The clock has
  been read once for each read time and element, and once more for each read time, the wall clock
  for each element that is stamped with it, and nothing else has changed but what shared functions
  remember. -/
  within : limit ≤ collection.size around →
    collect collection (.int limit) around =
      (.ok (.values (((collection.readAll around).elements.take limit).map (·.value))),
        around.after ⟨collection.producer.timers * (1 + limit),
          collection.producer.reader.ticks * limit, [],
          some (collection.producer.reader.take limit around).around.memory⟩)
  /-- If the stamper is no such function, that has not changed either. -/
  unremembered : collection.producer.reader.Private →
    (collect collection (.int limit) around).2.memory = around.memory
  /-- In particular, nothing is logged. -/
  unlogged : limit ≤ collection.size around →
    (collect collection (.int limit) around).2.log = around.log
  /-- The read is paused then and goes no further, and the bare source has been asked for just these
  elements, and has left the same to remember. -/
  made : limit ≤ collection.size around →
    let run := collection.producer.reader.take limit around
    (collect collection (.int limit) around).2 = run.around ∧ run.stop = .paused ∧
      run.reader.position = collection.producer.first + limit ∧
      collection.producer.reader.root.take limit around =
        ⟨(collection.readAll around).elements.take limit, .paused, run.reader.root,
          around.after ⟨0, collection.producer.reader.ticks * limit, [], some run.around.memory⟩⟩
  /-- A greater limit gives the values of a full read that ends, and leaves what it leaves. -/
  beyond : collection.size around < limit → (collection.readAll around).stop = .ended →
    collect collection (.int limit) around =
      (.ok (.values ((collection.readAll around).elements.map (·.value))),
        (collection.readAll around).around)
  /-- If the full read fails, collecting with a greater limit fails as well. -/
  failing : collection.size around < limit → ∀ cause,
    (collection.readAll around).stop = .failed cause →
    collect collection (.int limit) around = (.error cause, (collection.readAll around).around)
  /-- A limited read that has as many elements as its number of records tells so if the limit is
  greater. -/
  told : collection.size around < limit → ∀ limits source records message,
    collection.producer = .limited limits source → limits.records = some records →
    (collection.size around : Int) = records.value →
    Reader.recordsMessage source records = .ok message →
    (collect collection (.int limit) around).2.log = around.log ++ [⟨.info, .read, message⟩]

/-- What collecting without a limit comes to. -/
structure LazyLaw (collection : Collection) : Prop where
  /-- It gives the reader that reads the collection, not started yet, and leaves the surroundings
  alone. -/
  reader : ∀ around, collect collection .null around =
    (.ok (.reader collection.producer.reader), around)
  /-- In a session the reader gets a cell of its own, whether it will show the elements or only
  their values, and nothing is read. -/
  opened : ∀ item, Collection.ofValue? item.value = some collection →
    ∀ valuesOnly (workspace : Workspace), (Session.openReader item valuesOnly).on workspace =
      (.ok ⟨workspace.nextMark,
          .object workspace.nextMark (.reader workspace.readers.length valuesOnly)⟩,
        { workspace with
          readers := workspace.readers ++ [collection.producer.reader]
          nextMark := workspace.nextMark + 1 })
  /-- What the reader of values has as its members are the values of a full read. -/
  members : ∀ item, Collection.ofValue? item.value = some collection → ∀ workspace : Workspace,
    (collection.readAll workspace.around).stop = .ended →
    ((Session.openReader item true >>= fun reader => Session.members reader.value).on workspace).1 =
      .ok ((collection.readAll workspace.around).elements.map (·.value))

/-- What collecting comes to. -/
structure CollectLaw (collection : Collection) (around : Surroundings) : Prop where
  /-- A full read ends or fails. -/
  full : (collection.readAll around).stop ≠ .paused
  /-- A collection that can be opened is collected with every count that is not too large. -/
  limited : collection.producer.Opens → ∀ limit : Nat, 0 < limit → (limit : Int) ≤ greatestLimit →
    LimitLaw collection around limit
  /-- It is collected without a limit. -/
  unlimited : collection.producer.Opens → LazyLaw collection
  /-- Anything else that is no count is refused with its text, and leaves the surroundings alone. -/
  refused : collection.producer.Opens → ∀ limit : Value, limit ≠ .null →
    (∀ count : Count, limit ≠ .int count.value) →
    collect collection limit around =
      (limit.shown >>= fun shown => .error (.refused (.countNotPositive "limit" shown)), around)
  /-- A count that is too large is refused, and leaves the surroundings alone. -/
  tooLarge : collection.producer.Opens → ∀ count : Count, greatestLimit < count.value →
    collect collection (.int count.value) around = (.error .limitTooLarge, around)
  /-- A collection that cannot be opened is not collected, and leaves the surroundings alone. -/
  unopened : ¬ collection.producer.Opens → ∀ limit,
    collect collection limit around = (.error .noSuchOperation, around)

section Limits

variable {collection : Collection} {around : Surroundings} {limit : Nat}

/-- With a limit, collecting takes as many elements as the limit says. -/
theorem collect_limit (around : Surroundings) (hopens : collection.producer.Opens)
    (hpos : 0 < limit) (hgreatest : (limit : Int) ≤ greatestLimit) :
    let run := collection.producer.reader.take limit around
    ((∀ cause, run.stop ≠ .failed cause) → collect collection (.int limit) around =
        (.ok (.values (run.elements.map (·.value))), run.around)) ∧
      ∀ cause, run.stop = .failed cause →
        collect collection (.int limit) around = (.error cause, run.around) := by
  have hpositive : (0 : Int) < limit := by omega
  have hcount : Count.ofValue (.countNotPositive "limit") (.int limit) =
      .ok ⟨limit, hpositive⟩ := by
    have hfound : Count.ofValue? (.int limit) = some ⟨limit, hpositive⟩ :=
      Count.ofValue?_eq_some_iff.mpr rfl
    rw [Count.ofValue, hfound]
  have hfits : ¬ greatestLimit < (limit : Int) := by omega
  intro run
  unfold collect
  rw [Collection.open?, Source.open?_of_opens hopens]
  simp only [hcount, if_neg hfits, Int.toNat_natCast]
  refine ⟨fun hnot => ?_, fun cause hfailed => ?_⟩
  · split
    · rename_i cause hfailed
      exact absurd hfailed (hnot cause)
    · rfl
  · rw [hfailed]

/-- A run that a limit no greater than the number of elements asks for. -/
theorem run_within (h : limit ≤ collection.size around) :
    (collection.producer.reader.take limit around).stop = .paused ∧
      (collection.producer.reader.take limit around).elements =
        (collection.readAll around).elements.take limit :=
  Reader.take_of_le h

/-- The run that a greater limit asks for is a full read. -/
theorem run_beyond (h : collection.size around < limit) :
    collection.producer.reader.take limit around = collection.readAll around :=
  Reader.take_eq_drain h

/-- A limit that is no greater than the number of elements gives the values of a paused run. -/
theorem collect_within (hopens : collection.producer.Opens) (hpos : 0 < limit)
    (hgreatest : (limit : Int) ≤ greatestLimit) (h : limit ≤ collection.size around) :
    collect collection (.int limit) around =
      (.ok (.values (((collection.readAll around).elements.take limit).map (·.value))),
        (collection.producer.reader.take limit around).around) := by
  obtain ⟨hstop, helements⟩ := run_within h
  obtain ⟨hvalues, -⟩ := collect_limit around hopens hpos hgreatest
  rw [hvalues (by rw [hstop]; exact fun _ => Stop.noConfusion), helements]

/-- A greater limit gives the values of a full read that ends, and fails if the full read fails. -/
theorem collect_beyond (hopens : collection.producer.Opens) (hpos : 0 < limit)
    (hgreatest : (limit : Int) ≤ greatestLimit) (h : collection.size around < limit) :
    ((∀ cause, (collection.readAll around).stop ≠ .failed cause) →
      collect collection (.int limit) around =
        (.ok (.values ((collection.readAll around).elements.map (·.value))),
          (collection.readAll around).around)) ∧
      ∀ cause, (collection.readAll around).stop = .failed cause →
        collect collection (.int limit) around =
          (.error cause, (collection.readAll around).around) := by
  have hlimit := collect_limit around hopens hpos hgreatest
  rw [run_beyond h] at hlimit
  exact hlimit

/-- Whether it fails or not, collecting with a greater limit leaves what a full read leaves. -/
theorem around_collect_beyond (hopens : collection.producer.Opens) (hpos : 0 < limit)
    (hgreatest : (limit : Int) ≤ greatestLimit) (h : collection.size around < limit) :
    (collect collection (.int limit) around).2 = (collection.readAll around).around := by
  obtain ⟨hvalues, hfails⟩ := collect_beyond hopens hpos hgreatest h
  by_cases hfailed : ∃ cause, (collection.readAll around).stop = .failed cause
  · obtain ⟨cause, hcause⟩ := hfailed
    rw [hfails cause hcause]
  · rw [hvalues fun cause hcause => hfailed ⟨cause, hcause⟩]

/-- The log after a full read of a limited read that has as many elements as its number of
records. -/
theorem log_readAll_of_reached {limits : Limits} {source : Source} {records : Count}
    {message : String} (hproducer : collection.producer = .limited limits source)
    (hrecords : limits.records = some records)
    (hsize : (collection.size around : Int) = records.value)
    (hmessage : Reader.recordsMessage source records = .ok message) :
    (collection.readAll around).around.log = around.log ++ [⟨.info, .read, message⟩] := by
  have hpositive := records.positive
  have hle : records.value.toNat ≤ collection.size around := by omega
  have hreader : collection.producer.reader = .limited limits source .fresh source.reader := by
    rw [hproducer]
    rfl
  -- Nothing was logged before the last element.
  have hlast := Reader.around_take_reader (by omega) (run_within hle).1
  rw [Collection.readAll, Reader.around_drain_of_reached hrecords hreader hsize, hlast, hmessage]
  simp [Reader.stopWith_ok, Step.ended, Surroundings.write, Surroundings.after]

/-- Collecting with a limit is as the law says. -/
theorem limitLaw (hopens : collection.producer.Opens) (hpos : 0 < limit)
    (hgreatest : (limit : Int) ≤ greatestLimit) : LimitLaw collection around limit := by
  have hwithin (h : limit ≤ collection.size around) :=
    collect_within hopens hpos hgreatest h
  have haround (h : limit ≤ collection.size around) :=
    Reader.around_take_reader hpos (run_within h).1
  have hbeyond (h : collection.size around < limit) :=
    collect_beyond hopens hpos hgreatest h
  refine ⟨?_, ?_, ?_, ?_, ?_, fun h => (hbeyond h).2, ?_⟩
  · intro h
    rw [hwithin h, ← haround h]
  · -- Whether there are so many elements or not, it is a run of the reader that is collected.
    intro hprivate
    obtain ⟨hvalues, hfails⟩ := collect_limit around hopens hpos hgreatest
    have hkept := Reader.memory_take hprivate limit around
    rcases hstop : (collection.producer.reader.take limit around).stop with _ | _ | cause
    · rw [hvalues fun cause hfailed => Stop.noConfusion (hstop.symm.trans hfailed), hkept]
    · rw [hvalues fun cause hfailed => Stop.noConfusion (hstop.symm.trans hfailed), hkept]
    · rw [hfails cause hstop, hkept]
  · intro h
    rw [hwithin h, haround h]
    exact List.append_nil _
  · intro h
    obtain ⟨hstop, helements⟩ := run_within h
    have hposition := ((Reader.values_take limit collection.producer.reader around).2 hstop).2
    refine ⟨by rw [hwithin h], hstop, ?_, ?_⟩
    · rw [hposition, Reader.position_reader]
    · rw [Reader.root_take hstop rfl rfl rfl, helements]
  · intro h hended
    exact (hbeyond h).1 fun cause hfailed => Stop.noConfusion (hended.symm.trans hfailed)
  · intro h limits source records message hproducer hrecords hsize hmessage
    rw [around_collect_beyond hopens hpos hgreatest h]
    exact log_readAll_of_reached hproducer hrecords hsize hmessage

end Limits

/-- Collecting without a limit is as the law says. -/
theorem lazyLaw {collection : Collection} (hopens : collection.producer.Opens) :
    LazyLaw collection := by
  refine ⟨?_, fun item hitem => Session.on_openReader hitem hopens, ?_⟩
  · intro around
    rw [collect, Collection.open?, Source.open?_of_opens hopens]
  · intro item hitem workspace hended
    rw [Session.on_bind_of_ok (Session.on_openReader hitem hopens true workspace)]
    refine Session.on_members_reader ?_ hended
    exact List.getElem?_concat_length

/-- What is no count is refused with its text. -/
theorem collect_refused {collection : Collection} (hopens : collection.producer.Opens)
    {limit : Value} (hlimit : limit ≠ .null) (hnot : ∀ count : Count, limit ≠ .int count.value)
    (around : Surroundings) :
    collect collection limit around =
      (limit.shown >>= fun shown => .error (.refused (.countNotPositive "limit" shown)),
        around) := by
  have hcount : Count.ofValue? limit = none := by
    rcases h : Count.ofValue? limit with _ | count
    · rfl
    · exact absurd (Count.ofValue?_eq_some_iff.mp h) (hnot count)
  have hrefused : Count.ofValue (.countNotPositive "limit") limit =
      limit.shown >>= fun shown => .error (.refused (.countNotPositive "limit" shown)) := by
    rw [Count.ofValue, hcount]
  unfold collect
  rw [Collection.open?, Source.open?_of_opens hopens]
  dsimp only
  split
  · exact absurd rfl hlimit
  · rw [hrefused]
    rcases limit.shown with cause | shown
    · rfl
    · rfl

/-- A count that is too large is refused. -/
theorem collect_tooLarge {collection : Collection} (hopens : collection.producer.Opens)
    {count : Count} (hgreatest : greatestLimit < count.value) (around : Surroundings) :
    collect collection (.int count.value) around = (.error .limitTooLarge, around) := by
  have hcount : Count.ofValue (.countNotPositive "limit") (.int count.value) = .ok count := by
    rw [Count.ofValue, Count.ofValue?_eq_some_iff.mpr rfl]
  unfold collect
  rw [Collection.open?, Source.open?_of_opens hopens]
  simp only [hcount, if_pos hgreatest]

/-- Collecting is as the law says. -/
theorem collect_law (collection : Collection) (around : Surroundings) :
    CollectLaw collection around where
  full := Reader.stop_drain _ _
  limited hopens _ hpos hgreatest := limitLaw hopens hpos hgreatest
  unlimited := lazyLaw
  refused hopens _ hlimit hnot := collect_refused hopens hlimit hnot around
  tooLarge hopens _ hgreatest := collect_tooLarge hopens hgreatest around
  unopened hnot limit := by
    rw [collect, Collection.open?, Source.open?_of_not_opens hnot]

/-- With a limit equal to the number of records the read is not asked whether it has stopped, with a
greater one it is. -/
example (around : Surroundings) :
    let twoRecords : Collection := ⟨.limited ⟨some ⟨2, by decide⟩, none⟩ (.range 0 9), true⟩
    collect twoRecords (.int 2) around = (.ok (.values [.int 0, .int 1]), around) ∧
      collect twoRecords (.int 3) around = (.ok (.values [.int 0, .int 1]),
        around.write .info .read
          "Stopped reading BoundedCountingSource[0, 9) after max number of records 2") :=
  ⟨rfl, rfl⟩

end Pipeline

end NumberFeed
