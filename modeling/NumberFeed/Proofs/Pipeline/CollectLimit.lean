import NumberFeed.Proofs.Pipeline.Collecting
import NumberFeed.Proofs.Value.CountDecision

/-!
# What a limit of a collect comes to

A limit is checked before anything is read: it has to be a count, and is refused with its text if it
is not one. The check lets every positive integer through, but the elements are counted in a machine
word, which holds no number greater than `greatestLimit`. A limit beyond that passes the check and
fails nevertheless, and not as an illegal argument. `Pipeline.limit_decided` goes through all values
that may be given as a limit: where a full read ends, this is the only one that fails although it
has passed, and nothing is read then.
-/

namespace NumberFeed.Pipeline

variable {collection : Collection} {around : Surroundings}

/-- How a collect is decided by its limit. -/
structure LimitDecided (collection : Collection) (around : Surroundings) : Prop where
  /-- Without a limit there is the reader of the collection, and nothing is read. -/
  unlimited : collect collection .null around = (.ok (.reader collection.producer.reader), around)
  /-- A count that is not too large gives as many of the values as it says. -/
  listed : ∀ count : Count, count.value ≤ greatestLimit →
    (collect collection (.int count.value) around).1 =
      .ok (.values (((collection.readAll around).elements.take count.value.toNat).map (·.value)))
  /-- A greater one passes the check and fails afterwards; nothing is read. -/
  tooLarge : ∀ count : Count, greatestLimit < count.value →
    Count.ofValue (.countNotPositive "limit") (.int count.value) = .ok count ∧
      collect collection (.int count.value) around = (.error .limitTooLarge, around)
  /-- Every other value is refused with its text; nothing is read. -/
  refused : ∀ limit : Value, limit ≠ .null → ¬ Count.Is limit → limit.Tellable →
    ∃ shown, limit.shown = .ok shown ∧
      collect collection limit around =
        (.error (.refused (.countNotPositive "limit" shown)), around)
  /-- If it has no text, because a number in it is too long, this is the failure. -/
  untold : ∀ limit : Value, limit ≠ .null → ¬ Count.Is limit → ¬ limit.Tellable →
    collect collection limit around = (.error .tooManyDigits, around)
  /-- So a list of values is what the counts give that are not too large, and only they. -/
  values_iff : ∀ limit : Value,
    (∃ values, (collect collection limit around).1 = .ok (.values values)) ↔
      ∃ count : Count, limit = .int count.value ∧ count.value ≤ greatestLimit
  /-- And a limit that is absent or a count fails just when it is too large. -/
  failing_iff : ∀ limit : Value, limit = .null ∨ Count.Is limit → ∀ cause,
    (collect collection limit around).1 = .error cause ↔
      cause = .limitTooLarge ∧ ∃ count : Count, limit = .int count.value ∧
        greatestLimit < count.value

/-- A collection whose full read ends can be opened. -/
theorem opens_of_ended (hended : (collection.readAll around).stop = .ended) :
    collection.producer.Opens := by
  obtain ⟨hopens, -⟩ | ⟨-, hbroken⟩ := collection.producer.reader_of_opens
  · exact hopens
  · -- A reader that is broken fails in its first step.
    have hfailed : (collection.readAll around).stop = .failed .noSuchOperation := by
      unfold Collection.readAll
      rw [hbroken]
      rfl
    rw [hended] at hfailed
    cases hfailed

/-- With a count that is not too large, a collection whose full read ends gives the first of its
values, or all of them if there are no more. -/
theorem collect_count (hended : (collection.readAll around).stop = .ended) (count : Count)
    (hgreatest : count.value ≤ greatestLimit) :
    (collect collection (.int count.value) around).1 =
      .ok (.values (((collection.readAll around).elements.take count.value.toNat).map
        (·.value))) := by
  have hopens := opens_of_ended hended
  have hvalue : ((count.value.toNat : Nat) : Int) = count.value :=
    Int.toNat_of_nonneg (Int.le_of_lt count.positive)
  generalize count.value.toNat = limit at hvalue ⊢
  have hpos : 0 < limit := by
    have hpositive := count.positive
    omega
  rw [← hvalue] at hgreatest ⊢
  -- The read stops at the limit, or it comes to its end, which is no failure.
  by_cases hsize : limit ≤ collection.size around
  · rw [collect_within hopens hpos hgreatest hsize]
  · have hbeyond : collection.size around < limit := Nat.lt_of_not_le hsize
    have hnot : ∀ cause, (collection.readAll around).stop ≠ .failed cause := by
      intro cause hfailed
      rw [hended] at hfailed
      cases hfailed
    have hall : (collection.readAll around).elements.take limit =
        (collection.readAll around).elements :=
      List.take_of_length_le (Nat.le_of_lt hbeyond)
    rw [(collect_beyond hopens hpos hgreatest hbeyond).1 hnot, hall]

/-- A limit that is neither absent nor a count is refused with its text, or its text is the
failure. -/
theorem collect_other (hopens : collection.producer.Opens) {limit : Value} (hnull : limit ≠ .null)
    (hnot : ¬ Count.Is limit) :
    (limit.Tellable → ∃ shown, limit.shown = .ok shown ∧
        collect collection limit around =
          (.error (.refused (.countNotPositive "limit" shown)), around)) ∧
      (¬ limit.Tellable → collect collection limit around = (.error .tooManyDigits, around)) := by
  have hrefused := collect_refused hopens hnull (not_exists.mp hnot) around
  constructor
  · intro htellable
    obtain ⟨shown, hshown⟩ := Value.tellable_iff.mp htellable
    refine ⟨shown, hshown, ?_⟩
    rw [hrefused, hshown]
    rfl
  · intro hlong
    rw [hrefused, Value.shown_of_not_tellable hlong]
    rfl

/-- There is a list of values for the counts that are not too large, and for nothing else. -/
theorem exists_values_iff (hended : (collection.readAll around).stop = .ended) {limit : Value} :
    (∃ values, (collect collection limit around).1 = .ok (.values values)) ↔
      ∃ count : Count, limit = .int count.value ∧ count.value ≤ greatestLimit := by
  have hopens := opens_of_ended hended
  constructor
  · rintro ⟨values, hvalues⟩
    by_cases hnull : limit = .null
    · rw [hnull, (lazyLaw hopens).reader around] at hvalues
      cases hvalues
    by_cases hcount : Count.Is limit
    · obtain ⟨count, rfl⟩ := hcount
      refine ⟨count, rfl, Int.not_lt.mp fun hgreatest => ?_⟩
      rw [collect_tooLarge hopens hgreatest around] at hvalues
      cases hvalues
    · obtain ⟨hrefused, huntold⟩ := collect_other hopens hnull hcount
      by_cases htellable : limit.Tellable
      · obtain ⟨shown, -, heq⟩ := hrefused htellable
        rw [heq] at hvalues
        cases hvalues
      · rw [huntold htellable] at hvalues
        cases hvalues
  · rintro ⟨count, rfl, hgreatest⟩
    exact ⟨_, collect_count hended count hgreatest⟩

/-- A limit that passes the check fails just when it is too large. -/
theorem passed_fails_iff (hended : (collection.readAll around).stop = .ended) {limit : Value}
    (hpassed : limit = .null ∨ Count.Is limit) {cause : Failure} :
    (collect collection limit around).1 = .error cause ↔
      cause = .limitTooLarge ∧ ∃ count : Count, limit = .int count.value ∧
        greatestLimit < count.value := by
  have hopens := opens_of_ended hended
  constructor
  · intro hcause
    obtain rfl | ⟨count, rfl⟩ := hpassed
    · rw [(lazyLaw hopens).reader around] at hcause
      cases hcause
    · by_cases hgreatest : greatestLimit < count.value
      · rw [collect_tooLarge hopens hgreatest around] at hcause
        exact ⟨(Except.error.inj hcause).symm, count, rfl, hgreatest⟩
      · rw [collect_count hended count (Int.not_lt.mp hgreatest)] at hcause
        cases hcause
  · rintro ⟨rfl, count, rfl, hgreatest⟩
    rw [collect_tooLarge hopens hgreatest around]

/-- A collection whose full read ends is collected as its limit decides. -/
theorem limit_decided (hended : (collection.readAll around).stop = .ended) :
    LimitDecided collection around := by
  have hopens := opens_of_ended hended
  exact {
    unlimited := (lazyLaw hopens).reader around
    listed := collect_count hended
    tooLarge := fun count hgreatest =>
      ⟨Count.ofValue_of_count _ count, collect_tooLarge hopens hgreatest around⟩
    refused := fun _ hnull hnot => (collect_other hopens hnull hnot).1
    untold := fun _ hnull hnot => (collect_other hopens hnull hnot).2
    values_iff := fun _ => exists_values_iff hended
    failing_iff := fun _ hpassed _ => passed_fails_iff hended hpassed }

/-- Surroundings in which no records for debugging are wanted. -/
def quiet : Surroundings :=
  .still Surroundings.usualLargest

/-- The collection of the first three numbers. -/
def threeNumbers : Collection := ⟨.read true (.range 0 3), true⟩

/-- The first three numbers are collected as the limit decides. -/
theorem three_numbers_decided :
    (threeNumbers.readAll quiet).stop = .ended ∧ LimitDecided threeNumbers quiet :=
  ⟨rfl, limit_decided rfl⟩

/-- The least limit that is too large. -/
def excessiveLimit : Count := ⟨0x8000000000000000, by decide⟩

/-- An input of three numbers is applied and could be read to its end; a limit that passes the check
gives no list of its values, and no refusal either. -/
theorem passed_limit_fails :
    Pipeline.apply (.input (.bounded ⟨⟨3, by decide⟩⟩)) quiet = (.ok threeNumbers, quiet) ∧
      (threeNumbers.readAll quiet).stop = .ended ∧
      Count.ofValue (.countNotPositive "limit") (.int excessiveLimit.value) = .ok excessiveLimit ∧
      (collect threeNumbers (.int excessiveLimit.value) quiet).1 = .error .limitTooLarge ∧
      Failure.limitTooLarge.kind ≠ .illegalArgument := by
  have hended : (threeNumbers.readAll quiet).stop = .ended := rfl
  have hpassed := Count.ofValue_of_count (.countNotPositive "limit") excessiveLimit
  have hfails := collect_tooLarge (opens_of_ended hended) (by decide : greatestLimit <
    excessiveLimit.value) quiet
  refine ⟨rfl, hended, hpassed, ?_, by decide⟩
  rw [hfails]

end NumberFeed.Pipeline
