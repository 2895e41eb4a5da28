import NumberFeed.Value.Equality

/-!
# Ordered entries

Keys with their values, in the order in which the keys were first put in. Putting in a key that is
there already changes its value and nothing else: the key and its place stay.
-/

namespace NumberFeed

/-- Keys with their values in order. -/
abbrev Entries := List (Value × Value)

namespace Entries

/-- The value of a key. -/
def get? (entries : Entries) (key : Value) : Option Value :=
  (entries.find? fun entry => entry.1.matchesKey key).map (·.2)

/-- Whether a key is there. -/
def hasKey (entries : Entries) (key : Value) : Bool :=
  (entries.get? key).isSome

/-- Puts in a key with its value. -/
def insert (entries : Entries) (key value : Value) : Entries :=
  match entries with
  | [] => [(key, value)]
  | entry :: rest =>
    if entry.1.matchesKey key then (entry.1, value) :: rest else entry :: insert rest key value

/-- Puts in all the entries of a second list, in order. -/
def overlay (entries additions : Entries) : Entries :=
  additions.foldl (fun result entry => insert result entry.1 entry.2) entries

/-- What was put in is found, wherever it went. -/
theorem get?_insert_self (entries : Entries) {key : Value} (h : key.matchesKey key = true)
    (value : Value) : (insert entries key value).get? key = some value := by
  induction entries with
  | nil => simp [insert, get?, h]
  | cons entry rest ih =>
    by_cases hit : entry.1.matchesKey key = true
    · simp [insert, get?, hit]
    · simpa [insert, get?, hit] using ih

/-- Nothing is put over nothing. -/
@[simp] theorem overlay_nil (entries : Entries) : overlay entries [] = entries := rfl

end Entries

end NumberFeed
