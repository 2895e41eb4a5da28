import NumberFeed.Config.Setting
import NumberFeed.Value.Entries

/-!
# Configurations

A configuration is a store of raw values under keys that keeps the order in which keys arrived.
Values set through a setting are converted when they are set, and again when they are read, since a
configuration may also be made of raw data. A key needs a hash.
-/

namespace NumberFeed

/-- A store of values under keys. -/
structure Configuration where
  /-- The stored entries. -/
  entries : Entries

namespace Configuration

/-- The configuration without entries. -/
def empty : Configuration := ⟨[]⟩

/-- A copy of another configuration, if there is one, with data put over it. -/
def make (other : Option Configuration) (data : Entries) : Configuration :=
  ⟨(other.getD empty).entries.overlay data⟩

/-- Whether something is stored under a key. -/
def hasKey (configuration : Configuration) (key : Value) : Bool :=
  configuration.entries.hasKey key

/-- The value of a setting: the stored value converted, or the one for an absent key. -/
def get (configuration : Configuration) (setting : Setting) : Except Failure Value := do
  setting.key.checkHash
  match configuration.entries.get? setting.key with
  | some raw => setting.convert raw
  | none => return setting.fallback

/-- Stores a value under the key of a setting, once it has been converted. -/
def set (configuration : Configuration) (setting : Setting) (value : Value) :
    Except Failure Configuration := do
  let converted ← setting.convert value
  setting.key.checkHash
  return ⟨configuration.entries.insert setting.key converted⟩

/-- The text of each value, by key and in order. -/
def toTexts (configuration : Configuration) : Except Failure Entries :=
  Value.textEntries configuration.entries

/-- Whether two configurations store equal values under the same keys. -/
def equal (a b : Configuration) : Bool :=
  (Value.dict a.entries).equal (.dict b.entries)

/-- Whether two configurations have one hash: it is made of the texts, whatever their order. -/
def sameHash (a b : Configuration) : Except Failure Bool := do
  let first ← a.toTexts
  let second ← b.toTexts
  return (Value.dict first).equal (.dict second)

/-- The text of a configuration. -/
def text (configuration : Configuration) : Except Failure String :=
  (Value.entryTexts configuration.entries).map Wording.mapping

end Configuration

end NumberFeed
