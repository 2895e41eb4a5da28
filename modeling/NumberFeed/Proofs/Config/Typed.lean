import NumberFeed.Proofs.Config.Conversion
import NumberFeed.Proofs.Value.Sameness

/-!
# Values in the type of a setting

What a conversion gives is an integer or a duration. Such a value is plain data
(`SettingType.Has.data`), and it is read as it is wherever it is stored under the key of the setting
(`Configuration.get_of_has`). To set a value is to put in what it is converted to, under a key that
has a hash (`Configuration.set_eq_ok_iff`).
-/

namespace NumberFeed

namespace SettingType.Has

variable {type : SettingType} {value : Value}

/-- A value that has the type of a setting is plain data. -/
theorem data (h : type.Has value) : value.Data := by
  cases type with
  | integer =>
    obtain ⟨n, rfl⟩ := h
    exact Value.data_int n
  | duration =>
    obtain ⟨d, rfl⟩ := h
    exact Value.data_of_parts_eq_nil rfl rfl rfl (by rintro x ⟨⟩)

/-- No object stands in it. -/
theorem isPlain (h : type.Has value) : value.isPlain = true := by
  cases type with
  | integer =>
    obtain ⟨n, rfl⟩ := h
    rfl
  | duration =>
    obtain ⟨d, rfl⟩ := h
    rfl

end SettingType.Has

namespace Setting

variable {setting : Setting} {value typed : Value}

/-- A value that cannot be converted makes no entry. -/
theorem entry_of_convert_error {cause : Failure} (h : setting.convert value = .error cause) :
    setting.entry value = .error cause := by
  rw [entry, h]
  rfl

/-- A value that can be converted makes an entry if the key has a hash. -/
theorem entry_of_convert_ok (h : setting.convert value = .ok typed)
    (hhash : setting.key.checkHash = .ok ()) : setting.entry value = .ok (setting.key, typed) := by
  rw [entry, h]
  show (setting.key.checkHash >>= fun _ => pure (setting.key, typed)) = _
  rw [hhash]
  rfl

end Setting

namespace Configuration

variable {configuration changed : Configuration} {setting : Setting} {value typed : Value}

/-- To set a value successfully is to put in what it is converted to, under a key that has a hash. -/
theorem set_eq_ok_iff : configuration.set setting value = .ok changed ↔
    setting.key.checkHash = .ok () ∧ ∃ typed, setting.convert value = .ok typed ∧
      changed = ⟨configuration.entries.insert setting.key typed⟩ := by
  unfold set
  rcases setting.convert value with cause | typed
  · simp [bind, Except.bind]
  · rcases setting.key.checkHash with cause | _
    · simp [bind, Except.bind]
    · simp [bind, Except.bind, pure, Except.pure, eq_comm]

/-- What is stored under the key of a setting in its type is what is read. -/
theorem get_of_has (h : configuration.entries.get? setting.key = some typed)
    (htyped : setting.type.Has typed) (hhash : setting.key.checkHash = .ok ()) :
    configuration.get setting = .ok typed := by
  rw [get, hhash, h]
  exact Setting.convert_of_has htyped

end Configuration

end NumberFeed
