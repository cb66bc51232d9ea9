import DevicePower.Config.Validation
import DevicePower.Facade

/-!
# What a sound configuration starts

A configuration passes its checks exactly if it is sound. Starting the facade can fail only for want
of a mode to start in, or because the platform crashes when it is asked to allow notifications. A
configuration that was validated names a mode, and a platform on which nothing was made to fail does
not crash. So the facade starts, and what it starts with is all known: this is where statements
about runs of the whole facade begin.

## Main results

* `validate_eq_ok_iff`: which configurations pass the checks.
* `started_of_validate`: a validated configuration starts a facade on the platform it describes.
-/

namespace DevicePower

/-- A text does not consist of blanks if some character is none. -/
theorem Text.isAllBlank_eq_false_iff (s : String) :
    isAllBlank s = false ↔ ∃ ch ∈ s.toList, isBlank ch = false := by
  unfold isAllBlank
  simp only [List.all_eq_false, Bool.not_eq_true]

theorem Power.Mode.isNone_ofCode?_eq_false_iff (code : Nat) :
    (ofCode? code).isNone = false ↔ ∃ mode : Mode, mode.code = code := by
  rw [Option.isNone_eq_false_iff, Option.isSome_iff_exists]
  constructor
  · rintro ⟨mode, hMode⟩
    exact ⟨mode, code_of_ofCode? hMode⟩
  · rintro ⟨mode, rfl⟩
    exact ⟨mode, ofCode?_code mode⟩

namespace Config

/-- What a configuration has to be for its checks to pass. -/
structure Sound (c : Config) : Prop where
  version_eq : c.version = "1.0.0"
  /-- The token does not consist of blanks. -/
  token_shown : ∃ ch ∈ c.notice.token.toList, Text.isBlank ch = false
  id_pos : 0 < c.notice.id.toInt
  label_ne : c.notice.label ≠ ""
  mode_listed : ∃ mode : Power.Mode, mode.code = c.power.initialMode.toNat
  kinds_nodup : c.lockKinds.Nodup

/-- The checks accept just the sound configurations. -/
theorem validate_eq_ok_iff {c : Config} : validate c = .ok () ↔ Sound c := by
  have hToken := Text.isAllBlank_eq_false_iff c.notice.token
  have hId : ¬ c.notice.id ≤ 0 ↔ 0 < c.notice.id.toInt := by
    rw [Int32.le_iff_toInt_le, Int.not_le]
    rfl
  have hLabel : ¬ c.notice.label.isEmpty = true ↔ c.notice.label ≠ "" := by
    rw [String.isEmpty_iff]
  have hMode := Power.Mode.isNone_ofCode?_eq_false_iff c.power.initialMode.toNat
  have hKinds : firstDuplicate? [] c.lockKinds = none ↔ c.lockKinds.Nodup := by
    rw [firstDuplicate?_eq_none_iff]
    simp
  rw [← Bool.not_eq_true] at hToken hMode
  unfold validate
  constructor
  · intro h
    split at h
    · exact nomatch h
    next hVersion =>
    split at h
    · exact nomatch h
    next hShown =>
    split at h
    · exact nomatch h
    next hPositive =>
    split at h
    · exact nomatch h
    next hNamed =>
    split at h
    · exact nomatch h
    next hListed =>
    split at h
    · exact nomatch h
    next hNone =>
    exact ⟨Decidable.not_not.mp hVersion, hToken.mp hShown, hId.mp hPositive, hLabel.mp hNamed,
      hMode.mp hListed, hKinds.mp hNone⟩
  · intro h
    have hVersion : c.version = knownVersion := h.version_eq
    rw [if_neg (not_not_intro hVersion), if_neg (hToken.mpr h.token_shown),
      if_neg (hId.mpr h.id_pos), if_neg (hLabel.mpr h.label_ne), if_neg (hMode.mpr h.mode_listed),
      hKinds.mpr h.kinds_nodup]

/-- A validated configuration names the mode to start in. -/
theorem exists_initialMode {c : Config} (h : validate c = .ok ()) :
    ∃ mode, Power.Mode.ofCode? c.power.initialMode.toNat = some mode := by
  obtain ⟨mode, hMode⟩ := (validate_eq_ok_iff.mp h).mode_listed
  exact ⟨mode, hMode ▸ Power.Mode.ofCode?_code mode⟩

end Config

namespace Facade

/-- What a facade begins with, on a platform on which nothing was made to fail. -/
structure Started (c : Config) (f : Facade) (p : Platform) : Prop where
  config_eq : f.config = c
  mode_eq : f.power.mode.code = c.power.initialMode.toNat
  screen_eq : f.power.screen.isOn = c.power.screenOn
  locks_eq : f.locks = {}
  notice_eq : f.notice = Notice.Service.silent c.notice c.device
  supported_eq : p.supported = c.lockKinds
  failing_eq : p.failing = []
  faults_eq : p.faults = []
  /-- A desktop shows no notifications, so it asks for nothing. -/
  calls_eq : p.calls = if c.device.isDesktop then [] else [.requestEnable]

/-- The notice service of a facade starts where nothing was made to fail. -/
theorem service_start (c : Config) (origin : Log.Origin) :
    ∃ h, Notice.Service.start c.notice c.device (hostFor c origin) =
        (.ok (Notice.Service.silent c.notice c.device), h) ∧
      h.platform =
        ⟨c.lockKinds, [], [], if c.device.isDesktop then [] else [.requestEnable]⟩ := by
  unfold Notice.Service.start Notice.Service.silent Notice.Presenter.forDevice
  cases c.device.isDesktop with
  | true => exact ⟨_, rfl, rfl⟩
  | false => exact ⟨_, rfl, rfl⟩

/-- A validated configuration starts a facade on the platform it describes. -/
theorem started_of_validate {c : Config} (h : Config.validate c = .ok ()) (origin : Log.Origin) :
    ∃ f host, start c (hostFor c origin) = (.ok f, host) ∧ Started c f host.platform := by
  obtain ⟨mode, hMode⟩ := Config.exists_initialMode h
  obtain ⟨host, hService, hPlatform⟩ := service_start c origin
  unfold start
  rw [hMode]
  dsimp only
  rw [hService]
  refine ⟨_, _, rfl, rfl, ?_, ?_, rfl, rfl, ?_, ?_, ?_, ?_⟩
  · exact Power.Mode.code_of_ofCode? hMode
  · exact Power.Screen.isOn_ofBool _
  all_goals rw [Host.platform_log, hPlatform]

end Facade

end DevicePower
