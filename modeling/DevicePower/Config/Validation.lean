import DevicePower.Config.Settings
import DevicePower.Text.Blank

/-!
# Which configurations are sound

A document that could be read may still make no sense. The checks are made in a fixed order, and the
first that fails is reported.

## Main results

* `firstDuplicate?_eq_none_iff`: no duplicate is reported exactly when no kind is listed twice.
-/

namespace DevicePower.Config

/-- What is wrong with a configuration or its document. -/
inductive ValidationError where
  | unreadable (message : String)
  | malformed (message : String)
  | badValue (field message : String)
  | wrongVersion (actual : String)
deriving DecidableEq

namespace ValidationError

/-- The wording of each failure. -/
def message : ValidationError → String
  | unreadable text => "I/O error: " ++ text
  | malformed text => "Parse error: " ++ text
  | badValue field text => "Invalid value for " ++ field ++ ": " ++ text
  | wrongVersion actual => "Version mismatch: expected " ++ knownVersion ++ ", got " ++ actual

/-- The number of each kind of failure. -/
def code : ValidationError → Nat
  | unreadable _ => 60
  | malformed _ => 61
  | badValue _ _ => 65
  | wrongVersion _ => 66

end ValidationError

/-- The first entry of a list that stands in it before. `before` are the entries already passed. -/
def firstDuplicate? (before : List Lock.Kind) : List Lock.Kind → Option Lock.Kind
  | [] => none
  | k :: rest => if before.contains k then some k else firstDuplicate? (k :: before) rest

/-- Checks a configuration. -/
def validate (c : Config) : Except ValidationError Unit :=
  if c.version ≠ knownVersion then .error (.wrongVersion c.version)
  else if Text.isAllBlank c.notice.token then
    .error (.badValue "notice.interface_token" "must not be empty")
  else if c.notice.id ≤ 0 then
    .error (.badValue "notice.notice_id"
      ("must be positive, got " ++ Text.integerText c.notice.id.toInt))
  else if c.notice.label.isEmpty then .error (.badValue "notice.label" "must not be empty")
  else if (Power.Mode.ofCode? c.power.initialMode.toNat).isNone then
    .error (.badValue "power.initial_mode"
      (Text.naturalText c.power.initialMode.toNat ++ " is not a power mode code (600-603)"))
  else
    match firstDuplicate? [] c.lockKinds with
    | some k =>
      .error (.badValue "running_lock.supported_types" ("duplicate entry " ++ k.name))
    | none => .ok ()

/-- The configuration that a text spells, with a failure to read it as a failure of form. -/
def parse (source : String) : Except ValidationError Config :=
  (ofText source).mapError fun e => .malformed e.message

theorem firstDuplicate?_eq_none_iff (before kinds : List Lock.Kind) :
    firstDuplicate? before kinds = none
      ↔ kinds.Nodup ∧ ∀ k ∈ kinds, k ∉ before := by
  induction kinds generalizing before with
  | nil => simp [firstDuplicate?]
  | cons k rest ih =>
    by_cases h : before.contains k = true
    · simp [firstDuplicate?, List.contains_iff_mem.mp h]
    · have hNot : k ∉ before := fun hMem => h (List.contains_iff_mem.mpr hMem)
      simp only [firstDuplicate?, if_neg h, ih, List.nodup_cons, List.mem_cons, forall_eq_or_imp,
        not_or]
      constructor
      · rintro ⟨hNodup, hRest⟩
        exact ⟨⟨fun hMem => (hRest k hMem).1 rfl, hNodup⟩, hNot, fun j hj => (hRest j hj).2⟩
      · rintro ⟨⟨hFresh, hNodup⟩, -, hRest⟩
        exact ⟨hNodup, fun j hj => ⟨fun hEq => hFresh (hEq ▸ hj), hRest j hj⟩⟩

end DevicePower.Config
