import DevicePower.Name

/-!
# Power modes

The device runs in one of four power modes. Their codes, 600 to 603, are part of the platform's
contract; they tell modes apart and do not rank them.

## Main results

* `ofCode?_code`, `code_of_ofCode?`: codes and modes determine each other.
-/

namespace DevicePower.Power

/-- A power policy of the whole device. -/
inductive Mode where
  | normal
  | powerSave
  | performance
  | extremePowerSave
deriving DecidableEq

namespace Mode

/-- All modes, in the order of their codes. -/
def all : List Mode := [normal, powerSave, performance, extremePowerSave]

/-- The platform's number for a mode. -/
def code : Mode → Nat
  | normal => 600
  | powerSave => 601
  | performance => 602
  | extremePowerSave => 603

/-- The mode with a platform number. -/
def ofCode? : Nat → Option Mode
  | 600 => some normal
  | 601 => some powerSave
  | 602 => some performance
  | 603 => some extremePowerSave
  | _ => none

/-- The mode whose code is an integer. Negative integers are the code of none. -/
def ofInt? : Int → Option Mode
  | .ofNat n => ofCode? n
  | .negSucc _ => none

/-- The name of a mode in documents and messages. -/
def name : Mode → String
  | normal => "normal"
  | powerSave => "power_save"
  | performance => "performance"
  | extremePowerSave => "extreme_power_save"

/-- The name of the constant that stands for a mode in programs. -/
def constant : Mode → String
  | normal => "MODE_NORMAL"
  | powerSave => "MODE_POWER_SAVE"
  | performance => "MODE_PERFORMANCE"
  | extremePowerSave => "MODE_EXTREME_POWER_SAVE"

/-- How a mode is shown in a debug line. -/
def debugName : Mode → String
  | normal => "Normal"
  | powerSave => "PowerSave"
  | performance => "Performance"
  | extremePowerSave => "ExtremePowerSave"

/-- All names by which a mode may be given. -/
def names : List (String × Mode) :=
  [("normal", normal), ("mode_normal", normal),
   ("power_save", powerSave), ("powersave", powerSave), ("mode_power_save", powerSave),
   ("performance", performance), ("mode_performance", performance),
   ("extreme_power_save", extremePowerSave), ("extreme", extremePowerSave),
   ("mode_extreme_power_save", extremePowerSave)]

/-- The names that stand for modes in documents. -/
def documentNames : List (String × Mode) := all.map fun m => (m.name, m)

/-- The mode that a text gives by code or name. -/
def parse (s : String) : Except NameError Mode :=
  Name.byCodeOrName "power mode" ofCode? names s

theorem ofCode?_code (m : Mode) : ofCode? m.code = some m := by
  cases m <;> rfl

theorem code_of_ofCode? {n : Nat} {m : Mode} (h : ofCode? n = some m) : m.code = n := by
  unfold ofCode? at h
  split at h <;> simp_all [code] <;> subst h <;> rfl

end Mode

/-- Whether the screen is lit. -/
inductive Screen where
  | on
  | off
deriving DecidableEq

namespace Screen

/-- Whether this is the lit state. -/
def isOn : Screen → Bool
  | on => true
  | off => false

/-- The state that a flag stands for. -/
def ofBool (lit : Bool) : Screen := if lit then on else off

/-- The name of a state in documents. -/
def name : Screen → String
  | on => "on"
  | off => "off"

/-- The names that stand for states in documents. -/
def documentNames : List (String × Screen) := [on, off].map fun s => (s.name, s)

theorem isOn_ofBool (lit : Bool) : (ofBool lit).isOn = lit := by
  cases lit <;> rfl

end Screen

end DevicePower.Power
