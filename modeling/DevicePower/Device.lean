import DevicePower.Name

/-!
# Device classes

The platform reports what class of device it runs on. Only one distinction matters: on a
desktop-class device the inject notice is shown as a capsule, on all others as a notification.

## Main results

* `isDesktop_iff`: desktop is the one class with that presentation.
-/

namespace DevicePower

/-- A class of device. -/
inductive Device where
  | phone
  | tablet
  | wearable
  | tv
  | car
  | desktop
  | unspecified
deriving DecidableEq

namespace Device

/-- Whether the notice is shown as a capsule. -/
def isDesktop : Device → Bool
  | desktop => true
  | _ => false

/-- The name of a class in documents and messages. The desktop class bears the platform's name. -/
def name : Device → String
  | phone => "phone"
  | tablet => "tablet"
  | wearable => "wearable"
  | tv => "tv"
  | car => "car"
  | desktop => "2in1"
  | unspecified => "default"

/-- All classes. -/
def all : List Device := [phone, tablet, wearable, tv, car, desktop, unspecified]

/-- All names by which a class may be given. -/
def names : List (String × Device) :=
  [("phone", phone), ("tablet", tablet), ("wearable", wearable), ("tv", tv), ("car", car),
   ("2in1", desktop), ("desktop", desktop), ("pc", desktop), ("default", unspecified)]

/-- The names that stand for classes in documents. -/
def documentNames : List (String × Device) := all.map fun d => (d.name, d)

/-- The class that a text names. -/
def parse (s : String) : Except NameError Device := Name.byName "device class" names s

theorem isDesktop_iff (d : Device) : d.isDesktop = true ↔ d = desktop := by
  cases d <;> decide

end Device

end DevicePower
