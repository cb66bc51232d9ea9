import DevicePower.Name

/-!
# Kinds of running locks

A running lock keeps a part of the device awake. There are two kinds, whose codes are bits of the
platform's own layout.

## Main results

* `ofCode?_code`, `code_of_ofCode?`: codes and kinds determine each other.
-/

namespace DevicePower.Lock

/-- What a lock keeps running. -/
inductive Kind where
  /-- The processor, with the screen off. -/
  | background
  /-- The control of the screen by the proximity sensor. -/
  | proximityScreenControl
deriving DecidableEq

namespace Kind

/-- All kinds, in the order of their codes. -/
def all : List Kind := [background, proximityScreenControl]

/-- The platform's number for a kind. -/
def code : Kind → Nat
  | background => 1
  | proximityScreenControl => 2

/-- The kind with a platform number. -/
def ofCode? : Nat → Option Kind
  | 1 => some background
  | 2 => some proximityScreenControl
  | _ => none

/-- The kind whose code is an integer. Negative integers are the code of none. -/
def ofInt? : Int → Option Kind
  | .ofNat n => ofCode? n
  | .negSucc _ => none

/-- The name of a kind in documents and messages. -/
def name : Kind → String
  | background => "background"
  | proximityScreenControl => "proximity_screen_control"

/-- How a kind is shown in a debug line. -/
def debugName : Kind → String
  | background => "Background"
  | proximityScreenControl => "ProximityScreenControl"

/-- All names by which a kind may be given. -/
def names : List (String × Kind) :=
  [("background", background), ("proximity_screen_control", proximityScreenControl),
   ("proximity", proximityScreenControl)]

/-- The names that stand for kinds in documents. -/
def documentNames : List (String × Kind) := all.map fun k => (k.name, k)

/-- The kind that a text gives by code or name. -/
def parse (s : String) : Except NameError Kind :=
  Name.byCodeOrName "running lock type" ofCode? names s

theorem ofCode?_code (k : Kind) : ofCode? k.code = some k := by
  cases k <;> rfl

theorem code_of_ofCode? {n : Nat} {k : Kind} (h : ofCode? n = some k) : k.code = n := by
  unfold ofCode? at h
  split at h <;> simp_all [code] <;> subst h <;> rfl

end Kind

/-- The message for a lock without a name. -/
def emptyNameMessage : String :=
  "Wrong argument type. The running lock name must be a non-empty string."

/-- The number of a lock, as it is shown. -/
def idText (id : Nat) : String := "lock-" ++ Text.naturalText id

end DevicePower.Lock
