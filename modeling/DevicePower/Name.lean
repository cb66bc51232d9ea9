import DevicePower.Text.Lowercase
import DevicePower.Text.Numeral

/-!
# Names and codes of fixed choices

Several settings are one of a few fixed choices, each with names, and some with a number. A text
names a choice in any mix of cases, or by its number where the choice has one. A text that is a
number at all is taken as one, so an unknown number is reported as a number.
-/

namespace DevicePower

/-- Why a text names no choice of a kind. -/
inductive NameError where
  | unknownName (kind given : String)
  | unknownCode (kind : String) (code : Nat)
deriving DecidableEq

/-- The wording of the failure to find a name. -/
def NameError.message : NameError → String
  | unknownName kind given => "unknown " ++ kind ++ ": " ++ given
  | unknownCode kind code => "unknown " ++ kind ++ " code: " ++ Text.naturalText code

namespace Name

/-- The choice that a text names. -/
def byName {α : Type} (kind : String) (names : List (String × α)) (s : String) :
    Except NameError α :=
  match Text.named? names s with
  | some a => .ok a
  | none => .error (.unknownName kind s)

/-- The choice that a text gives by number or by name. -/
def byCodeOrName {α : Type} (kind : String) (ofCode? : Nat → Option α)
    (names : List (String × α)) (s : String) : Except NameError α :=
  match Text.unsigned? Text.word32 s.toList with
  | some code =>
    match ofCode? code with
    | some a => .ok a
    | none => .error (.unknownCode kind code)
  | none => byName kind names s

end Name

end DevicePower
