/-!
# Commands of the notice channel

A request carries a number that says what is wanted. Two numbers are known.

## Main results

* `ofCode?_code`: the number of a command stands for it.
-/

namespace DevicePower.Notice

/-- What a request wants. -/
inductive Command where
  | openNotice
  | closeNotice
deriving DecidableEq

namespace Command

/-- The number of a command. -/
def code : Command → UInt32
  | openNotice => 0
  | closeNotice => 1

/-- The command with a number. -/
def ofCode? (code : UInt32) : Option Command :=
  if code = 0 then some openNotice else if code = 1 then some closeNotice else none

/-- The name of a command. -/
def name : Command → String
  | openNotice => "OPEN_NOTICE"
  | closeNotice => "CLOSE_NOTICE_BY_REQUEST"

theorem ofCode?_code (c : Command) : ofCode? c.code = some c := by
  cases c <;> rfl

end Command

end DevicePower.Notice
