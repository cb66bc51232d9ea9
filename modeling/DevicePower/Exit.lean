import DevicePower.Error

/-!
# Exit statuses

The command line ends with a status that scripts rely on. Zero is success, 10 to 19 are errors that
the user can mend, and 20 and more are internal.

## Main results

* `ofError_ne_clean`: no error ends with success.
-/

namespace DevicePower

/-- How a command ended. -/
inductive Exit where
  | clean
  | argsError
  | configError
  | platformError
  | ipcRejected
  | internalError
  | ioError
deriving DecidableEq

namespace Exit

/-- All statuses, in the order of their numbers. -/
def all : List Exit :=
  [clean, argsError, configError, platformError, ipcRejected, internalError, ioError]

/-- The number of a status. -/
def code : Exit → Nat
  | clean => 0
  | argsError => 10
  | configError => 11
  | platformError => 12
  | ipcRejected => 13
  | internalError => 20
  | ioError => 21

/-- The name of a status. -/
def name : Exit → String
  | clean => "CLEAN"
  | argsError => "ERR_ARGS"
  | configError => "ERR_CONFIG"
  | platformError => "ERR_PLATFORM"
  | ipcRejected => "ERR_IPC_REJECTED"
  | internalError => "ERR_INTERNAL"
  | ioError => "ERR_IO"

/-- The name and the number. -/
def text (e : Exit) : String := e.name ++ " (" ++ Text.naturalText e.code ++ ")"

/-- Whether the command succeeded. -/
def isSuccess (e : Exit) : Bool := e == clean

/-- Whether the user can mend the error. -/
def isUserError (e : Exit) : Bool := 10 ≤ e.code && e.code < 20

/-- Whether the error is internal. -/
def isInternalError (e : Exit) : Bool := 20 ≤ e.code

/-- The status that an error ends with. -/
def ofError (e : Error) : Exit :=
  match e.category with
  | .argument => argsError
  | .platform => platformError
  | .ipc => ipcRejected
  | .config => configError
  | .io => ioError

/-- No error ends with success. -/
theorem ofError_ne_clean (e : Error) : ofError e ≠ clean := by
  unfold ofError
  cases e.category <;> decide

end Exit

end DevicePower
