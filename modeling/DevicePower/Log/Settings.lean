import DevicePower.Log.Record

/-!
# Settings of the log

In which form the log is written, and which of its records. What a filter's text means is a matter
of the library that the program filters its log with: here it is a `FilterLibrary`, and nothing is
said of how it reads a text but that it may turn it down, and that it may crash over it.

## Main results

* `filter?_of_level`: a filter that is a level alone is read by every library that reads levels.
-/

namespace DevicePower.Log

/-- What comes of the reading of a filter. -/
inductive Reading where
  /-- A filter, with the records that it lets through. -/
  | filter (passes : Record → Bool)
  | unreadable
  | crashed

/-- The library that reads filters. -/
structure FilterLibrary where
  /-- Reads a filter, all of which has to be readable. -/
  read : String → Reading
  /-- Reads what can be read of a filter, if there is no crash over it. -/
  readLoosely : String → Option (Record → Bool)

/-- A library that reads the names of levels. -/
def FilterLibrary.ReadsLevels (lib : FilterLibrary) : Prop :=
  ∀ v : Verbosity, ∃ passes, lib.read v.name = .filter passes

/-- How the log is written in one run. -/
structure Settings where
  format : Format
  /-- The text of the filter. -/
  directives : String
deriving DecidableEq

namespace Settings

/-- Lines for people, down to `info`. -/
def default : Settings := ⟨.human, Verbosity.info.name⟩

/-- The settings under the variables of an environment. A level given on the command line comes
before `PM_LOG`, that before `RUST_LOG`; a format given on the command line before `PM_LOG_FORMAT`.
A variable that cannot be read, or holds blanks alone, does not count. -/
def resolve (env : String → Option String) (level : Option Verbosity)
    (format : Option Format) : Settings :=
  let named := (env "PM_LOG").bind fun s => (Verbosity.parse s).toOption
  let raw := (env "RUST_LOG").filter fun s => !Text.isAllBlank s
  let namedFormat := (env "PM_LOG_FORMAT").bind fun s => (Format.parse s).toOption
  { format := (format.or namedFormat).getD .human
    directives :=
      match level.or named, raw with
      | some v, _ => v.name
      | none, some s => s
      | none, none => Verbosity.info.name }

/-- Which records the settings let through, if the program survives reading them. In the place of a
filter that cannot be read stands `info`. -/
def filter? (lib : FilterLibrary) (s : Settings) : Option (Record → Bool) :=
  match lib.read s.directives with
  | .filter passes => some passes
  | .unreadable => lib.readLoosely Verbosity.info.name
  | .crashed => none

/-- Where a level is asked for in its place, or no variable gives it, the filter is a level. -/
theorem filter?_of_level {lib : FilterLibrary} (hLevels : lib.ReadsLevels)
    {env : String → Option String} {level : Option Verbosity} {format : Option Format}
    (h : level.isSome = true ∨ env "RUST_LOG" = none) :
    ∃ passes, (resolve env level format).filter? lib = some passes := by
  have hName : ∃ v : Verbosity, (resolve env level format).directives = v.name := by
    unfold resolve
    dsimp only
    split
    · next v _ => exact ⟨v, rfl⟩
    · next hNone hRaw =>
      rcases h with hLevel | hUnset
      · cases level with
        | some v => cases hNone
        | none => cases hLevel
      · rw [hUnset] at hRaw
        cases hRaw
    · exact ⟨.info, rfl⟩
  obtain ⟨v, hDirectives⟩ := hName
  obtain ⟨passes, hRead⟩ := hLevels v
  refine ⟨passes, ?_⟩
  unfold filter?
  rw [hDirectives, hRead]

end Settings

end DevicePower.Log
