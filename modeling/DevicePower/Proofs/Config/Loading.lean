import DevicePower.Config.Load

/-!
# What loading a configuration comes to

A configuration is loaded in two steps: its place is found, and what is there is read and checked.
The second step sees of the place only the path. So where two ways of asking lead to the same file,
what is loaded differs in the source alone.

## Main results

* `resolve_some`, `resolve_of_variable`: what naming a file does to the place.
* `load_of_present`, `load_of_absent`, `load_none`: what it does to the loading.
* `load_none_ne_notFound`: only a file that is named can be missed.
* `loadFrom_source`: from where a file was named changes nothing but the source.
* `validate_of_load`: what was loaded has been checked.
-/

namespace DevicePower.Config

/-- Loads the configuration from its place. -/
def loadFrom (files : Files) (place : Place) : Except LoadError Loaded := do
  let (c, raw) ← readPlace files place
  match validate c with
  | .error e => .error (.unsound e)
  | .ok () => .ok ⟨c, place, .capture c place raw⟩

/-- What was loaded, as it would be from another source. -/
def Loaded.withSource (source : Source) (l : Loaded) : Loaded where
  config := l.config
  place := { l.place with source }
  snapshot := { l.snapshot with source := source.text }

variable {files : Files} {env : Environment} {base : Option Path}

/-- Where no file is named the first candidate that is there is loaded. -/
theorem load_none : load files env base none = loadFrom files (resolve files env base none) := rfl

/-- A file that the caller names comes first. -/
theorem resolve_some (path : Path) :
    resolve files env base (some path) =
      if (files path).isPresent then ⟨some path, .argument⟩ else resolve files env base none := by
  have hFirst : candidates env base (some path) = (.argument, path) :: candidates env base none :=
    rfl
  unfold resolve
  rw [hFirst]
  cases h : (files path).isPresent with
  | true => rw [List.find?_cons_of_pos (by exact h)]; rfl
  | false => rw [List.find?_cons_of_neg (by simp [h])]; rfl

/-- An environment without a variable. -/
def Environment.without (env : Environment) (removed : String) : Environment :=
  fun name => if name = removed then none else env name

/-- A file that a variable names comes next. -/
theorem resolve_of_variable {path : String} (hVariable : env fileVariable = some path) :
    resolve files env base none =
      if (files path).isPresent then ⟨some path, .environment⟩
      else resolve files (env.without fileVariable) base none := by
  have hFirst : candidates env base none =
      (.environment, Path.ofText path) :: candidates (env.without fileVariable) base none := by
    unfold candidates
    rw [hVariable]
    rfl
  unfold resolve
  rw [hFirst]
  cases h : (files path).isPresent with
  | true => rw [List.find?_cons_of_pos (by exact h)]; rfl
  | false => rw [List.find?_cons_of_neg (by simp [h])]; rfl

/-- A file that is named and is there is loaded. -/
theorem load_of_present {path : Path} (h : (files path).isPresent = true) :
    load files env base (some path) = loadFrom files ⟨some path, .argument⟩ := by
  have hFilter : ((some path).filter fun p => !(files p).isPresent) = none := by
    rw [Option.filter_some, h]
    rfl
  unfold load
  rw [hFilter, resolve_some, if_pos h]
  rfl

/-- A file that is named and is not there is missed. -/
theorem load_of_absent {path : Path} (h : (files path).isPresent = false) :
    load files env base (some path) = .error (.notFound path) := by
  have hFilter : ((some path).filter fun p => !(files p).isPresent) = some path := by
    rw [Option.filter_some, h]
    rfl
  unfold load
  rw [hFilter]

/-- What has been read is loaded if it passes the check. -/
theorem loadFrom_of_readPlace {place : Place} {c : Config} {raw : Option String}
    (hRead : readPlace files place = .ok (c, raw)) :
    loadFrom files place =
      ((validate c).mapError LoadError.unsound).map fun _ =>
        ⟨c, place, .capture c place raw⟩ := by
  unfold loadFrom
  rw [hRead]
  dsimp only [bind, Except.bind]
  cases validate c <;> rfl

/-- Loading ends as the reading does if that fails. -/
theorem loadFrom_of_readPlace_error {place : Place} {e : LoadError}
    (hRead : readPlace files place = .error e) : loadFrom files place = .error e := by
  unfold loadFrom
  rw [hRead]
  rfl

/-- From where a file was named changes nothing but the source. -/
theorem loadFrom_source (path : Option Path) (source source' : Source) :
    loadFrom files ⟨path, source'⟩ =
      (loadFrom files ⟨path, source⟩).map (Loaded.withSource source') := by
  have hSame : readPlace files ⟨path, source'⟩ = readPlace files ⟨path, source⟩ := rfl
  cases hRead : readPlace files ⟨path, source⟩ with
  | error e =>
    rw [loadFrom_of_readPlace_error hRead, loadFrom_of_readPlace_error (hSame ▸ hRead)]
    rfl
  | ok read =>
    obtain ⟨c, raw⟩ := read
    rw [loadFrom_of_readPlace hRead, loadFrom_of_readPlace (hSame ▸ hRead)]
    cases validate c <;> rfl

/-- What was loaded from a place has been checked, and is from there. -/
theorem loadFrom_ok {place : Place} {l : Loaded} (h : loadFrom files place = .ok l) :
    validate l.config = .ok () ∧ l.place = place ∧ l.snapshot.source = place.source.text := by
  cases hRead : readPlace files place with
  | error e => rw [loadFrom_of_readPlace_error hRead] at h; cases h
  | ok read =>
    obtain ⟨c, raw⟩ := read
    rw [loadFrom_of_readPlace hRead] at h
    cases hValid : validate c with
    | error e => rw [hValid] at h; cases h
    | ok u =>
      rw [hValid] at h
      cases h
      exact ⟨hValid, rfl, rfl⟩

/-- Reading misses no file: one that is gone cannot be read. -/
theorem readPlace_ne_notFound (place : Place) (missed : Path) :
    readPlace files place ≠ .error (.notFound missed) := by
  unfold readPlace
  cases place.path with
  | none => exact nofun
  | some path =>
    dsimp only
    cases (files path).read with
    | error reason => exact nofun
    | ok raw => dsimp only; cases parse raw <;> exact nofun

/-- Only a file that the caller names can be missed. -/
theorem load_none_ne_notFound (missed : Path) :
    load files env base none ≠ .error (.notFound missed) := by
  rw [load_none]
  cases hRead : readPlace files (resolve files env base none) with
  | error e =>
    rw [loadFrom_of_readPlace_error hRead]
    intro hMissed
    cases hMissed
    exact readPlace_ne_notFound _ _ hRead
  | ok read =>
    obtain ⟨c, raw⟩ := read
    rw [loadFrom_of_readPlace hRead]
    cases validate c <;> exact nofun

/-- A configuration that was loaded has been checked. -/
theorem validate_of_load {argument : Option Path} {l : Loaded}
    (h : load files env base argument = .ok l) : validate l.config = .ok () := by
  cases argument with
  | none => exact (loadFrom_ok (load_none.symm.trans h)).1
  | some path =>
    cases hThere : (files path).isPresent with
    | true => exact (loadFrom_ok ((load_of_present hThere).symm.trans h)).1
    | false => exact nomatch (load_of_absent hThere).symm.trans h

end DevicePower.Config
