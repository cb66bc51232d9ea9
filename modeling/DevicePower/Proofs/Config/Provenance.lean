import DevicePower.Proofs.Config.Loading
import DevicePower.Proofs.Text.Utf8
import Mathlib.Data.Nat.Find

/-!
# Where a configuration comes from

Five files are looked for, each with a rank, and those that are named by nobody are left out. The
one of the least rank that is there is the configuration, for better or worse: if it cannot be read,
or says nothing that makes sense, loading fails and no other file stands in for it. What is loaded
is what that file says, and all that is told of its origin, its path, its source and its digest, is
about that file. A file that the caller names and that is not there is missed, whatever else is
there.

To be there means to be there for the program. A file behind a directory that may not be searched
exists, but is missed or passed over. A variable names a file only if its value is a text, and a
file can be read only if its bytes are.

## Main results

* `ofSystem_eq_some_iff`: which variables are seen.
* `resolve_of_isFirst`, `resolve_of_noneThere`: the place is the file of the least rank that is
  there.
* `comesFrom_loadFrom`: the ends of loading one file.
* `load_provenance`: what loading comes to, for every file system, environment and argument.
* `existing_file_may_be_missed`: what exists but is not there for the program.
-/

namespace DevicePower.Config

/-! ## Variables -/

/-- The variables of a process, with their values in bytes. -/
abbrev Variables := String → Option (List UInt8)

/-- A variable has a value for the program if its bytes are those of a text. -/
theorem ofSystem_eq_some_iff {raw : Variables} {name value : String} :
    Environment.ofSystem raw name = some value ↔ raw name = some (Text.Utf8.bytes value) := by
  unfold Environment.ofSystem
  rw [Option.bind_eq_some_iff]
  constructor
  · rintro ⟨bytes, hRaw, hText⟩
    cases hDecoded : Text.Utf8.decode bytes with
    | error defect => rw [hDecoded] at hText; exact nomatch hText
    | ok text =>
      rw [hDecoded] at hText
      obtain rfl : text = value := Option.some.inj hText
      rw [Text.Utf8.bytes_of_decode hDecoded]
      exact hRaw
  · intro hRaw
    refine ⟨_, hRaw, ?_⟩
    rw [Text.Utf8.decode_bytes]
    rfl

/-! ## Ranks -/

/-- The files that are looked for: rank, source and path. -/
inductive Ranked (raw : Variables) (base argument : Option Path) : Nat → Source → Path → Prop
  | argument {path : Path} (hNamed : argument = some path) :
      Ranked raw base argument 0 .argument path
  | file {path : String} (hNamed : raw "POWER_FACADE_CONFIG" = some (Text.Utf8.bytes path)) :
      Ranked raw base argument 1 .environment path
  | directory {dir : String}
      (hNamed : raw "POWER_FACADE_CONFIG_DIR" = some (Text.Utf8.bytes dir)) :
      Ranked raw base argument 2 .environment ((dir : Path).join "config.json")
  | user {dir : Path} (hUser : base = some dir) :
      Ranked raw base argument 3 .user ((dir.join "power-facade").join "config.json")
  | system : Ranked raw base argument 4 .system "/etc/power-facade/config.json"

variable {files : Files} {raw : Variables} {base argument : Option Path} {source : Source}
  {path : Path}

/-- Whether a file is there and none of lesser rank is. -/
def IsFirst (files : Files) (raw : Variables) (base argument : Option Path) (source : Source)
    (path : Path) : Prop :=
  ∃ rank, Ranked raw base argument rank source path ∧ (files path).isPresent = true ∧
    ∀ rank' < rank, ∀ source' path', Ranked raw base argument rank' source' path' →
      (files path').isPresent = false

/-- Whether none of the files is there. -/
def NoneThere (files : Files) (raw : Variables) (base argument : Option Path) : Prop :=
  ∀ rank source path, Ranked raw base argument rank source path → (files path).isPresent = false

/-- One of the files is the first that is there, or none is there. -/
theorem isFirst_or_noneThere (files : Files) (raw : Variables) (base argument : Option Path) :
    (∃ source path, IsFirst files raw base argument source path) ∨
      NoneThere files raw base argument := by
  classical
  by_cases hThere : ∃ rank source path,
      Ranked raw base argument rank source path ∧ (files path).isPresent = true
  · obtain ⟨source, path, hRanked, hPresent⟩ := Nat.find_spec hThere
    refine Or.inl ⟨source, path, Nat.find hThere, hRanked, hPresent, ?_⟩
    intro rank' hLess source' path' hRanked'
    refine eq_false_of_ne_true fun hPresent' => ?_
    exact Nat.find_min hThere hLess ⟨source', path', hRanked', hPresent'⟩
  · refine Or.inr fun rank source path hRanked => eq_false_of_ne_true fun hPresent => ?_
    exact hThere ⟨rank, source, path, hRanked, hPresent⟩

/-! ## The place -/

/-- A file that is looked for as a place, if it is there. -/
def found (files : Files) (source : Source) (path? : Option Path) : Option Place :=
  (path?.filter fun path => (files path).isPresent).map fun path => ⟨some path, source⟩

theorem found_of_present (source : Source) (h : (files path).isPresent = true) :
    found files source (some path) = some ⟨some path, source⟩ := by
  unfold found
  rw [Option.filter_some, if_pos h]
  rfl

theorem found_of_absent {path? : Option Path} (source : Source)
    (h : ∀ path, path? = some path → (files path).isPresent = false) :
    found files source path? = none := by
  unfold found
  cases path? with
  | none => rfl
  | some path =>
    rw [Option.filter_some, h path rfl]
    rfl

/-- What is found of a file that is looked for is what a search for it gives. -/
theorem find?_eq_found (source : Source) (path? : Option Path) :
    (((path?.map fun path => (source, path)).toList.find? fun c => (files c.2).isPresent).map
      fun c => (⟨some c.2, c.1⟩ : Place)) = found files source path? := by
  unfold found
  cases path? with
  | none => rfl
  | some path => cases h : (files path).isPresent <;> simp [h, Option.filter_some]

/-- The place of the configuration is the first that is found. -/
theorem resolve_eq_found (files : Files) (env : Environment) (base argument : Option Path) :
    resolve files env base argument =
      ((found files .argument argument).or <|
        (found files .environment ((env "POWER_FACADE_CONFIG").map Path.ofText)).or <|
        (found files .environment
          ((env "POWER_FACADE_CONFIG_DIR").map fun dir =>
            (Path.ofText dir).join "config.json")).or <|
        (found files .user
          (base.map fun dir => (dir.join "power-facade").join "config.json")).or <|
        found files .system (some "/etc/power-facade/config.json")).getD {} := by
  have hPlace : resolve files env base argument =
      (((candidates env base argument).find? fun c => (files c.2).isPresent).map
        fun c => (⟨some c.2, c.1⟩ : Place)).getD {} := by
    unfold resolve
    cases (candidates env base argument).find? fun c => (files c.2).isPresent <;> rfl
  have hSystem : [(Source.system, systemDirectory.join fileName)] =
      ((some (Path.ofText "/etc/power-facade/config.json")).map
        fun path => (Source.system, path)).toList := by
    decide +kernel
  rw [hPlace]
  unfold candidates
  rw [hSystem]
  simp only [List.find?_append, Option.map_or, ← find?_eq_found, Option.map_map, Option.or_assoc]
  rfl

/-- The place is the file of the least rank that is there. -/
theorem resolve_of_isFirst (h : IsFirst files raw base argument source path) :
    resolve files (.ofSystem raw) base argument = ⟨some path, source⟩ := by
  obtain ⟨rank, hRanked, hPresent, hLess⟩ := h
  have hArgument : 0 < rank → found files .argument argument = none := fun hRank =>
    found_of_absent _ fun path' hPath => hLess 0 hRank _ _ (.argument hPath)
  have hFile : 1 < rank → found files .environment
      ((Environment.ofSystem raw "POWER_FACADE_CONFIG").map Path.ofText) = none := by
    refine fun hRank => found_of_absent _ fun path' hPath => ?_
    obtain ⟨file, hFile, rfl⟩ := Option.map_eq_some_iff.mp hPath
    exact hLess 1 hRank _ _ (.file (ofSystem_eq_some_iff.mp hFile))
  have hDirectory : 2 < rank → found files .environment
      ((Environment.ofSystem raw "POWER_FACADE_CONFIG_DIR").map
        fun dir => (Path.ofText dir).join "config.json") = none := by
    refine fun hRank => found_of_absent _ fun path' hPath => ?_
    obtain ⟨dir, hDir, rfl⟩ := Option.map_eq_some_iff.mp hPath
    exact hLess 2 hRank _ _ (.directory (ofSystem_eq_some_iff.mp hDir))
  have hUser : 3 < rank → found files .user
      (base.map fun dir => (dir.join "power-facade").join "config.json") = none := by
    refine fun hRank => found_of_absent _ fun path' hPath => ?_
    obtain ⟨dir, hDir, rfl⟩ := Option.map_eq_some_iff.mp hPath
    exact hLess 3 hRank _ _ (.user hDir)
  rw [resolve_eq_found]
  cases hRanked with
  | argument hNamed =>
    rw [hNamed, found_of_present _ hPresent]
    rfl
  | file hNamed =>
    rw [hArgument (by decide), ofSystem_eq_some_iff.mpr hNamed, Option.map_some,
      found_of_present _ hPresent]
    rfl
  | directory hNamed =>
    rw [hArgument (by decide), hFile (by decide), ofSystem_eq_some_iff.mpr hNamed,
      Option.map_some, found_of_present _ hPresent]
    rfl
  | user hNamed =>
    rw [hArgument (by decide), hFile (by decide), hDirectory (by decide), hNamed,
      Option.map_some, found_of_present _ hPresent]
    rfl
  | system =>
    rw [hArgument (by decide), hFile (by decide), hDirectory (by decide), hUser (by decide),
      found_of_present _ hPresent]
    rfl

/-- Where none of the files is there the defaults hold. -/
theorem resolve_of_noneThere (h : NoneThere files raw base argument) :
    resolve files (.ofSystem raw) base argument = {} := by
  rw [resolve_eq_found, found_of_absent _ fun path hPath => h 0 _ _ (.argument hPath),
    found_of_absent, found_of_absent, found_of_absent, found_of_absent]
  · rfl
  · rintro path ⟨⟩
    exact h 4 _ _ .system
  · intro path hPath
    obtain ⟨dir, hDir, rfl⟩ := Option.map_eq_some_iff.mp hPath
    exact h 3 _ _ (.user hDir)
  · intro path hPath
    obtain ⟨dir, hDir, rfl⟩ := Option.map_eq_some_iff.mp hPath
    exact h 2 _ _ (.directory (ofSystem_eq_some_iff.mp hDir))
  · intro path hPath
    obtain ⟨file, hFile, rfl⟩ := Option.map_eq_some_iff.mp hPath
    exact h 1 _ _ (.file (ofSystem_eq_some_iff.mp hFile))

/-! ## One file -/

/-- The SHA-256 digest of bytes, as hexadecimal digits. -/
def hexDigest (bytes : List UInt8) : String :=
  String.ofList ((Digest.sha256 bytes).toList.flatMap Digest.hexWord)

/-- How loading one file ends, and what is told of where the configuration comes from. -/
inductive ComesFrom (files : Files) (source : Source) (path : Path) :
    Except LoadError Loaded → Prop
  | unreadable {reason : String} (hRead : (files path).read = .error reason) :
      ComesFrom files source path (.error (.unreadable path reason))
  | invalid {raw : String} {e : ValidationError} (hRead : (files path).read = .ok raw)
      (hParse : parse raw = .error e) : ComesFrom files source path (.error (.invalid path e))
  | unsound {raw : String} {c : Config} {e : ValidationError} (hRead : (files path).read = .ok raw)
      (hParse : parse raw = .ok c) (hValid : validate c = .error e) :
      ComesFrom files source path (.error (.unsound e))
  | loaded {bytes : List UInt8} {raw : String} {l : Loaded} (hFile : files path = .file bytes)
      (hText : Text.Utf8.bytes raw = bytes) (hParse : parse raw = .ok l.config)
      (hValid : validate l.config = .ok ()) (hPlace : l.place = ⟨some path, source⟩)
      (hPath : l.snapshot.path = some path.text) (hSource : l.snapshot.source = source.text)
      (hDigest : l.snapshot.digest = some (hexDigest bytes)) : ComesFrom files source path (.ok l)

/-- A file that could be read has the bytes of its text. -/
theorem file_of_read {entry : Entry} {raw : String} (h : entry.read = .ok raw) :
    ∃ bytes, entry = .file bytes ∧ Text.Utf8.bytes raw = bytes := by
  cases entry with
  | absent reason => exact nomatch h
  | hidden reason => exact nomatch h
  | unreadable reason => exact nomatch h
  | file bytes =>
    refine ⟨bytes, rfl, ?_⟩
    unfold Entry.read at h
    dsimp only at h
    cases hDecoded : Text.Utf8.decode bytes with
    | error defect => rw [hDecoded] at h; exact nomatch h
    | ok text =>
      rw [hDecoded] at h
      obtain rfl := Except.ok.inj h
      exact Text.Utf8.bytes_of_decode hDecoded

/-- The ends of loading one file. -/
theorem comesFrom_loadFrom (files : Files) (source : Source) (path : Path) :
    ComesFrom files source path (loadFrom files ⟨some path, source⟩) := by
  cases hRead : (files path).read with
  | error reason =>
    have hPlace : readPlace files ⟨some path, source⟩ = .error (.unreadable path reason) := by
      simp only [readPlace, hRead]
    rw [loadFrom_of_readPlace_error hPlace]
    exact .unreadable hRead
  | ok raw =>
    cases hParse : parse raw with
    | error e =>
      have hPlace : readPlace files ⟨some path, source⟩ = .error (.invalid path e) := by
        simp only [readPlace, hRead, hParse]
      rw [loadFrom_of_readPlace_error hPlace]
      exact .invalid hRead hParse
    | ok c =>
      have hPlace : readPlace files ⟨some path, source⟩ = .ok (c, some raw) := by
        simp only [readPlace, hRead, hParse]
      rw [loadFrom_of_readPlace hPlace]
      cases hValid : validate c with
      | error e => exact .unsound hRead hParse hValid
      | ok u =>
        obtain ⟨bytes, hFile, rfl⟩ := file_of_read hRead
        exact .loaded hFile rfl hParse hValid rfl rfl rfl rfl

/-! ## Loading -/

/-- A file that the caller names and that is there is the first that is. -/
theorem isFirst_argument (hPresent : (files path).isPresent = true) :
    IsFirst files raw base (some path) .argument path :=
  ⟨0, .argument rfl, hPresent, fun _ hLess => absurd hLess (Nat.not_lt_zero _)⟩

/-- What is loaded is what is at the place, unless a file that the caller names is missing. -/
theorem load_eq_loadFrom (h : ∀ path, argument = some path → (files path).isPresent = true) :
    load files (.ofSystem raw) base argument =
      loadFrom files (resolve files (.ofSystem raw) base argument) := by
  cases argument with
  | none => exact load_none
  | some path =>
    have hPresent := h path rfl
    rw [load_of_present hPresent, resolve_of_isFirst (isFirst_argument hPresent)]

theorem validate_default : validate {} = .ok () := by
  have hToken : Text.isAllBlank ({} : Config).notice.token = false := by decide +kernel
  unfold validate
  rw [hToken]
  rfl

/-- A file that the caller names and that is not there is missed, whatever else is there. Otherwise
one of the files that are looked for is the first that is there, or none is. In the first case
loading ends as that file has it: it cannot be read, it is not well formed, it makes no sense, or it
is loaded, and then the configuration, the path, the source and the digest are all those of this
file. In the second case the defaults are loaded, with no path and no digest. -/
theorem load_provenance (files : Files) (raw : Variables) (base argument : Option Path) :
    (∀ path, argument = some path → (files path).isPresent = false →
      load files (.ofSystem raw) base argument = .error (.notFound path)) ∧
    ((∃ source path, IsFirst files raw base argument source path) ∨
      NoneThere files raw base argument) ∧
    ((∀ path, argument = some path → (files path).isPresent = true) →
      (∀ source path, IsFirst files raw base argument source path →
        ComesFrom files source path (load files (.ofSystem raw) base argument)) ∧
      (NoneThere files raw base argument →
        ∃ l, load files (.ofSystem raw) base argument = .ok l ∧ l.config = {} ∧ l.place = {} ∧
          l.snapshot.path = none ∧ l.snapshot.source = Source.builtin.text ∧
          l.snapshot.digest = none)) := by
  refine ⟨?missing, isFirst_or_noneThere files raw base argument, fun hNamed => ⟨?first, ?none⟩⟩
  case missing =>
    rintro path rfl hAbsent
    exact load_of_absent hAbsent
  case first =>
    intro source path hFirst
    rw [load_eq_loadFrom hNamed, resolve_of_isFirst hFirst]
    exact comesFrom_loadFrom files source path
  case none =>
    intro hNone
    rw [load_eq_loadFrom hNamed, resolve_of_noneThere hNone]
    refine ⟨⟨{}, {}, .capture {} {} none⟩, ?_, rfl, rfl, rfl, rfl, rfl⟩
    have hRead : readPlace files {} = .ok ({}, none) := rfl
    rw [loadFrom_of_readPlace hRead, validate_default]
    rfl

/-- Files of which two could be the configuration: one in a directory, and the system's own. -/
def twoFiles : Files := fun path =>
  if path = "/d/config.json" ∨ path = "/etc/power-facade/config.json" then .file [123, 125]
  else .missing

/-- Variables that name a file and a directory. -/
def namingBoth : Variables := fun name =>
  if name = "POWER_FACADE_CONFIG" then some (Text.Utf8.bytes "/gone.json")
  else if name = "POWER_FACADE_CONFIG_DIR" then some (Text.Utf8.bytes "/d")
  else none

/-- Where a variable names a file that is not there, the one in the named directory is loaded, and
is said to come from there. -/
theorem directory_after_missing_file :
    (∀ path, (none : Option Path) = some path → (twoFiles path).isPresent = true) ∧
    IsFirst twoFiles namingBoth none none .environment "/d/config.json" ∧
    ∃ l, load twoFiles (.ofSystem namingBoth) none none = .ok l ∧
      l.snapshot.path = some "/d/config.json" ∧ l.snapshot.source = "environment variable" ∧
      l.snapshot.digest =
        some "44136fa355b3678a1146ad16f7e8649e94fb4fc21fe77e8310c060f61caaff8a" := by
  have hNamed : ∀ path, (none : Option Path) = some path → (twoFiles path).isPresent = true :=
    nofun
  have hPresent : (twoFiles "/d/config.json").isPresent = true := by decide +kernel
  have hJoined : (Path.ofText "/d").join "config.json" = "/d/config.json" := by decide +kernel
  have hFirst : IsFirst twoFiles namingBoth none none .environment "/d/config.json" := by
    have hDir : namingBoth "POWER_FACADE_CONFIG_DIR" = some (Text.Utf8.bytes "/d") := rfl
    refine ⟨2, hJoined ▸ .directory hDir, hPresent, ?_⟩
    intro rank hLess source path hRanked
    cases hRanked with
    | argument hNone => exact nomatch hNone
    | @file path hGone =>
      have hBytes : Text.Utf8.bytes path = Text.Utf8.bytes "/gone.json" :=
        (Option.some.inj hGone).symm
      have hPath : Path.ofText path = "/gone.json" := congrArg Path.mk hBytes
      rw [hPath]
      decide +kernel
    | directory => exact absurd hLess (by decide)
    | user => exact absurd hLess (by decide)
    | system => exact absurd hLess (by decide)
  refine ⟨hNamed, hFirst, ?_⟩
  have hEnds := ((load_provenance twoFiles namingBoth none none).2.2 hNamed).1 _ _ hFirst
  have hLoads : (load twoFiles (.ofSystem namingBoth) none none).isOk = true := by decide +kernel
  have hShown : Path.text "/d/config.json" = "/d/config.json" := by decide +kernel
  have hHashed : hexDigest [123, 125] =
      "44136fa355b3678a1146ad16f7e8649e94fb4fc21fe77e8310c060f61caaff8a" := by decide +kernel
  generalize load twoFiles (.ofSystem namingBoth) none none = ended at hEnds hLoads ⊢
  cases hEnds with
  | @loaded bytes raw l hFile hText hParse hValid hPlace hPath hSource hDigest =>
    obtain rfl : [123, 125] = bytes := Entry.file.inj hFile
    exact ⟨l, rfl, hPath.trans (congrArg some hShown), hSource,
      hDigest.trans (congrArg some hHashed)⟩
  | _ => exact nomatch hLoads

/-! ## What exists but is not there -/

/-- Everything lies behind a directory that may not be searched. -/
def closedFiles : Files := fun _ => .closed

/-- Files of which every one is a single byte that begins no character. -/
def foreignFiles : Files := fun _ => .file [0xFF]

/-- A variable whose value is no text. -/
def foreignVariable : Variables := fun name =>
  if name = "POWER_FACADE_CONFIG" then some [0x2F, 0xFF] else none

/-- A file that exists may be missed although the caller names it; a file that exists and that a
variable names may be passed over; and a file may not be read although its bytes are there, so that
what it says is not even looked at. -/
theorem existing_file_may_be_missed :
    (¬ ∀ (files : Files) (raw : Variables) (base : Option Path) (path : Path),
      (files path).isThere = true →
        load files (.ofSystem raw) base (some path) ≠ .error (.notFound path)) ∧
    (¬ ∀ (files : Files) (raw : Variables) (base : Option Path) (bytes : List UInt8),
      raw "POWER_FACADE_CONFIG" = some bytes → (files ⟨bytes⟩).isThere = true →
        (resolve files (.ofSystem raw) base none).path = some ⟨bytes⟩) ∧
    (¬ ∀ (files : Files) (raw : Variables) (base : Option Path) (path : Path) (bytes : List UInt8),
      files path = .file bytes →
        (∀ text, Text.Utf8.bytes text = bytes → ∃ e, parse text = .error e) →
        ∃ e, load files (.ofSystem raw) base (some path) = .error (.invalid path e)) := by
  refine ⟨fun hAll => ?_, fun hAll => ?_, fun hAll => ?_⟩
  · exact hAll closedFiles (fun _ => none) none "/c.json" rfl (load_of_absent rfl)
  · have hPlace := hAll foreignFiles foreignVariable none [0x2F, 0xFF] rfl rfl
    revert hPlace
    decide +kernel
  · have hUnspelled : ∀ text, Text.Utf8.bytes text = [0xFF] → ∃ e, parse text = .error e := by
      intro text hBytes
      have hDecoded := Text.Utf8.decode_bytes text
      rw [hBytes] at hDecoded
      exact nomatch hDecoded
    obtain ⟨e, hInvalid⟩ :=
      hAll foreignFiles (fun _ => none) none "/c.json" [0xFF] rfl hUnspelled
    rw [load_of_present rfl] at hInvalid
    exact nomatch hInvalid

end DevicePower.Config
