import DevicePower.Log.Filter
import DevicePower.Proofs.Api.Asked
import DevicePower.Proofs.Config.Loading
import DevicePower.Shell.Perform

/-!
# The configuration that a variable names

A variable may name the configuration file, and two readers look at it. The library knows it as one
of the places where a file may be, and goes on to the next if there is none. The shell takes it for
the value of an option that was not given, and hands it to the library as a file that the caller
names. So a command line without the option does not find what the library finds by itself: the
source is another, a file that is missing is an error, and an empty variable is no value at all, for
which no command line is understood.

## Main results

* `read_of_ne_empty`, `read_of_empty`: what the variable does to the reading of a command line.
* `Machine.load_variable`: what the shell loads, in terms of what the library finds.
* `shown_alike_iff`: when the shell shows what the library loads.
-/

namespace DevicePower.Shell

/-! ## The option and its variable -/

/-- The option that names the configuration file. -/
def configOption : Opt :=
  { name := "config", value := some .path, fallback := some Config.fileVariable }

/-- The option may stand with a command and with all commands within it, and no other has a
variable. -/
inductive Offers : Grammar → Prop where
  | intro {g : Grammar} (hOwn : configOption ∈ g.options)
      (hOthers : ∀ o ∈ g.options, o = configOption ∨ o.fallback = none)
      (hWithin : ∀ c ∈ g.commands, Offers c) : Offers g

theorem common_options_cases : ∀ o ∈ commonOptions, o = configOption ∨ o.fallback = none := by
  intro o hMem
  simp only [commonOptions, List.mem_cons, List.not_mem_nil, or_false] at hMem
  rcases hMem with rfl | rfl | rfl | rfl
  · exact Or.inl rfl
  all_goals exact Or.inr rfl

theorem offers_leaf (name : String) (positionals : List Positional) {options : List Opt}
    (hOptions : ∀ o ∈ options, o.fallback = none) : Offers (leaf name positionals options) := by
  refine .intro (List.mem_append_left _ List.mem_cons_self) (fun o hMem => ?_)
    (List.forall_mem_nil _)
  rcases List.mem_append.mp hMem with hCommon | hOwn
  · exact common_options_cases o hCommon
  · exact Or.inr (hOptions o hOwn)

/-- Every command of the shell may be told the configuration file. -/
theorem offers_grammar : Offers grammar := by
  have hGroup : ∀ name commands, (∀ c ∈ commands, Offers c) →
      Offers { name, options := commonOptions, commands } :=
    fun _ _ hWithin => .intro List.mem_cons_self common_options_cases hWithin
  have hPlain : ∀ options : List Opt, (options.all fun o => o.fallback.isNone) = true →
      ∀ o ∈ options, o.fallback = none :=
    fun _ hAll o hMem => Option.isNone_iff_eq_none.mp (List.all_eq_true.mp hAll o hMem)
  refine hGroup _ _ fun c hMem => ?_
  simp only [List.mem_cons, List.not_mem_nil, or_false] at hMem
  rcases hMem with rfl | rfl | rfl | rfl | rfl | rfl | rfl | rfl | rfl | rfl
  case inr.inr.inr.inr.inr.inr.inr.inr.inl =>
    refine hGroup _ _ fun c hInner => ?_
    simp only [List.mem_cons, List.not_mem_nil, or_false] at hInner
    rcases hInner with rfl | rfl | rfl <;> exact offers_leaf _ _ (hPlain _ rfl)
  all_goals exact offers_leaf _ _ (hPlain _ rfl)

section Reading

variable {env : Config.Environment} {g : Grammar}

/-- Whether the variable of an option that was not given has no proper value. -/
def Level.isSpoiled (l : Level) (g : Grammar) (env : Config.Environment) : Bool :=
  g.options.any fun o =>
    !l.has o.name && (o.fallback.bind env).any fun given => !o.value.any fun k => k.accepts given

theorem isSpoiled_of_ne_empty (hOffers : Offers g) (hVariable : env Config.fileVariable ≠ some "")
    (l : Level) : l.isSpoiled g env = false := by
  obtain ⟨-, hOthers, -⟩ := hOffers
  refine List.any_eq_false.mpr fun o hMem => ?_
  rcases hOthers o hMem with rfl | hNone
  · show ¬ (!l.has "config" && (env Config.fileVariable).any fun path => !!path.isEmpty) = true
    cases hGiven : env Config.fileVariable with
    | none => simp
    | some path =>
      have hNonempty : path ≠ "" := fun hEmpty => hVariable (hGiven.trans (congrArg some hEmpty))
      simp [hNonempty]
  · rw [hNone]
    simp

theorem isSpoiled_of_empty (hOffers : Offers g) (hVariable : env Config.fileVariable = some "")
    {l : Level} (hFlag : (l.given.find? fun given => given.1 == "config") = none) :
    l.isSpoiled g env = true := by
  obtain ⟨hOwn, -, -⟩ := hOffers
  have hHas : l.has "config" = false := by
    rw [List.find?_eq_none] at hFlag
    exact List.any_eq_false.mpr hFlag
  refine List.any_eq_true.mpr ⟨configOption, hOwn, ?_⟩
  show (!l.has "config" && (env Config.fileVariable).any fun path => !!path.isEmpty) = true
  rw [hHas, hVariable]
  rfl

/-- Where a command's words end, only an empty variable makes a difference. -/
theorem finish_of_ne_empty (hOffers : Offers g) (hVariable : env Config.fileVariable ≠ some "")
    (l : Level) : l.finish g env = l.finish g fun _ => none := by
  unfold Level.finish
  cases l.settle with
  | error e => rfl
  | ok settled =>
    have hUnset : settled.isSpoiled g (fun _ => none) = false :=
      isSpoiled_of_ne_empty hOffers (Option.some_ne_none "").symm settled
    show (if settled.isSpoiled g env || _ then _ else _) =
      (if settled.isSpoiled g (fun _ => none) || _ then _ else _)
    rw [isSpoiled_of_ne_empty hOffers hVariable settled, hUnset]

/-- Where a command's words end without the option, an empty variable is a misuse. -/
theorem finish_of_empty {l l' : Level} (hOffers : Offers g)
    (hVariable : env Config.fileVariable = some "")
    (hFinish : l.finish g (fun _ => none) = .ok l')
    (hFlag : (l'.given.find? fun given => given.1 == "config") = none) :
    l.finish g env = .error .misuse := by
  unfold Level.finish at *
  cases hSettled : l.settle with
  | error e => rw [hSettled] at hFinish; exact nomatch hFinish
  | ok settled =>
    have hEnd : settled = l' := by
      rw [hSettled] at hFinish
      dsimp only [bind, Except.bind] at hFinish
      split at hFinish
      · exact nomatch hFinish
      · exact Except.ok.inj hFinish
    subst hEnd
    show (if settled.isSpoiled g env || _ then _ else _) = _
    rw [isSpoiled_of_empty hOffers hVariable hFlag]
    rfl

/-- What a word that names no command makes of what has been read of the command it stands in, with
the words behind it. -/
def Level.take (l : Level) (title : String) (g : Grammar) (word : String) (rest : List String) :
    Except Stop Level :=
  if (!l.isTrailing && !l.awaitsValue) && word == "help" && !g.commands.isEmpty then
    .error (helpOn g rest)
  else if l.isTrailing then l.argument g.positionals word
  else
    match word.toList with
    | ['-', '-'] => .ok { l with isTrailing := true }
    | '-' :: '-' :: body =>
      l.long title g.options (cutAtEquals body).1 (cutAtEquals body).2
    | '-' :: c :: row => l.shorts title g.options (c :: row)
    | _ =>
      match l.awaiting with
      | .value name kind => .ok { l with awaiting := .check name kind word }
      | _ => l.argument g.positionals word

/-- A word either names a command, which the rest belongs to, or goes to the command that is being
read. The variables have no part in it. -/
theorem read_cons_cases (title : String) (g : Grammar) (l : Level) (word : String)
    (rest : List String) :
    (∃ c ∈ g.commands, ∃ title', ∀ env, read env title g l (word :: rest) = do
      let inner ← read env title' c {} rest
      let l ← l.finish g env
      return (g.name, l.given) :: inner) ∨
    ∀ env, read env title g l (word :: rest) =
      l.take title g word rest >>= fun l => read env title g l rest := by
  cases hNamed : g.commands.find? fun c => (!l.isTrailing && !l.awaitsValue) && c.name == word with
  | some c =>
    refine Or.inl ⟨c, List.mem_of_find?_eq_some hNamed, title ++ "-" ++ c.name, fun env => ?_⟩
    rw [read]
    simp only [hNamed]
  | none =>
    refine Or.inr fun env => ?_
    rw [read]
    simp only [hNamed]
    unfold Level.take
    generalize word.toList = characters
    split
    · rfl
    · split
      · rfl
      · split
        · rfl
        · simp only
        · simp only
        · cases l.awaiting <;> simp only <;> rfl

/-- An option that no command of a line was given was not given to the outermost nor within. -/
theorem value?_cons_eq_none {name : String} {given : List (String × String)} {inner : Matches}
    {option : String} (h : Matches.value? ((name, given) :: inner) option = none) :
    (given.find? fun g => g.1 == option) = none ∧ Matches.value? inner option = none := by
  unfold Matches.value? at h
  rw [List.reverse_cons, List.findSome?_append, Option.or_eq_none_iff] at h
  refine ⟨?_, h.1⟩
  have hOuter := h.2
  simpa using hOuter

/-- A variable that is not empty makes no difference to how a command line is read. -/
theorem read_of_ne_empty (hVariable : env Config.fileVariable ≠ some "") (words : List String) :
    ∀ {title : String} {g : Grammar} {l : Level}, Offers g →
      read env title g l words = read (fun _ => none) title g l words := by
  induction words with
  | nil =>
    intro title g l hOffers
    unfold read
    rw [finish_of_ne_empty hOffers hVariable]
  | cons word rest ih =>
    intro title g l hOffers
    rcases read_cons_cases title g l word rest with ⟨c, hMem, title', hNamed⟩ | hTaken
    · have hInner : Offers c := by
        obtain ⟨-, -, hWithin⟩ := hOffers
        exact hWithin c hMem
      rw [hNamed env, hNamed fun _ => none, ih hInner, finish_of_ne_empty hOffers hVariable]
    · rw [hTaken env, hTaken fun _ => none]
      cases l.take title g word rest with
      | error stop => rfl
      | ok l' => exact ih hOffers

/-- A command line without the option is a misuse where the variable is empty. -/
theorem read_of_empty (hVariable : env Config.fileVariable = some "") (words : List String) :
    ∀ {title : String} {g : Grammar} {l : Level} {found : Matches}, Offers g →
      read (fun _ => none) title g l words = .ok found → found.value? "config" = none →
      read env title g l words = .error .misuse := by
  induction words with
  | nil =>
    intro title g l found hOffers hRead hFlag
    unfold read at *
    obtain ⟨l', hFinish, hEnd⟩ := Api.bind_eq_ok_iff.mp hRead
    have hGiven : (l'.given.find? fun given => given.1 == "config") = none := by
      split at hEnd
      · obtain rfl := Except.ok.inj hEnd
        exact (value?_cons_eq_none hFlag).1
      · cases hEnd
    rw [finish_of_empty hOffers hVariable hFinish hGiven]
    rfl
  | cons word rest ih =>
    intro title g l found hOffers hRead hFlag
    rcases read_cons_cases title g l word rest with ⟨c, hMem, title', hNamed⟩ | hTaken
    · have hInnerOffers : Offers c := by
        obtain ⟨-, -, hWithin⟩ := hOffers
        exact hWithin c hMem
      rw [hNamed] at hRead ⊢
      obtain ⟨inner, hInner, hRead⟩ := Api.bind_eq_ok_iff.mp hRead
      obtain ⟨l', -, hEnd⟩ := Api.bind_eq_ok_iff.mp hRead
      obtain rfl := Except.ok.inj hEnd
      rw [ih hInnerOffers hInner (value?_cons_eq_none hFlag).2]
      rfl
    · rw [hTaken] at hRead ⊢
      obtain ⟨l', hTake, hNext⟩ := Api.bind_eq_ok_iff.mp hRead
      rw [hTake]
      exact ih hOffers hNext hFlag

end Reading

/-! ## What is shown -/

namespace Machine

/-- What the shell loads where no option names a file. It takes a file that the variable names for
one that the caller names. -/
def loading (m : Machine) : Except Config.LoadError Config.Loaded :=
  match m.env Config.fileVariable with
  | none => m.load none
  | some path =>
    if (m.files path).isPresent then
      (m.load none).map (Config.Loaded.withSource .argument)
    else .error (.notFound path)

/-- The library finds by itself what the variable names, so the shell differs in the source, or in
that it misses the file. -/
theorem load_variable (m : Machine) :
    m.load ((m.env Config.fileVariable).map Config.Path.ofText) = m.loading := by
  unfold loading
  cases hVariable : m.env Config.fileVariable with
  | none => rfl
  | some path =>
    dsimp only
    split
    · next hThere =>
      rw [load, load, Option.map_some, Config.load_of_present hThere, Config.load_none,
        Config.resolve_of_variable hVariable, if_pos hThere]
      exact Config.loadFrom_source (some (Config.Path.ofText path)) .environment .argument
    · next hGone => exact Config.load_of_absent (eq_false_of_ne_true hGone)

end Machine

/-- What is shown of a configuration, or of what went wrong when it was loaded. -/
def shown (m : Machine) : Except Config.LoadError Config.Loaded → Verdict × List Log.Entry
  | .error e => (.unconfigured e, [])
  | .ok l => (.done (showConfig m l), [⟨0, l.record⟩])

theorem verdict_showConfig (m : Machine) (path : Option String) :
    Command.showConfig.verdict m path = shown m (m.load (path.map Config.Path.ofText)) := by
  show withConfig m path (fun l => (.done (showConfig m l), [])) = _
  unfold withConfig
  cases m.load (path.map Config.Path.ofText) <;> rfl

/-- The source is shown. -/
theorem source_eq_of_shown_eq {m : Machine} {l l' : Config.Loaded}
    (h : shown m (.ok l) = shown m (.ok l')) : l.snapshot.source = l'.snapshot.source := by
  have hPayload := Verdict.done.inj (congrArg Prod.fst h)
  have hDocument := Json.Value.object.inj (congrArg Payload.document hPayload)
  simp only [List.cons.injEq, Prod.mk.injEq, Json.Value.object.injEq, Json.Value.text.injEq,
    true_and] at hDocument
  exact hDocument.1.2.1

/-- What is shown is the same only if what went wrong is. -/
theorem shown_error_eq_iff {m : Machine} {e : Config.LoadError}
    {loading : Except Config.LoadError Config.Loaded} :
    shown m (.error e) = shown m loading ↔ loading = .error e := by
  constructor
  · intro h
    cases loading with
    | error e' => rw [Verdict.unconfigured.inj (congrArg Prod.fst h)]
    | ok l => exact nomatch congrArg Prod.fst h
  · rintro rfl
    rfl

/-- What the shell loads is shown as what the library loads if and only if the variable names no
file, or one that is there and that the library cannot load either. -/
theorem shown_loading_eq_iff (m : Machine) :
    shown m m.loading = shown m (m.load none) ↔
      ∀ path, m.env Config.fileVariable = some path →
        (m.files path).isPresent = true ∧ ∃ e, m.load none = .error e := by
  unfold Machine.loading
  cases hVariable : m.env Config.fileVariable with
  | none => exact iff_of_true rfl nofun
  | some path =>
    dsimp only
    simp only [Option.some.injEq, forall_eq']
    split
    · next hThere =>
      cases hLoad : m.load none with
      | error e => exact iff_of_true rfl ⟨hThere, e, rfl⟩
      | ok l =>
        have hSource : l.snapshot.source = Config.Source.environment.text := by
          rw [Machine.load, Config.load_none, Config.resolve_of_variable hVariable,
            if_pos hThere] at hLoad
          exact (Config.loadFrom_ok hLoad).2.2
        refine iff_of_false (fun hSame => ?_) (fun hFails => nomatch hFails.2)
        have hShown : Config.Source.argument.text = l.snapshot.source :=
          source_eq_of_shown_eq hSame
        exact absurd (hShown.trans hSource) (by decide)
    · next hGone =>
      refine iff_of_false (fun hSame => ?_) (fun hFails => hGone hFails.1)
      exact Config.load_none_ne_notFound path (shown_error_eq_iff.mp hSame)

/-- A line that asks for the configuration to be shown and names no file is a misuse where the
variable is empty. Elsewhere it shows what the shell loads. That is what the library loads by itself
if and only if the variable names no file, or one for which the library fails as well. -/
theorem shown_alike_iff (m : Machine) {words : List String} {found : Matches}
    (hRead : read (fun _ => none) programName grammar {} words = .ok found)
    (hPath : found.path = ["config", "show"]) (hFlag : found.value? "config" = none) :
    (m.env Config.fileVariable = some "" → Invocation.parse m.env words = .error .misuse) ∧
    (m.env Config.fileVariable ≠ some "" →
      ∃ i, Invocation.parse m.env words = .ok i ∧ i.command = .showConfig ∧
        i.command.verdict m i.configPath = shown m m.loading ∧
        (i.command.verdict m i.configPath = shown m (m.load none) ↔
          ∀ path, m.env Config.fileVariable = some path →
            (m.files path).isPresent = true ∧ ∃ e, m.load none = .error e)) := by
  constructor
  · intro hEmpty
    unfold Invocation.parse
    rw [read_of_empty hEmpty words offers_grammar hRead hFlag]
    rfl
  · intro hVariable
    have hParsed : Invocation.parse m.env words =
        .ok ⟨Common.ofMatches m.env found, .showConfig⟩ := by
      unfold Invocation.parse
      rw [read_of_ne_empty hVariable words offers_grammar, hRead]
      dsimp only [bind, Except.bind]
      unfold Command.ofMatches
      rw [hPath]
      rfl
    have hConfig : (Common.ofMatches m.env found).config = m.env Config.fileVariable := by
      show (found.value? "config").or (m.env Config.fileVariable) = _
      rw [hFlag, Option.none_or]
    have hVerdict : Command.showConfig.verdict m (Common.ofMatches m.env found).config =
        shown m m.loading := by
      rw [verdict_showConfig, hConfig, m.load_variable]
    exact ⟨_, hParsed, rfl, hVerdict, hVerdict ▸ shown_loading_eq_iff m⟩

/-- A machine on which the variable names a path, with what is there, and nothing is elsewhere. -/
def namingMachine (entry : Config.Entry) : Machine where
  files path := if path = "/named.json" then entry else .missing
  env name := if name = Config.fileVariable then some "/named.json" else none
  filters := Log.Filter.library
  pid := 7
  origin := ⟨"run", "host"⟩
  stamp _ := ""

/-- Where the variable names a directory the shell and the library fail alike. -/
theorem directory_fails_alike :
    ∃ i, Invocation.parse (namingMachine .directory).env ["config", "show"] = .ok i ∧
      i.command.verdict (namingMachine .directory) i.configPath =
        shown (namingMachine .directory) ((namingMachine .directory).load none) := by
  have hRead : read (fun _ => none) programName grammar {} ["config", "show"] =
      .ok [(programName, []), ("config", []), ("show", [])] := rfl
  obtain ⟨i, hParsed, -, -, hAlike⟩ :=
    (shown_alike_iff (namingMachine .directory) hRead rfl rfl).2 (by decide)
  refine ⟨i, hParsed, hAlike.mpr ?_⟩
  rintro path hNamed
  obtain rfl : "/named.json" = path := Option.some.inj hNamed
  exact ⟨rfl, _, rfl⟩

/-- A machine on which the variable names a file with an empty object. -/
def objectMachine : Machine := namingMachine (.file [123, 125])

/-- The shell does not always show what the library loads: there, it shows the file as one that the
caller named. -/
theorem named_file_is_not_shown_alike :
    ¬ ∀ (m : Machine) (words : List String) (found : Matches),
      read (fun _ => none) programName grammar {} words = .ok found →
        found.path = ["config", "show"] → found.value? "config" = none →
        ∃ i, Invocation.parse m.env words = .ok i ∧
          i.command.verdict m i.configPath = shown m (m.load none) := by
  intro hAll
  obtain ⟨i, hParsed, hAlike⟩ := hAll objectMachine ["config", "show"]
    [(programName, []), ("config", []), ("show", [])] rfl rfl rfl
  obtain rfl : ⟨{ config := some "/named.json" }, .showConfig⟩ = i := Except.ok.inj hParsed
  have hShell : Command.showConfig.verdict objectMachine (some "/named.json") =
      shown objectMachine objectMachine.loading := by
    rw [verdict_showConfig, ← Machine.load_variable]
    rfl
  have hLoads : (objectMachine.load none).isOk = true := by
    decide +kernel
  obtain ⟨-, e, hFailed⟩ := (shown_loading_eq_iff _).mp (hShell.symm.trans hAlike) _ rfl
  rw [hFailed] at hLoads
  exact nomatch hLoads

end DevicePower.Shell
