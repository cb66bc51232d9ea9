import DevicePower.Log.Directive
import DevicePower.Log.Settings

/-!
# Which records are written

A library that the log can be filtered with; the executable uses it. A filter is a list of
directives between commas. Of the directives about a record the most particular one decides, and of
two that are equally particular the later. A filter without directives lets nothing through.

Nothing here happens inside spans, so a directive about spans lets no record through. It counts for
the most talkative level all the same, and one that asks for a value counts as `trace`.

## Main results

* `readsLevels_library`: the library reads levels.
* `passes_of_needsSpan`: directives about spans let no record through.
-/

namespace DevicePower.Log

/-- A text cut at every comma. -/
def cutAtCommas (s : List Char) : List (List Char) :=
  s.foldr
    (fun c parts =>
      if c = ',' then [] :: parts
      else
        match parts with
        | [] => [[c]]
        | part :: rest => (c :: part) :: rest)
    [[]]

/-- A filter, as its directives in the order given. -/
abbrev Filter := List Directive

namespace Filter

/-- What cannot be read of a list of directives is left out. There is no list, and the program
crashes, where the parts of a directive cannot be cut out. -/
def readable? : List (List Char) → Option Filter
  | [] => some []
  | part :: rest =>
    match Directive.parse part with
    | .ok d => (readable? rest).map (d :: ·)
    | .error .malformed => readable? rest
    | .error .torn => none

/-- The parts of a filter's text. -/
def parts (s : String) : List (List Char) := (cutAtCommas s.toList).filter fun part => !part.isEmpty

/-- The filter of a text, all of which has to be readable. -/
def parse (s : String) : Except Directive.Defect Filter := (parts s).mapM Directive.parse

/-- The more talkative of two verbosities. -/
def louder (v w : Verbosity) : Verbosity := if v.rank < w.rank then w else v

/-- The most talkative verbosity that a filter can come to. -/
def maxLevel (f : Filter) : Verbosity :=
  if f.any fun d => d.field.any fun t => t.hasValue then .trace
  else f.foldl (fun v d => louder v d.verbosity) .off

/-- The directive that decides about a record. -/
def deciding (f : Filter) (r : Record) : Option Directive :=
  f.foldl
    (fun best d =>
      if d.concerns r then
        match best with
        | none => some d
        | some b => if b.outranks d then best else some d
      else best)
    none

/-- Whether a record is written. -/
def passes (f : Filter) (r : Record) : Bool :=
  match f.deciding r with
  | some d => d.verbosity.passes r.level
  | none => false

/-- The library of these filters. -/
def library : FilterLibrary where
  read s :=
    match parse s with
    | .ok filter => .filter filter.passes
    | .error .malformed => .unreadable
    | .error .torn => .crashed
  readLoosely s := (readable? (parts s)).map passes

theorem readsLevels_library : library.ReadsLevels := by
  intro v
  cases v <;> exact ⟨_, rfl⟩

/-- Directives about spans let no record through. -/
theorem passes_of_needsSpan {f : Filter} (h : ∀ d ∈ f, d.needsSpan = true) (r : Record) :
    f.passes r = false := by
  have hNone : ∀ g : Filter, (∀ d ∈ g, d.needsSpan = true) → g.deciding r = none := by
    intro g hg
    unfold deciding
    induction g with
    | nil => rfl
    | cons d rest ih =>
      rw [List.foldl_cons, Directive.concerns_of_needsSpan (hg d List.mem_cons_self)]
      exact ih fun e he => hg e (List.mem_cons_of_mem _ he)
  simp [passes, hNone f h]

end Filter

end DevicePower.Log
