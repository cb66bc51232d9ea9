import DevicePower.Proofs.Json.Grammar
import Mathlib.Data.List.Forall2

/-!
# Edited documents

A document of two levels, an object whose sections are objects, may be edited: members are taken
out, on either level, the members that are left stand in any order, and members with other names are
added, whose values may be anything. This module says which texts such a document has. They may be
laid out in any way, so the layouts that the printer knows are among them.

## Main results

* `edited_printed`: an object that is edited and then printed, in one line or in several, is one of
  the edited object's texts.
* `edited_text`: so is an object as it is printed, with every member kept.
-/

namespace DevicePower.Json.Grammar

/-- A member whose name is none of `names`, with any value. -/
def Member.IsForeign (names : List String) (m : Member) : Prop :=
  (∃ name, name ∉ names ∧ m.HasName name) ∧ IsValue m.value

/-- A text of an object of which some members are kept. `members` are its names, each with the texts
that its value may have. -/
inductive Edited (members : List (String × (List Char → Prop))) (keep : String → Bool)
    (cs : List Char) : Prop
  | intro {ms kept added : List Member} (hText : Bracketed '{' '}' (ms.map Member.text) cs)
      (hOrder : ms.Perm (kept ++ added))
      (hKept : List.Forall₂ (fun member m => m.HasName member.1 ∧ member.2 m.value)
        (members.filter fun member => keep member.1) kept)
      (hAdded : ∀ m ∈ added, m.IsForeign (members.map Prod.fst))

/-- Which members of a document are kept. -/
structure Kept where
  /-- The sections, and the document's other members. -/
  outer : String → Bool
  /-- The members of each section. -/
  inner : String → String → Bool

/-- Every member is kept. -/
def Kept.all : Kept := ⟨fun _ => true, fun _ _ => true⟩

/-- A text of a section of which some members are kept. What is no section is as it was. -/
def EditedSection (keep : String → Bool) : Value → List Char → Prop
  | .object members => Edited (members.map fun m => (m.1, Writes m.2)) keep
  | v => Writes v

/-- A text of a document of which some members are kept. -/
def EditedDocument (kept : Kept) : Value → List Char → Prop
  | .object members =>
    Edited (members.map fun m => (m.1, EditedSection (kept.inner m.1) m.2)) kept.outer
  | v => Writes v

/-! ## Printed documents -/

/-- The layouts of the printer: one line, or several lines from a level on. -/
inductive Layout where
  | line
  | lines (level : Nat)

namespace Layout

/-- A value in a layout. -/
def text : Layout → Value → List Char
  | line => print
  | lines level => pretty level

/-- The layout of what is inside a list or object. -/
def inner : Layout → Layout
  | line => line
  | lines level => lines (level + 1)

/-- A member as it is printed. -/
def member (l : Layout) (m : String × Value) : Member where
  body := m.1.toList.flatMap escape
  before := []
  behind := match l with
    | line => []
    | lines _ => [' ']
  value := l.inner.text m.2

end Layout

theorem isGap_nil : IsGap [] := nofun

theorem isGap_newLine (level : Nat) : IsGap (newLine level) := by
  intro c hMem
  unfold newLine at hMem
  rcases List.mem_cons.mp hMem with rfl | hBlank
  · exact Or.inr (Or.inl rfl)
  · exact Or.inl (List.eq_of_mem_replicate hBlank)

/-- Parts that are printed with a comma and a gap between them. -/
theorem separated_of_items {β : Type} {part : β → List Char} {items : List β → List Char}
    {between after : List Char} (hBetween : IsGap between) (hAfter : IsGap after)
    (hOne : ∀ x, items [x] = part x)
    (hMore : ∀ x y rest, items (x :: y :: rest) =
      part x ++ ',' :: (between ++ items (y :: rest))) (rest : List β) :
    ∀ (x : β) {before : List Char}, IsGap before →
      Separated ((x :: rest).map part) (before ++ (items (x :: rest) ++ after)) := by
  induction rest with
  | nil =>
    intro x before hBefore
    rw [hOne]
    exact .last hBefore hAfter
  | cons y rest ih =>
    intro x before hBefore
    rw [hMore, List.append_assoc, List.cons_append, List.append_assoc]
    exact .cons hBefore isGap_nil (ih y hBetween)

theorem bracketed_list (l : Layout) (xs : List Value) :
    Bracketed '[' ']' (xs.map l.inner.text) (l.text (.list xs)) := by
  cases xs with
  | nil => cases l <;> exact .empty isGap_nil
  | cons x rest =>
    cases l with
    | line =>
      have hOne : ∀ x, printItems [x] = print x := fun x => by rw [printItems]
      have hMore : ∀ x y rest, printItems (x :: y :: rest) =
          print x ++ ',' :: ([] ++ printItems (y :: rest)) := fun x y rest => by
        rw [printItems]
        rfl
      have hParts := separated_of_items isGap_nil isGap_nil hOne hMore rest x isGap_nil
      rw [List.nil_append, List.append_nil] at hParts
      exact .parts hParts
    | lines level =>
      have hOne : ∀ x, prettyItems (level + 1) [x] = pretty (level + 1) x := fun x => by
        rw [prettyItems]
      have hMore : ∀ x y rest, prettyItems (level + 1) (x :: y :: rest) = pretty (level + 1) x ++
          ',' :: (newLine (level + 1) ++ prettyItems (level + 1) (y :: rest)) := fun x y rest => by
        rw [prettyItems]
        simp
      have hParts := separated_of_items (isGap_newLine (level + 1)) (isGap_newLine level) hOne hMore
        rest x (isGap_newLine (level + 1))
      have hText : (Layout.lines level).text (.list (x :: rest)) = '[' :: (newLine (level + 1) ++
          (prettyItems (level + 1) (x :: rest) ++ newLine level) ++ [']']) := by
        show pretty level _ = _
        rw [pretty]
        simp
      rw [hText]
      exact .parts hParts

theorem bracketed_object (l : Layout) (ms : List (String × Value)) :
    Bracketed '{' '}' ((ms.map l.member).map Member.text) (l.text (.object ms)) := by
  rw [List.map_map]
  cases ms with
  | nil => cases l <;> exact .empty isGap_nil
  | cons m rest =>
    cases l with
    | line =>
      have hOne : ∀ m, printMembers [m] = (Layout.line.member m).text := fun m => by
        rw [printMembers]
        rfl
      have hMore : ∀ m n rest, printMembers (m :: n :: rest) =
          (Layout.line.member m).text ++ ',' :: ([] ++ printMembers (n :: rest)) := by
        intro m n rest
        rw [printMembers]
        rfl
      have hParts := separated_of_items isGap_nil isGap_nil hOne hMore rest m isGap_nil
      rw [List.nil_append, List.append_nil] at hParts
      exact .parts hParts
    | lines level =>
      have hOne : ∀ m, prettyMembers (level + 1) [m] = ((Layout.lines level).member m).text :=
        fun m => by
          rw [prettyMembers]
          rfl
      have hMore : ∀ m n rest, prettyMembers (level + 1) (m :: n :: rest) =
          ((Layout.lines level).member m).text ++
            ',' :: (newLine (level + 1) ++ prettyMembers (level + 1) (n :: rest)) := by
        intro m n rest
        rw [prettyMembers, List.append_assoc]
        rfl
      have hParts := separated_of_items (isGap_newLine (level + 1)) (isGap_newLine level) hOne hMore
        rest m (isGap_newLine (level + 1))
      have hText : (Layout.lines level).text (.object (m :: rest)) = '{' :: (newLine (level + 1) ++
          (prettyMembers (level + 1) (m :: rest) ++ newLine level) ++ ['}']) := by
        show pretty level _ = _
        rw [pretty]
        simp
      rw [hText]
      exact .parts hParts

/-- A list or an object apart, every layout is the same. -/
theorem Layout.text_eq_print (l : Layout) {v : Value} (hList : ∀ xs, v ≠ .list xs)
    (hObject : ∀ ms, v ≠ .object ms) : l.text v = print v := by
  cases l with
  | line => rfl
  | lines level =>
    show pretty level v = print v
    cases v with
    | list xs => exact absurd rfl (hList xs)
    | object ms => exact absurd rfl (hObject ms)
    | _ => rw [pretty]

theorem writes_text (l : Layout) (s : String) : Writes (.text s) (l.text (.text s)) := by
  rw [l.text_eq_print (v := .text s) nofun nofun, print]
  exact writes_printText s

theorem writes_int (l : Layout) (i : Int) : Writes (.int i) (l.text (.int i)) := by
  rw [l.text_eq_print (v := .int i) nofun nofun]
  show Writes (.int i) (print (.number (.integer i)))
  rw [print, printNumber]
  exact .int i

theorem writes_bool (l : Layout) (b : Bool) : Writes (.bool b) (l.text (.bool b)) := by
  rw [l.text_eq_print (v := .bool b) nofun nofun]
  cases b with
  | true => rw [print]; exact .yes
  | false => rw [print]; exact .no

section Paired

variable {β γ : Type} (f : β → γ) (xs : List β)

theorem map_fst_paired : (xs.map fun x => (x, f x)).map Prod.fst = xs := by
  rw [List.map_map]
  exact List.map_id xs

theorem map_snd_paired : (xs.map fun x => (x, f x)).map Prod.snd = xs.map f := by
  rw [List.map_map]
  rfl

end Paired

/-- A list as it is printed, if each of its items is printed so. -/
theorem writes_list (l : Layout) {xs : List Value} (h : ∀ x ∈ xs, Writes x (l.inner.text x)) :
    Writes (.list xs) (l.text (.list xs)) := by
  have hItems : ∀ p ∈ xs.map fun x => (x, l.inner.text x), Writes p.1 p.2 :=
    List.forall_mem_map.mpr h
  have hWrites := Writes.list hItems (map_snd_paired l.inner.text xs ▸ bracketed_list l xs)
  rwa [map_fst_paired] at hWrites

/-- A member as it is printed has its name. -/
theorem hasName_member (l : Layout) (m : String × Value) : (l.member m).HasName m.1 := by
  refine ⟨spells_flatMap_escape m.1.toList, isGap_nil, ?_⟩
  cases l with
  | line => exact isGap_nil
  | lines level =>
    intro c hMem
    exact Or.inl (List.mem_singleton.mp hMem)

/-- An object whose members were edited and that was printed then. -/
theorem edited_printed (l : Layout) {members : List (String × (List Char → Prop))}
    {keep : String → Bool} {ms kept added : List (String × Value)}
    (hOrder : ms.Perm (kept ++ added))
    (hKept : List.Forall₂ (fun member m => m.1 = member.1 ∧ member.2 (l.inner.text m.2))
      (members.filter fun member => keep member.1) kept)
    (hAdded : ∀ m ∈ added, m.1 ∉ members.map Prod.fst ∧ IsValue (l.inner.text m.2)) :
    Edited members keep (l.text (.object ms)) := by
  have hMembers : (ms.map l.member).Perm (kept.map l.member ++ added.map l.member) := by
    rw [← List.map_append]
    exact hOrder.map l.member
  refine .intro (bracketed_object l ms) hMembers ?_ ?_
  · rw [List.forall₂_map_right_iff]
    exact hKept.imp fun member m h => ⟨h.1 ▸ hasName_member l m, h.2⟩
  · intro m hMem
    obtain ⟨entry, hEntry, rfl⟩ := List.mem_map.mp hMem
    exact ⟨⟨entry.1, (hAdded entry hEntry).1, hasName_member l entry⟩, (hAdded entry hEntry).2⟩

/-- An object as it is printed, if each of its values may be printed so. -/
theorem edited_text (l : Layout) {members : List (String × Value)}
    (written : String × Value → List Char → Prop)
    (h : ∀ m ∈ members, written m (l.inner.text m.2)) :
    Edited (members.map fun m => (m.1, written m)) (fun _ => true) (l.text (.object members)) := by
  refine edited_printed l (.of_eq (List.append_nil members).symm) ?_ nofun
  rw [List.filter_true, List.forall₂_map_left_iff, List.forall₂_same]
  exact fun m hMem => ⟨rfl, h m hMem⟩

end DevicePower.Json.Grammar
