import DevicePower.Json.Skip
import DevicePower.Proofs.Json.Number

/-!
# Every value can be passed over

A text that the grammar calls a value is passed over as a whole, wherever it stands: the tokens are
used up to its end and nothing behind it is touched. The reader keeps a stack of the lists and
objects that are open, so the statement is made for any stack, and the proof follows the grammar.

## Main results

* `scans_value`: the tokens of a value can be passed over.
* `skipValue_of_skips`: outside every list and object this is what passing over a value does.
-/

namespace DevicePower.Json

open Grammar Awaiting

/-- Whether tokens are passed over as one value, whatever is open around them and follows them. -/
def Skips (ts : List Token) : Prop :=
  ∀ stack tail, passOver (.value stack) (ts ++ tail) = passOver (afterValue stack) tail

theorem passOver_cons {awaiting next : Awaiting} {token : Token} (hNothing : awaiting ≠ .nothing)
    (h : awaiting.pass token = .ok next) (rest : List Token) :
    passOver awaiting (token :: rest) = passOver next rest := by
  have hStep : passOver awaiting (token :: rest) =
      (awaiting.pass token >>= fun next => passOver next rest) := by
    cases awaiting with
    | nothing => exact absurd rfl hNothing
    | _ => rfl
  rw [hStep, h]
  rfl

theorem skipValue_of_skips {ts : List Token} (h : Skips ts) (tail : List Token) :
    skipValue (ts ++ tail) = .ok tail := by
  unfold skipValue
  rw [h []]
  show passOver .nothing tail = _
  cases tail <;> rfl

/-- A token that is a whole value. -/
theorem skips_token {token : Token}
    (h : ∀ stack, atValue stack token = .ok (afterValue stack)) : Skips [token] := by
  intro stack tail
  have hValue : value stack ≠ .nothing := nofun
  exact passOver_cons hValue (h stack) tail

/-- What is passed over as a value begins with a token, which does not end a list. -/
theorem Skips.head_eq {ts : List Token} (h : Skips ts) :
    ∃ token more, ts = token :: more ∧ token ≠ .closeList := by
  have hWhole := h [] [.closeList]
  cases ts with
  | nil => exact nomatch hWhole
  | cons token more =>
    refine ⟨token, more, rfl, ?_⟩
    rintro rfl
    exact nomatch hWhole

/-! ## Lists and objects -/

/-- Inside a list or object, in front of its first part or behind a part. -/
def inside (frame : Frame) (outer : List Frame) : Bool → Awaiting
  | true => first frame outer
  | false => next frame outer

/-- Whether tokens are passed over as one part of a list or object, as its first part and as a later
one. -/
def SkipsPart (frame : Frame) (ts : List Token) : Prop :=
  ∀ outer tail, passOver (first frame outer) (ts ++ tail) = passOver (next frame outer) tail ∧
    passOver (next frame outer) (.comma :: (ts ++ tail)) = passOver (next frame outer) tail

theorem skipsPart_item {ts : List Token} (h : Skips ts) : SkipsPart .list ts := by
  intro outer tail
  obtain ⟨token, more, rfl, hToken⟩ := h.head_eq
  have hValue := h (.list :: outer) tail
  constructor
  · -- The first item is met as any value would be, for it does not end the list.
    have hPass : (first .list outer).pass token = (value (.list :: outer)).pass token := by
      cases token with
      | closeList => exact absurd rfl hToken
      | _ => rfl
    calc passOver (first .list outer) (token :: (more ++ tail))
        = ((first .list outer).pass token >>= fun next => passOver next (more ++ tail)) := rfl
      _ = ((value (.list :: outer)).pass token >>= fun next => passOver next (more ++ tail)) := by
        rw [hPass]
      _ = passOver (next .list outer) tail := hValue
  · exact hValue

theorem skipsPart_member {strict : Except Malformed String} {ts : List Token} (h : Skips ts) :
    SkipsPart .object (.text strict (.ok ()) :: .colon :: ts) := by
  intro outer tail
  have hValue := h (.object :: outer) tail
  exact ⟨hValue, hValue⟩

/-- All parts of a list or object are passed over, and then its end. -/
theorem passOver_joined {frame : Frame} {closing : Token} {outer : List Frame}
    (hEnd : ∀ isFirst, (inside frame outer isFirst).pass closing = .ok (afterValue outer))
    (tail : List Token) {parts : List (List Token)} (hParts : ∀ ts ∈ parts, SkipsPart frame ts) :
    ∀ isFirst, passOver (inside frame outer isFirst) (joined isFirst parts ++ closing :: tail) =
      passOver (afterValue outer) tail := by
  induction parts with
  | nil =>
    intro isFirst
    have hJoined : joined isFirst [] = [] := by cases isFirst <;> rfl
    have hInside : inside frame outer isFirst ≠ .nothing := by cases isFirst <;> exact nofun
    rw [hJoined]
    exact passOver_cons hInside (hEnd isFirst) tail
  | cons ts rest ih =>
    have hRest := ih (fun other hMem => hParts other (List.mem_cons_of_mem ts hMem)) false
    obtain ⟨hFirst, hNext⟩ := hParts ts List.mem_cons_self outer
      (joined false rest ++ closing :: tail)
    intro isFirst
    cases isFirst with
    | true =>
      show passOver (first frame outer) (ts ++ joined false rest ++ closing :: tail) = _
      rw [List.append_assoc, hFirst]
      exact hRest
    | false =>
      show passOver (next frame outer) (.comma :: (ts ++ joined false rest ++ closing :: tail)) = _
      rw [List.append_assoc, hNext]
      exact hRest

theorem skips_list {parts : List (List Token)} (h : ∀ ts ∈ parts, Skips ts) :
    Skips (.openList :: (joined true parts ++ [.closeList])) := by
  intro stack tail
  have hEnd : ∀ isFirst, (inside .list stack isFirst).pass .closeList = .ok (afterValue stack) := by
    intro isFirst
    cases isFirst <;> rfl
  rw [List.cons_append, List.append_assoc]
  exact passOver_joined hEnd tail (fun ts hMem => skipsPart_item (h ts hMem)) true

theorem skips_object {parts : List (List Token)} (h : ∀ ts ∈ parts, SkipsPart .object ts) :
    Skips (.openObject :: (joined true parts ++ [.closeObject])) := by
  intro stack tail
  have hEnd : ∀ isFirst,
      (inside .object stack isFirst).pass .closeObject = .ok (afterValue stack) := by
    intro isFirst
    cases isFirst <;> rfl
  rw [List.cons_append, List.append_assoc]
  exact passOver_joined hEnd tail h true

/-! ## All values -/

/-- Whatever a value is and however deep it is nested, its tokens can be passed over. -/
theorem scans_value {cs : List Char} (h : IsValue cs) : ∃ ts, Scans cs ts ∧ Skips ts := by
  induction h with
  | null => exact ⟨_, scans_null, skips_token fun _ => rfl⟩
  | yes => exact ⟨_, scans_yes, skips_token fun _ => rfl⟩
  | no => exact ⟨_, scans_no, skips_token fun _ => rfl⟩
  | number hNumber =>
    obtain ⟨strict, hScans⟩ := scans_number hNumber
    exact ⟨_, hScans, skips_token fun _ => rfl⟩
  | text hBody =>
    obtain ⟨strict, hScans⟩ := scans_body hBody
    exact ⟨_, hScans, skips_token fun _ => rfl⟩
  | @list xs _ _ hText ih =>
    choose! part hScans hSkips using ih
    have hParts : List.Forall₂ Scans xs (xs.map part) :=
      List.forall₂_map_right_iff.mpr (List.forall₂_same.mpr hScans)
    refine ⟨_, scans_list hText hParts, skips_list fun ts hMem => ?_⟩
    obtain ⟨x, hItem, rfl⟩ := List.mem_map.mp hMem
    exact hSkips x hItem
  | @object ms _ hNames _ hText ih =>
    have hMembers : ∀ m ∈ ms, ∃ ts, Scans m.text ts ∧ SkipsPart .object ts := by
      intro m hMem
      obtain ⟨ts, hScans, hSkips⟩ := ih m hMem
      obtain ⟨strict, hName⟩ := scans_body (hNames m hMem).body
      exact ⟨_, scans_member hName (hNames m hMem).before (hNames m hMem).behind hScans,
        skipsPart_member hSkips⟩
    choose! part hScans hSkips using hMembers
    have hParts : List.Forall₂ Scans (ms.map Member.text) (ms.map part) := by
      rw [List.forall₂_map_left_iff, List.forall₂_map_right_iff, List.forall₂_same]
      exact hScans
    refine ⟨_, scans_object hText hParts, skips_object fun ts hMem => ?_⟩
    obtain ⟨m, hMember, rfl⟩ := List.mem_map.mp hMem
    exact hSkips m hMember

end DevicePower.Json
