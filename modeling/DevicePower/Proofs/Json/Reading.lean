import DevicePower.Json.Reader
import DevicePower.Proofs.Json.Meaning
import DevicePower.Proofs.Json.Members
import DevicePower.Proofs.Json.Record

/-!
# Reading any value back

The reader of values reads each text that means a value, in any layout and nested as deep as the
reader goes. It makes its own double of a number that is no integer, so here the meaning of such a
number is what the reader makes of it. With the doubles that are read back as they were, this is a
round trip of the printer and the reader.

## Main results

* `reads_means`: a text is read as the value that it means.
* `ofText_line`: a value that was printed on one line is read back.
-/

namespace DevicePower.Json

open Grammar Decimal

/-- Whether at most so many lists and objects of a value are open at any place of it. -/
inductive Value.FitsIn : Nat → Value → Prop
  | null {room : Nat} : FitsIn room .null
  | bool {room : Nat} (b : Bool) : FitsIn room (.bool b)
  | number {room : Nat} (n : Number) : FitsIn room (.number n)
  | text {room : Nat} (s : String) : FitsIn room (.text s)
  | list {room : Nat} {xs : List Value} (hItems : ∀ x ∈ xs, FitsIn room x) :
      FitsIn (room + 1) (.list xs)
  | object {room : Nat} {ms : Members} (hValues : ∀ m ∈ ms, FitsIn room m.2) :
      FitsIn (room + 1) (.object ms)

namespace Decoder

/-- Whether a number that is no integer is one token that holds the double. -/
def ReadsDouble (x : Binary64) (cs : List Char) : Prop :=
  Scans cs [.number (.ok (.double x)) (.ok ())]

/-! ## Objects -/

/-- Whether tokens are those of a member that is read as this one. -/
inductive IsEntry (d : Decoder Value) (ts : List Token) (m : String × Value) : Prop
  | intro {value : List Token} (hTokens : ts = .text (.ok m.1) (.ok ()) :: .colon :: value)
      (hValue : d.Gives value m.2)

theorem IsEntry.ne_nil {d : Decoder Value} {ts : List Token} {m : String × Value}
    (h : IsEntry d ts m) : ts ≠ [] := by
  obtain ⟨rfl, -⟩ := h
  exact List.cons_ne_nil _ _

/-- The members of an object are read one after the other. -/
theorem entries_joined {d : Decoder Value} (tail : List Token) {parts : List (List Token)}
    {ms : Members} (h : List.Forall₂ (IsEntry d) parts ms) :
    ∀ {rounds : Nat} (isFirst : Bool) (done : Members), parts.length < rounds →
      ((done ++ ms).map Prod.fst).Nodup →
      entries d rounds isFirst done (joined isFirst parts ++ .closeObject :: tail) =
        .ok (done ++ ms, tail) := by
  induction h with
  | nil =>
    intro rounds isFirst done hRounds _
    obtain ⟨rounds, rfl⟩ := Nat.exists_eq_add_one_of_ne_zero (Nat.ne_of_gt hRounds)
    rw [List.append_nil]
    cases isFirst <;> rfl
  | @cons ts m parts ms hEntry _ ih =>
    intro rounds isFirst done hRounds hNames
    obtain ⟨rounds, rfl⟩ := Nat.exists_eq_add_one_of_ne_zero (Nat.ne_zero_of_lt hRounds)
    obtain ⟨rfl, hValue⟩ := hEntry
    have hNew : m.1 ∉ done.map Prod.fst := by
      rw [List.map_append, List.nodup_append] at hNames
      exact fun hMem => hNames.2.2 m.1 hMem m.1 List.mem_cons_self rfl
    have hRest := ih false (done ++ [m]) (Nat.lt_of_succ_lt_succ hRounds)
      (by rwa [List.append_assoc])
    rw [List.append_assoc] at hRest
    rw [entries, memberName_joined]
    simp only [bind, Except.bind, colon, hValue _, Members.set_of_notMem hNew]
    exact hRest

theorem object_joined {d : Decoder Value} {parts : List (List Token)} {ms : Members}
    (h : List.Forall₂ (IsEntry d) parts ms) (hNames : (ms.map Prod.fst).Nodup)
    (tail : List Token) :
    entries d ((joined true parts ++ .closeObject :: tail).length + 1) true []
      (joined true parts ++ .closeObject :: tail) = .ok (ms, tail) := by
  have hLength := length_le_joined (forall_left h fun _ _ hEntry => hEntry.ne_nil) true
  refine entries_joined tail h true [] ?_ hNames
  rw [List.length_append]
  omega

/-! ## All values -/

theorem valueWithin_ne_closeList (room : Nat) (rest : List Token) (a : Value × List Token) :
    valueWithin room (.closeList :: rest) ≠ .ok a := by
  cases room <;> exact nofun

/-- A token that is a value of its own is read, however much room is left. -/
theorem valueWithin_scalar {token : Token} {v : Value}
    (h : ∀ tail, scalar (token :: tail) = .ok (v, tail)) (room : Nat) :
    (valueWithin room).Gives [token] v := by
  intro tail
  have hScalar : valueWithin room (token :: tail) = scalar (token :: tail) := by
    cases token with
    | openList => exact nomatch h []
    | openObject => exact nomatch h []
    | _ => cases room <;> rfl
  exact hScalar.trans (h tail)

theorem reads_scalar {cs : List Char} {token : Token} {v : Value} (hScans : Scans cs [token])
    (h : ∀ tail, scalar (token :: tail) = .ok (v, tail)) (room : Nat) :
    ∃ ts, Scans cs ts ∧ (valueWithin room).Gives ts v :=
  ⟨[token], hScans, valueWithin_scalar h room⟩

/-- A text is read as the value that it means, if there is room for it. -/
theorem reads_means {v : Value} {cs : List Char} (h : Means ReadsDouble v cs) :
    ∀ {room : Nat}, v.FitsIn room → ∃ ts, Scans cs ts ∧ (valueWithin room).Gives ts v := by
  induction h with
  | null => exact fun _ => reads_scalar scans_null (fun _ => rfl) _
  | yes => exact fun _ => reads_scalar scans_yes (fun _ => rfl) _
  | no => exact fun _ => reads_scalar scans_no (fun _ => rfl) _
  | integer hLow hHigh => exact fun _ => reads_scalar (scans_integer hLow hHigh) (fun _ => rfl) _
  | double hDouble => exact fun _ => reads_scalar hDouble (fun _ => rfl) _
  | text hBody => exact fun _ => reads_scalar (scans_quotes hBody) (fun _ => rfl) _
  | @list xs _ _ hText ih =>
    intro room hFits
    obtain _ | _ | _ | _ | @⟨room, _, hItems⟩ := hFits
    have hParts : List.Forall₂ (fun x v => ∃ ts, Scans x ts ∧ (valueWithin room).Gives ts v)
        (xs.map Prod.snd) (xs.map Prod.fst) := by
      rw [List.forall₂_map_left_iff, List.forall₂_map_right_iff, List.forall₂_same]
      exact fun x hMem => ih x hMem (hItems x.1 (List.mem_map_of_mem hMem))
    obtain ⟨parts, hScans, hGives⟩ := exists_between hParts
    refine ⟨_, scans_list hText hScans, fun tail => ?_⟩
    have hList := list_joined (valueWithin_ne_closeList room) hGives tail
    have hValue : ∀ rest, valueWithin (room + 1) (.openList :: rest) =
        (list (valueWithin room) (.openList :: rest)).map
          fun read => (.list read.1, read.2) := fun rest => rfl
    rw [List.cons_append] at hList ⊢
    rw [hValue, hList]
    rfl
  | @object ms _ hDistinct hNames _ hText ih =>
    intro room hFits
    obtain _ | _ | _ | _ | _ | @⟨room, _, hValues⟩ := hFits
    have hParts : List.Forall₂ (fun x m => ∃ ts, Scans x ts ∧ IsEntry (valueWithin room) ts m)
        (ms.map fun m => m.2.text) (ms.map Prod.fst) := by
      rw [List.forall₂_map_left_iff, List.forall₂_map_right_iff, List.forall₂_same]
      intro m hMem
      obtain ⟨ts, hScans, hGives⟩ := ih m hMem (hValues m.1 (List.mem_map_of_mem hMem))
      have hName := hNames m hMem
      exact ⟨_, scans_member (scans_quotes hName.spells) hName.before hName.behind hScans,
        rfl, hGives⟩
    obtain ⟨parts, hScans, hEntries⟩ := exists_between hParts
    refine ⟨_, scans_object hText hScans, fun tail => ?_⟩
    have hObject := object_joined hEntries (by rwa [List.map_map]) tail
    have hValue : ∀ rest, valueWithin (room + 1) (.openObject :: rest) =
        (entries (valueWithin room) (rest.length + 1) true [] rest).map
          fun read => (.object read.1, read.2) := fun rest => rfl
    rw [List.cons_append, List.append_assoc]
    show valueWithin (room + 1) (.openObject :: (joined true parts ++ .closeObject :: tail)) = _
    rw [hValue, hObject]
    rfl

end Decoder

open Decoder

/-- A text is read as the value that it means, if it is not nested too deep. -/
theorem ofText_of_means {v : Value} {cs : List Char} (h : Means ReadsDouble v cs)
    (hFits : v.FitsIn levels) : Value.ofText (String.ofList cs) = .ok v := by
  have hReads : value.Reads (fun text => text = cs) v := fun _ hText =>
    hText ▸ reads_means h hFits
  exact document_of_reads hReads rfl

/-! ## What was printed -/

/-- Whether the reader makes the same double of what is printed for it. -/
def IsReadBack (x : Binary64) : Prop :=
  Value.ofText (String.ofList x.text) = .ok (.number (.double x))

theorem readsDouble_text {x : Binary64} (hCanonical : x.IsCanonical) (h : IsReadBack x) :
    ReadsDouble x x.text := by
  obtain ⟨strict, hScans⟩ := scans_number (isDouble_text hCanonical).isNumber
  have hTokens : scan x.text = [.number strict (.ok ())] := by
    simpa [scan_nil] using hScans [] endsNumber_nil
  have hDocument : value.document (String.ofList x.text) = .ok (.number (.double x)) := h
  unfold document at hDocument
  rw [String.toList_ofList, hTokens] at hDocument
  cases strict with
  | error reason => exact nomatch hDocument
  | ok n =>
    have hRead : value [.number (.ok n) (.ok ())] = .ok (.number n, []) := rfl
    rw [hRead] at hDocument
    obtain rfl : n = .double x := Value.number.inj (Except.ok.inj hDocument)
    exact hScans

/-- A sound value that was printed on one line is read back, if each of its doubles is. -/
theorem ofText_line {v : Value} (h : v.IsSound fun x => x.IsCanonical ∧ IsReadBack x)
    (hFits : v.FitsIn levels) : Value.ofText v.line = .ok v :=
  ofText_of_means (means_layout (fun _ hDouble => readsDouble_text hDouble.1 hDouble.2) h .line)
    hFits

end DevicePower.Json
