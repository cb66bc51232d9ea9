import DevicePower.Proofs.Json.Edited
import DevicePower.Proofs.Json.Skip
import DevicePower.Proofs.Json.Values
import Mathlib.Data.List.Perm.Basic

/-!
# Reading records from edited objects

A record is read from an object member by member. Each member is a change to the record: a member
with a field's name puts the field's value, any other is passed over and changes nothing. Members of
different names change different parts, so the order of the members does not matter and the fields
whose members are gone keep what the record had at the start. Only fields that may be absent can be
gone.

## Main results

* `members_joined`: the members of an object are made one change after the other.
* `reads_record`: from every text of an edited object a record is read in which the members that are
  kept have been put.
-/

namespace DevicePower.Json.Decoder

open Grammar

variable {α : Type}

/-- What a member does to a record that is read. -/
structure Change (α : Type) where
  name : String
  put : α → α

/-- The names of fields. -/
def names (fields : List (Field α)) : List String := fields.map Field.name

/-- Whether a change is none, under a name that no field has. -/
structure Idle (fields : List (Field α)) (c : Change α) : Prop where
  name : c.name ∉ names fields
  put : c.put = id

/-- Whether the tokens of a member make this change to a record. -/
inductive Makes (fields : List (Field α)) (ts : List Token) (c : Change α) : Prop
  | known {f : Field α} {value : List Token}
      (hTokens : ts = .text (.ok c.name) (.ok ()) :: .colon :: value)
      (hField : fields.find? (fun f => f.name == c.name) = some f)
      (hRead : f.read.Gives value c.put)
  | idle {value : List Token} (hTokens : ts = .text (.ok c.name) (.ok ()) :: .colon :: value)
      (hIdle : Idle fields c) (hSkips : Skips value)

theorem Makes.ne_nil {fields : List (Field α)} {ts : List Token} {c : Change α}
    (h : Makes fields ts c) : ts ≠ [] := by
  obtain ⟨rfl, _, _⟩ | ⟨rfl, _, _⟩ := h <;> exact List.cons_ne_nil _ _

/-- Whether two members do not get in each other's way. -/
def Apart (fields : List (Field α)) (c d : Change α) : Prop :=
  (c.name = d.name → c.name ∉ names fields) ∧ ∀ r, c.put (d.put r) = d.put (c.put r)

/-- All changes, one after the other. -/
def changed (start : α) (changes : List (Change α)) : α :=
  changes.foldl (fun r c => c.put r) start

/-! ## Member by member -/

theorem memberName_joined (name : String) (value : List Token) (isFirst : Bool)
    (rest : List (List Token)) (tail : List Token) :
    memberName isFirst
      (joined isFirst ((.text (.ok name) (.ok ()) :: .colon :: value) :: rest) ++ tail) =
        .ok (some name, .colon :: (value ++ (joined false rest ++ tail))) := by
  rw [← List.append_assoc]
  cases isFirst <;> rfl

/-- A member with a field's name is read into the field. -/
theorem members_known {fields : List (Field α)} {rounds : Nat} {isFirst : Bool} {seen : List String}
    {record : α} {tokens value rest : List Token} {name : String} {f : Field α} {put : α → α}
    (hMember : memberName isFirst tokens = .ok (some name, .colon :: value))
    (hField : fields.find? (fun f => f.name == name) = some f) (hSeen : name ∉ seen)
    (hRead : f.read value = .ok (put, rest)) :
    members fields (rounds + 1) isFirst seen record tokens =
      members fields rounds false (name :: seen) (put record) rest := by
  have hNew : seen.contains name = false := by simpa using hSeen
  rw [members, hMember]
  simp only [bind, Except.bind, hField, hNew, colon, hRead]
  rfl

/-- A member with another name is passed over. -/
theorem members_idle {fields : List (Field α)} {rounds : Nat} {isFirst : Bool}
    {seen : List String} {record : α} {tokens value rest : List Token} {name : String}
    (hMember : memberName isFirst tokens = .ok (some name, .colon :: value))
    (hName : name ∉ names fields) (hSkip : skipValue value = .ok rest) :
    members fields (rounds + 1) isFirst seen record tokens =
      members fields rounds false seen record rest := by
  have hNone : fields.find? (fun f => f.name == name) = none := by
    rw [List.find?_eq_none]
    intro f hMem hSame
    exact hName (List.mem_map.mpr ⟨f, hMem, by simpa using hSame⟩)
  rw [members, hMember]
  simp only [bind, Except.bind, hNone, colon, hSkip]

/-- At the end of the object the record is as it is, if nothing is missing. -/
theorem members_end {fields : List (Field α)} {seen : List String}
    (hAbsent : ∀ f ∈ fields, f.mayBeAbsent = true ∨ f.name ∈ seen)
    (rounds : Nat) (isFirst : Bool) (record : α) (tail : List Token) :
    members fields (rounds + 1) isFirst seen record (.closeObject :: tail) =
      .ok (record, tail) := by
  have hNone : fields.find? (fun f => !f.mayBeAbsent && !seen.contains f.name) = none := by
    rw [List.find?_eq_none]
    intro f hMem
    rcases hAbsent f hMem with hOptional | hSeen
    · simp [hOptional]
    · simp [hSeen]
  have hMember : memberName isFirst (.closeObject :: tail) = .ok (none, tail) := by
    cases isFirst <;> rfl
  rw [members, hMember]
  simp only [bind, Except.bind, hNone]

/-- The members of an object are made one change after the other. No field may be named twice, and
none that is needed may be missing. -/
theorem members_joined {fields : List (Field α)} (tail : List Token) {parts : List (List Token)}
    {changes : List (Change α)} (h : List.Forall₂ (Makes fields) parts changes) :
    ∀ {rounds : Nat} {seen : List String} (isFirst : Bool) (record : α), parts.length < rounds →
      changes.Pairwise (Apart fields) →
      (∀ c ∈ changes, c.name ∈ names fields → c.name ∉ seen) →
      (∀ f ∈ fields, f.mayBeAbsent = true ∨ f.name ∈ seen ∨ f.name ∈ changes.map Change.name) →
      members fields rounds isFirst seen record (joined isFirst parts ++ .closeObject :: tail) =
        .ok (changed record changes, tail) := by
  induction h with
  | nil =>
    intro rounds seen isFirst record hRounds _ _ hAbsent
    obtain ⟨rounds, rfl⟩ := Nat.exists_eq_add_one_of_ne_zero (Nat.ne_of_gt hRounds)
    have hJoined : joined isFirst [] = [] := by cases isFirst <;> rfl
    rw [hJoined]
    have hNothingMissing : ∀ f ∈ fields, f.mayBeAbsent = true ∨ f.name ∈ seen :=
      fun f hMem => (hAbsent f hMem).imp_right fun hIn => hIn.resolve_right List.not_mem_nil
    exact members_end hNothingMissing rounds isFirst record tail
  | @cons ts c parts changes hMakes hRest ih =>
    intro rounds seen isFirst record hRounds hApart hSeen hAbsent
    obtain ⟨rounds, rfl⟩ := Nat.exists_eq_add_one_of_ne_zero (Nat.ne_zero_of_lt hRounds)
    have hFewer := Nat.lt_of_succ_lt_succ hRounds
    obtain ⟨hHead, hOthers⟩ := List.pairwise_cons.mp hApart
    have hSeenRest : ∀ d ∈ changes, d.name ∈ names fields → d.name ∉ seen :=
      fun d hMem => hSeen d (List.mem_cons_of_mem c hMem)
    cases hMakes with
    | @known f value hTokens hField hRead =>
      have hName : c.name ∈ names fields := by
        have hSame : f.name = c.name := by simpa using List.find?_some hField
        exact List.mem_map.mpr ⟨f, List.mem_of_find?_eq_some hField, hSame⟩
      have hSeenNow : ∀ d ∈ changes, d.name ∈ names fields → d.name ∉ c.name :: seen := by
        intro d hMem hKnown hIn
        rcases List.mem_cons.mp hIn with hSame | hEarlier
        · exact (hHead d hMem).1 hSame.symm hName
        · exact hSeenRest d hMem hKnown hEarlier
      have hAbsentNow : ∀ f ∈ fields, f.mayBeAbsent = true ∨ f.name ∈ c.name :: seen ∨
          f.name ∈ changes.map Change.name := by
        intro f hMem
        rcases hAbsent f hMem with hOptional | hEarlier | hHere
        · exact .inl hOptional
        · exact .inr (.inl (List.mem_cons_of_mem _ hEarlier))
        · exact .inr ((List.mem_cons.mp hHere).imp_left fun hSame =>
            List.mem_cons.mpr (.inl hSame))
      rw [hTokens, members_known (memberName_joined _ _ _ _ _) hField
        (hSeen c List.mem_cons_self hName) (hRead _)]
      exact ih false (c.put record) hFewer hOthers hSeenNow hAbsentNow
    | @idle value hTokens hIdle hSkips =>
      have hSame : changed record (c :: changes) = changed record changes := by
        show changed (c.put record) changes = _
        rw [hIdle.put]
        rfl
      have hAbsentNow : ∀ f ∈ fields, f.mayBeAbsent = true ∨ f.name ∈ seen ∨
          f.name ∈ changes.map Change.name := by
        intro f hMem
        refine (hAbsent f hMem).imp_right (Or.imp_right fun hHere => ?_)
        refine (List.mem_cons.mp hHere).resolve_left fun hName => hIdle.name ?_
        exact hName ▸ List.mem_map_of_mem hMem
      rw [hTokens, members_idle (memberName_joined _ _ _ _ _) hIdle.name
        (skipValue_of_skips hSkips _), hSame]
      exact ih false record hFewer hOthers hSeenRest hAbsentNow

/-! ## Edited objects -/

/-- Whether a field reads this member of an object from each of the texts that it may have. The
member is kept unless the field may be absent. -/
structure Serves (keep : String → Bool) (f : Field α) (k : Change α × (List Char → Prop)) :
    Prop where
  name : f.name = k.1.name
  mayBeAbsent : f.mayBeAbsent = true ∨ keep f.name = true
  reads : f.read.Reads k.2 k.1.put

section Fields

variable {keep : String → Bool} {β : Type} {read : Decoder β} {written : List Char → Prop} {b : β}

theorem serves_withDefault (name : String) (put : β → α → α) (h : read.Reads written b) :
    Serves keep (.withDefault name read put) (⟨name, put b⟩, written) :=
  ⟨rfl, .inl rfl, h.map put⟩

theorem serves_needed (name : String) (put : β → α → α) (h : read.Reads written b)
    (hKeep : keep name = true) :
    Serves keep (.needed name read put) (⟨name, put b⟩, written) :=
  ⟨rfl, .inr hKeep, h.map put⟩

theorem serves_nullable (name : String) (put : Option β → α → α) {o : Option β}
    (h : (optional read).Reads written o) :
    Serves keep (.nullable name read put) (⟨name, put o⟩, written) :=
  ⟨rfl, .inl rfl, h.map put⟩

end Fields

theorem find?_field {fields : List (Field α)} (hNames : (names fields).Nodup) {f : Field α}
    (hMem : f ∈ fields) : fields.find? (fun g => g.name == f.name) = some f := by
  induction fields with
  | nil => exact nomatch hMem
  | cons g rest ih =>
    obtain ⟨hFirst, hRest⟩ := List.nodup_cons.mp hNames
    rcases List.mem_cons.mp hMem with rfl | hLater
    · simp
    · have hOther : g.name ≠ f.name := fun hSame =>
        hFirst (List.mem_map.mpr ⟨f, hLater, hSame.symm⟩)
      rw [List.find?_cons_of_neg (by simpa using hOther)]
      exact ih hRest hLater

/-- Whether a member of an object makes this change. -/
def Becomes (fields : List (Field α)) (m : Member) (c : Change α) : Prop :=
  ∃ ts, Scans m.text ts ∧ Makes fields ts c

/-- A member that is kept makes its change. -/
theorem becomes_kept {fields : List (Field α)} (hNames : (names fields).Nodup) {f : Field α}
    (hField : f ∈ fields) {keep : String → Bool} {k : Change α × (List Char → Prop)}
    (hServes : Serves keep f k) {m : Member}
    (hName : m.HasName k.1.name) (hWritten : k.2 m.value) : Becomes fields m k.1 := by
  obtain ⟨value, hScans, hGives⟩ := hServes.reads m.value hWritten
  refine ⟨_, scans_member (scans_quotes hName.spells) hName.before hName.behind hScans, ?_⟩
  exact .known rfl (hServes.name ▸ find?_field hNames hField) hGives

/-- A member with another name makes none. -/
theorem becomes_foreign {fields : List (Field α)} {m : Member} (h : m.IsForeign (names fields)) :
    ∃ c : Change α, Becomes fields m c ∧ Idle fields c := by
  obtain ⟨⟨name, hUnknown, hName⟩, hValue⟩ := h
  obtain ⟨value, hScans, hSkips⟩ := scans_value hValue
  have hIdle : Idle fields ⟨name, id⟩ := ⟨hUnknown, rfl⟩
  refine ⟨⟨name, id⟩, ⟨_, ?_, .idle rfl hIdle hSkips⟩, hIdle⟩
  exact scans_member (scans_quotes hName.spells) hName.before hName.behind hScans

theorem Apart.symm {fields : List (Field α)} {c d : Change α} (h : Apart fields c d) :
    Apart fields d c :=
  ⟨fun hSame hKnown => h.1 hSame.symm (hSame ▸ hKnown), fun r => (h.2 r).symm⟩

/-- A change that is none is apart from every other. -/
theorem Idle.apart {fields : List (Field α)} {c : Change α} (h : Idle fields c) (d : Change α) :
    Apart fields c d :=
  ⟨fun _ => h.name, fun r => by rw [h.put]; rfl⟩

/-- Changes that are apart stay so among changes that are none. -/
theorem apart_append {fields : List (Field α)} {cs ds : List (Change α)}
    (hApart : cs.Pairwise (Apart fields)) (hIdle : ∀ d ∈ ds, Idle fields d) :
    (cs ++ ds).Pairwise (Apart fields) := by
  rw [List.pairwise_append]
  exact ⟨hApart, List.pairwise_of_forall_mem_list fun d hMem e _ => (hIdle d hMem).apart e,
    fun c _ d hMem => ((hIdle d hMem).apart c).symm⟩

/-- Changes that are apart may be made in any order. -/
theorem changed_perm {fields : List (Field α)} {cs ds : List (Change α)} (hPerm : cs.Perm ds)
    (hApart : cs.Pairwise (Apart fields)) (start : α) : changed start cs = changed start ds := by
  have hCommute : ∀ c ∈ cs, ∀ d ∈ cs, ∀ r, c.put (d.put r) = d.put (c.put r) :=
    (hApart.imp fun h => h.2).forall_of_forall_of_flip (fun _ _ _ => rfl)
      (hApart.imp fun h => h.symm.2)
  exact hPerm.foldl_eq' (fun c hFirst d hSecond r => hCommute d hSecond c hFirst r) start

/-- Changes that are none change nothing. -/
theorem changed_idle {fields : List (Field α)} {ds : List (Change α)}
    (h : ∀ d ∈ ds, Idle fields d) (start : α) : changed start ds = start := by
  induction ds with
  | nil => rfl
  | cons d rest ih =>
    show changed (d.put start) rest = start
    rw [(h d List.mem_cons_self).put]
    exact ih fun e hMem => h e (List.mem_cons_of_mem d hMem)

/-- Everything in a list has its counterpart in the other. -/
theorem exists_counterpart {β : Type} {R : α → β → Prop} {xs : List α} {ys : List β}
    (h : List.Forall₂ R xs ys) : ∀ x ∈ xs, ∃ y ∈ ys, R x y := by
  induction h with
  | nil => exact nofun
  | @cons x y xs ys hHead _ ih =>
    intro z hMem
    rcases List.mem_cons.mp hMem with rfl | hLater
    · exact ⟨y, List.mem_cons_self, hHead⟩
    · obtain ⟨w, hOther, hPair⟩ := ih z hLater
      exact ⟨w, List.mem_cons_of_mem y hOther, hPair⟩

section Object

variable {fields : List (Field α)} {known : List (Change α × (List Char → Prop))}
  {keep : String → Bool}

theorem names_of_serves (hServes : List.Forall₂ (Serves keep) fields known) :
    names fields = known.map fun k => k.1.name := by
  unfold names
  rw [← List.forall₂_eq_eq_eq, List.forall₂_map_left_iff, List.forall₂_map_right_iff]
  exact hServes.imp fun f k h => h.name

/-- The changes of different fields are apart. -/
theorem apart_known (hServes : List.Forall₂ (Serves keep) fields known)
    (hNames : (names fields).Nodup)
    (hCommute : known.Pairwise fun k l => ∀ r, k.1.put (l.1.put r) = l.1.put (k.1.put r)) :
    known.Pairwise fun k l => Apart fields k.1 l.1 := by
  have hDistinct : known.Pairwise fun k l => k.1.name ≠ l.1.name := by
    rw [names_of_serves hServes] at hNames
    exact List.pairwise_map.mp hNames
  exact (hDistinct.and hCommute).imp fun h => ⟨fun hSame => absurd hSame h.1, h.2⟩

/-- The members that are kept make their changes. -/
theorem becomes_all_kept (hServes : List.Forall₂ (Serves keep) fields known)
    (hNames : (names fields).Nodup) {kept : List Member}
    (hKept : List.Forall₂ (fun k m => m.HasName k.1.name ∧ k.2 m.value)
      (known.filter fun k => keep k.1.name) kept) :
    List.Forall₂ (Becomes fields) kept ((known.filter fun k => keep k.1.name).map Prod.fst) := by
  have hField : ∀ k ∈ known.filter fun k => keep k.1.name, ∃ f ∈ fields, Serves keep f k :=
    fun k hMem => exists_counterpart hServes.flip k (List.mem_of_mem_filter hMem)
  rw [List.forall₂_map_right_iff]
  refine List.Forall₂.flip (((List.forall₂_and_left _ _).mpr ⟨hField, hKept⟩).imp ?_)
  rintro k m ⟨⟨f, hMem, hServed⟩, hName, hWritten⟩
  exact becomes_kept hNames hMem hServed hName hWritten

/-- The members that are added make changes that are none. -/
theorem becomes_all_foreign {added : List Member}
    (hAdded : ∀ m ∈ added, m.IsForeign (names fields)) :
    ∃ ds, List.Forall₂ (Becomes fields) added ds ∧ ∀ d ∈ ds, Idle fields d := by
  have : Nonempty (Change α) := ⟨⟨"", id⟩⟩
  choose! change hBecomes hIdle using fun m hMem => becomes_foreign (α := α) (hAdded m hMem)
  refine ⟨added.map change, ?_, fun d hMem => ?_⟩
  · exact List.forall₂_map_right_iff.mpr (List.forall₂_same.mpr hBecomes)
  · obtain ⟨m, hMember, rfl⟩ := List.mem_map.mp hMem
    exact hIdle m hMember

/-- What the members of an edited object make of a record: each that is kept its change, in some
order, and the others none. -/
theorem becomes_edited (hServes : List.Forall₂ (Serves keep) fields known)
    (hNames : (names fields).Nodup)
    (hCommute : known.Pairwise fun k l => ∀ r, k.1.put (l.1.put r) = l.1.put (k.1.put r))
    {ms kept added : List Member} (hOrder : ms.Perm (kept ++ added))
    (hKept : List.Forall₂ (fun k m => m.HasName k.1.name ∧ k.2 m.value)
      (known.filter fun k => keep k.1.name) kept)
    (hAdded : ∀ m ∈ added, m.IsForeign (names fields)) :
    ∃ changes, List.Forall₂ (Becomes fields) ms changes ∧ changes.Pairwise (Apart fields) ∧
      (∀ k ∈ known, keep k.1.name = true → k.1 ∈ changes) ∧
      ∀ start, changed start changes =
        changed start ((known.filter fun k => keep k.1.name).map Prod.fst) := by
  have hFirst := becomes_all_kept hServes hNames hKept
  obtain ⟨ds, hSecond, hIdle⟩ := becomes_all_foreign hAdded
  obtain ⟨changes, hBecomes, hPerm⟩ :=
    List.perm_comp_forall₂ hOrder (List.rel_append hFirst hSecond)
  have hKnown := List.pairwise_map.mpr
    ((apart_known hServes hNames hCommute).filter fun k => keep k.1.name)
  have hApart : changes.Pairwise (Apart fields) :=
    (hPerm.pairwise_iff Apart.symm).mpr (apart_append hKnown hIdle)
  refine ⟨changes, hBecomes, hApart, fun k hMem hKeep => ?_, fun start => ?_⟩
  · exact hPerm.symm.subset (List.mem_append_left ds
      (List.mem_map_of_mem (List.mem_filter.mpr ⟨hMem, hKeep⟩)))
  · rw [changed_perm hPerm hApart, changed, List.foldl_append]
    exact changed_idle hIdle _

theorem changed_filter (keep : String → Bool) (start : α) :
    changed start ((known.filter fun k => keep k.1.name).map Prod.fst) =
      known.foldl (fun r k => if keep k.1.name then k.1.put r else r) start := by
  rw [changed, List.foldl_map, List.foldl_filter]

/-- From every text of an edited object a record is read in which the members that are kept have
been put. -/
theorem reads_record (title : String) (hServes : List.Forall₂ (Serves keep) fields known)
    (hNames : (names fields).Nodup)
    (hCommute : known.Pairwise fun k l => ∀ r, k.1.put (l.1.put r) = l.1.put (k.1.put r))
    {start a : α}
    (hResult : known.foldl (fun r k => if keep k.1.name then k.1.put r else r) start = a) :
    (record title fields start).Reads (Edited (known.map fun k => (k.1.name, k.2)) keep) a := by
  intro cs hEdited
  obtain ⟨hText, hOrder, hKept, hAdded⟩ := hEdited
  have hSameNames : (known.map fun k => (k.1.name, k.2)).map Prod.fst = names fields := by
    rw [List.map_map, names_of_serves hServes]
    rfl
  rw [hSameNames] at hAdded
  rw [List.filter_map, List.forall₂_map_left_iff] at hKept
  obtain ⟨changes, hBecomes, hApart, hMade, hChanged⟩ :=
    becomes_edited hServes hNames hCommute hOrder hKept hAdded
  obtain ⟨parts, hScans, hMakes⟩ := exists_between hBecomes
  refine ⟨_, scans_object hText (List.forall₂_map_left_iff.mpr hScans), fun tail => ?_⟩
  have hAbsent : ∀ f ∈ fields, f.mayBeAbsent = true ∨ f.name ∈ [] ∨
      f.name ∈ changes.map Change.name := by
    intro f hField
    obtain ⟨k, hMem, hServed⟩ := exists_counterpart hServes f hField
    refine hServed.mayBeAbsent.imp_right fun hKeep => .inr ?_
    rw [hServed.name] at hKeep ⊢
    exact List.mem_map_of_mem (hMade k hMem hKeep)
  have hNotEmpty : ∀ ts ∈ parts, ts ≠ [] := forall_left hMakes fun ts c h => h.ne_nil
  have hLength := length_le_joined hNotEmpty true
  rw [List.cons_append, List.append_assoc, ← hResult, ← changed_filter, ← hChanged]
  refine members_joined tail hMakes true start ?_ hApart (fun _ _ _ => List.not_mem_nil) hAbsent
  rw [List.length_append]
  omega

end Object

end DevicePower.Json.Decoder
