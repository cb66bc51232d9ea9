import DevicePower.Proofs.Notice.Wire

/-!
# A parcel is a queue of fields

A parcel knows bytes and a cursor and nothing of fields. Whoever writes and reads it in turns has to
see fields all the same: those that were written come out again in their order, whole and unchanged,
however reading and writing take turns.

The queue that is meant is written down here as such: the fields that were read and those that wait.
A parcel *carries* a queue if its bytes are the bytes of all these fields and its cursor stands
between the two parts. Every access keeps that, as long as texts are short enough to be read and
each read asks for the kind of the field that has waited longest. An interface token is a text like
any other, and a reply is a number and a text. Handing the bytes over to a fresh parcel lets all
fields wait again.

## Main results

* `Carries.stepped`: one access of a parcel does what it does to the queue.
* `reads_in_order`: so does any sequence of them on a new parcel, and what is read is what was
  written, in that order.
-/

namespace DevicePower.Notice

/-- What a parcel is made of. -/
inductive Field where
  | int (v : Int32)
  | text (s : String)
deriving DecidableEq

/-- What a read can ask for. -/
inductive Field.Kind where
  | int
  | text
deriving DecidableEq

namespace Field

/-- What a read has to ask for to get a field. -/
def kind : Field → Kind
  | int _ => .int
  | text _ => .text

/-- How a field is written. -/
def bytes : Field → List UInt8
  | int v => Parcel.intBytes v
  | text s => Parcel.textBytes s

/-- Whether a field can be read once it is written. -/
def isShort : Field → Bool
  | int _ => true
  | text s => (Text.Utf8.bytes s).length ≤ maxTextSize

theorem bytes_ne_nil (f : Field) : f.bytes ≠ [] := by
  cases f <;> simp [bytes, Parcel.intBytes, Parcel.textBytes, wordBytes]

end Field

/-- The two fields of a reply. -/
def Reply.fields (r : Reply) : List Field := [.int r.status, .text r.message]

theorem Reply.bytes_eq_flatMap (r : Reply) : r.bytes = r.fields.flatMap Field.bytes := by
  simp [Reply.bytes, Reply.fields, Field.bytes]

/-- What is done with a parcel. -/
inductive Access where
  | write (f : Field)
  | writeReply (r : Reply)
  | read (k : Field.Kind)
  | readReply
  /-- The bytes are moved into a fresh parcel. -/
  | rewrap
deriving DecidableEq

/-- What a read gives. -/
inductive Item where
  | field (f : Field)
  | reply (r : Reply)
deriving DecidableEq

/-- The fields that an access writes. -/
def Access.written : Access → List Field
  | write f => [f]
  | writeReply r => r.fields
  | _ => []

/-- The access that reads a field. -/
def Access.reading (f : Field) : Access := read f.kind

/-- The fields that were read together. -/
def Item.fields : Item → List Field
  | field f => [f]
  | reply r => r.fields

namespace Parcel

/-- Writes a field. -/
def writeField (p : Parcel) : Field → Parcel
  | .int v => p.writeInt v
  | .text s => p.writeText s

/-- Reads a field of a kind. -/
def readField (p : Parcel) : Field.Kind → Except ReadFault Field × Parcel
  | .int => (p.readInt.1.map .int, p.readInt.2)
  | .text => (p.readText.1.map .text, p.readText.2)

/-- What an access reads, if it is a read, and the parcel after it. -/
def step (p : Parcel) : Access → Option (Except ReadFault Item) × Parcel
  | .write f => (none, p.writeField f)
  | .writeReply r => (none, r.write p)
  | .read k => (some ((p.readField k).1.map .field), (p.readField k).2)
  | .readReply => (some ((Reply.read p).1.map .reply), (Reply.read p).2)
  | .rewrap => (none, .ofBytes p.data)

/-- What a sequence of accesses reads, and the parcel after it. -/
def run (p : Parcel) : List Access → List (Except ReadFault Item) × Parcel
  | [] => ([], p)
  | a :: rest => ((p.step a).1.toList ++ ((p.step a).2.run rest).1, ((p.step a).2.run rest).2)

end Parcel

/-! ## The queue -/

/-- Fields in the order in which they were written, oldest first. -/
structure Queue where
  /-- Those that were read. -/
  gone : List Field := []
  /-- Those that have not been read. -/
  waiting : List Field := []
deriving DecidableEq

namespace Queue

/-- The queue with more fields at its end. -/
def push (q : Queue) (fs : List Field) : Queue := { q with waiting := q.waiting ++ fs }

/-- What an access reads from the queue, if it is a read, and the queue after it. There is none if a
read asks for another kind than that of the oldest field, or if no field waits. -/
def step? (q : Queue) : Access → Option (Option Item × Queue)
  | .write f => some (none, q.push [f])
  | .writeReply r => some (none, q.push r.fields)
  | .read k =>
    match q.waiting with
    | f :: rest => if f.kind = k then some (some (.field f), ⟨q.gone ++ [f], rest⟩) else none
    | [] => none
  | .readReply =>
    match q.waiting with
    | .int v :: .text s :: rest =>
      some (some (.reply ⟨v, s⟩), ⟨q.gone ++ [.int v, .text s], rest⟩)
    | _ => none
  | .rewrap => some (none, ⟨[], q.gone ++ q.waiting⟩)

/-- What a sequence of accesses reads from the queue, and the queue after it. -/
def run? (q : Queue) : List Access → Option (List Item × Queue)
  | [] => some ([], q)
  | a :: rest =>
    (q.step? a).bind fun (item, after) =>
      (after.run? rest).map fun (items, last) => (item.toList ++ items, last)

/-- The bytes of the fields that wait. -/
def bytes (q : Queue) : List UInt8 := q.waiting.flatMap Field.bytes

theorem run?_cons {q last : Queue} {a : Access} {rest : List Access} {items : List Item}
    (h : q.run? (a :: rest) = some (items, last)) :
    ∃ item after later, q.step? a = some (item, after) ∧ after.run? rest = some (later, last) ∧
      items = item.toList ++ later := by
  rw [run?, Option.bind_eq_some_iff] at h
  obtain ⟨⟨item, after⟩, hStep, hRest⟩ := h
  obtain ⟨⟨later, end_⟩, hLater, hEq⟩ := Option.map_eq_some_iff.mp hRest
  simp only [Prod.mk.injEq] at hEq
  obtain ⟨rfl, rfl⟩ := hEq
  exact ⟨item, after, later, hStep, hLater, rfl⟩

/-- A read takes the oldest field, which is of the kind that was asked for. -/
theorem step?_read {q after : Queue} {k : Field.Kind} {item : Option Item}
    (h : q.step? (.read k) = some (item, after)) :
    ∃ f rest, q.waiting = f :: rest ∧ f.kind = k ∧ item = some (.field f) ∧
      after = ⟨q.gone ++ [f], rest⟩ := by
  unfold step? at h
  dsimp only at h
  split at h
  · next f rest hWaiting =>
    split at h
    · next hKind =>
      simp only [Option.some.injEq, Prod.mk.injEq] at h
      exact ⟨f, rest, hWaiting, hKind, h.1.symm, h.2.symm⟩
    · exact nomatch h
  · exact nomatch h

/-- Reading a reply takes the two oldest fields. -/
theorem step?_readReply {q after : Queue} {item : Option Item}
    (h : q.step? .readReply = some (item, after)) :
    ∃ (r : Reply) (rest : List Field), q.waiting = r.fields ++ rest ∧ item = some (.reply r) ∧
      after = ⟨q.gone ++ r.fields, rest⟩ := by
  unfold step? at h
  dsimp only at h
  split at h
  · next v s rest hWaiting =>
    simp only [Option.some.injEq, Prod.mk.injEq] at h
    exact ⟨⟨v, s⟩, rest, hWaiting, h.1.symm, h.2.symm⟩
  · exact nomatch h

/-- What an access does to the fields: it adds what it writes, and unless it starts from the front
again, what it reads is gone. -/
theorem fields_step? {q after : Queue} {a : Access} {item : Option Item}
    (h : q.step? a = some (item, after)) :
    after.gone ++ after.waiting = q.gone ++ q.waiting ++ a.written ∧
      (a ≠ .rewrap → after.gone = q.gone ++ item.toList.flatMap Item.fields) := by
  cases a with
  | write f =>
    simp only [step?, Option.some.injEq, Prod.mk.injEq] at h
    obtain ⟨rfl, rfl⟩ := h
    simp [push, Access.written]
  | writeReply r =>
    simp only [step?, Option.some.injEq, Prod.mk.injEq] at h
    obtain ⟨rfl, rfl⟩ := h
    simp [push, Access.written]
  | read k =>
    obtain ⟨f, rest, hWaiting, -, rfl, rfl⟩ := step?_read h
    simp [Item.fields, Access.written, hWaiting]
  | readReply =>
    obtain ⟨r, rest, hWaiting, rfl, rfl⟩ := step?_readReply h
    simp [Item.fields, Access.written, hWaiting]
  | rewrap =>
    simp only [step?, Option.some.injEq, Prod.mk.injEq] at h
    obtain ⟨rfl, rfl⟩ := h
    simp [Access.written]

theorem fields_run? {actions : List Access} :
    ∀ {q last : Queue} {items : List Item}, q.run? actions = some (items, last) →
      last.gone ++ last.waiting = q.gone ++ q.waiting ++ actions.flatMap Access.written ∧
        (.rewrap ∉ actions → last.gone = q.gone ++ items.flatMap Item.fields) := by
  induction actions with
  | nil =>
    intro q last items h
    simp only [run?, Option.some.injEq, Prod.mk.injEq] at h
    obtain ⟨rfl, rfl⟩ := h
    simp
  | cons a rest ih =>
    intro q last items h
    obtain ⟨item, after, later, hStep, hRest, rfl⟩ := run?_cons h
    obtain ⟨hAll, hGone⟩ := fields_step? hStep
    obtain ⟨hAllLater, hGoneLater⟩ := ih hRest
    refine ⟨?_, ?_⟩
    · rw [hAllLater, hAll, List.flatMap_cons, List.append_assoc]
    · intro hKeep
      rw [List.mem_cons, not_or] at hKeep
      rw [hGoneLater hKeep.2, hGone (Ne.symm hKeep.1), List.flatMap_append, List.append_assoc]

/-- All that waits can be read, one field after the other. -/
theorem run?_reads (fs gone : List Field) :
    (⟨gone, fs⟩ : Queue).run? (fs.map .reading) =
      some (fs.map .field, ⟨gone ++ fs, []⟩) := by
  induction fs generalizing gone with
  | nil => simp [run?]
  | cons f rest ih => simp [run?, step?, Access.reading, ih]

end Queue

/-! ## Parcels that carry a queue -/

/-- A parcel carries a queue: its bytes are those of the fields, its cursor stands behind those that
were read, and every field can be read. -/
structure Carries (p : Parcel) (q : Queue) : Prop where
  data_eq : p.data = (q.gone ++ q.waiting).flatMap Field.bytes
  cursor_eq : p.cursor = (q.gone.flatMap Field.bytes).length
  short : ∀ f ∈ q.gone ++ q.waiting, f.isShort = true

namespace Carries

variable {p : Parcel} {q : Queue}

theorem empty : Carries {} {} := ⟨rfl, rfl, List.forall_mem_nil _⟩

theorem unread_eq (h : Carries p q) : p.unread = q.bytes := by
  unfold Parcel.unread Queue.bytes
  rw [h.data_eq, h.cursor_eq, List.flatMap_append, List.drop_left]

/-- Nothing is left to read exactly when no field waits. -/
theorem remaining_eq_zero_iff (h : Carries p q) : p.remaining = 0 ↔ q.waiting = [] := by
  rw [Parcel.remaining_eq, h.unread_eq, List.length_eq_zero_iff]
  unfold Queue.bytes
  cases hWaiting : q.waiting with
  | nil => simp
  | cons f rest => simp [f.bytes_ne_nil]

theorem pushed (h : Carries p q) {fs : List Field} (hShort : ∀ f ∈ fs, f.isShort = true) :
    Carries (p.append (fs.flatMap Field.bytes)) (q.push fs) where
  data_eq := by
    unfold Parcel.append Queue.push
    rw [h.data_eq, ← List.flatMap_append, List.append_assoc]
  cursor_eq := h.cursor_eq
  short f hMem := by
    unfold Queue.push at hMem
    rw [← List.append_assoc] at hMem
    rcases List.mem_append.mp hMem with hOld | hNew
    · exact h.short f hOld
    · exact hShort f hNew

/-- The oldest fields have been read. -/
theorem advanced (h : Carries p q) {fs rest : List Field} (hWaiting : q.waiting = fs ++ rest) :
    Carries (p.advance (fs.flatMap Field.bytes).length) ⟨q.gone ++ fs, rest⟩ where
  data_eq := by
    unfold Parcel.advance
    rw [h.data_eq, hWaiting, List.append_assoc]
  cursor_eq := by
    unfold Parcel.advance
    rw [h.cursor_eq, List.flatMap_append, List.length_append]
  short f hMem := by
    rw [List.append_assoc, ← hWaiting] at hMem
    exact h.short f hMem

theorem rewrapped (h : Carries p q) : Carries (.ofBytes p.data) ⟨[], q.gone ++ q.waiting⟩ :=
  ⟨h.data_eq, rfl, h.short⟩

/-- The field that has waited longest is read by asking for its kind. -/
theorem readField (h : Carries p q) {f : Field} {rest : List Field}
    (hWaiting : q.waiting = f :: rest) :
    p.readField f.kind = (.ok f, p.advance f.bytes.length) := by
  have hUnread : p.unread = f.bytes ++ rest.flatMap Field.bytes := by
    rw [h.unread_eq, Queue.bytes, hWaiting, List.flatMap_cons]
  have hShort : f.isShort = true := h.short f (by simp [hWaiting])
  cases f with
  | int v =>
    show (p.readInt.1.map Field.int, p.readInt.2) = _
    rw [Parcel.readInt_of_unread hUnread]
    rfl
  | text s =>
    show (p.readText.1.map Field.text, p.readText.2) = _
    rw [Parcel.readText_of_unread (of_decide_eq_true hShort) hUnread]
    rfl

/-- A number and a text that have waited longest are read as a reply. -/
theorem readReply (h : Carries p q) {r : Reply} {rest : List Field}
    (hWaiting : q.waiting = r.fields ++ rest) :
    Reply.read p = (.ok r, p.advance (r.fields.flatMap Field.bytes).length) := by
  have hUnread : p.unread = r.bytes ++ rest.flatMap Field.bytes := by
    rw [h.unread_eq, Queue.bytes, hWaiting, List.flatMap_append, r.bytes_eq_flatMap]
  have hShort : (Field.text r.message).isShort = true :=
    h.short _ (by simp [hWaiting, Reply.fields])
  rw [Reply.read_of_unread (of_decide_eq_true hShort) hUnread, r.bytes_eq_flatMap]

/-- One access of a parcel does what it does to the queue. -/
theorem stepped (h : Carries p q) {a : Access} (hShort : ∀ f ∈ a.written, f.isShort = true)
    {item : Option Item} {after : Queue} (hStep : q.step? a = some (item, after)) :
    (p.step a).1 = item.map .ok ∧ Carries (p.step a).2 after := by
  cases a with
  | write f =>
    simp only [Queue.step?, Option.some.injEq, Prod.mk.injEq] at hStep
    obtain ⟨rfl, rfl⟩ := hStep
    have hWrite : p.writeField f = p.append ([f].flatMap Field.bytes) := by
      rw [List.flatMap_singleton]
      cases f <;> rfl
    refine ⟨rfl, ?_⟩
    show Carries (p.writeField f) _
    rw [hWrite]
    exact h.pushed hShort
  | writeReply r =>
    simp only [Queue.step?, Option.some.injEq, Prod.mk.injEq] at hStep
    obtain ⟨rfl, rfl⟩ := hStep
    refine ⟨rfl, ?_⟩
    show Carries (r.write p) _
    rw [r.write_eq_append, r.bytes_eq_flatMap]
    exact h.pushed hShort
  | read k =>
    obtain ⟨f, rest, hWaiting, rfl, rfl, rfl⟩ := Queue.step?_read hStep
    have hBytes : f.bytes = [f].flatMap Field.bytes := (List.flatMap_singleton _ _).symm
    unfold Parcel.step
    dsimp only
    rw [h.readField hWaiting, hBytes]
    exact ⟨rfl, h.advanced hWaiting⟩
  | readReply =>
    obtain ⟨r, rest, hWaiting, rfl, rfl⟩ := Queue.step?_readReply hStep
    unfold Parcel.step
    dsimp only
    rw [h.readReply hWaiting]
    exact ⟨rfl, h.advanced hWaiting⟩
  | rewrap =>
    simp only [Queue.step?, Option.some.injEq, Prod.mk.injEq] at hStep
    obtain ⟨rfl, rfl⟩ := hStep
    exact ⟨rfl, h.rewrapped⟩

/-- A sequence of accesses of a parcel does what it does to the queue. -/
theorem run {actions : List Access}
    (hShort : ∀ a ∈ actions, ∀ f ∈ a.written, f.isShort = true) :
    ∀ {p : Parcel} {q last : Queue} {items : List Item}, Carries p q →
      q.run? actions = some (items, last) →
      (p.run actions).1 = items.map .ok ∧ Carries (p.run actions).2 last := by
  induction actions with
  | nil =>
    intro p q last items h hRun
    simp only [Queue.run?, Option.some.injEq, Prod.mk.injEq] at hRun
    obtain ⟨rfl, rfl⟩ := hRun
    exact ⟨rfl, h⟩
  | cons a rest ih =>
    intro p q last items h hRun
    obtain ⟨item, after, later, hStep, hRest, rfl⟩ := Queue.run?_cons hRun
    obtain ⟨hRead, hAfter⟩ := h.stepped (hShort a List.mem_cons_self) hStep
    obtain ⟨hReads, hLast⟩ :=
      ih (fun b hMem => hShort b (List.mem_cons_of_mem a hMem)) hAfter hRest
    refine ⟨?_, hLast⟩
    show (p.step a).1.toList ++ ((p.step a).2.run rest).1 = _
    rw [hRead, hReads, List.map_append]
    cases item <;> rfl

end Carries

namespace Parcel

/-- A new parcel is read in the order in which it is written. Whatever accesses take turns, if no
text that is written is too long and every read asks for the kind of the oldest field that waits,
then every read gives that field, and nothing is left exactly when no field waits. What was read and
what waits are together what was written. A fresh parcel with the same bytes gives all of it. -/
theorem reads_in_order {actions : List Access}
    (hShort : ∀ a ∈ actions, ∀ f ∈ a.written, f.isShort = true) {items : List Item} {last : Queue}
    (hKinds : ({} : Queue).run? actions = some (items, last)) :
    ∃ p, run {} actions = (items.map .ok, p) ∧
      (p.remaining = 0 ↔ last.waiting = []) ∧
      (.rewrap ∉ actions →
        items.flatMap Item.fields ++ last.waiting = actions.flatMap Access.written) ∧
      ∃ p', run (ofBytes p.data) ((actions.flatMap Access.written).map .reading) =
          ((actions.flatMap Access.written).map fun f => .ok (.field f), p') ∧
        p'.remaining = 0 := by
  obtain ⟨hReads, hLast⟩ := Carries.empty.run hShort hKinds
  obtain ⟨hAll, hGone⟩ := Queue.fields_run? hKinds
  have hWritten : last.gone ++ last.waiting = actions.flatMap Access.written := hAll
  refine ⟨(run {} actions).2, Prod.ext hReads rfl, hLast.remaining_eq_zero_iff, ?_, ?_⟩
  · intro hKeep
    have hRead : last.gone = items.flatMap Item.fields := hGone hKeep
    rw [← hRead, hWritten]
  · have hReadOnly : ∀ a ∈ (actions.flatMap Access.written).map Access.reading,
        ∀ f ∈ a.written, f.isShort = true := by
      intro a hMem f hWrites
      obtain ⟨g, -, rfl⟩ := List.mem_map.mp hMem
      exact absurd hWrites List.not_mem_nil
    have hFresh := hLast.rewrapped
    rw [hWritten] at hFresh
    obtain ⟨hAgain, hEnd⟩ := hFresh.run hReadOnly (Queue.run?_reads _ _)
    refine ⟨_, Prod.ext ?_ rfl, hEnd.remaining_eq_zero_iff.mpr rfl⟩
    rw [hAgain, List.map_map]
    rfl

/-- A text, a number and a reply, written and read in turns and then read once more. -/
theorem reads_in_turns :
    ∃ p, run {} [.write (.text "añ"), .read .text, .write (.int (-2)), .writeReply .failed,
        .read .int, .readReply] =
        ([.ok (.field (.text "añ")), .ok (.field (.int (-2))), .ok (.reply .failed)], p) ∧
      p.remaining = 0 := by
  have hKinds : ({} : Queue).run? [.write (.text "añ"), .read .text, .write (.int (-2)),
      .writeReply .failed, .read .int, .readReply] =
      some ([.field (.text "añ"), .field (.int (-2)), .reply .failed],
        ⟨[.text "añ", .int (-2), .int (-1), .text "failed"], []⟩) := by decide +kernel
  obtain ⟨p, hRun, hLeft, -⟩ := reads_in_order (by decide +kernel) hKinds
  exact ⟨p, hRun, hLeft.mpr rfl⟩

end Parcel

end DevicePower.Notice
