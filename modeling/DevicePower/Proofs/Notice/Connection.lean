import DevicePower.Proofs.Notice.Table
import DevicePower.Proofs.Text.Spelling

/-!
# Which texts pass as connections

The name of a connection is printed in one way, but it is checked by reading its two numbers, and
they may be spelled in many ways. So a text passes if it spells the two numbers of a caller, with a
plus sign or with needless zeros too, and it names that caller's connection only if both are spelled
plainly. A text that passes and is not plain is the key of no session.

## Main results

* `accepted_iff_spelled`: which texts pass, for which caller, and which of them are connections.
* `padded_text_is_accepted`: a text that passes and is the connection of no caller.
-/

namespace DevicePower

/-- Whether a text gives the two numbers of a caller, in whatever spelling. -/
def Caller.SpelledBy (c : Caller) (s : String) : Prop :=
  ∃ pid token, s.toList = pid ++ '-' :: token ∧ Text.IsSigned c.pid.toInt pid ∧
    Text.IsUnsigned c.token.toNat token

namespace ConnectId

/-- Whether both numbers of a text are spelled plainly. -/
def IsPlain (s : String) : Prop :=
  ∃ pid token, s.toList = pid ++ '-' :: token ∧ '-' ∉ token ∧ Text.IsPlain pid ∧
    Text.IsPlain token

theorem eq_append_of_splitLast {mark : Char} {s before after : List Char}
    (h : splitLast mark s = some (before, after)) : s = before ++ mark :: after := by
  induction s generalizing before with
  | nil => exact nomatch h
  | cons c rest ih =>
    unfold splitLast at h
    split at h
    · next hRest =>
      obtain ⟨rfl, rfl⟩ := Prod.mk.inj (Option.some.inj h)
      rw [ih hRest, List.cons_append]
    · split at h
      · next hMark =>
        obtain ⟨rfl, rfl⟩ := Prod.mk.inj (Option.some.inj h)
        rw [hMark, List.nil_append]
      · exact nomatch h

theorem split_inj {before before' after after' : List Char} (h : '-' ∉ after) (h' : '-' ∉ after')
    (hEq : before ++ '-' :: after = before' ++ '-' :: after') :
    before = before' ∧ after = after' := by
  have hSplit := (splitLast_append before h).symm.trans (hEq ▸ splitLast_append before' h')
  exact Prod.mk.inj (Option.some.inj hSplit)

/-! ## The numbers of a caller -/

theorem signed?_pid_iff {i : Int32} {s : List Char} :
    Text.signed? Text.half32 s = some i.toInt ↔ Text.IsSigned i.toInt s := by
  rw [Text.signed?_eq_some_iff (by decide), and_iff_left_iff_imp]
  exact fun _ => ⟨i.le_toInt, i.toInt_lt⟩

theorem unsigned?_token_iff {n : UInt32} {s : List Char} :
    Text.unsigned? Text.word32 s = some n.toNat ↔ Text.IsUnsigned n.toNat s := by
  rw [Text.unsigned?_eq_some_iff, and_iff_left_iff_imp]
  exact fun _ => n.toNat_lt

/-- What is read as a process id is one. -/
theorem exists_pid {i : Int} {s : List Char} (h : Text.signed? Text.half32 s = some i) :
    ∃ pid : Int32, pid.toInt = i := by
  obtain ⟨-, hLow, hHigh⟩ := (Text.signed?_eq_some_iff (by decide)).mp h
  exact ⟨Int32.ofInt i, Int32.toInt_ofInt_of_le hLow hHigh⟩

/-- What is read as a token is one. -/
theorem exists_token {n : Nat} {s : List Char} (h : Text.unsigned? Text.word32 s = some n) :
    ∃ token : UInt32, token.toNat = n :=
  ⟨UInt32.ofNat n, UInt32.toNat_ofNat_of_lt (Text.unsigned?_eq_some_iff.mp h).2⟩

end ConnectId

namespace Caller

open ConnectId

variable {c d : Caller} {s : String}

/-- A text gives the numbers of one caller at most. -/
theorem SpelledBy.unique (h : c.SpelledBy s) (h' : d.SpelledBy s) : c = d := by
  obtain ⟨pid, token, hText, hPid, hToken⟩ := h
  obtain ⟨pid', token', hText', hPid', hToken'⟩ := h'
  obtain ⟨rfl, rfl⟩ := split_inj hToken.dash_notMem hToken'.dash_notMem (hText ▸ hText')
  have hSamePid : c.pid = d.pid := Int32.toInt_inj.mp
    (Option.some.inj ((signed?_pid_iff.mpr hPid).symm.trans (signed?_pid_iff.mpr hPid')))
  have hSameToken : c.token = d.token := UInt32.toNat_inj.mp
    (Option.some.inj
      ((unsigned?_token_iff.mpr hToken).symm.trans (unsigned?_token_iff.mpr hToken')))
  cases c
  cases d
  cases hSamePid
  cases hSameToken
  rfl

theorem toList_connectId (c : Caller) :
    c.connectId.toList = Text.integer c.pid.toInt ++ '-' :: Text.digits c.token.toNat := by
  rw [connectId, String.toList_ofList, connectChars]

theorem spelledBy_connectId (c : Caller) : c.SpelledBy c.connectId :=
  ⟨_, _, c.toList_connectId, Text.isSigned_integer _, .bare (Text.isPadded_digits _)⟩

/-- Of the texts that give the numbers of a caller its connection is the plain one. -/
theorem SpelledBy.eq_connectId_iff (h : c.SpelledBy s) : s = c.connectId ↔ IsPlain s := by
  obtain ⟨pid, token, hText, hPid, hToken⟩ := h
  rw [← String.toList_inj, toList_connectId, hText]
  constructor
  · intro hEq
    obtain ⟨hPidEq, hTokenEq⟩ :=
      split_inj hToken.dash_notMem (Text.dash_notMem_digits _) hEq
    exact ⟨pid, token, hText, hToken.dash_notMem, hPid.eq_integer_iff.mp hPidEq,
      hToken.eq_digits_iff.mp hTokenEq⟩
  · rintro ⟨pid', token', hText', hDash, hPlainPid, hPlainToken⟩
    obtain ⟨rfl, rfl⟩ := split_inj hToken.dash_notMem hDash (hText ▸ hText')
    rw [hPid.eq_integer_iff.mpr hPlainPid, hToken.eq_digits_iff.mpr hPlainToken]

end Caller

namespace ConnectId

/-- A text passes if it spells a caller, and it is returned as it is. -/
theorem parse?_eq_some_iff {s id : String} :
    parse? s = some id ↔ id = s ∧ ∃ c : Caller, c.SpelledBy s := by
  constructor
  · intro h
    unfold parse? at h
    split at h
    · exact nomatch h
    · next pid token hSplit =>
      simp only [Option.ite_none_right_eq_some, Bool.and_eq_true, Option.isSome_iff_exists,
        Option.some.injEq] at h
      obtain ⟨⟨⟨i, hPid⟩, n, hToken⟩, hSame⟩ := h
      obtain ⟨pid32, rfl⟩ := exists_pid hPid
      obtain ⟨token32, rfl⟩ := exists_token hToken
      exact ⟨hSame.symm, ⟨pid32, token32⟩, pid, token, eq_append_of_splitLast hSplit,
        signed?_pid_iff.mp hPid, unsigned?_token_iff.mp hToken⟩
  · rintro ⟨rfl, c, pid, token, hText, hPid, hToken⟩
    unfold parse?
    rw [hText, splitLast_append pid hToken.dash_notMem]
    dsimp only
    rw [signed?_pid_iff.mpr hPid, unsigned?_token_iff.mpr hToken]
    rfl

theorem isSome_parse?_iff {s : String} :
    (parse? s).isSome = true ↔ ∃ c : Caller, c.SpelledBy s := by
  simp only [Option.isSome_iff_exists, parse?_eq_some_iff, exists_and_right, exists_eq,
    true_and]

/-- A session is kept under the connection of its caller alone. -/
theorem session_of_spelled {s : String} {t : Notice.Table} {x : Notice.Session} {c : Caller}
    (hFind : t.find? s = some x) (hSpelled : c.SpelledBy s) : x.caller = c ∧ IsPlain s := by
  obtain rfl : x.caller.connectId = s := Notice.Table.connectId_of_find? hFind
  obtain rfl : x.caller = c := x.caller.spelledBy_connectId.unique hSpelled
  exact ⟨rfl, hSpelled.eq_connectId_iff.mp rfl⟩

/-- What passes as the name of a connection. A text passes if it spells the numbers of a caller, of
one only; it is that caller's connection if it is plain, so only then can a session be found under
it. What passes is therefore the connection of a caller for every text but those that spell a caller
and are not plain. -/
theorem accepted_iff_spelled (s : String) :
    (∀ id, parse? s = some id ↔ id = s ∧ ∃ c : Caller, c.SpelledBy s) ∧
      (∀ c d : Caller, c.SpelledBy s → d.SpelledBy s → c = d) ∧
      (∀ c : Caller, s = c.connectId ↔ c.SpelledBy s ∧ IsPlain s) ∧
      (∀ (t : Notice.Table) (x : Notice.Session) (c : Caller), t.find? s = some x →
        c.SpelledBy s → x.caller = c ∧ IsPlain s) ∧
      (((parse? s).isSome = true ↔ ∃ c : Caller, s = c.connectId) ↔
        ((parse? s).isSome = true → IsPlain s)) := by
  have hConnection : ∀ c : Caller, s = c.connectId ↔ c.SpelledBy s ∧ IsPlain s := by
    intro c
    constructor
    · rintro rfl
      exact ⟨c.spelledBy_connectId, c.spelledBy_connectId.eq_connectId_iff.mp rfl⟩
    · rintro ⟨hSpelled, hPlain⟩
      exact hSpelled.eq_connectId_iff.mpr hPlain
  refine ⟨fun id => parse?_eq_some_iff, fun c d => Caller.SpelledBy.unique, hConnection,
    fun t x c => session_of_spelled, ?_⟩
  simp only [isSome_parse?_iff, hConnection, exists_and_right]
  exact iff_iff_implies_and_implies.trans ⟨fun h hPasses => (h.1 hPasses).2,
    fun h => ⟨fun hPasses => ⟨hPasses, h hPasses⟩, And.left⟩⟩

/-- The number 1 with a zero in front passes as a process id, and no process id is printed so. -/
theorem padded_text_is_accepted :
    ¬ ((parse? "01-2").isSome = true ↔ ∃ c : Caller, "01-2" = c.connectId) := by
  intro h
  have hAccepted : (parse? "01-2").isSome = true := by decide +kernel
  obtain ⟨c, hEq⟩ := h.mp hAccepted
  have hSpelled : c.SpelledBy "01-2" := hEq ▸ c.spelledBy_connectId
  have hOneTwo : Caller.SpelledBy ⟨1, 2⟩ "01-2" :=
    ⟨['0', '1'], ['2'], by decide, .unsigned (.bare ⟨1, rfl⟩), .bare ⟨0, rfl⟩⟩
  obtain rfl : c = ⟨1, 2⟩ := hSpelled.unique hOneTwo
  have hPrinted : "01-2" ≠ Caller.connectId ⟨1, 2⟩ := by decide +kernel
  exact hPrinted hEq

end ConnectId

end DevicePower
