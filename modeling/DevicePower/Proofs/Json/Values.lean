import DevicePower.Json.Decoder
import DevicePower.Proofs.Json.Number

/-!
# Reading what was written

A reader that is meant for a value gives that value back from each of its texts, and stops where the
text ends. This is said of a reader and of a set of texts, so it is the same statement for a truth
value, an integer in its range, a text, a name from a table and a list of any of these, and a record
is read field by field from it.

## Main results

* `reads_text`, `reads_bool`, `reads_integer`, `reads_variant`, `reads_list`: the readers of single
  values and of lists.
* `document_of_reads`: a whole text is read, up to its end.
-/

namespace DevicePower.Json.Decoder

open Grammar

variable {α β : Type}

/-- Whether a reader gives `a` for tokens, whatever stands behind them. -/
def Gives (d : Decoder α) (ts : List Token) (a : α) : Prop :=
  ∀ tail, d (ts ++ tail) = .ok (a, tail)

/-- Whether a reader gives `a` for each of the texts that are meant. -/
def Reads (d : Decoder α) (written : List Char → Prop) (a : α) : Prop :=
  ∀ cs, written cs → ∃ ts, Scans cs ts ∧ d.Gives ts a

/-- A reader that gives `a` for every text with one token. -/
theorem reads_token {d : Decoder α} {written : List Char → Prop} {a : α} {token : Token}
    (hScans : ∀ cs, written cs → Scans cs [token])
    (hRead : ∀ tail, d (token :: tail) = .ok (a, tail)) :
    d.Reads written a :=
  fun cs hWritten => ⟨[token], hScans cs hWritten, hRead⟩

theorem Reads.map {d : Decoder α} {written : List Char → Prop} {a : α} (h : d.Reads written a)
    (f : α → β) : (d.map f).Reads written (f a) := by
  intro cs hWritten
  obtain ⟨ts, hScans, hGives⟩ := h cs hWritten
  refine ⟨ts, hScans, fun tail => ?_⟩
  unfold Decoder.map
  rw [hGives tail]

/-- A whole text is read, up to its end. -/
theorem document_of_reads {d : Decoder α} {written : List Char → Prop} {a : α}
    (h : d.Reads written a) {cs : List Char} (hWritten : written cs) :
    d.document (String.ofList cs) = .ok a := by
  obtain ⟨ts, hScans, hGives⟩ := h cs hWritten
  have hTokens : scan (String.ofList cs).toList = ts := by
    rw [String.toList_ofList]
    simpa [scan_nil] using hScans [] endsNumber_nil
  have hRead := hGives []
  rw [List.append_nil] at hRead
  unfold document
  rw [hTokens, hRead]
  rfl

/-! ## Single values -/

theorem scans_of_writes_text {s : String} {cs : List Char} (h : Writes (.text s) cs) :
    Scans cs [.text (.ok s) (.ok ())] := by
  cases h with
  | text hBody => exact scans_quotes hBody

theorem scans_of_writes_int {i : Int} (hLow : -(Text.half64 : Int) ≤ i) (hHigh : i < Text.word64)
    {cs : List Char} (h : Writes (.int i) cs) : Scans cs [.number (.ok (.integer i)) (.ok ())] := by
  cases h with
  | int => exact scans_integer hLow hHigh

theorem scans_of_writes_bool {b : Bool} {cs : List Char} (h : Writes (.bool b) cs) :
    Scans cs [.word (.ok (if b then .yes else .no))] := by
  cases h with
  | yes => exact scans_yes
  | no => exact scans_no

theorem reads_text (expected s : String) : (text expected).Reads (Writes (.text s)) s :=
  reads_token (fun _ => scans_of_writes_text) fun _ => rfl

theorem reads_bool (b : Bool) : bool.Reads (Writes (.bool b)) b := by
  refine reads_token (fun _ => scans_of_writes_bool) fun tail => ?_
  cases b <;> rfl

/-- An integer in the range of its reader, if that is a range of 64-bit words. -/
theorem reads_integer (expected : String) {low high i : Int} (hLow : low ≤ i) (hHigh : i ≤ high)
    (hLowest : -(Text.half64 : Int) ≤ low) (hHighest : high < Text.word64) :
    (integer expected low high).Reads (Writes (.int i)) i := by
  refine reads_token
    (fun _ => scans_of_writes_int (Int.le_trans hLowest hLow) (Int.lt_of_le_of_lt hHigh hHighest))
    fun tail => ?_
  show (if low ≤ i ∧ i ≤ high then _ else _) = _
  rw [if_pos ⟨hLow, hHigh⟩]

theorem reads_variant {table : List (String × α)} {name : String} {a : α}
    (h : choose table name = .ok a) : (variant table).Reads (Writes (.text name)) a := by
  refine reads_token (fun _ => scans_of_writes_text) fun tail => ?_
  show (choose table name).map _ = _
  rw [h]
  rfl

/-! ## Lists -/

/-- What a reader is given for begins with a token that does not end a list, if the reader does not
take the end of a list. -/
theorem Gives.head_eq {d : Decoder α} (hEnd : ∀ rest a, d (.closeList :: rest) ≠ .ok a)
    {ts : List Token} {a : α} (h : d.Gives ts a) :
    ∃ token more, ts = token :: more ∧ token ≠ .closeList := by
  cases ts with
  | nil => exact absurd (h [.closeList]) (hEnd _ _)
  | cons token more =>
    refine ⟨token, more, rfl, ?_⟩
    rintro rfl
    exact hEnd _ _ (h [])

/-- The items of a list are read one after the other. -/
theorem items_joined {d : Decoder α} (hEnd : ∀ rest a, d (.closeList :: rest) ≠ .ok a)
    (tail : List Token) {parts : List (List Token)} {as : List α}
    (h : List.Forall₂ d.Gives parts as) :
    ∀ {rounds : Nat} (isFirst : Bool) (done : List α), parts.length < rounds →
      items d rounds isFirst done (joined isFirst parts ++ .closeList :: tail) =
        .ok (done.reverse ++ as, tail) := by
  induction h with
  | nil =>
    intro rounds isFirst done hRounds
    obtain ⟨rounds, rfl⟩ := Nat.exists_eq_add_one_of_ne_zero (Nat.ne_of_gt hRounds)
    rw [List.append_nil]
    cases isFirst <;> rfl
  | @cons ts a parts as hGives _ ih =>
    intro rounds isFirst done hRounds
    obtain ⟨rounds, rfl⟩ := Nat.exists_eq_add_one_of_ne_zero (Nat.ne_zero_of_lt hRounds)
    have hRest := ih false (a :: done) (Nat.lt_of_succ_lt_succ hRounds)
    have hRead := hGives (joined false parts ++ .closeList :: tail)
    obtain ⟨token, more, rfl, hToken⟩ := hGives.head_eq hEnd
    rw [List.reverse_cons, List.append_assoc, List.singleton_append] at hRest
    cases isFirst with
    | true =>
      show items d (rounds + 1) true done (token :: more ++ joined false parts ++ _) = _
      rw [List.append_assoc]
      unfold items
      dsimp only
      rw [hRead]
      cases token with
      | closeList => exact absurd rfl hToken
      | _ => exact hRest
    | false =>
      show items d (rounds + 1) false done
        (.comma :: (token :: more ++ joined false parts ++ _)) = _
      rw [List.append_assoc]
      unfold items
      dsimp only
      rw [hRead]
      cases token with
      | closeList => exact absurd rfl hToken
      | _ => exact hRest

/-- Parts that are not empty are no more than their tokens. -/
theorem length_le_joined {parts : List (List Token)} (h : ∀ ts ∈ parts, ts ≠ []) (isFirst : Bool) :
    parts.length ≤ (joined isFirst parts).length := by
  induction parts generalizing isFirst with
  | nil => exact Nat.zero_le _
  | cons ts rest ih =>
    have hRest := ih (fun other hMem => h other (List.mem_cons_of_mem ts hMem)) false
    have hPart := List.length_pos_iff.mpr (h ts List.mem_cons_self)
    cases isFirst <;> simp only [joined, List.length_cons, List.length_append] <;> omega

/-- What is between two lists at each place makes a list. -/
theorem exists_between {γ : Type} {R : α → β → Prop} {S : β → γ → Prop} {xs : List α} {zs : List γ}
    (h : List.Forall₂ (fun x z => ∃ y, R x y ∧ S y z) xs zs) :
    ∃ ys, List.Forall₂ R xs ys ∧ List.Forall₂ S ys zs := by
  induction h with
  | nil => exact ⟨[], .nil, .nil⟩
  | cons hHead _ ih =>
    obtain ⟨y, hLeft, hRight⟩ := hHead
    obtain ⟨ys, hLefts, hRights⟩ := ih
    exact ⟨y :: ys, .cons hLeft hLefts, .cons hRight hRights⟩

/-- What holds of each thing that has its counterpart holds of all that are in a list. -/
theorem forall_left {R : α → β → Prop} {p : α → Prop} {xs : List α} {ys : List β}
    (h : List.Forall₂ R xs ys) (hAll : ∀ x y, R x y → p x) : ∀ x ∈ xs, p x :=
  ((List.forall₂_and_left xs ys).mp (h.imp fun x y hPair => ⟨hAll x y hPair, hPair⟩)).1

/-- Parts that are read one after the other, and then the end of the list. -/
theorem list_joined {d : Decoder α} (hEnd : ∀ rest a, d (.closeList :: rest) ≠ .ok a)
    {parts : List (List Token)} {as : List α} (h : List.Forall₂ d.Gives parts as) :
    (list d).Gives (.openList :: (joined true parts ++ [.closeList])) as := by
  intro tail
  have hNotEmpty : ∀ ts ∈ parts, ts ≠ [] := by
    refine forall_left h fun ts a hGives => ?_
    obtain ⟨token, more, rfl, _⟩ := hGives.head_eq hEnd
    exact List.cons_ne_nil token more
  have hLength := length_le_joined hNotEmpty true
  rw [List.cons_append, List.append_assoc]
  refine items_joined hEnd tail h true [] ?_
  rw [List.length_append]
  omega

/-- A list is read if each item is. -/
theorem reads_list {d : Decoder α} (hEnd : ∀ rest a, d (.closeList :: rest) ≠ .ok a)
    {write : α → Value} (h : ∀ a, d.Reads (Writes (write a)) a) (as : List α) :
    (list d).Reads (Writes (.list (as.map write))) as := by
  intro cs hWritten
  generalize hValues : as.map write = vs at hWritten
  cases hWritten with
  | @list xs _ hItems hText =>
  have hSame : List.Forall₂ (fun x a => x.1 = write a) xs as := by
    rw [← List.forall₂_map_left_iff (f := Prod.fst) (R := fun v a => v = write a),
      ← List.forall₂_map_right_iff, List.forall₂_eq_eq_eq]
    exact hValues.symm
  have hRead : List.Forall₂ (fun x a => ∃ ts, Scans x.2 ts ∧ d.Gives ts a) xs as := by
    refine ((List.forall₂_and_left _ _).mpr ⟨hItems, hSame⟩).imp fun x a hBoth => ?_
    obtain ⟨hWritten, hValue⟩ := hBoth
    exact h a x.2 (hValue ▸ hWritten)
  obtain ⟨parts, hScans, hGives⟩ := exists_between hRead
  exact ⟨_, scans_list hText (List.forall₂_map_left_iff.mpr hScans), list_joined hEnd hGives⟩

end DevicePower.Json.Decoder
