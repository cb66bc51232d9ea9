import DevicePower.Json.Token
import DevicePower.Proofs.Json.Grammar
import Mathlib.Data.List.Forall2

/-!
# The tokens of JSON texts

What the grammar calls a text or a word is read as one token, and a list or an object as the tokens
of its parts with marks between them. What a part is read as does not depend on what follows it,
with one exception: a number goes on as long as it can. So all statements are about a part with any
rest behind it that does not go on with a number.

## Main results

* `scans_quotes`: a text between quotes is one token that holds what it spells.
* `scans_list`, `scans_object`: the tokens of a list and of an object.
-/

namespace DevicePower.Json

open Grammar

/-- Whether a text does not go on with a number that stands in front of it. -/
def EndsNumber (rest : List Char) : Prop :=
  ∀ c ∈ rest.head?, isDigit c = false ∧ c ≠ '.' ∧ c ≠ 'e' ∧ c ≠ 'E'

/-- Whether a part of a text has these tokens. -/
def Scans (cs : List Char) (ts : List Token) : Prop :=
  ∀ rest, EndsNumber rest → scan (cs ++ rest) = ts ++ scan rest

theorem endsNumber_nil : EndsNumber [] := by
  intro c hMem
  exact nomatch hMem

theorem endsNumber_cons {c : Char} (h : c ∈ [',', ':', ']', '}', ' ', '\n', '\t', '\r'])
    (rest : List Char) : EndsNumber (c :: rest) := by
  intro other hHead
  obtain rfl : c = other := Option.some.inj hHead
  simp only [List.mem_cons, List.not_mem_nil, or_false] at h
  rcases h with rfl | rfl | rfl | rfl | rfl | rfl | rfl | rfl <;> decide

/-- Blanks do not go on with a number, nor does what follows them. -/
theorem endsNumber_gap {g rest : List Char} (hGap : IsGap g) (h : EndsNumber rest) :
    EndsNumber (g ++ rest) := by
  cases g with
  | nil => exact h
  | cons c more =>
    refine endsNumber_cons ?_ _
    rcases hGap c List.mem_cons_self with rfl | rfl | rfl | rfl <;> decide

theorem scan_nil : scan [] = [] := by
  rw [scan]

/-- Blanks between tokens are passed over. -/
theorem scan_gap {g : List Char} (hGap : IsGap g) (rest : List Char) :
    scan (g ++ rest) = scan rest := by
  induction g with
  | nil => rfl
  | cons c more ih =>
    have hBlank : isGap c = true := by
      rcases hGap c List.mem_cons_self with rfl | rfl | rfl | rfl <;> decide
    rw [List.cons_append, scan, if_pos hBlank]
    exact ih fun other hMem => hGap other (List.mem_cons_of_mem c hMem)

theorem scan_cons {c : Char} (h : isGap c = false) (rest : List Char) :
    scan (c :: rest) = (scanToken c rest).1 :: scan (scanToken c rest).2 := by
  rw [scan, if_neg (by simp [h])]

/-! ## Texts -/

theorem scanText_plain {c : Char} (h : IsPlain c) (r : Reading) (rest : List Char) :
    scanText r (c :: rest) = scanText (r.char c) rest := by
  obtain ⟨hQuote, hSlash, hControl⟩ := h
  rw [scanText]
  · rw [if_neg (Nat.not_lt.mpr hControl)]
  all_goals simp_all

theorem scanText_short {e c : Char} (h : (e, c) ∈ shortEscapes) (r : Reading)
    (rest : List Char) : scanText r ('\\' :: e :: rest) = scanText (r.char c) rest := by
  have hAll : ∀ p ∈ shortEscapes, escaped? p.1 = some p.2 ∧ p.1 ≠ 'u' := by decide
  obtain ⟨hEscaped, hUnit⟩ := hAll (e, c) h
  dsimp only at hEscaped hUnit
  rw [scanText]
  · rw [hEscaped]
  all_goals simp_all

theorem hexValue?_of_isHexDigit {c : Char} {v : Nat} (h : IsHexDigit c v) :
    Text.hexValue? c = some v := by
  have hAll : ∀ v < 16, Text.hexValue? (Nat.digitChar v) = some v ∧
      Text.hexValue? (Nat.digitChar v).toUpper = some v := by decide
  obtain ⟨hSize, rfl | rfl⟩ := h
  · exact (hAll v hSize).1
  · exact (hAll v hSize).2

theorem scanText_unit {u : List Char} {n : Nat} (h : IsUnit u n) (r : Reading)
    (rest : List Char) : scanText r ('\\' :: 'u' :: (u ++ rest)) = scanText (r.unit n) rest := by
  obtain ⟨hA, hB, hC, hD⟩ := h
  rename_i a b c d w x y z
  have hUnit : hexUnit? a b c d = some (0x1000 * w + 0x100 * x + 0x10 * y + z) := by
    unfold hexUnit?
    rw [hexValue?_of_isHexDigit hA, hexValue?_of_isHexDigit hB, hexValue?_of_isHexDigit hC,
      hexValue?_of_isHexDigit hD]
    show some _ = some _
    congr 1
    omega
  show scanText r ('\\' :: 'u' :: a :: b :: c :: d :: rest) = _
  rw [scanText, hUnit]

/-- Whatever has been read, what may stand between quotes is passed over up to the closing quote. -/
theorem scanText_body {body : List Char} (h : IsBody body) :
    ∀ r : Reading, ∃ strict, ∀ rest,
      scanText r (body ++ '"' :: rest) = (.text strict (.ok ()), rest) := by
  induction h with
  | nil => exact fun r => ⟨r.close, fun rest => rfl⟩
  | plain hPlain _ ih =>
    intro r
    obtain ⟨strict, hScan⟩ := ih (r.char _)
    refine ⟨strict, fun rest => ?_⟩
    rw [List.cons_append, scanText_plain hPlain]
    exact hScan rest
  | short hEscape _ ih =>
    intro r
    obtain ⟨strict, hScan⟩ := ih (r.char _)
    refine ⟨strict, fun rest => ?_⟩
    rw [List.cons_append, List.cons_append, scanText_short hEscape]
    exact hScan rest
  | unit hUnit _ ih =>
    intro r
    obtain ⟨strict, hScan⟩ := ih (r.unit _)
    refine ⟨strict, fun rest => ?_⟩
    rw [List.cons_append, List.cons_append, List.append_assoc, scanText_unit hUnit]
    exact hScan rest

/-- Between quotes is read what is spelled there. -/
theorem scanText_spells {body s : List Char} (h : Spells body s) (rest : List Char) :
    ∀ done : List Char, scanText (.soFar done) (body ++ '"' :: rest) =
      (.text (.ok (String.ofList (done.reverse ++ s))) (.ok ()), rest) := by
  induction h with
  | nil =>
    intro done
    rw [List.append_nil]
    rfl
  | @plain c _ s hPlain _ ih =>
    intro done
    rw [List.cons_append, scanText_plain hPlain]
    show scanText (.soFar (c :: done)) _ = _
    rw [ih, List.reverse_cons, List.append_assoc]
    rfl
  | @short e c _ s hEscape _ ih =>
    intro done
    rw [List.cons_append, List.cons_append, scanText_short hEscape]
    show scanText (.soFar (c :: done)) _ = _
    rw [ih, List.reverse_cons, List.append_assoc]
    rfl
  | @unit u _ s n hUnit hWhole _ ih =>
    intro done
    have hRead : (Reading.soFar done).unit n = .soFar (Char.ofNat n :: done) := by
      unfold Reading.unit
      dsimp only
      rw [if_neg (by omega), if_neg (by omega)]
    rw [List.cons_append, List.cons_append, List.append_assoc, scanText_unit hUnit, hRead, ih,
      List.reverse_cons, List.append_assoc]
    rfl
  | @pair u w _ s high low hHigh hLow hHighSize hLowSize _ ih =>
    intro done
    have hFirst : (Reading.soFar done).unit (0xD800 + high) = .lead done (0xD800 + high) := by
      unfold Reading.unit
      dsimp only
      rw [if_neg (by omega), if_pos (by omega)]
    have hSecond : (Reading.lead done (0xD800 + high)).unit (0xDC00 + low) =
        .soFar (Char.ofNat (0x10000 + 0x400 * high + low) :: done) := by
      have hNumber : 0x10000 + (0xD800 + high - 0xD800) * 0x400 + (0xDC00 + low - 0xDC00) =
          0x10000 + 0x400 * high + low := by omega
      unfold Reading.unit
      dsimp only
      rw [if_pos (by omega), hNumber]
    rw [List.cons_append, List.cons_append, List.append_assoc, scanText_unit hHigh, hFirst,
      List.cons_append, List.cons_append, List.append_assoc, scanText_unit hLow, hSecond, ih,
      List.reverse_cons, List.append_assoc]
    rfl

theorem scan_quotes (body rest : List Char) :
    scan (quotes body ++ rest) =
      (scanText (.soFar []) (body ++ '"' :: rest)).1 ::
        scan (scanText (.soFar []) (body ++ '"' :: rest)).2 := by
  unfold quotes
  rw [List.cons_append, List.append_assoc, scan_cons (by decide)]
  rfl

/-- A text between quotes is one token that holds what it spells. -/
theorem scans_quotes {body : List Char} {s : String} (h : Spells body s.toList) :
    Scans (quotes body) [.text (.ok s) (.ok ())] := by
  intro rest _
  rw [scan_quotes, scanText_spells h rest []]
  simp

/-- What may stand between quotes is one token that may be passed over. -/
theorem scans_body {body : List Char} (h : IsBody body) :
    ∃ strict, Scans (quotes body) [.text strict (.ok ())] := by
  obtain ⟨strict, hScan⟩ := scanText_body h (.soFar [])
  refine ⟨strict, fun rest _ => ?_⟩
  rw [scan_quotes, hScan rest]
  rfl

/-! ## Words -/

theorem scans_null : Scans ['n', 'u', 'l', 'l'] [.word (.ok .null)] := by
  intro rest _
  show scan ('n' :: 'u' :: 'l' :: 'l' :: rest) = _
  rw [scan_cons (by decide)]
  rfl

theorem scans_yes : Scans ['t', 'r', 'u', 'e'] [.word (.ok .yes)] := by
  intro rest _
  show scan ('t' :: 'r' :: 'u' :: 'e' :: rest) = _
  rw [scan_cons (by decide)]
  rfl

theorem scans_no : Scans ['f', 'a', 'l', 's', 'e'] [.word (.ok .no)] := by
  intro rest _
  show scan ('f' :: 'a' :: 'l' :: 's' :: 'e' :: rest) = _
  rw [scan_cons (by decide)]
  rfl

/-! ## Lists and objects -/

/-- The tokens of several parts, with a comma before each, or before each but the first. -/
def joined : Bool → List (List Token) → List Token
  | _, [] => []
  | true, ts :: rest => ts ++ joined false rest
  | false, ts :: rest => .comma :: (ts ++ joined false rest)

theorem scans_mark {c : Char} {token : Token} (hGap : isGap c = false)
    (hToken : ∀ rest, scanToken c rest = (token, rest)) (rest : List Char) :
    scan (c :: rest) = token :: scan rest := by
  rw [scan_cons hGap, hToken]

theorem scan_comma (rest : List Char) : scan (',' :: rest) = .comma :: scan rest :=
  scans_mark (by decide) (fun _ => rfl) rest

theorem scan_colon (rest : List Char) : scan (':' :: rest) = .colon :: scan rest :=
  scans_mark (by decide) (fun _ => rfl) rest

/-- The tokens of parts with commas between them. -/
theorem scans_separated {xs : List (List Char)} {cs : List Char} (h : Separated xs cs) :
    ∀ {parts : List (List Token)}, List.Forall₂ Scans xs parts → Scans cs (joined true parts) := by
  induction h with
  | @last x g g' hBefore hBehind =>
    intro parts hParts
    obtain ⟨ts, hPart, rfl⟩ : ∃ ts, Scans x ts ∧ parts = [ts] := by
      cases hParts with
      | cons hPart hNone => cases hNone; exact ⟨_, hPart, rfl⟩
    intro rest hEnds
    rw [List.append_assoc, List.append_assoc, scan_gap hBefore,
      hPart _ (endsNumber_gap hBehind hEnds), scan_gap hBehind]
    simp [joined]
  | @cons x g g' cs xs hBefore hBehind hRest ih =>
    intro parts hParts
    cases hParts with
    | @cons _ ts _ parts hPart hParts =>
    intro rest hEnds
    have hComma : EndsNumber (g' ++ ',' :: (cs ++ rest)) :=
      endsNumber_gap hBehind (endsNumber_cons (by decide) _)
    have hJoined : joined false parts = .comma :: joined true parts := by
      cases hRest with
      | last => cases hParts; rfl
      | cons => cases hParts; rfl
    rw [List.append_assoc, List.append_assoc, List.append_assoc, List.cons_append,
      scan_gap hBefore, hPart _ hComma, scan_gap hBehind, scan_comma, ih hParts rest hEnds]
    show _ = (ts ++ joined false parts) ++ scan rest
    rw [hJoined, List.append_assoc]
    rfl

section Bracketed

variable {left right : Char} {opening closing : Token}

/-- The tokens of parts between brackets. -/
theorem scans_bracketed (hLeft : ∀ rest, scan (left :: rest) = opening :: scan rest)
    (hRight : ∀ rest, scan (right :: rest) = closing :: scan rest)
    (hEnd : ∀ rest, EndsNumber (right :: rest)) {xs : List (List Char)} {cs : List Char}
    (h : Bracketed left right xs cs) {parts : List (List Token)}
    (hParts : List.Forall₂ Scans xs parts) :
    Scans cs (opening :: (joined true parts ++ [closing])) := by
  intro rest hEnds
  cases h with
  | empty hGap =>
    cases hParts
    rw [List.cons_append, List.append_assoc, hLeft, scan_gap hGap]
    show _ :: scan (right :: rest) = _
    rw [hRight]
    rfl
  | parts hSeparated =>
    have hInside := scans_separated hSeparated hParts (right :: rest) (hEnd rest)
    rw [hRight] at hInside
    rw [List.cons_append, List.append_assoc, hLeft]
    show _ :: scan (_ ++ right :: rest) = _
    rw [hInside]
    simp

end Bracketed

theorem scans_list {xs : List (List Char)} {cs : List Char} (h : Bracketed '[' ']' xs cs)
    {parts : List (List Token)} (hParts : List.Forall₂ Scans xs parts) :
    Scans cs (.openList :: (joined true parts ++ [.closeList])) :=
  scans_bracketed (scans_mark (by decide) fun _ => rfl) (scans_mark (by decide) fun _ => rfl)
    (endsNumber_cons (by decide)) h hParts

theorem scans_object {xs : List (List Char)} {cs : List Char} (h : Bracketed '{' '}' xs cs)
    {parts : List (List Token)} (hParts : List.Forall₂ Scans xs parts) :
    Scans cs (.openObject :: (joined true parts ++ [.closeObject])) :=
  scans_bracketed (scans_mark (by decide) fun _ => rfl) (scans_mark (by decide) fun _ => rfl)
    (endsNumber_cons (by decide)) h hParts

/-- The tokens of a member: its name, a colon and its value. -/
theorem scans_member {m : Member} {name : Token} (hName : Scans (quotes m.body) [name])
    (hBefore : IsGap m.before) (hBehind : IsGap m.behind) {ts : List Token}
    (hValue : Scans m.value ts) : Scans m.text (name :: .colon :: ts) := by
  intro rest hEnds
  unfold Member.text
  rw [List.append_assoc, List.append_assoc, List.cons_append, List.append_assoc,
    hName _ (endsNumber_gap hBefore (endsNumber_cons (by decide) _)), scan_gap hBefore, scan_colon,
    scan_gap hBehind, hValue rest hEnds]
  rfl

end DevicePower.Json
