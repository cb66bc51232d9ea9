import DevicePower.Text.Utf8

/-!
# UTF-8 is read back

What is written as UTF-8 is read as the same text, and nothing else is read. Each character is
written as one to four bytes: the first byte tells how many, and the others carry six bits each. The
lemmas are stated on these bits, one for each number of bytes, so that only
`decodeFrom_utf8EncodeChar` speaks of characters.

## Main results

* `decodeFrom_encode`: a text in front is read, and reading goes on behind it.
* `decode_bytes`: the bytes of a text spell that text.
* `bytes_of_decode`: no other bytes spell it.
* `exists_defect_iff`: bytes that are not those of a text are refused.
-/

namespace DevicePower.Text.Utf8

/-! ## Bytes from bits -/

/-- The byte that carries six bits behind the first. -/
def follower (bits : Nat) : UInt8 := UInt8.ofNat (bits + 128)

theorem toNat_follower {bits : Nat} (h : bits < 64) : (follower bits).toNat = bits + 128 :=
  UInt8.toNat_ofNat_of_lt' (show bits + 128 < 256 by omega)

variable {a b c d : Nat}

theorem tail_follower (h : b < 64) : tail (follower b) = b := by
  unfold tail
  rw [toNat_follower h]
  omega

theorem isContinuation_follower (h : b < 64) : isContinuation (follower b) = true := by
  have hFrom : (0x80 : UInt8) ≤ follower b := by
    rw [UInt8.le_iff_toNat_le, toNat_follower h]
    exact Nat.le_add_left 128 b
  have hTo : follower b ≤ 0xBF := by
    rw [UInt8.le_iff_toNat_le, toNat_follower h]
    exact Nat.add_le_add_right (Nat.le_of_lt_succ h) 128
  unfold isContinuation
  rw [decide_eq_true hFrom, decide_eq_true hTo]
  rfl

/-- Six bits may follow the first byte of a character of three bytes unless the form is overlong or
the character a surrogate. -/
theorem isSecond_of_three (ha : a < 16) (hb : b < 64) (hLong : a = 0 → 32 ≤ b)
    (hSurrogate : a = 13 → b < 32) : isSecond (UInt8.ofNat (a + 224)) (follower b) = true := by
  have hFirst : (UInt8.ofNat (a + 224)).toNat = a + 224 :=
    UInt8.toNat_ofNat_of_lt' (show a + 224 < 256 by omega)
  have hByte := toNat_follower hb
  simp only [isSecond, isContinuation, ← UInt8.toNat_inj, UInt8.le_iff_toNat_le, hFirst, hByte]
  simp
  grind

/-- Six bits may follow the first byte of a character of four bytes unless the form is overlong or
the number too large. -/
theorem isSecond_of_four (ha : a ≤ 4) (hb : b < 64) (hLong : a = 0 → 16 ≤ b)
    (hLarge : a = 4 → b < 16) : isSecond (UInt8.ofNat (a + 240)) (follower b) = true := by
  have hFirst : (UInt8.ofNat (a + 240)).toNat = a + 240 :=
    UInt8.toNat_ofNat_of_lt' (show a + 240 < 256 by omega)
  have hByte := toNat_follower hb
  simp only [isSecond, isContinuation, ← UInt8.toNat_inj, UInt8.le_iff_toNat_le, hFirst, hByte]
  simp
  grind

/-! ## Characters of one to four bytes -/

theorem ofNat_lt_iff {n k : Nat} {bound : UInt8} (hBound : bound.toNat = k) (hByte : n < 256) :
    UInt8.ofNat n < bound ↔ n < k := by
  rw [UInt8.lt_iff_toNat_lt, UInt8.toNat_ofNat_of_lt' hByte, hBound]

variable (index : Nat) (done : List Char) (rest : List UInt8)

theorem decodeFrom_one (ha : a < 128) :
    decodeFrom index done (UInt8.ofNat a :: rest) =
      decodeFrom (index + 1) (Char.ofNat a :: done) rest := by
  have hFirst : (UInt8.ofNat a).toNat = a :=
    UInt8.toNat_ofNat_of_lt' (show a < 256 by omega)
  have h80 : UInt8.ofNat a < 0x80 :=
    (ofNat_lt_iff (k := 128) rfl (by omega)).mpr (by omega)
  rw [decodeFrom.eq_def]
  dsimp only
  rw [if_pos h80, hFirst]

theorem decodeFrom_two (hLong : 2 ≤ a) (ha : a < 32) (hb : b < 64) :
    decodeFrom index done (UInt8.ofNat (a + 192) :: follower b :: rest) =
      decodeFrom (index + 2) (Char.ofNat (a * 64 + b) :: done) rest := by
  have hFirst : (UInt8.ofNat (a + 192)).toNat = a + 192 :=
    UInt8.toNat_ofNat_of_lt' (show a + 192 < 256 by omega)
  have hBits : (a + 192) % 32 = a := by omega
  have h80 : ¬ UInt8.ofNat (a + 192) < 0x80 :=
    mt (ofNat_lt_iff (k := 128) rfl (by omega)).mp (by omega)
  have hC2 : ¬ UInt8.ofNat (a + 192) < 0xC2 :=
    mt (ofNat_lt_iff (k := 194) rfl (by omega)).mp (by omega)
  have hE0 : UInt8.ofNat (a + 192) < 0xE0 :=
    (ofNat_lt_iff (k := 224) rfl (by omega)).mpr (by omega)
  rw [decodeFrom.eq_def]
  dsimp only
  rw [if_neg h80, if_neg hC2, if_pos hE0, if_pos (isContinuation_follower hb), hFirst,
    tail_follower hb, hBits]

theorem decodeFrom_three (ha : a < 16) (hb : b < 64) (hc : c < 64) (hLong : a = 0 → 32 ≤ b)
    (hSurrogate : a = 13 → b < 32) :
    decodeFrom index done (UInt8.ofNat (a + 224) :: follower b :: follower c :: rest) =
      decodeFrom (index + 3) (Char.ofNat (a * 4096 + b * 64 + c) :: done) rest := by
  have hFirst : (UInt8.ofNat (a + 224)).toNat = a + 224 :=
    UInt8.toNat_ofNat_of_lt' (show a + 224 < 256 by omega)
  have hBits : (a + 224) % 16 = a := by omega
  have h80 : ¬ UInt8.ofNat (a + 224) < 0x80 :=
    mt (ofNat_lt_iff (k := 128) rfl (by omega)).mp (by omega)
  have hC2 : ¬ UInt8.ofNat (a + 224) < 0xC2 :=
    mt (ofNat_lt_iff (k := 194) rfl (by omega)).mp (by omega)
  have hE0 : ¬ UInt8.ofNat (a + 224) < 0xE0 :=
    mt (ofNat_lt_iff (k := 224) rfl (by omega)).mp (by omega)
  have hF0 : UInt8.ofNat (a + 224) < 0xF0 :=
    (ofNat_lt_iff (k := 240) rfl (by omega)).mpr (by omega)
  rw [decodeFrom.eq_def]
  dsimp only
  rw [if_neg h80, if_neg hC2, if_neg hE0, if_pos hF0,
    if_pos (isSecond_of_three ha hb hLong hSurrogate), if_pos (isContinuation_follower hc), hFirst,
    tail_follower hb, tail_follower hc, hBits]

theorem decodeFrom_four (ha : a ≤ 4) (hb : b < 64) (hc : c < 64) (hd : d < 64)
    (hLong : a = 0 → 16 ≤ b) (hLarge : a = 4 → b < 16) :
    decodeFrom index done
        (UInt8.ofNat (a + 240) :: follower b :: follower c :: follower d :: rest) =
      decodeFrom (index + 4) (Char.ofNat (a * 262144 + b * 4096 + c * 64 + d) :: done) rest := by
  have hFirst : (UInt8.ofNat (a + 240)).toNat = a + 240 :=
    UInt8.toNat_ofNat_of_lt' (show a + 240 < 256 by omega)
  have hBits : (a + 240) % 8 = a := by omega
  have h80 : ¬ UInt8.ofNat (a + 240) < 0x80 :=
    mt (ofNat_lt_iff (k := 128) rfl (by omega)).mp (by omega)
  have hC2 : ¬ UInt8.ofNat (a + 240) < 0xC2 :=
    mt (ofNat_lt_iff (k := 194) rfl (by omega)).mp (by omega)
  have hE0 : ¬ UInt8.ofNat (a + 240) < 0xE0 :=
    mt (ofNat_lt_iff (k := 224) rfl (by omega)).mp (by omega)
  have hF0 : ¬ UInt8.ofNat (a + 240) < 0xF0 :=
    mt (ofNat_lt_iff (k := 240) rfl (by omega)).mp (by omega)
  have hF5 : UInt8.ofNat (a + 240) < 0xF5 :=
    (ofNat_lt_iff (k := 245) rfl (by omega)).mpr (by omega)
  rw [decodeFrom.eq_def]
  dsimp only
  rw [if_neg h80, if_neg hC2, if_neg hE0, if_neg hF0, if_pos hF5,
    if_pos (isSecond_of_four ha hb hLong hLarge), if_pos (isContinuation_follower hc),
    if_pos (isContinuation_follower hd), hFirst, tail_follower hb, tail_follower hc,
    tail_follower hd, hBits]

/-! ## Characters and texts -/

/-- A character in front is read, and reading goes on behind it. -/
theorem decodeFrom_utf8EncodeChar (ch : Char) :
    decodeFrom index done (String.utf8EncodeChar ch ++ rest) =
      decodeFrom (index + (String.utf8EncodeChar ch).length) (ch :: done) rest := by
  have hValid : ch.toNat < 0xD800 ∨ 0xDFFF < ch.toNat ∧ ch.toNat < 0x110000 := ch.valid
  have hSelf : Char.ofNat ch.toNat = ch := Char.ofNat_toNat ch
  unfold String.utf8EncodeChar
  rw [show ch.val.toNat = ch.toNat from rfl]
  generalize ch.toNat = v at hValid hSelf
  dsimp only
  by_cases h1 : v ≤ 127
  · rw [if_pos h1]
    have hRead := decodeFrom_one index done rest (a := v) (by omega)
    rw [hSelf] at hRead
    exact hRead
  rw [if_neg h1]
  by_cases h2 : v ≤ 2047
  · rw [if_pos h2]
    have hRead := decodeFrom_two index done rest (a := v / 64 % 32) (b := v % 64) (by omega)
      (by omega) (by omega)
    rw [show v / 64 % 32 * 64 + v % 64 = v by omega, hSelf] at hRead
    exact hRead
  rw [if_neg h2]
  by_cases h3 : v ≤ 65535
  · rw [if_pos h3]
    have hRead := decodeFrom_three index done rest (a := v / 4096 % 16) (b := v / 64 % 64)
      (c := v % 64) (by omega) (by omega) (by omega) (by omega) (by omega)
    rw [show v / 4096 % 16 * 4096 + v / 64 % 64 * 64 + v % 64 = v by omega, hSelf] at hRead
    exact hRead
  rw [if_neg h3]
  have hRead := decodeFrom_four index done rest (a := v / 262144 % 8) (b := v / 4096 % 64)
    (c := v / 64 % 64) (d := v % 64) (by omega) (by omega) (by omega) (by omega) (by omega)
    (by omega)
  rw [show v / 262144 % 8 * 262144 + v / 4096 % 64 * 4096 + v / 64 % 64 * 64 + v % 64 = v by omega,
    hSelf] at hRead
  exact hRead

/-- A text in front is read, and reading goes on behind it. -/
theorem decodeFrom_encode (s : List Char) :
    decodeFrom index done (encode s ++ rest) =
      decodeFrom (index + (encode s).length) (s.reverse ++ done) rest := by
  induction s generalizing index done with
  | nil => rfl
  | cons ch s ih =>
    have hEncode : encode (ch :: s) = String.utf8EncodeChar ch ++ encode s := rfl
    rw [hEncode, List.append_assoc, decodeFrom_utf8EncodeChar, ih, List.length_append,
      Nat.add_assoc, List.reverse_cons, List.append_assoc]
    rfl

/-- The bytes of a text spell that text. -/
theorem decode_bytes (s : String) : decode (bytes s) = .ok s := by
  have hRead := decodeFrom_encode 0 [] [] s.toList
  rw [List.append_nil, List.append_nil, decodeFrom_nil, List.reverse_reverse] at hRead
  unfold decode bytes
  rw [hRead]
  show Except.ok (String.ofList s.toList) = Except.ok s
  rw [String.ofList_toList]

/-! ## Only what can be written is read -/

section Written

variable {b c d e : UInt8}

theorem toNat_lt_iff {k : Nat} {bound : UInt8} (hBound : bound.toNat = k) :
    b < bound ↔ b.toNat < k := by
  rw [UInt8.lt_iff_toNat_lt, hBound]

theorem le_toNat_of_not_lt {k : Nat} {bound : UInt8} (hBound : bound.toNat = k) (h : ¬ b < bound) :
    k ≤ b.toNat :=
  Nat.le_of_not_lt fun hLt => h ((toNat_lt_iff hBound).mpr hLt)

theorem isContinuation_iff : isContinuation c = true ↔ 128 ≤ c.toNat ∧ c.toNat < 192 := by
  simp only [isContinuation, UInt8.le_iff_toNat_le, Bool.and_eq_true, decide_eq_true_eq]
  exact and_congr_right fun _ => Nat.lt_succ_iff.symm

/-- What may follow the first byte of a character of three or four bytes. -/
theorem isSecond_bounds (h : isSecond b c = true) :
    128 ≤ c.toNat ∧ c.toNat < 192 ∧ (b.toNat = 224 → 160 ≤ c.toNat) ∧
      (b.toNat = 237 → c.toNat < 160) ∧ (b.toNat = 240 → 144 ≤ c.toNat) ∧
      (b.toNat = 244 → c.toNat < 144) := by
  simp only [isSecond, isContinuation, ← UInt8.toNat_inj, UInt8.le_iff_toNat_le] at h
  simp at h
  grind

/-- The bytes of the character with a number. -/
theorem utf8EncodeChar_ofNat {v : Nat} (hValid : v.isValidChar) :
    String.utf8EncodeChar (Char.ofNat v) =
      if v ≤ 127 then [UInt8.ofNat v]
      else if v ≤ 2047 then [UInt8.ofNat (v / 64 % 32 + 192), UInt8.ofNat (v % 64 + 128)]
      else if v ≤ 65535 then
        [UInt8.ofNat (v / 4096 % 16 + 224), UInt8.ofNat (v / 64 % 64 + 128),
          UInt8.ofNat (v % 64 + 128)]
      else
        [UInt8.ofNat (v / 262144 % 8 + 240), UInt8.ofNat (v / 4096 % 64 + 128),
          UInt8.ofNat (v / 64 % 64 + 128), UInt8.ofNat (v % 64 + 128)] := by
  have hValue : (Char.ofNat v).val.toNat = v := by
    unfold Char.ofNat
    rw [dif_pos hValid]
    rfl
  unfold String.utf8EncodeChar
  rw [hValue]

theorem eq_ofNat {n : Nat} (h : n = b.toNat) : UInt8.ofNat n = b := by
  rw [h, UInt8.ofNat_toNat]

theorem utf8EncodeChar_one (hb : b < 0x80) : String.utf8EncodeChar (Char.ofNat b.toNat) = [b] := by
  have hFirst : b.toNat < 128 := (toNat_lt_iff rfl).mp hb
  rw [utf8EncodeChar_ofNat (Or.inl (by omega)), if_pos (by omega), UInt8.ofNat_toNat]

theorem utf8EncodeChar_two (hLong : ¬ b < 0xC2) (hb : b < 0xE0) (hc : isContinuation c = true) :
    String.utf8EncodeChar (Char.ofNat (b.toNat % 32 * 64 + tail c)) = [b, c] := by
  have hFrom : 194 ≤ b.toNat := le_toNat_of_not_lt rfl hLong
  have hTo : b.toNat < 224 := (toNat_lt_iff rfl).mp hb
  have hSecond := isContinuation_iff.mp hc
  unfold tail
  rw [utf8EncodeChar_ofNat (Or.inl (by omega)), if_neg (by omega), if_pos (by omega),
    eq_ofNat (b := b) (by omega), eq_ofNat (b := c) (by omega)]

theorem utf8EncodeChar_three (hFrom : ¬ b < 0xE0) (hTo : b < 0xF0) (hc : isSecond b c = true)
    (hd : isContinuation d = true) :
    String.utf8EncodeChar (Char.ofNat (b.toNat % 16 * 4096 + tail c * 64 + tail d)) =
      [b, c, d] := by
  have hAtLeast : 224 ≤ b.toNat := le_toNat_of_not_lt rfl hFrom
  have hBelow : b.toNat < 240 := (toNat_lt_iff rfl).mp hTo
  obtain ⟨hLow, hHigh, hLong, hSurrogate, -, -⟩ := isSecond_bounds hc
  have hThird := isContinuation_iff.mp hd
  unfold tail
  have hValid : (b.toNat % 16 * 4096 + c.toNat % 64 * 64 + d.toNat % 64).isValidChar := by
    unfold Nat.isValidChar
    omega
  rw [utf8EncodeChar_ofNat hValid, if_neg (by omega), if_neg (by omega), if_pos (by omega),
    eq_ofNat (b := b) (by omega), eq_ofNat (b := c) (by omega), eq_ofNat (b := d) (by omega)]

theorem utf8EncodeChar_four (hFrom : ¬ b < 0xF0) (hTo : b < 0xF5) (hc : isSecond b c = true)
    (hd : isContinuation d = true) (he : isContinuation e = true) :
    String.utf8EncodeChar
        (Char.ofNat (b.toNat % 8 * 262144 + tail c * 4096 + tail d * 64 + tail e)) =
      [b, c, d, e] := by
  have hAtLeast : 240 ≤ b.toNat := le_toNat_of_not_lt rfl hFrom
  have hBelow : b.toNat < 245 := (toNat_lt_iff rfl).mp hTo
  obtain ⟨hLow, hHigh, -, -, hLong, hLarge⟩ := isSecond_bounds hc
  have hThird := isContinuation_iff.mp hd
  have hFourth := isContinuation_iff.mp he
  unfold tail
  have hValid : (b.toNat % 8 * 262144 + c.toNat % 64 * 4096 + d.toNat % 64 * 64 +
      e.toNat % 64).isValidChar := by
    unfold Nat.isValidChar
    omega
  rw [utf8EncodeChar_ofNat hValid, if_neg (by omega), if_neg (by omega), if_neg (by omega),
    eq_ofNat (b := b) (by omega), eq_ofNat (b := c) (by omega), eq_ofNat (b := d) (by omega),
    eq_ofNat (b := e) (by omega)]

/-- A character in front of what is written. -/
theorem encode_behind {ch : Char} {done cs : List Char} {first rest : List UInt8}
    (hFirst : String.utf8EncodeChar ch = first)
    (hRest : ∃ s, cs = (ch :: done).reverse ++ s ∧ encode s = rest) :
    ∃ s, cs = done.reverse ++ s ∧ encode s = first ++ rest := by
  obtain ⟨s, rfl, rfl⟩ := hRest
  refine ⟨ch :: s, by simp, ?_⟩
  rw [← hFirst]
  rfl

/-- What has been read is what was read before and characters of which the bytes were there. -/
theorem encode_of_decodeFrom {index : Nat} {done cs : List Char} {bs : List UInt8}
    (h : decodeFrom index done bs = .ok cs) : ∃ s, cs = done.reverse ++ s ∧ encode s = bs := by
  fun_induction decodeFrom index done bs with
  | case1 index done => exact ⟨[], by simp [← Except.ok.inj h], rfl⟩
  | case2 index done b rest hb ih => exact encode_behind (utf8EncodeChar_one hb) (ih h)
  | case5 index done b hOne hLong hTwo c rest hc ih =>
    exact encode_behind (utf8EncodeChar_two hLong hTwo hc) (ih h)
  | case9 index done b hOne hLong hTwo hThree c hc d rest hd ih =>
    exact encode_behind (utf8EncodeChar_three hTwo hThree hc hd) (ih h)
  | case15 index done b hOne hLong hTwo hThree hFour c hc d hd e rest he ih =>
    exact encode_behind (utf8EncodeChar_four hThree hFour hc hd he) (ih h)
  | _ => cases h

/-- Bytes that are read as a text are the bytes of that text. -/
theorem bytes_of_decode {bs : List UInt8} {s : String} (h : decode bs = .ok s) : bytes s = bs := by
  unfold decode at h
  cases hRead : decodeFrom 0 [] bs with
  | error f => rw [hRead] at h; exact nomatch h
  | ok cs =>
    rw [hRead] at h
    obtain ⟨t, hText, hBytes⟩ := encode_of_decodeFrom hRead
    obtain rfl : String.ofList cs = s := Except.ok.inj h
    unfold bytes
    rw [String.toList_ofList, hText]
    exact hBytes

/-- Bytes have a defect exactly if no text has these bytes. -/
theorem exists_defect_iff {bs : List UInt8} :
    (∃ defect, decode bs = .error defect) ↔ ∀ s, bytes s ≠ bs := by
  constructor
  · rintro ⟨defect, hDefect⟩ s rfl
    rw [decode_bytes] at hDefect
    exact nomatch hDefect
  · intro hNone
    cases hDecode : decode bs with
    | error defect => exact ⟨defect, rfl⟩
    | ok s => exact absurd (bytes_of_decode hDecode) (hNone s)

/-- Bytes in front that are those of a text are those of a front of the text. -/
theorem exists_append_of_bytes_eq {s t : String} {rest : List UInt8}
    (h : bytes s = bytes t ++ rest) : ∃ u, s = t ++ u ∧ bytes u = rest := by
  have hRead := decodeFrom_encode 0 [] [] s.toList
  have hFront := decodeFrom_encode 0 [] rest t.toList
  rw [List.append_nil, decodeFrom_nil, List.append_nil, List.reverse_reverse] at hRead
  rw [List.append_nil] at hFront
  have hSame : encode s.toList = encode t.toList ++ rest := h
  rw [hSame, hFront] at hRead
  obtain ⟨u, hChars, hRest⟩ := encode_of_decodeFrom hRead
  rw [List.reverse_reverse] at hChars
  refine ⟨String.ofList u, ?_, ?_⟩
  · rw [← String.toList_inj, String.toList_append, String.toList_ofList, hChars]
  · unfold bytes
    rw [String.toList_ofList, hRest]

end Written
end DevicePower.Text.Utf8
