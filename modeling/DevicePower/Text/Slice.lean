/-!
# Parts of a text by byte offsets

A part of a text is named by two offsets in its UTF-8 bytes. An offset inside a character names no
part, and neither does one behind the end.

## Main results

* `slice?_append`: the part between the ends of two pieces is the piece in the middle.
-/

namespace DevicePower.Text

/-- The number of bytes that characters occupy. -/
def byteCount : List Char → Nat
  | [] => 0
  | c :: rest => c.utf8Size + byteCount rest

/-- The characters from a byte offset on. -/
def dropBytes? : Nat → List Char → Option (List Char)
  | 0, s => some s
  | _ + 1, [] => none
  | n + 1, c :: rest => if c.utf8Size ≤ n + 1 then dropBytes? (n + 1 - c.utf8Size) rest else none

/-- The characters up to a byte offset. -/
def takeBytes? : Nat → List Char → Option (List Char)
  | 0, _ => some []
  | _ + 1, [] => none
  | n + 1, c :: rest =>
    if c.utf8Size ≤ n + 1 then (takeBytes? (n + 1 - c.utf8Size) rest).map (c :: ·) else none

/-- The characters between two byte offsets. -/
def slice? (s : List Char) (first last : Nat) : Option (List Char) :=
  (dropBytes? first s).bind (takeBytes? (last - first))

theorem dropBytes?_append (s t : List Char) : dropBytes? (byteCount s) (s ++ t) = some t := by
  induction s with
  | nil => simp [byteCount, dropBytes?]
  | cons c rest ih =>
    have hPos := c.utf8Size_pos
    obtain ⟨n, hn⟩ : ∃ n, c.utf8Size + byteCount rest = n + 1 :=
      ⟨c.utf8Size + byteCount rest - 1, by omega⟩
    rw [byteCount, List.cons_append, hn, dropBytes?, if_pos (by omega), ← hn,
      Nat.add_sub_cancel_left, ih]

theorem takeBytes?_append (s t : List Char) : takeBytes? (byteCount s) (s ++ t) = some s := by
  induction s with
  | nil => simp [byteCount, takeBytes?]
  | cons c rest ih =>
    have hPos := c.utf8Size_pos
    obtain ⟨n, hn⟩ : ∃ n, c.utf8Size + byteCount rest = n + 1 :=
      ⟨c.utf8Size + byteCount rest - 1, by omega⟩
    rw [byteCount, List.cons_append, hn, takeBytes?, if_pos (by omega), ← hn,
      Nat.add_sub_cancel_left, ih, Option.map_some]

/-- The part between the ends of two pieces is the piece in the middle. -/
theorem slice?_append (before s after : List Char) :
    slice? (before ++ (s ++ after)) (byteCount before) (byteCount before + byteCount s) =
      some s := by
  rw [slice?, dropBytes?_append, Option.bind_some, Nat.add_sub_cancel_left, takeBytes?_append]

end DevicePower.Text
