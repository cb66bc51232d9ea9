import DevicePower.Text.Lowercase

/-!
# Names in other cases

A name is known in any mix of cases. For the letters of ASCII this is what one expects, and only one
character beyond ASCII takes part: the Kelvin sign, which is a `k` in lower case. So what a text
spells is told by the letters of ASCII alone, once each Kelvin sign in it is written as a `k`.

The rest of the alphabet need not be known for this. A lower-casing of all texts may look at what
stands around a character, as is done for a Greek sigma, and may make several characters of one. As
long as something outside ASCII remains of every other character outside ASCII, it finds the same
names.

## Main results

* `spells_iff_sameButCase`: which texts spell a name.
* `sameButCase_plain_iff`: where a name has no `k`, the Kelvin sign does not matter.
* `Lowercasing.spells_iff_lower`: folding finds the names that a full lower-casing finds.
-/

namespace DevicePower.Text

/-- Whether two texts are the same but for the cases of the letters of ASCII. -/
def SameButCase (s t : List Char) : Prop := s.map Char.toLower = t.map Char.toLower

instance (s t : List Char) : Decidable (SameButCase s t) :=
  inferInstanceAs (Decidable (_ = _))

/-- A character, with the letter `k` for the Kelvin sign. -/
def plainChar (c : Char) : Char := if c = kelvinSign then 'k' else c

/-- A text with the letter `k` for each Kelvin sign. -/
def plain (s : List Char) : List Char := s.map plainChar

/-- Whether a text is in ASCII and has no capitals. -/
def IsSmall (s : List Char) : Prop := ∀ c ∈ s, c.toNat < 128 ∧ c.toLower = c

-- This runs through the text. Another instance would run through all characters that there are.
instance (s : List Char) : Decidable (IsSmall s) := List.decidableBAll _ s

/-! ## What a text spells -/

theorem fold_eq_map_plain (s : List Char) : fold s = (plain s).map Char.toLower := by
  unfold fold plain
  rw [List.map_map]
  refine List.map_congr_left fun c _ => ?_
  show foldChar c = (plainChar c).toLower
  unfold foldChar plainChar
  split
  · rfl
  · rfl

theorem IsSmall.map_toLower {s : List Char} (h : IsSmall s) : s.map Char.toLower = s := by
  have hSame : s.map Char.toLower = s.map id := List.map_congr_left fun c hMem => (h c hMem).2
  rw [hSame, List.map_id]

/-- A text spells a name if, with `k` for each Kelvin sign, it differs from the name in cases
only. -/
theorem spells_iff_sameButCase {s name : String} (h : IsSmall name.toList) :
    spells s name = true ↔ SameButCase (plain s.toList) name.toList := by
  unfold spells SameButCase
  rw [beq_iff_eq, fold_eq_map_plain, h.map_toLower]

theorem kelvinSign_notMem {s : List Char} (h : IsSmall s) : kelvinSign ∉ s := by
  intro hMem
  exact absurd (h _ hMem).1 (by decide)

theorem plain_of_notMem {s : List Char} (h : kelvinSign ∉ s) : plain s = s := by
  have hSame : s.map plainChar = s.map id := by
    refine List.map_congr_left fun c hMem => if_neg ?_
    rintro rfl
    exact h hMem
  unfold plain
  rw [hSame, List.map_id]

/-- Where a name has no `k`, no Kelvin sign can stand for a letter of it. -/
theorem sameButCase_plain_iff {s name : List Char} (h : IsSmall name) (hNoK : 'k' ∉ name) :
    SameButCase (plain s) name ↔ SameButCase s name := by
  by_cases hMem : kelvinSign ∈ s
  · unfold SameButCase
    rw [h.map_toLower]
    refine iff_of_false (fun hSame => hNoK ?_) fun hSame => kelvinSign_notMem h ?_
    · rw [← hSame]
      exact List.mem_map_of_mem (f := Char.toLower) (List.mem_map_of_mem (f := plainChar) hMem)
    · rw [← hSame]
      exact List.mem_map_of_mem (f := Char.toLower) hMem
  · rw [plain_of_notMem hMem]

/-! ## Lower-casing all of Unicode -/

/-- A way to write texts in lower case, of which as much is known as matters for names in ASCII. -/
structure Lowercasing where
  /-- What becomes of a character between two texts. -/
  small (before : List Char) (c : Char) (after : List Char) : List Char
  ascii : ∀ before c after, c.toNat < 128 → small before c after = [c.toLower]
  kelvin : ∀ before after, small before kelvinSign after = ['k']
  /-- Something of every other character remains outside ASCII. -/
  other : ∀ before c after, 128 ≤ c.toNat → c ≠ kelvinSign →
    ∃ d ∈ small before c after, 128 ≤ d.toNat

theorem toLower_of_le {c : Char} (h : 128 ≤ c.toNat) : c.toLower = c := by
  refine dif_neg fun hUpper => ?_
  have hHigh : c.toNat ≤ 90 := hUpper.2
  omega

namespace Lowercasing

/-- Folding is one itself. -/
instance : Inhabited Lowercasing where
  default :=
    { small := fun _ c _ => [foldChar c]
      ascii := fun _ c _ hAscii => by
        have hOther : c ≠ kelvinSign := by
          rintro rfl
          exact absurd hAscii (by decide)
        rw [foldChar, if_neg hOther]
      kelvin := fun _ _ => rfl
      other := fun _ c _ hHigh hOther => by
        refine ⟨foldChar c, List.mem_singleton_self _, ?_⟩
        rwa [foldChar, if_neg hOther, toLower_of_le hHigh] }

variable (L : Lowercasing)

/-- What becomes of a text behind another one. -/
def lowerFrom (before : List Char) : List Char → List Char
  | [] => []
  | c :: rest => L.small before c rest ++ lowerFrom (before ++ [c]) rest

/-- A text in lower case. -/
def lower (s : List Char) : List Char := L.lowerFrom [] s

theorem small_eq_foldChar (before : List Char) {c : Char} (after : List Char)
    (h : c.toNat < 128 ∨ c = kelvinSign) : L.small before c after = [foldChar c] := by
  unfold foldChar
  split
  · next hKelvin =>
    subst hKelvin
    exact L.kelvin before after
  · next hOther => exact L.ascii before c after (h.resolve_right hOther)

theorem lowerFrom_eq_iff_fold (s : List Char) :
    ∀ (before : List Char) {name : List Char}, (∀ d ∈ name, d.toNat < 128) →
      (L.lowerFrom before s = name ↔ fold s = name) := by
  induction s with
  | nil => exact fun _ _ _ => Iff.rfl
  | cons c rest ih =>
    intro before name hName
    by_cases hKnown : c.toNat < 128 ∨ c = kelvinSign
    · show L.small before c rest ++ L.lowerFrom (before ++ [c]) rest = name ↔
        foldChar c :: fold rest = name
      rw [L.small_eq_foldChar before rest hKnown]
      cases name with
      | nil => exact iff_of_false (List.cons_ne_nil _ _) (List.cons_ne_nil _ _)
      | cons d name =>
        have hRest := ih (before ++ [c]) fun e hMem => hName e (List.mem_cons_of_mem d hMem)
        show foldChar c :: L.lowerFrom (before ++ [c]) rest = d :: name ↔ _
        rw [List.cons.injEq, List.cons.injEq, hRest]
    · -- Neither side can be a text in ASCII.
      obtain ⟨hHigh, hOther⟩ := not_or.mp hKnown
      have hHigh : 128 ≤ c.toNat := Nat.le_of_not_lt hHigh
      refine iff_of_false ?_ ?_
      · rintro rfl
        obtain ⟨d, hMem, hOutside⟩ := L.other before c rest hHigh hOther
        exact Nat.not_lt.mpr hOutside (hName d (List.mem_append_left _ hMem))
      · rintro rfl
        have hSame : foldChar c = c := (if_neg hOther).trans (toLower_of_le hHigh)
        have hSmall := hName (foldChar c) List.mem_cons_self
        rw [hSame] at hSmall
        exact Nat.not_lt.mpr hHigh hSmall

/-- A text spells a name in ASCII if it is the name when it is all in lower case. -/
theorem spells_iff_lower {s name : String} (h : ∀ d ∈ name.toList, d.toNat < 128) :
    spells s name = true ↔ L.lower s.toList = name.toList := by
  unfold spells lower
  rw [beq_iff_eq]
  exact (L.lowerFrom_eq_iff_fold s.toList [] h).symm

end Lowercasing

end DevicePower.Text
