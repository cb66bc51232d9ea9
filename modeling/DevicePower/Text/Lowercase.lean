/-!
# Names compared without regard to case

A name on a command line or in a variable may be typed in any mix of cases. It is folded to lower
case first and compared with the known names after that. All known names are ASCII, so only the
folds that end in ASCII matter, and there are two kinds: an ASCII capital to its small letter, and
the Kelvin sign U+212A to `k`. Every other character either folds to something outside ASCII or to
more than one character that is not all ASCII (a dotted capital I), and leaving it as it is keeps
the text as different from every known name as its fold would be.

## Main results

* `fold_of_isAscii_lower`: text that is already small ASCII stays as it is.
-/

namespace DevicePower.Text

/-- The Kelvin sign, which looks like a capital K and folds to the small one. -/
def kelvinSign : Char := '\u212A'

/-- The small form of a character, where that form is in ASCII. -/
def foldChar (c : Char) : Char :=
  if c = kelvinSign then 'k' else c.toLower

/-- A text with every character folded. -/
def fold (s : List Char) : List Char := s.map foldChar

/-- Whether `s` spells `name` in some mix of cases. -/
def spells (s name : String) : Bool := fold s.toList == name.toList

/-- The entry of a table of names that `s` spells. -/
def named? {α : Type} (table : List (String × α)) (s : String) : Option α :=
  (table.find? fun (name, _) => spells s name).map Prod.snd

/-- Small ASCII letters, digits, dashes and underscores stay as they are. -/
theorem fold_of_isAscii_lower {s : List Char}
    (h : ∀ c ∈ s, c.isUpper = false ∧ c ≠ kelvinSign) : fold s = s := by
  induction s with
  | nil => rfl
  | cons c rest ih =>
    have hc := h c List.mem_cons_self
    have hLower : c.toLower = c := dif_neg (of_decide_eq_false hc.1)
    simp only [fold, List.map_cons, foldChar, if_neg hc.2, hLower, List.cons.injEq, true_and]
    exact ih fun d hd => h d (List.mem_cons_of_mem _ hd)

end DevicePower.Text
