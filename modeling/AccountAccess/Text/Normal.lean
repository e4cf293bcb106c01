/-!
What texts are brought to before they are compared: no blanks around them, and letters in lower
case.

* `Ascii.lower` maps `A` to `Z` to `a` to `z` and leaves every other character alone;
  `Ascii.lower_lower`. `Ascii.sameIgnoringCase` is equality under it, so letters beyond ASCII keep
  their case.
* `Text.isBlank` is Unicode's property `White_Space`; the blanks include the ASCII ones that core
  knows (`Text.isBlank_of_isWhitespace`).
-/

namespace AccountAccess.Ascii

/-! ### Case -/

/-- The text with the ASCII letters in lower case. -/
def lower (s : String) : String := String.ofList (s.toList.map Char.toLower)

/-- The texts agree up to the case of ASCII letters. -/
def sameIgnoringCase (s t : String) : Bool := lower s == lower t

theorem toLower_toLower (c : Char) : c.toLower.toLower = c.toLower := by
  unfold Char.toLower
  split
  · rename_i h
    split
    · rename_i h'
      have := h'.2
      simp at h h' this
      grind
    · rfl
  · rfl

@[simp] theorem lower_lower (s : String) : lower (lower s) = lower s := by
  simp only [lower, String.toList_ofList, List.map_map]
  congr 1
  exact List.map_congr_left fun c _ => toLower_toLower c

theorem sameIgnoringCase_iff {s t : String} : sameIgnoringCase s t = true ↔ lower s = lower t := by
  simp [sameIgnoringCase]

end AccountAccess.Ascii

namespace AccountAccess.Text

/-! ### Blanks -/

/-- Unicode's property `White_Space`. -/
def isBlank (c : Char) : Bool :=
  let n := c.toNat
  (9 ≤ n && n ≤ 13) || n == 0x20 || n == 0x85 || n == 0xA0 || n == 0x1680 ||
    (0x2000 ≤ n && n ≤ 0x200A) || n == 0x2028 || n == 0x2029 || n == 0x202F || n == 0x205F ||
    n == 0x3000

/-- Drops blanks at the front. -/
def trimStart (s : List Char) : List Char := s.dropWhile isBlank

/-- Drops blanks at the end. -/
def trimEnd (s : List Char) : List Char := (s.reverse.dropWhile isBlank).reverse

/-- Drops blanks at both ends. -/
def trim (s : String) : String := String.ofList (trimEnd (trimStart s.toList))

/-- Drops the byte order mark that a file may begin with. -/
def dropMark : List Char → List Char
  | '\uFEFF' :: s => s
  | s => s

/-- A text that holds nothing but blanks. -/
def isBlankText (s : String) : Bool := s.toList.all isBlank

theorem isBlank_of_isWhitespace {c : Char} (h : c.isWhitespace = true) : isBlank c = true := by
  simp only [Char.isWhitespace, Bool.or_eq_true, decide_eq_true_eq] at h
  rcases h with ((rfl | rfl) | rfl) | rfl <;> decide

end AccountAccess.Text
