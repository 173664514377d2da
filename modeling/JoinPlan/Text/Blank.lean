import JoinPlan.Text.Range

/-!
# Blanks

The characters with the Unicode property White_Space, and text without them at either end.
-/

namespace JoinPlan.Text

def blankRanges : Ranges := #[
  (9, 0xD), (0x20, 0x20), (0x85, 0x85), (0xA0, 0xA0), (0x1680, 0x1680), (0x2000, 0x200A),
  (0x2028, 0x2029), (0x202F, 0x202F), (0x205F, 0x205F), (0x3000, 0x3000)]

/-- The blanks of Unicode. A zero-width space is none of them. -/
def isBlank (c : Char) : Bool :=
  blankRanges.holds c

theorem isBlank_of_graphic {c : Char} (h : 0x20 < c.toNat) (h' : c.toNat < 0x80) :
    isBlank c = false := by
  simp [isBlank, Ranges.holds, blankRanges]
  omega

/-- The text without the blanks at its ends. -/
def trim (s : String) : String :=
  String.ofList ((s.toList.dropWhile isBlank).reverse.dropWhile isBlank).reverse

end JoinPlan.Text
