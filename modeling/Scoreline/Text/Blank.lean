/-!
# Scoreline.Text.Blank

Blank characters are those of the Unicode property `White_Space`. `trim` takes them from both ends
of a text and leaves the inside alone: what remains begins and ends with a character that is not
blank, and trimming it again changes nothing.
-/

namespace Scoreline
namespace Text

/-- The property `White_Space`, as inclusive ranges of code points. -/
def blankRanges : List (Nat × Nat) :=
  [(0x09, 0x0D), (0x20, 0x20), (0x85, 0x85), (0xA0, 0xA0), (0x1680, 0x1680), (0x2000, 0x200A),
   (0x2028, 0x2029), (0x202F, 0x202F), (0x205F, 0x205F), (0x3000, 0x3000)]

def isBlank (c : Char) : Bool := blankRanges.any fun (low, high) => low ≤ c.toNat && c.toNat ≤ high

/-- The characters without the blank ones at the end. -/
def dropBlankEnd (s : List Char) : List Char := (s.reverse.dropWhile isBlank).reverse

/-- The characters without the blank ones at either end. -/
def trimChars (s : List Char) : List Char := dropBlankEnd (s.dropWhile isBlank)

def trimStart (s : String) : String := String.ofList (s.toList.dropWhile isBlank)

def trimEnd (s : String) : String := String.ofList (dropBlankEnd s.toList)

def trim (s : String) : String := trimEnd (trimStart s)

theorem dropWhile_dropWhile (p : Char → Bool) (s : List Char) :
    (s.dropWhile p).dropWhile p = s.dropWhile p := by
  induction s with
  | nil => rfl
  | cons c s ih => by_cases h : p c <;> simp [h, ih]

theorem dropBlankEnd_dropBlankEnd (s : List Char) :
    dropBlankEnd (dropBlankEnd s) = dropBlankEnd s := by
  simp [dropBlankEnd, dropWhile_dropWhile]

/-- Dropping blanks at the end leaves a beginning that is not blank alone. -/
theorem dropWhile_dropBlankEnd {s : List Char} (h : s.dropWhile isBlank = s) :
    (dropBlankEnd s).dropWhile isBlank = dropBlankEnd s := by
  cases s with
  | nil => rfl
  | cons c s =>
    have hc : isBlank c = false := by
      by_cases hc : isBlank c
      · exfalso
        have hl := congrArg List.length h
        rw [List.dropWhile_cons_of_pos hc, List.length_cons] at hl
        have := (List.dropWhile_suffix (l := s) isBlank).length_le
        omega
      · simpa using hc
    have : ∃ t, dropBlankEnd (c :: s) = c :: t := by
      simp only [dropBlankEnd, List.reverse_cons]
      rw [List.dropWhile_append]
      split
      · exact ⟨[], by simp [hc]⟩
      · exact ⟨(s.reverse.dropWhile isBlank).reverse, by simp⟩
    obtain ⟨t, ht⟩ := this
    rw [ht]
    exact List.dropWhile_cons_of_neg (by simp [hc])

theorem trimChars_trimChars (s : List Char) : trimChars (trimChars s) = trimChars s := by
  unfold trimChars
  rw [dropWhile_dropBlankEnd (dropWhile_dropWhile _ _), dropBlankEnd_dropBlankEnd]

theorem toList_trim (s : String) : (trim s).toList = trimChars s.toList := by
  rw [trim, trimEnd, trimStart, String.toList_ofList, String.toList_ofList, trimChars]

theorem trim_trim (s : String) : trim (trim s) = trim s := by
  rw [← String.toList_inj, toList_trim, toList_trim, trimChars_trimChars]

end Text
end Scoreline
