import Mathlib.Data.List.TakeWhile

/-!
# Words in front of a text

A word of one class of characters ends where the class does.  A text that goes on
outside the class can therefore be cut into such a word and a rest in one way
only.
-/

namespace OpcodeTables.Text

variable {inClass : Char → Bool} {word other rest behind : List Char}

theorem takeWhile_word (hword : ∀ c ∈ word, inClass c = true)
    (hrest : rest.takeWhile inClass = []) :
    (word ++ rest).takeWhile inClass = word := by
  rw [List.takeWhile_append_of_pos hword, hrest, List.append_nil]

theorem dropWhile_word (hword : ∀ c ∈ word, inClass c = true)
    (hrest : rest.takeWhile inClass = []) :
    (word ++ rest).dropWhile inClass = rest := by
  have hsplit : (word ++ rest).takeWhile inClass ++ (word ++ rest).dropWhile inClass =
      word ++ rest := List.takeWhile_append_dropWhile
  rw [takeWhile_word hword hrest] at hsplit
  exact List.append_cancel_left hsplit

/-- Where a word ends is settled by the class of its characters. -/
theorem word_unique (hword : ∀ c ∈ word, inClass c = true)
    (hrest : rest.takeWhile inClass = []) (hother : ∀ c ∈ other, inClass c = true)
    (hbehind : behind.takeWhile inClass = []) (htext : word ++ rest = other ++ behind) :
    word = other ∧ rest = behind := by
  constructor
  · rw [← takeWhile_word hword hrest, htext, takeWhile_word hother hbehind]
  · rw [← dropWhile_word hword hrest, htext, dropWhile_word hother hbehind]

theorem takeWhile_append_eq_nil (hne : word ≠ [])
    (hword : ∀ c ∈ word, inClass c = false) :
    (word ++ rest).takeWhile inClass = [] := by
  cases word with
  | nil => contradiction
  | cons first word =>
      rw [List.cons_append]
      exact List.takeWhile_cons_of_neg (by simp [hword first List.mem_cons_self])

end OpcodeTables.Text
