/-!
# Beginnings of texts
-/

namespace OpcodeTables.Text

/-- What stands behind a word that begins a text. -/
def after? (word text : List Char) : Option (List Char) :=
  if word.isPrefixOf text then some (text.drop word.length) else none

theorem after?_eq_some {word text rest : List Char}
    (h : after? word text = some rest) : text = word ++ rest := by
  unfold after? at h
  split at h
  case isTrue hstarts =>
    obtain ⟨tail, rfl⟩ := List.isPrefixOf_iff_prefix.mp hstarts
    simp only [List.drop_left, Option.some.injEq] at h
    rw [h]
  case isFalse => cases h

end OpcodeTables.Text
