/-
Splitting a text at a character. The parts are the texts between its occurrences, so there is one more part than there
are occurrences (`length_split`), and joining the parts gives the text back (`intercalate_split`).
-/
namespace CatalogLint.Text

/-- the parts of a text between the occurrences of a character -/
def split (mark : Char) : List Char → List (List Char)
  | [] => [[]]
  | c :: rest =>
    if c = mark then [] :: split mark rest
    else
      match split mark rest with
      | [] => [[c]]
      | part :: more => (c :: part) :: more

theorem split_ne_nil (mark : Char) (cs : List Char) : split mark cs ≠ [] := by
  induction cs with
  | nil => simp [split]
  | cons c rest ih =>
    simp only [split]
    split
    · simp
    · split <;> simp

theorem length_split (mark : Char) (cs : List Char) : (split mark cs).length = cs.count mark + 1 := by
  induction cs with
  | nil => rfl
  | cons c rest ih =>
    simp only [split]
    split
    · rename_i h
      subst h
      simp [ih]
    · rename_i h
      cases hs : split mark rest with
      | nil => exact absurd hs (split_ne_nil mark rest)
      | cons part more =>
        rw [hs] at ih
        simpa [List.count_cons, h] using ih

theorem intercalate_split (mark : Char) (cs : List Char) : [mark].intercalate (split mark cs) = cs := by
  induction cs with
  | nil => rfl
  | cons c rest ih =>
    simp only [split]
    cases hs : split mark rest with
    | nil => exact absurd hs (split_ne_nil mark rest)
    | cons part more =>
      rw [hs] at ih
      split
      · rename_i h
        subst h
        simpa [List.intercalate] using ih
      · cases more <;> simpa [List.intercalate] using ih

end CatalogLint.Text
