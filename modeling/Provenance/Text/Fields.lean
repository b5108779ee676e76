/-!
Texts made of fields with a separator between them. Splitting at a separator and joining with it
are inverse to each other as long as no field holds the separator.
-/
namespace Provenance.Text

/-- The fields between the separators: one more than there are separators, and possibly empty. -/
def splitAt (sep : Char) : List Char → List (List Char)
  | [] => [[]]
  | c :: rest =>
    if c = sep then [] :: splitAt sep rest
    else
      match splitAt sep rest with
      | [] => [[c]]
      | field :: fields => (c :: field) :: fields

/-- The fields with one separator between any two neighbours. -/
def joinWith (sep : Char) : List (List Char) → List Char
  | [] => []
  | [field] => field
  | field :: fields => field ++ sep :: joinWith sep fields

/-- The fields of a text. -/
def fieldsOf (sep : Char) (s : String) : List String :=
  (splitAt sep s.toList).map String.ofList

/-- The text that has the given fields. -/
def ofFields (sep : Char) (fields : List String) : String :=
  String.ofList (joinWith sep (fields.map String.toList))

/-- The text with every occurrence of one character exchanged for another. -/
def exchange (old new : Char) (s : String) : String :=
  String.ofList (s.toList.map fun c => if c = old then new else c)

theorem splitAt_ne_nil (sep : Char) (s : List Char) : splitAt sep s ≠ [] := by
  cases s with
  | nil => simp [splitAt]
  | cons c rest => simp only [splitAt]; split <;> (try split) <;> simp

/-- Joining the fields of a text gives the text back. -/
theorem joinWith_splitAt (sep : Char) (s : List Char) : joinWith sep (splitAt sep s) = s := by
  induction s with
  | nil => rfl
  | cons c rest ih =>
    cases hs : splitAt sep rest with
    | nil => exact absurd hs (splitAt_ne_nil sep rest)
    | cons field fields =>
      rw [hs] at ih
      by_cases hc : c = sep
      · simp [splitAt, hc, hs, joinWith, ih]
      · cases fields <;> simp_all [splitAt, joinWith]

end Provenance.Text
