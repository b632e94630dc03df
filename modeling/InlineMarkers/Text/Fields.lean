/-!
# Fields between separators

A text is cut at every separator into one more field than it has separators.
Joining the fields again gives the text back.
-/

namespace InlineMarkers.Text

/-- The pieces of a text between separators; a text without any is one field. -/
def fields (separator : Char) : List Char → List (List Char)
  | [] => [[]]
  | c :: rest =>
      if c == separator then [] :: fields separator rest
      else
        match fields separator rest with
        | [] => [[c]]
        | field :: others => (c :: field) :: others

/-- Fields written one after another with a separator between them. -/
def joinFields (separator : Char) : List (List Char) → List Char
  | [] => []
  | [field] => field
  | field :: others => field ++ separator :: joinFields separator others

theorem fields_ne_nil (separator : Char) (text : List Char) : fields separator text ≠ [] := by
  cases text with
  | nil => simp [fields]
  | cons c rest =>
    simp only [fields]
    split
    · simp
    · split <;> simp

/-- Cutting a text at a separator loses nothing. -/
theorem joinFields_fields (separator : Char) (text : List Char) :
    joinFields separator (fields separator text) = text := by
  induction text with
  | nil => rfl
  | cons c rest ih =>
    simp only [fields]
    split
    · rename_i isSeparator
      have notNil := fields_ne_nil separator rest
      cases fieldsOfRest : fields separator rest with
      | nil => exact absurd fieldsOfRest notNil
      | cons field others =>
        rw [fieldsOfRest] at ih
        simp only [joinFields, List.nil_append, ih]
        simp [eq_of_beq isSeparator]
    · cases fieldsOfRest : fields separator rest with
      | nil => exact absurd fieldsOfRest (fields_ne_nil separator rest)
      | cons field others =>
        rw [fieldsOfRest] at ih
        cases others with
        | nil => simpa [joinFields] using ih
        | cons next more => simpa [joinFields] using ih

end InlineMarkers.Text
