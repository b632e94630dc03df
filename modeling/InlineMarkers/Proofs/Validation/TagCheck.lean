import InlineMarkers.Proofs.Text.Trim
import InlineMarkers.Proofs.Validation.Settled
import InlineMarkers.Validation.Tag

/-!
# What the check of tags finds

A tag is found blank, to hold forbidden characters, or too long, and each fix
leaves a tag that is not found so again.
-/

namespace InlineMarkers.Validation

open Text

variable {config : MarkerConfig} {content : List Char} {start limit : Nat}
  {diagnostic : Diagnostic} {fix : QuickFix}

/-- What a diagnostic for the content of a tag can be. -/
inductive TagFinding (config : MarkerConfig) (content : List Char) (start : Nat)
    (diagnostic : Diagnostic) : Prop where
  | brackets (empty : content = []) (behind : 1 ≤ start)
      (reports : diagnostic.Reports .tagEmpty (start - 1) ['[', ']'] ['[' :: (newTag ++ [']'])])
  | blank (nonempty : content ≠ []) (blank : trim content = [])
      (reports : diagnostic.Reports .tagEmpty start content [newTag])
  | forbidden (nonempty : content ≠ []) (forbidden : content.any isForbiddenInTag = true)
      (reports : diagnostic.Reports .tagInvalidChars start content [sanitizeTag content])
  | long (nonempty : content ≠ []) (long : config.maxTagLength < content.length)
      (reports : diagnostic.Reports .tagTooLong start content
        [truncateTag config.maxTagLength content])

theorem checkTag_finding (found : checkTag config content start = some diagnostic) :
    TagFinding config content start diagnostic := by
  simp only [checkTag] at found
  split at found
  · simp at found
  split at found
  · rename_i blank
    have blankEq : trim content = [] := by simpa using blank
    split at found
    · rename_i empty
      split at found
      · simp at found
      · obtain rfl := Option.some.inj found
        exact .brackets (by simpa using empty) (by omega) (Diagnostic.reports_ofValue ..)
    · rename_i nonempty
      obtain rfl := Option.some.inj found
      exact .blank (by simpa using nonempty) blankEq (Diagnostic.reports_ofValue ..)
  rename_i notBlank
  have nonempty : content ≠ [] := by
    rintro rfl
    simp [trim_nil] at notBlank
  split at found
  · rename_i forbidden
    obtain rfl := Option.some.inj found
    exact .forbidden nonempty forbidden (Diagnostic.reports_ofValue ..)
  split at found
  · rename_i long
    obtain rfl := Option.some.inj found
    exact .long nonempty long (Diagnostic.reports_ofValue ..)
  · simp at found

/-- Nothing is found wrong in a short tag that says something in allowed characters. -/
theorem checkTag_eq_none (solid : trim content ≠ [])
    (allowed : content.any isForbiddenInTag = false)
    (short : content.length ≤ config.maxTagLength) : checkTag config content start = none := by
  rw [Option.eq_none_iff_forall_ne_some]
  intro diagnostic found
  cases checkTag_finding found with
  | brackets empty =>
      rw [empty] at solid
      exact solid trim_nil
  | blank _ blank => exact solid blank
  | forbidden _ forbidden =>
      rw [allowed] at forbidden
      exact Bool.noConfusion forbidden
  | long _ long => omega

theorem checkTag_steady (config : MarkerConfig) : Steady (checkTag config) := by
  intro content near far distance nearPos farPos apart
  have nearInside : ¬near < 1 := by omega
  have farInside : ¬far < 1 := by omega
  have before : near + distance - 1 = near - 1 + distance := by omega
  simp only [checkTag, emptyTag, nearInside, farInside, if_false, apart, before]
  repeat' split
  all_goals simp [Diagnostic.move_ofValue]

/-! ## The fixes -/

theorem mem_of_mem_sanitizeTag {c : Char} (member : c ∈ sanitizeTag content) :
    c ∈ newTag ∨ c ∈ content ∧ isForbiddenInTag c = false := by
  simp only [sanitizeTag] at member
  split at member
  · exact .inl member
  · have kept := mem_of_mem_trim member
    rw [List.mem_filter] at kept
    exact .inr ⟨kept.1, by simpa using kept.2⟩

theorem sanitizeTag_ne_nil (content : List Char) : sanitizeTag content ≠ [] := by
  simp only [sanitizeTag]
  split
  · decide
  · rename_i nonempty
    exact nonempty

theorem truncateTag_length_le (room : 4 ≤ limit) (content : List Char) :
    (truncateTag limit content).length ≤ limit := by
  have cut := trimEnd_length_le (content.take (max 1 (limit - 3)))
  simp only [truncateTag, List.length_append, List.length_cons, List.length_nil]
  rw [List.length_take] at cut
  omega

theorem mem_of_mem_truncateTag {c : Char} (member : c ∈ truncateTag limit content) :
    c ∈ content ∨ c = '.' := by
  rcases List.mem_append.mp member with kept | dots
  · exact .inl (List.mem_of_mem_take (mem_of_mem_trimEnd kept))
  · exact .inr (by simpa using dots)

theorem newTag_settles (config : MarkerConfig) :
    Settles (checkTag config) .tag (some .tagEmpty) newTag where
  admits := show ']' ∉ newTag by decide
  nonempty := by decide
  cleared := by
    intro start again found
    have solid : trim newTag ≠ [] := by decide
    cases checkTag_finding found with
    | brackets empty => exact absurd empty (by decide)
    | blank _ blank => exact absurd blank solid
    | forbidden _ _ reports => simp [reports.code_eq]
    | long _ _ reports => simp [reports.code_eq]

theorem sanitizeTag_settles (config : MarkerConfig) (unclosed : ']' ∉ content) :
    Settles (checkTag config) .tag (some .tagInvalidChars) (sanitizeTag content) where
  admits := by
    intro member
    rcases mem_of_mem_sanitizeTag member with inNewTag | ⟨inContent, -⟩
    · exact absurd inNewTag (by decide)
    · exact unclosed inContent
  nonempty := sanitizeTag_ne_nil content
  cleared := by
    intro start again found
    have clean : (sanitizeTag content).any isForbiddenInTag = false := by
      rw [List.any_eq_false]
      intro c member
      rcases mem_of_mem_sanitizeTag member with inNewTag | ⟨-, allowed⟩
      · have newTagClean : newTag.any isForbiddenInTag = false := by decide
        exact List.any_eq_false.mp newTagClean c inNewTag
      · simp [allowed]
    cases checkTag_finding found with
    | brackets _ _ reports => simp [reports.code_eq]
    | blank _ _ reports => simp [reports.code_eq]
    | forbidden _ forbidden => simp [clean] at forbidden
    | long _ _ reports => simp [reports.code_eq]

theorem truncateTag_settles (room : 4 ≤ config.maxTagLength) (unclosed : ']' ∉ content) :
    Settles (checkTag config) .tag (some .tagTooLong)
      (truncateTag config.maxTagLength content) where
  admits := by
    intro member
    rcases mem_of_mem_truncateTag member with inContent | isDot
    · exact unclosed inContent
    · exact absurd isDot (by decide)
  nonempty := by simp [truncateTag]
  cleared := by
    intro start again found
    have short := truncateTag_length_le room content
    cases checkTag_finding found with
    | brackets _ _ reports => simp [reports.code_eq]
    | blank _ _ reports => simp [reports.code_eq]
    | forbidden _ _ reports => simp [reports.code_eq]
    | long _ long => omega

/-- Every fix of a tag settles it; between empty brackets it puts the new tag. -/
theorem checkTag_settles (room : 4 ≤ config.maxTagLength) (unclosed : ']' ∉ content)
    (found : checkTag config content start = some diagnostic)
    (offered : fix ∈ diagnostic.fixes) :
    Settles (checkTag config) .tag diagnostic.code
      (if content.isEmpty then newTag else fix.replacement) := by
  cases checkTag_finding found with
  | brackets empty _ reports =>
      rw [reports.code_eq, empty, List.isEmpty_nil, if_pos rfl]
      exact newTag_settles config
  | blank nonempty _ reports =>
      rw [reports.code_eq, if_neg (by simpa using nonempty), reports.eq_of_mem offered]
      exact newTag_settles config
  | forbidden nonempty _ reports =>
      rw [reports.code_eq, if_neg (by simpa using nonempty), reports.eq_of_mem offered]
      exact sanitizeTag_settles config unclosed
  | long nonempty _ reports =>
      rw [reports.code_eq, if_neg (by simpa using nonempty), reports.eq_of_mem offered]
      exact truncateTag_settles room unclosed

end InlineMarkers.Validation
