import InlineMarkers.Proofs.Marker.ScanSpans
import InlineMarkers.Proofs.Marker.Splice

/-!
# Cutting a text behind a marker

A text that is cut behind one of its markers can be scanned in two pieces: the
markers of the text are those of the first piece and then those of the second.
Nothing that the scan remembers, and nothing that it looks for ahead, reaches over
such a place.  The walk of the tokenizer arrives there, so what is behind the place
can be taken away without a change before it.
-/

namespace InlineMarkers

open Text

namespace Tokenizer

variable {position place middle : Nat} {text arrived between : List Char} {marker : Marker}
  {markers first second : List Marker} {lexeme : Lexeme}

/-- A walk goes on where another one has arrived. -/
theorem Passes.append (walk : Passes position text first middle between)
    (further : Passes middle between second place arrived) :
    Passes position text (first ++ second) place arrived := by
  induction walk with
  | here => exact further
  | pass unread _ ih => exact .pass unread (ih further)
  | take found _ ih =>
      rw [List.append_assoc]
      exact .take found (ih further)

/-- Where a walk arrives at a token it also arrives behind it. -/
theorem Passes.behind (walk : Passes position text markers place arrived)
    (found : read? arrived = some lexeme) :
    Passes position text (markers ++ (report place lexeme ++ [])) (place + lexeme.length)
      (arrived.drop lexeme.length) :=
  walk.append (.take found (.here _ _))

/-- A walk cannot tell that the tail is missing. -/
theorem replaces_nil (old : List Char) : Replaces old [] where
  head := by simp
  closing := by simp
  noColor := by
    intro before _ short
    rw [List.append_nil, Bool.eq_false_iff]
    intro starts
    exact Nat.not_le.mpr short (startsColor_length starts)

/-- A text can be cut wherever the walk arrives. -/
theorem Passes.tokenize_cut (walk : Passes 0 text markers place arrived) :
    tokenize text =
      tokenize (text.take place) ++ (tokenize (text.drop place)).map (Marker.shift place) := by
  have front : tokenize (text.take place) = markers := by
    have cut := walk.tokenize_replace (replaces_nil arrived)
    rwa [List.append_nil, walkFrom_nil, List.append_nil] at cut
  have back : text.drop place = arrived := by
    obtain ⟨before, rfl, rfl⟩ := walk.exists_before
    rw [Nat.zero_add, List.drop_left]
  rw [front, back, ← walkFrom_eq_map_shift]
  exact walk.walkFrom_eq

/-- The walk arrives behind every marker. -/
theorem exists_passes_markerStop (member : marker ∈ tokenize text) :
    ∃ markers arrived, Passes 0 text markers marker.markerStop arrived := by
  obtain ⟨earlier, place, arrived, lexeme, walk, found, -, rfl⟩ := exists_passes_of_mem member
  exact ⟨_, _, walk.behind found⟩

end Tokenizer

/-- A limit under which some text has a marker can be used for every text. -/
theorem scanValueOrNone_eq_of_mem {text : String} {limit : Value} {marker : Marker}
    (member : marker ∈ scanValueOrNone (.text text) limit) (other : String) :
    scanValueOrNone (.text other) limit = Tokenizer.tokenize other.toList := by
  cases usable : tagLimit limit with
  | error cause =>
      simp only [scanValueOrNone, scanValue, Value.asText, usable, Except.map] at member
      split at member
      · rename_i markers found
        split at found
        · rw [← Except.ok.inj found] at member
          exact absurd member List.not_mem_nil
        · cases found
      · exact absurd member List.not_mem_nil
  | ok limit =>
      simp only [scanValueOrNone, scanValue, Value.asText, usable, Except.map, scan_eq_tokenize]
      cases other.toList with
      | nil => rw [Tokenizer.tokenize, Tokenizer.walkFrom_nil]
      | cons c rest => rfl

/-- Under every limit, the markers of a text are those of the text up to the end of one of
them, and then those of the text from there on, in their places. -/
theorem scan_cut_behind (text : String) (limit : Value) {marker : Marker}
    (member : marker ∈ scanValueOrNone (.text text) limit) :
    let place := marker.markerStop
    scanValueOrNone (.text text) limit =
      scanValueOrNone (.text (.ofList (text.toList.take place))) limit ++
        (scanValueOrNone (.text (.ofList (text.toList.drop place))) limit).map
          (Marker.shift place) := by
  obtain ⟨markers, arrived, walk⟩ :=
    Tokenizer.exists_passes_markerStop (mem_tokenize_of_mem_scanValueOrNone member)
  simp only [scanValueOrNone_eq_of_mem member, String.toList_ofList]
  exact walk.tokenize_cut

/-- A bracket that no bracket closes stands before the cut, and another one is part of the
address right before it. -/
theorem scan_cut_behind_address :
    ∃ address ∈ scanValueOrNone (.text "[ #high +bob@x[y color:red") (.int 2),
      address.kind = .assignee ∧ address.markerStop = 16 ∧
      scanValueOrNone (.text "[ #high +bob@x[y color:red") (.int 2) =
        scanValueOrNone (.text (.ofList ("[ #high +bob@x[y color:red".toList.take 16))) (.int 2) ++
          (scanValueOrNone (.text (.ofList ("[ #high +bob@x[y color:red".toList.drop 16)))
            (.int 2)).map (Marker.shift 16) := by
  have member : (⟨.assignee, "bob".toList, 9, 12, 8, 16⟩ : Marker) ∈
      scanValueOrNone (.text "[ #high +bob@x[y color:red") (.int 2) := by
    decide +kernel
  exact ⟨_, member, rfl, rfl, scan_cut_behind _ _ member⟩

end InlineMarkers
