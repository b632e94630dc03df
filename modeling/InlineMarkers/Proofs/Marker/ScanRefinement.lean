import InlineMarkers.Marker.ScanValue
import InlineMarkers.Proofs.Marker.ScanSteps

/-!
# The scanner finds the tokens of a text

A scan reports the markers that the tokenizer reports, so its result does not
depend on the limit.
-/

namespace InlineMarkers

open Text Tokenizer

namespace Scan

variable {limit turns : Nat} {text : List Char} {state : Scan}

/-- A scan with enough turns left reports the markers of the rest of the text. -/
theorem run_eq_walkFrom (follows : state.Follows text) (enough : state.rest.length ≤ turns) :
    run limit turns state = walkFrom state.position state.rest := by
  induction turns generalizing state with
  | zero =>
      have nothingLeft : state.rest = [] := List.length_eq_zero_iff.mp (Nat.le_zero.mp enough)
      rw [run, nothingLeft, walkFrom_nil]
  | succ turns ih =>
      rw [run]
      split
      · rename_i nothingLeft
        rw [nothingLeft, walkFrom_nil]
      · rename_i c rest isRest
        cases stepped : state.step limit with
        | none => rw [walkFrom_eq_nil (silent_of_step follows stepped)]
        | some outcome =>
            obtain ⟨marker, next⟩ := outcome
            obtain ⟨gap, lexeme, silent, found, reported, nextPlace, nextFollows⟩ :=
              step_advances follows stepped
            have nextRest : next.rest = (state.rest.drop gap).drop lexeme.length := by
              rw [nextFollows.rest_eq, nextPlace, follows.rest_eq, List.drop_drop, List.drop_drop,
                Nat.add_assoc]
            have shorter : next.rest.length ≤ turns := by
              have nonempty := length_pos_of_read? found
              have size := (read?_bounds found).2
              rw [nextRest, List.length_drop]
              rw [List.length_drop] at size ⊢
              omega
            change marker.toList ++ run limit turns next = walkFrom state.position state.rest
            rw [walkFrom_of_silent silent, walkFrom_of_some found, ← reported,
              ih nextFollows shorter, nextPlace, nextRest]

end Scan

/-- A scan finds the tokens of a text. -/
theorem scan_eq_tokenize (limit : Nat) (text : List Char) : scan limit text = tokenize text :=
  Scan.run_eq_walkFrom (Scan.follows_start text) (Nat.le_refl _)

/-- Under every limit that can be used, a text has the markers that the tokenizer finds in
it; a negative limit is one of those. -/
theorem scanValue_eq_tokenize (text : String) (limit : Int) (usable : limit < 4294967295) :
    scanValue (.text text) (.int limit) = .ok (tokenize text.toList) ∧
      scanValueOrNone (.text text) (.int limit) = tokenize text.toList := by
  have notTooLarge : ¬largestTagLimit < limit.toNat := by
    simp only [largestTagLimit]
    omega
  have scanned : scanValue (.text text) (.int limit) = .ok (tokenize text.toList) := by
    simp only [scanValue, Value.asText]
    split
    · rename_i isEmpty
      rw [isEmpty, tokenize, walkFrom_nil]
    · simp only [tagLimit, Value.toInteger_int, if_neg notTooLarge, scan_eq_tokenize]
      rfl
  exact ⟨scanned, by rw [scanValueOrNone, scanned]⟩

theorem scanValue_eq_tokenize_negative_limit :
    (-1 : Int) < 4294967295 ∧
      scanValue (.text "[long tag] +alice@x.org") (.int (-1)) =
          .ok (tokenize "[long tag] +alice@x.org".toList) ∧
        scanValueOrNone (.text "[long tag] +alice@x.org") (.int (-1)) =
          tokenize "[long tag] +alice@x.org".toList :=
  ⟨by decide, scanValue_eq_tokenize _ (-1) (by decide)⟩

end InlineMarkers
