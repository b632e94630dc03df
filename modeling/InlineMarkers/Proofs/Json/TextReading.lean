import InlineMarkers.Json.Reader
import InlineMarkers.Json.Writer
import InlineMarkers.Proofs.Text.Ascii
import InlineMarkers.Proofs.Text.UnitPairs

/-!
# Written texts are read back

Every character is written so that reading gives its units: as itself, as a
short escape, or as one or two escapes of four hexadecimal digits.
-/

namespace InlineMarkers.Json

open Text

variable {c : Char} {unit : Nat} {rest : List Char}

/-! ## Escapes of units -/

/-- The hexadecimal digits of a number with zeros in front of them. -/
def paddedHex (width n : Nat) : List Char :=
  List.replicate (width - (Nat.toDigits 16 n).length) '0' ++ Nat.toDigits 16 n

theorem paddedHex_succ (width n : Nat) :
    paddedHex (width + 2) n = paddedHex (width + 1) (n / 16) ++ [Nat.digitChar (n % 16)] := by
  rcases Nat.lt_or_ge n 16 with small | large
  · rw [paddedHex, paddedHex, Nat.div_eq_of_lt small, Nat.mod_eq_of_lt small,
      Nat.toDigits_of_lt_base small]
    exact congrArg (· ++ _) List.replicate_succ'
  · rw [paddedHex, paddedHex, Nat.toDigits_of_base_le (by decide) large, List.length_append,
      List.length_singleton, ← List.append_assoc]
    congr 3
    omega

theorem unitEscape_eq (small : unit < 0x10000) :
    unitEscape unit = ['\\', 'u', Nat.digitChar (unit / 16 / 16 / 16),
      Nat.digitChar (unit / 16 / 16 % 16), Nat.digitChar (unit / 16 % 16),
      Nat.digitChar (unit % 16)] := by
  have first : paddedHex 1 (unit / 16 / 16 / 16) = [Nat.digitChar (unit / 16 / 16 / 16)] := by
    rw [paddedHex, Nat.toDigits_of_lt_base (by omega)]
    rfl
  change '\\' :: 'u' :: paddedHex 4 unit = _
  rw [paddedHex_succ, paddedHex_succ, paddedHex_succ, first]
  rfl

theorem hexValue?_digitChar {digit : Nat} (small : digit < 16) :
    hexValue? (Nat.digitChar digit) = some digit := by
  revert digit
  decide

theorem codeUnits?_unitEscape (small : unit < 0x10000) (rest : List Char) :
    codeUnits? (unitEscape unit ++ rest) =
      (codeUnits? rest).map fun (units, after) => (unit :: units, after) := by
  have value : ((unit / 16 / 16 / 16 * 16 + unit / 16 / 16 % 16) * 16 + unit / 16 % 16) * 16 +
      unit % 16 = unit := by
    omega
  rw [unitEscape_eq small]
  simp only [List.cons_append, List.nil_append, codeUnits?, codeUnit?]
  rw [hexValue?_digitChar (by omega), hexValue?_digitChar (by omega),
    hexValue?_digitChar (by omega), hexValue?_digitChar (by omega)]
  simp only [Option.bind_eq_bind, Option.bind_some, Option.pure_def, value]
  cases codeUnits? rest <;> rfl

theorem codeUnits?_unitEscapes {units : List Nat} (small : ∀ unit ∈ units, unit < 0x10000)
    (rest : List Char) :
    codeUnits? (units.flatMap unitEscape ++ rest) =
      (codeUnits? rest).map fun (others, after) => (units ++ others, after) := by
  induction units with
  | nil =>
      rw [List.flatMap_nil, List.nil_append]
      cases codeUnits? rest <;> rfl
  | cons unit units ih =>
      rw [List.flatMap_cons, List.append_assoc,
        codeUnits?_unitEscape (small unit List.mem_cons_self),
        ih fun other member => small other (List.mem_cons_of_mem unit member)]
      cases codeUnits? rest <;> rfl

/-! ## Characters -/

theorem codeUnits?_shortEscape {escaped : Char} (isShort : shortEscape? c = some escaped)
    (rest : List Char) :
    codeUnits? ('\\' :: c :: rest) =
      (codeUnits? rest).map fun (units, after) => (escaped.toNat :: units, after) := by
  have notUnit : c ≠ 'u' := by
    rintro rfl
    cases isShort
  rw [codeUnits?.eq_4 c rest (fun _ _ _ _ _ unit => absurd unit notUnit), isShort]
  cases codeUnits? rest <;> rfl

theorem codeUnits?_plain (plain : isPlain c = true) (rest : List Char) :
    codeUnits? (c :: rest) =
      (codeUnits? rest).map fun (units, after) => (c.toNat :: units, after) := by
  simp only [isPlain, Bool.and_eq_true, bne_iff_ne, decide_eq_true_eq] at plain
  obtain ⟨⟨⟨atLeast, -⟩, notQuote⟩, notBackslash⟩ := plain
  have notControl : ¬c.toNat < 0x20 := Nat.not_lt.mpr atLeast
  rw [codeUnits?.eq_5 c rest (fun quote => absurd quote notQuote)
    (fun _ _ _ _ _ backslash => absurd backslash notBackslash)
    (fun _ _ backslash => absurd backslash notBackslash)]
  simp only [notControl, notBackslash, decide_false, Bool.false_or, beq_iff_eq, if_false]
  cases codeUnits? rest <;> rfl

theorem characterUnits_of_isPlain (plain : isPlain c = true) : characterUnits c = [c.toNat] := by
  simp only [isPlain, Bool.and_eq_true, decide_eq_true_eq] at plain
  have small : c.toNat < 0x10000 := Nat.lt_of_le_of_lt plain.1.1.2 (by decide)
  rw [characterUnits, if_pos small]

/-- A written character gives its units. -/
theorem codeUnits?_writeCharacter (c : Char) (rest : List Char) :
    codeUnits? (writeCharacter c ++ rest) =
      (codeUnits? rest).map fun (units, after) => (characterUnits c ++ units, after) := by
  unfold writeCharacter
  split
  case isTrue plain =>
      rw [characterUnits_of_isPlain plain]
      exact codeUnits?_plain plain rest
  case isFalse =>
      unfold escape
      split
      case h_8 =>
          exact codeUnits?_unitEscapes (fun _ => unit_lt_of_mem_characterUnits) rest
      all_goals exact codeUnits?_shortEscape rfl rest

/-! ## Texts -/

theorem codeUnits?_written (text rest : List Char) :
    codeUnits? (text.flatMap writeCharacter ++ '"' :: rest) = some (toUnits text, rest) := by
  induction text with
  | nil => rfl
  | cons c text ih =>
      rw [List.flatMap_cons, List.append_assoc, codeUnits?_writeCharacter, ih]
      rfl

/-- A text is read back from what is written after its opening quote. -/
theorem readText?_written (text : String) (rest : List Char) :
    readText? (text.toList.flatMap writeCharacter ++ '"' :: rest) = some (text, rest) := by
  rw [readText?, codeUnits?_written, Option.map_some]
  dsimp only
  rw [ofUnits_toUnits, String.ofList_toList]

end InlineMarkers.Json
