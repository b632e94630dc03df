import InlineMarkers.Proofs.Marker.Walk

/-!
# Exchanging the tail of a text

A walk that arrives at a place has not looked far beyond it: at the next
character, at whether a closing bracket follows somewhere, and at whether a
colour that begins before the place goes on behind it.  A tail that looks the
same in these three respects can take the place of the one that is there.
-/

namespace InlineMarkers.Tokenizer

open Text Lexeme

variable {before old new : List Char} {position place : Nat} {lexeme : Lexeme}

/-- A tail that a walk cannot tell from another one before it arrives there. -/
structure Replaces (old new : List Char) : Prop where
  head : ∀ c ∈ new.head?, old.head? = some c
  closing : ']' ∈ new → ']' ∈ old
  noColor : ∀ before : List Char, before ≠ [] → before.length < 6 →
    startsColor (before ++ new) = false

/-- Whether a token starts a text.  This depends on one more character, on a closing bracket,
or on the opening of a colour. -/
def opens : List Char → Bool
  | [] => false
  | c :: rest =>
      if c = '[' then rest.contains ']'
      else if c = '#' then rest.head?.any Char.isAlpha
      else if c = '@' then rest.head?.any fun first => first.isAlpha || first.isDigit
      else if c = '+' then rest.head?.any isAssigneeCharacter
      else startsColor (c :: rest)

theorem isEmpty_takeWhile (p : Char → Bool) (text : List Char) :
    (text.takeWhile p).isEmpty = !text.head?.any p := by
  cases text with
  | nil => rfl
  | cons c text => cases inClass : p c <;> simp [inClass]

theorem isSome_read? (text : List Char) : (read? text).isSome = opens text := by
  cases text with
  | nil => rfl
  | cons c rest =>
      simp only [read?, opens]
      split
      · cases closes : rest.contains ']' <;> simp_all [tag?]
      split
      · have word := isEmpty_takeWhile Char.isAlpha rest
        cases letter : rest.head?.any Char.isAlpha <;> simp_all [priority?]
      split
      · cases rest with
        | nil => rfl
        | cons first rest =>
            cases letter : first.isAlpha <;> cases digit : first.isDigit <;>
              simp [date?, letter, digit]
      split
      · have name := isEmpty_takeWhile isAssigneeCharacter rest
        cases follows : rest.head?.any isAssigneeCharacter <;> simp_all [assignee?]
      · cases starts : startsColor (c :: rest) <;> simp [color?, starts]

/-- Behind the same characters, the new tail begins with what the old one begins with. -/
theorem Replaces.head_append (replaces : Replaces old new) (before : List Char) :
    ∀ c ∈ (before ++ new).head?, (before ++ old).head? = some c := by
  cases before with
  | nil => exact replaces.head
  | cons c before => simp

theorem Replaces.any_head (replaces : Replaces old new) (p : Char → Bool)
    (inClass : (before ++ new).head?.any p = true) : (before ++ old).head?.any p = true := by
  cases isHead : (before ++ new).head? with
  | none => simp [isHead] at inClass
  | some c =>
      rw [replaces.head_append before c isHead]
      rwa [isHead] at inClass

/-- A token that starts in front of the new tail starts in front of the old one as well. -/
theorem Replaces.opens_old (replaces : Replaces old new) (nonempty : before ≠ [])
    (opensNew : opens (before ++ new) = true) : opens (before ++ old) = true := by
  cases before with
  | nil => exact absurd rfl nonempty
  | cons c before =>
      simp only [List.cons_append, opens] at opensNew ⊢
      split at opensNew
      · rename_i isBracket
        have inNew : ']' ∈ before ∨ ']' ∈ new := by simpa using opensNew
        have inOld : ']' ∈ before ∨ ']' ∈ old := inNew.imp_right replaces.closing
        simpa [isBracket] using inOld
      split at opensNew
      · rename_i isNumberSign
        simpa [isNumberSign] using replaces.any_head _ opensNew
      split at opensNew
      · rename_i isAtSign
        simpa [isAtSign] using replaces.any_head _ opensNew
      split at opensNew
      · rename_i isPlusSign
        simpa [isPlusSign] using replaces.any_head _ opensNew
      · rename_i noBracket noNumberSign noAtSign noPlusSign
        simp only [noBracket, noNumberSign, noAtSign, noPlusSign, if_false]
        have long : 6 ≤ (c :: before).length := by
          by_contra short
          have starts := replaces.noColor (c :: before) nonempty (by omega)
          rw [List.cons_append, opensNew] at starts
          exact absurd starts (by simp)
        rw [← List.cons_append, startsColor_append long] at opensNew ⊢
        exact opensNew

/-- A token that stops in front of the old tail is the same in front of the new one. -/
theorem Replaces.read?_some (replaces : Replaces old new)
    (found : read? (before ++ old) = some lexeme) (ends : lexeme.length ≤ before.length) :
    read? (before ++ new) = some lexeme := by
  obtain ⟨body, rest, more, token, parts, stops⟩ := read?_eq_some_iff.mp found
  have inside : body.length ≤ before.length := token.length_eq.trans_le ends
  obtain ⟨mid, rfl⟩ : ∃ mid, before = body ++ mid := by
    rcases List.append_eq_append_iff.mp parts with ⟨mid, bodyEq, -⟩ | ⟨mid, beforeEq, -⟩
    · have midEmpty : mid = [] := by
        rw [bodyEq, List.length_append] at inside
        exact List.eq_nil_of_length_eq_zero (by omega)
      exact ⟨[], by simp [bodyEq, midEmpty]⟩
    · exact ⟨mid, beforeEq⟩
  rw [List.append_assoc] at parts ⊢
  obtain rfl := List.append_cancel_left parts
  refine read?_of_token token fun c isHead => ?_
  exact stops c (replaces.head_append mid c isHead)

/-- Where nothing is read in front of the old tail, nothing is read in front of the new one. -/
theorem Replaces.read?_none (replaces : Replaces old new) (nonempty : before ≠ [])
    (unread : read? (before ++ old) = none) : read? (before ++ new) = none := by
  have closed : opens (before ++ old) = false := by
    rw [← isSome_read?, unread, Option.isSome_none]
  rw [← Option.not_isSome_iff_eq_none, isSome_read?]
  intro opensNew
  have opensOld := replaces.opens_old nonempty opensNew
  rw [closed] at opensOld
  exact Bool.false_ne_true opensOld

/-- A walk that arrives at the old tail arrives at the new one in the same way. -/
theorem Passes.replace {text arrived : List Char} {markers : List Marker}
    (walk : Passes position text markers place arrived) (replaces : Replaces arrived new) :
    ∀ before, text = before ++ arrived → Passes position (before ++ new) markers place new := by
  induction walk with
  | here position text =>
      intro before parts
      obtain rfl : before = [] := by simpa using parts
      exact .here position new
  | @pass position place c rest arrived markers unread walk ih =>
      intro before parts
      obtain ⟨mid, rfl, -⟩ := walk.exists_before
      obtain rfl : c :: mid = before := List.append_cancel_right parts
      have unreadNew := replaces.read?_none (List.cons_ne_nil c mid) unread
      exact .pass unreadNew (ih replaces mid rfl)
  | @take position place text arrived markers lexeme found walk ih =>
      intro before parts
      obtain ⟨mid, behind, -⟩ := walk.exists_before
      have inside := (read?_bounds found).2
      have whole : text.take lexeme.length ++ mid ++ arrived = before ++ arrived := by
        rw [List.append_assoc, ← behind, List.take_append_drop, parts]
      have beforeEq : text.take lexeme.length ++ mid = before := List.append_cancel_right whole
      have ends : lexeme.length ≤ before.length := by
        rw [← beforeEq, List.length_append, List.length_take, Nat.min_eq_left inside]
        exact Nat.le_add_right _ _
      have foundNew := replaces.read?_some (parts ▸ found) ends
      have behindNew : (before ++ new).drop lexeme.length = mid ++ new := by
        rw [← beforeEq, List.append_assoc, List.drop_left' (by
          rw [List.length_take, Nat.min_eq_left inside])]
      exact .take foundNew (behindNew ▸ ih replaces mid behind)

/-- A text whose tail is exchanged has the markers before the tail, and then those of the
new tail. -/
theorem Passes.tokenize_replace {text arrived : List Char} {markers : List Marker}
    (walk : Passes 0 text markers place arrived) (replaces : Replaces arrived new) :
    tokenize (text.take place ++ new) = markers ++ walkFrom place new := by
  obtain ⟨before, rfl, rfl⟩ := walk.exists_before
  rw [Nat.zero_add, List.take_left]
  have arrives := walk.replace replaces before rfl
  rw [Nat.zero_add] at arrives
  exact arrives.walkFrom_eq

/-! ## Exchanging the tail from a token on -/

theorem Token.body_ne_nil {body : List Char} {more : Char → Bool}
    (token : Token lexeme body more) : body ≠ [] := by
  have leadPos := token.lead_pos
  have size := token.length_eq
  rintro rfl
  simp only [List.length_nil, Lexeme.length] at size
  omega

/-- The first character of a token stands in no opening of a colour but in front. -/
theorem Token.startsColor_before {body before rest : List Char} {more : Char → Bool}
    (token : Token lexeme body more) (nonempty : before ≠ []) (short : before.length < 6)
    (sameHead : rest.head? = body.head?) : startsColor (before ++ rest) = false := by
  obtain ⟨first, rest, rfl⟩ : ∃ first tail, rest = first :: tail := by
    cases rest with
    | nil =>
        obtain ⟨c, body, rfl⟩ := List.exists_cons_of_ne_nil token.body_ne_nil
        simp at sameHead
    | cons first tail => exact ⟨first, tail, rfl⟩
  have isOpening : first.toLower = '[' ∨ first.toLower = '#' ∨ first.toLower = '@' ∨
      first.toLower = '+' ∨ first.toLower = 'c' := by
    cases token with
    | @color opening value size starts inside =>
        obtain ⟨c, opening, rfl⟩ : ∃ c tail, opening = c :: tail :=
          List.exists_cons_of_length_pos (by omega)
        obtain rfl : first = c := by simpa using sameHead
        simp [toLower_of_startsColor starts]
    | _ =>
        simp only [List.head?_cons, Option.some.injEq] at sameHead
        subst sameHead
        decide
  rw [Bool.eq_false_iff]
  intro starts
  have letter : (MarkerKind.color.opening)[before.length]? = some first.toLower := by
    simp only [startsColor, beq_iff_eq] at starts
    rw [← starts, List.getElem?_map, List.getElem?_take_of_lt short,
      List.getElem?_append_right (Nat.le_refl _), Nat.sub_self]
    rfl
  -- Behind its first character, the opening of a colour has none that opens a token.
  obtain ⟨index, behind⟩ := Nat.exists_eq_add_one.mpr (List.length_pos_iff.mpr nonempty)
  rw [behind, MarkerKind.opening, List.getElem?_cons_succ] at letter
  have member := List.mem_of_getElem? letter
  generalize first.toLower = c at isOpening member
  revert isOpening
  simp only [List.mem_cons, List.not_mem_nil, or_false] at member
  rcases member with rfl | rfl | rfl | rfl | rfl <;> decide

/-- A tail that begins like the token where the old one begins takes its place. -/
theorem replaces_of_read? {arrived : List Char} (found : read? arrived = some lexeme)
    (sameHead : new.head? = arrived.head?) (closing : ']' ∈ new → ']' ∈ arrived) :
    Replaces arrived new := by
  obtain ⟨body, rest, more, token, rfl, -⟩ := read?_eq_some_iff.mp found
  have bodyHead : new.head? = body.head? := by
    obtain ⟨c, body, rfl⟩ := List.exists_cons_of_ne_nil token.body_ne_nil
    exact sameHead
  exact ⟨fun c isHead => by rw [← sameHead, isHead], closing,
    fun _ nonempty short => token.startsColor_before nonempty short bodyHead⟩

/-- Where the walk reads one token and another one takes its place, the text has the markers
before it, the other token's, and those of what follows. -/
theorem Passes.tokenize_token {text arrived : List Char} {earlier : List Marker}
    {other : Lexeme} (walk : Passes 0 text earlier place arrived)
    (found : read? arrived = some lexeme) (foundNew : read? new = some other)
    (sameHead : new.head? = arrived.head?) (closing : ']' ∈ new → ']' ∈ arrived) :
    tokenize (text.take place ++ new) =
      earlier ++
        (report place other ++ walkFrom (place + other.length) (new.drop other.length)) := by
  rw [walk.tokenize_replace (replaces_of_read? found sameHead closing), walkFrom_of_some foundNew]

/-- A token that takes the place of a marker and of what follows it is a marker there. -/
theorem mem_tokenize_splice {text : List Char} {marker : Marker} {other : Lexeme}
    (member : marker ∈ tokenize text)
    (sameHead : new.head? = (text.drop marker.markerStart).head?)
    (closing : ']' ∈ new → ']' ∈ text.drop marker.markerStart) (found : read? new = some other)
    (reported : other.isReported = true) :
    other.toMarker marker.markerStart ∈ tokenize (text.take marker.markerStart ++ new) := by
  obtain ⟨earlier, place, arrived, lexeme, walk, foundOld, -, rfl⟩ := exists_passes_of_mem member
  obtain ⟨before, rfl, rfl⟩ := walk.exists_before
  simp only [Lexeme.toMarker, Nat.zero_add, List.drop_left] at walk sameHead closing ⊢
  rw [walk.tokenize_token foundOld found sameHead closing, report, if_pos reported]
  exact List.mem_append_right earlier List.mem_cons_self

end InlineMarkers.Tokenizer
