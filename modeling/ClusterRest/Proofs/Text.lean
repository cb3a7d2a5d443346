import ClusterRest.Text.Ascii
import ClusterRest.Text.Blank
import ClusterRest.Text.Pieces

/-! Texts as lists of characters: case, and the parts between marks. -/

namespace ClusterRest.Text

theorem asciiLower_eq (text : String) :
    asciiLower text = .ofList (text.toList.map lowerAscii) := by
  rw [← String.toList_inj, asciiLower, String.toList_map, String.toList_ofList]

theorem isDigit_eq (character : Char) : isDigit character = character.isDigit := by
  simp [isDigit, Char.isDigit, Char.le_def, UInt32.le_iff_toNat_le]

/-- What holds of each code below 128 holds of every character of ASCII. -/
theorem forall_ascii {holds : Char → Prop} (each : ∀ code : Fin 128, holds (Char.ofNat code))
    {character : Char} (ascii : character.toNat < 0x80) : holds character := by
  have one := each ⟨character.toNat, ascii⟩
  rwa [Char.ofNat_toNat] at one

theorem ascii_of_alphanumeric {character : Char}
    (alphanumeric : isAsciiAlphanumeric character = true) : character.toNat < 0x80 := by
  simp only [isAsciiAlphanumeric, isAsciiLetter, isDigit, Bool.or_eq_true, Bool.and_eq_true,
    decide_eq_true_eq, Char.le_def, UInt32.le_iff_toNat_le] at alphanumeric
  have value : character.val.toNat = character.toNat := rfl
  rw [value] at alphanumeric
  rcases alphanumeric with (⟨_, high⟩ | ⟨_, high⟩) | ⟨_, high⟩
  · exact Nat.lt_of_le_of_lt high (by decide)
  · exact Nat.lt_of_le_of_lt high (by decide)
  · exact Nat.lt_of_le_of_lt high (by decide)

/-- A class of characters is taken up to the first character that is not of it. -/
theorem takeWhile_append_stops {holds : Char → Bool} {text tail : List Char}
    (all : ∀ character ∈ text, holds character = true)
    (stops : ∀ character ∈ tail.head?, holds character = false) :
    (text ++ tail).takeWhile holds = text ∧ (text ++ tail).dropWhile holds = tail := by
  rw [List.takeWhile_append_of_pos all, List.dropWhile_append_of_pos all]
  cases tail with
  | nil => exact ⟨List.append_nil text, rfl⟩
  | cons character rest =>
      simp only [List.takeWhile_cons, List.dropWhile_cons, stops character rfl, Bool.false_eq_true,
        if_false, List.append_nil, true_and]

theorem cutChars_append {mark : Char} {front : List Char} (unmarked : mark ∉ front)
    (text : List Char) :
    cutChars mark (front ++ text) =
      (cutChars mark text).map fun (before, after) => (front ++ before, after) := by
  induction front with
  | nil => cases found : cutChars mark text <;> simp [found]
  | cons character rest ih =>
      rw [List.mem_cons, not_or] at unmarked
      rw [List.cons_append, cutChars, if_neg (Ne.symm unmarked.1), ih unmarked.2, Option.map_map]
      rfl

theorem cutChars_eq_some {mark : Char} {text before after : List Char}
    (cut : cutChars mark text = some (before, after)) :
    text = before ++ mark :: after ∧ mark ∉ before := by
  induction text generalizing before with
  | nil => cases cut
  | cons first rest ih =>
      rw [cutChars] at cut
      split at cut
      next marked =>
        cases cut
        exact ⟨by rw [marked, List.nil_append], List.not_mem_nil⟩
      next unmarked =>
        obtain ⟨⟨front, back⟩, found, parts⟩ := Option.map_eq_some_iff.mp cut
        cases parts
        obtain ⟨rfl, free⟩ := ih found
        exact ⟨rfl, List.not_mem_cons_of_ne_of_not_mem (Ne.symm unmarked) free⟩

theorem cutChars_eq_none {mark : Char} {text : List Char} (unmarked : mark ∉ text) :
    cutChars mark text = none := by
  have cut := cutChars_append unmarked []
  rwa [List.append_nil] at cut

theorem cutChars_marked {mark : Char} {before : List Char} (unmarked : mark ∉ before)
    (after : List Char) : cutChars mark (before ++ mark :: after) = some (before, after) := by
  rw [cutChars_append unmarked, cutChars, if_pos rfl, Option.map_some]
  exact congrArg (fun front => some (front, after)) (List.append_nil before)

/-- What holds of a mark holds of a text if it holds of the pieces between the marks. -/
theorem all_piecesOf {mark : Char} {holds : Char → Bool} (held : holds mark = true)
    (text : List Char) : (piecesOf mark text).all (·.all holds) = text.all holds := by
  induction text with
  | nil => rfl
  | cons character rest ih =>
      rw [piecesOf, List.all_cons, ← ih]
      split
      next marked => rw [marked, held, Bool.true_and, List.all_cons, List.all_nil, Bool.true_and]
      next unmarked => cases piecesOf mark rest <;> simp [Bool.and_assoc]

theorem isAllBlank_eq_false {text : String} :
    isAllBlank text = false ↔ ∃ character ∈ text.toList, isBlank character = false := by
  rw [isAllBlank, List.all_eq_false]
  simp only [Bool.not_eq_true]

theorem mem_of_mem_trimChars {character : Char} {text : List Char}
    (member : character ∈ trimChars text) : character ∈ text := by
  rw [trimChars, trimEndChars, List.mem_reverse] at member
  have started := List.mem_reverse.mp ((List.dropWhile_sublist isBlank).subset member)
  exact (List.dropWhile_sublist isBlank).subset started

theorem head?_trimChars (text : List Char) :
    ∀ character ∈ (trimChars text).head?, isBlank character = false := by
  intro character head
  have ends : (trimStartChars text).reverse.dropWhile isBlank <:+ (trimStartChars text).reverse :=
    List.dropWhile_suffix isBlank
  have front : trimChars text <+: trimStartChars text := by
    simpa only [trimChars, trimEndChars, List.reverse_reverse] using List.reverse_prefix.mpr ends
  obtain ⟨back, whole⟩ := front
  have started : (trimStartChars text).head? = some character := by
    rw [← whole, List.head?_append, Option.mem_def.mp head]
    rfl
  have stops := List.head?_dropWhile_not isBlank text
  rwa [← trimStartChars, started] at stops

theorem getLast?_trimChars (text : List Char) :
    ∀ character ∈ (trimChars text).getLast?, isBlank character = false := by
  intro character last
  have stops := List.head?_dropWhile_not isBlank (trimStartChars text).reverse
  rw [trimChars, trimEndChars, Option.mem_def, List.getLast?_reverse] at last
  rwa [last] at stops

/-- A text that neither starts nor ends in a blank has none to trim. -/
theorem trimChars_eq_self {text : List Char}
    (first : ∀ character ∈ text.head?, isBlank character = false)
    (last : ∀ character ∈ text.getLast?, isBlank character = false) : trimChars text = text := by
  have unstarted (text : List Char) (first : ∀ character ∈ text.head?, isBlank character = false) :
      text.dropWhile isBlank = text := by
    cases text with
    | nil => rfl
    | cons character rest => exact List.dropWhile_cons_of_neg (by simp [first character rfl])
  rw [trimChars, trimStartChars, unstarted text first, trimEndChars, unstarted,
    List.reverse_reverse]
  rwa [List.head?_reverse]

theorem trimChars_trimChars (text : List Char) : trimChars (trimChars text) = trimChars text :=
  trimChars_eq_self (head?_trimChars text) (getLast?_trimChars text)

/-- The first piece goes up to the first mark. -/
theorem head?_piecesOf (mark : Char) (characters : List Char) :
    (piecesOf mark characters).head? = some (characters.takeWhile (· != mark)) := by
  induction characters with
  | nil => rfl
  | cons character rest ih =>
      rw [piecesOf]
      by_cases marked : character = mark
      · rw [if_pos marked, List.takeWhile_cons_of_neg (by simp [marked])]
        rfl
      · rw [if_neg marked, List.takeWhile_cons_of_pos (by simp [marked])]
        cases cut : piecesOf mark rest with
        | nil => rw [cut] at ih; cases ih
        | cons piece pieces =>
            rw [cut, List.head?_cons, Option.some.injEq] at ih
            exact congrArg (fun piece => some (character :: piece)) ih

theorem piecesOf_unmarked {mark : Char} {text : List Char} (unmarked : mark ∉ text) :
    piecesOf mark text = [text] := by
  induction text with
  | nil => rfl
  | cons character rest ih =>
      rw [List.mem_cons, not_or] at unmarked
      rw [piecesOf, if_neg (Ne.symm unmarked.1), ih unmarked.2]

theorem piecesOf_append {mark : Char} {front : List Char} (unmarked : mark ∉ front)
    (rest : List Char) : piecesOf mark (front ++ mark :: rest) = front :: piecesOf mark rest := by
  induction front with
  | nil => exact if_pos rfl
  | cons character front ih =>
      rw [List.mem_cons, not_or] at unmarked
      rw [List.cons_append, piecesOf, if_neg (Ne.symm unmarked.1), ih unmarked.2]

/-- The pieces of two texts with a mark between them are those of one and then of the other. -/
theorem piecesOf_append_mark (mark : Char) (front rest : List Char) :
    piecesOf mark (front ++ mark :: rest) = piecesOf mark front ++ piecesOf mark rest := by
  induction front with
  | nil => exact if_pos rfl
  | cons character front ih =>
      rw [List.cons_append, piecesOf, piecesOf, ih]
      split
      · rfl
      · cases pieces : piecesOf mark front with
        | nil =>
            have first := head?_piecesOf mark front
            rw [pieces] at first
            cases first
        | cons piece others => rfl

theorem piecesOf_intercalate (mark : Char) {texts : List (List Char)} (filled : texts ≠ []) :
    piecesOf mark ([mark].intercalate texts) = texts.flatMap (piecesOf mark) := by
  induction texts with
  | nil => exact absurd rfl filled
  | cons text texts ih =>
      cases texts with
      | nil => simp [List.intercalate]
      | cons other texts =>
          rw [List.intercalate_cons_cons, List.append_assoc, List.singleton_append,
            piecesOf_append_mark, ih (List.cons_ne_nil _ _), ← List.flatMap_cons]

/-- No mark is part of a piece. -/
theorem not_mem_of_mem_piecesOf {mark : Char} {text piece : List Char}
    (member : piece ∈ piecesOf mark text) : mark ∉ piece := by
  induction text generalizing piece with
  | nil => simp [List.mem_singleton.mp member]
  | cons character rest ih =>
      rw [piecesOf] at member
      split at member
      next marked =>
        rcases List.mem_cons.mp member with rfl | later
        · exact List.not_mem_nil
        · exact ih later
      next unmarked =>
        cases pieces : piecesOf mark rest with
        | nil =>
            rw [pieces] at member
            rw [List.mem_singleton.mp member, List.mem_singleton]
            exact Ne.symm unmarked
        | cons first others =>
            rw [pieces] at member ih
            rcases List.mem_cons.mp member with rfl | later
            · exact List.not_mem_cons_of_ne_of_not_mem (Ne.symm unmarked) (ih List.mem_cons_self)
            · exact ih (List.mem_cons_of_mem _ later)

end ClusterRest.Text
