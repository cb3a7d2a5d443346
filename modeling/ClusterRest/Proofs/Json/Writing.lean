import ClusterRest.Proofs.Json.Tree

/-!
The compact text of a value is grammatical: `Tree.ofValue` is the tree that it is the text of, and
strings stand in it for themselves.
-/

namespace ClusterRest.Json

open Decimal

/-! ### Strings -/

theorem isHexDigit_digitChar : ∀ digit : Fin 16,
    Text.isHexDigit (Nat.digitChar digit) = true := by decide

def HexDigit.ofFin (digit : Fin 16) : HexDigit :=
  ⟨Nat.digitChar digit, isHexDigit_digitChar digit⟩

/-- An escape by number for codes of one byte. -/
def HexCode.ofByte (code : Nat) : HexCode :=
  ⟨.ofFin 0, .ofFin 0, .ofFin (Fin.ofNat 16 (code / 16)), .ofFin (Fin.ofNat 16 code)⟩

/-- A control character by number; other characters stand for themselves. -/
def Piece.ofOther (character : Char) : Piece :=
  if unescaped : isUnescaped character = true then .plain character unescaped
  else .coded (.ofByte character.toNat)

/-- How a character is written in a string. -/
def Piece.ofChar (character : Char) : Piece :=
  match character with
  | '"' => .escaped .quote
  | '\\' => .escaped .backslash
  | '\x08' => .escaped .backspace
  | '\x0c' => .escaped .formFeed
  | '\n' => .escaped .lineFeed
  | '\r' => .escaped .carriageReturn
  | '\t' => .escaped .tab
  | _ => .ofOther character

def writtenPieces (text : String) : List Piece := text.toList.map Piece.ofChar

theorem chars_ofOther_control : ∀ code : Fin 32,
    (Piece.ofOther (Char.ofNat code)).chars = '\\' :: 'u' :: hexPair (Char.ofNat code).toNat := by
  decide

/-- A character is a control, one of the two that a string escapes, or stands for itself. -/
theorem control_or_unescaped (character : Char) :
    (∃ code : Fin 32, character = Char.ofNat code) ∨ character = '"' ∨ character = '\\' ∨
      isUnescaped character = true := by
  by_cases control : character.toNat < 32
  · exact .inl ⟨⟨character.toNat, control⟩, (Char.ofNat_toNat character).symm⟩
  · have least : ' ' ≤ character := by
      rw [Char.le_def, UInt32.le_iff_toNat_le]
      exact Nat.le_of_not_lt control
    by_cases quote : character = '"'
    · exact .inr (.inl quote)
    · by_cases backslash : character = '\\'
      · exact .inr (.inr (.inl backslash))
      · refine .inr (.inr (.inr ?_))
        simp only [isUnescaped, Bool.and_eq_true, decide_eq_true_eq, bne_iff_ne]
        exact ⟨⟨least, quote⟩, backslash⟩

theorem ofOther_unescaped {character : Char} (unescaped : isUnescaped character = true) :
    Piece.ofOther character = .plain character unescaped := dif_pos unescaped

theorem chars_ofChar (character : Char) :
    (Piece.ofChar character).chars = escapeChar character := by
  rw [Piece.ofChar.eq_def]
  split
  case h_8 _ quote backslash backspace formFeed lineFeed carriageReturn tab =>
    rw [escapeChar.eq_8 character quote backslash backspace formFeed lineFeed carriageReturn tab]
    rcases control_or_unescaped character with ⟨code, rfl⟩ | rfl | rfl | unescaped
    · have control : Char.ofNat code < ' ' := by revert code; decide
      rw [chars_ofOther_control, if_pos control]
    · exact absurd rfl quote
    · exact absurd rfl backslash
    · have least : ¬ character < ' ' := by
        simp only [isUnescaped, Bool.and_eq_true, decide_eq_true_eq] at unescaped
        exact Char.not_lt.mpr unescaped.1.1
      rw [ofOther_unescaped unescaped, if_neg least, Piece.chars]
  all_goals rfl

theorem contentChars_writtenPieces (text : String) :
    contentChars (writtenPieces text) = text.toList.flatMap escapeChar := by
  rw [contentChars, writtenPieces, List.flatMap_map]
  exact congrArg (text.toList.flatMap ·) (funext chars_ofChar)

theorem decode?_ofOther {character : Char}
    (other : isUnescaped character = true ∨ ∃ code : Fin 32, character = Char.ofNat code)
    (rest : List Piece) :
    decode? (Piece.ofOther character :: rest) = (decode? rest).map (character :: ·) := by
  rcases other with unescaped | ⟨code, rfl⟩
  · rw [ofOther_unescaped unescaped, decode?]
  · have coded : ∀ code : Fin 32, ∃ number : HexCode,
        Piece.ofOther (Char.ofNat code) = .coded number ∧ number.isTrailing = false ∧
          number.isLeading = false ∧ Char.ofNat number.value = Char.ofNat code := by
      intro code
      refine ⟨.ofByte code, ?_⟩
      revert code
      decide
    obtain ⟨number, written, trailing, leading, value⟩ := coded code
    rw [written, decode?.eq_def]
    simp only [trailing, leading, Bool.false_eq_true, if_false, value]

theorem decode?_ofChar (character : Char) (rest : List Piece) :
    decode? (Piece.ofChar character :: rest) = (decode? rest).map (character :: ·) := by
  rw [Piece.ofChar.eq_def]
  split
  case h_8 _ quote backslash _ _ _ _ _ =>
    rcases control_or_unescaped character with control | rfl | rfl | unescaped
    · exact decode?_ofOther (.inr control) rest
    · exact absurd rfl quote
    · exact absurd rfl backslash
    · exact decode?_ofOther (.inl unescaped) rest
  all_goals rfl

/-- A string that is written stands for itself. -/
theorem string?_writtenPieces (text : String) : string? (writtenPieces text) = some text := by
  have decoded (characters : List Char) :
      decode? (characters.map Piece.ofChar) = some characters := by
    induction characters with
    | nil => rfl
    | cons character rest ih => rw [List.map_cons, decode?_ofChar, ih, Option.map_some]
  rw [string?, writtenPieces, decoded, Option.map_some, String.ofList_toList]

/-! ### Decimal digits -/

def Digit.ofChar (character : Char) : Digit := Fin.ofNat 10 (character.toNat - '0'.toNat)

/-- The decimal digits of a number. -/
def digitsOf (number : Nat) : List Digit := (Nat.toDigits 10 number).map Digit.ofChar

theorem char_ofChar {character : Char} (digit : character.isDigit = true) :
    (Digit.ofChar character).char = character := by
  have range : 48 ≤ character.toNat ∧ character.toNat ≤ 57 := by
    simpa [Char.isDigit, UInt32.le_iff_toNat_le] using digit
  have zero : '0'.toNat = 48 := rfl
  apply Char.toNat_inj.mp
  rw [Digit.char, Digit.ofChar, zero, Fin.val_ofNat, Nat.mod_eq_of_lt (by omega),
    Nat.toNat_digitChar_of_lt_ten (by omega)]
  omega

theorem digitChars_map {characters : List Char}
    (digits : ∀ character ∈ characters, character.isDigit = true) :
    digitChars (characters.map Digit.ofChar) = characters := by
  rw [digitChars, List.map_map]
  exact (List.map_congr_left fun character member => char_ofChar (digits character member)).trans
    (List.map_id _)

theorem digitChars_digitsOf (number : Nat) :
    digitChars (digitsOf number) = Nat.toDigits 10 number :=
  digitChars_map fun _ member => Nat.isDigit_of_mem_toDigits (by decide) (by decide) member

theorem digitsOf_of_lt {number : Nat} (small : number < 10) :
    digitsOf number = [⟨number, small⟩] := by
  rw [digitsOf, Nat.toDigits_of_lt_base small, List.map_singleton]
  refine congrArg (List.cons · []) (Fin.ext ?_)
  revert number
  decide

theorem digitsOf_of_le {number : Nat} (large : 10 ≤ number) :
    digitsOf number = digitsOf (number / 10) ++ [⟨number % 10, Nat.mod_lt number (by decide)⟩] := by
  have last := digitsOf_of_lt (Nat.mod_lt number (by decide : 0 < 10))
  rw [← last, digitsOf, digitsOf, digitsOf, Nat.toDigits_of_base_le (by decide) large,
    List.map_append, Nat.toDigits_of_lt_base (Nat.mod_lt number (by decide))]

/-- No zero leads the digits of a positive number. -/
theorem digitsOf_pos {number : Nat} (positive : number ≠ 0) :
    ∃ first rest, digitsOf number = first :: rest ∧ first ≠ 0 := by
  induction number using Nat.strongRecOn with
  | ind number ih =>
      by_cases small : number < 10
      · exact ⟨_, [], digitsOf_of_lt small, fun zero => positive (Fin.val_eq_of_eq zero)⟩
      · obtain ⟨first, rest, shorter, nonzero⟩ := ih (number / 10) (by omega) (by omega)
        rw [digitsOf_of_le (Nat.le_of_not_lt small), shorter]
        exact ⟨first, _, rfl, nonzero⟩

theorem digitsOf_ne_nil (number : Nat) : digitsOf number ≠ [] := by
  intro empty
  exact Nat.toDigits_ne_nil (List.map_eq_nil_iff.mp empty)

theorem digitChars_append (first second : List Digit) :
    digitChars (first ++ second) = digitChars first ++ digitChars second := List.map_append

theorem digitChars_zeros (count : Nat) :
    digitChars (List.replicate count 0) = List.replicate count '0' := List.map_replicate

/-! ### Numerals -/

def Whole.ofDigits : List Digit → Whole
  | [] => .zero
  | first :: rest => if nonzero : first ≠ 0 then .positive first nonzero rest else .zero

/-- Digits that a numeral can have before its point. -/
def IsWhole (digits : List Digit) : Prop :=
  digits = [0] ∨ ∃ first rest, digits = first :: rest ∧ first ≠ 0

theorem digits_ofDigits {digits : List Digit} (whole : IsWhole digits) :
    (Whole.ofDigits digits).digits = digits := by
  rcases whole with rfl | ⟨first, rest, rfl, nonzero⟩
  · rfl
  · rw [Whole.ofDigits, dif_pos nonzero, Whole.digits]

theorem isWhole_digitsOf (number : Nat) : IsWhole (digitsOf number) := by
  by_cases zero : number = 0
  · exact .inl (zero ▸ rfl)
  · exact .inr (digitsOf_pos zero)

def Digits.ofList? : List Digit → Option Digits
  | [] => none
  | first :: rest => some ⟨first, rest⟩

theorem fractionChars_ofList? (digits : List Digit) :
    Numeral.fractionChars (Digits.ofList? digits) =
      if digits.isEmpty then [] else '.' :: digitChars digits := by
  cases digits <;> rfl

namespace Numeral

def ofNat (isNegative : Bool) (number : Nat) : Numeral :=
  ⟨isNegative, .ofDigits (digitsOf number), none, none⟩

/-- The digits of a decimal with a point in place. -/
def positional (isNegative : Bool) (decimal : Scaled) : Numeral :=
  let digits := digitsOf decimal.digits
  let point := decimal.point
  if point ≤ 0 then
    ⟨isNegative, .zero, Digits.ofList? (List.replicate (-point).toNat 0 ++ digits), none⟩
  else if point.toNat < digits.length then
    ⟨isNegative, .ofDigits (digits.take point.toNat), Digits.ofList? (digits.drop point.toNat),
      none⟩
  else
    ⟨isNegative, .ofDigits (digits ++ List.replicate (point.toNat - digits.length) 0),
      Digits.ofList? [0], none⟩

/-- One digit of a decimal, the others as a fraction, and an exponent. -/
def scientific (isNegative : Bool) (decimal : Scaled) : Numeral :=
  let digits := digitsOf decimal.digits
  let power := decimal.point - 1
  ⟨isNegative, .ofDigits (digits.take 1), Digits.ofList? (digits.drop 1),
    (Digits.ofList? (digitsOf power.natAbs)).map (⟨false, if power < 0 then .minus else .plus, ·⟩)⟩

def ofFloating (number : Binary64) : Numeral :=
  if number.isZero then ⟨number.isNegative, .zero, Digits.ofList? [0], none⟩
  else
    let decimal := (Scaled.shortest number).strip
    if -5 < decimal.point && decimal.point ≤ 16 then positional number.isNegative decimal
    else scientific number.isNegative decimal

def ofNumber : Number → Numeral
  | .natural value => ofNat false value
  | .negative magnitude => ofNat true magnitude
  | .floating value => ofFloating value

theorem chars_ofNat (isNegative : Bool) (number : Nat) :
    (ofNat isNegative number).chars =
      (if isNegative then ['-'] else []) ++ (toString number).toList := by
  rw [Nat.toString_eq_ofList_toDigits, String.toList_ofList, chars, tailChars, ofNat,
    digits_ofDigits (isWhole_digitsOf number), digitChars_digitsOf]
  simp only [fractionChars, exponentChars, List.append_nil]

theorem length_digitsOf (decimal : Scaled) :
    (digitsOf decimal.digits).length = decimal.digitChars.length := by
  rw [digitsOf, List.length_map, Scaled.digitChars]

/-- A decimal is zero, with no zeros after it, or positive. -/
def IsExact (decimal : Scaled) : Prop := decimal = ⟨0, 0⟩ ∨ decimal.digits ≠ 0

theorem isWhole_append {digits : List Digit}
    (leads : ∃ first rest, digits = first :: rest ∧ first ≠ 0) (more : List Digit) :
    IsWhole (digits ++ more) := by
  obtain ⟨first, rest, rfl, nonzero⟩ := leads
  exact .inr ⟨first, rest ++ more, rfl, nonzero⟩

theorem isWhole_take {digits : List Digit}
    (leads : ∃ first rest, digits = first :: rest ∧ first ≠ 0) {count : Nat}
    (positive : count ≠ 0) :
    IsWhole (digits.take count) := by
  obtain ⟨first, rest, rfl, nonzero⟩ := leads
  obtain ⟨count, rfl⟩ := Nat.exists_eq_succ_of_ne_zero positive
  exact .inr ⟨first, rest.take count, rfl, nonzero⟩

theorem chars_eq (isNegative : Bool) {whole : List Digit} (isWhole : IsWhole whole)
    (fraction : List Digit) (exponent : Option Exponent) :
    (Numeral.mk isNegative (.ofDigits whole) (Digits.ofList? fraction) exponent).chars =
      (if isNegative then ['-'] else []) ++ (digitChars whole ++
        ((if fraction.isEmpty then [] else '.' :: digitChars fraction) ++
          exponentChars exponent)) := by
  rw [chars, tailChars, digits_ofDigits isWhole, fractionChars_ofList?]

theorem chars_positional (isNegative : Bool) {decimal : Scaled} (exact : IsExact decimal) :
    (positional isNegative decimal).chars =
      (if isNegative then ['-'] else []) ++ (decimal.positional ".0").toList := by
  have length := length_digitsOf decimal
  have written : digitChars (digitsOf decimal.digits) = decimal.digitChars :=
    digitChars_digitsOf decimal.digits
  have some_digit : 0 < decimal.digitChars.length :=
    List.length_pos_iff.mpr Nat.toDigits_ne_nil
  rw [positional, Scaled.positional]
  simp only [length]
  split
  · have zero : (Whole.zero) = .ofDigits [0] := rfl
    have filled : (List.replicate (-decimal.point).toNat 0 ++ digitsOf decimal.digits).isEmpty
        = false :=
      List.isEmpty_eq_false_iff.mpr (List.append_ne_nil_of_right_ne_nil _ (digitsOf_ne_nil _))
    rw [zero, chars_eq isNegative (.inl rfl), filled, digitChars_append, digitChars_zeros, written]
    simp only [Bool.false_eq_true, if_false, exponentChars, List.append_nil,
      String.toList_append, String.toList_ofList]
    rfl
  next notBelow =>
    have positive : decimal.point.toNat ≠ 0 := by omega
    split
    next inside =>
      have leads : ∃ first rest, digitsOf decimal.digits = first :: rest ∧ first ≠ 0 := by
        rcases exact with rfl | nonzero
        · exact absurd inside (by decide)
        · exact digitsOf_pos nonzero
      have filled : ((digitsOf decimal.digits).drop decimal.point.toNat).isEmpty = false := by
        rw [List.isEmpty_eq_false_iff]
        intro none
        have short := List.drop_eq_nil_iff.mp none
        omega
      rw [chars_eq isNegative (isWhole_take leads positive), filled, digitChars, digitChars,
        List.map_take, List.map_drop]
      simp only [Bool.false_eq_true, if_false, exponentChars, List.append_nil,
        String.toList_append, String.toList_ofList, List.append_assoc]
      rw [← written]
      rfl
    next outside =>
      have whole : IsWhole (digitsOf decimal.digits ++
          List.replicate (decimal.point.toNat - decimal.digitChars.length) 0) := by
        rcases exact with rfl | nonzero
        · exact .inl rfl
        · exact isWhole_append (digitsOf_pos nonzero) _
      rw [chars_eq isNegative whole, digitChars_append, digitChars_zeros, written,
        String.toList_append, String.toList_ofList]
      rfl

theorem chars_scientific (isNegative : Bool) {decimal : Scaled} (positive : decimal.digits ≠ 0) :
    (scientific isNegative decimal).chars =
      (if isNegative then ['-'] else []) ++ decimal.scientific.toList := by
  have written : digitChars (digitsOf decimal.digits) = decimal.digitChars :=
    digitChars_digitsOf decimal.digits
  have exponent (power : Int) :
      exponentChars ((Digits.ofList? (digitsOf power.natAbs)).map
        (⟨false, if power < 0 then .minus else .plus, ·⟩)) =
          (if power < 0 then "e-" else "e+").toList ++ (toString power.natAbs).toList := by
    have digits := digitChars_digitsOf power.natAbs
    rw [Nat.toString_eq_ofList_toDigits, String.toList_ofList, ← digits]
    cases read : digitsOf power.natAbs with
    | nil => exact absurd read (digitsOf_ne_nil _)
    | cons first rest =>
        by_cases below : power < 0
        · simp only [if_pos below]
          rfl
        · simp only [if_neg below]
          rfl
  have empty : ((digitsOf decimal.digits).drop 1).isEmpty =
      (decimal.digitChars.drop 1).isEmpty := by
    rw [← written, digitChars, ← List.map_drop, List.isEmpty_map]
  have whole := isWhole_take (digitsOf_pos positive) Nat.one_ne_zero
  have first : digitChars ((digitsOf decimal.digits).take 1) = decimal.digitChars.take 1 := by
    rw [← written, digitChars, List.map_take, digitChars]
  have others : digitChars ((digitsOf decimal.digits).drop 1) = decimal.digitChars.drop 1 := by
    rw [← written, digitChars, List.map_drop, digitChars]
  have pointed (fraction : List Char) :
      (if fraction.isEmpty then "" else "." ++ String.ofList fraction).toList =
        if fraction.isEmpty then [] else '.' :: fraction := by
    split
    · rfl
    · simp only [String.toList_append, String.toList_ofList]
      rfl
  rw [scientific, Scaled.scientific, chars_eq isNegative whole, exponent, empty, first, others]
  simp only [String.toList_append, String.toList_ofList, List.append_assoc, pointed]

end Numeral

/-! ### The shortest decimal -/

theorem digits_of_readsBack {number : Binary64} (nonzero : number.isZero = false)
    {decimal : Scaled} (reads : Scaled.readsBack number decimal = true) : decimal.digits ≠ 0 := by
  intro zero
  rw [Scaled.readsBack, zero, beq_iff_eq, Binary64.ofDecimal?, Nat.zero_mul, Binary64.ofRatio?,
    if_pos rfl, Option.some.injEq] at reads
  rw [← reads] at nonzero
  cases nonzero

theorem readsBack_of_candidate {number : Binary64} {count : Nat} {decimal : Scaled}
    (candidate : Scaled.candidate? number count = some decimal) :
    Scaled.readsBack number decimal = true := by
  rw [Scaled.candidate?] at candidate
  simp only at candidate
  split at candidate
  · cases candidate
  next only kept =>
    cases candidate
    exact (List.mem_filter.mp (kept ▸ List.mem_cons_self)).2
  next lower upper rest kept =>
    have first := (List.mem_filter.mp (kept ▸ List.mem_cons_self)).2
    have second := (List.mem_filter.mp (kept ▸ List.mem_cons_of_mem lower List.mem_cons_self)).2
    rw [Option.some.injEq] at candidate
    rw [← candidate]
    split
    · exact first
    · exact second

theorem isExact_shortest {number : Binary64} (nonzero : number.isZero = false) :
    Numeral.IsExact (Scaled.shortest number) := by
  rw [Scaled.shortest]
  cases found : (List.range 17).findSome? fun index => Scaled.candidate? number (index + 1) with
  | none => exact .inl rfl
  | some decimal =>
      obtain ⟨index, _, candidate⟩ := List.exists_of_findSome?_eq_some found
      exact .inr (digits_of_readsBack nonzero (readsBack_of_candidate candidate))

/-- Taking the zeros at the end of a positive number away leaves one. -/
theorem div_trailingZeros {number : Nat} (positive : number ≠ 0) :
    number / Nat.pow 10 ((Nat.toDigits 10 number).reverse.takeWhile (· == '0')).length ≠ 0 := by
  induction number using Nat.strongRecOn with
  | ind number ih =>
      have ends (digit : Nat) (bounded : digit < 10) (nonzero : digit ≠ 0) :
          (Nat.digitChar digit == '0') = false := by
        rw [beq_eq_false_iff_ne, ne_eq, Nat.digitChar_eq_zero]
        exact nonzero
      by_cases small : number < 10
      · rw [Nat.toDigits_of_lt_base small, List.reverse_singleton,
          List.takeWhile_cons_of_neg (by simp [ends number small positive])]
        simpa using positive
      · have less : number % 10 < 10 := Nat.mod_lt number (by decide)
        rw [Nat.toDigits_of_base_le (by decide) (Nat.le_of_not_lt small),
          List.reverse_append, List.reverse_singleton, List.singleton_append]
        by_cases last : number % 10 = 0
        · rw [last, List.takeWhile_cons_of_pos (by decide), List.length_cons, Nat.pow_eq,
            Nat.pow_succ', ← Nat.div_div_eq_div_mul]
          exact ih (number / 10) (by omega) (by omega)
        · rw [List.takeWhile_cons_of_neg (by simp [ends _ less last])]
          simpa using positive

theorem isExact_strip {decimal : Scaled} (exact : Numeral.IsExact decimal) :
    Numeral.IsExact decimal.strip := by
  rcases exact with rfl | positive
  · exact .inl rfl
  · refine .inr ?_
    rw [Scaled.strip]
    simp only [if_neg positive]
    exact div_trailingZeros positive

theorem digits_strip {decimal : Scaled} (exact : Numeral.IsExact decimal.strip)
    (scientific : ¬ (-5 < decimal.strip.point && decimal.strip.point ≤ 16) = true) :
    decimal.strip.digits ≠ 0 := by
  rcases exact with zero | positive
  · rw [zero] at scientific
    exact absurd rfl scientific
  · exact positive

theorem Numeral.chars_ofNumber (number : Number) :
    (Numeral.ofNumber number).chars = (numberText number).toList := by
  cases number with
  | natural value => exact Numeral.chars_ofNat false value
  | negative magnitude =>
      rw [ofNumber, chars_ofNat, numberText, String.toList_append]
      rfl
  | floating value =>
      rw [ofNumber, ofFloating, numberText, Binary64.toJsonText, String.toList_append,
        Binary64.signText]
      have sign : (if value.isNegative then "-" else "").toList =
          if value.isNegative then ['-'] else [] := by cases value.isNegative <;> rfl
      rw [sign]
      cases zero : value.isZero with
      | true =>
          rw [if_pos rfl, if_pos rfl]
          cases value.isNegative <;> rfl
      | false =>
          have exact := isExact_strip (isExact_shortest zero)
          simp only [Bool.false_eq_true, if_false]
          split
          · exact chars_positional _ exact
          next scientific => exact chars_scientific _ (digits_strip exact scientific)

/-! ### Values -/

/-- Induction over values: a list by its elements, an object by the values of its members. -/
@[elab_as_elim, induction_eliminator]
theorem Value.induction {motive : Value → Prop} (null : motive .null)
    (bool : ∀ truth, motive (.bool truth)) (number : ∀ number, motive (.number number))
    (string : ∀ text, motive (.string text))
    (array : ∀ elements, (∀ element ∈ elements, motive element) → motive (.array elements))
    (object : ∀ members, (∀ named ∈ members, motive named.2) → motive (.object members))
    (value : Value) : motive value :=
  match value with
  | .null => null
  | .bool truth => bool truth
  | .number written => number written
  | .string text => string text
  | .array elements => array elements fun element _ =>
    Value.induction null bool number string array object element
  | .object members => object members fun named _ =>
    Value.induction null bool number string array object named.2
termination_by sizeOf value
decreasing_by
  · have smaller := List.sizeOf_lt_of_mem ‹element ∈ elements›
    simp only [Value.array.sizeOf_spec]
    omega
  · have smaller := List.sizeOf_lt_of_mem ‹named ∈ members›
    have part : sizeOf named.2 < sizeOf named := by
      cases named
      simp only [Prod.mk.sizeOf_spec]
      omega
    simp only [Value.object.sizeOf_spec]
    omega

/-- Each object has at most one member of a name, all the way down. -/
inductive Value.HasDistinctNames : Value → Prop where
  | null : HasDistinctNames .null
  | bool (truth : Bool) : HasDistinctNames (.bool truth)
  | number (number : Number) : HasDistinctNames (.number number)
  | string (text : String) : HasDistinctNames (.string text)
  | array {elements : List Value} (each : ∀ element ∈ elements, element.HasDistinctNames) :
      HasDistinctNames (.array elements)
  | object {members : Members} (distinct : (members.map (·.1)).Nodup)
      (each : ∀ named ∈ members, named.2.HasDistinctNames) : HasDistinctNames (.object members)

/-- A name without blanks around it. -/
def writtenName (name : String) : Name := ⟨[], writtenPieces name, []⟩

namespace Tree

mutual

/-- A value as its compact text writes it. -/
def ofValue : Value → Tree
  | .null => .scalar [] .null []
  | .bool truth => .scalar [] (.bool truth) []
  | .number number => .scalar [] (.number (.ofNumber number)) []
  | .string text => .scalar [] (.string (writtenPieces text)) []
  | .array elements => .array [] [] (ofElements elements) []
  | .object members => .object [] [] (ofNamed members) []

def ofElements : List Value → List Tree
  | [] => []
  | element :: rest => ofValue element :: ofElements rest

def ofNamed : List (String × Value) → List (Name × Tree)
  | [] => []
  | (name, value) :: rest => (writtenName name, ofValue value) :: ofNamed rest

end

end Tree

theorem literalChars_writtenPieces (text : String) :
    literalChars (writtenPieces text) = stringChars text := by
  rw [literalChars, contentChars_writtenPieces, stringChars]

theorem chars_writtenName (name : String) : (writtenName name).chars = stringChars name := by
  rw [Name.chars, writtenName, literalChars_writtenPieces]
  exact List.append_nil _

mutual

/-- The compact text of a value is that of its tree. -/
theorem chars_ofValue (value : Value) : (Tree.ofValue value).chars = compactChars value := by
  cases value with
  | null => rfl
  | bool truth => cases truth <;> rfl
  | number number =>
      have written := Numeral.chars_ofNumber number
      rw [Tree.ofValue, Tree.chars, Scalar.chars, written, compactChars]
      exact List.append_nil _
  | string text =>
      rw [Tree.ofValue, Tree.chars, Scalar.chars, literalChars_writtenPieces, compactChars]
      exact List.append_nil _
  | array elements =>
      rw [Tree.ofValue, Tree.chars, compactChars, elementChars_ofElements elements]
      rfl
  | object members =>
      rw [Tree.ofValue, Tree.chars, compactChars, memberChars_ofNamed members]
      rfl

theorem elementChars_ofElements (elements : List Value) :
    elementChars true (Tree.ofElements elements) = compactElements elements := by
  match elements with
  | [] => rfl
  | [element] =>
      rw [Tree.ofElements, elementChars, chars_ofValue element, compactElements]
      exact List.append_nil _
  | element :: second :: rest =>
      have others := elementChars_ofElements (second :: rest)
      rw [Tree.ofElements, elementChars, chars_ofValue element, compactElements, ← others]
      · rfl
      · exact List.cons_ne_nil second rest

theorem memberChars_ofNamed (members : List (String × Value)) :
    memberChars true (Tree.ofNamed members) = compactMembers members := by
  match members with
  | [] => rfl
  | [(name, value)] =>
      rw [Tree.ofNamed, memberChars, chars_ofValue value, compactMembers, chars_writtenName]
      exact List.append_nil _
  | (name, value) :: second :: rest =>
      have others := memberChars_ofNamed (second :: rest)
      rw [Tree.ofNamed, memberChars, chars_ofValue value, compactMembers, ← others,
        chars_writtenName]
      · rw [if_pos rfl, List.nil_append, List.append_assoc, List.cons_append]
        rfl
      · exact List.cons_ne_nil second rest

end

theorem bytes_ofValue (value : Value) :
    (Tree.ofValue value).bytes = Bytes.ofString value.compact := by
  rw [Tree.bytes, chars_ofValue, Bytes.ofString, Value.compact, String.toList_ofList]

theorem ofElements_eq (elements : List Value) :
    Tree.ofElements elements = elements.map Tree.ofValue := by
  induction elements with
  | nil => rfl
  | cons element rest ih => rw [Tree.ofElements, ih, List.map_cons]

end ClusterRest.Json
