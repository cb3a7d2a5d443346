import ClusterRest.Proofs.Text
import ClusterRest.Toml.Number

/-! Integers of TOML documents. Main statement: the numeral of an integer that fits a word is read
as that integer, and as nothing else that a word may be. -/

namespace ClusterRest.Toml

open Text Decimal

/-! ### Decimal digits -/

theorem isDigit_toDigits {number : Nat} {digit : Char} (member : digit ∈ Nat.toDigits 10 number) :
    isDigit digit = true := by
  rw [isDigit_eq]
  exact Nat.isDigit_of_mem_toDigits (by decide) (by decide) member

theorem decimalOfDigits_toDigits (number : Nat) :
    decimalOfDigits (Nat.toDigits 10 number) = number :=
  Nat.ofDigitChars_toDigits (by decide) (by decide)

/-- No zero leads the digits of a positive number. -/
theorem toDigits_leading {number : Nat} (positive : number ≠ 0) :
    ∃ first rest, Nat.toDigits 10 number = first :: rest ∧ first ≠ '0' := by
  induction number using Nat.strongRecOn with
  | ind number ih =>
      by_cases small : number < 10
      · rw [Nat.toDigits_of_lt_base small]
        refine ⟨_, [], rfl, ?_⟩
        intro zero
        have all : ∀ digit : Fin 10, Nat.digitChar digit = '0' → digit.val = 0 := by decide
        exact positive (all ⟨number, small⟩ zero)
      · obtain ⟨first, rest, shorter, nonzero⟩ := ih (number / 10) (by omega) (by omega)
        rw [Nat.toDigits_of_base_le (by decide) (Nat.le_of_not_lt small), shorter]
        exact ⟨first, _, rfl, nonzero⟩

/-! ### Numerals -/

/-- Digits as a numeral has them: at least one, and no zero before others. -/
structure WholeDigits (digits : List Char) : Prop where
  filled : digits ≠ []
  all : ∀ digit ∈ digits, isDigit digit = true
  leading : ∀ second rest, digits ≠ '0' :: second :: rest

theorem wholeDigits_toDigits (number : Nat) : WholeDigits (Nat.toDigits 10 number) := by
  refine ⟨Nat.toDigits_ne_nil, fun _ => isDigit_toDigits, ?_⟩
  intro second rest long
  by_cases zero : number = 0
  · subst zero
    cases long
  · obtain ⟨first, others, digits_eq, nonzero⟩ := toDigits_leading zero
    rw [digits_eq] at long
    exact nonzero (List.cons.inj long).1

theorem notMem_of_digits {digits : List Char} (all : ∀ digit ∈ digits, isDigit digit = true)
    {character : Char} (other : isDigit character = false) : character ∉ digits := by
  intro member
  rw [all character member] at other
  cases other

theorem ungrouped?_digits {digits : List Char} (filled : digits ≠ [])
    (all : ∀ digit ∈ digits, isDigit digit = true) :
    ungrouped? isDigit digits = some digits := by
  induction digits with
  | nil => exact absurd rfl filled
  | cons first rest ih =>
      obtain ⟨digit, digits⟩ := List.forall_mem_cons.mp all
      cases rest with
      | nil => exact if_pos digit
      | cons second rest =>
          have grouped : second ≠ '_' := by
            rintro rfl
            exact notMem_of_digits digits rfl List.mem_cons_self
          rw [ungrouped?, if_pos digit, ih (List.cons_ne_nil _ _) digits]
          · rfl
          · nofun
          · exact fun _ same => grouped (List.cons.inj same).1

namespace WholeDigits

variable {digits : List Char} (whole : WholeDigits digits)

include whole

theorem wholeDigits? : wholeDigits? digits = some digits := by
  rw [Toml.wholeDigits?, ungrouped?_digits whole.filled whole.all]
  simp only [Option.bind_eq_bind, Option.bind_some]
  split
  next second rest => exact absurd rfl (whole.leading second rest)
  next => rfl

theorem plainNumeral? : plainNumeral? digits = none := by
  have keeps {accepts : Char → Bool} (all : ∀ digit ∈ digits, accepts digit = true) :
      digits.takeWhile accepts = digits := by
    simpa using (takeWhile_append_stops all (by simp : ∀ next ∈ [].head?, accepts next = false)).1
  have mantissa : digits.takeWhile (!Extended.isExponentMark ·) = digits := by
    refine keeps fun digit member => ?_
    have small : digit ≠ 'e' := by
      rintro rfl
      exact notMem_of_digits whole.all rfl member
    have capital : digit ≠ 'E' := by
      rintro rfl
      exact notMem_of_digits whole.all rfl member
    simp [Extended.isExponentMark, small, capital]
  have whole_eq : digits.takeWhile (· ≠ '.') = digits := by
    refine keeps fun digit member => ?_
    have point : digit ≠ '.' := by
      rintro rfl
      exact notMem_of_digits whole.all rfl member
    simp [point]
  rw [Toml.plainNumeral?, mantissa, whole_eq]
  simp [whole.wholeDigits?]

theorem cutSign : Extended.cutSign digits = (false, digits) := by
  rw [Extended.cutSign]
  · rintro rest rfl
    exact notMem_of_digits whole.all rfl List.mem_cons_self
  · rintro rest rfl
    exact notMem_of_digits whole.all rfl List.mem_cons_self

end WholeDigits

/-- The numeral of an integer: its digits, with a dash before those of a negative one. -/
inductive IsNumeral : Int → List Char → Prop where
  | positive {digits : List Char} (whole : WholeDigits digits) :
      IsNumeral (decimalOfDigits digits : Nat) digits
  | negative {digits : List Char} (whole : WholeDigits digits) :
      IsNumeral (-(decimalOfDigits digits : Nat)) ('-' :: digits)

theorem isNumeral_toString (number : Int) : IsNumeral number (toString number).toList := by
  rw [Int.toString_eq_repr]
  cases number with
  | ofNat number =>
      have text_eq : (Int.repr (.ofNat number)).toList = Nat.toDigits 10 number := Nat.toList_repr
      have numeral := IsNumeral.positive (wholeDigits_toDigits number)
      rw [decimalOfDigits_toDigits] at numeral
      rwa [text_eq]
  | negSucc number =>
      have text_eq : (Int.repr (.negSucc number)).toList = '-' :: Nat.toDigits 10 (number + 1) := by
        rw [Int.repr, String.toList_append, Nat.toList_repr]
        rfl
      have numeral := IsNumeral.negative (wholeDigits_toDigits (number + 1))
      rw [decimalOfDigits_toDigits] at numeral
      rwa [text_eq]

namespace IsNumeral

variable {number : Int} {word : List Char} (numeral : IsNumeral number word)

include numeral

theorem exists_digits : ∃ first digits, word = first :: digits ∧
    (isDigit first = true ∨ first = '-') ∧ ∀ digit ∈ digits, isDigit digit = true := by
  cases numeral with
  | positive whole =>
      obtain ⟨first, rest, rfl⟩ := List.exists_cons_of_ne_nil whole.filled
      obtain ⟨digit, digits⟩ := List.forall_mem_cons.mp whole.all
      exact ⟨first, rest, rfl, .inl digit, digits⟩
  | negative whole => exact ⟨'-', _, rfl, .inr rfl, whole.all⟩

theorem date? : date? word = none := by
  obtain ⟨first, digits, rfl, _, all⟩ := numeral.exists_digits
  rw [Toml.date?]
  rintro a b c d rest same
  obtain ⟨rfl, rfl⟩ := List.cons.inj same
  exact notMem_of_digits all rfl (by simp : '-' ∈ b :: c :: d :: '-' :: rest)

theorem time? : time? word = none := by
  obtain ⟨first, digits, rfl, _, all⟩ := numeral.exists_digits
  have unmarked : ':' ∉ digits := notMem_of_digits all rfl
  rw [Toml.time?]
  cases read : twoDigits? (first :: digits) with
  | none => rfl
  | some pair =>
      obtain ⟨hour, rest⟩ := pair
      have rest_eq : ∃ second, digits = second :: rest := by
        cases digits with
        | nil => cases read
        | cons second others =>
            rw [twoDigits?] at read
            split at read
            · cases read
              exact ⟨second, rfl⟩
            · cases read
      obtain ⟨second, rfl⟩ := rest_eq
      simp only [Option.bind_eq_bind, Option.bind_some]
      split
      next => exact absurd (by simp) unmarked
      next => cases between 0 23 hour <;> rfl

theorem moment? : moment? word = none := by
  rw [Toml.moment?, numeral.date?, numeral.time?]

theorem cutSign : ∃ isNegative digits, Extended.cutSign word = (isNegative, digits) ∧
    WholeDigits digits ∧
    number = if isNegative then -(decimalOfDigits digits : Int) else (decimalOfDigits digits : Int)
    := by
  cases numeral with
  | positive whole => exact ⟨false, _, whole.cutSign, whole, rfl⟩
  | negative whole => exact ⟨true, _, rfl, whole, rfl⟩

theorem float? : float? word = none := by
  obtain ⟨isNegative, digits, cut, whole, _⟩ := numeral.cutSign
  have infinite : digits ≠ "inf".toList := by
    rintro rfl
    exact notMem_of_digits whole.all (by decide : isDigit 'i' = false) (by decide)
  have notANumber : digits ≠ "nan".toList := by
    rintro rfl
    exact notMem_of_digits whole.all (by decide : isDigit 'n' = false) (by decide)
  simp only [Toml.float?, cut, if_neg infinite, if_neg notANumber, whole.plainNumeral?]
  rfl

theorem integer? : integer? word = some number := by
  obtain ⟨first, others, word_eq, _, all⟩ := numeral.exists_digits
  have unbased {mark : Char} (other : isDigit mark = false) (rest : List Char) :
      word ≠ '0' :: mark :: rest := by
    rw [word_eq]
    intro same
    exact notMem_of_digits all other ((List.cons.inj same).2 ▸ List.mem_cons_self)
  obtain ⟨isNegative, digits, cut, whole, number_eq⟩ := numeral.cutSign
  rw [Toml.integer?, cut, number_eq]
  · simp [whole.wholeDigits?]
  · exact unbased rfl
  · exact unbased rfl
  · exact unbased rfl

end IsNumeral

theorem word?_toString {number : Int} (fitting : fits number = true) :
    word? (toString number).toList = some (.integer number) := by
  have numeral := isNumeral_toString number
  obtain ⟨first, digits, word_eq, _, all⟩ := numeral.exists_digits
  have unnamed {text : List Char} {letter : Char} (other : isDigit letter = false)
      (member : letter ∈ text.tail) : (toString number).toList ≠ text := by
    rintro rfl
    rw [word_eq] at member
    exact notMem_of_digits all other member
  have affirmed : (toString number).toList ≠ "true".toList :=
    unnamed (by decide : isDigit 'e' = false) (by decide)
  have denied : (toString number).toList ≠ "false".toList :=
    unnamed (by decide : isDigit 'e' = false) (by decide)
  simp only [word?, if_neg affirmed, if_neg denied, numeral.moment?, numeral.float?,
    numeral.integer?, Option.bind_eq_bind, Option.bind_some, if_pos fitting]

end ClusterRest.Toml
