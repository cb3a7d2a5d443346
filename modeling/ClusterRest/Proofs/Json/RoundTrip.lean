import Mathlib.Data.List.Forall2
import ClusterRest.Proofs.Json.Values
import ClusterRest.Proofs.Json.Writing

/-!
Reading a value back from its compact text. Main statement: what is read is the same value, but for
the order of members, if the value nests less deep than the reader goes; else nothing is. Numbers are
integers of 64 bits here: the reader may round others.
-/

namespace ClusterRest.Json

/-! ### Values that are the same -/

/-- Values that differ at most in the order of members. -/
inductive Value.Same : Value → Value → Prop where
  | null : Same .null .null
  | bool (truth : Bool) : Same (.bool truth) (.bool truth)
  | number (number : Number) : Same (.number number) (.number number)
  | string (text : String) : Same (.string text) (.string text)
  | array {elements others : List Value} (each : List.Forall₂ Same elements others) :
      Same (.array elements) (.array others)
  | object {members arranged others : Members} (names : members.map (·.1) = arranged.map (·.1))
      (each : List.Forall₂ Same (members.map (·.2)) (arranged.map (·.2)))
      (reordered : arranged.Perm others) : Same (.object members) (.object others)

/-- A member with a new name takes its place among the others. -/
theorem insertMember_perm {name : String} (value : Value) {sorted : Members}
    (fresh : name ∉ sorted.map (·.1)) :
    (insertMember name value sorted).Perm ((name, value) :: sorted) := by
  induction sorted with
  | nil => exact .refl _
  | cons first rest ih =>
      obtain ⟨other, present⟩ := first
      rw [List.map_cons, List.mem_cons, not_or] at fresh
      rw [insertMember, if_neg fresh.1]
      split
      · exact .refl _
      · have placed := (ih fresh.2).cons (other, present)
        exact placed.trans (.swap _ _ _)

/-- Members with names of their own are all kept. -/
theorem foldl_insertMember_perm {members sorted : Members}
    (distinct : ((members ++ sorted).map (·.1)).Nodup) :
    (members.foldl (fun sorted (name, value) => insertMember name value sorted) sorted).Perm
      (members ++ sorted) := by
  induction members generalizing sorted with
  | nil => exact .refl _
  | cons first rest ih =>
      obtain ⟨name, value⟩ := first
      have moved : (rest ++ (name, value) :: sorted).Perm ((name, value) :: (rest ++ sorted)) :=
        List.perm_middle
      have fresh : name ∉ sorted.map (·.1) := by
        rw [List.cons_append, List.map_cons, List.nodup_cons, List.map_append,
          List.mem_append, not_or] at distinct
        exact distinct.1.2
      have placed := (insertMember_perm value fresh).append_left rest
      have still := (moved.map (·.1)).nodup_iff.mpr distinct
      have step := ih ((placed.map (·.1)).nodup_iff.mpr still)
      exact (step.trans placed).trans moved

/-! ### Depth -/

mutual

/-- How deep lists and objects nest. -/
def Value.depth : Value → Nat
  | .array elements => elementsDepth elements + 1
  | .object members => membersDepth members + 1
  | _ => 0

def elementsDepth : List Value → Nat
  | [] => 0
  | element :: rest => max element.depth (elementsDepth rest)

def membersDepth : Members → Nat
  | [] => 0
  | (_, value) :: rest => max value.depth (membersDepth rest)

end

mutual

/-- The text of a value nests as deep as the value. -/
theorem depth_ofValue (value : Value) : (Tree.ofValue value).depth = value.depth := by
  cases value with
  | array elements =>
      rw [Tree.ofValue, Tree.depth, Value.depth, elementDepth_ofElements elements]
  | object members =>
      rw [Tree.ofValue, Tree.depth, Value.depth, memberDepth_ofNamed members]
  | null | bool | number | string => rfl

theorem elementDepth_ofElements (elements : List Value) :
    elementDepth (Tree.ofElements elements) = elementsDepth elements := by
  match elements with
  | [] => rfl
  | element :: rest =>
      rw [Tree.ofElements, elementDepth, elementsDepth, depth_ofValue element,
        elementDepth_ofElements rest]

theorem memberDepth_ofNamed (members : Members) :
    memberDepth (Tree.ofNamed members) = membersDepth members := by
  match members with
  | [] => rfl
  | (name, value) :: rest =>
      rw [Tree.ofNamed, memberDepth, membersDepth, depth_ofValue value, memberDepth_ofNamed rest]

end

/-! ### Numbers -/

/-- An integer of 64 bits, signed or not. -/
def Number.IsInteger : Number → Prop
  | .natural value => value < Nat.pow 2 64
  | .negative magnitude => 0 < magnitude ∧ magnitude ≤ Nat.pow 2 63
  | .floating _ => False

instance (number : Number) : Decidable number.IsInteger :=
  match number with
  | .natural value => inferInstanceAs (Decidable (value < Nat.pow 2 64))
  | .negative magnitude => inferInstanceAs (Decidable (0 < magnitude ∧ magnitude ≤ Nat.pow 2 63))
  | .floating _ => inferInstanceAs (Decidable False)

theorem digitValue_byte : ∀ digit : Digit, digitValue digit.byte = digit := by decide

/-- Digits are taken to the last, if all that they make fits 64 bits. -/
theorem appendDigits_eq {digits : List Digit} {significand : Nat}
    (fits : Nat.ofDigitChars 10 (digitChars digits) significand ≤ greatestNatural) :
    appendDigits significand (digitBytes digits) =
      (Nat.ofDigitChars 10 (digitChars digits) significand, digits.length) := by
  induction digits generalizing significand with
  | nil => rfl
  | cons digit rest ih =>
      rw [digitChars, List.map_cons, Digit.char,
        Nat.ofDigitChars_cons_digitChar_of_lt_ten digit.isLt] at fits ⊢
      have next : significand * 10 + digitValue digit.byte = 10 * significand + digit := by
        rw [digitValue_byte, Nat.mul_comm]
      have grows : 10 * significand + digit ≤
          Nat.ofDigitChars 10 (digitChars rest) (10 * significand + digit) := by
        rw [Nat.ofDigitChars_eq_ofDigitChars_zero]
        have scaled := Nat.le_mul_of_pos_left (10 * significand + digit)
          (Nat.pow_pos (n := (digitChars rest).length) (by decide : 0 < 10))
        exact Nat.le_add_right_of_le scaled
      have small : ¬ 10 * significand + digit > greatestNatural :=
        Nat.not_lt.mpr (Nat.le_trans grows fits)
      have others := ih fits
      rw [digitBytes] at others
      rw [digitBytes, List.map_cons, appendDigits, next]
      simp only [if_neg small, others]
      rfl

namespace Numeral

theorem value?_ofNat (isNegative : Bool) {number : Nat} (fits : number ≤ greatestNatural) :
    (ofNat isNegative number).value? = some (integer isNegative number) := by
  have made : Nat.ofDigitChars 10 (digitChars (digitsOf number)) 0 = number := by
    rw [digitChars_digitsOf, Nat.ofDigitChars_ten_toDigits]
  have taken : appendDigits 0 (digitBytes (digitsOf number)) =
      (number, (digitsOf number).length) := by
    rw [appendDigits_eq (by rwa [made]), made]
  have length : (digitBytes (digitsOf number)).length = (digitsOf number).length :=
    List.length_map _
  rw [value?, ofNat]
  simp only [digits_ofDigits (isWhole_digitsOf number), taken, length, scaled?, Int.sub_self,
    if_true]

/-- An integer of 64 bits is read back. -/
theorem value?_ofNumber {number : Number} (exact : number.IsInteger) :
    (ofNumber number).value? = some number := by
  cases number with
  | natural value =>
      rw [ofNumber, value?_ofNat false (Nat.le_sub_one_of_lt exact)]
      rfl
  | negative magnitude =>
      obtain ⟨positive, least⟩ := exact
      have fits : magnitude ≤ greatestNatural := Nat.le_trans least (by decide)
      rw [ofNumber, value?_ofNat true fits, integer]
      simp only [Bool.not_true, Bool.false_eq_true, if_false, if_neg (Nat.ne_of_gt positive)]
      rw [if_pos least]
  | floating value => exact exact.elim

end Numeral

/-! ### Values -/

/-- All numbers in a value are integers of 64 bits. -/
inductive Value.HasIntegers : Value → Prop where
  | null : HasIntegers .null
  | bool (truth : Bool) : HasIntegers (.bool truth)
  | number {number : Number} (exact : number.IsInteger) : HasIntegers (.number number)
  | string (text : String) : HasIntegers (.string text)
  | array {elements : List Value} (each : ∀ element ∈ elements, element.HasIntegers) :
      HasIntegers (.array elements)
  | object {members : Members} (each : ∀ named ∈ members, named.2.HasIntegers) :
      HasIntegers (.object members)

/-- The text of a value stands for the same value again. -/
def Value.IsReadBack (value : Value) : Prop :=
  ∃ same, (Tree.ofValue value).value? = some same ∧ value.Same same

theorem elementValues?_ofElements {elements : List Value}
    (each : ∀ element ∈ elements, element.IsReadBack) :
    ∃ others, elementValues? (Tree.ofElements elements) = some others ∧
      List.Forall₂ Value.Same elements others := by
  induction elements with
  | nil => exact ⟨[], rfl, .nil⟩
  | cons element rest ih =>
      rw [List.forall_mem_cons] at each
      obtain ⟨first, read, same⟩ := each.1
      obtain ⟨others, readRest, sameRest⟩ := ih each.2
      refine ⟨first :: others, ?_, .cons same sameRest⟩
      rw [Tree.ofElements, elementValues?, read, readRest]
      rfl

theorem memberValues?_ofNamed {members : Members}
    (each : ∀ named ∈ members, named.2.IsReadBack) :
    ∃ others, memberValues? (Tree.ofNamed members) = some others ∧
      members.map (·.1) = others.map (·.1) ∧
      List.Forall₂ Value.Same (members.map (·.2)) (others.map (·.2)) := by
  induction members with
  | nil => exact ⟨[], rfl, rfl, .nil⟩
  | cons named rest ih =>
      obtain ⟨name, value⟩ := named
      rw [List.forall_mem_cons] at each
      obtain ⟨first, read, same⟩ := each.1
      obtain ⟨others, readRest, names, sameRest⟩ := ih each.2
      refine ⟨(name, first) :: others, ?_, congrArg (List.cons name) names, .cons same sameRest⟩
      rw [Tree.ofNamed, memberValues?, writtenName, string?_writtenPieces, read, readRest]
      rfl

theorem Value.isReadBack {value : Value} (distinct : value.HasDistinctNames)
    (integers : value.HasIntegers) : value.IsReadBack := by
  induction value with
  | null => exact ⟨_, rfl, .null⟩
  | bool truth => exact ⟨_, rfl, .bool truth⟩
  | number number =>
      cases integers with
      | number exact =>
          refine ⟨.number number, ?_, .number number⟩
          rw [Tree.ofValue, Tree.value?, Scalar.value?, Numeral.value?_ofNumber exact]
          rfl
  | string text =>
      refine ⟨.string text, ?_, .string text⟩
      rw [Tree.ofValue, Tree.value?, Scalar.value?, string?_writtenPieces]
      rfl
  | array elements ih =>
      cases distinct with
      | array distinct =>
          cases integers with
          | array integers =>
              obtain ⟨others, read, same⟩ := elementValues?_ofElements fun element member =>
                ih element member (distinct element member) (integers element member)
              refine ⟨.array others, ?_, .array same⟩
              rw [Tree.ofValue, Tree.value?, read]
              rfl
  | object members ih =>
      cases distinct with
      | object names distinct =>
          cases integers with
          | object integers =>
              obtain ⟨others, read, sameNames, same⟩ := memberValues?_ofNamed fun named member =>
                ih named member (distinct named member) (integers named member)
              rw [sameNames, ← List.append_nil others] at names
              have kept := foldl_insertMember_perm names
              rw [List.append_nil] at kept
              refine ⟨ofMembers others, ?_, .object sameNames same kept.symm⟩
              rw [Tree.ofValue, Tree.value?, read]
              rfl

/-- The compact text of a value is read as the same value, if it nests less deep than the limit. -/
theorem parse_compact {value : Value} (distinct : value.HasDistinctNames)
    (integers : value.HasIntegers) :
    (value.depth < depthLimit →
      ∃ same, parse (Bytes.ofString value.compact) = .ok same ∧ value.Same same) ∧
    (depthLimit ≤ value.depth →
      ∃ fault, parse (Bytes.ofString value.compact) = .error fault) := by
  have deepness := depth_ofValue value
  rw [← bytes_ofValue]
  constructor
  · intro shallow
    obtain ⟨same, stands, alike⟩ := Value.isReadBack distinct integers
    have readable : (Tree.ofValue value).IsReadable :=
      ⟨by omega, Option.isSome_of_eq_some stands⟩
    obtain ⟨found, parsed, given⟩ := parse_of_readable readable
    rw [given, Option.some.injEq] at stands
    exact ⟨found, parsed, stands ▸ alike⟩
  · intro deep
    apply parse_of_not_readable
    intro readable
    have shallow := readable.1
    omega

end ClusterRest.Json
