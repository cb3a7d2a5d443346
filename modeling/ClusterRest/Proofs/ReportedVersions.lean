import ClusterRest.LatestVersion
import ClusterRest.Proofs.Outcomes
import ClusterRest.Proofs.Text

/-!
Versions that clusters report. Main statement: the form of a trimmed report decides whether it gives
a version that is supported, one that is not, or none at all.
-/

namespace ClusterRest

/-! ### Bounded numbers -/

namespace Text

/-- Decimal digits, with at most one plus sign before them, that write a number up to a limit. -/
def Writes (limit : Nat) (text : List Char) (number : Nat) : Prop :=
  ∃ sign digits, text = sign ++ digits ∧ (sign = [] ∨ sign = ['+']) ∧ digits ≠ [] ∧
    (∀ digit ∈ digits, digit.isDigit = true) ∧ number = Nat.ofDigitChars 10 digits 0 ∧
    number ≤ limit

variable {limit number : Nat} {text : List Char}

theorem Writes.not_mem (writes : Writes limit text number) {mark : Char} (unsigned : mark ≠ '+')
    (other : mark.isDigit = false) : mark ∉ text := by
  obtain ⟨sign, digits, rfl, signed, -, all, -, -⟩ := writes
  rw [List.mem_append, not_or]
  constructor
  · rcases signed with rfl | rfl
    · exact List.not_mem_nil
    · rwa [List.mem_singleton]
  · intro member
    rw [all mark member] at other
    cases other

/-- A sign is left aside, and the rest has to be digits. -/
theorem boundedNat?_signed {sign digits : List Char} (signed : sign = [] ∨ sign = ['+'])
    (bare : sign = [] → ∀ rest, digits ≠ '+' :: rest) :
    boundedNat? limit (sign ++ digits) =
      if digits.isEmpty || !digits.all isDigit then none
      else if decimalOfDigits digits ≤ limit then some (decimalOfDigits digits) else none := by
  rcases signed with rfl | rfl
  · rw [List.nil_append, boundedNat?]
    exact bare rfl
  · rfl

theorem boundedNat?_eq_some : boundedNat? limit text = some number ↔ Writes limit text number := by
  constructor
  · intro read
    have parted : ∃ sign digits, text = sign ++ digits ∧ (sign = [] ∨ sign = ['+']) ∧
        (sign = [] → ∀ rest, digits ≠ '+' :: rest) := by
      by_cases plus : ∃ rest, text = '+' :: rest
      · obtain ⟨rest, rfl⟩ := plus
        exact ⟨['+'], rest, rfl, .inr rfl, fun empty => nomatch empty⟩
      · exact ⟨[], text, rfl, .inl rfl, fun _ => not_exists.mp plus⟩
    obtain ⟨sign, digits, rfl, signed, bare⟩ := parted
    rw [boundedNat?_signed signed bare] at read
    split at read
    · cases read
    next written =>
      split at read
      next fits =>
        cases read
        simp only [Bool.or_eq_true, List.isEmpty_iff, Bool.not_eq_true', not_or, Bool.not_eq_false,
          List.all_eq_true, isDigit_eq] at written
        exact ⟨sign, digits, rfl, signed, written.1, written.2, rfl, fits⟩
      next => cases read
  · rintro ⟨sign, digits, rfl, signed, filled, all, rfl, fits⟩
    have bare : sign = [] → ∀ rest, digits ≠ '+' :: rest := by
      rintro - rest rfl
      exact absurd (all '+' List.mem_cons_self) (by decide)
    have written : (digits.isEmpty || !digits.all isDigit) = false := by
      simpa [filled, isDigit_eq] using all
    have value : decimalOfDigits digits = Nat.ofDigitChars 10 digits 0 := rfl
    rw [boundedNat?_signed signed bare, written, value, if_neg Bool.false_ne_true, if_pos fits]

end Text

/-! ### Versions -/

namespace ApiVersion

open Text

/-- How a version is written: as one number, or as two with a dot between them. -/
inductive Denotes : List Char → ApiVersion → Prop where
  | alone {text : List Char} {major : Nat} (first : Writes 255 text major) :
      Denotes text ⟨major, 0⟩
  | both {before after : List Char} {major minor : Nat} (first : Writes 255 before major)
      (second : Writes 255 after minor) : Denotes (before ++ '.' :: after) ⟨major, minor⟩

variable {text : String} {version : ApiVersion}

theorem parse?_eq_some : parse? text = some version ↔ Denotes (trim text).toList version := by
  rw [trim, String.toList_ofList, parse?]
  generalize trimChars text.toList = trimmed
  constructor
  · intro read
    cases cut : cutChars '.' trimmed with
    | none =>
        simp only [cut, Option.bind_eq_bind, Option.bind_eq_some_iff] at read
        obtain ⟨major, first, given⟩ := read
        cases given
        exact .alone (boundedNat?_eq_some.mp first)
    | some parts =>
        obtain ⟨before, after⟩ := parts
        obtain ⟨rfl, -⟩ := cutChars_eq_some cut
        simp only [cut, Option.bind_eq_bind, Option.bind_eq_some_iff] at read
        obtain ⟨major, first, minor, second, given⟩ := read
        cases given
        exact .both (boundedNat?_eq_some.mp first) (boundedNat?_eq_some.mp second)
  · intro denotes
    cases denotes with
    | alone first =>
        have undotted : '.' ∉ trimmed := first.not_mem (by decide) (by decide)
        rw [cutChars_eq_none undotted]
        simp only [greatestNumber, boundedNat?_eq_some.mpr first]
        rfl
    | both first second =>
        have undotted := first.not_mem (by decide : '.' ≠ '+') (by decide)
        rw [cutChars_marked undotted]
        simp only [greatestNumber, boundedNat?_eq_some.mpr first, boundedNat?_eq_some.mpr second]
        rfl

example : parse? " +008.255\n" = some ⟨8, 255⟩ := by decide +kernel

theorem parse?_eq_none : parse? text = none ↔ ∀ version, ¬ Denotes (trim text).toList version := by
  rw [Option.eq_none_iff_forall_ne_some]
  exact forall_congr' fun version => not_congr parse?_eq_some

theorem Denotes.filled {text : List Char} (denotes : Denotes text version) : text ≠ [] := by
  cases denotes with
  | alone first =>
      obtain ⟨sign, digits, rfl, -, filled, -⟩ := first
      exact List.append_ne_nil_of_right_ne_nil sign filled
  | both first second => exact List.append_ne_nil_of_right_ne_nil _ (List.cons_ne_nil _ _)

/-! ### Reports -/

/-- What a report comes to. -/
inductive ComesTo : Option String → Except ClientError ApiVersion → Prop where
  | supported {text : String} {version : ApiVersion}
      (denotes : Denotes (trim text).toList version) (enough : 3 ≤ version.major) :
      ComesTo (some text) (.ok version)
  | outdated {text : String} {version : ApiVersion}
      (denotes : Denotes (trim text).toList version) (early : version.major < 3) :
      ComesTo (some text) (.error (.unsupportedVersion version 3))
  | missing : ComesTo none (.error (.unsupportedVersion ⟨2, 0⟩ 3))
  | blank {text : String} (blank : ∀ character ∈ text.toList, isBlank character = true) :
      ComesTo (some text) (.error (.unsupportedVersion ⟨2, 0⟩ 3))
  | invalid {text : String} (printed : ∃ character ∈ text.toList, isBlank character = false)
      (unversioned : ∀ version, ¬ Denotes (trim text).toList version) :
      ComesTo (some text) (.error (.invalidVersion text))

theorem ensureSupported_eq (version : ApiVersion) :
    version.ensureSupported =
      if 3 ≤ version.major then .ok version else .error (.unsupportedVersion version 3) := by
  rw [ensureSupported, isSupported]
  simp only [decide_eq_true_eq]
  rfl

theorem ofReport_blank (blank : isAllBlank text = true) :
    ofReport (some text) = .error (.unsupportedVersion ⟨2, 0⟩ 3) := by
  simp only [ofReport, blank, if_true]
  rfl

theorem ofReport_printed (printed : isAllBlank text = false) :
    ofReport (some text) =
      match parse? text with
      | some version => version.ensureSupported
      | none => .error (.invalidVersion text) := by
  simp only [ofReport, printed, Bool.false_eq_true, if_false, parse]
  cases parse? text <;> rfl

theorem Denotes.printed (denotes : Denotes (trim text).toList version) :
    isAllBlank text = false := by
  obtain ⟨first, rest, trimmed⟩ := List.exists_cons_of_ne_nil denotes.filled
  rw [trim, String.toList_ofList] at trimmed
  have member : first ∈ trimChars text.toList := trimmed ▸ List.mem_cons_self
  exact isAllBlank_eq_false.mpr
    ⟨first, mem_of_mem_trimChars member, head?_trimChars text.toList first (trimmed ▸ rfl)⟩

theorem comesTo_ofReport (latest : Option String) : ComesTo latest (ofReport latest) := by
  cases latest with
  | none => exact .missing
  | some text =>
      cases printed : isAllBlank text with
      | true =>
          rw [ofReport_blank printed]
          exact .blank (List.all_eq_true.mp printed)
      | false =>
          rw [ofReport_printed printed]
          cases read : parse? text with
          | none => exact .invalid (isAllBlank_eq_false.mp printed) (parse?_eq_none.mp read)
          | some version =>
              simp only [ensureSupported_eq]
              split
              next enough => exact .supported (parse?_eq_some.mp read) enough
              next early => exact .outdated (parse?_eq_some.mp read) (Nat.lt_of_not_le early)

theorem ComesTo.ofReport_eq {latest : Option String} {outcome : Except ClientError ApiVersion}
    (comes : ComesTo latest outcome) : ofReport latest = outcome := by
  cases comes with
  | supported denotes enough =>
      rw [ofReport_printed denotes.printed, parse?_eq_some.mpr denotes]
      exact (ensureSupported_eq _).trans (if_pos enough)
  | outdated denotes early =>
      rw [ofReport_printed denotes.printed, parse?_eq_some.mpr denotes]
      exact (ensureSupported_eq _).trans (if_neg (Nat.not_le_of_lt early))
  | missing => rfl
  | blank blank => exact ofReport_blank (List.all_eq_true.mpr blank)
  | invalid printed unversioned =>
      rw [ofReport_printed (isAllBlank_eq_false.mpr printed), parse?_eq_none.mpr unversioned]

theorem ofReport_eq_iff {latest : Option String} {outcome : Except ClientError ApiVersion} :
    ofReport latest = outcome ↔ ComesTo latest outcome := by
  constructor
  · rintro rfl
    exact comesTo_ofReport latest
  · exact ComesTo.ofReport_eq

/-- A report is settled by its form once it is trimmed: it gives the version that it denotes, if
that is supported, fails with that version or with version 2.0 if there is none to see, and is
invalid otherwise. -/
theorem ofReport_by_form (latest : Option String) :
    (∀ version, ofReport latest = .ok version ↔
      ∃ text, latest = some text ∧ Denotes (trim text).toList version ∧ 3 ≤ version.major) ∧
    (∀ version, ofReport latest = .error (.unsupportedVersion version 3) ↔
      (version = ⟨2, 0⟩ ∧ ∀ text, latest = some text →
        ∀ character ∈ text.toList, isBlank character = true) ∨
      ∃ text, latest = some text ∧ Denotes (trim text).toList version ∧ version.major < 3) ∧
    (∀ raw, ofReport latest = .error (.invalidVersion raw) ↔
      latest = some raw ∧ (∃ character ∈ raw.toList, isBlank character = false) ∧
        ∀ version, ¬ Denotes (trim raw).toList version) ∧
    ((∃ version, ofReport latest = .ok version) ∨
      (∃ version, ofReport latest = .error (.unsupportedVersion version 3)) ∨
      ∃ raw, ofReport latest = .error (.invalidVersion raw)) := by
  simp only [ofReport_eq_iff]
  refine ⟨fun version => ?_, fun version => ?_, fun raw => ?_, ?_⟩
  · constructor
    · intro comes
      cases comes with
      | supported denotes enough => exact ⟨_, rfl, denotes, enough⟩
    · rintro ⟨text, rfl, denotes, enough⟩
      exact .supported denotes enough
  · constructor
    · intro comes
      cases comes with
      | outdated denotes early => exact .inr ⟨_, rfl, denotes, early⟩
      | missing => exact .inl ⟨rfl, nofun⟩
      | blank blank => exact .inl ⟨rfl, fun text given => Option.some.inj given ▸ blank⟩
    · rintro (⟨rfl, blank⟩ | ⟨text, rfl, denotes, early⟩)
      · cases latest with
        | none => exact .missing
        | some text => exact .blank (blank text rfl)
      · exact .outdated denotes early
  · constructor
    · intro comes
      cases comes with
      | invalid printed unversioned => exact ⟨rfl, printed, unversioned⟩
    · rintro ⟨rfl, printed, unversioned⟩
      exact .invalid printed unversioned
  · have comes := comesTo_ofReport latest
    generalize ofReport latest = outcome at comes
    cases comes with
    | supported denotes enough => exact .inl ⟨_, .supported denotes enough⟩
    | outdated denotes early => exact .inr (.inl ⟨_, .outdated denotes early⟩)
    | missing => exact .inr (.inl ⟨_, .missing⟩)
    | blank blank => exact .inr (.inl ⟨_, .blank blank⟩)
    | invalid printed unversioned => exact .inr (.inr ⟨_, .invalid printed unversioned⟩)

end ApiVersion

end ClusterRest
