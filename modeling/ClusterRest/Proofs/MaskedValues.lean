import Mathlib.Data.List.Forall2
import ClusterRest.Proofs.Redaction

/-!
What masking does to a value, place by place. Main statement: wherever no secret member is on the
way, a masked value is what the value was; every secret member there holds the mask; and two values
are masked alike just if they differ in nothing but their secret members. A dump tells as little of
secret headers.
-/

namespace ClusterRest

namespace Json

open Dump

/-! ### Places in a value -/

/-- A step down into a value: to an element of a list, or to a member of an object. -/
inductive Step where
  | element (position : Nat)
  | member (position : Nat) (name : String)
  deriving DecidableEq, Repr

/-- The steps from a value down to a part of it. -/
abbrev Place := List Step

def Step.isSecret : Step → Bool
  | .element _ => false
  | .member _ name => Text.sameIgnoringCase name "password"

/-- No secret member is on the way. -/
def Place.IsShown (place : Place) : Prop := ∀ step ∈ place, step.isSecret = false

/-- What a value is without the values that it holds. -/
inductive Face where
  | null
  | bool (truth : Bool)
  | number (numeral : Number)
  | string (text : String)
  | array (length : Nat)
  | object (names : List String)
  deriving DecidableEq, Repr

namespace Value

def face : Value → Face
  | .null => .null
  | .bool truth => .bool truth
  | .number numeral => .number numeral
  | .string text => .string text
  | .array elements => .array elements.length
  | .object members => .object (members.map (·.1))

/-- The part of a value one step down. -/
def part? : Value → Step → Option Value
  | .array elements, .element position => elements[position]?
  | .object members, .member position name =>
    members[position]?.bind fun named => if named.1 = name then some named.2 else none
  | _, _ => none

def at? (value : Value) (place : Place) : Option Value := place.foldlM part? value

def faceAt? (value : Value) (place : Place) : Option Face := (value.at? place).map face

@[simp] theorem at?_nil (value : Value) : value.at? [] = some value := rfl

theorem at?_cons (value : Value) (step : Step) (place : Place) :
    value.at? (step :: place) = (value.part? step).bind (·.at? place) := rfl

theorem at?_concat (value : Value) (place : Place) (step : Step) :
    value.at? (place ++ [step]) = (value.at? place).bind (·.part? step) := by
  induction place generalizing value with
  | nil =>
      rw [List.nil_append, at?_cons, at?_nil, Option.bind_some]
      exact Option.bind_fun_some _
  | cons first rest ih =>
      rw [List.cons_append, at?_cons, at?_cons, Option.bind_assoc]
      exact congrArg (Option.bind _) (funext ih)

theorem faceAt?_cons (value : Value) (step : Step) (place : Place) :
    value.faceAt? (step :: place) = (value.part? step).bind (·.faceAt? place) := by
  rw [faceAt?, at?_cons, Option.map_bind]
  rfl

/-- A list that looks like another value is a list of the same length. -/
theorem eq_array_of_face {value : Value} {length : Nat} (same : value.face = .array length) :
    ∃ elements, value = .array elements ∧ elements.length = length := by
  cases value with
  | array elements => exact ⟨elements, rfl, Face.array.inj same⟩
  | null | bool | number | string | object => cases same

theorem eq_object_of_face {value : Value} {names : List String} (same : value.face = .object names) :
    ∃ members, value = .object members ∧ members.map (·.1) = names := by
  cases value with
  | object members => exact ⟨members, rfl, Face.object.inj same⟩
  | null | bool | number | string | array => cases same

end Value

/-! ### Masking, one step and many -/

/-- What masking makes of a part one step down. -/
def maskedPart : Step → Value → Value
  | .element _, part => redactValue part
  | .member _ name, part => redactNamed name part

theorem maskedPart_shown {step : Step} (shown : step.isSecret = false) :
    maskedPart step = redactValue := by
  funext part
  cases step with
  | element position => rfl
  | member position name =>
      have plain : ¬ isSecretMember name = true := by
        rw [isSecretMember, Bool.not_eq_true]
        exact shown
      rw [maskedPart, redactNamed, if_neg plain]

theorem maskedPart_secret {step : Step} (secret : step.isSecret = true) :
    maskedPart step = fun _ => .string "******" := by
  funext part
  cases step with
  | element position => cases secret
  | member position name =>
      have hidden : isSecretMember name = true := secret
      rw [maskedPart, redactNamed, if_pos hidden, mask]

theorem face_redactValue (value : Value) : (redactValue value).face = value.face := by
  cases value with
  | array elements =>
      rw [redactValue, redactElements_eq, Value.face, Value.face, List.length_map]
  | object members =>
      rw [redactValue, redactMembers_eq, Value.face, Value.face, List.map_map]
      rfl
  | null | bool | number | string => rfl

theorem part?_redactValue (value : Value) (step : Step) :
    (redactValue value).part? step = (value.part? step).map (maskedPart step) := by
  cases value with
  | array elements =>
      rw [redactValue, redactElements_eq]
      cases step with
      | element position => exact List.getElem?_map
      | member position name => rfl
  | object members =>
      rw [redactValue, redactMembers_eq]
      cases step with
      | element position => rfl
      | member position name =>
          rw [Value.part?, Value.part?, List.getElem?_map]
          cases members[position]? with
          | none => rfl
          | some named =>
              simp only [Option.map_some, Option.bind_some]
              split
              next same => rw [← same, Option.map_some, maskedPart]
              next => rfl
  | null | bool | number | string => cases step <;> rfl

theorem at?_redactValue {place : Place} (shown : place.IsShown) (value : Value) :
    (redactValue value).at? place = (value.at? place).map redactValue := by
  induction place generalizing value with
  | nil => rfl
  | cons step rest ih =>
      have shownRest : Place.IsShown rest := fun other member =>
        shown other (List.mem_cons_of_mem step member)
      rw [Value.at?_cons, Value.at?_cons, part?_redactValue,
        maskedPart_shown (shown step List.mem_cons_self)]
      cases value.part? step with
      | none => rfl
      | some part => exact ih shownRest part

/-- What a masked value is to be: the value itself at every shown place, and the mask in the place
of every secret member there. -/
structure Masks (value masked : Value) : Prop where
  kept : ∀ place : Place, place.IsShown → masked.faceAt? place = value.faceAt? place
  hidden : ∀ (place : Place) (step : Step), place.IsShown → step.isSecret = true →
    masked.at? (place ++ [step]) = (value.at? (place ++ [step])).map fun _ => .string "******"

theorem masks_redactValue (value : Value) : Masks value (redactValue value) := by
  constructor
  case kept =>
    intro place shown
    rw [Value.faceAt?, Value.faceAt?, at?_redactValue shown, Option.map_map]
    exact congrArg (Option.map · _) (funext face_redactValue)
  case hidden =>
    intro place step shown secret
    rw [Value.at?_concat, Value.at?_concat, at?_redactValue shown]
    cases value.at? place with
    | none => rfl
    | some part =>
        rw [Option.map_some, Option.bind_some, Option.bind_some, part?_redactValue,
          maskedPart_secret secret]

/-! ### Values that are masked alike -/

/-- Values that are the same at every shown place. -/
def SameWhereShown (first second : Value) : Prop :=
  ∀ place : Place, place.IsShown → first.faceAt? place = second.faceAt? place

namespace SameWhereShown

variable {first second : Value}

theorem face_eq (same : SameWhereShown first second) : first.face = second.face := by
  have whole := same [] fun _ member => nomatch member
  exact Option.some.inj whole

/-- So are the parts one step down, unless the step is to a secret member. -/
theorem part (same : SameWhereShown first second) (step : Step) (shown : step.isSecret = false)
    {one other : Value} (held : first.part? step = some one)
    (held' : second.part? step = some other) : SameWhereShown one other := by
  intro place shownPlace
  have longer := same (step :: place) (List.forall_mem_cons.mpr ⟨shown, shownPlace⟩)
  rwa [Value.faceAt?_cons, Value.faceAt?_cons, held, held', Option.bind_some,
    Option.bind_some] at longer

end SameWhereShown

/-- A member that is no secret is masked alike if its values are. -/
theorem redactNamed_congr {name : String} {one other : Value}
    (agree : isSecretMember name = false → redactValue one = redactValue other) :
    redactNamed name one = redactNamed name other := by
  rw [redactNamed, redactNamed]
  cases secret : isSecretMember name with
  | true => rfl
  | false => exact agree secret

theorem redactValue_congr {first second : Value} (same : SameWhereShown first second) :
    redactValue first = redactValue second := by
  induction first generalizing second with
  | null | bool | number | string =>
      have face := same.face_eq
      cases second <;> cases face
      rfl
  | array elements ih =>
      obtain ⟨others, rfl, length⟩ := Value.eq_array_of_face same.face_eq.symm
      rw [redactValue, redactValue, redactElements_eq, redactElements_eq]
      congr 1
      apply List.ext_getElem (by rw [List.length_map, List.length_map, length])
      intro position inside inside'
      rw [List.getElem_map, List.getElem_map]
      rw [List.length_map] at inside inside'
      apply ih _ (List.getElem_mem inside)
      apply same.part (.element position) rfl
      · exact List.getElem?_eq_getElem inside
      · exact List.getElem?_eq_getElem inside'
  | object members ih =>
      obtain ⟨others, rfl, names⟩ := Value.eq_object_of_face same.face_eq.symm
      have length : others.length = members.length := by
        have lengths := congrArg List.length names
        rwa [List.length_map, List.length_map] at lengths
      rw [redactValue, redactValue, redactMembers_eq, redactMembers_eq]
      congr 1
      apply List.ext_getElem (by rw [List.length_map, List.length_map, length])
      intro position inside inside'
      rw [List.getElem_map, List.getElem_map]
      rw [List.length_map] at inside inside'
      have name : others[position].1 = members[position].1 := by
        have at_position := congrArg (·[position]?) names
        simpa [inside, inside'] using at_position
      change (members[position].1, redactNamed members[position].1 members[position].2) =
        (others[position].1, redactNamed others[position].1 others[position].2)
      rw [name]
      apply congrArg (Prod.mk members[position].1)
      apply redactNamed_congr
      intro shown
      apply ih _ (List.getElem_mem inside)
      apply same.part (.member position members[position].1) shown
      · simp [Value.part?, inside]
      · simp [Value.part?, inside', name]

/-- Two values are masked alike just if they are the same at every shown place. -/
theorem redactValue_eq_iff {first second : Value} :
    redactValue first = redactValue second ↔ SameWhereShown first second := by
  constructor
  · intro same place shown
    calc first.faceAt? place
        = (redactValue first).faceAt? place :=
          ((masks_redactValue first).kept place shown).symm
      _ = (redactValue second).faceAt? place := by rw [same]
      _ = second.faceAt? place := (masks_redactValue second).kept place shown
  · exact redactValue_congr

/-- A masked value is masked already. -/
theorem redactValue_redactValue (value : Value) :
    redactValue (redactValue value) = redactValue value :=
  redactValue_eq_iff.mpr (masks_redactValue value).kept

end Json

namespace Dump

open Json Http

/-! ### Dumps -/

/-- Headers with the same entries in the same order, but for values under secret names. -/
def SameButSecrets (first second : Headers) : Prop :=
  List.Forall₂ (fun one other => one.1 = other.1 ∧ (one.1 ∈ secretHeaders ∨ one.2 = other.2))
    first.toList second.toList

theorem isSecretHeader_of_mem {name : String} (secret : name ∈ secretHeaders) :
    isSecretHeader name = true := by
  have same : Text.sameIgnoringCase name name = true := beq_self_eq_true _
  exact List.any_eq_true.mpr ⟨name, secret, same⟩

theorem headerLines_of_sameButSecrets {first second : Headers}
    (same : SameButSecrets first second) : headerLines first = headerLines second := by
  rw [headerLines, headerLines]
  apply congrArg String.join
  rw [SameButSecrets] at same
  generalize first.toList = entries, second.toList = entries' at same ⊢
  induction same with
  | nil => rfl
  | @cons entry entry' rest rest' alike _ ih =>
      obtain ⟨name, value⟩ := entry
      obtain ⟨name', value'⟩ := entry'
      rw [List.map_cons, List.map_cons, ih]
      apply congrArg (· :: _)
      obtain ⟨rfl, secret | rfl⟩ := alike
      · have hidden := isSecretHeader_of_mem secret
        simp only [headerLine, if_pos hidden]
      · rfl

/-- Masking hides the secret members of a value, at any depth, and nothing else; it changes nothing
more when it is done again, and values that differ only in secret members become equal. A dump does
not depend on the values of secret headers; at low verbosity it is its first line, and at medium
verbosity it does not depend on the body. -/
theorem masks_exactly :
    (∀ value, Masks value (redactValue value) ∧
      redactValue (redactValue value) = redactValue value) ∧
    (∀ first second, redactValue first = redactValue second ↔ SameWhereShown first second) ∧
    (∀ firstLine verbosity headers headers' body, SameButSecrets headers headers' →
      render firstLine verbosity headers body = render firstLine verbosity headers' body) ∧
    (∀ firstLine headers body, render firstLine .low headers body = firstLine) ∧
    (∀ firstLine headers body body',
      render firstLine .medium headers body = render firstLine .medium headers body') := by
  refine ⟨?_, ?_, ?_, ?_, ?_⟩
  · intro value
    exact ⟨masks_redactValue value, redactValue_redactValue value⟩
  · intro first second
    exact redactValue_eq_iff
  · intro firstLine verbosity headers headers' body same
    rw [render, render, headerLines_of_sameButSecrets same]
  · intro firstLine headers body
    simp [render, Verbosity.showsHeaders, Verbosity.showsBody]
  · intro firstLine headers body body'
    simp [render, Verbosity.showsBody]

/-- The masked member of a user in a list, and two cookies that are dumped alike. -/
theorem masks_exactly_in_users :
    let users := fun secret => Value.object [("users", .array [
      .object [("name", .string "root"), ("PassWord", secret)]])]
    let user : Place := [.member 0 "users", .element 0]
    let cookie := fun token => Headers.ofList [("accept", [42]), ("cookie", [token])]
    (redactValue (users .null)).at? (user ++ [.member 1 "PassWord"]) = some (.string "******") ∧
      (redactValue (users .null)).faceAt? (user ++ [.member 0 "name"]) =
        some (.string "root") ∧
      SameWhereShown (users .null) (users (.array [.bool true])) ∧
      render "" .high (cookie 65) none = render "" .high (cookie 66) none := by
  intro users user cookie
  have onWay : ∀ step ∈ user ++ [.member 0 "name"], step.isSecret = false := by
    simp only [user, List.cons_append, List.nil_append, List.forall_mem_cons, Step.isSecret,
      Text.sameIgnoringCase, Text.asciiLower_eq]
    decide
  have secret : (Step.member 1 "PassWord").isSecret = true := by
    rw [Step.isSecret, Text.sameIgnoringCase, Text.asciiLower_eq, Text.asciiLower_eq]
    decide
  have shown : user.IsShown := fun step member => onWay step (List.mem_append_left _ member)
  have masked (value : Value) := (masks_exactly.1 (users value)).1
  refine ⟨?_, ?_, ?_, ?_⟩
  · exact (masked .null).hidden user _ shown secret
  · exact (masked .null).kept _ onWay
  · apply (masks_exactly.2.1 _ _).mp
    have hidden : isSecretMember "PassWord" = true := secret
    simp only [users, redactValue, redactElements, redactMembers, hidden, if_true]
  · apply masks_exactly.2.2.1
    exact .cons ⟨rfl, .inr rfl⟩ (.cons ⟨rfl, .inl (by decide)⟩ .nil)

end Dump

end ClusterRest
