import ClusterRest.Proofs.LoadedLayers
import ClusterRest.Proofs.Text
import ClusterRest.Proofs.Toml.Values
import Mathlib.Data.List.TakeWhile

/-!
Variables for the texts of a profile. The reader of variables guesses the type of a text before the
profile is read, so that a text that looks like a truth value or a number is refused, and the whole
configuration with it.

Main statement: `Config.load_textVariable`.
-/

namespace ClusterRest

open Config Decoder
open Setting (overlaid mergeInto membersOfToml ofToml)

/-- The fields of a profile that are texts. -/
inductive TextField where
  | endpoint
  | username
  | password
  | group
  | minTlsVersion
  | maxTlsVersion
  | timeout
  | volumesPath
  | volumesPathPermissions
  deriving DecidableEq, Repr

namespace TextField

def name : TextField → String
  | endpoint => "endpoint"
  | username => "username"
  | password => "password"
  | group => "group"
  | minTlsVersion => "min_tls_version"
  | maxTlsVersion => "max_tls_version"
  | timeout => "timeout"
  | volumesPath => "volumes_path"
  | volumesPathPermissions => "volumes_path_permissions"

/-- The profile with another text in a field. -/
def set (text : String) (profile : Profile) : TextField → Profile
  | endpoint => { profile with endpoint := text }
  | username => { profile with username := text }
  | password => { profile with password := text }
  | group => { profile with group := text }
  | minTlsVersion => { profile with minTlsVersion := text }
  | maxTlsVersion => { profile with maxTlsVersion := text }
  | timeout => { profile with timeout := text }
  | volumesPath => { profile with volumesPath := text }
  | volumesPathPermissions => { profile with volumesPathPermissions := text }

/-- The name of the variable for a field of a profile. -/
def variableName (field : TextField) (profile : String) : String :=
  Variables.settingPrefix ++ "PROFILES__" ++ Text.asciiUpper profile ++ "__"
    ++ Text.asciiUpper field.name

end TextField

/-! ### The path that the name of a variable gives -/

namespace Variables

open Text

def IsLower (name : String) : Prop :=
  ∀ character ∈ name.toList, 'a' ≤ character ∧ character ≤ 'z'

instance (name : String) : Decidable (IsLower name) :=
  List.decidableBAll (fun character => 'a' ≤ character ∧ character ≤ 'z') name.toList

theorem upperAscii_of_lower {character : Char} (lower : 'a' ≤ character ∧ character ≤ 'z') :
    lowerAscii (upperAscii character) = character ∧ upperAscii character ≠ '_' := by
  have letters : ∀ code ∈ List.range' 97 26,
      lowerAscii (upperAscii (Char.ofNat code)) = Char.ofNat code ∧
        upperAscii (Char.ofNat code) ≠ '_' := by decide
  have first : 97 ≤ character.toNat := lower.1
  have last : character.toNat ≤ 122 := lower.2
  rw [← Char.ofNat_toNat character]
  exact letters character.toNat (List.mem_range'_1.mpr ⟨first, by omega⟩)

theorem dotted_append {word : List Char} (unmarked : '_' ∉ word) (rest : List Char) :
    dotted (word ++ '_' :: '_' :: rest) = word ++ '.' :: dotted rest := by
  induction word with
  | nil => rw [List.nil_append, List.nil_append, dotted]
  | cons character word ih =>
      obtain ⟨different, unmarked⟩ := not_or.mp (List.mem_cons.not.mp unmarked)
      rw [List.cons_append, dotted, ih unmarked, List.cons_append]
      rintro rest rfl
      exact absurd rfl different

/-- A text that starts and ends in characters that are not blank has nothing to trim. -/
theorem trim_ofList {text : List Char} {first last : Char} (starts : text.head? = some first)
    (ends : text.getLast? = some last) (marks : isBlank first = false ∧ isBlank last = false) :
    trim (.ofList text) = .ofList text := by
  rw [trim, String.toList_ofList, trimChars_eq_self]
  · rw [starts]
    rintro _ ⟨⟩
    exact marks.1
  · rw [ends]
    rintro _ ⟨⟩
    exact marks.2

theorem afterPrefix?_append (rest : List Char) :
    afterPrefix? (.ofList (settingPrefix.toList ++ rest)) = some (.ofList rest) := by
  rw [afterPrefix?, String.toList_ofList, ← String.length_toList, List.take_left, List.drop_left,
    String.ofList_toList]
  exact if_pos (beq_self_eq_true _)

section

variable (field : TextField)

/-- The characters of a field in the name of a variable. -/
def fieldChars : List Char := (asciiUpper field.name).toList

theorem getLast?_fieldChars :
    ∃ last, (fieldChars field).getLast? = some last ∧ isBlank last = false := by
  have some : (fieldChars field).getLast?.any (!isBlank ·) = true := by
    cases field <;> decide +kernel
  obtain ⟨last, ends, stop⟩ := (Option.any_eq_true _ _).mp some
  exact ⟨last, ends, by simpa using stop⟩

theorem dotted_fieldChars : dotted (fieldChars field) = fieldChars field := by
  cases field <;> decide +kernel

theorem lower_fieldChars : (fieldChars field).map lowerAscii = field.name.toList := by
  cases field <;> decide +kernel

theorem unmarked_fieldName : '.' ∉ field.name.toList := by
  cases field <;> decide +kernel

variable {name : String}

theorem path?_variableName (lower : IsLower name) (filled : name ≠ "") :
    path? (field.variableName name) = some [profilesName, name, field.name] := by
  let upper := name.toList.map upperAscii
  obtain ⟨last, ends, stop⟩ := getLast?_fieldChars field
  have letters (character : Char) (member : character ∈ name.toList) :=
    upperAscii_of_lower (lower character member)
  have unmarked : '_' ∉ upper := fun member => by
    obtain ⟨character, listed, same⟩ := List.mem_map.mp member
    exact (letters character listed).2 same
  have lowered : upper.map lowerAscii = name.toList := by
    rw [List.map_map]
    exact (List.map_congr_left fun character member => (letters character member).1).trans
      (List.map_id' _)
  have undotted : '.' ∉ name.toList := fun member => absurd (lower '.' member).1 (by decide)
  let named := "PROFILES".toList ++ '_' :: '_' :: (upper ++ '_' :: '_' :: fieldChars field)
  have whole : field.variableName name = .ofList (settingPrefix.toList ++ named) := by
    rw [← String.toList_inj]
    simp [TextField.variableName, settingPrefix, named, fieldChars, upper, asciiUpper]
  have ends' : named.getLast? = some last := by
    simp [named, List.getLast?_append, List.getLast?_cons, ends]
  have trimmed : trim (field.variableName name) = field.variableName name := by
    rw [whole]
    refine trim_ofList (rfl : _ = some 'O') ?_ ⟨by decide, stop⟩
    rw [List.getLast?_append, ends']
    rfl
  have trimmed' : trim (.ofList named) = .ofList named :=
    trim_ofList (rfl : _ = some 'P') ends' ⟨by decide, stop⟩
  have pieces_eq : piecesOf '.' ((dotted named).map lowerAscii) =
      ["profiles".toList, name.toList, field.name.toList] := by
    rw [dotted_append (by decide), dotted_append unmarked, dotted_fieldChars]
    simp only [List.map_append, List.map_cons, lowered, lower_fieldChars]
    rw [show lowerAscii '.' = '.' by decide, piecesOf_append, piecesOf_append undotted,
      piecesOf_unmarked (unmarked_fieldName field)]
    · rfl
    · decide
  rw [path?, trimmed, whole, afterPrefix?_append]
  simp only [Option.bind_eq_bind, Option.bind_some, trimmed', String.toList_ofList, asciiLower_eq,
    pieces, pieces_eq, List.map_cons, List.map_nil, String.ofList_toList]
  have named' : name.isEmpty = false := by simpa using filled
  have fieldNamed : field.name.isEmpty = false := by cases field <;> rfl
  refine if_neg ?_
  simp [named', fieldNamed]

end

/-! ### The setting that a text without quotes gives -/

/-- A text without blanks around it, and without the marks of quotes, lists and tables. -/
structure IsPlain (text : String) : Prop where
  filled : text ≠ ""
  trimmed : trim text = text
  unmarked : ∀ character ∈ text.toList,
    isSeparator character = false ∧ character ≠ '"' ∧ character ≠ '\''

instance (text : String) : Decidable (IsPlain text) :=
  have := List.decidableBAll
    (fun character => isSeparator character = false ∧ character ≠ '"' ∧ character ≠ '\'')
    text.toList
  decidable_of_iff (text ≠ "" ∧ trim text = text ∧ ∀ character ∈ text.toList,
      isSeparator character = false ∧ character ≠ '"' ∧ character ≠ '\'')
    ⟨fun ⟨filled, trimmed, unmarked⟩ => ⟨filled, trimmed, unmarked⟩,
      fun plain => ⟨plain.filled, plain.trimmed, plain.unmarked⟩⟩

/-- What a text is taken for instead of a text: a truth value or a number. -/
def guess? (text : String) : Option Scalar :=
  if text = "true" then some (.boolean true)
  else if text = "false" then some (.boolean false)
  else number? text.toList

theorem isBlank_of_isGap {character : Char} (gap : isGap character = true) :
    isBlank character = true := by
  have gaps : ∀ character ∈ " \t\n\x0c\r".toList, isBlank character = true :=
    List.all_eq_true.mp (by decide)
  exact gaps character (List.contains_iff_mem.mp gap)

theorem run_skipGap (text : List Char) :
    skipGap.run text = some ((), text.dropWhile isGap) := by
  have taken := Toml.run_takeAll isGap text
  have skip_eq : skipGap = Reader.takeAll isGap >>= fun _ => pure () := rfl
  simp [skip_eq, taken]

theorem dropWhile_isGap {text : List Char}
    (starts : ∀ character ∈ text.head?, isBlank character = false) :
    text.dropWhile isGap = text := by
  cases text with
  | nil => rfl
  | cons character rest =>
      refine List.dropWhile_cons_of_neg fun gap => ?_
      have blank := isBlank_of_isGap gap
      rw [starts character rfl] at blank
      cases blank

theorem run_value_word {depth : Nat} {text : List Char}
    (starts : ∀ character ∈ text.head?, isBlank character = false)
    (unmarked : ∀ character ∈ text,
      isSeparator character = false ∧ character ≠ '"' ∧ character ≠ '\'')
    (untrue : ¬ "true".toList <+: text) (unfalse : ¬ "false".toList <+: text) :
    (value (depth + 1)).run text = some (scalar (wordValue text), []) := by
  have taken := Toml.run_takeAll (!isSeparator ·) text
  have all : ∀ character ∈ text, (!isSeparator character) = true := fun character member => by
    rw [(unmarked character member).1]
    rfl
  rw [value]
  simp only [StateT.run_bind, run_skipGap, dropWhile_isGap starts, Option.bind_eq_bind,
    Option.bind_some, StateT.run_get, Option.pure_def]
  split
  next => exact absurd (List.prefix_append _ _) untrue
  next => exact absurd (List.prefix_append _ _) unfalse
  next => exact absurd (unmarked _ List.mem_cons_self).1 (by decide)
  next => exact absurd (unmarked _ List.mem_cons_self).1 (by decide)
  next => exact absurd rfl (unmarked _ List.mem_cons_self).2.1
  next => exact absurd rfl (unmarked _ List.mem_cons_self).2.2
  next =>
    have ends : ∀ character ∈ ([] : List Char).head?, (!isSeparator character) = false := nofun
    obtain ⟨whole, rest⟩ := Text.takeWhile_append_stops all ends
    rw [List.append_nil] at whole rest
    simp [taken, whole, rest, run_skipGap]

section

open Decimal

variable {first : Char}

/-- A number starts with a sign, a digit or a point, or else it has a name. -/
theorem ofNumeral?_undigit (undigit : isDigit first = false) (pointless : first ≠ '.')
    (unmarked : Extended.isExponentMark first = false) (isNegative : Bool) (rest : List Char) :
    Extended.ofNumeral? isNegative (first :: rest) = none := by
  have mantissa : (first :: rest).takeWhile (!Extended.isExponentMark ·) =
      first :: rest.takeWhile (!Extended.isExponentMark ·) :=
    List.takeWhile_cons_of_pos (by simp [unmarked])
  have whole (text : List Char) :
      (first :: text).takeWhile (· ≠ '.') = first :: text.takeWhile (· ≠ '.') :=
    List.takeWhile_cons_of_pos (by simp [pointless])
  unfold Extended.ofNumeral?
  simp only [mantissa, whole, List.cons_append, List.all_cons, undigit]
  split <;> simp

theorem parse?_letter (letter : first = 't' ∨ first = 'f') (rest : List Char) :
    Extended.parse? (first :: rest) = none := by
  have cut : Extended.cutSign (first :: rest) = (false, first :: rest) := by
    rcases letter with rfl | rfl <;> rfl
  have numeral : Extended.ofNumeral? false (first :: rest) = none := by
    rcases letter with rfl | rfl <;>
      exact ofNumeral?_undigit (by decide) (by decide) (by decide) false rest
  have unnamed (name : String)
      (other : name.toList.head? = some 'i' ∨ name.toList.head? = some 'n') :
      asciiLower (.ofList (first :: rest)) ≠ name := by
    rintro rfl
    rw [asciiLower_eq, String.toList_ofList, String.toList_ofList] at other
    rcases letter with rfl | rfl <;> simp [lowerAscii] at other
  have inf := beq_eq_false_iff_ne.mpr (unnamed "inf" (.inl (by decide)))
  have infinity := beq_eq_false_iff_ne.mpr (unnamed "infinity" (.inl (by decide)))
  have infinite :
      Extended.infinityNames.contains (asciiLower (.ofList (first :: rest))) = false := by
    simp only [Extended.infinityNames, List.contains_cons, List.contains_nil, inf, infinity,
      Bool.or_self]
  unfold Extended.parse?
  simp only [cut, numeral, infinite, Bool.false_eq_true, if_false]
  exact if_neg (unnamed _ (.inr (by decide)))

theorem number?_letter (letter : first = 't' ∨ first = 'f') (rest : List Char) :
    number? (first :: rest) = none := by
  have bounded (limit : Nat) : boundedNat? limit (first :: rest) = none := by
    rcases letter with rfl | rfl <;> simp [boundedNat?, isDigit]
  simp only [number?, parse?_letter letter, bounded, ite_self]
  rcases letter with rfl | rfl <;> rfl

end

/-- A truth value is taken off the front of a text, also where the text goes on. -/
theorem run_value_boolean (depth : Nat) (truth : Bool) (rest : List Char) :
    (value (depth + 1)).run ((toString truth).toList ++ rest) =
      some (scalar (.boolean truth), rest.dropWhile isGap) := by
  have unled : ((toString truth).toList ++ rest).dropWhile isGap =
      (toString truth).toList ++ rest := by
    cases truth <;> exact List.dropWhile_cons_of_neg (by decide)
  rw [value]
  simp only [StateT.run_bind, run_skipGap, unled, Option.bind_eq_bind, Option.bind_some,
    StateT.run_get, Option.pure_def]
  cases truth with
  | false => simp [show toString false = "false" from rfl, run_skipGap]
  | true => simp [show toString true = "true" from rfl, run_skipGap]

theorem settingOf_boolean (truth : Bool) :
    settingOf (toString truth) = scalar (.boolean truth) := by
  have read := run_value_boolean (toString truth).length truth []
  rw [List.append_nil] at read
  rw [settingOf, read]
  rfl

/-- A text that goes on after a truth value stands for itself. -/
theorem settingOf_longer {text : String} {truth : Bool} {rest : List Char}
    (longer : text.toList = (toString truth).toList ++ rest) (filled : rest ≠ [])
    (stops : ∀ character ∈ text.toList.getLast?, isBlank character = false) :
    settingOf text = scalar (.text text) := by
  have left : rest.dropWhile isGap ≠ [] := by
    intro none
    have gap : isGap (rest.getLast filled) = true :=
      List.dropWhile_eq_nil_iff.mp none _ (List.getLast_mem filled)
    have last : rest.getLast filled ∈ text.toList.getLast? := by
      rw [longer, List.getLast?_append, List.getLast?_eq_some_getLast filled]
      rfl
    have blank := isBlank_of_isGap gap
    rw [stops _ last] at blank
    cases blank
  rw [settingOf, longer, run_value_boolean]
  cases more : rest.dropWhile isGap with
  | nil => exact absurd more left
  | cons character others => rfl

theorem guess?_longer {text : String} {truth : Bool} {rest : List Char}
    (longer : text.toList = (toString truth).toList ++ rest) (filled : rest ≠ []) :
    guess? text = none := by
  obtain ⟨character, others, rfl⟩ := List.exists_cons_of_ne_nil filled
  have other (word : Bool) : text ≠ toString word := by
    have word_eq (truth : Bool) : toString truth = if truth then "true" else "false" := by
      cases truth <;> rfl
    rw [← String.toList_inj.ne, longer, word_eq, word_eq]
    cases truth <;> cases word <;> simp
  rw [guess?, if_neg (show text ≠ "true" from other true),
    if_neg (show text ≠ "false" from other false), longer]
  cases truth with
  | false => exact number?_letter (.inr rfl) _
  | true => exact number?_letter (.inl rfl) _

theorem settingOf_plain {text : String} (plain : IsPlain text) :
    settingOf text = scalar ((guess? text).getD (.text text)) := by
  have trimmed : trimChars text.toList = text.toList := by
    rw [← String.toList_ofList (l := trimChars text.toList), ← trim, plain.trimmed]
  have starts := head?_trimChars text.toList
  have stops := getLast?_trimChars text.toList
  rw [trimmed] at starts stops
  by_cases isTruth : ∃ truth : Bool, (toString truth).toList <+: text.toList
  · obtain ⟨truth, rest, longer⟩ := isTruth
    by_cases filled : rest = []
    · have text_eq : text = toString truth := by
        rw [← String.toList_inj, ← longer, filled, List.append_nil]
      have guessed : guess? (toString truth) = some (.boolean truth) := by cases truth <;> rfl
      rw [text_eq, guessed, settingOf_boolean]
      rfl
    · rw [settingOf_longer longer.symm filled stops, guess?_longer longer.symm filled]
      rfl
  · rw [not_exists, Bool.forall_bool] at isTruth
    have untrue : text ≠ "true" := by
      rintro rfl
      exact isTruth.2 (List.prefix_refl _)
    have unfalse : text ≠ "false" := by
      rintro rfl
      exact isTruth.1 (List.prefix_refl _)
    have guessed : guess? text = number? text.toList := by
      rw [guess?, if_neg untrue, if_neg unfalse]
    rw [settingOf, run_value_word starts plain.unmarked isTruth.2 isTruth.1, guessed]
    simp only [wordValue, trimmed, String.ofList_toList]

end Variables

/-! ### Tables with a variable for a text over them -/

namespace Profile

variable {members : Settings} {endpoint : Option String} {profile : Profile}

theorem Reads.set (reads : Reads members endpoint profile) (field : TextField) (origin : Origin)
    (text : String) :
    Reads (members.put field.name (.scalar origin (.text text)))
      (if field = .endpoint then some text else endpoint) (field.set text profile) := by
  have given : member Decoder.text field.name
      (members.put field.name (.scalar origin (.text text))) = .ok (some text) :=
    (member_put _ _ _ _ _).trans (if_pos rfl)
  have kept {α : Type} (decode : Decoder α) {name : String} (other : name ≠ field.name) :
      member decode name (members.put field.name (.scalar origin (.text text))) =
        member decode name members := (member_put _ _ _ _ _).trans (if_neg other)
  cases reads
  cases field <;> constructor <;>
    first
    | exact given
    | refine (kept _ (by decide)).trans ?_
      assumption

/-- A field that is no text is refused, since all fields before it are read. -/
theorem Reads.ofTable_refused (reads : Reads members endpoint profile) (field : TextField)
    (origin origin' : Origin) {scalar : Scalar} (untext : ∀ text, scalar ≠ .text text) :
    ofTable origin' (members.put field.name (.scalar origin scalar)) =
      .error ⟨origin, [field.name], .wrongType scalar.described "a string"⟩ := by
  have refused : member Decoder.text field.name (members.put field.name (.scalar origin scalar)) =
      .error ⟨origin, [field.name], .wrongType scalar.described "a string"⟩ := by
    refine (member_put _ _ _ _ _).trans ((if_pos rfl).trans ?_)
    cases scalar with
    | text text => exact absurd rfl (untext text)
    | boolean | signed | unsigned | float => rfl
  have kept {α : Type} (decode : Decoder α) {name : String} (other : name ≠ field.name) :
      member decode name (members.put field.name (.scalar origin scalar)) =
        member decode name members := (member_put _ _ _ _ _).trans (if_neg other)
  cases reads
  cases field <;> simp only [TextField.name] at refused kept ⊢ <;>
    simp only [ofTable, endpointName, bind, Except.bind, ne_eq, String.reduceEq,
      not_false_eq_true, *]

theorem exists_reads {setting : Setting} (decoded : decode setting = .ok profile) :
    ∃ endpoint draft, Reads setting.members endpoint draft := by
  cases setting with
  | scalar origin value => cases decoded
  | list origin elements => exact ⟨none, _, reads_nil ""⟩
  | table origin members => exact ⟨_, _, ofTable_eq_ok.mp decoded⟩

end Profile

namespace Variables

theorem number?_untext {word : List Char} {scalar : Scalar} (found : number? word = some scalar)
    (text : String) : scalar ≠ .text text := by
  rintro rfl
  unfold number? at found
  split at found
  · cases found
  · split at found
    · cases found
    · split at found
      · cases found
      · obtain ⟨value, _, negated⟩ := Option.map_eq_some_iff.mp found
        cases negated
    · cases found

theorem guess?_untext {text : String} {scalar : Scalar} (guessed : guess? text = some scalar)
    (other : String) : scalar ≠ .text other := by
  rw [guess?] at guessed
  split at guessed
  · cases guessed
    nofun
  · split at guessed
    · cases guessed
      nofun
    · exact number?_untext guessed other

end Variables

/-! ### Files with a variable for a text over them -/

namespace Config

/-- The setting that a file gives for a profile. -/
def fileProfile? (files : Files) (path : String) (name : String) : Option Setting :=
  (fileSettings files path).toOption.bind (profileSetting? name)

/-- The configuration with another profile under a name that it has. -/
def putProfile (config : Config) (name : String) (profile : Profile) : Config :=
  { config with profiles := Profile.putAt name profile config.profiles }

variable {files : Files} {path : String} {settings : Settings} {config : Config}

theorem fileProfile?_of_listed {environment : Variables} {name : String} {profile : Profile}
    (loaded : load files path environment = .ok config) (unset : environment.settings = [])
    (listed : config.find? name = some profile) : ∃ given,
      fileProfile? files path name = some given ∧
        Profile.decode (overlaid none given) = .ok profile := by
  obtain ⟨settings, read, whole⟩ := load_eq_ok.mp loaded
  rw [unset] at whole
  obtain ⟨origin, members, _, _, decoded, held⟩ :=
    exists_profilesTable read Settings.sorted_nil nofun whole
  have found := Profile.lookup_decodeAll decoded name
  have fileProfile_eq : fileProfile? files path name = profileSetting? name settings := by
    rw [fileProfile?, read]
    rfl
  rw [find?] at listed
  rw [listed, held] at found
  rw [fileProfile_eq]
  cases given : profileSetting? name settings with
  | none =>
      rw [given] at found
      cases found
  | some setting =>
      rw [given] at found
      exact ⟨setting, rfl, Option.some.inj found⟩

/-- A configuration with a setting over that of one of its profiles. -/
theorem load_profileSetting {environment environment' : Variables} {name : String}
    {setting given : Setting} (loaded : load files path environment = .ok config)
    (unset : environment.settings = [])
    (set : environment'.settings = [(profilesName, Setting.nest .environment setting [name])])
    (listed : fileProfile? files path name = some given) :
    load files path environment' =
      match Profile.decode (overlaid (some (overlaid none given)) setting) with
      | .ok profile => .ok (config.putProfile name profile)
      | .error misfit => .error (.unfit path ((misfit.under name).under profilesName)) := by
  obtain ⟨settings, read, whole⟩ := load_eq_ok.mp loaded
  rw [unset] at whole
  obtain ⟨origin, members, found, sorted, decoded, held⟩ :=
    exists_profilesTable read Settings.sorted_nil nofun whole
  have given_eq : profileSetting? name settings = some given := by
    rw [← listed, fileProfile?, read]
    rfl
  have found' : members.find? name = some (overlaid none given) := by
    rw [held, given_eq]
    rfl
  have member : name ∈ namesOf members := by
    by_contra absent
    rw [Settings.find?, lookup_eq_none absent] at found'
    cases found'
  have laidOver : layered [standardSettings, settings, environment'.settings] =
      (layered [standardSettings, settings, []]).put profilesName
        (.table .environment
          (members.put name (overlaid (some (overlaid none given)) setting))) := by
    rw [layered_eq settings [], mergeInto] at found ⊢
    rw [layered_eq, set, mergeInto, mergeInto, found, Setting.overlaid_nest]
    simp only [Option.map_some, Option.getD_some, Setting.members, found', Setting.nest]
  rw [load, read]
  simp only [bind, Except.bind, laidOver]
  rw [ofSettings_put_profiles whole, Profile.decodeTable,
    Profile.decodeAll_put sorted decoded member]
  cases Profile.decode (overlaid (some (overlaid none given)) setting) <;> rfl

/-- A variable for a text of a profile. A text that looks like a truth value or a number is refused,
and no configuration is loaded. Else it stands in its field, and all else is as without the
variable, unless the file gives the profile as a list: the variable stands in its place then, so
that it has nothing but this text. -/
theorem load_textVariable {front back : Variables} {profile : Profile} {name text : String}
    {field : TextField} (lacks : (front ++ back).LacksPrefix)
    (loaded : load files path (front ++ back) = .ok config)
    (listed : config.find? name = some profile) (lower : Variables.IsLower name)
    (filled : name ≠ "") (plain : Variables.IsPlain text) :
    load files path (front ++ (field.variableName name, text) :: back) =
      match Variables.guess? text, fileProfile? files path name with
      | some scalar, _ => .error (.unfit path ⟨.environment, [profilesName, name, field.name],
          .wrongType scalar.described "a string"⟩)
      | none, some (.list _ _) =>
        if field = .endpoint then .ok (config.putProfile name (.ofEndpoint text))
        else .error (.unfit path ⟨.environment, [profilesName, name],
          .missingField Profile.endpointName⟩)
      | none, _ => .ok (config.putProfile name (field.set text profile)) := by
  have unset := Variables.settings_of_lacksPrefix lacks
  obtain ⟨given, held, decoded⟩ := fileProfile?_of_listed loaded unset listed
  let value := (Variables.guess? text).getD (.text text)
  have set : (front ++ (field.variableName name, text) :: back : Variables).settings =
      [(profilesName, Setting.nest .environment
        (Setting.nest .environment (.scalar .environment value) [field.name]) [name])] := by
    rw [Variables.settings_of_single lacks, Variables.setOver,
      Variables.path?_variableName field lower filled]
    simp only [Variables.settingOf_plain plain, Variables.scalar, mergeInto, Settings.find?,
      List.lookup_nil]
    rw [Setting.overlaid_none_nest]
    rfl
  have laid : Profile.decode (overlaid (some (overlaid none given))
      (Setting.nest .environment (.scalar .environment value) [field.name])) =
      Profile.ofTable .environment
        ((overlaid none given).members.put field.name (.scalar .environment value)) := by
    rw [Setting.overlaid_nest, Profile.decode]
    rfl
  rw [load_profileSetting loaded unset set held, held, laid]
  cases guessed : Variables.guess? text with
  | some scalar =>
      obtain ⟨_, _, reads⟩ := Profile.exists_reads decoded
      have value_eq : value = scalar := by simp only [value, guessed, Option.getD_some]
      rw [value_eq, reads.ofTable_refused field _ _ (Variables.guess?_untext guessed)]
      rfl
  | none =>
      have value_eq : value = .text text := by simp only [value, guessed, Option.getD_none]
      rw [value_eq]
      cases given with
      | scalar origin scalar => cases decoded
      | table origin members =>
          have reads : Profile.Reads (overlaid none (.table origin members)).members _ profile :=
            Profile.ofTable_eq_ok.mp decoded
          rw [(reads.set field .environment text).ofTable_eq]
          cases field <;> rfl
      | list origin elements =>
          have reads := (Profile.reads_nil text).set field .environment text
          rw [overlaid, Setting.members, reads.ofTable_eq]
          by_cases atEndpoint : field = .endpoint
          · subst atEndpoint
            rfl
          · simp only [if_neg atEndpoint]
            rfl

/-- A file with one profile, which names its cluster and nothing else. -/
def labFiles : Files :=
  Files.empty.write "config.toml"
    (Bytes.ofString "[profiles.lab]\nendpoint = \"https://[::1]:8080\"\n")

def labConfig : Config := { standard with profiles := [("lab", .ofEndpoint "https://[::1]:8080")] }

theorem load_textVariable_group :
    load labFiles "config.toml"
        ([("HOME", "/root")] ++ (TextField.group.variableName "lab", "storage") :: []) =
      .ok { standard with profiles := [("lab",
        { Profile.ofEndpoint "https://[::1]:8080" with group := "storage" })] } := by
  have loaded : load labFiles "config.toml" ([("HOME", "/root")] ++ []) = .ok labConfig := by
    decide +kernel
  have listed : labConfig.find? "lab" = some (.ofEndpoint "https://[::1]:8080") := rfl
  have plain : Variables.IsPlain "storage" := by decide +kernel
  have lower : Variables.IsLower "lab" := by decide +kernel
  exact (load_textVariable (by decide +kernel) loaded listed lower (by decide) plain).trans
    (by decide +kernel)

/-- A version that is asked for as it is documented is taken for a number: nothing is loaded of a
file that is in order without the variable, or else the standard configuration. -/
theorem load_versionVariable_refused :
    load labFiles "config.toml" [] = .ok labConfig ∧ Variables.IsPlain "1.3" ∧
      load labFiles "config.toml" [(TextField.minTlsVersion.variableName "lab", "1.3")] =
        .error (.unfit "config.toml" ⟨.environment, ["profiles", "lab", "min_tls_version"],
          .wrongType "float \x601.3\x60" "a string"⟩) ∧
      loadOrStandard labFiles "config.toml"
        [(TextField.minTlsVersion.variableName "lab", "1.3")] = .standard :=
  ⟨by decide +kernel, by decide +kernel, by decide +kernel, by decide +kernel⟩

end Config

end ClusterRest
