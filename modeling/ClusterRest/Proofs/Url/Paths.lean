import ClusterRest.Proofs.Utf8
import ClusterRest.Url.Parser
import Mathlib.Data.List.Basic

/-!
Paths of URLs: the segments that a text adds to a path one after the other, and what the path is
written as.
-/

namespace ClusterRest.Url

open Text

/-- A text in which no query and no fragment begins. -/
def IsUnmarked (text : List Char) : Prop := ∀ character ∈ text, isTailMark character = false

instance (text : List Char) : Decidable (IsUnmarked text) :=
  List.decidableBAll (isTailMark · = false) text

/-- The names of a path and the segment after them, once a text is read in which no path ends. -/
def advance (kind : SchemeKind) :
    List Char → (names : List (List Char)) → (segment : List Char) → List (List Char) × List Char
  | [], names, segment => (names, segment)
  | character :: rest, names, segment =>
    if kind.isSlash character then advance kind rest (addSegment kind names segment false) []
    else advance kind rest names (segment ++ [character])

/-! ### Reading on -/

section

variable {kind : SchemeKind} {text : List Char}

theorem readSegments_append (unmarked : IsUnmarked text) (tail : List Char)
    (names : List (List Char)) (segment : List Char) :
    readSegments kind (text ++ tail) names segment =
      readSegments kind tail (advance kind text names segment).1
        (advance kind text names segment).2 := by
  induction text generalizing names segment with
  | nil => rfl
  | cons character rest ih =>
      have mark : ¬(character = '?' || character = '#') = true := by
        rw [← isTailMark, unmarked character List.mem_cons_self]
        exact Bool.false_ne_true
      have others : IsUnmarked rest := fun other member =>
        unmarked other (List.mem_cons_of_mem _ member)
      rw [List.cons_append, readSegments, advance, if_neg mark]
      split
      · exact ih others _ _
      · exact ih others _ _

theorem readSegments_eq (unmarked : IsUnmarked text) (names : List (List Char))
    (segment : List Char) :
    readSegments kind text names segment =
      (addSegment kind (advance kind text names segment).1
        (advance kind text names segment).2 true, []) := by
  calc readSegments kind text names segment
      = readSegments kind (text ++ []) names segment := by rw [List.append_nil]
    _ = readSegments kind [] (advance kind text names segment).1
        (advance kind text names segment).2 := readSegments_append unmarked [] names segment
    _ = _ := rfl

/-- A query or a fragment ends a path, whatever follows. -/
theorem readSegments_marked {mark : Char} (isMark : isTailMark mark = true)
    (names : List (List Char)) (segment rest : List Char) :
    readSegments kind (mark :: rest) names segment =
      (addSegment kind names segment true, mark :: rest) := by
  rw [readSegments, ← isTailMark, if_pos isMark]

theorem readSegments_slash {mark : Char} (slash : kind.isSlash mark = true)
    (names : List (List Char)) (segment rest : List Char) :
    readSegments kind (mark :: rest) names segment =
      readSegments kind rest (addSegment kind names segment false) [] := by
  have unmarked : ¬(mark = '?' || mark = '#') = true := by
    intro isMark
    simp only [Bool.or_eq_true, decide_eq_true_eq] at isMark
    rcases isMark with rfl | rfl <;> cases kind <;> cases slash
  rw [readSegments, if_neg unmarked, if_pos slash]

theorem advance_append (front back : List Char) (names : List (List Char)) (segment : List Char) :
    advance kind (front ++ back) names segment =
      advance kind back (advance kind front names segment).1
        (advance kind front names segment).2 := by
  induction front generalizing names segment with
  | nil => rfl
  | cons character rest ih =>
      rw [List.cons_append, advance, advance]
      split
      · exact ih _ _
      · exact ih _ _

theorem advance_plain (plain : ∀ character ∈ text, kind.isSlash character = false)
    (names : List (List Char)) (segment : List Char) :
    advance kind text names segment = (names, segment ++ text) := by
  induction text generalizing segment with
  | nil => rw [advance, List.append_nil]
  | cons character rest ih =>
      rw [advance, plain character List.mem_cons_self, if_neg Bool.false_ne_true,
        ih fun other member => plain other (List.mem_cons_of_mem _ member), List.append_assoc]
      rfl

/-- No slash is within the segment that is read last. -/
theorem not_isSlash_of_mem_advance (text : List Char) (names : List (List Char))
    {segment : List Char} (plain : ∀ character ∈ segment, kind.isSlash character = false) :
    ∀ character ∈ (advance kind text names segment).2, kind.isSlash character = false := by
  induction text generalizing names segment with
  | nil => exact plain
  | cons first rest ih =>
      rw [advance]
      split
      next slash => exact ih _ fun _ member => nomatch member
      next other =>
        apply ih
        intro character member
        rcases List.mem_append.mp member with member | member
        · exact plain character member
        · rw [List.mem_singleton.mp member]
          exact Bool.eq_false_iff.mpr other

/-- The segment that is read last is empty after a slash, and nowhere else. -/
theorem advance_snd_eq_nil (text : List Char) (names : List (List Char)) :
    (advance kind text names []).2 = [] ↔
      ∀ character ∈ text.getLast?, kind.isSlash character = true := by
  rcases List.eq_nil_or_concat text with rfl | ⟨front, last, rfl⟩
  · exact iff_of_true rfl fun _ head => nomatch head
  · rw [List.concat_eq_append, advance_append, List.getLast?_concat]
    simp only [Option.mem_some_iff, forall_eq', advance]
    split
    next slash => exact iff_of_true rfl slash
    next other => exact iff_of_false (by simp) other

end

/-! ### Segments as they are written -/

theorem percentEncode_append (set : EncodeSet) (first second : List Char) :
    percentEncode set (first ++ second) =
      percentEncode set first ++ percentEncode set second := by
  rw [percentEncode, Bytes.ofChars, List.flatMap_append, List.flatMap_append]
  rfl

/-- Characters of ASCII that need no escape are written as they are. -/
theorem percentEncode_eq_self {set : EncodeSet} {text : List Char}
    (kept : ∀ character ∈ text,
      character.toNat < 0x80 ∧ set (.ofNat character.toNat) = false) :
    percentEncode set text = text := by
  induction text with
  | nil => rfl
  | cons character rest ih =>
      obtain ⟨ascii, plain⟩ := kept character List.mem_cons_self
      have others : percentEncode set rest = rest := by
        apply ih
        intro other member
        exact kept other (List.mem_cons_of_mem _ member)
      have alone : percentEncode set [character] = [character] := by
        rw [percentEncode, Bytes.ofChars_cons_ascii ascii, Bytes.ofChars_nil,
          List.flatMap_singleton, encodeByte, plain, if_neg Bool.false_ne_true,
          Bytes.ofNat_toNat_ofNat ascii]
      calc percentEncode set (character :: rest)
          = percentEncode set [character] ++ percentEncode set rest :=
            percentEncode_append set [character] rest
        _ = character :: rest := by rw [alone, others, List.singleton_append]

theorem percentEncode_eq_nil {set : EncodeSet} {text : List Char} :
    percentEncode set text = [] ↔ text = [] := by
  constructor
  · intro nothing
    cases text with
    | nil => rfl
    | cons character rest =>
        obtain ⟨byte, bytes, encoded⟩ := Bytes.encode_eq_cons character
        rw [percentEncode, Bytes.ofChars_cons, encoded, List.cons_append, List.flatMap_cons,
          List.append_eq_nil_iff, encodeByte] at nothing
        split at nothing <;> cases nothing.1
  · rintro rfl
    rfl

/-- A slash that is written stands for a slash. -/
theorem slash_notMem_percentEncode {text : List Char} (plain : '/' ∉ text) (set : EncodeSet) :
    '/' ∉ percentEncode set text := by
  intro member
  obtain ⟨byte, written, encoded⟩ := List.mem_flatMap.mp member
  have escapes : ∀ code : Fin 256, '/' ∉ encodedByte (.ofNat code) := by decide +kernel
  have itself : ∀ code : Fin 256, '/' = Char.ofNat code → code = 0x2F := by decide +kernel
  rw [encodeByte] at encoded
  split at encoded
  next => exact absurd (by simpa using encoded) (escapes ⟨byte.toNat, byte.toNat_lt⟩)
  next =>
    have slash := itself ⟨byte.toNat, byte.toNat_lt⟩ (List.mem_singleton.mp encoded)
    have code : byte = 0x2F := UInt8.toNat_inj.mp (congrArg Fin.val slash)
    subst code
    have read := Bytes.mem_toStringLossy (by decide) written
    rw [Bytes.toStringLossy_ofChars, String.toList_ofList] at read
    exact plain read

/-- The spellings of dot segments. -/
def dotWords : List String := ["..", "%2e.", ".%2e", "%2e%2e", ".", "%2e"]

theorem mem_dotWords {segment : List Char} :
    String.ofList (segment.map lowerAscii) ∈ dotWords ↔
      isDoubleDot segment = true ∨ isSingleDot segment = true := by
  simp [isDoubleDot, isSingleDot, dotWords, or_assoc]

theorem addSegment_undotted {segment : List Char}
    (undotted : String.ofList (segment.map lowerAscii) ∉ dotWords) (names : List (List Char))
    (isLast : Bool) :
    addSegment .special names segment isLast = names ++ [percentEncode pathSet segment] := by
  rw [mem_dotWords, not_or] at undotted
  rw [addSegment, if_neg undotted.1, if_neg undotted.2]
  rfl

/-- The characters that a path is written as. -/
def pathText (names : List (List Char)) : List Char := names.flatMap ('/' :: ·)

theorem toList_toText_pathOfNames (names : List (List Char)) :
    (pathOfNames names).toText.toList = pathText names := by
  rw [pathOfNames, Path.toText, String.toList_join, List.flatMap_map, List.flatMap_map]
  refine congrArg (List.flatMap · names) (funext fun segment => ?_)
  exact String.toList_append.trans (congrArg ('/' :: ·) String.toList_ofList)

theorem pathText_append (first second : List (List Char)) :
    pathText (first ++ second) = pathText first ++ pathText second :=
  List.flatMap_append

theorem pathText_singleton (segment : List Char) : pathText [segment] = '/' :: segment :=
  List.flatMap_singleton ..

theorem shorten_special (names : List (List Char)) : shorten .special names = names.dropLast := by
  rw [shorten.eq_def]
  split
  · rfl
  · rfl

theorem length_shorten_le (names : List (List Char)) :
    (pathText (shorten .special names)).length ≤ (pathText names).length := by
  rw [shorten_special]
  rcases List.eq_nil_or_concat names with rfl | ⟨front, last, rfl⟩
  · exact Nat.le_refl _
  · rw [List.concat_eq_append, List.dropLast_concat, pathText_append, List.length_append]
    exact Nat.le_add_right _ _

end ClusterRest.Url
