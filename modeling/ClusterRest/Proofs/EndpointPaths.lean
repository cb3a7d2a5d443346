import ClusterRest.LatestVersion
import ClusterRest.Proofs.RequestUrls
import ClusterRest.Proofs.ResolvedSettings

/-!
Paths under an endpoint. Main statement: the address that asks for the latest version lies right
under the path of the endpoint, just if nothing at the end of the endpoint keeps a path from going
on, and settings do not check this.
-/

namespace ClusterRest

namespace Url

open Text

/-! ### Segments that go on -/

theorem last_of_dot {segment : List Char}
    (dots : isDoubleDot segment = true ∨ isSingleDot segment = true) :
    ∀ character ∈ segment.getLast?, lowerAscii character = '.' ∨ lowerAscii character = 'e' := by
  intro character last
  have lowered : (segment.map lowerAscii).getLast? = some (lowerAscii character) := by
    rw [List.getLast?_map, Option.mem_def.mp last, Option.map_some]
  have all : ∀ word ∈ dotWords,
      word.toList.getLast? = some '.' ∨ word.toList.getLast? = some 'e' := by decide
  have ends := all _ (mem_dotWords.mpr dots)
  rwa [String.toList_ofList, lowered, Option.some.injEq, Option.some.injEq] at ends

/-- A segment that ends in a blank is no dot segment. -/
theorem addSegment_blank (names : List (List Char)) (segment : List Char) {blanks : List Char}
    (blank : IsBlank blanks) (filled : blanks ≠ []) (isLast : Bool) :
    addSegment .special names (segment ++ blanks) isLast =
      names ++ [percentEncode pathSet (segment ++ blanks)] := by
  have last : (segment ++ blanks).getLast? = some (blanks.getLast filled) := by
    rw [List.getLast?_append, List.getLast?_eq_some_getLast filled]
    rfl
  apply addSegment_undotted
  intro dots
  have small := toNat_le_of_blank (blank _ (List.getLast_mem filled))
  have all : ∀ code : Fin 33, lowerAscii (Char.ofNat code) ≠ '.' ∧
      lowerAscii (Char.ofNat code) ≠ 'e' := by decide
  have one := all ⟨_, Nat.lt_succ_of_le small⟩
  rw [Char.ofNat_toNat] at one
  rcases last_of_dot (mem_dotWords.mp dots) _ last with dot | letter
  · exact one.1 dot
  · exact one.2 letter

end Url

namespace Endpoint

open Url

theorem withSlash_plain {part : List Char} (plain : '/' ∉ part) (filled : part ≠ [])
    (text : List Char) : withSlash (text ++ part) = text ++ part ++ ['/'] := by
  have last : (text ++ part).getLast? = some (part.getLast filled) := by
    rw [List.getLast?_append, List.getLast?_eq_some_getLast filled]
    rfl
  have other : part.getLast filled ≠ '/' := fun slash => plain (slash ▸ List.getLast_mem filled)
  rw [withSlash, endsInSlash, last, if_neg (by simpa using other)]

/-- The last segment of a path is closed by a slash; an empty one is that slash. -/
theorem withSlash_addSegment (names : List (List Char)) {segment : List Char}
    (plain : '/' ∉ segment) :
    withSlash (pathText (addSegment .special names segment true)) =
      if segment = [] then pathText names ++ ['/']
      else pathText (addSegment .special names segment false) ++ ['/'] := by
  have added (names' : List (List Char)) :
      withSlash (pathText (names' ++ [[]])) = pathText (names' ++ []) ++ ['/'] := by
    rw [pathText_append, pathText_singleton, withSlash_slash, List.append_nil]
  rw [addSegment, addSegment]
  by_cases double : isDoubleDot segment = true
  · have filled : segment ≠ [] := by
      rintro rfl
      exact absurd double (by decide)
    rw [if_pos double, if_pos double, if_neg filled]
    exact added _
  by_cases single : isSingleDot segment = true
  · have filled : segment ≠ [] := by
      rintro rfl
      exact absurd single (by decide)
    rw [if_neg double, if_neg double, if_pos single, if_pos single, if_neg filled]
    exact added _
  rw [if_neg double, if_neg double, if_neg single, if_neg single]
  by_cases empty : segment = []
  · rw [if_pos empty, empty]
    exact (added names).trans (by rw [List.append_nil])
  · have encoded := slash_notMem_percentEncode plain pathSet
    have filled : percentEncode pathSet segment ≠ [] := fun nothing =>
      empty (percentEncode_eq_nil.mp nothing)
    have written : pathText (names ++ [percentEncode pathSet segment]) =
        (pathText names ++ ['/']) ++ percentEncode pathSet segment := by
      rw [pathText_append, pathText_singleton, List.append_assoc]
      rfl
    rw [if_neg empty]
    calc withSlash (pathText (names ++ [percentEncode pathSet segment]))
        = withSlash ((pathText names ++ ['/']) ++ percentEncode pathSet segment) := by rw [written]
      _ = pathText names ++ ['/'] ++ percentEncode pathSet segment ++ ['/'] :=
        withSlash_plain encoded filled _
      _ = pathText (names ++ [percentEncode pathSet segment]) ++ ['/'] := by rw [written]

/-- A segment adds at most itself to what is written of a path. -/
theorem length_addSegment_le (names : List (List Char)) (segment : List Char) :
    (pathText (addSegment .special names segment false)).length ≤
      (pathText names).length + (percentEncode pathSet segment).length + 1 := by
  have shorter := length_shorten_le names
  rw [addSegment]
  split
  · rw [if_neg Bool.false_ne_true, List.append_nil]
    omega
  split
  · rw [if_neg Bool.false_ne_true, List.append_nil]
    omega
  · rw [if_neg (by simp), pathText_append, pathText_singleton, List.length_append,
      List.length_cons]
    omega

/-- The segment before a path that goes on is the last one of the path, just if there is one and no
gap follows it. -/
theorem addSegment_goesOn (names : List (List Char)) {segment blanks : List Char}
    (plain : '/' ∉ segment) (blank : IsBlank blanks) :
    pathText (addSegment .special names (segment ++ blanks) false) ++ ['/'] =
        withSlash (pathText (addSegment .special names segment true)) ↔
      segment ≠ [] ∧ blanks = [] := by
  rw [withSlash_addSegment names plain]
  by_cases filled : blanks = []
  · subst filled
    rw [List.append_nil]
    by_cases empty : segment = []
    · refine iff_of_false (fun same => ?_) fun both => both.1 empty
      have alone : addSegment .special names [] false = names ++ [[]] := rfl
      rw [if_pos empty, empty, alone, pathText_append, pathText_singleton] at same
      have lengths := congrArg List.length same
      simp at lengths
    · rw [if_neg empty]
      exact iff_of_true rfl ⟨empty, rfl⟩
  · refine iff_of_false (fun same => ?_) fun both => filled both.2
    have lengths := congrArg List.length same
    have atMost := length_addSegment_le names segment
    have encoded : 0 < (percentEncode pathSet blanks).length :=
      List.length_pos_iff.mpr fun nothing => filled (percentEncode_eq_nil.mp nothing)
    rw [addSegment_blank names segment blank filled, pathText_append, pathText_singleton,
      percentEncode_append] at lengths
    split at lengths
    all_goals
      simp only [List.length_append, List.length_cons, List.length_nil] at lengths
      omega

/-! ### The address of the latest version -/

/-- What is added to an endpoint for the latest version, after a slash. -/
def latestChars : List Char := "platform/latest/".toList

/-- The slash after an endpoint that does not end in one. -/
def missingSlash (endpoint : List Char) : List Char := if endsInSlash endpoint then [] else ['/']

theorem withSlash_missing (endpoint : List Char) :
    withSlash endpoint = endpoint ++ missingSlash endpoint := by
  rw [withSlash, missingSlash]
  split
  · exact (List.append_nil endpoint).symm
  · rfl

theorem joinChars_latest (endpoint : List Char) :
    joinChars endpoint ApiVersion.latestPath.toList [] .empty =
      endpoint ++ (missingSlash endpoint ++ latestChars) := by
  have relative : dropSlash ApiVersion.latestPath.toList = "platform/latest".toList := by decide
  have plain : '/' ∉ "latest".toList := by decide
  have parts : "platform/latest".toList = "platform/".toList ++ "latest".toList := by decide
  have located : withSlash (withSlash endpoint ++ "platform/latest".toList) =
      withSlash endpoint ++ latestChars := by
    rw [parts, ← List.append_assoc, withSlash_plain plain (by decide), List.append_assoc,
      List.append_assoc]
    rfl
  calc joinChars endpoint ApiVersion.latestPath.toList [] .empty
      = withSlash (withSlash endpoint ++ dropSlash ApiVersion.latestPath.toList) ++ [] ++ [] := rfl
    _ = withSlash endpoint ++ latestChars := by
      rw [relative, located, List.append_nil, List.append_nil]
    _ = endpoint ++ (missingSlash endpoint ++ latestChars) := by
      rw [withSlash_missing, List.append_assoc]

theorem readSegments_latest (names : List (List Char)) :
    readSegments .special latestChars names [] =
      (names ++ ["platform".toList, "latest".toList, []], []) := by
  have each : readSegments .special latestChars names [] =
      (names ++ ["platform".toList] ++ ["latest".toList] ++ [[]], []) := by
    rfl
  rw [each, List.append_assoc, List.append_assoc]
  rfl

theorem pathText_latest (names : List (List Char)) :
    pathText (names ++ ["platform".toList, "latest".toList, []]) =
      pathText names ++ ['/'] ++ latestChars := by
  rw [pathText_append, List.append_assoc]
  rfl

/-- An address lies right under another one: its path goes on with some text after a slash, and it
has no query and no fragment. -/
structure LiesUnder (base joined : Url) (tail : List Char) : Prop where
  path : joined.path.toText.toList = withSlash base.path.toText.toList ++ tail
  query : joined.query = none
  fragment : joined.fragment = none

/-- Nothing at the end of an endpoint keeps its path from going on: it has no query and no
fragment, only tabs and line breaks after its last printed character, and if its path ends in an
empty segment, this is still so before them. -/
structure GoesOn (endpoint : List Char) : Prop where
  unmarked : IsUnmarked endpoint
  unblanked : ∀ character ∈ blankEnd endpoint, isTabOrNewline character = true
  slashed : (∃ character ∈ (clean endpoint).getLast?,
    SchemeKind.special.isSlash character = true) → endsInSlash endpoint = true

theorem goesOn_iff {endpoint : List Char} : GoesOn endpoint ↔
    endpoint.all (!isTailMark ·) = true ∧ (blankEnd endpoint).all isTabOrNewline = true ∧
      ((clean endpoint).getLast?.any SchemeKind.special.isSlash = true →
        endsInSlash endpoint = true) := by
  rw [List.all_eq_true, List.all_eq_true, Option.any_eq_true]
  simp only [Bool.not_eq_true']
  constructor
  · rintro ⟨unmarked, unblanked, slashed⟩
    exact ⟨unmarked, unblanked, slashed⟩
  · rintro ⟨unmarked, unblanked, slashed⟩
    exact ⟨unmarked, unblanked, slashed⟩

instance (endpoint : List Char) : Decidable (GoesOn endpoint) :=
  decidable_of_iff _ goesOn_iff.symm

section

variable {endpoint authority path : List Char} {scheme : String} {bare : Url}

theorem clean_latest (filled : clean endpoint ≠ []) :
    clean (endpoint ++ (missingSlash endpoint ++ latestChars)) =
      clean endpoint ++ (gap endpoint ++ (missingSlash endpoint ++ latestChars)) := by
  have solid : trimEnd (missingSlash endpoint ++ latestChars) =
      missingSlash endpoint ++ latestChars := by
    rw [missingSlash]
    split <;> decide
  have kept : (missingSlash endpoint ++ latestChars).filter (!isTabOrNewline ·) =
      missingSlash endpoint ++ latestChars := by
    rw [missingSlash]
    split <;> decide
  have nonempty : (missingSlash endpoint ++ latestChars).isEmpty = false := by
    rw [missingSlash]
    split <;> decide
  rw [clean_append filled, solid, nonempty, if_neg Bool.false_ne_true, kept]

/-- An address without a path. -/
theorem latest_of_authority (splits : Splits endpoint scheme authority [] bare) :
    (∃ joined, parseChars (endpoint ++ (missingSlash endpoint ++ latestChars)) = .ok joined ∧
      LiesUnder (bare.goOn []) joined latestChars) ↔ GoesOn endpoint := by
  have cleaned := clean_latest splits.clean_ne_nil
  have unslashed := splits.not_isSlash_getLast?
  have unended : endsInSlash endpoint = false := by
    apply Bool.eq_false_iff.mpr
    intro ends
    have last := getLast?_clean splits.clean_ne_nil (eq_of_beq ends)
    exact absurd (unslashed '/' last) (by decide)
  have missing : missingSlash endpoint = ['/'] := by
    rw [missingSlash, unended]
    rfl
  rw [missing] at cleaned ⊢
  have closes : Closes (['/'] ++ latestChars) := fun _ head => Option.mem_some.mp head ▸ rfl
  by_cases gapless : gap endpoint = []
  · rw [gapless, List.nil_append] at cleaned
    have path : (pathOfNames (readPathStart .special ('/' :: latestChars)).1).toText.toList =
        withSlash (pathOfNames (readPathStart .special []).1).toText.toList ++ latestChars := by
      decide
    refine iff_of_true ⟨_, splits.parseChars_goesOn closes cleaned, path, rfl, rfl⟩ ?_
    exact {
      unmarked := splits.isUnmarked.mpr fun _ member => nomatch member
      unblanked := gap_eq_nil.mp gapless
      slashed := fun ⟨character, last, slash⟩ => by
        rw [unslashed character last] at slash
        cases slash }
  · refine iff_of_false ?_ fun goesOn => gapless (gap_eq_nil.mpr goesOn.unblanked)
    rintro ⟨joined, parsed, _⟩
    obtain ⟨cause, refused⟩ := splits.error_of_gap (isBlank_gap endpoint) gapless closes cleaned
    rw [parsed] at refused
    cases refused

/-- An address with a query or a fragment. -/
theorem latest_of_marked (splits : Splits endpoint scheme authority path bare)
    (marked : ¬IsUnmarked path) :
    ¬∃ joined, parseChars (endpoint ++ (missingSlash endpoint ++ latestChars)) = .ok joined ∧
      LiesUnder (bare.goOn path) joined latestChars := by
  rintro ⟨joined, parsed, liesUnder⟩
  obtain ⟨front, mark, after, rfl, unmarked, isMark⟩ := exists_mark marked
  have cleaned := clean_latest splits.clean_ne_nil
  have closes := splits.closes
  rw [splits.parseChars_goesOn (closes_append closes (by simp) _) cleaned, List.append_assoc,
    List.cons_append] at parsed
  have longer : Closes (front ++ mark :: (after ++ (gap endpoint ++
      (missingSlash endpoint ++ latestChars)))) := by
    have whole := closes_append closes (by simp) (gap endpoint ++
      (missingSlash endpoint ++ latestChars))
    rwa [List.append_assoc, List.cons_append] at whole
  cases parsed
  rcases goOn_marked bare longer unmarked isMark with query | fragment
  · exact query liesUnder.query
  · exact fragment liesUnder.fragment

theorem liesUnder_goOn {path path' : List Char} {names names' : List (List Char)}
    (read : readPathStart .special path = (names, []))
    (read' : readPathStart .special path' =
      (names' ++ ["platform".toList, "latest".toList, []], [])) :
    LiesUnder (bare.goOn path) (bare.goOn path') latestChars ↔
      pathText names' ++ ['/'] = withSlash (pathText names) := by
  have written : (bare.goOn path).path.toText.toList = pathText names := by
    rw [goOn, read]
    exact toList_toText_pathOfNames names
  have written' : (bare.goOn path').path.toText.toList =
      pathText names' ++ ['/'] ++ latestChars := by
    rw [goOn, read', ← pathText_latest]
    exact toList_toText_pathOfNames _
  have bareEnd : (bare.goOn path').query = none ∧ (bare.goOn path').fragment = none := by
    rw [goOn, read']
    exact ⟨rfl, rfl⟩
  constructor
  · intro liesUnder
    have same := liesUnder.path
    rw [written, written'] at same
    exact List.append_cancel_right same
  · intro same
    exact ⟨by rw [written, written', same], bareEnd.1, bareEnd.2⟩

/-- An address with a path and nothing after it. -/
theorem latest_of_path {mark : Char} {rest : List Char}
    (splits : Splits endpoint scheme authority (mark :: rest) bare)
    (unmarked : IsUnmarked (mark :: rest)) :
    (∃ joined, parseChars (endpoint ++ (missingSlash endpoint ++ latestChars)) = .ok joined ∧
      LiesUnder (bare.goOn (mark :: rest)) joined latestChars) ↔ GoesOn endpoint := by
  have cleaned := clean_latest splits.clean_ne_nil
  have closes := closes_append splits.closes (List.cons_ne_nil mark rest)
  obtain ⟨names, segment, plain, ends, base, goesOn⟩ := splits.exists_segment unmarked
  have gapUnmarked : IsUnmarked (gap endpoint) := (isBlank_gap endpoint).isOpen.isUnmarked
  simp only [splits.parseChars_goesOn (closes _) cleaned, Except.ok.injEq, exists_eq_left']
  cases slashed : endsInSlash endpoint with
  | true =>
      have gapless : gap endpoint = [] := by
        rw [gap, blankEnd_of_slash (eq_of_beq slashed), List.filter_nil]
      have missing : missingSlash endpoint = [] := by
        rw [missingSlash, slashed]
        rfl
      obtain rfl : segment = [] := ends.mpr
        ⟨'/', getLast?_clean splits.clean_ne_nil (eq_of_beq slashed), by decide⟩
      have longer := (goesOn latestChars).trans (readSegments_latest names)
      rw [gapless, missing, List.nil_append, List.nil_append, liesUnder_goOn base longer,
        withSlash_addSegment names plain, if_pos rfl]
      exact iff_of_true rfl
        ⟨splits.isUnmarked.mpr unmarked, gap_eq_nil.mp gapless, fun _ => slashed⟩
  | false =>
      have missing : missingSlash endpoint = ['/'] := by
        rw [missingSlash, slashed]
        rfl
      have unslashed : ∀ character ∈ gap endpoint,
          SchemeKind.special.isSlash character = false :=
        fun character member => ((isBlank_gap endpoint).isOpen.not_isSlash character member)
      have read : readSegments .special (gap endpoint ++ (['/'] ++ latestChars)) names segment =
          (addSegment .special names (segment ++ gap endpoint) false ++
            ["platform".toList, "latest".toList, []], []) := by
        rw [readSegments_append gapUnmarked, advance_plain unslashed, List.singleton_append,
          readSegments_slash (by decide), readSegments_latest]
      rw [missing, liesUnder_goOn base ((goesOn _).trans read),
        addSegment_goesOn names plain (isBlank_gap endpoint)]
      constructor
      · rintro ⟨filled, gapless⟩
        exact ⟨splits.isUnmarked.mpr unmarked, gap_eq_nil.mp gapless, fun last =>
          absurd (ends.mpr last) filled⟩
      · intro goesOn
        refine ⟨fun empty => ?_, gap_eq_nil.mpr goesOn.unblanked⟩
        have ended := goesOn.slashed (ends.mp empty)
        rw [slashed] at ended
        cases ended

/-- The address of the latest version lies under an endpoint just if the endpoint goes on. -/
theorem latest_iff {base : Url} (ok : parseChars endpoint = .ok base) (web : IsWeb base.scheme) :
    (∃ joined, parseChars (endpoint ++ (missingSlash endpoint ++ latestChars)) = .ok joined ∧
      LiesUnder base joined latestChars) ↔ GoesOn endpoint := by
  obtain ⟨authority, path, bare, splits, rfl⟩ := exists_splits ok web
  by_cases unmarked : IsUnmarked path
  · cases path with
    | nil => exact latest_of_authority splits
    | cons mark rest => exact latest_of_path splits unmarked
  · refine iff_of_false (latest_of_marked splits unmarked) fun goesOn => ?_
    exact unmarked (splits.isUnmarked.mp goesOn.unmarked)

end

/-- The endpoint of settings is an address. If it is one of the web, the latest version is asked for
right under it, just if it goes on. -/
theorem latest_of_resolve {profile : Profile} {name : String} {defaults : Defaults} {host : Host}
    {warnings : List Warning} {client : ClientConfig}
    (resolved : outcomeOf (profile.resolve name defaults host) warnings = .ok client) :
    ∃ base, Url.parse client.endpoint = .ok base ∧
      (IsWeb base.scheme →
        ((∃ joined, url client.endpoint ApiVersion.latestPath "" .empty = .ok joined ∧
          LiesUnder base joined "platform/latest/".toList) ↔
        GoesOn client.endpoint.toList)) := by
  rw [Profile.outcomeOf_resolve] at resolved
  have gives := Profile.settings_eq_ok.mp resolved
  obtain ⟨base, ok⟩ := (Profile.checkEndpoint_eq_ok.mp gives.address).2
  refine ⟨base, ok, fun web => ?_⟩
  simp only [url_eq_ok, String.toList_empty, joinChars_latest]
  exact latest_iff ok web

def profileAt (endpoint : String) : Profile := { Profile.ofEndpoint endpoint with
  username := some "admin"
  password := some "plain" }

def bareHost : Host where
  environment := []
  keyring _ := none

def localUrl (path : List String) : Url where
  scheme := "https"
  username := ""
  password := none
  host := some (.ipv6 [0, 0, 0, 0, 0, 0, 0, 1])
  port := some 8080
  path := .segments path
  query := none
  fragment := none

/-- An endpoint with dot segments, an empty segment and a line break at its end. -/
def nestedEndpoint : String := "https://[::1]:8080/lab/..//x%2E\n"

theorem latest_of_resolve_nested :
    outcomeOf ((profileAt nestedEndpoint).resolve "lab" .standard bareHost) [] =
        .ok (.new nestedEndpoint "admin" "plain") ∧
      ∃ joined, url nestedEndpoint ApiVersion.latestPath "" .empty = .ok joined ∧
        LiesUnder (localUrl ["", "x%2E"]) joined "platform/latest/".toList := by
  have resolved : outcomeOf ((profileAt nestedEndpoint).resolve "lab" .standard bareHost) [] =
      .ok (.new nestedEndpoint "admin" "plain") := by
    rfl
  have parsed : Url.parse nestedEndpoint = .ok (localUrl ["", "x%2E"]) := by rfl
  obtain ⟨base, ok, goesOn⟩ := latest_of_resolve resolved
  cases parsed.symm.trans ok
  exact ⟨resolved, (goesOn (.inr rfl)).mpr (by decide)⟩

/-- An endpoint with a space at its end. -/
def spacedEndpoint : String := "https://[::1]:8080 "

/-- Settings take an endpoint for which no address of the latest version can be written. -/
theorem resolve_gives_spaced :
    outcomeOf ((profileAt spacedEndpoint).resolve "lab" .standard bareHost) [] =
        .ok (.new spacedEndpoint "admin" "plain") ∧
      Url.parse spacedEndpoint = .ok (localUrl [""]) ∧
      url spacedEndpoint ApiVersion.latestPath "" .empty =
        .error (.invalidUrl "https://[::1]:8080 /platform/latest/" .invalidPort) :=
  ⟨rfl, rfl, rfl⟩

end Endpoint

end ClusterRest
