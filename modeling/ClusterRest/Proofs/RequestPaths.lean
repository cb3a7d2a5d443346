import ClusterRest.Proofs.QueryEncoding
import ClusterRest.Proofs.RequestUrls

/-!
What follows the endpoint in the URL of a request. Main statements: an identifier of plain
characters is the last segment of the path and the encoded parameters are the query, both just as
they were given; and slashes at the ends of the endpoint and of the path make no difference.
-/

namespace ClusterRest

namespace Url

open Text

/-! ### Characters that stay as they are -/

/-- Characters that every part of a URL keeps: letters and digits of ASCII, and four marks. -/
def isUnreserved (character : Char) : Bool :=
  isAsciiAlphanumeric character || "-._~".toList.contains character

theorem ascii_of_unreserved {character : Char} (unreserved : isUnreserved character = true) :
    character.toNat < 0x80 := by
  rw [isUnreserved, Bool.or_eq_true] at unreserved
  rcases unreserved with alphanumeric | mark
  · exact ascii_of_alphanumeric alphanumeric
  · have marks : "-._~".toList.all (·.toNat < 0x80) = true := by decide
    exact of_decide_eq_true (List.all_eq_true.mp marks character (List.contains_iff_mem.mp mark))

theorem unreserved_cases {character : Char} (unreserved : isUnreserved character = true) :
    pathSet (.ofNat character.toNat) = false ∧
      SchemeKind.special.isSlash character = false ∧ isTailMark character = false ∧
      isControlOrSpace character = false ∧ lowerAscii character ≠ '%' ∧
      (lowerAscii character = '.' → character = '.') := by
  have ascii := ascii_of_unreserved unreserved
  revert unreserved
  apply forall_ascii _ ascii
  decide +kernel

theorem query_cases {character : Char} (inQuery : Form.isQuery character = true) :
    character.toNat < 0x80 ∧ specialQuerySet (.ofNat character.toNat) = false ∧
      isFragmentMark character = false ∧ isControlOrSpace character = false := by
  have ascii : character.toNat < 0x80 := by
    simp only [Form.isQuery, Form.isEncoded, Bool.or_eq_true, decide_eq_true_eq] at inQuery
    rcases inQuery with ((alphanumeric | mark) | rfl) | rfl
    · exact ascii_of_alphanumeric alphanumeric
    · have marks : "*-._+%".toList.all (·.toNat < 0x80) = true := by decide
      exact of_decide_eq_true
        (List.all_eq_true.mp marks character (List.contains_iff_mem.mp mark))
    · decide
    · decide
  refine ⟨ascii, ?_⟩
  revert inQuery
  apply forall_ascii _ ascii
  decide +kernel

/-- A dot segment of plain characters is one dot or two. -/
theorem undotted_of_unreserved {segment : List Char}
    (plain : ∀ character ∈ segment, isUnreserved character = true)
    (undotted : segment ≠ ['.'] ∧ segment ≠ ['.', '.']) :
    String.ofList (segment.map lowerAscii) ∉ dotWords := by
  intro spelled
  have words : ∀ word ∈ dotWords,
      '%' ∈ word.toList ∨ word.toList = ['.'] ∨ word.toList = ['.', '.'] := by decide
  have lowered := words _ spelled
  rw [String.toList_ofList] at lowered
  have dots (count : Nat) (same : segment.map lowerAscii = List.replicate count '.') :
      segment = List.replicate count '.' := by
    have length := congrArg List.length same
    rw [List.length_map, List.length_replicate] at length
    rw [← length, List.map_eq_replicate_iff] at same
    rw [← length, List.eq_replicate_iff]
    refine ⟨rfl, ?_⟩
    intro character member
    exact (unreserved_cases (plain character member)).2.2.2.2.2 (same character member)
  rcases lowered with percent | one | two
  · obtain ⟨character, member, same⟩ := List.mem_map.mp percent
    exact (unreserved_cases (plain character member)).2.2.2.2.1 same
  · exact undotted.1 (dots 1 one)
  · exact undotted.2 (dots 2 two)

/-! ### The end of an address -/

theorem IsUnmarked.append {first second : List Char} (left : IsUnmarked first)
    (right : IsUnmarked second) : IsUnmarked (first ++ second) := by
  intro character member
  rcases List.mem_append.mp member with member | member
  · exact left character member
  · exact right character member

theorem trimEnd_solid {text : List Char}
    (solid : ∀ character ∈ text, isControlOrSpace character = false) : trimEnd text = text := by
  have parts := trimEnd_append_blankEnd text
  have nothing : blankEnd text = [] := by
    apply List.eq_nil_iff_forall_not_mem.mpr
    intro character member
    have blank := isBlank_blankEnd text character member
    have part : character ∈ text := parts ▸ List.mem_append_right _ member
    rw [solid character part] at blank
    cases blank
  rwa [nothing, List.append_nil] at parts

theorem filter_solid {text : List Char}
    (solid : ∀ character ∈ text, isControlOrSpace character = false) :
    text.filter (!isTabOrNewline ·) = text := by
  rw [List.filter_eq_self]
  intro character member
  rw [Bool.not_eq_true', ← Bool.not_eq_true]
  intro mark
  have blank : isControlOrSpace character = true := by
    simp only [isTabOrNewline, Bool.or_eq_true, decide_eq_true_eq] at mark
    rcases mark with (rfl | rfl) | rfl
    · decide
    · decide
    · decide
  rw [solid character member] at blank
  cases blank

/-- An address that goes on up to a slash, and then with a text without blanks, ends in that text. -/
theorem Splits.exists_goOn_slash {text authority path tail final : List Char} {scheme : String}
    {bare : Url} (splits : Splits text scheme authority path bare)
    (unmarked : IsUnmarked (text ++ tail)) (ends : (text ++ tail).getLast? = some '/')
    (closed : Closes (tail ++ final) ∨ text.getLast? = some '/') (filled : final ≠ [])
    (solid : ∀ character ∈ final, isControlOrSpace character = false) {longer : Url}
    (ok : parseChars (text ++ (tail ++ final)) = .ok longer) :
    ∃ front, Closes front ∧ IsUnmarked front ∧ front.getLast? = some '/' ∧
      longer = bare.goOn (front ++ final) := by
  obtain ⟨after, cleaned, closes, rfl⟩ := splits.exists_goOn closed ok
  have trimmed : trimEnd (tail ++ final) = tail ++ final := by
    rw [trimEnd_append, trimEnd_solid solid, if_neg (by simpa using filled)]
  have found : (tail ++ final).isEmpty = false := by simp [filled]
  rw [clean_append splits.clean_ne_nil, trimmed, found, if_neg Bool.false_ne_true,
    List.append_cancel_left_eq, List.filter_append, filter_solid solid] at cleaned
  have last : (path ++ (gap text ++ tail.filter (!isTabOrNewline ·))).getLast? = some '/' := by
    rcases List.eq_nil_or_concat tail with rfl | ⟨before, mark, rfl⟩
    · rw [List.append_nil] at ends
      have cleanEnds := getLast?_clean splits.clean_ne_nil ends
      have some_path : path ≠ [] := by
        rintro rfl
        exact absurd (splits.not_isSlash_getLast? '/' cleanEnds) (by decide)
      rw [splits.getLast?, List.getLast?_append_of_ne_nil _ some_path] at cleanEnds
      rw [gap, blankEnd_of_slash ends, List.filter_nil, List.append_nil, List.append_nil]
      exact cleanEnds
    · rw [List.concat_eq_append] at ends ⊢
      rw [← List.append_assoc, List.getLast?_concat] at ends
      rw [List.getLast?_append, List.getLast?_append,
        getLast?_filter_slash (by rw [List.getLast?_concat]; exact ends)]
      rfl
  have parts : path ++ after =
      path ++ (gap text ++ tail.filter (!isTabOrNewline ·)) ++ final := by
    rw [← cleaned, List.append_assoc, List.append_assoc]
  have some_front : path ++ (gap text ++ tail.filter (!isTabOrNewline ·)) ≠ [] := by
    intro nothing
    rw [nothing] at last
    cases last
  refine ⟨path ++ (gap text ++ tail.filter (!isTabOrNewline ·)), ?_, ?_, last, by rw [parts]⟩
  · obtain ⟨first, rest, written⟩ := List.exists_cons_of_ne_nil some_front
    rw [parts, written] at closes
    rw [written]
    exact closes
  · have own : IsUnmarked path := splits.isUnmarked.mp fun character member =>
      unmarked character (List.mem_append_left _ member)
    refine own.append ((isBlank_gap text).isOpen.isUnmarked.append ?_)
    intro character member
    exact unmarked character (List.mem_append_right _ (List.mem_filter.mp member).1)

/-- A text without slashes after a path that ends in one is its last segment. -/
theorem readPathStart_last {front segment rest : List Char} (closes : Closes front)
    (unmarked : IsUnmarked front) (ends : front.getLast? = some '/')
    (plain : ∀ character ∈ segment, SchemeKind.special.isSlash character = false)
    (unmarkedSegment : IsUnmarked segment)
    (stops : ∀ character ∈ rest.head?, isTailMark character = true) :
    ∃ names, readPathStart .special (front ++ (segment ++ rest)) =
      (addSegment .special names segment true, rest) := by
  obtain ⟨first, others, rfl⟩ : ∃ first others, front = first :: others := by
    apply List.exists_cons_of_ne_nil
    rintro rfl
    cases ends
  have slash := isSlash_of_closes closes (unmarked first List.mem_cons_self)
  have unmarkedOthers : IsUnmarked others := fun character member =>
    unmarked character (List.mem_cons_of_mem _ member)
  have complete : (advance .special others [] []).2 = [] := by
    apply (advance_snd_eq_nil others []).mpr
    intro character last
    cases others with
    | nil => cases last
    | cons second more =>
        rw [List.getLast?_cons_cons, Option.mem_def.mp last, Option.some.injEq] at ends
        rw [ends]
        decide
  refine ⟨(advance .special others [] []).1, ?_⟩
  rw [List.cons_append, readPathStart_slash slash, readSegments_append unmarkedOthers, complete,
    readSegments_append unmarkedSegment, advance_plain plain, List.nil_append]
  cases rest with
  | nil => rfl
  | cons mark more => exact readSegments_marked (stops mark rfl) _ _ _

end Url

namespace Endpoint

open Url Text

/-! ### Slashes -/

theorem getLast?_withSlash (text : List Char) : (withSlash text).getLast? = some '/' := by
  rw [withSlash]
  split
  next ends => exact eq_of_beq ends
  next => exact List.getLast?_concat

theorem withSlash_of_not {text : List Char} (unended : text.getLast? ≠ some '/') :
    withSlash text = text ++ ['/'] := by
  rw [withSlash, endsInSlash, if_neg (by simpa using unended)]

theorem dropSlash_of_not {text : List Char} (unslashed : text.head? ≠ some '/') :
    dropSlash text = text := by
  rw [dropSlash.eq_def]
  split
  next rest => exact absurd rfl unslashed
  next => rfl

/-- What stands before the identifier: the endpoint and the path, each up to a slash. -/
def located (endpoint path : List Char) : List Char :=
  if path.isEmpty then withSlash endpoint else withSlash (withSlash endpoint ++ dropSlash path)

theorem joinPath_located {path id : List Char} (filled : path ≠ [] ∨ id ≠ [])
    (endpoint : List Char) : joinPath endpoint path id = located endpoint path ++ id := by
  have given : (path.isEmpty && id.isEmpty) = false := by
    rcases filled with filled | filled
    · simp [filled]
    · simp [filled]
  rw [joinPath, located, given, if_neg Bool.false_ne_true]

theorem getLast?_located (endpoint path : List Char) :
    (located endpoint path).getLast? = some '/' := by
  rw [located]
  split
  · exact getLast?_withSlash _
  · exact getLast?_withSlash _

theorem isUnmarked_withSlash {text : List Char} (unmarked : IsUnmarked text) :
    IsUnmarked (withSlash text) := by
  rw [withSlash]
  split
  · exact unmarked
  · apply unmarked.append
    intro character member
    rw [List.mem_singleton.mp member]
    decide

theorem isUnmarked_located {endpoint path : List Char} (unmarked : IsUnmarked endpoint)
    (unmarkedPath : IsUnmarked path) : IsUnmarked (located endpoint path) := by
  have relative : IsUnmarked (dropSlash path) := by
    intro character member
    rw [dropSlash.eq_def] at member
    split at member
    next rest => exact unmarkedPath character (List.mem_cons_of_mem _ member)
    next => exact unmarkedPath character member
  rw [located]
  split
  · exact isUnmarked_withSlash unmarked
  · exact isUnmarked_withSlash ((isUnmarked_withSlash unmarked).append relative)

theorem located_eq (endpoint path : List Char) :
    ∃ tail, located endpoint path = endpoint ++ tail := by
  obtain ⟨slash, base⟩ := withSlash_eq endpoint
  rw [located, base]
  split
  · exact ⟨slash, rfl⟩
  · obtain ⟨final, whole⟩ := withSlash_eq (endpoint ++ slash ++ dropSlash path)
    refine ⟨slash ++ dropSlash path ++ final, whole.trans ?_⟩
    simp only [List.append_assoc]

/-! ### Identifiers and parameters -/

/-- An identifier that makes one segment of a path: plain characters, and neither one dot nor two. -/
structure IsSegment (id : String) : Prop where
  filled : id ≠ ""
  plain : ∀ character ∈ id.toList, isUnreserved character = true
  undotted : id ≠ "." ∧ id ≠ ".."

/-- The query that parameters make, after its mark. -/
def queryChars (params : Params) : List Char :=
  if params.isEmpty then [] else '?' :: params.encodedChars

def query? (params : Params) : Option String :=
  if params.isEmpty then none else some params.encode

theorem isQuery_of_mem {params : Params} {character : Char}
    (member : character ∈ params.encodedChars) : Form.isQuery character = true :=
  List.all_eq_true.mp (Form.isQuery_encode params.pairs) character member

/-- The query of a URL is what the parameters are encoded as. -/
theorem readTail_queryChars (params : Params) :
    readTail .special (queryChars params) = (query? params, none) := by
  rw [queryChars, query?]
  cases params.isEmpty with
  | true => rfl
  | false =>
      have stops : ∀ character ∈ ([] : List Char).head?, (!isFragmentMark character) = false :=
        fun _ head => nomatch head
      have inQuery : ∀ character ∈ params.encodedChars, (!isFragmentMark character) = true := by
        intro character member
        rw [(query_cases (isQuery_of_mem member)).2.2.1]
        rfl
      have taken := takeWhile_append_stops inQuery stops
      rw [List.append_nil] at taken
      have kept : percentEncode specialQuerySet params.encodedChars = params.encodedChars := by
        apply percentEncode_eq_self
        intro character member
        obtain ⟨ascii, plain, _⟩ := query_cases (isQuery_of_mem member)
        exact ⟨ascii, plain⟩
      have known : ¬ SchemeKind.special = .other := by decide
      simp only [Bool.false_eq_true, if_false, readTail, if_neg known, taken.1, taken.2, kept]
      rfl

theorem isTailMark_queryChars (params : Params) :
    ∀ character ∈ (queryChars params).head?, isTailMark character = true := by
  intro character head
  rw [queryChars] at head
  split at head
  · cases head
  · rw [← Option.mem_some.mp head]
    decide

/-- After an identifier there is nothing but the query, and neither has blanks. -/
theorem solid_final {id : String} (segment : IsSegment id) (params : Params) :
    ∀ character ∈ id.toList ++ queryChars params, isControlOrSpace character = false := by
  intro character member
  rcases List.mem_append.mp member with member | member
  · exact (unreserved_cases (segment.plain character member)).2.2.2.1
  · rw [queryChars] at member
    split at member
    · cases member
    · rcases List.mem_cons.mp member with rfl | member
      · decide
      · exact (query_cases (isQuery_of_mem member)).2.2.2

theorem addSegment_id {id : String} (segment : IsSegment id) (names : List (List Char)) :
    addSegment .special names id.toList true = names ++ [id.toList] := by
  have undotted : id.toList ≠ ['.'] ∧ id.toList ≠ ['.', '.'] := by
    constructor
    · intro same
      exact segment.undotted.1 (String.toList_inj.mp same)
    · intro same
      exact segment.undotted.2 (String.toList_inj.mp same)
  have kept : percentEncode pathSet id.toList = id.toList := by
    apply percentEncode_eq_self
    intro character member
    have unreserved := segment.plain character member
    exact ⟨ascii_of_unreserved unreserved, (unreserved_cases unreserved).1⟩
  rw [addSegment_undotted (undotted_of_unreserved segment.plain undotted), kept]

/-- An identifier is the last segment of the path of a request, and the encoded parameters are its
query, without another escape in either; a request has no fragment. -/
theorem url_ends_in_id {endpoint path id : String} {params : Params} {server joined : Url}
    (ok : Url.parse endpoint = .ok server) (web : IsWeb server.scheme)
    (unmarked : IsUnmarked endpoint.toList) (unmarkedPath : IsUnmarked path.toList)
    (segment : IsSegment id) (request : url endpoint path id params = .ok joined) :
    (∃ names, joined.path = .segments (names ++ [id])) ∧
      joined.query = (if params.isEmpty then none else some params.encode) ∧
      joined.fragment = none := by
  have filled : id.toList ≠ [] := by
    intro nothing
    exact segment.filled (String.toList_inj.mp nothing)
  obtain ⟨authority, rest, bare, splits, _⟩ := exists_splits ok web
  obtain ⟨tail, whole⟩ := located_eq endpoint.toList path.toList
  have written : joinChars endpoint.toList path.toList id.toList params =
      endpoint.toList ++ (tail ++ (id.toList ++ queryChars params)) := by
    rw [joinChars, joinPath_located (.inr filled), whole, queryChars]
    simp only [List.append_assoc]
  obtain ⟨tail', written', closed⟩ := joinChars_eq endpoint.toList path.toList id.toList params
  rw [written, List.append_cancel_left_eq] at written'
  rw [← written'] at closed
  have parsed := url_eq_ok.mp request
  rw [written] at parsed
  obtain ⟨front, closes, clear, ends, rfl⟩ := splits.exists_goOn_slash
    (whole ▸ isUnmarked_located unmarked unmarkedPath) (whole ▸ getLast?_located _ _) closed
    (List.append_ne_nil_of_left_ne_nil filled _) (solid_final segment params) parsed
  obtain ⟨names, read⟩ := readPathStart_last closes clear ends
    (fun character member => (unreserved_cases (segment.plain character member)).2.1)
    (fun character member => (unreserved_cases (segment.plain character member)).2.2.1)
    (isTailMark_queryChars params)
  rw [addSegment_id segment] at read
  have tailRead := readTail_queryChars params
  refine ⟨⟨names.map String.ofList, ?_⟩, ?_, ?_⟩
  · rw [goOn, read, pathOfNames, List.map_append, List.map_singleton, String.ofList_toList]
  · rw [goOn, read, tailRead]
    rfl
  · rw [goOn, read, tailRead]

/-- An endpoint with a backslash, a dot segment and a line break at its end. -/
def brokenEndpoint : String := "http://user:secret@[::1]:8080/lab\\..\n"

/-- A path with a tab in it, and dot segments in disguise. -/
def disguisedPath : String := "plat\tform/x/%2E%2e/"

theorem url_ends_in_id_disguised :
    let params : Params := ⟨[("zone", [0x26, 0xFF]), ("'", [])]⟩
    let joined := { localServer with
      path := .segments ["platform", "...~"], query := some "zone=%26%FF&%27=" }
    Url.parse brokenEndpoint = .ok localServer ∧ IsWeb localServer.scheme ∧
      IsUnmarked brokenEndpoint.toList ∧ IsUnmarked disguisedPath.toList ∧ IsSegment "...~" ∧
      url brokenEndpoint disguisedPath "...~" params = .ok joined ∧
      (∃ names, joined.path = .segments (names ++ ["...~"])) ∧
      joined.query = some params.encode ∧ joined.fragment = none := by
  have ok : Url.parse brokenEndpoint = .ok localServer := by rfl
  have web : IsWeb localServer.scheme := .inl rfl
  have request : url brokenEndpoint disguisedPath "...~" ⟨[("zone", [0x26, 0xFF]), ("'", [])]⟩ =
      .ok { localServer with
        path := .segments ["platform", "...~"], query := some "zone=%26%FF&%27=" } := by
    rfl
  have unmarked : IsUnmarked brokenEndpoint.toList := by decide
  have unmarkedPath : IsUnmarked disguisedPath.toList := by decide
  have segment : IsSegment "...~" :=
    ⟨by decide, List.all_eq_true.mp (by decide), by decide⟩
  exact ⟨ok, web, unmarked, unmarkedPath, segment, request,
    url_ends_in_id ok web unmarked unmarkedPath segment request⟩

/-! ### Slashes that do not matter -/

/-- A slash that may be there or not. -/
def slashIf (isThere : Bool) : String := if isThere then "/" else ""

theorem withSlash_slashIf {text : List Char} (unended : text.getLast? ≠ some '/')
    (isThere : Bool) : withSlash (text ++ (slashIf isThere).toList) = text ++ ['/'] := by
  cases isThere with
  | true => exact withSlash_slash text
  | false =>
      have nothing : (slashIf false).toList = [] := rfl
      rw [nothing, List.append_nil]
      exact withSlash_of_not unended

theorem dropSlash_slashIf {text : List Char} (unslashed : text.head? ≠ some '/')
    (isThere : Bool) : dropSlash ((slashIf isThere).toList ++ text) = text := by
  cases isThere with
  | true => rfl
  | false => exact dropSlash_of_not unslashed

theorem located_slashIf {endpoint path : List Char} (unended : endpoint.getLast? ≠ some '/')
    (filled : path ≠ []) (unslashed : path.head? ≠ some '/')
    (unendedPath : path.getLast? ≠ some '/') (atEnd before after : Bool) :
    located (endpoint ++ (slashIf atEnd).toList)
        ((slashIf before).toList ++ (path ++ (slashIf after).toList)) =
      endpoint ++ '/' :: (path ++ ['/']) := by
  have given : ((slashIf before).toList ++ (path ++ (slashIf after).toList)).isEmpty = false := by
    simp [filled]
  have relative : dropSlash ((slashIf before).toList ++ (path ++ (slashIf after).toList)) =
      path ++ (slashIf after).toList := by
    apply dropSlash_slashIf
    rwa [List.head?_append_of_ne_nil _ filled]
  have inner : (endpoint ++ ['/'] ++ path).getLast? ≠ some '/' := by
    rwa [List.getLast?_append_of_ne_nil _ filled]
  calc located (endpoint ++ (slashIf atEnd).toList)
        ((slashIf before).toList ++ (path ++ (slashIf after).toList))
      = withSlash (withSlash (endpoint ++ (slashIf atEnd).toList) ++
          (path ++ (slashIf after).toList)) := by
        rw [located, given, if_neg Bool.false_ne_true, relative]
    _ = withSlash (endpoint ++ ['/'] ++ path ++ (slashIf after).toList) := by
        rw [withSlash_slashIf unended, List.append_assoc _ path]
    _ = endpoint ++ ['/'] ++ path ++ ['/'] := withSlash_slashIf inner after
    _ = endpoint ++ '/' :: (path ++ ['/']) := by simp

theorem url_eq (endpoint path id : String) (params : Params) :
    url endpoint path id params =
      (Url.parse (join endpoint path id params)).mapError
        (.invalidUrl (join endpoint path id params)) := by
  rw [url]
  cases Url.parse (join endpoint path id params) with
  | ok found => rfl
  | error cause => rfl

/-- Slashes at the end of an endpoint and around a path make no difference: one stands between each
two of endpoint, path and identifier, and the URL or the failure is that of this text. -/
theorem url_of_any_slashes {endpoint path : String}
    (unended : endpoint.toList.getLast? ≠ some '/') (filled : path ≠ "")
    (unslashed : path.toList.head? ≠ some '/') (unendedPath : path.toList.getLast? ≠ some '/')
    (id : String) (params : Params) (atEnd before after : Bool) :
    let text := endpoint ++ "/" ++ path ++ "/" ++ id ++
      if params.isEmpty then "" else "?" ++ params.encode
    let endpoint' := endpoint ++ slashIf atEnd
    let path' := slashIf before ++ path ++ slashIf after
    join endpoint' path' id params = text ∧
      url endpoint' path' id params = (Url.parse text).mapError (.invalidUrl text) ∧
      url endpoint' path' id params = url endpoint path id params := by
  have some_path : path.toList ≠ [] := by
    intro nothing
    exact filled (String.toList_inj.mp nothing)
  have joined (atEnd before after : Bool) :
      join (endpoint ++ slashIf atEnd) (slashIf before ++ path ++ slashIf after) id params =
        endpoint ++ "/" ++ path ++ "/" ++ id ++
          if params.isEmpty then "" else "?" ++ params.encode := by
    apply String.toList_inj.mp
    have located := located_slashIf unended some_path unslashed unendedPath atEnd before after
    rw [join, String.toList_ofList, joinChars, joinPath_located (.inl (by simp [filled]))]
    simp only [String.toList_append, List.append_assoc, located]
    cases params.isEmpty with
    | true => simp
    | false => simp [Params.encode]
  have plain : url endpoint path id params =
      url (endpoint ++ slashIf false) (slashIf false ++ path ++ slashIf false) id params := by
    simp [slashIf]
  refine ⟨joined atEnd before after, ?_, ?_⟩
  · rw [url_eq, joined]
  · rw [plain, url_eq, url_eq, joined, joined]

theorem url_of_any_slashes_everywhere :
    let endpoint := "http://user:secret@[::1]:8080"
    let path := "platform/1"
    let params : Params := ⟨[("zone", [0x2F])]⟩
    endpoint.toList.getLast? ≠ some '/' ∧ path ≠ "" ∧ path.toList.head? ≠ some '/' ∧
      path.toList.getLast? ≠ some '/' ∧
      url (endpoint ++ slashIf true) (slashIf true ++ path ++ slashIf true) "/x" params =
        .ok { localServer with
          path := .segments ["platform", "1", "", "x"], query := some "zone=%2F" } := by
  have unended : "http://user:secret@[::1]:8080".toList.getLast? ≠ some '/' := by decide
  have filled : "platform/1" ≠ "" := by decide
  have unslashed : "platform/1".toList.head? ≠ some '/' := by decide
  have unendedPath : "platform/1".toList.getLast? ≠ some '/' := by decide
  have plain : url "http://user:secret@[::1]:8080" "platform/1" "/x" ⟨[("zone", [0x2F])]⟩ =
      .ok { localServer with
        path := .segments ["platform", "1", "", "x"], query := some "zone=%2F" } := by
    rfl
  obtain ⟨_, _, same⟩ := url_of_any_slashes unended filled unslashed unendedPath "/x"
    ⟨[("zone", [0x2F])]⟩ true true true
  exact ⟨unended, filled, unslashed, unendedPath, same.trans plain⟩

end Endpoint

end ClusterRest
