import ClusterRest.CommandLine.Composition
import ClusterRest.Proofs.Outcomes
import ClusterRest.Proofs.SessionHeaders

/-!
Requests that arguments compose. Main statement: arguments compose a request just if each of them
fits, and the request has what they give; else the first of them that does not fit is to blame.
-/

namespace ClusterRest

/-! ### Legal headers -/

namespace Http

open Text

/-- Names of headers: characters of tokens, at least one, in at most 65535 bytes. -/
structure IsName (text : String) : Prop where
  filled : text ≠ ""
  tokens : ∀ character ∈ text.toList, isTokenChar character = true
  short : text.utf8ByteSize ≤ 65535

variable {text known : String}

theorem isName_iff :
    IsName text ↔ (text.isEmpty || !text.toList.all isTokenChar ||
      text.utf8ByteSize > greatestNameLength) = false := by
  have parts : IsName text ↔ text ≠ "" ∧ (∀ character ∈ text.toList, isTokenChar character = true) ∧
      text.utf8ByteSize ≤ 65535 :=
    ⟨fun ⟨filled, tokens, short⟩ => ⟨filled, tokens, short⟩,
      fun ⟨filled, tokens, short⟩ => ⟨filled, tokens, short⟩⟩
  simp [parts, greatestNameLength, and_assoc]

theorem headerName?_eq_some :
    headerName? text = some known ↔ IsName text ∧ known = asciiLower text := by
  rw [headerName?, isName_iff]
  split
  next unfit => simp [unfit]
  next fit => simp [fit, eq_comm]

theorem headerName?_eq_none : headerName? text = none ↔ ¬ IsName text := by
  rw [Option.eq_none_iff_forall_ne_some]
  constructor
  · intro none named
    exact none _ (headerName?_eq_some.mpr ⟨named, rfl⟩)
  · intro unnamed known found
    exact unnamed (headerName?_eq_some.mp found).1

end Http

namespace CommandLine

open Text Http

/-! ### Pairs -/

/-- A text with a mark in it: the name is what stands before the first one, trimmed and not blank,
and the value is all that comes after. -/
def IsPair (mark : Char) (raw name value : String) : Prop :=
  ∃ front, raw.toList = front ++ mark :: value.toList ∧ mark ∉ front ∧
    (∃ character ∈ front, isBlank character = false) ∧ name.toList = trimChars front

variable {mark : Char} {field raw name value : String} {failure : Failure}

/-- What is said of a text that is no pair. -/
def malformed (mark : Char) (field raw : String) : Failure :=
  .invalid field ("expected KEY" ++ String.singleton mark ++ "VALUE, got '" ++ raw ++ "'")

theorem splitPair_eq (mark : Char) (field raw : String) :
    splitPair mark field raw =
      match cutChars mark raw.toList with
      | none => .error (malformed mark field raw)
      | some (front, back) =>
        if front.all isBlank then .error (malformed mark field raw)
        else .ok (.ofList (trimChars front), .ofList back) := by
  rw [splitPair, cut]
  cases cutChars mark raw.toList with
  | none => rfl
  | some parts =>
      simp only [Option.map_some, isAllBlank, trim, String.toList_ofList]
      rfl

theorem splitPair_eq_ok :
    splitPair mark field raw = .ok (name, value) ↔ IsPair mark raw name value := by
  rw [splitPair_eq]
  constructor
  · intro parted
    split at parted
    · cases parted
    next front back parts =>
      obtain ⟨whole, unmarked⟩ := cutChars_eq_some parts
      split at parted
      · cases parted
      next printed =>
        cases parted
        rw [Bool.not_eq_true, List.all_eq_false] at printed
        refine ⟨front, ?_, unmarked, by simpa using printed, String.toList_ofList⟩
        rw [whole, String.toList_ofList]
  · rintro ⟨front, whole, unmarked, ⟨character, member, printed⟩, named⟩
    have unblank : front.all isBlank = false :=
      List.all_eq_false.mpr ⟨character, member, by rw [printed]; exact Bool.false_ne_true⟩
    rw [whole, cutChars_marked unmarked]
    simp only [unblank, Bool.false_eq_true, if_false, ← named, String.ofList_toList]

theorem splitPair_eq_error :
    splitPair mark field raw = .error failure ↔
      (∀ name value, ¬ IsPair mark raw name value) ∧ failure = malformed mark field raw := by
  have blamed {failure : Failure} (failed : splitPair mark field raw = .error failure) :
      failure = malformed mark field raw := by
    rw [splitPair_eq] at failed
    split at failed
    · exact (Except.error.inj failed).symm
    · split at failed
      · exact (Except.error.inj failed).symm
      · cases failed
  constructor
  · intro failed
    refine ⟨fun name value paired => ?_, blamed failed⟩
    rw [splitPair_eq_ok.mpr paired] at failed
    cases failed
  · rintro ⟨unpaired, rfl⟩
    cases parted : splitPair mark field raw with
    | ok pair => exact absurd (splitPair_eq_ok.mp parted) (unpaired pair.1 pair.2)
    | error other => rw [blamed parted]

/-! ### Items -/

/-- An argument that has to be read before a request is composed. -/
inductive Item where
  | param (raw : String)
  | header (raw : String)
  | data (text : String)

namespace Item

/-- What an argument has to be. -/
def Fits : Item → Prop
  | .param raw => ∃ name value, IsPair '=' raw name value
  | .header raw => ∃ name value, IsPair ':' raw name value ∧ IsName name ∧
      ∀ character ∈ (trimStart value).toList, isValueChar character = true
  | .data text => ∃ value, Json.parse (Bytes.ofString text) = .ok value

/-- What is said of an argument that does not fit. -/
inductive Fails : Item → Failure → Prop where
  | param {raw : String} (unpaired : ∀ name value, ¬ IsPair '=' raw name value) :
      Fails (.param raw) (malformed '=' "param" raw)
  | header {raw : String} (unpaired : ∀ name value, ¬ IsPair ':' raw name value) :
      Fails (.header raw) (malformed ':' "header" raw)
  | headerName {raw name value : String} (paired : IsPair ':' raw name value)
      (unnamed : ¬ IsName name) :
      Fails (.header raw) (.invalid "header" (name ++ ": invalid HTTP header name"))
  | headerValue {raw name value : String} (paired : IsPair ':' raw name value)
      (named : IsName name)
      (unfit : ∃ character ∈ (trimStart value).toList, isValueChar character = false) :
      Fails (.header raw) (.invalid "header" (asciiLower name ++ ": " ++ badValue))
  | data {text : String} {fault : Json.LocatedFault}
      (unread : Json.parse (Bytes.ofString text) = .error fault) : Fails (.data text) (.json fault)

/-- The exit code that an argument is to blame for. -/
def exitCode : Item → Nat
  | .param _ | .header _ => 2
  | .data _ => 1

theorem Fails.exitCode_eq {item : Item} (fails : item.Fails failure) :
    failure.exitCode = item.exitCode := by
  cases fails <;> rfl

end Item

/-- The entry of a header, if its name and its text are legal. -/
def entryOf (name text : String) : Except Failure (String × Bytes) :=
  match headerName? name with
  | none => .error (.invalid "header" (name ++ ": invalid HTTP header name"))
  | some known =>
    if isHeaderValue (Bytes.ofString text) then .ok (known, Bytes.ofString text)
    else .error (.invalid "header" (known ++ ": " ++ badValue))

def headerOf (raw : String) : Except Failure (String × Bytes) := do
  let (name, value) ← splitPair ':' "header" raw
  entryOf name (trimStart value)

theorem addHeader_eq (request : Request) (raw : String) :
    addHeader request raw = (headerOf raw).map fun entry =>
      { request with headers := request.headers.append entry.1 entry.2 } := by
  rw [addHeader, headerOf]
  cases splitPair ':' "header" raw with
  | error failure => rfl
  | ok pair =>
      obtain ⟨name, value⟩ := pair
      simp only [bind, Except.bind, Request.withHeader, entryOf]
      cases headerName? name with
      | none => rfl
      | some known =>
          simp only
          split <;> rfl

/-- Headers are read one after the other, whatever the request has already. -/
theorem foldlM_addHeader (request : Request) (headers : List String) :
    headers.foldlM addHeader request = (headers.mapM headerOf).map fun entries =>
      { request with headers := request.headers.appendAll entries } := by
  induction headers generalizing request with
  | nil => rfl
  | cons raw headers ih =>
      rw [List.foldlM_cons, List.mapM_cons, addHeader_eq]
      cases headerOf raw with
      | error failure => rfl
      | ok entry =>
          simp only [Except.map, bind, Except.bind, ih]
          cases headers.mapM headerOf <;> rfl

theorem entryOf_of_not_isName {text : String} (unnamed : ¬ IsName name) :
    entryOf name text = .error (.invalid "header" (name ++ ": invalid HTTP header name")) := by
  rw [entryOf, headerName?_eq_none.mpr unnamed]

theorem entryOf_of_isName {text : String} (named : IsName name) :
    entryOf name text =
      if text.toList.all isValueChar then .ok (asciiLower name, Bytes.ofString text)
      else .error (.invalid "header" (asciiLower name ++ ": " ++ badValue)) := by
  rw [entryOf, headerName?_eq_some.mpr ⟨named, rfl⟩, isHeaderValue_ofString]

theorem paramOf_eq_ok {entry : String × Bytes} :
    paramOf raw = .ok entry ↔
      ∃ value, IsPair '=' raw entry.1 value ∧ entry.2 = Bytes.ofString value := by
  obtain ⟨name, content⟩ := entry
  rw [paramOf, bind_eq_ok]
  constructor
  · rintro ⟨⟨name, value⟩, parted, given⟩
    cases given
    exact ⟨value, splitPair_eq_ok.mp parted, rfl⟩
  · rintro ⟨value, paired, rfl⟩
    exact ⟨(name, value), splitPair_eq_ok.mpr paired, rfl⟩

theorem paramOf_eq_error : paramOf raw = .error failure ↔ (Item.param raw).Fails failure := by
  rw [paramOf, bind_eq_error, splitPair_eq_error]
  constructor
  · rintro (⟨unpaired, rfl⟩ | ⟨pair, -, given⟩)
    · exact .param unpaired
    · cases given
  · intro fails
    cases fails with
    | param unpaired => exact .inl ⟨unpaired, rfl⟩

theorem headerOf_eq_ok {entry : String × Bytes} :
    headerOf raw = .ok entry ↔
      ∃ name value, IsPair ':' raw name value ∧ IsName name ∧
        (∀ character ∈ (trimStart value).toList, isValueChar character = true) ∧
          entry = (asciiLower name, Bytes.ofString (trimStart value)) := by
  rw [headerOf, bind_eq_ok]
  constructor
  · rintro ⟨⟨name, value⟩, parted, given⟩
    simp only at given
    have named : IsName name := by
      by_contra unnamed
      rw [entryOf_of_not_isName unnamed] at given
      cases given
    rw [entryOf_of_isName named] at given
    split at given
    next fit =>
      cases given
      exact ⟨name, value, splitPair_eq_ok.mp parted, named, List.all_eq_true.mp fit, rfl⟩
    next => cases given
  · rintro ⟨name, value, paired, named, fit, rfl⟩
    refine ⟨(name, value), splitPair_eq_ok.mpr paired, ?_⟩
    exact (entryOf_of_isName named).trans (if_pos (List.all_eq_true.mpr fit))

theorem headerOf_eq_error :
    headerOf raw = .error failure ↔ (Item.header raw).Fails failure := by
  rw [headerOf, bind_eq_error, splitPair_eq_error]
  constructor
  · rintro (⟨unpaired, rfl⟩ | ⟨⟨name, value⟩, parted, given⟩)
    · exact .header unpaired
    · simp only at given
      have paired := splitPair_eq_ok.mp parted
      by_cases named : IsName name
      · rw [entryOf_of_isName named] at given
        split at given
        next => cases given
        next unfit =>
          cases given
          rw [Bool.not_eq_true, List.all_eq_false] at unfit
          exact .headerValue paired named (by simpa using unfit)
      · rw [entryOf_of_not_isName named] at given
        cases given
        exact .headerName paired named
  · intro fails
    cases fails with
    | header unpaired => exact .inl ⟨unpaired, rfl⟩
    | headerName paired unnamed =>
        exact .inr ⟨(_, _), splitPair_eq_ok.mpr paired, entryOf_of_not_isName unnamed⟩
    | headerValue paired named unfit =>
        refine .inr ⟨(_, _), splitPair_eq_ok.mpr paired, (entryOf_of_isName named).trans ?_⟩
        refine if_neg ?_
        rw [Bool.not_eq_true, List.all_eq_false]
        simpa using unfit

/-- Reads the body that is given in the arguments. -/
def dataOf (text : String) : Except Failure Json.Value :=
  (Json.parse (Bytes.ofString text)).mapError Failure.json

theorem dataOf_eq_ok {text : String} {value : Json.Value} :
    dataOf text = .ok value ↔ Json.parse (Bytes.ofString text) = .ok value := by
  rw [dataOf]
  cases Json.parse (Bytes.ofString text) <;> simp [Except.mapError]

theorem dataOf_eq_error {text : String} :
    dataOf text = .error failure ↔ (Item.data text).Fails failure := by
  rw [dataOf]
  constructor
  · intro failed
    cases read : Json.parse (Bytes.ofString text) with
    | ok value => rw [read] at failed; cases failed
    | error fault =>
        rw [read] at failed
        cases failed
        exact .data read
  · intro fails
    cases fails with
    | data unread =>
        rw [unread]
        rfl

/-! ### Requests -/

namespace Item

/-- Whether an argument can be read. -/
def check : Item → Except Failure Unit
  | .param raw => verdict (paramOf raw)
  | .header raw => verdict (headerOf raw)
  | .data text => verdict (dataOf text)

theorem check_eq_ok {item : Item} : item.check = .ok () ↔ item.Fits := by
  cases item with
  | param raw =>
      rw [check, verdict_eq_ok]
      simp only [paramOf_eq_ok, Fits]
      constructor
      · rintro ⟨entry, value, paired, -⟩
        exact ⟨entry.1, value, paired⟩
      · rintro ⟨name, value, paired⟩
        exact ⟨(name, Bytes.ofString value), value, paired, rfl⟩
  | header raw =>
      rw [check, verdict_eq_ok]
      simp only [headerOf_eq_ok, Fits]
      constructor
      · rintro ⟨_, name, value, paired, named, fit, -⟩
        exact ⟨name, value, paired, named, fit⟩
      · rintro ⟨name, value, paired, named, fit⟩
        exact ⟨_, name, value, paired, named, fit, rfl⟩
  | data text =>
      rw [check, verdict_eq_ok]
      simp only [dataOf_eq_ok, Fits]

theorem check_eq_error {item : Item} : item.check = .error failure ↔ item.Fails failure := by
  cases item with
  | param raw => rw [check, verdict_eq_error, paramOf_eq_error]
  | header raw => rw [check, verdict_eq_error, headerOf_eq_error]
  | data text => rw [check, verdict_eq_error, dataOf_eq_error]

end Item

theorem Verb.method_toRequest (verb : Verb) (path : String) :
    (verb.toRequest path).method = asciiUpper verb.name := by
  have named : (verb.toRequest "").method = asciiUpper verb.name := by
    cases verb <;> decide +kernel
  rw [← named]
  cases verb <;> rfl

namespace RequestArguments

/-- The arguments in the order in which they are read. -/
def items (arguments : RequestArguments) : List Item :=
  arguments.params.map .param ++ arguments.headers.map .header ++ arguments.data.toList.map .data

variable {files : Files} {verb : Verb} {arguments : RequestArguments} {request : Request}

/-- What a request has of arguments without a data file. -/
structure Composes (verb : Verb) (arguments : RequestArguments) (request : Request) : Prop where
  method : request.method = asciiUpper verb.name
  path : request.path = arguments.path
  id : request.id = arguments.id.getD ""
  params : List.Forall₂
    (fun raw entry => ∃ value, IsPair '=' raw entry.1 value ∧ entry.2 = Bytes.ofString value)
    arguments.params request.params.entries
  headers : ∃ entries : List (String × Bytes), List.Forall₂
    (fun raw entry => ∃ name value, IsPair ':' raw name value ∧
      entry = (asciiLower name, Bytes.ofString (trimStart value))) arguments.headers entries ∧
    ∀ name, request.headers.values name = Headers.valuesOf entries name
  noBody : arguments.data = none → request.body = .empty
  jsonBody : ∀ text, arguments.data = some text →
    ∃ value, Json.parse (Bytes.ofString text) = .ok value ∧ request.body = .ofJson value
  cancellation : request.cancellation = .none

/-- The request of arguments that have been read. -/
def assembled (verb : Verb) (arguments : RequestArguments) (params headers : List (String × Bytes))
    (body : List Json.Value) : Request :=
  { verb.toRequest arguments.path with
    id := arguments.id.getD ""
    params := ⟨params⟩
    headers := .ofList headers
    body := (body.head?.map Body.ofJson).getD .empty }

/-- The body is read as a list of at most one text, so that all arguments are read alike. -/
theorem compose_eq (inline : arguments.dataFile = none) :
    arguments.compose files verb = do
      let params ← arguments.params.mapM paramOf
      let headers ← arguments.headers.mapM headerOf
      let body ← arguments.data.toList.mapM dataOf
      return assembled verb arguments params headers body := by
  have text : arguments.bodyText files = .ok arguments.data := by
    rw [bodyText, inline]
    cases arguments.data <;> rfl
  simp only [compose, foldlM_addHeader, text]
  cases arguments.params.mapM paramOf with
  | error failure => rfl
  | ok params =>
      cases arguments.headers.mapM headerOf with
      | error failure => rfl
      | ok headers =>
          cases arguments.data with
          | none => cases verb <;> rfl
          | some text =>
              simp only [bind, Except.bind, Except.map, pure, Except.pure, Option.toList,
                List.mapM_cons, List.mapM_nil, dataOf]
              cases (Json.parse (Bytes.ofString text)).mapError Failure.json with
              | error failure => rfl
              | ok value => cases verb <;> rfl

theorem verdict_compose (inline : arguments.dataFile = none) :
    verdict (arguments.compose files verb) = forM arguments.items Item.check := by
  rw [items, List.forM_append, List.forM_append, List.forM_map, List.forM_map, List.forM_map,
    compose_eq inline]
  simp only [Item.check, ← verdict_mapM]
  cases arguments.params.mapM paramOf with
  | error failure => rfl
  | ok params =>
      cases arguments.headers.mapM headerOf with
      | error failure => rfl
      | ok headers => cases arguments.data.toList.mapM dataOf <;> rfl

theorem exists_compose_eq_ok (inline : arguments.dataFile = none) :
    (∃ request, arguments.compose files verb = .ok request) ↔
      ∀ item ∈ arguments.items, item.Fits := by
  rw [← verdict_eq_ok, verdict_compose inline, forM_eq_ok]
  simp only [Item.check_eq_ok]

theorem compose_eq_error (inline : arguments.dataFile = none) :
    arguments.compose files verb = .error failure ↔
      ∃ front item rest, arguments.items = front ++ item :: rest ∧
        (∀ earlier ∈ front, earlier.Fits) ∧ item.Fails failure := by
  rw [← verdict_eq_error, verdict_compose inline, forM_eq_error]
  simp only [Item.check_eq_ok, Item.check_eq_error]

theorem composes_of_compose (inline : arguments.dataFile = none)
    (composed : arguments.compose files verb = .ok request) :
    Composes verb arguments request := by
  rw [compose_eq inline] at composed
  obtain ⟨params, readParams, composed⟩ := bind_eq_ok.mp composed
  obtain ⟨headers, readHeaders, composed⟩ := bind_eq_ok.mp composed
  obtain ⟨body, readBody, composed⟩ := bind_eq_ok.mp composed
  cases composed
  exact {
    method := verb.method_toRequest arguments.path
    path := by cases verb <;> rfl
    id := rfl
    params := (mapM_eq_ok.mp readParams).imp fun raw entry => paramOf_eq_ok.mp
    headers := by
      refine ⟨headers, (mapM_eq_ok.mp readHeaders).imp fun raw entry read => ?_, fun name =>
        Headers.values_ofList⟩
      obtain ⟨name, value, paired, -, -, given⟩ := headerOf_eq_ok.mp read
      exact ⟨name, value, paired, given⟩
    noBody := by
      intro absent
      rw [absent] at readBody
      cases readBody
      rfl
    jsonBody := by
      intro text given
      rw [given, mapM_eq_ok] at readBody
      cases readBody with
      | cons read rest =>
          cases rest
          exact ⟨_, dataOf_eq_ok.mp read, rfl⟩
    cancellation := by cases verb <;> rfl }

/-- Arguments compose a request just if all of them fit, and the request has what they give. Else
the first that does not fit is to blame, parameters before headers before the body. -/
theorem compose_by_items (inline : arguments.dataFile = none) (files : Files) (verb : Verb) :
    ((∃ request, arguments.compose files verb = .ok request) ↔
      ∀ item ∈ arguments.items, item.Fits) ∧
    (∀ request, arguments.compose files verb = .ok request → Composes verb arguments request) ∧
    ∀ failure, arguments.compose files verb = .error failure ↔
      ∃ front item rest, arguments.items = front ++ item :: rest ∧
        (∀ earlier ∈ front, earlier.Fits) ∧ item.Fails failure ∧
        failure.exitCode = item.exitCode := by
  refine ⟨exists_compose_eq_ok inline, fun request => composes_of_compose inline, fun failure => ?_⟩
  rw [compose_eq_error inline]
  constructor
  · rintro ⟨front, item, rest, whole, fit, fails⟩
    exact ⟨front, item, rest, whole, fit, fails, fails.exitCode_eq⟩
  · rintro ⟨front, item, rest, whole, fit, fails, -⟩
    exact ⟨front, item, rest, whole, fit, fails⟩

/-- A parameter given twice, once with a further mark in its value, and a header given twice. -/
def repeatedArguments : RequestArguments where
  path := "/platform/1/zones"
  id := none
  params := ["zone=System", " zone =a=b "]
  headers := ["Tag: one", "Accept:text/plain", "tag :two"]
  data := some " [1] "
  dataFile := none

def repeatedHeaders : List (String × Bytes) :=
  [("tag", Bytes.ofString "one"), ("accept", Bytes.ofString "text/plain"),
    ("tag", Bytes.ofString "two")]

def repeatedRequest : Request where
  method := "POST"
  path := "/platform/1/zones"
  id := ""
  params := ⟨[("zone", Bytes.ofString "System"), ("zone", Bytes.ofString "a=b ")]⟩
  headers := .ofList repeatedHeaders
  body := .json (Bytes.ofString "[1]")
  cancellation := .none

/-- Nothing but the first parameter fits. -/
def unfitArguments : RequestArguments where
  path := "/platform/1/zones"
  id := none
  params := ["zone=System", "  =novalue", "novalue"]
  headers := ["novalue"]
  data := some "novalue"
  dataFile := none

theorem compose_by_items_repeated :
    repeatedArguments.compose .empty .post = .ok repeatedRequest ∧
      Composes .post repeatedArguments repeatedRequest ∧
      repeatedRequest.headers.values "tag" = [Bytes.ofString "one", Bytes.ofString "two"] ∧
      unfitArguments.compose .empty .post =
        .error (.invalid "param" "expected KEY=VALUE, got '  =novalue'") := by
  have composed : repeatedArguments.compose .empty .post = .ok repeatedRequest := by
    -- with the headers known, they are not read once more for each comparison of names
    have params : repeatedArguments.params.mapM paramOf = .ok repeatedRequest.params.entries := by
      decide +kernel
    have headers : repeatedArguments.headers.mapM headerOf = .ok repeatedHeaders := by
      decide +kernel
    rw [compose_eq rfl, params, headers]
    decide +kernel
  refine ⟨composed, (compose_by_items rfl .empty .post).2.1 _ composed, ?_, ?_⟩
  · exact Headers.values_ofList.trans (by decide +kernel)
  · have first : (Item.param "zone=System").Fits := Item.check_eq_ok.mp (by decide +kernel)
    have second : (Item.param "  =novalue").Fails
        (.invalid "param" "expected KEY=VALUE, got '  =novalue'") :=
      Item.check_eq_error.mp (by decide +kernel)
    exact ((compose_by_items rfl .empty .post).2.2 _).mpr
      ⟨[.param "zone=System"], _, _, rfl, List.forall_mem_singleton.mpr first, second, rfl⟩

end RequestArguments

end CommandLine

end ClusterRest
