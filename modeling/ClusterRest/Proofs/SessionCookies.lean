import ClusterRest.Proofs.Cookies

/-!
Tokens in the cookies of a login reply. Main statement: the first segment of all cookies that sets a
name to something decides what the name is, whatever stands between it and the others, and the
cookie of a session gives its token back.
-/

namespace ClusterRest.SessionTokens

open Text

/-- A segment that sets a name: the name stands before the first equals sign, and after it a value
that is not blank, both trimmed. -/
def Sets (name value : String) (segment : List Char) : Prop :=
  ∃ before after, segment = before ++ '=' :: after ∧ '=' ∉ before ∧
    trimChars before = name.toList ∧ trimChars after = value.toList ∧ value ≠ ""

/-- The first of all segments that set a name sets it to a value. -/
def SetsFirst (name value : String) (segments : List (List Char)) : Prop :=
  ∃ front segment back, segments = front ++ segment :: back ∧ Sets name value segment ∧
    ∀ other ∈ front, ∀ value, ¬ Sets name value other

/-- No segment sets a name. -/
def Unset (name : String) (segments : List (List Char)) : Prop :=
  ∀ segment ∈ segments, ∀ value, ¬ Sets name value segment

section

variable {name value : String} {segment : List Char} {segments : List (List Char)}

theorem segmentValue?_eq_some :
    segmentValue? name segment = some value ↔ Sets name value segment := by
  constructor
  · intro found
    rw [segmentValue?] at found
    cases cut : cutChars '=' segment with
    | none => rw [cut] at found; cases found
    | some parts =>
        obtain ⟨before, after⟩ := parts
        obtain ⟨whole, free⟩ := cutChars_eq_some cut
        simp only [cut] at found
        split at found
        · cases found
        next filled =>
          cases found
          rw [Bool.or_eq_true, not_or, bne_iff_ne, not_not] at filled
          obtain ⟨filled, named⟩ := filled
          refine ⟨before, after, whole, free, ?_, String.toList_ofList.symm, ?_⟩
          · rw [← named, String.toList_ofList]
          · intro nothing
            exact filled (by rw [← String.toList_ofList (l := trimChars after), nothing]; rfl)
  · rintro ⟨before, after, rfl, free, named, valued, filled⟩
    have nonempty : value.toList.isEmpty = false := by simpa using filled
    rw [segmentValue?_eq free, named, valued, nonempty, String.ofList_toList, String.ofList_toList,
      bne_self_eq_false]
    rfl

theorem segmentValue?_eq_none :
    segmentValue? name segment = none ↔ ∀ value, ¬ Sets name value segment := by
  rw [Option.eq_none_iff_forall_ne_some]
  exact forall_congr' fun value => not_congr segmentValue?_eq_some

theorem firstValue?_eq_some :
    firstValue? name segments = some value ↔ SetsFirst name value segments := by
  simp only [firstValue?, List.findSome?_eq_some_iff, segmentValue?_eq_some, segmentValue?_eq_none]
  rfl

theorem firstValue?_eq_none : firstValue? name segments = none ↔ Unset name segments := by
  simp only [firstValue?, List.findSome?_eq_none_iff, segmentValue?_eq_none]
  rfl

theorem firstValue?_append (name : String) (front back : List (List Char)) :
    firstValue? name (front ++ back) = (firstValue? name front).or (firstValue? name back) :=
  List.findSome?_append

/-- A segment that does not set a name is as good as none. -/
theorem firstValue?_insert (unset : ∀ value, ¬ Sets name value segment)
    (front back : List (List Char)) :
    firstValue? name (front ++ segment :: back) = firstValue? name (front ++ back) := by
  have nothing : firstValue? name (segment :: back) = firstValue? name back :=
    List.findSome?_cons_of_isNone (Option.isNone_iff_eq_none.mpr (segmentValue?_eq_none.mpr unset))
  rw [firstValue?_append, firstValue?_append, nothing]

end

/-! ### The same segments in other values -/

theorem firstValue?_join (name : String) (values : List String) :
    firstValue? name (segments [";".intercalate values]) = firstValue? name (segments values) := by
  cases values with
  | nil => rfl
  | cons value values =>
      have joined : segments [";".intercalate (value :: values)] = segments (value :: values) := by
        have texts : (value :: values).map String.toList ≠ [] := List.cons_ne_nil _ _
        have mark : ";".toList = [';'] := rfl
        rw [segments, List.flatMap_singleton, String.toList_intercalate, mark,
          piecesOf_intercalate ';' texts, segments, List.flatMap_map]
      rw [joined]

theorem firstValue?_regroup (name : String) (groups : List (List String)) :
    firstValue? name (segments (groups.map (";".intercalate ·))) =
      firstValue? name (segments groups.flatten) := by
  induction groups with
  | nil => rfl
  | cons values groups ih =>
      have split (first rest : List String) :
          segments (first ++ rest) = segments first ++ segments rest := List.flatMap_append
      rw [List.map_cons, List.flatten_cons, split, ← List.singleton_append, split,
        firstValue?_append, firstValue?_append, firstValue?_join, ih]

/-! ### The cookie of a session -/

/-- A value that a segment sets is trimmed, and no semicolon is in it. -/
theorem Sets.value_eq {name value : String} {segment : List Char} (sets : Sets name value segment)
    (whole : ';' ∉ segment) : trimChars value.toList = value.toList ∧ ';' ∉ value.toList := by
  obtain ⟨before, after, rfl, -, -, valued, -⟩ := sets
  rw [← valued]
  refine ⟨trimChars_trimChars after, fun member => whole ?_⟩
  exact List.mem_append_right _ (List.mem_cons_of_mem _ (mem_of_mem_trimChars member))

theorem Sets.filled {name value : String} {segment : List Char} (sets : Sets name value segment) :
    value ≠ "" := by
  obtain ⟨_, _, -, -, -, -, filled⟩ := sets
  exact filled

/-- The pair of a session sets the session cookie, and nothing else. -/
theorem segmentValue?_pair (name : String) {sessionId : String}
    (trimmed : trimChars sessionId.toList = sessionId.toList) (filled : sessionId ≠ "") :
    segmentValue? name (sessionCookie.toList ++ '=' :: sessionId.toList) =
      if sessionCookie = name then some sessionId else none := by
  have free : '=' ∉ sessionCookie.toList := by decide
  have named : trimChars sessionCookie.toList = sessionCookie.toList := by decide
  have nonempty : sessionId.toList.isEmpty = false := by simpa using filled
  rw [segmentValue?_eq free, trimmed, named, nonempty, String.ofList_toList, String.ofList_toList,
    Bool.false_or]
  by_cases same : sessionCookie = name
  · rw [if_pos same, if_neg (by simp [same])]
  · rw [if_neg same, if_pos (by simp [same])]

/-- The session cookie that is sent names the session that it came from. -/
theorem ofCookies?_cookie {values : List String} {tokens : SessionTokens}
    (granted : ofCookies? values = some tokens) (referer : String) :
    ofCookies? [(Session.ofTokens tokens referer).cookie] = some ⟨tokens.sessionId, none⟩ := by
  have found := (ofCookies?_eq_some.mp granted).1
  obtain ⟨front, segment, back, all, sets, -⟩ := firstValue?_eq_some.mp found
  have listed : segment ∈ segments values := by
    rw [all]
    exact List.mem_append_right _ List.mem_cons_self
  obtain ⟨text, -, piece⟩ := List.mem_flatMap.mp listed
  obtain ⟨trimmed, whole⟩ := sets.value_eq (not_mem_of_mem_piecesOf piece)
  have pair : segments [sessionCookie ++ "=" ++ tokens.sessionId] =
      [sessionCookie.toList ++ '=' :: tokens.sessionId.toList] := by
    have text : (sessionCookie ++ "=" ++ tokens.sessionId).toList =
        sessionCookie.toList ++ '=' :: tokens.sessionId.toList := by simp
    rw [segments, List.flatMap_singleton, text]
    refine piecesOf_unmarked fun member => ?_
    rcases List.mem_append.mp member with named | valued
    · exact absurd named (by decide)
    · exact (List.mem_cons.mp valued).elim (by decide) whole
  have own := segmentValue?_pair sessionCookie trimmed sets.filled
  have other := segmentValue?_pair csrfCookie trimmed sets.filled
  rw [if_pos rfl] at own
  rw [if_neg (by decide)] at other
  rw [Session.ofTokens, ofCookies?_eq, pair]
  simp only [firstValue?, List.findSome?_cons, own, other, List.findSome?_nil, Option.map_some]

/-! ### Tokens of a login -/

theorem warnings_eq {values : List String} {tokens : SessionTokens}
    (granted : ofCookies? values = some tokens) :
    (Unset csrfCookie (segments values) → tokens.warnings = [.missingCsrfCookie csrfCookie]) ∧
      (¬ Unset csrfCookie (segments values) → tokens.warnings = []) := by
  rw [← firstValue?_eq_none, (ofCookies?_eq_some.mp granted).2, warnings]
  cases tokens.csrfToken with
  | none => exact ⟨fun _ => rfl, fun set => absurd rfl set⟩
  | some csrfToken => exact ⟨nofun, fun _ => rfl⟩

/-- Cookies give tokens as the first segments say that set their names. What sets neither name, and
how segments are spread over values, makes no difference. -/
theorem tokens_by_first_segment (values : List String) :
    (ofCookies? values = none ↔ Unset sessionCookie (segments values)) ∧
    (∀ tokens, ofCookies? values = some tokens ↔
      SetsFirst sessionCookie tokens.sessionId (segments values) ∧
        ∀ csrfToken, tokens.csrfToken = some csrfToken ↔
          SetsFirst csrfCookie csrfToken (segments values)) ∧
    (∀ tokens, ofCookies? values = some tokens →
      (Unset csrfCookie (segments values) → tokens.warnings = [.missingCsrfCookie csrfCookie]) ∧
        (¬ Unset csrfCookie (segments values) → tokens.warnings = [])) ∧
    (∀ groups : List (List String), groups.flatten = values →
      ofCookies? (groups.map (";".intercalate ·)) = ofCookies? values) ∧
    (∀ front segment back others, segments values = front ++ back →
      segments others = front ++ segment :: back →
      (∀ value, ¬ Sets sessionCookie value segment ∧ ¬ Sets csrfCookie value segment) →
        ofCookies? others = ofCookies? values) ∧
    ∀ tokens referer, ofCookies? values = some tokens →
      ofCookies? [(Session.ofTokens tokens referer).cookie] = some ⟨tokens.sessionId, none⟩ := by
  refine ⟨?_, fun tokens => ?_, fun _ => warnings_eq, ?_, ?_,
    fun _ referer granted => ofCookies?_cookie granted referer⟩
  · rw [ofCookies?_eq, Option.map_eq_none_iff, firstValue?_eq_none]
  · simp only [ofCookies?_eq_some, ← firstValue?_eq_some]
    refine and_congr_right fun _ => ⟨fun same csrfToken => by rw [same], fun companion => ?_⟩
    exact (Option.ext companion).symm
  · rintro groups rfl
    rw [ofCookies?_eq, ofCookies?_eq, firstValue?_regroup, firstValue?_regroup]
  · intro front segment back others here there unset
    rw [ofCookies?_eq, ofCookies?_eq, here, there, firstValue?_insert fun value => (unset value).1,
      firstValue?_insert fun value => (unset value).2]

/-- Cookies that name both tokens more than once, at first without a value. -/
def repeatedCookies : List String :=
  ["isicsrf= ; isisessid=;path=/", "other=isisessid=no; isisessid = one=1 ; HttpOnly",
    "isicsrf=two;isisessid=late"]

theorem tokens_by_first_segment_repeated :
    ofCookies? repeatedCookies = some ⟨"one=1", some "two"⟩ ∧
      SetsFirst sessionCookie "one=1" (segments repeatedCookies) ∧
      SetsFirst csrfCookie "two" (segments repeatedCookies) ∧
      ofCookies? [";".intercalate repeatedCookies] = ofCookies? repeatedCookies ∧
      ofCookies? ["isisessid=one=1"] = some ⟨"one=1", none⟩ := by
  have granted : ofCookies? repeatedCookies = some ⟨"one=1", some "two"⟩ := by decide +kernel
  obtain ⟨-, first, -, regrouped, -, cookie⟩ := tokens_by_first_segment repeatedCookies
  obtain ⟨session, csrf⟩ := (first _).mp granted
  exact ⟨granted, session, (csrf "two").mp rfl, regrouped [repeatedCookies] (by simp),
    cookie _ "" granted⟩

end ClusterRest.SessionTokens
