import ClusterRest.Proofs.Text
import ClusterRest.Proofs.Utf8
import ClusterRest.Transport.Connect
import Mathlib.Data.List.Forall2

/-!
Tokens in the cookies that replies set. Cookies that are read one after the other give the tokens
that the first segments set. Cookies that are the same but for their tokens grant a session or refuse
one alike, and a session that they grant can be sent.
-/

namespace ClusterRest

open Text

namespace Http

/-- Visible ASCII, spaces and tabs. -/
def isVisible (character : Char) : Bool :=
  (' ' ≤ character && character ≤ '~') || character = '\t'

/-- The bytes of a header value, each as the character with its number. -/
def valueChars (value : Bytes) : List Char := value.map fun byte => Char.ofNat byte.toNat

theorem isVisible_ofNat (byte : UInt8) :
    isVisible (Char.ofNat byte.toNat) = ((0x20 ≤ byte && byte < 0x7F) || byte == 0x09) := by
  have all : ∀ code : Fin 256, isVisible (Char.ofNat code) =
      ((0x20 ≤ UInt8.ofNat code && UInt8.ofNat code < 0x7F) || UInt8.ofNat code == 0x09) := by
    decide +kernel
  simpa using all ⟨byte.toNat, byte.toNat_lt⟩

theorem visibleText?_eq (value : Bytes) :
    visibleText? value = if (valueChars value).all isVisible then
      some (String.ofList (valueChars value)) else none := by
  have same : (valueChars value).all isVisible =
      value.all fun byte => (0x20 ≤ byte && byte < 0x7F) || byte == 0x09 := by
    rw [valueChars, List.all_map]
    exact congrArg value.all (funext isVisible_ofNat)
  rw [visibleText?, same]
  rfl

theorem isValueByte_of_visible {character : Char} (visible : isVisible character = true) :
    character.toNat < 0x80 ∧ isValueByte (.ofNat character.toNat) = true := by
  have ascii : character.toNat < 0x80 := by
    simp only [isVisible, Bool.or_eq_true, Bool.and_eq_true, decide_eq_true_eq] at visible
    rcases visible with ⟨_, greatest⟩ | rfl
    · exact Nat.lt_of_le_of_lt greatest (by decide)
    · decide
  have all : ∀ code : Fin 128, isVisible (Char.ofNat code) = true →
      isValueByte (.ofNat code) = true := by decide +kernel
  exact ⟨ascii, all ⟨character.toNat, ascii⟩ (by simpa using visible)⟩

theorem isHeaderValue_of_visible {characters : List Char}
    (visible : characters.all isVisible = true) :
    isHeaderValue (Bytes.ofChars characters) = true := by
  induction characters with
  | nil => rfl
  | cons character rest ih =>
      rw [List.all_cons, Bool.and_eq_true] at visible
      obtain ⟨ascii, valid⟩ := isValueByte_of_visible visible.1
      rw [Bytes.ofChars_cons_ascii ascii, isHeaderValue, List.all_cons, valid]
      exact ih visible.2

end Http

/-! ### The first segments that set the tokens -/

namespace SessionTokens

/-- The trimmed value of a segment `name=value` for a name; none where it is blank. -/
def segmentValue? (name : String) (segment : List Char) : Option String :=
  match cutChars '=' segment with
  | none => none
  | some (before, after) =>
    let value := trimChars after
    if value.isEmpty || String.ofList (trimChars before) != name then none
    else some (String.ofList value)

def segments (values : List String) : List (List Char) :=
  values.flatMap fun value => piecesOf ';' value.toList

/-- The first value for a name among segments. -/
def firstValue? (name : String) (segments : List (List Char)) : Option String :=
  segments.findSome? (segmentValue? name)

end SessionTokens

namespace CookieScan

open SessionTokens

theorem take_eq (scan : CookieScan) (name value : String) :
    scan.take name value =
      ⟨scan.sessionId.or (if name = sessionCookie then some value else none),
        scan.csrfToken.or (if name = csrfCookie then some value else none)⟩ := by
  obtain ⟨sessionId, csrfToken⟩ := scan
  have distinct : sessionCookie ≠ csrfCookie := by decide
  by_cases session : name = sessionCookie
  · subst session
    cases sessionId <;> simp [take, distinct]
  · by_cases csrf : name = csrfCookie
    · subst csrf
      cases csrfToken <;> simp [take, session]
    · simp [take, session, csrf]

/-- One segment sets the token that it names if the scan has not got it yet, and no other. -/
theorem readSegment_eq (scan : CookieScan) (segment : List Char) :
    scan.readSegment segment =
      ⟨scan.sessionId.or (segmentValue? sessionCookie segment),
        scan.csrfToken.or (segmentValue? csrfCookie segment)⟩ := by
  rw [readSegment, segmentValue?, segmentValue?]
  cases cutChars '=' segment with
  | none => simp only [Option.or_none]
  | some parts =>
      obtain ⟨name, value⟩ := parts
      simp only
      cases (trimChars value).isEmpty with
      | true => simp only [if_true, Bool.true_or, Option.or_none]
      | false =>
          simp only [Bool.false_or, Bool.false_eq_true, if_false, take_eq, bne_iff_ne, ne_eq,
            ite_not]

/-- After some segments, a token is that of the first of them that sets it, unless the scan had it
before. -/
theorem foldl_readSegment (scan : CookieScan) (segments : List (List Char)) :
    segments.foldl readSegment scan =
      ⟨scan.sessionId.or (firstValue? sessionCookie segments),
        scan.csrfToken.or (firstValue? csrfCookie segments)⟩ := by
  induction segments generalizing scan with
  | nil => simp only [List.foldl_nil, firstValue?, List.findSome?_nil, Option.or_none]
  | cons segment segments ih =>
      have first (name : String) : firstValue? name (segment :: segments) =
          (segmentValue? name segment).or (firstValue? name segments) := by
        rw [firstValue?, List.findSome?_cons]
        cases segmentValue? name segment <;> rfl
      rw [List.foldl_cons, ih, readSegment_eq, first, first, Option.or_assoc, Option.or_assoc]

theorem foldl_readValue (scan : CookieScan) (values : List String) :
    values.foldl readValue scan = (segments values).foldl readSegment scan := by
  rw [segments, List.foldl_flatMap]
  rfl

end CookieScan

namespace SessionTokens

open Http (isVisible valueChars visibleText?)

/-- The tokens are the first values of both names among all segments. -/
theorem ofCookies?_eq (values : List String) :
    ofCookies? values = (firstValue? sessionCookie (segments values)).map fun sessionId =>
      ⟨sessionId, firstValue? csrfCookie (segments values)⟩ := by
  rw [ofCookies?, CookieScan.foldl_readValue, CookieScan.foldl_readSegment]
  simp only [CookieScan.start, Option.none_or]

theorem ofCookies?_eq_some {values : List String} {tokens : SessionTokens} :
    ofCookies? values = some tokens ↔
      firstValue? sessionCookie (segments values) = some tokens.sessionId ∧
        firstValue? csrfCookie (segments values) = tokens.csrfToken := by
  rw [ofCookies?_eq, Option.map_eq_some_iff]
  constructor
  · rintro ⟨sessionId, found, rfl⟩
    exact ⟨found, rfl⟩
  · intro ⟨found, companion⟩
    exact ⟨tokens.sessionId, found, by rw [companion]⟩

/-! ### Cookies that are the same but for tokens -/

/-- What may stand for a token: visible text that is not blank. -/
def isToken (characters : List Char) : Bool :=
  characters.all isVisible && !(trimChars characters).isEmpty

def isTokenName (characters : List Char) : Bool :=
  [sessionCookie, csrfCookie].contains (String.ofList (trimChars characters))

/-- A segment with a star for the token that it sets. -/
def withoutToken (segment : List Char) : List Char :=
  match cutChars '=' segment with
  | none => segment
  | some (name, token) =>
    if isTokenName name && isToken token then name ++ ['=', '*'] else segment

/-- Whether cookies are the same but for their tokens. -/
def SameCookies (first second : Bytes) : Prop :=
  (piecesOf ';' (valueChars first)).map withoutToken =
    (piecesOf ';' (valueChars second)).map withoutToken

instance (first second : Bytes) : Decidable (SameCookies first second) :=
  inferInstanceAs (Decidable (_ = _))

theorem withoutToken_cases (segment : List Char) :
    withoutToken segment = segment ∨
      ∃ name token, segment = name ++ '=' :: token ∧ '=' ∉ name ∧ isToken token = true ∧
        withoutToken segment = name ++ ['=', '*'] := by
  rw [withoutToken]
  cases cut : cutChars '=' segment with
  | none => exact .inl rfl
  | some parts =>
      obtain ⟨name, token⟩ := parts
      obtain ⟨whole, free⟩ := cutChars_eq_some cut
      cases secret : isTokenName name && isToken token with
      | false => exact .inl (if_neg (by simp [secret]))
      | true =>
          rw [Bool.and_eq_true] at secret
          exact .inr ⟨name, token, whole, free, secret.2, by simp [secret]⟩

theorem segmentValue?_eq {name : String} {before : List Char} (free : '=' ∉ before)
    (after : List Char) :
    segmentValue? name (before ++ '=' :: after) =
      if (trimChars after).isEmpty || String.ofList (trimChars before) != name then none
      else some (String.ofList (trimChars after)) := by
  rw [segmentValue?, cutChars_append free, cutChars, if_pos rfl, Option.map_some]
  simp only [List.append_nil]

/-- A token is found with a star in its place just where it is found itself. -/
theorem isSome_segmentValue? (name : String) (segment : List Char) :
    (segmentValue? name (withoutToken segment)).isSome = (segmentValue? name segment).isSome := by
  rcases withoutToken_cases segment with same | ⟨before, token, rfl, free, isToken, hidden⟩
  · rw [same]
  · rw [SessionTokens.isToken, Bool.and_eq_true, Bool.not_eq_true'] at isToken
    have star : (trimChars ['*']).isEmpty = false := by decide
    rw [hidden, segmentValue?_eq free, segmentValue?_eq free, isToken.2, star]
    split <;> rfl

theorem all_withoutToken (segment : List Char) :
    (withoutToken segment).all isVisible = segment.all isVisible := by
  rcases withoutToken_cases segment with same | ⟨before, token, rfl, free, isToken, hidden⟩
  · rw [same]
  · rw [SessionTokens.isToken, Bool.and_eq_true] at isToken
    have sign : isVisible '=' = true := by decide
    have star : isVisible '*' = true := by decide
    simp only [hidden, List.all_append, List.all_cons, List.all_nil, isToken.1, sign, star,
      Bool.and_true]

namespace SameCookies

theorem refl (value : Bytes) : SameCookies value value := rfl

theorem all_visible {first second : Bytes} (same : SameCookies first second) :
    (valueChars first).all isVisible = (valueChars second).all isVisible := by
  have mark : isVisible ';' = true := by decide
  have pieces (value : Bytes) : (valueChars value).all isVisible =
      ((piecesOf ';' (valueChars value)).map withoutToken).all (·.all isVisible) := by
    rw [← all_piecesOf mark, List.all_map]
    exact congrArg _ (funext fun segment => (all_withoutToken segment).symm)
  rw [pieces first, pieces second, same]

/-- The segments of texts that are visible, with stars for tokens. -/
theorem map_segments {first second : List Bytes} (same : List.Forall₂ SameCookies first second) :
    (segments (first.filterMap visibleText?)).map withoutToken =
      (segments (second.filterMap visibleText?)).map withoutToken := by
  induction same with
  | nil => rfl
  | @cons value other values others head _ ih =>
      rw [List.filterMap_cons, List.filterMap_cons, Http.visibleText?_eq, Http.visibleText?_eq,
        head.all_visible]
      cases (valueChars other).all isVisible with
      | false => exact ih
      | true =>
          simp only [if_true, segments, List.flatMap_cons, List.map_append, String.toList_ofList]
          exact congrArg₂ _ head ih

end SameCookies

theorem isSome_firstValue? (name : String) (segments : List (List Char)) :
    (firstValue? name segments).isSome =
      (segments.map withoutToken).any fun segment => (segmentValue? name segment).isSome := by
  rw [firstValue?, Bool.eq_iff_iff, List.findSome?_isSome_iff, List.any_map, List.any_eq_true]
  exact exists_congr fun segment => by rw [Function.comp_apply, isSome_segmentValue?]

/-- What a segment gives a name is part of the segment, and something. -/
theorem of_segmentValue? {name token : String} {segment : List Char}
    (value : segmentValue? name segment = some token) :
    (∀ character ∈ token.toList, character ∈ segment) ∧ token ≠ "" := by
  rw [segmentValue?] at value
  cases cut : cutChars '=' segment with
  | none => rw [cut] at value; cases value
  | some parts =>
      obtain ⟨before, after⟩ := parts
      simp only [cut] at value
      split at value
      · cases value
      next filled =>
        cases value
        rw [Bool.or_eq_true, not_or] at filled
        rw [String.toList_ofList]
        refine ⟨fun character member => ?_, fun nothing => ?_⟩
        · rw [(cutChars_eq_some cut).1]
          exact List.mem_append_right _ (List.mem_cons_of_mem _ (mem_of_mem_trimChars member))
        · have blank := congrArg String.toList nothing
          rw [String.toList_ofList] at blank
          exact filled.1 (by rw [blank]; rfl)

/-- A token that is found is visible, and not blank. -/
theorem of_firstValue? {name token : String} {values : List Bytes}
    (found : firstValue? name (segments (values.filterMap visibleText?)) = some token) :
    token.toList.all isVisible = true ∧ token ≠ "" := by
  obtain ⟨segment, member, value⟩ := List.exists_of_findSome?_eq_some found
  obtain ⟨text, shown, piece⟩ := List.mem_flatMap.mp member
  obtain ⟨bytes, _, visible⟩ := List.mem_filterMap.mp shown
  rw [Http.visibleText?_eq] at visible
  split at visible
  next all =>
    cases visible
    rw [String.toList_ofList] at piece
    have mark : isVisible ';' = true := by decide
    rw [← all_piecesOf mark] at all
    have clear := List.all_eq_true.mp (List.all_eq_true.mp all segment piece)
    obtain ⟨part, filled⟩ := of_segmentValue? value
    exact ⟨List.all_eq_true.mpr fun character member => clear character (part character member),
      filled⟩
  · cases visible

end SessionTokens

/-! ### Replies that are the same but for tokens -/

/-- A header with all its values that is the same but for tokens, if it sets cookies at all. -/
def SameHeader (first second : String × List Bytes) : Prop :=
  first.1 = second.1 ∧ (first.2 = second.2 ∨
    first.1 = Transport.setCookieName ∧ List.Forall₂ SessionTokens.SameCookies first.2 second.2)

namespace Http.Headers

/-- Headers that are the same but for tokens in the cookies that they set. -/
def SameButTokens (first second : Headers) : Prop :=
  List.Forall₂ SameHeader first.groups second.groups

theorem SameButTokens.refl (headers : Headers) : headers.SameButTokens headers :=
  List.forall₂_same.mpr fun _ _ => ⟨rfl, .inl rfl⟩

variable {first second : Headers}

theorem SameButTokens.values (same : first.SameButTokens second) {name : String}
    (other : name ≠ Transport.setCookieName) : first.values name = second.values name := by
  rw [Headers.values, Headers.values]
  rw [SameButTokens] at same
  generalize first.groups = one, second.groups = two at same ⊢
  induction same with
  | nil => rfl
  | cons head _ ih =>
      obtain ⟨named, equal | ⟨cookies, _⟩⟩ := head
      · rw [valuesIn, valuesIn, named, equal, ih]
      · rw [valuesIn, valuesIn, ← named, cookies, if_neg (Ne.symm other),
          if_neg (Ne.symm other), ih]

theorem SameButTokens.cookies (same : first.SameButTokens second) :
    List.Forall₂ SessionTokens.SameCookies (first.values Transport.setCookieName)
      (second.values Transport.setCookieName) := by
  rw [Headers.values, Headers.values]
  rw [SameButTokens] at same
  generalize first.groups = one, second.groups = two at same ⊢
  induction same with
  | nil => exact .nil
  | cons head _ ih =>
      obtain ⟨named, values⟩ := head
      rw [valuesIn, valuesIn, named]
      split
      · rcases values with equal | ⟨_, cookies⟩
        · rw [equal]
          exact List.forall₂_same.mpr fun value _ => .refl value
        · exact cookies
      · exact ih

end Http.Headers

/-- Replies that are the same but for tokens in the cookies that they set. -/
structure Reply.Alike (first second : Reply) : Prop where
  status : first.status = second.status
  headers : first.headers.SameButTokens second.headers
  body : first.body = second.body

/-- Sessions that nobody tells apart who does not see their secrets. -/
structure Session.Alike (first second : Session) : Prop where
  generation : first.generation = second.generation
  referer : first.referer = second.referer
  isAuthenticated : first.isAuthenticated = second.isAuthenticated
  cookie : Http.isHeaderValue (Bytes.ofString first.cookie) =
    Http.isHeaderValue (Bytes.ofString second.cookie)
  csrfToken : Http.isHeaderValue (Bytes.ofString first.csrfToken) =
    Http.isHeaderValue (Bytes.ofString second.csrfToken)

theorem Session.Alike.refl (session : Session) : session.Alike session := ⟨rfl, rfl, rfl, rfl, rfl⟩

/-- Outcomes that are alike: the same failure, or values that are alike. -/
inductive SameOutcome {α β : Type} (alike : α → β → Prop) :
    Except ClientError α → Except ClientError β → Prop
  | failed (error : ClientError) : SameOutcome alike (.error error) (.error error)
  | given {first : α} {second : β} (related : alike first second) :
      SameOutcome alike (.ok first) (.ok second)

namespace SessionTokens

open Http (isVisible visibleText? isHeaderValue)

/-- A session whose secrets can be sent. -/
structure CanBeSent (session : Session) : Prop where
  isAuthenticated : session.isAuthenticated = true
  cookie : isHeaderValue (Bytes.ofString session.cookie) = true
  csrfToken : isHeaderValue (Bytes.ofString session.csrfToken) = true

/-- What cookies grant can be sent. -/
theorem canBeSent_ofTokens {values : List Bytes} {tokens : SessionTokens}
    (granted : ofCookies? (values.filterMap visibleText?) = some tokens) (referer : String) :
    CanBeSent (Session.ofTokens tokens referer) := by
  obtain ⟨found, companion⟩ := ofCookies?_eq_some.mp granted
  have start : ((sessionCookie ++ "=").toList).all isVisible = true := by decide
  refine ⟨?_, ?_, ?_⟩
  · have filled : (sessionCookie ++ "=" ++ tokens.sessionId).toList ≠ [] := by
      rw [String.toList_append, String.toList_append]
      exact fun nothing => absurd (List.append_eq_nil_iff.mp nothing).1 (by decide)
    rw [Session.isAuthenticated, Session.ofTokens, Bool.not_eq_true']
    exact Bool.eq_false_iff.mpr fun empty =>
      filled (congrArg String.toList (String.isEmpty_iff.mp empty))
  · refine Http.isHeaderValue_of_visible ?_
    rw [Session.ofTokens, String.toList_append, List.all_append, start, (of_firstValue? found).1]
    rfl
  · rw [Session.ofTokens]
    cases given : tokens.csrfToken with
    | none => rfl
    | some csrfToken =>
        exact Http.isHeaderValue_of_visible (of_firstValue? (companion.trans given)).1

/-- Cookies that are the same but for their tokens grant a session alike, or refuse one. -/
theorem isSome_ofCookies? {first second : List Bytes}
    (same : List.Forall₂ SameCookies first second) :
    (ofCookies? (first.filterMap visibleText?)).isSome =
      (ofCookies? (second.filterMap visibleText?)).isSome := by
  rw [ofCookies?_eq, ofCookies?_eq, Option.isSome_map, Option.isSome_map, isSome_firstValue?,
    isSome_firstValue?, SameCookies.map_segments same]

end SessionTokens

namespace Transport

open SessionTokens

/-- Replies that are the same but for tokens grant sessions that are alike, or fail alike. -/
theorem grantedTokens_alike {first second : Reply} (same : first.Alike second) (referer : String) :
    SameOutcome Session.Alike ((grantedTokens first).map (Session.ofTokens · referer))
      ((grantedTokens second).map (Session.ofTokens · referer)) := by
  have cookies := isSome_ofCookies? same.headers.cookies
  rw [grantedTokens, grantedTokens, setCookies, setCookies, same.status, same.body]
  split
  · cases one : ofCookies? ((first.headers.values setCookieName).filterMap Http.visibleText?) with
    | none =>
        rw [one] at cookies
        rw [Option.isSome_eq_false_iff.mp cookies.symm |> Option.isNone_iff_eq_none.mp]
        exact .failed _
    | some tokens =>
        rw [one] at cookies
        obtain ⟨others, other⟩ := Option.isSome_iff_exists.mp cookies.symm
        rw [other]
        have here := canBeSent_ofTokens one referer
        have there := canBeSent_ofTokens other referer
        exact .given ⟨rfl, rfl, here.isAuthenticated.trans there.isAuthenticated.symm,
          here.cookie.trans there.cookie.symm, here.csrfToken.trans there.csrfToken.symm⟩
  · split
    · exact .failed _
    · exact .failed _

end Transport

end ClusterRest
