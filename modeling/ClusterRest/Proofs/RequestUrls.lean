import ClusterRest.Endpoint
import ClusterRest.Proofs.Url.Addresses

/-!
URLs of requests. Main statement: a request goes to the server that the endpoint names, with the
endpoint's user and password, whatever its path, identifier and parameters are.
-/

namespace ClusterRest.Url

theorem sameServer_goOn (bare : Url) (tail path : List Char) :
    SameServer (bare.goOn tail) (bare.goOn path) := ⟨rfl, rfl, rfl, rfl, rfl⟩

/-- A web address that goes on after its authority is closed goes on in what follows the
authority. -/
theorem Splits.exists_goOn {text authority path tail : List Char} {scheme : String} {bare : Url}
    (splits : Splits text scheme authority path bare)
    (closed : Closes tail ∨ text.getLast? = some '/') {longer : Url}
    (ok : parseChars (text ++ tail) = .ok longer) :
    ∃ after, clean (text ++ tail) = clean text ++ after ∧ Closes (path ++ after) ∧
      longer = bare.goOn (path ++ after) := by
  have goesOn {after : List Char} (closes : Closes (path ++ after))
      (cleaned : clean (text ++ tail) = clean text ++ after) :
      ∃ after, clean (text ++ tail) = clean text ++ after ∧ Closes (path ++ after) ∧
        longer = bare.goOn (path ++ after) := by
    rw [splits.parseChars_goesOn closes cleaned] at ok
    exact ⟨after, cleaned, closes, (Except.ok.inj ok).symm⟩
  have cleaned := clean_append splits.clean_ne_nil tail
  split at cleaned
  · exact goesOn (by rw [List.append_nil]; exact splits.closes) cleaned
  cases path with
  | cons mark rest =>
      exact goesOn (closes_append splits.closes (List.cons_ne_nil mark rest) _) cleaned
  | nil =>
      rcases closed with closes | slash
      · have closesMore := closes_filter (closes_trimEnd closes)
        by_cases gapless : gap text = []
        · rw [gapless, List.nil_append] at cleaned
          exact goesOn closesMore cleaned
        · -- the gap would belong to the host or the port
          obtain ⟨cause, error⟩ :=
            splits.error_of_gap (isBlank_gap text) gapless closesMore cleaned
          rw [ok] at error
          cases error
      · have last := getLast?_clean splits.clean_ne_nil slash
        exact absurd (splits.not_isSlash_getLast? '/' last) (by decide)

/-- So it names the same server. -/
theorem parseChars_append {text tail : List Char}
    (closed : Closes tail ∨ text.getLast? = some '/') {url longer : Url}
    (ok : parseChars text = .ok url) (web : IsWeb url.scheme)
    (longerOk : parseChars (text ++ tail) = .ok longer) : SameServer longer url := by
  obtain ⟨authority, path, bare, splits, rfl⟩ := exists_splits ok web
  obtain ⟨after, _, _, rfl⟩ := splits.exists_goOn closed longerOk
  exact sameServer_goOn bare (path ++ after) path

end ClusterRest.Url

namespace ClusterRest.Endpoint

open Url

theorem url_eq_ok {endpoint path id : String} {params : Params} {joined : Url} :
    url endpoint path id params = .ok joined ↔
      parseChars (joinChars endpoint.toList path.toList id.toList params) = .ok joined := by
  have read : Url.parse (join endpoint path id params) =
      parseChars (joinChars endpoint.toList path.toList id.toList params) := by
    rw [Url.parse, join, String.toList_ofList]
  rw [← read, url]
  cases Url.parse (join endpoint path id params) with
  | ok found => simp only [Except.ok.injEq]
  | error cause => simp only [reduceCtorEq]

theorem withSlash_slash (text : List Char) : withSlash (text ++ ['/']) = text ++ ['/'] := by
  rw [withSlash, endsInSlash, List.getLast?_concat]
  rfl

theorem withSlash_eq (text : List Char) : ∃ tail, withSlash text = text ++ tail := by
  rw [withSlash]
  split
  · exact ⟨[], (List.append_nil text).symm⟩
  · exact ⟨['/'], rfl⟩

/-- What follows the endpoint begins with a slash or a question mark, unless the endpoint ends in
a slash. -/
theorem joinChars_eq (endpoint path id : List Char) (params : Params) :
    ∃ tail, joinChars endpoint path id params = endpoint ++ tail ∧
      (Closes tail ∨ endpoint.getLast? = some '/') := by
  have query : Closes (if params.isEmpty then [] else '?' :: params.encodedChars) := by
    split
    · exact fun _ head => nomatch head
    · exact fun _ head => Option.mem_some.mp head ▸ rfl
  rw [joinChars, joinPath]
  cases bare : path.isEmpty && id.isEmpty with
  | true =>
      obtain ⟨rfl, rfl⟩ : path = [] ∧ id = [] := by simpa using bare
      exact ⟨_, by simp, .inl query⟩
  | false =>
      simp only [Bool.false_eq_true, if_false]
      obtain ⟨tail, located⟩ : ∃ tail, (if path.isEmpty then withSlash endpoint
          else withSlash (withSlash endpoint ++ dropSlash path)) = withSlash endpoint ++ tail := by
        split
        · exact ⟨[], (List.append_nil _).symm⟩
        · obtain ⟨tail, written⟩ := withSlash_eq (withSlash endpoint ++ dropSlash path)
          exact ⟨dropSlash path ++ tail, by rw [written, List.append_assoc]⟩
      rw [located, withSlash, List.append_assoc, List.append_assoc]
      split
      next slash => exact ⟨_, rfl, .inr (by simpa [endsInSlash] using slash)⟩
      · exact ⟨_, List.append_assoc .., .inl fun _ head => Option.mem_some.mp head ▸ rfl⟩

/-- A request goes to the server that the endpoint names, as the endpoint's user. -/
theorem url_sameServer {endpoint path id : String} {params : Params} {server joined : Url}
    (ok : Url.parse endpoint = .ok server) (web : IsWeb server.scheme)
    (request : url endpoint path id params = .ok joined) : SameServer joined server := by
  obtain ⟨tail, written, closed⟩ :=
    joinChars_eq endpoint.toList path.toList id.toList params
  rw [url] at request
  cases parsed : Url.parse (join endpoint path id params) with
  | error cause => simp only [parsed] at request; cases request
  | ok found =>
      simp only [parsed] at request
      cases request
      rw [Url.parse, join, String.toList_ofList, written] at parsed
      exact parseChars_append closed ok web parsed

def localServer : Url where
  scheme := "http"
  username := "user"
  password := some "secret"
  host := some (.ipv6 [0, 0, 0, 0, 0, 0, 0, 1])
  port := some 8080
  path := .segments [""]
  query := none
  fragment := none

theorem url_sameServer_localServer :
    let endpoint := "http://user:secret@[::1]:8080"
    let joined := { localServer with
      path := .segments ["", ""], fragment := some "@[::2]?page=%40" }
    Url.parse endpoint = .ok localServer ∧ IsWeb localServer.scheme ∧
      url endpoint "\\@evil.example" "../..//\t#@[::2]" ⟨[("page", [0x40])]⟩ = .ok joined ∧
      SameServer joined localServer := by
  have ok : Url.parse "http://user:secret@[::1]:8080" = .ok localServer := by decide
  have web : IsWeb localServer.scheme := .inl rfl
  have request : url "http://user:secret@[::1]:8080" "\\@evil.example" "../..//\t#@[::2]"
      ⟨[("page", [0x40])]⟩ = .ok { localServer with
        path := .segments ["", ""], fragment := some "@[::2]?page=%40" } := by rfl
  exact ⟨ok, web, request, url_sameServer ok web request⟩

end ClusterRest.Endpoint
