import ClusterRest.Proofs.Url.Authority
import ClusterRest.Proofs.Url.Paths

/-!
Web addresses as texts: what is read of an address that goes on after its end. Its authority stays
as it is, and the rest of it goes on where it ended, but for blanks at the old end.
-/

namespace ClusterRest.Url

open Text

/-! ### Cleaning a text that goes on -/

/-- A text without the controls and spaces at its end. -/
def trimEnd (text : List Char) : List Char := (text.reverse.dropWhile isControlOrSpace).reverse

/-- The controls and spaces at the end of a text. -/
def blankEnd (text : List Char) : List Char := (text.reverse.takeWhile isControlOrSpace).reverse

theorem clean_eq (text : List Char) :
    clean text = (trimEnd (text.dropWhile isControlOrSpace)).filter (!isTabOrNewline ·) := rfl

theorem trimEnd_append_blankEnd (text : List Char) : trimEnd text ++ blankEnd text = text := by
  rw [trimEnd, blankEnd, ← List.reverse_append, List.takeWhile_append_dropWhile,
    List.reverse_reverse]

theorem isBlank_blankEnd (text : List Char) : IsBlank (blankEnd text) := fun character member =>
  List.all_eq_true.mp List.all_takeWhile character (List.mem_reverse.mp member)

theorem trimEnd_append (text tail : List Char) :
    trimEnd (text ++ tail) =
      if (trimEnd tail).isEmpty then trimEnd text else text ++ trimEnd tail := by
  rw [trimEnd, List.reverse_append, List.dropWhile_append, trimEnd, List.isEmpty_reverse]
  split
  · rfl
  · rw [List.reverse_append, List.reverse_reverse]

theorem blankEnd_of_slash {text : List Char} (slash : text.getLast? = some '/') :
    blankEnd text = [] := by
  obtain ⟨front, rfl⟩ := List.getLast?_eq_some_iff.mp slash
  rw [blankEnd, List.reverse_append, List.reverse_cons, List.reverse_nil, List.nil_append,
    List.singleton_append, List.takeWhile_cons_of_neg (by decide), List.reverse_nil]

theorem closes_trimEnd {text : List Char} (closes : Closes text) : Closes (trimEnd text) := by
  have parts := trimEnd_append_blankEnd text
  cases trimmed : trimEnd text with
  | nil => exact fun _ head => nomatch head
  | cons first rest =>
      rw [trimmed] at parts
      rw [← parts] at closes
      exact closes

theorem closes_filter {text : List Char} (closes : Closes text) :
    Closes (text.filter (!isTabOrNewline ·)) := by
  cases text with
  | nil => exact fun _ head => nomatch head
  | cons first rest =>
      have ends := closes first rfl
      have kept : (!isTabOrNewline first) = true := by
        have marks : ['/', '\\', '?', '#'].all (!isTabOrNewline ·) = true := by decide
        exact List.all_eq_true.mp marks first (mem_of_endsAuthority ends)
      rw [List.filter_cons, if_pos kept]
      exact closes

theorem getLast?_filter_slash {text : List Char} (slash : text.getLast? = some '/') :
    (text.filter (!isTabOrNewline ·)).getLast? = some '/' := by
  obtain ⟨front, rfl⟩ := List.getLast?_eq_some_iff.mp slash
  rw [List.filter_append, List.getLast?_append]
  rfl

theorem started_ne_nil {text : List Char} (filled : clean text ≠ []) :
    text.dropWhile isControlOrSpace ≠ [] := by
  intro nothing
  rw [clean_eq, nothing] at filled
  exact filled rfl

theorem getLast?_started {text : List Char} (filled : clean text ≠ []) :
    (text.dropWhile isControlOrSpace).getLast? = text.getLast? := by
  have parts := List.takeWhile_append_dropWhile (p := isControlOrSpace) (l := text)
  rw [← congrArg List.getLast? parts, List.getLast?_append_of_ne_nil _ (started_ne_nil filled)]

theorem getLast?_clean {text : List Char} (filled : clean text ≠ [])
    (slash : text.getLast? = some '/') : (clean text).getLast? = some '/' := by
  have ends := (getLast?_started filled).trans slash
  have parts := trimEnd_append_blankEnd (text.dropWhile isControlOrSpace)
  rw [blankEnd_of_slash ends, List.append_nil] at parts
  rw [clean_eq, parts]
  exact getLast?_filter_slash ends

/-! ### The scheme -/

theorem readScheme_eq_some {input rest : List Char} {scheme : String}
    (read : readScheme input = some (scheme, rest)) :
    ∃ name, input = name ++ ':' :: rest ∧
      ∀ tail, readScheme (name ++ ':' :: tail) = some (scheme, tail) := by
  refine ⟨input.takeWhile isSchemeChar, ?_⟩
  have parts := List.takeWhile_append_dropWhile (p := isSchemeChar) (l := input)
  rw [readScheme] at read
  split at read
  next after cut =>
    split at read
    next letter =>
      cases read
      refine ⟨by rw [← cut, parts], fun tail => ?_⟩
      have stops : ∀ character ∈ (':' :: tail).head?, isSchemeChar character = false :=
        fun _ head => Option.mem_some.mp head ▸ (by decide)
      have taken := takeWhile_append_stops
        (List.all_eq_true.mp (List.all_takeWhile (p := isSchemeChar) (l := input))) stops
      simp only [readScheme, taken.1, taken.2, letter, if_true]
    · cases read
  · cases read

/-- The schemes of web addresses. -/
def IsWeb (scheme : String) : Prop := scheme = "http" ∨ scheme = "https"

theorem IsWeb.kind {scheme : String} (web : IsWeb scheme) :
    SchemeKind.ofScheme scheme = .special := by
  rcases web with rfl | rfl <;> decide

theorem parseChars_of_scheme {text rest : List Char} {scheme : String} (web : IsWeb scheme)
    (read : readScheme (clean text) = some (scheme, rest)) :
    parseChars text =
      readAuthority scheme .special (rest.dropWhile SchemeKind.special.isSlash) := by
  simp only [parseChars, read, web.kind]

theorem scheme_of_readAuthority {scheme : String} {kind : SchemeKind} {input : List Char}
    {url : Url} (ok : readAuthority scheme kind input = .ok url) : url.scheme = scheme := by
  rw [readAuthority] at ok
  cases user : readUserinfo kind input with
  | error cause => rw [user] at ok; cases ok
  | ok parts =>
      simp only [user, bind, Except.bind] at ok
      cases server : readHostAndPort scheme kind parts.2 with
      | error cause => rw [server] at ok; cases ok
      | ok found =>
          simp only [server] at ok
          split at ok
          · cases ok
          · cases ok
            rfl

theorem scheme_of_readFile {input : List Char} {url : Url} (ok : readFile input = .ok url) :
    url.scheme = "file" := by
  have isFile (host : Host) (names : List (List Char)) (rest : List Char) :
      (fileUrl host names rest).scheme = "file" := rfl
  rw [readFile.eq_def] at ok
  simp only [bind, Except.bind, pure, Except.pure] at ok
  grind

/-- An address is read by the scheme that stands before its first colon. -/
theorem readScheme_of_parseChars {text : List Char} {url : Url} (ok : parseChars text = .ok url) :
    ∃ rest, readScheme (clean text) = some (url.scheme, rest) := by
  rw [parseChars] at ok
  cases read : readScheme (clean text) with
  | none => rw [read] at ok; cases ok
  | some parts =>
      obtain ⟨scheme, rest⟩ := parts
      suffices same : url.scheme = scheme from ⟨rest, by rw [same]⟩
      simp only [read] at ok
      cases kind : SchemeKind.ofScheme scheme with
      | special =>
          simp only [kind] at ok
          exact scheme_of_readAuthority ok
      | file =>
          simp only [kind] at ok
          rw [scheme_of_readFile ok]
          unfold SchemeKind.ofScheme at kind
          split at kind
          next named => exact named.symm
          · split at kind <;> cases kind
      | other =>
          simp only [kind] at ok
          split at ok
          · exact scheme_of_readAuthority ok
          · cases ok
            rfl

/-! ### The gap at the end of a text -/

/-- The blanks at the end of a text that are part of it once it goes on. -/
def gap (text : List Char) : List Char := (blankEnd text).filter (!isTabOrNewline ·)

theorem isBlank_gap (text : List Char) : IsBlank (gap text) := fun character member =>
  isBlank_blankEnd text character (List.mem_filter.mp member).1

theorem gap_eq_nil {text : List Char} :
    gap text = [] ↔ ∀ character ∈ blankEnd text, isTabOrNewline character = true := by
  simp [gap, List.filter_eq_nil_iff]

theorem blankEnd_started {text : List Char} (filled : clean text ≠ []) :
    blankEnd (text.dropWhile isControlOrSpace) = blankEnd text := by
  have parts := List.takeWhile_append_dropWhile (p := isControlOrSpace) (l := text)
  have started := started_ne_nil filled
  have first : isControlOrSpace ((text.dropWhile isControlOrSpace).head started) = false := by
    have stops := List.head?_dropWhile_not isControlOrSpace text
    rw [List.head?_eq_some_head started] at stops
    simpa using stops
  generalize text.dropWhile isControlOrSpace = rest at parts started first ⊢
  rw [← parts, blankEnd, blankEnd, List.reverse_append, List.takeWhile_append, if_neg]
  intro whole
  have all := List.all_eq_true.mp (List.all_takeWhile (p := isControlOrSpace) (l := rest.reverse))
  rw [(List.takeWhile_prefix _).eq_of_length whole] at all
  rw [all _ (List.mem_reverse.mpr (List.head_mem started))] at first
  cases first

/-- A text that goes on keeps the gap at its old end, unless nothing but blanks follows. -/
theorem clean_append {text : List Char} (filled : clean text ≠ []) (tail : List Char) :
    clean (text ++ tail) = clean text ++
      if (trimEnd tail).isEmpty then []
      else gap text ++ (trimEnd tail).filter (!isTabOrNewline ·) := by
  have started : (text.dropWhile isControlOrSpace).isEmpty = false := by
    simpa using started_ne_nil filled
  rw [clean_eq, clean_eq, gap, ← blankEnd_started filled, List.dropWhile_append, started,
    if_neg Bool.false_ne_true, trimEnd_append]
  split
  · rw [List.append_nil]
  · rw [← List.append_assoc, ← List.filter_append, trimEnd_append_blankEnd, List.filter_append]

theorem mem_clean {mark : Char} (isMark : isTailMark mark = true) {text : List Char} :
    mark ∈ clean text ↔ mark ∈ text := by
  have printed : isControlOrSpace mark = false ∧ isTabOrNewline mark = false := by
    simp only [isTailMark, Bool.or_eq_true, decide_eq_true_eq] at isMark
    rcases isMark with rfl | rfl <;> decide
  have outer := List.takeWhile_append_dropWhile (p := isControlOrSpace) (l := text)
  have inner := trimEnd_append_blankEnd (text.dropWhile isControlOrSpace)
  have before : mark ∉ text.takeWhile isControlOrSpace := fun member => by
    rw [List.all_eq_true.mp List.all_takeWhile mark member] at printed
    cases printed.1
  have after : mark ∉ blankEnd (text.dropWhile isControlOrSpace) := fun member => by
    rw [isBlank_blankEnd _ mark member] at printed
    cases printed.1
  rw [clean_eq, List.mem_filter, and_iff_left (by rw [printed.2]; rfl)]
  conv_rhs => rw [← outer, List.mem_append, or_iff_right before, ← inner, List.mem_append,
    or_iff_left after]

theorem isUnmarked_clean {text : List Char} : IsUnmarked (clean text) ↔ IsUnmarked text := by
  simp only [IsUnmarked, ← Bool.not_eq_true]
  exact ⟨fun clear mark member isMark => clear mark ((mem_clean isMark).mpr member) isMark,
    fun clear mark member isMark => clear mark ((mem_clean isMark).mp member) isMark⟩

/-! ### The parts of a web address -/

/-- A web address in parts: an authority for itself, and the path, the query and the fragment after
it, which are all that changes as the address goes on. -/
structure Splits (text : List Char) (scheme : String) (authority path : List Char) (bare : Url) :
    Prop where
  isOpen : IsOpen authority
  filled : authority ≠ []
  closes : Closes path
  server : readAuthority scheme .special authority = .ok bare
  lead : ∃ lead, clean text = lead ++ (authority ++ path) ∧ IsUnmarked lead
  goesOn : ∀ longer tail, clean longer = clean text ++ tail →
    parseChars longer = readAuthority scheme .special (authority ++ (path ++ tail))

theorem isUnmarked_scheme {input rest : List Char} {scheme : String}
    (read : readScheme input = some (scheme, rest)) :
    ∃ name, input = name ++ rest ∧ IsUnmarked name := by
  have parts := List.takeWhile_append_dropWhile (p := isSchemeChar) (l := input)
  have named := List.all_eq_true.mp (List.all_takeWhile (p := isSchemeChar) (l := input))
  rw [readScheme] at read
  split at read
  next after cut =>
    split at read
    · cases read
      refine ⟨input.takeWhile isSchemeChar ++ [':'], ?_, fun character member => ?_⟩
      · rw [List.append_assoc, List.singleton_append, ← cut, parts]
      · rcases List.mem_append.mp member with member | member
        · have ofName := named character member
          apply Bool.eq_false_iff.mpr
          intro isMark
          simp only [isTailMark, Bool.or_eq_true, decide_eq_true_eq] at isMark
          rcases isMark with rfl | rfl <;> exact absurd ofName (by decide)
        · rw [List.mem_singleton.mp member]
          decide
    · cases read
  · cases read

theorem IsOpen.not_isSlash {text : List Char} (isOpen : IsOpen text) :
    ∀ character ∈ text, SchemeKind.special.isSlash character = false := by
  intro character member
  have opens := isOpen character member
  simp only [SchemeKind.endsAuthority, Bool.or_eq_false_iff] at opens
  exact opens.1.1

theorem IsOpen.isUnmarked {text : List Char} (isOpen : IsOpen text) : IsUnmarked text := by
  intro character member
  have opens := isOpen character member
  simp only [SchemeKind.endsAuthority, Bool.or_eq_false_iff] at opens
  rw [isTailMark, opens.1.2, opens.2]
  rfl

theorem readAuthority_nil (scheme : String) :
    readAuthority scheme .special [] = .error .emptyHost := rfl

theorem closes_append {path : List Char} (closes : Closes path) (filled : path ≠ [])
    (tail : List Char) : Closes (path ++ tail) := by
  obtain ⟨first, rest, rfl⟩ := List.exists_cons_of_ne_nil filled
  exact fun character head => closes character head

theorem exists_splits {text : List Char} {url : Url} (ok : parseChars text = .ok url)
    (web : IsWeb url.scheme) :
    ∃ authority path bare, Splits text url.scheme authority path bare ∧ url = bare.goOn path := by
  obtain ⟨rest, read⟩ := readScheme_of_parseChars ok
  obtain ⟨authority, path, parts, isOpen, closes⟩ :=
    exists_open_closes (rest.dropWhile SchemeKind.special.isSlash)
  rw [parseChars_of_scheme web read, parts, readAuthority_append url.scheme isOpen closes] at ok
  have slashes := List.takeWhile_append_dropWhile (p := SchemeKind.special.isSlash) (l := rest)
  rw [parts] at slashes
  cases server : readAuthority url.scheme .special authority with
  | error cause => rw [server] at ok; cases ok
  | ok bare =>
      have filled : authority ≠ [] := by
        rintro rfl
        rw [readAuthority_nil] at server
        cases server
      rw [server] at ok
      refine ⟨authority, path, bare, ⟨isOpen, filled, closes, server, ?_, ?_⟩,
        (Except.ok.inj ok).symm⟩
      · obtain ⟨name, named, unmarked⟩ := isUnmarked_scheme read
        refine ⟨name ++ rest.takeWhile SchemeKind.special.isSlash, ?_, fun character member => ?_⟩
        · rw [named, List.append_assoc, slashes]
        · rcases List.mem_append.mp member with member | member
          · exact unmarked character member
          · have slash := List.all_eq_true.mp List.all_takeWhile character member
            simp only [SchemeKind.isSlash, Bool.or_eq_true, Bool.and_eq_true,
              decide_eq_true_eq] at slash
            rcases slash with rfl | ⟨rfl, _⟩ <;> decide
      · intro longer tail cleaned
        obtain ⟨name, named, reads⟩ := readScheme_eq_some read
        have longerRead : readScheme (clean longer) = some (url.scheme, rest ++ tail) := by
          rw [cleaned, named, List.append_assoc, List.cons_append, reads]
        have found : (rest.dropWhile SchemeKind.special.isSlash).isEmpty = false := by
          rw [parts]
          simp [filled]
        rw [parseChars_of_scheme web longerRead, List.dropWhile_append, found,
          if_neg Bool.false_ne_true, parts, List.append_assoc]

namespace Splits

variable {text authority path : List Char} {scheme : String} {bare : Url}

theorem isUnmarked (splits : Splits text scheme authority path bare) :
    IsUnmarked text ↔ IsUnmarked path := by
  obtain ⟨lead, cleaned, unmarked⟩ := splits.lead
  rw [← isUnmarked_clean, cleaned]
  constructor
  · intro whole character member
    exact whole character (List.mem_append_right _ (List.mem_append_right _ member))
  · intro after character member
    rcases List.mem_append.mp member with member | member
    · exact unmarked character member
    rcases List.mem_append.mp member with member | member
    · exact splits.isOpen.isUnmarked character member
    · exact after character member

theorem getLast? (splits : Splits text scheme authority path bare) :
    (clean text).getLast? = (authority ++ path).getLast? := by
  obtain ⟨lead, cleaned, _⟩ := splits.lead
  have filled : authority ++ path ≠ [] := fun nothing =>
    splits.filled (List.append_eq_nil_iff.mp nothing).1
  rw [cleaned, List.getLast?_append_of_ne_nil _ filled]

theorem clean_ne_nil (splits : Splits text scheme authority path bare) : clean text ≠ [] := by
  obtain ⟨lead, cleaned, _⟩ := splits.lead
  rw [cleaned]
  intro nothing
  exact splits.filled (List.append_eq_nil_iff.mp (List.append_eq_nil_iff.mp nothing).2).1

/-- Only an address with a path ends in a slash. -/
theorem not_isSlash_getLast? (splits : Splits text scheme authority [] bare) :
    ∀ character ∈ (clean text).getLast?, SchemeKind.special.isSlash character = false := by
  intro character last
  rw [splits.getLast?, List.append_nil] at last
  exact splits.isOpen.not_isSlash character (List.mem_of_getLast? last)

/-- A gap right after the authority makes it unreadable. -/
theorem error_of_gap (splits : Splits text scheme authority [] bare) {blanks tail : List Char}
    (blank : IsBlank blanks) (filled : blanks ≠ []) (closes : Closes tail) {longer : List Char}
    (cleaned : clean longer = clean text ++ (blanks ++ tail)) :
    ∃ cause, parseChars longer = .error cause := by
  obtain ⟨cause, error⟩ := readAuthority_blank scheme splits.isOpen blank filled
  refine ⟨cause, ?_⟩
  rw [splits.goesOn longer _ cleaned, List.nil_append, ← List.append_assoc,
    readAuthority_append scheme (splits.isOpen.append blank.isOpen) closes, error]
  rfl

/-- What follows an address goes on where it ends, once the authority is closed. -/
theorem parseChars_goesOn (splits : Splits text scheme authority path bare) {tail : List Char}
    (closes : Closes (path ++ tail)) {longer : List Char}
    (cleaned : clean longer = clean text ++ tail) :
    parseChars longer = .ok (bare.goOn (path ++ tail)) := by
  rw [splits.goesOn longer tail cleaned, readAuthority_append scheme splits.isOpen closes,
    splits.server]
  rfl

end Splits

/-! ### Where a path ends -/

theorem readPathStart_slash {mark : Char} (slash : SchemeKind.special.isSlash mark = true)
    (rest : List Char) :
    readPathStart .special (mark :: rest) = readSegments .special rest [] [] := by
  rw [readPathStart, if_pos slash]

theorem isSlash_of_closes {mark : Char} {rest : List Char} (closes : Closes (mark :: rest))
    (unmarked : isTailMark mark = false) : SchemeKind.special.isSlash mark = true := by
  have ends := closes mark rfl
  rw [SchemeKind.endsAuthority, Bool.or_assoc, ← isTailMark, unmarked, Bool.or_false] at ends
  exact ends

theorem exists_mark {text : List Char} (marked : ¬IsUnmarked text) :
    ∃ front mark after, text = front ++ mark :: after ∧ IsUnmarked front ∧
      isTailMark mark = true := by
  have parts := List.takeWhile_append_dropWhile (p := (!isTailMark ·)) (l := text)
  have front := List.all_eq_true.mp (List.all_takeWhile (p := (!isTailMark ·)) (l := text))
  have unmarked : IsUnmarked (text.takeWhile (!isTailMark ·)) := fun character member => by
    simpa using front character member
  cases found : text.dropWhile (!isTailMark ·) with
  | nil =>
      rw [found, List.append_nil] at parts
      exact absurd (parts ▸ unmarked) marked
  | cons mark after =>
      have stops := List.head?_dropWhile_not (!isTailMark ·) text
      rw [found] at stops parts
      exact ⟨_, mark, after, parts.symm, unmarked, by simpa using stops⟩

/-- A query or a fragment that an address has stays in it. -/
theorem goOn_marked {front after : List Char} {mark : Char} (bare : Url)
    (closes : Closes (front ++ mark :: after)) (unmarked : IsUnmarked front)
    (isMark : isTailMark mark = true) :
    (bare.goOn (front ++ mark :: after)).query ≠ none ∨
      (bare.goOn (front ++ mark :: after)).fragment ≠ none := by
  have stops : (readPathStart .special (front ++ mark :: after)).2 = mark :: after := by
    cases front with
    | nil =>
        have other : SchemeKind.special.isSlash mark = false := by
          simp only [isTailMark, Bool.or_eq_true, decide_eq_true_eq] at isMark
          rcases isMark with rfl | rfl <;> decide
        rw [List.nil_append, readPathStart, other, if_neg Bool.false_ne_true, if_neg (by simp),
          readSegments_marked isMark]
    | cons first rest =>
        have slash := isSlash_of_closes closes (unmarked first List.mem_cons_self)
        have others : IsUnmarked rest := fun character member =>
          unmarked character (List.mem_cons_of_mem _ member)
        rw [List.cons_append, readPathStart_slash slash, readSegments_append others,
          readSegments_marked isMark]
  rw [goOn, stops]
  simp only [isTailMark, Bool.or_eq_true, decide_eq_true_eq] at isMark
  rcases isMark with rfl | rfl
  · exact .inl (Option.some_ne_none _)
  · exact .inr (Option.some_ne_none _)

/-- The last segment of a path is empty just if the address ends in a slash. Whatever follows the
address goes on in that segment. -/
theorem Splits.exists_segment {text authority rest : List Char} {scheme : String} {bare : Url}
    {mark : Char} (splits : Splits text scheme authority (mark :: rest) bare)
    (unmarked : IsUnmarked (mark :: rest)) :
    ∃ names segment, '/' ∉ segment ∧
      (segment = [] ↔
        ∃ character ∈ (clean text).getLast?, SchemeKind.special.isSlash character = true) ∧
      readPathStart .special (mark :: rest) = (addSegment .special names segment true, []) ∧
      ∀ tail, readPathStart .special (mark :: rest ++ tail) =
        readSegments .special tail names segment := by
  have slash := isSlash_of_closes splits.closes (unmarked mark List.mem_cons_self)
  have others : IsUnmarked rest := fun character member =>
    unmarked character (List.mem_cons_of_mem _ member)
  have unslashed : ∀ character ∈ (advance .special rest [] []).2,
      SchemeKind.special.isSlash character = false :=
    not_isSlash_of_mem_advance rest [] fun _ member => nomatch member
  have last : (clean text).getLast? = (mark :: rest).getLast? := by
    rw [splits.getLast?, List.getLast?_append_of_ne_nil _ (List.cons_ne_nil mark rest)]
  refine ⟨(advance .special rest [] []).1, (advance .special rest [] []).2,
    fun member => absurd (unslashed '/' member) (by decide), ?_, ?_, fun tail => ?_⟩
  · rw [advance_snd_eq_nil, last]
    rcases List.eq_nil_or_concat rest with rfl | ⟨front, final, rfl⟩
    · exact iff_of_true (fun _ head => nomatch head) ⟨mark, rfl, slash⟩
    · rw [List.concat_eq_append, ← List.cons_append, List.getLast?_concat, List.getLast?_concat]
      simp
  · rw [readPathStart_slash slash, readSegments_eq others]
  · rw [List.cons_append, readPathStart_slash slash, readSegments_append others]

end ClusterRest.Url
