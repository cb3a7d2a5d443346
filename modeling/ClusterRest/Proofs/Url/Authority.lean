import ClusterRest.Proofs.Text
import ClusterRest.Proofs.Utf8
import ClusterRest.Url.Parser

/-!
The authority of a URL with a scheme of known rules: what a URL says of user, host and port lies
before the first character that ends an authority, and no control or space stands right before it.
-/

namespace ClusterRest.Url

open Text

/-- Two URLs name the same server, and the same user on it. -/
structure SameServer (first second : Url) : Prop where
  scheme : first.scheme = second.scheme
  username : first.username = second.username
  password : first.password = second.password
  host : first.host = second.host
  port : first.port = second.port

/-- A text that holds no character that ends an authority. -/
def IsOpen (text : List Char) : Prop :=
  ∀ character ∈ text, SchemeKind.special.endsAuthority character = false

/-- A text that ends an authority before it: it is empty, or begins with a character that does. -/
def Closes (text : List Char) : Prop :=
  ∀ character ∈ text.head?, SchemeKind.special.endsAuthority character = true

theorem IsOpen.append {first second : List Char} (left : IsOpen first) (right : IsOpen second) :
    IsOpen (first ++ second) := by
  intro character member
  rcases List.mem_append.mp member with member | member
  · exact left character member
  · exact right character member

theorem takeWhile_open {text tail : List Char} (isOpen : IsOpen text) (closes : Closes tail) :
    (text ++ tail).takeWhile (!SchemeKind.special.endsAuthority ·) = text ∧
      (text ++ tail).dropWhile (!SchemeKind.special.endsAuthority ·) = tail := by
  refine takeWhile_append_stops (fun character member => ?_) fun character head => ?_
  · rw [isOpen character member]
    rfl
  · rw [closes character head]
    rfl

theorem exists_open_closes (text : List Char) :
    ∃ authority tail, text = authority ++ tail ∧ IsOpen authority ∧ Closes tail := by
  refine ⟨text.takeWhile (!SchemeKind.special.endsAuthority ·),
    text.dropWhile (!SchemeKind.special.endsAuthority ·), List.takeWhile_append_dropWhile.symm,
    fun character member => ?_, fun character head => ?_⟩
  · have opens := List.all_eq_true.mp List.all_takeWhile character member
    simpa using opens
  · have ends := List.head?_dropWhile_not (!SchemeKind.special.endsAuthority ·) text
    rw [Option.mem_def.mp head] at ends
    simpa using ends

/-! ### Host and port -/

theorem splitHost_closes (inBrackets : Bool) {tail : List Char} (closes : Closes tail) :
    splitHost .special inBrackets tail = ([], tail) := by
  cases tail with
  | nil => rfl
  | cons character rest =>
      rw [splitHost, if_pos]
      rw [closes character rfl, Bool.or_true]

theorem splitHost_cons {inBrackets : Bool} {character : Char}
    (ends : SchemeKind.special.endsAuthority character = false)
    (goes : ¬ (character = ':' && !inBrackets) = true) (rest : List Char) :
    splitHost .special inBrackets (character :: rest) =
      (splitHost .special (character = '[' || (character != ']' && inBrackets)) rest).map
        (character :: ·) id := by
  rw [splitHost, if_neg (by rw [ends, Bool.or_false]; exact goes)]
  rfl

theorem splitHost_no_colon (inBrackets : Bool) {text : List Char} (isOpen : IsOpen text)
    (noColon : ':' ∉ text) : splitHost .special inBrackets text = (text, []) := by
  induction text generalizing inBrackets with
  | nil => rfl
  | cons character rest ih =>
      rw [List.mem_cons, not_or] at noColon
      have goes : ¬ (character = ':' && !inBrackets) = true := by simp [Ne.symm noColon.1]
      rw [splitHost_cons (isOpen character List.mem_cons_self) goes,
        ih _ (fun other member => isOpen other (List.mem_cons_of_mem _ member)) noColon.2]
      rfl

/-- The host ends at a colon within an open text, or the whole text belongs to it. -/
theorem splitHost_cases (inBrackets : Bool) {text : List Char} (isOpen : IsOpen text) :
    (∃ host port, text = host ++ ':' :: port ∧ ∀ tail,
      splitHost .special inBrackets (text ++ tail) = (host, ':' :: (port ++ tail))) ∨
    ∀ tail, (Closes tail → splitHost .special inBrackets (text ++ tail) = (text, tail)) ∧
      (IsOpen tail → ':' ∉ tail →
        splitHost .special inBrackets (text ++ tail) = (text ++ tail, [])) := by
  induction text generalizing inBrackets with
  | nil => exact .inr fun tail => ⟨splitHost_closes inBrackets, splitHost_no_colon inBrackets⟩
  | cons character rest ih =>
      have ends := isOpen character List.mem_cons_self
      have others : IsOpen rest := fun other member => isOpen other (List.mem_cons_of_mem _ member)
      by_cases colon : (character = ':' && !inBrackets) = true
      · refine .inl ⟨[], rest, ?_, fun tail => ?_⟩
        · simp only [Bool.and_eq_true, decide_eq_true_eq] at colon
          rw [colon.1, List.nil_append]
        · rw [List.cons_append, splitHost, if_pos (by rw [colon, Bool.true_or])]
          simp only [Bool.and_eq_true, decide_eq_true_eq] at colon
          rw [colon.1]
      · have goes (tail : List Char) := splitHost_cons ends colon (rest ++ tail)
        rcases ih (character = '[' || (character != ']' && inBrackets)) others with
          ⟨host, port, parts, stops⟩ | whole
        · refine .inl ⟨character :: host, port, by rw [parts, List.cons_append], fun tail => ?_⟩
          rw [List.cons_append, goes, stops]
          rfl
        · refine .inr fun tail => ⟨fun closes => ?_, fun opens noColon => ?_⟩
          · rw [List.cons_append, goes, (whole tail).1 closes]
            rfl
          · rw [List.cons_append, goes, (whole tail).2 opens noColon]
            rfl

theorem endsAuthority_eq (character : Char) :
    SchemeKind.special.endsAuthority character = "/\\?#".toList.contains character := by
  have known : (SchemeKind.special != .other) = true := rfl
  simp [SchemeKind.endsAuthority, SchemeKind.isSlash, known, Bool.or_assoc]

theorem mem_of_endsAuthority {character : Char}
    (ends : SchemeKind.special.endsAuthority character = true) :
    character ∈ ['/', '\\', '?', '#'] := by
  rw [endsAuthority_eq, List.contains_iff_mem] at ends
  exact ends

theorem not_isDigit_of_ends {character : Char}
    (ends : SchemeKind.special.endsAuthority character = true) : isDigit character = false := by
  have marks : ['/', '\\', '?', '#'].all (isDigit · == false) = true := by decide
  exact eq_of_beq (List.all_eq_true.mp marks character (mem_of_endsAuthority ends))

/-- The port that digits write. -/
def portOf (digits : List Char) : Option Nat :=
  if digits.isEmpty then none else some (decimalOfDigits digits)

theorem readPort_append {digits tail : List Char} (all : ∀ digit ∈ digits, isDigit digit = true)
    (stops : ∀ character ∈ tail.head?, isDigit character = false) :
    readPort (digits ++ tail) =
      if decimalOfDigits digits > 65535 then .error .invalidPort
      else if tail.head?.any fun character => !SchemeKind.special.endsAuthority character then
        .error .invalidPort
      else .ok (portOf digits, tail) := by
  have taken := takeWhile_append_stops all stops
  simp only [readPort, taken.1, taken.2, endsAuthority_eq, portOf]

/-- No port is read of a text within an authority that is not all digits. -/
theorem readPort_stuck {text : List Char} (isOpen : IsOpen text) :
    (∀ digit ∈ text, isDigit digit = true) ∨
      ∀ tail, readPort (text ++ tail) = .error .invalidPort := by
  have digits : ∀ digit ∈ text.takeWhile isDigit, isDigit digit = true :=
    List.all_eq_true.mp List.all_takeWhile
  have parts : text.takeWhile isDigit ++ text.dropWhile isDigit = text :=
    List.takeWhile_append_dropWhile
  cases others : text.dropWhile isDigit with
  | nil =>
      rw [others, List.append_nil] at parts
      rw [parts] at digits
      exact .inl digits
  | cons other more =>
      have notDigit : isDigit other = false := by
        have first := List.head?_dropWhile_not isDigit text
        rw [others] at first
        simpa using first
      have opens : SchemeKind.special.endsAuthority other = false :=
        isOpen other (by rw [← parts, others]; simp)
      refine .inr fun tail => ?_
      have stops : ∀ character ∈ (other :: (more ++ tail)).head?, isDigit character = false :=
        fun _ head => Option.mem_some.mp head ▸ notDigit
      rw [← parts, others, List.append_assoc, List.cons_append, readPort_append digits stops]
      simp [opens]

/-- A port is digits up to the end of the authority. -/
theorem closes_of_readPort {text tail : List Char} (isOpen : IsOpen text)
    {read : Option Nat × List Char} (ok : readPort (text ++ tail) = .ok read)
    (stops : ∀ character ∈ tail.head?, isDigit character = false) : Closes tail := by
  rcases readPort_stuck isOpen with digits | stuck
  · rw [readPort_append digits stops] at ok
    split at ok
    · cases ok
    split at ok
    · cases ok
    next closes =>
      intro character head
      rw [Option.mem_def.mp head] at closes
      simpa using closes
  · rw [stuck tail] at ok
    cases ok

theorem readPort_closes {text tail : List Char} (isOpen : IsOpen text) (closes : Closes tail) :
    readPort (text ++ tail) = (readPort text).map fun read => (read.1, tail) := by
  have closed (tail : List Char) (closes : Closes tail)
      (digits : ∀ digit ∈ text, isDigit digit = true) :
      readPort (text ++ tail) =
        if decimalOfDigits text > 65535 then .error .invalidPort else .ok (portOf text, tail) := by
    have ends : (tail.head?.any fun character => !SchemeKind.special.endsAuthority character) =
        false := by
      cases tail with
      | nil => rfl
      | cons character rest => simpa using closes character rfl
    rw [readPort_append digits fun character head => not_isDigit_of_ends (closes character head),
      ends]
    rfl
  have alone := List.append_nil text
  rcases readPort_stuck isOpen with digits | stuck
  · rw [closed tail closes digits, ← alone, closed [] (fun _ head => nomatch head) digits, alone]
    split <;> rfl
  · rw [stuck tail, ← alone, stuck []]
    rfl

/-- What follows a host that is read: a port, or the end of the authority. -/
def afterHost (scheme : String) (host : Host) (rest : List Char) :
    Except UrlError (Host × Option Nat × List Char) :=
  match rest with
  | ':' :: portText =>
    if host.isEmpty then .error .emptyHost
    else (readPort portText).map fun (port, rest) =>
      (host, if port = defaultPort? scheme then none else port, rest)
  | _ => .ok (host, none, rest)

theorem readHostAndPort_eq {input text rest : List Char}
    (cut : splitHost .special false input = (text, rest)) (scheme : String) :
    readHostAndPort scheme .special input =
      if text.isEmpty then .error .emptyHost
      else (Host.readSpecial text).bind (afterHost scheme · rest) := by
  have special : (SchemeKind.special = .other) = False := by simp
  rw [readHostAndPort, cut]
  simp only [special, if_false, decide_true, Bool.true_and]
  cases text.isEmpty with
  | true => rfl
  | false =>
      simp only [Bool.false_eq_true, if_false]
      cases Host.readSpecial text with
      | error cause => rfl
      | ok host =>
          cases rest with
          | nil => rfl
          | cons mark portText =>
              by_cases colon : mark = ':'
              · subst colon
                show _ = afterHost scheme host (':' :: portText)
                rw [afterHost]
                cases empty : host.isEmpty with
                | true => simp [empty, bind, Except.bind, throw, throwThe, MonadExceptOf.throw]
                | false =>
                    simp only [bind, Except.bind, empty, Bool.false_eq_true, if_false]
                    cases readPort portText <;> rfl
              · simp [afterHost, colon, bind, Except.bind, pure, Except.pure]

theorem afterHost_closes {tail : List Char} (closes : Closes tail) (scheme : String)
    (host : Host) : afterHost scheme host tail = .ok (host, none, tail) := by
  rw [afterHost]
  rintro portText rfl
  exact absurd (closes ':' rfl) (by decide)

theorem afterHost_ok {scheme : String} {host : Host} {portText : List Char}
    {read : Host × Option Nat × List Char} :
    afterHost scheme host (':' :: portText) = .ok read ↔
      host.isEmpty = false ∧ ∃ port, readPort portText = .ok port ∧
        (host, if port.1 = defaultPort? scheme then none else port.1, port.2) = read := by
  rw [afterHost]
  cases host.isEmpty with
  | true => simp
  | false =>
      cases readPort portText with
      | error cause => simp [Except.map]
      | ok port => simp [Except.map]

theorem readHostAndPort_ok {scheme : String} {input text rest : List Char}
    (cut : splitHost .special false input = (text, rest)) {read : Host × Option Nat × List Char} :
    readHostAndPort scheme .special input = .ok read ↔
      text.isEmpty = false ∧ ∃ host, Host.readSpecial text = .ok host ∧
        afterHost scheme host rest = .ok read := by
  rw [readHostAndPort_eq cut]
  cases text.isEmpty with
  | true => simp
  | false =>
      cases Host.readSpecial text with
      | error cause => simp [Except.bind]
      | ok host => simp [Except.bind]

theorem readHostAndPort_append (scheme : String) {text tail : List Char} (isOpen : IsOpen text)
    (closes : Closes tail) :
    readHostAndPort scheme .special (text ++ tail) =
      (readHostAndPort scheme .special text).map fun read => (read.1, read.2.1, tail) := by
  have nothing : Closes [] := fun _ head => nomatch head
  rcases splitHost_cases false isOpen with ⟨name, port, parts, stops⟩ | whole
  · have cut := stops []
    rw [List.append_nil, List.append_nil] at cut
    have portOpen : IsOpen port := fun character member =>
      isOpen character (by rw [parts]; simp [member])
    rw [readHostAndPort_eq (stops tail), readHostAndPort_eq cut]
    cases name.isEmpty with
    | true => rfl
    | false =>
        simp only [Bool.false_eq_true, if_false]
        cases Host.readSpecial name with
        | error cause => rfl
        | ok host =>
            simp only [Except.bind, afterHost, readPort_closes portOpen closes]
            cases host.isEmpty with
            | true => rfl
            | false => cases readPort port <;> rfl
  · have cut := (whole []).1 nothing
    rw [List.append_nil] at cut
    rw [readHostAndPort_eq ((whole tail).1 closes), readHostAndPort_eq cut]
    cases text.isEmpty with
    | true => rfl
    | false =>
        simp only [Bool.false_eq_true, if_false]
        cases Host.readSpecial text with
        | error cause => rfl
        | ok host =>
            simp only [Except.bind, afterHost_closes closes, afterHost_closes nothing]
            rfl

/-! ### Controls and spaces -/

theorem toAscii?_control {characters : List Char} {control : Char} (member : control ∈ characters)
    (isControl : control ≤ ' ') : DomainName.toAscii? characters = none := by
  have refused : characters.any (· ≤ ' ') = true :=
    List.any_eq_true.mpr ⟨control, member, decide_eq_true isControl⟩
  rw [DomainName.toAscii?, if_pos refused]
  rfl

theorem mem_percentDecode {byte : UInt8} (noPercent : byte ≠ 0x25)
    (noDigit : Bytes.ofHexDigit? (Char.ofNat byte.toNat) = none) {bytes : Bytes}
    (member : byte ∈ bytes) : byte ∈ percentDecode bytes := by
  fun_induction percentDecode bytes with
  | case1 high low rest first second lowDigit highDigit ih => grind
  | case2 high low rest noEscape ih => grind
  | case3 other rest _ ih => grind
  | case4 => exact member

/-- Controls and spaces. -/
def IsBlank (text : List Char) : Prop := ∀ character ∈ text, isControlOrSpace character = true

theorem toNat_le_of_blank {character : Char} (blank : isControlOrSpace character = true) :
    character.toNat ≤ 0x20 := by
  simp only [isControlOrSpace, decide_eq_true_eq, Char.le_def, UInt32.le_iff_toNat_le] at blank
  exact blank

theorem blank_cases {character : Char} (blank : isControlOrSpace character = true) :
    character ≠ ']' ∧ character ≠ ':' ∧ character ≠ '[' ∧ character ≠ '@' ∧
      isDigit character = false ∧ SchemeKind.special.endsAuthority character = false ∧
      Bytes.ofHexDigit? character = none := by
  have all : ∀ code : Fin 33, let character := Char.ofNat code
      character ≠ ']' ∧ character ≠ ':' ∧ character ≠ '[' ∧ character ≠ '@' ∧
      isDigit character = false ∧ SchemeKind.special.endsAuthority character = false ∧
      Bytes.ofHexDigit? character = none := by decide
  have one := all ⟨character.toNat, Nat.lt_succ_of_le (toNat_le_of_blank blank)⟩
  rwa [Char.ofNat_toNat] at one

theorem IsBlank.isOpen {blanks : List Char} (blank : IsBlank blanks) : IsOpen blanks :=
  fun character member => (blank_cases (blank character member)).2.2.2.2.2.1

/-- No host ends in a control or a space. -/
theorem readSpecial_blank (text : List Char) {blanks : List Char} (blank : IsBlank blanks)
    (filled : blanks ≠ []) : ∃ cause, Host.readSpecial (text ++ blanks) = .error cause := by
  have last := blank _ (List.getLast_mem filled)
  obtain ⟨noBracket, _, noOpening, _, _, _, noDigit⟩ := blank_cases last
  have ends : (text ++ blanks).getLast? = some (blanks.getLast filled) := by
    rw [List.getLast?_append, List.getLast?_eq_some_getLast filled]
    rfl
  rw [Host.readSpecial.eq_def]
  split
  next inner written =>
    have ends' : inner.getLast? = some (blanks.getLast filled) := by
      rw [written] at ends
      cases inner with
      | nil => exact absurd (Option.some.inj ends).symm noOpening
      | cons first rest => rwa [List.getLast?_cons_cons] at ends
    refine ⟨.invalidIpv6, ?_⟩
    rw [Host.readBracketed, ends', if_neg]
    simpa using noBracket
  next =>
    have ascii : (blanks.getLast filled).toNat < 0x80 :=
      Nat.lt_of_le_of_lt (toNat_le_of_blank last) (by decide)
    have code : (UInt8.ofNat (blanks.getLast filled).toNat).toNat =
        (blanks.getLast filled).toNat := by
      rw [UInt8.toNat_ofNat', Nat.mod_eq_of_lt (by omega)]
    have noPercent : UInt8.ofNat (blanks.getLast filled).toNat ≠ 0x25 := by
      intro percent
      have same := congrArg UInt8.toNat percent
      rw [code] at same
      exact absurd (same ▸ toNat_le_of_blank last) (by decide)
    have written := Bytes.mem_ofChars ascii
      (List.mem_append_right text (List.getLast_mem filled))
    have decoded := mem_percentDecode noPercent (by rw [code, Char.ofNat_toNat]; exact noDigit)
      written
    have shown := Bytes.mem_toStringLossy
      (UInt8.lt_iff_toNat_lt.mpr (by rw [code]; exact ascii)) decoded
    rw [code, Char.ofNat_toNat] at shown
    have refused := toAscii?_control shown (by simpa [isControlOrSpace] using last)
    simp only [refused]
    exact ⟨_, rfl⟩

/-- No authority ends in a control or a space. -/
theorem readHostAndPort_blank (scheme : String) {text : List Char} (isOpen : IsOpen text)
    {blanks : List Char} (blank : IsBlank blanks) (filled : blanks ≠ []) :
    ∃ cause, readHostAndPort scheme .special (text ++ blanks) = .error cause := by
  cases outcome : readHostAndPort scheme .special (text ++ blanks) with
  | error cause => exact ⟨cause, rfl⟩
  | ok read =>
      exfalso
      rcases splitHost_cases false isOpen with ⟨host, port, parts, stops⟩ | whole
      · have portOpen : IsOpen port := fun character member =>
          isOpen character (by rw [parts]; simp [member])
        obtain ⟨_, _, _, located⟩ := (readHostAndPort_ok (stops blanks)).mp outcome
        obtain ⟨_, _, parsed, _⟩ := afterHost_ok.mp located
        have closes := closes_of_readPort portOpen parsed fun character head =>
          (blank_cases (blank character (List.mem_of_head? head))).2.2.2.2.1
        obtain ⟨first, rest, rfl⟩ := List.exists_cons_of_ne_nil filled
        have opens := blank.isOpen first List.mem_cons_self
        rw [closes first rfl] at opens
        cases opens
      · have noColon : ':' ∉ blanks := fun member =>
          (blank_cases (blank ':' member)).2.1 rfl
        obtain ⟨cause, refused⟩ := readSpecial_blank text blank filled
        obtain ⟨_, _, named, _⟩ :=
          (readHostAndPort_ok ((whole blanks).2 blank.isOpen noColon)).mp outcome
        rw [refused] at named
        cases named

/-! ### The authority as a whole -/

theorem cutLastAt_append (text : List Char) {tail : List Char} (unmarked : '@' ∉ tail) :
    cutLastAt (text ++ tail) =
      (cutLastAt text).map fun (before, after) => (before, after ++ tail) := by
  have unmarked : '@' ∉ tail.reverse := fun member => unmarked (List.mem_reverse.mp member)
  rw [cutLastAt, cutLastAt, List.reverse_append, cutChars_append unmarked, Option.map_map,
    Option.map_map]
  refine congrArg (Option.map · _) (funext fun (after, before) => ?_)
  simp

theorem IsOpen.of_cutLastAt {text before after : List Char} (isOpen : IsOpen text)
    (cut : cutLastAt text = some (before, after)) : IsOpen after := by
  obtain ⟨⟨front, back⟩, found, parts⟩ := Option.map_eq_some_iff.mp cut
  cases parts
  intro character member
  refine isOpen character (List.mem_reverse.mp ?_)
  rw [(cutChars_eq_some found).1]
  exact List.mem_append_left _ (List.mem_reverse.mp member)

theorem IsOpen.head? {text : List Char} (isOpen : IsOpen text) :
    (text.head?.any SchemeKind.special.endsAuthority) = false := by
  cases text with
  | nil => rfl
  | cons character rest => exact isOpen character List.mem_cons_self

theorem readUserinfo_open {text : List Char} (isOpen : IsOpen text) :
    readUserinfo .special text = .ok (match cutLastAt text with
      | none => (.none, text)
      | some (before, after) => (.read before, after)) := by
  have nothing : Closes [] := fun _ head => nomatch head
  have whole := takeWhile_open isOpen nothing
  rw [List.append_nil] at whole
  simp only [readUserinfo, whole.1, whole.2]
  cases cut : cutLastAt text with
  | none => rfl
  | some parts =>
      simp only [List.append_nil, (isOpen.of_cutLastAt cut).head?, Bool.and_false,
        Bool.false_eq_true, if_false]

/-- Blanks at the end of an authority belong to what follows the userinfo. -/
theorem readUserinfo_blank {text : List Char} (isOpen : IsOpen text) :
    ∃ userinfo rest, IsOpen rest ∧ ∀ blanks, IsBlank blanks →
      readUserinfo .special (text ++ blanks) = .ok (userinfo, rest ++ blanks) := by
  have blankEnd (blanks : List Char) (blank : IsBlank blanks) :=
    readUserinfo_open (isOpen.append blank.isOpen)
  have cutBlank (blanks : List Char) (blank : IsBlank blanks) :=
    cutLastAt_append text fun member : '@' ∈ blanks =>
      (blank_cases (blank '@' member)).2.2.2.1 rfl
  cases cut : cutLastAt text with
  | none =>
      refine ⟨.none, text, isOpen, fun blanks blank => ?_⟩
      rw [blankEnd blanks blank, cutBlank blanks blank, cut]
      rfl
  | some parts =>
      obtain ⟨before, after⟩ := parts
      refine ⟨.read before, after, isOpen.of_cutLastAt cut, fun blanks blank => ?_⟩
      rw [blankEnd blanks blank, cutBlank blanks blank, cut]
      rfl

/-- The bare URL of a server. -/
def ofServer (scheme : String) (userinfo : Userinfo) (host : Host) (port : Option Nat) : Url :=
  { scheme, username := userinfo.username, password := userinfo.password, host := some host, port
    path := .segments [], query := none, fragment := none }

/-- A URL with the path, the query and the fragment that a text says. -/
def goOn (bare : Url) (tail : List Char) : Url :=
  { bare with
    path := pathOfNames (readPathStart .special tail).1
    query := (readTail .special (readPathStart .special tail).2).1
    fragment := (readTail .special (readPathStart .special tail).2).2 }

theorem readAuthority_of_userinfo (scheme : String) {input rest : List Char} {userinfo : Userinfo}
    (user : readUserinfo .special input = .ok (userinfo, rest)) :
    readAuthority scheme .special input =
      (readHostAndPort scheme .special rest).bind fun read =>
        if read.1.isEmpty && !userinfo.isNone then .error .emptyHost
        else .ok (goOn (ofServer scheme userinfo read.1 read.2.1) read.2.2) := by
  rw [readAuthority, user]
  simp only [bind, Except.bind]
  cases readHostAndPort scheme .special rest with
  | error cause => rfl
  | ok read => simp only; split <;> rfl

/-- An authority is read first, and what closes it says the rest. -/
theorem readAuthority_append (scheme : String) {text tail : List Char} (isOpen : IsOpen text)
    (closes : Closes tail) :
    readAuthority scheme .special (text ++ tail) =
      (readAuthority scheme .special text).map (goOn · tail) := by
  have goesOn {userinfo : Userinfo} {rest : List Char} (restOpen : IsOpen rest)
      (user : readUserinfo .special text = .ok (userinfo, rest))
      (longer : readUserinfo .special (text ++ tail) = .ok (userinfo, rest ++ tail)) :
      readAuthority scheme .special (text ++ tail) =
        (readAuthority scheme .special text).map (goOn · tail) := by
    rw [readAuthority_of_userinfo scheme longer, readAuthority_of_userinfo scheme user,
      readHostAndPort_append scheme restOpen closes]
    cases readHostAndPort scheme .special rest with
    | error cause => rfl
    | ok read =>
        simp only [Except.map, Except.bind]
        cases read.1.isEmpty && !userinfo.isNone <;> rfl
  have alone := readUserinfo_open isOpen
  cases cut : cutLastAt text with
  | none =>
      refine goesOn isOpen (by rw [alone, cut]) ?_
      simp only [readUserinfo, (takeWhile_open isOpen closes).1, cut]
  | some parts =>
      obtain ⟨before, after⟩ := parts
      have restOpen : IsOpen after := isOpen.of_cutLastAt cut
      have user : readUserinfo .special text = .ok (.read before, after) := by rw [alone, cut]
      have longer : readUserinfo .special (text ++ tail) =
          if before.isEmpty && (after ++ tail).head?.any SchemeKind.special.endsAuthority then
            .error .emptyHost
          else .ok (.read before, after ++ tail) := by
        simp only [readUserinfo, (takeWhile_open isOpen closes).1,
          (takeWhile_open isOpen closes).2, cut]
      split at longer
      next unhosted =>
        -- nothing stands between the userinfo and what closes the authority
        obtain rfl : after = [] := by
          cases after with
          | nil => rfl
          | cons first rest =>
              have opens : SchemeKind.special.endsAuthority first = false :=
                restOpen first List.mem_cons_self
              simp [opens] at unhosted
        rw [readAuthority_of_userinfo scheme user, readAuthority, longer]
        rfl
      next => exact goesOn restOpen user longer

theorem readAuthority_blank (scheme : String) {text : List Char} (isOpen : IsOpen text)
    {blanks : List Char} (blank : IsBlank blanks) (filled : blanks ≠ []) :
    ∃ cause, readAuthority scheme .special (text ++ blanks) = .error cause := by
  obtain ⟨userinfo, rest, restOpen, userBlank⟩ := readUserinfo_blank isOpen
  obtain ⟨cause, refused⟩ := readHostAndPort_blank scheme restOpen blank filled
  refine ⟨cause, ?_⟩
  rw [readAuthority, userBlank blanks blank]
  simp only [bind, Except.bind, refused]

end ClusterRest.Url
