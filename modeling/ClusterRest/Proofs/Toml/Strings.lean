import ClusterRest.Proofs.Utf8
import ClusterRest.Toml.Printer

/-!
TOML strings and names, written and read back. Main statements: a written string gives its content,
however it is quoted, and so does a written name.
-/

namespace ClusterRest.Toml

/-! ### Characters and their escapes -/

theorem needsEscape_iff (character : Char) : needsEscape character = true ↔
    character.toNat < 32 ∧ character.toNat ≠ 9 ∧ character.toNat ≠ 10 ∨ character.toNat = 127 := by
  simp [needsEscape, Char.le_def, UInt32.le_iff_toNat_le, ← Char.toNat_inj, Nat.lt_succ_iff,
    and_assoc]

theorem isPlain_iff (character : Char) : isPlain character = true ↔
    character.toNat = 9 ∨ 32 ≤ character.toNat ∧ character.toNat ≠ 127 := by
  simp [isPlain, Char.le_def, UInt32.le_iff_toNat_le, ← Char.toNat_inj]

theorem isPlain_of_unescaped {character : Char} (unescaped : needsEscape character = false)
    (inLine : character ≠ '\n') : isPlain character = true := by
  have bounds := (not_congr (needsEscape_iff character)).mp (by simp [unescaped])
  have code : character.toNat ≠ 10 := fun same => inLine (Char.toNat_inj.mp same)
  rw [isPlain_iff]
  omega

theorem not_lineEnd_of_plain {character : Char} (plain : isPlain character = true) :
    character ≠ '\n' ∧ character ≠ '\r' := by
  constructor
  · rintro rfl
    cases plain
  · rintro rfl
    cases plain

theorem scalar?_unicodeEscape {character : Char} (escaped : needsEscape character = true) :
    scalar? ((unicodeEscape character).drop 2) = some character := by
  have small : character.toNat < 256 := by
    have bounds := (needsEscape_iff character).mp escaped
    omega
  obtain ⟨high, low, sum⟩ := Bytes.sixteens (UInt8.ofNat character.toNat)
  have zero : Bytes.ofHexDigit? '0' = some 0 := rfl
  have code : hexNumber? ((unicodeEscape character).drop 2) = some character.toNat := by
    simp [hexNumber?, unicodeEscape, zero, Bytes.ofHexDigit?_upperHexDigit high,
      Bytes.ofHexDigit?_upperHexDigit low]
    omega
  have valid : character.toNat.isValidChar := character.valid
  simp [scalar?, code, valid, Char.ofNat_toNat]

/-- What an escape is: of one character, by its number, or none. -/
theorem escape_cases (isLong : Bool) (character : Char) :
    (∃ mark, escape isLong character = ['\\', mark] ∧ escaped? mark = some character) ∨
      (escape isLong character = unicodeEscape character ∧ needsEscape character = true) ∨
      escape isLong character = [character] ∧
        (character = '\n' ∧ isLong = true ∨ isPlain character = true ∧ character ≠ '\\') := by
  unfold escape
  split
  · exact .inl ⟨'b', rfl, rfl⟩
  · exact .inl ⟨'t', rfl, rfl⟩
  · cases isLong with
    | true => exact .inr (.inr ⟨rfl, .inl ⟨rfl, rfl⟩⟩)
    | false => exact .inl ⟨'n', rfl, rfl⟩
  · exact .inl ⟨'f', rfl, rfl⟩
  · exact .inl ⟨'r', rfl, rfl⟩
  · exact .inl ⟨'\\', rfl, rfl⟩
  next line _ _ unslashed =>
    split
    next escaped => exact .inr (.inl ⟨rfl, escaped⟩)
    next unescaped =>
      have plain := isPlain_of_unescaped (Bool.eq_false_iff.mpr unescaped) line
      exact .inr (.inr ⟨rfl, .inr ⟨plain, unslashed⟩⟩)

theorem basicText_escape {character : Char} (unquoted : character ≠ '"') (rest : List Char) :
    basicText (escape false character ++ rest) = within character (basicText rest) := by
  rcases escape_cases false character with ⟨mark, escape_eq, read⟩ | ⟨escape_eq, escaped⟩ |
    ⟨escape_eq, ⟨_, long⟩ | ⟨plain, unslashed⟩⟩
  · rw [escape_eq, List.cons_append, List.singleton_append, basicText, read]
    · rfl
    · rintro _ _ _ _ _ rfl
      cases read
    · rintro _ _ _ _ _ _ _ _ _ rfl
      cases read
  · have read := scalar?_unicodeEscape escaped
    rw [escape_eq]
    change (scalar? ((unicodeEscape character).drop 2)).bind
      (fun found => within found (basicText rest)) = _
    rw [read]
    rfl
  · cases long
  · rw [escape_eq, List.singleton_append, basicText, if_pos plain]
    · exact unquoted
    · exact fun _ _ _ _ _ slash => absurd slash unslashed
    · exact fun _ _ _ _ _ _ _ _ _ slash => absurd slash unslashed
    · exact fun _ _ slash => absurd slash unslashed

theorem longBasicText_escape {character : Char} (unquoted : character ≠ '"') (rest : List Char) :
    longBasicText .content (escape true character ++ rest) =
      within character (longBasicText .content rest) := by
  rcases escape_cases true character with ⟨mark, escape_eq, read⟩ | ⟨escape_eq, escaped⟩ |
    ⟨escape_eq, ⟨line, _⟩ | ⟨plain, unslashed⟩⟩
  · rw [escape_eq, List.cons_append, List.singleton_append, longBasicText, read]
    · rintro _ _ _ _ _ rfl
      cases read
    · rintro _ _ _ _ _ _ _ _ _ rfl
      cases read
    · nofun
  · have read := scalar?_unicodeEscape escaped
    rw [escape_eq]
    change (scalar? ((unicodeEscape character).drop 2)).bind
      (fun found => within found (longBasicText .content rest)) = _
    rw [read]
    rfl
  · rw [escape_eq, line]
    rfl
  · rw [escape_eq, List.singleton_append, longBasicText, if_pos plain]
    all_goals simp [unquoted, unslashed, not_lineEnd_of_plain plain]

/-! ### Double quotes -/

theorem escapedFrom_unquoted {isLong : Bool} {run : Nat} {character : Char} {text : List Char}
    (unquoted : character ≠ '"') :
    escapedFrom isLong run (character :: text) =
      escape isLong character ++ escapedFrom isLong 0 text := by
  rw [escapedFrom]
  exact unquoted

theorem basicText_escapedFrom (run : Nat) (text rest : List Char) :
    basicText (escapedFrom false run text ++ '"' :: rest) = some (text, rest) := by
  induction text generalizing run with
  | nil => rfl
  | cons character text ih =>
      by_cases quote : character = '"'
      · subst quote
        change within '"' (basicText (escapedFrom false 0 text ++ '"' :: rest)) = _
        rw [ih]
        rfl
      · rw [escapedFrom_unquoted quote, List.append_assoc, basicText_escape quote, ih]
        rfl

theorem longBasicText_quote {rest : List Char} (apart : ¬ ['"', '"'] <+: rest) :
    longBasicText .content ('"' :: rest) = within '"' (longBasicText .content rest) := by
  rw [longBasicText]
  · rintro more rfl
    exact apart ⟨_, rfl⟩
  · rintro more rfl
    exact apart ⟨_, rfl⟩
  · rintro more rfl
    exact apart ⟨_, rfl⟩
  all_goals nofun

/-- Up to two quotes before the last three belong to the content. -/
theorem longBasicText_close {count : Nat} (few : count ≤ quotesInLong) {rest : List Char}
    (apart : rest.head? ≠ some '"') :
    longBasicText .content (List.replicate count '"' ++ '"' :: '"' :: '"' :: rest) =
      some (List.replicate count '"', rest) := by
  have apart {more : List Char} : rest ≠ '"' :: more := by
    rintro rfl
    exact apart rfl
  match count, few with
  | 0, _ =>
      rw [List.replicate_zero, List.nil_append, longBasicText]
      · exact fun more same => apart same
      · exact fun more same => apart same
      · nofun
  | 1, _ =>
      rw [List.replicate_one, List.singleton_append, longBasicText]
      · exact fun more same => apart same
      · nofun
  | 2, _ => rfl

/-- Escaped content starts with a quote only if that needs no escape, and with a line end only if
the content does. -/
theorem escapedFrom_head {isLong : Bool} {run : Nat} {character : Char} (text : List Char)
    (marked : character = '"' → isLong = true → quotesInLong ≤ run) :
    ∃ first tail, escapedFrom isLong run (character :: text) = first :: tail ∧ first ≠ '"' ∧
      first ≠ '\r' ∧ (first = '\n' → character = '\n') := by
  by_cases quote : character = '"'
  · subst quote
    refine ⟨'\\', '"' :: escapedFrom isLong 0 text, ?_, by decide, by decide, nofun⟩
    rw [escapedFrom, if_neg]
    simpa using fun long => Nat.not_lt.mpr (marked rfl long)
  · rw [escapedFrom_unquoted quote]
    rcases escape_cases isLong character with ⟨mark, escape_eq, _⟩ | ⟨escape_eq, _⟩ |
      ⟨escape_eq, ⟨rfl, _⟩ | ⟨plain, _⟩⟩
    · rw [escape_eq]
      exact ⟨'\\', _, rfl, by decide, by decide, nofun⟩
    · rw [escape_eq]
      exact ⟨'\\', _, rfl, by decide, by decide, nofun⟩
    · rw [escape_eq]
      exact ⟨'\n', _, rfl, by decide, by decide, fun _ => rfl⟩
    · rw [escape_eq]
      exact ⟨character, _, rfl, quote, (not_lineEnd_of_plain plain).2, id⟩

theorem escapedFrom_lineless {text : List Char} (lineless : '\n' ∉ text) (rest : List Char) :
    ∀ character ∈ (escapedFrom true 0 text ++ '"' :: rest).head?,
      character ≠ '\n' ∧ character ≠ '\r' := by
  intro head member
  cases text with
  | nil =>
      cases member
      decide
  | cons character text =>
      rw [List.mem_cons, not_or] at lineless
      by_cases quote : character = '"'
      · subst quote
        cases member
        decide
      · obtain ⟨first, tail, escaped_eq, _, back, line⟩ := @escapedFrom_head true 0 character text
          fun quoted => absurd quoted quote
        rw [escaped_eq] at member
        cases member
        exact ⟨fun ended => lineless.1 (line ended).symm, back⟩

/-- Two quotes in a row within a run belong to the end of the string. -/
theorem escapedFrom_quotes {run : Nat} (later : 0 < run) {text rest : List Char}
    (quotes : ['"', '"'] <+: escapedFrom true run text ++ '"' :: '"' :: '"' :: rest) :
    ∃ count, count < quotesInLong ∧ text = List.replicate count '"' ∧
      escapedFrom true run text = text := by
  cases text with
  | nil => exact ⟨0, by decide, rfl, rfl⟩
  | cons character text =>
      have first : character = '"' ∧ run < quotesInLong := by
        apply Classical.byContradiction
        intro other
        obtain ⟨first, tail, escaped_eq, unquoted, _⟩ := escapedFrom_head text
          fun quote _ => Nat.not_lt.mp fun early => other ⟨quote, early⟩
        rw [escaped_eq] at quotes
        exact unquoted (List.cons_prefix_cons.mp quotes).1.symm
      obtain ⟨rfl, early⟩ := first
      have escaped_eq : escapedFrom true run ('"' :: text) =
          '"' :: escapedFrom true (run + 1) text := by simp [escapedFrom, early]
      cases text with
      | nil => exact ⟨1, by decide, rfl, escaped_eq⟩
      | cons character text =>
          have late : quotesInLong ≤ run + 1 := by
            simp only [quotesInLong] at early ⊢
            omega
          obtain ⟨first, tail, escaped_eq', unquoted, _⟩ := escapedFrom_head text fun _ _ => late
          rw [escaped_eq, escaped_eq'] at quotes
          have second := (List.cons_prefix_cons.mp quotes).2
          exact absurd (List.cons_prefix_cons.mp second).1.symm unquoted

theorem longBasicText_escapedFrom (run : Nat) (text : List Char) {rest : List Char}
    (apart : rest.head? ≠ some '"') :
    longBasicText .content (escapedFrom true run text ++ '"' :: '"' :: '"' :: rest) =
      some (text, rest) := by
  induction text generalizing run with
  | nil => exact longBasicText_close (Nat.zero_le _) apart
  | cons character text ih =>
      by_cases quote : character = '"'
      · subst quote
        by_cases early : run < quotesInLong
        · have escaped_eq : escapedFrom true run ('"' :: text) =
              '"' :: escapedFrom true (run + 1) text := by simp [escapedFrom, early]
          rw [escaped_eq, List.cons_append]
          by_cases quotes : ['"', '"'] <+:
              escapedFrom true (run + 1) text ++ '"' :: '"' :: '"' :: rest
          · obtain ⟨count, few, rfl, plain⟩ := escapedFrom_quotes (Nat.succ_pos run) quotes
            rw [plain, ← List.cons_append, ← List.replicate_succ]
            exact longBasicText_close few apart
          · rw [longBasicText_quote quotes, ih]
            rfl
        · have escaped_eq : escapedFrom true run ('"' :: text) =
              '\\' :: '"' :: escapedFrom true 0 text := by simp [escapedFrom, early]
          rw [escaped_eq]
          change within '"' (longBasicText .content
            (escapedFrom true 0 text ++ '"' :: '"' :: '"' :: rest)) = _
          rw [ih]
          rfl
      · rw [escapedFrom_unquoted quote, List.append_assoc, longBasicText_escape quote, ih]
        rfl

/-! ### Single quotes -/

theorem literalText_append {text : List Char}
    (plain : ∀ character ∈ text, isPlain character = true ∧ character ≠ '\'')
    (rest : List Char) : literalText (text ++ '\'' :: rest) = some (text, rest) := by
  induction text with
  | nil => rfl
  | cons character text ih =>
      obtain ⟨first, others⟩ := List.forall_mem_cons.mp plain
      rw [List.cons_append, literalText, if_pos first.1, ih others]
      · rfl
      · exact first.2

theorem le_longestRun (mark : Char) (run : Nat) (text : List Char) :
    run ≤ longestRun mark run text := by
  induction text generalizing run with
  | nil => exact Nat.le_refl run
  | cons character text ih =>
      rw [longestRun]
      split
      · exact Nat.le_of_succ_le (ih (run + 1))
      · exact Nat.le_max_left _ _

theorem longLiteralText_quote {rest : List Char} (apart : ¬ ['\'', '\''] <+: rest) :
    longLiteralText ('\'' :: rest) = within '\'' (longLiteralText rest) := by
  rw [longLiteralText]
  · rfl
  · rintro more _ rfl
    exact apart ⟨_, rfl⟩
  · rintro more _ rfl
    exact apart ⟨_, rfl⟩
  · rintro more _ rfl
    exact apart ⟨_, rfl⟩
  all_goals nofun

theorem longLiteralText_close {count : Nat} (few : count ≤ quotesInLong) {rest : List Char}
    (apart : rest.head? ≠ some '\'') :
    longLiteralText (List.replicate count '\'' ++ '\'' :: '\'' :: '\'' :: rest) =
      some (List.replicate count '\'', rest) := by
  have apart {more : List Char} : rest ≠ '\'' :: more := by
    rintro rfl
    exact apart rfl
  match count, few with
  | 0, _ =>
      rw [List.replicate_zero, List.nil_append, longLiteralText]
      · exact fun more same => apart same
      · exact fun more same => apart same
  | 1, _ =>
      rw [List.replicate_one, List.singleton_append, longLiteralText]
      exact fun more same => apart same
  | 2, _ => rfl

theorem longLiteralText_plain {character : Char} (unquoted : character ≠ '\'')
    (plain : isPlain character = true ∨ character = '\n') (rest : List Char) :
    longLiteralText (character :: rest) = within character (longLiteralText rest) := by
  rcases plain with plain | rfl
  · rw [longLiteralText, if_pos plain]
    all_goals simp [unquoted, not_lineEnd_of_plain plain]
  · rfl

/-- Two quotes in a row within a run belong to the end of the string, if runs are short. -/
theorem eq_replicate_of_quotes {run : Nat} (later : 0 < run) {text rest : List Char}
    (short : longestRun '\'' run text ≤ quotesInLong)
    (quotes : ['\'', '\''] <+: text ++ '\'' :: '\'' :: '\'' :: rest) :
    ∃ count, count < quotesInLong ∧ text = List.replicate count '\'' := by
  cases text with
  | nil => exact ⟨0, by decide, rfl⟩
  | cons character text =>
      obtain ⟨rfl, second⟩ := List.cons_prefix_cons.mp quotes
      cases text with
      | nil => exact ⟨1, by decide, rfl⟩
      | cons character text =>
          obtain ⟨rfl, _⟩ := List.cons_prefix_cons.mp second
          have long : run + 2 ≤ longestRun '\'' run ('\'' :: '\'' :: text) :=
            le_longestRun '\'' (run + 2) text
          simp only [quotesInLong] at short
          omega

theorem longLiteralText_append {run : Nat} {text : List Char}
    (short : longestRun '\'' run text ≤ quotesInLong)
    (plain : ∀ character ∈ text, isPlain character = true ∨ character = '\n')
    {rest : List Char} (apart : rest.head? ≠ some '\'') :
    longLiteralText (text ++ '\'' :: '\'' :: '\'' :: rest) = some (text, rest) := by
  induction text generalizing run with
  | nil => exact longLiteralText_close (Nat.zero_le _) apart
  | cons character text ih =>
      obtain ⟨first, others⟩ := List.forall_mem_cons.mp plain
      rw [longestRun] at short
      split at short
      next quote =>
        subst quote
        by_cases quotes : ['\'', '\''] <+: text ++ '\'' :: '\'' :: '\'' :: rest
        · obtain ⟨count, few, rfl⟩ := eq_replicate_of_quotes (Nat.succ_pos run) short quotes
          rw [← List.replicate_succ]
          exact longLiteralText_close few apart
        · rw [List.cons_append, longLiteralText_quote quotes, ih short others]
          rfl
      next unquoted =>
        have after := Nat.le_trans (Nat.le_max_right run _) short
        rw [List.cons_append, longLiteralText_plain unquoted first, ih after others]
        rfl

/-! ### Whole strings -/

/-- What a text has to be for a quoting to keep it. -/
def Quoting.Keeps (text : List Char) : Quoting → Prop
  | .basic | .longBasic => True
  | .literal => text ≠ [] ∧ ∀ character ∈ text, isPlain character = true ∧ character ≠ '\''
  | .longLiteral => longestRun '\'' 0 text ≤ quotesInLong ∧
      ∀ character ∈ text, isPlain character = true ∨ character = '\n'

theorem plain_or_line {text : List Char} (unescaped : ¬ text.any needsEscape = true) :
    ∀ character ∈ text, isPlain character = true ∨ character = '\n' := by
  intro character member
  by_cases line : character = '\n'
  · exact .inr line
  · have plain : needsEscape character = false := by
      simp only [List.any_eq_true, not_exists, not_and, Bool.not_eq_true] at unescaped
      exact unescaped character member
    exact .inl (isPlain_of_unescaped plain line)

theorem literal_keeps {text : List Char} (filled : text ≠ [])
    (unescaped : ¬ text.any needsEscape = true) (unquoted : '\'' ∉ text) (line : '\n' ∉ text) :
    Quoting.literal.Keeps text := by
  refine ⟨filled, fun character member => ⟨?_, ?_⟩⟩
  · rcases plain_or_line unescaped character member with plain | rfl
    · exact plain
    · exact absurd member line
  · rintro rfl
    exact unquoted member

theorem quotingOf_keeps (text : List Char) : (quotingOf text).Keeps text := by
  by_cases filled : text = []
  · subst filled
    trivial
  · simp only [quotingOf]
    split
    next => split <;> trivial
    next unescaped =>
      split
      next => trivial
      next =>
        split
        next single =>
          simp only [Bool.and_eq_true, Bool.not_eq_true', List.contains_eq_mem,
            decide_eq_false_iff_not] at single
          exact literal_keeps filled unescaped single.1 single.2
        next =>
          split
          next => trivial
          next =>
            split
            next short => exact ⟨short, plain_or_line unescaped⟩
            next => split <;> trivial

theorem nameQuoting_keeps (name : List Char) :
    (nameQuoting name).Keeps name ∧ (nameQuoting name = .basic ∨ nameQuoting name = .literal) := by
  unfold nameQuoting
  split
  next => exact ⟨trivial, .inl rfl⟩
  next unescaped =>
    split
    next => exact ⟨trivial, .inl rfl⟩
    next marked =>
      split
      next single =>
        simp only [Bool.or_eq_true, not_or, List.contains_eq_mem, decide_eq_true_eq,
          Bool.not_eq_true', decide_eq_false_iff_not] at unescaped single
        have filled : name ≠ [] := by
          rintro rfl
          exact marked rfl
        exact ⟨literal_keeps filled unescaped.1 single unescaped.2, .inr rfl⟩
      next => exact ⟨trivial, .inl rfl⟩

theorem shortString?_quotedAs {quoting : Quoting} {text : List Char} (keeps : quoting.Keeps text)
    (short : quoting = .basic ∨ quoting = .literal) (rest : List Char) :
    shortString? (quotedAs text quoting ++ rest) = some (text, rest) := by
  rcases short with rfl | rfl
  · have read := basicText_escapedFrom 0 text rest
    simpa [quotedAs, shortString?] using read
  · have read := literalText_append keeps.2 rest
    simpa [quotedAs, shortString?] using read

theorem dropLineEnd_of_head {text : List Char}
    (apart : ∀ character ∈ text.head?, character ≠ '\n' ∧ character ≠ '\r') :
    dropLineEnd text = text := by
  cases text with
  | nil => rfl
  | cons character rest =>
      obtain ⟨line, back⟩ := apart character rfl
      rw [dropLineEnd]
      · exact fun _ same => line (List.cons.inj same).1
      · exact fun _ same => back (List.cons.inj same).1

/-- The line end after the first quotes of a long string is left out again. -/
theorem dropLineEnd_firstLineEnd {text body : List Char}
    (apart : '\n' ∉ text → ∀ character ∈ body.head?, character ≠ '\n' ∧ character ≠ '\r') :
    dropLineEnd (firstLineEnd text ++ body) = body := by
  rw [firstLineEnd]
  split
  next => rfl
  next lineless =>
    refine dropLineEnd_of_head (apart ?_)
    simpa using lineless

theorem string?_short {text : List Char} (double : ¬ ['"', '"', '"'] <+: text)
    (single : ¬ ['\'', '\'', '\''] <+: text) : string? text = shortString? text := by
  rw [string?]
  · rintro rest rfl
    exact double ⟨rest, rfl⟩
  · rintro rest rfl
    exact single ⟨rest, rfl⟩

/-- A written string is read back, whatever follows it but a quote. -/
theorem string?_quotedAs {quoting : Quoting} {text : List Char} (keeps : quoting.Keeps text)
    {rest : List Char} (apart : ∀ character ∈ rest.head?, character ≠ '"' ∧ character ≠ '\'') :
    string? (quotedAs text quoting ++ rest) = some (text, rest) := by
  have double : rest.head? ≠ some '"' := fun quote => (apart '"' quote).1 rfl
  have single : rest.head? ≠ some '\'' := fun quote => (apart '\'' quote).2 rfl
  cases quoting with
  | basic =>
      rw [← shortString?_quotedAs keeps (.inl rfl) rest]
      refine string?_short ?_ (by simp [quotedAs])
      intro quotes
      have second : ['"', '"'] <+: escapedFrom false 0 text ++ '"' :: rest := by
        simpa [quotedAs] using quotes
      cases text with
      | nil =>
          obtain ⟨more, same⟩ := (List.cons_prefix_cons.mp second).2
          exact double (by rw [← same]; rfl)
      | cons character text =>
          obtain ⟨first, tail, escaped_eq, unquoted, _⟩ := @escapedFrom_head false 0 character text
            nofun
          rw [escaped_eq] at second
          exact unquoted (List.cons_prefix_cons.mp second).1.symm
  | literal =>
      rw [← shortString?_quotedAs keeps (.inr rfl) rest]
      refine string?_short (by simp [quotedAs]) ?_
      intro quotes
      have second : ['\'', '\''] <+: text ++ '\'' :: rest := by simpa [quotedAs] using quotes
      cases text with
      | nil => exact keeps.1 rfl
      | cons character text =>
          have unquoted := (keeps.2 character List.mem_cons_self).2
          exact unquoted (List.cons_prefix_cons.mp second).1.symm
  | longBasic =>
      have content := longBasicText_escapedFrom 0 text double
      have body : dropLineEnd (firstLineEnd text ++ (escapedFrom true 0 text ++
          '"' :: '"' :: '"' :: rest)) = escapedFrom true 0 text ++ '"' :: '"' :: '"' :: rest :=
        dropLineEnd_firstLineEnd fun lineless => escapedFrom_lineless lineless _
      simpa [quotedAs, string?, body] using content
  | longLiteral =>
      have content := longLiteralText_append keeps.1 keeps.2 single
      have body : dropLineEnd (firstLineEnd text ++ (text ++ '\'' :: '\'' :: '\'' :: rest)) =
          text ++ '\'' :: '\'' :: '\'' :: rest := by
        refine dropLineEnd_firstLineEnd fun lineless head member => ?_
        cases text with
        | nil =>
            cases member
            decide
        | cons character text =>
            cases member
            rcases keeps.2 head List.mem_cons_self with plain | rfl
            · exact not_lineEnd_of_plain plain
            · exact absurd List.mem_cons_self lineless
      simpa [quotedAs, string?, body] using content

end ClusterRest.Toml
