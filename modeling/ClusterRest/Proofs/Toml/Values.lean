import ClusterRest.Proofs.Text
import ClusterRest.Proofs.Toml.Numerals
import ClusterRest.Proofs.Toml.Strings
import ClusterRest.Toml.Reader

/-!
Names and values of TOML documents, written and read back. Main statements: a written name is read
up to what follows it (`run_stepsWithin`), and so is the value of an entry (`run_value_leaf`).
-/

namespace ClusterRest.Toml

open Text Reader

theorem drop_length_takeWhile (accepts : Char → Bool) (text : List Char) :
    text.drop (text.takeWhile accepts).length = text.dropWhile accepts := by
  induction text with
  | nil => rfl
  | cons character rest ih =>
      cases accepted : accepts character <;> simp [accepted, ih]

theorem run_peek (text : List Char) : peek.run text = some (text.head?, text) := rfl

theorem run_take (character : Char) (rest : List Char) :
    (take character).run (character :: rest) = some (true, rest) := by
  simp [take]

theorem run_take_other {character : Char} {text : List Char}
    (other : text.head? ≠ some character) : (take character).run text = some (false, text) := by
  cases text with
  | nil => rfl
  | cons next rest =>
      have different : next ≠ character := fun same => other (congrArg some same)
      simp [take, different]

theorem run_expect (character : Char) (rest : List Char) :
    (expect character).run (character :: rest) = some ((), rest) := by
  simp [expect, run_take]

theorem run_takeAll (accepts : Char → Bool) (text : List Char) :
    (takeAll accepts).run text = some (text.takeWhile accepts, text.dropWhile accepts) := by
  simp [takeAll, drop_length_takeWhile]

theorem run_skipBlanks (text : List Char) :
    skipBlanks.run text = some ((), text.dropWhile isBlank) := by
  have taken := run_takeAll isBlank text
  have skip_eq : skipBlanks = takeAll isBlank >>= fun _ => pure () := rfl
  simp [skip_eq, taken]

theorem run_endLine (rest : List Char) : endLine.run ('\n' :: rest) = some ((), rest) := by
  simp [endLine, run_skipBlanks, skipComment, run_peek, takeLineEnd, isBlank]

/-! ### Names -/

/-- What may follow a name without quotes. -/
def EndsName (text : List Char) : Prop := ∀ character ∈ text.head?, isBareChar character = false

theorem head?_quotedAs (text rest : List Char) (quoting : Quoting) :
    (quotedAs text quoting ++ rest).head? = some '"' ∨
      (quotedAs text quoting ++ rest).head? = some '\'' := by
  cases quoting with
  | basic | longBasic => exact .inl rfl
  | literal | longLiteral => exact .inr rfl

theorem run_step_quoted {text content rest : List Char}
    (read : shortString? text = some (content, rest)) :
    step.run text = some (.ofList content, rest) := by
  have quote : text.head? = some '"' ∨ text.head? = some '\'' := by
    unfold shortString? at read
    split at read
    · exact .inl rfl
    · exact .inr rfl
    · cases read
  rcases quote with quote | quote
  · simp [step, run_peek, quote, read]
  · simp [step, run_peek, quote, read]

theorem run_step_bare {characters rest : List Char} (filled : characters ≠ [])
    (bare : ∀ character ∈ characters, isBareChar character = true) (ends : EndsName rest) :
    step.run (characters ++ rest) = some (.ofList characters, rest) := by
  obtain ⟨taken, left⟩ := takeWhile_append_stops bare ends
  have read := run_takeAll isBareChar (characters ++ rest)
  rw [taken, left] at read
  obtain ⟨first, others, characters_eq⟩ := List.exists_cons_of_ne_nil filled
  have head : (characters ++ rest).head? = some first := by rw [characters_eq]; rfl
  have first_bare := bare first (characters_eq ▸ List.mem_cons_self)
  have double : first ≠ '"' := by
    rintro rfl
    exact absurd first_bare (by decide)
  have single : first ≠ '\'' := by
    rintro rfl
    exact absurd first_bare (by decide)
  simp [step, run_peek, head, double, single, read, filled]

theorem run_step (name : String) {rest : List Char} (ends : EndsName rest) :
    step.run ((writtenName name).toList ++ rest) = some (name, rest) := by
  rw [writtenName]
  split
  next bare =>
    simp only [Bool.and_eq_true, Bool.not_eq_true', List.isEmpty_eq_false_iff,
      List.all_eq_true] at bare
    have read := run_step_bare bare.1 bare.2 ends
    rwa [String.ofList_toList] at read
  next quoted =>
    obtain ⟨keeps, short⟩ := nameQuoting_keeps name.toList
    have read := run_step_quoted (shortString?_quotedAs keeps short rest)
    rw [String.ofList_toList] at read
    rwa [String.toList_ofList]

/-- The steps of a name as they are written. -/
def dotted (path : List String) : List Char := (".".intercalate (path.map writtenName)).toList

theorem dotted_singleton (name : String) : dotted [name] = (writtenName name).toList := by
  simp [dotted]

theorem dotted_cons (name next : String) (path : List String) :
    dotted (name :: next :: path) =
      (writtenName name).toList ++ '.' :: dotted (next :: path) := by
  simp [dotted, String.intercalate_cons_cons]

/-- Characters with which a written name starts. -/
def StartsName (character : Char) : Prop :=
  isBareChar character = true ∨ character = '"' ∨ character = '\''

theorem StartsName.ne {character other : Char} (starts : StartsName character)
    (unbare : isBareChar other = false) (double : other ≠ '"') (single : other ≠ '\'') :
    character ≠ other := by
  rintro rfl
  rcases starts with bare | quote | quote
  · rw [bare] at unbare
    cases unbare
  · exact double quote
  · exact single quote

theorem StartsName.isBlank_eq {character : Char} (starts : StartsName character) :
    isBlank character = false := by
  have space := starts.ne (by decide : isBareChar ' ' = false) (by decide) (by decide)
  have tab := starts.ne (by decide : isBareChar '\t' = false) (by decide) (by decide)
  simp [isBlank, space, tab]

theorem exists_startsName (name : String) : ∃ first rest,
    (writtenName name).toList = first :: rest ∧ StartsName first := by
  rw [writtenName]
  split
  next bare =>
    simp only [Bool.and_eq_true, Bool.not_eq_true', List.isEmpty_eq_false_iff,
      List.all_eq_true] at bare
    obtain ⟨first, rest, name_eq⟩ := List.exists_cons_of_ne_nil bare.1
    exact ⟨first, rest, name_eq, .inl (bare.2 first (name_eq ▸ List.mem_cons_self))⟩
  next quoted =>
    rw [String.toList_ofList]
    cases nameQuoting name.toList with
    | basic | longBasic => exact ⟨'"', _, rfl, .inr (.inl rfl)⟩
    | literal | longLiteral => exact ⟨'\'', _, rfl, .inr (.inr rfl)⟩

theorem dropWhile_writtenName (name : String) (rest : List Char) :
    ((writtenName name).toList ++ rest).dropWhile isBlank = (writtenName name).toList ++ rest := by
  obtain ⟨first, others, name_eq, starts⟩ := exists_startsName name
  simp [name_eq, starts.isBlank_eq]

/-- A dotted name is read up to what follows it, without the blanks there. -/
theorem run_stepsWithin {count : Nat} {path : List String} (filled : path ≠ [])
    (short : path.length ≤ count) {rest : List Char} (ends : EndsName rest)
    (undotted : (rest.dropWhile isBlank).head? ≠ some '.') :
    (stepsWithin count).run (dotted path ++ rest) = some (path, rest.dropWhile isBlank) := by
  induction path generalizing count with
  | nil => exact absurd rfl filled
  | cons name path ih =>
      obtain ⟨count, rfl⟩ : ∃ fewer, count = fewer + 1 := ⟨count - 1, by
        simp only [List.length_cons] at short
        omega⟩
      cases path with
      | nil =>
          rw [dotted_singleton]
          simp [stepsWithin, run_skipBlanks, dropWhile_writtenName, run_step name ends,
            run_take_other undotted]
      | cons next path =>
          have fewer : (next :: path).length ≤ count := Nat.le_of_succ_le_succ short
          have read := ih (List.cons_ne_nil _ _) fewer
          have dot : EndsName ('.' :: (dotted (next :: path) ++ rest)) := by
            intro character first
            cases first
            decide
          rw [dotted_cons, List.append_assoc, List.cons_append]
          simp [stepsWithin, run_skipBlanks, dropWhile_writtenName, run_step name dot,
            (by decide : isBlank '.' = false), run_take, read]

/-! ### Values -/

/-- The value that an entry gives. -/
def Leaf.toValue : Leaf → Value
  | .text value => .text value
  | .integer value => .integer value
  | .boolean value => .boolean value
  | .texts values => .list (values.map .text)

/-- Integers of entries fit 64 bits. -/
def Leaf.Fits : Leaf → Prop
  | .integer value => fits value = true
  | .text _ | .boolean _ | .texts _ => True

theorem run_word {characters rest : List Char} {value : Value}
    (solid : ∀ character ∈ characters, endsWord character = false)
    (ends : ∀ character ∈ rest.head?, endsWord character = true)
    (undated : date? characters = none) (read : word? characters = some value) :
    word.run (characters ++ rest) = some (value, rest) := by
  have taken : ∀ character ∈ characters, (!endsWord character) = true := by
    simpa using solid
  have stops : ∀ character ∈ rest.head?, (!endsWord character) = false := by
    simpa using ends
  obtain ⟨front, back⟩ := takeWhile_append_stops taken stops
  simp [word, run_takeAll, front, back, undated, read]

theorem run_value_word {depth : Nat} {first : Char} {rest : List Char}
    (plain : first ∉ ['"', '\'', '[', '\x7b']) :
    (value (depth + 1)).run (first :: rest) = word.run (first :: rest) := by
  simp only [List.mem_cons, List.not_mem_nil, or_false, not_or] at plain
  simp [value, plain]

theorem run_value_text {depth : Nat} {text content rest : List Char}
    (quote : text.head? = some '"' ∨ text.head? = some '\'')
    (read : string? text = some (content, rest)) :
    (value (depth + 1)).run text = some (.text (.ofList content), rest) := by
  cases text with
  | nil => simp at quote
  | cons first others =>
      rcases quote with quote | quote
      · cases quote
        simp [value, read]
      · cases quote
        simp [value, read]

theorem run_value_quoted {depth : Nat} (text : String) {rest : List Char}
    (apart : ∀ character ∈ rest.head?, character ≠ '"' ∧ character ≠ '\'') :
    (value (depth + 1)).run ((quoted text).toList ++ rest) = some (.text text, rest) := by
  have read := string?_quotedAs (quotingOf_keeps text.toList) apart
  have quote := head?_quotedAs text.toList rest (quotingOf text.toList)
  have value_eq : (value (depth + 1)).run _ = _ := run_value_text quote read
  rw [String.ofList_toList] at value_eq
  rwa [quoted, String.toList_ofList]

/-! ### Lists -/

/-- What a line of a list starts with, once the blanks before it are gone. -/
def Solid (text : List Char) : Prop :=
  ∀ character ∈ text.head?, character ∉ [' ', '\t', '\n', '\r', '#']

theorem Solid.dropWhile_blanks {blanks text : List Char} (solid : Solid text)
    (all : ∀ character ∈ blanks, isBlank character = true) :
    (blanks ++ text).dropWhile isBlank = text := by
  refine (takeWhile_append_stops all fun first member => ?_).2
  have other := solid first member
  simp only [List.mem_cons, List.not_mem_nil, or_false, not_or] at other
  simp [isBlank, other]

theorem run_skipLines_blanks {blanks text : List Char} (solid : Solid text)
    (all : ∀ character ∈ blanks, isBlank character = true) (fuel : Nat) :
    (skipLines (fuel + 1)).run (blanks ++ text) = some ((), text) := by
  have left := solid.dropWhile_blanks all
  cases text with
  | nil =>
      rw [List.append_nil] at left ⊢
      simp [skipLines, run_skipBlanks, run_peek, takeLineEnd, left]
  | cons first rest =>
      have other := solid first rfl
      simp only [List.mem_cons, List.not_mem_nil, or_false, not_or] at other
      simp [skipLines, run_skipBlanks, run_peek, takeLineEnd, left, other]

theorem run_skipSpace {text : List Char} (solid : Solid text) :
    skipSpace.run text = some ((), text) := by
  have skipped := run_skipLines_blanks solid (fun _ member => absurd member List.not_mem_nil)
    text.length
  simpa [skipSpace] using skipped

/-- A line end and the indentation after it. -/
theorem run_skipSpace_line {blanks text : List Char} (solid : Solid text)
    (all : ∀ character ∈ blanks, isBlank character = true) :
    skipSpace.run ('\n' :: (blanks ++ text)) = some ((), text) := by
  have skipped := run_skipLines_blanks solid all (blanks ++ text).length
  have lines_eq : (skipLines ((blanks ++ text).length + 2)).run ('\n' :: (blanks ++ text)) =
      (skipLines ((blanks ++ text).length + 1)).run (blanks ++ text) := by
    rw [skipLines]
    simp [run_skipBlanks, run_peek, takeLineEnd, isBlank]
  rw [skipped] at lines_eq
  simpa [skipSpace] using lines_eq

theorem solid_quoted (text : String) (rest : List Char) :
    Solid ((quoted text).toList ++ rest) ∧ ((quoted text).toList ++ rest).head? ≠ some ']' := by
  rw [quoted, String.toList_ofList]
  rcases head?_quotedAs text.toList rest (quotingOf text.toList) with quote | quote
  · simp [Solid, quote]
  · simp [Solid, quote]

/-- The lines of a list of two or more elements, after the first line end. -/
def listLines (texts : List String) : List Char :=
  texts.flatMap fun text => [' ', ' ', ' ', ' '] ++ ((quoted text).toList ++ [',', '\n'])

theorem run_elements_lines {depth fuel : Nat} (texts : List String) (rest : List Char)
    (fueled : texts.length < fuel) :
    (elements (value (depth + 1)) fuel).run ('\n' :: (listLines texts ++ ']' :: rest)) =
      some (texts.map .text, rest) := by
  induction texts generalizing fuel with
  | nil =>
      obtain ⟨fuel, rfl⟩ := Nat.exists_eq_add_one_of_ne_zero (Nat.ne_of_gt fueled)
      have closes : Solid (']' :: rest) := by simp [Solid]
      have skipped := run_skipSpace_line closes (fun _ member => absurd member List.not_mem_nil)
      rw [List.nil_append] at skipped
      simp [elements, listLines, skipped, run_take]
  | cons text texts ih =>
      obtain ⟨fuel, rfl⟩ := Nat.exists_eq_add_one_of_ne_zero (Nat.ne_zero_of_lt fueled)
      have others := ih (Nat.lt_of_succ_lt_succ fueled)
      let after := ',' :: '\n' :: (listLines texts ++ ']' :: rest)
      have apart : ∀ character ∈ after.head?, character ≠ '"' ∧ character ≠ '\'' := by
        simp [after]
      have comma : Solid after := by simp [Solid, after]
      obtain ⟨solid, unclosed⟩ := solid_quoted text after
      have skipped := @run_skipSpace_line [' ', ' ', ' ', ' '] _ solid (by simp [isBlank])
      have lines_eq : '\n' :: (listLines (text :: texts) ++ ']' :: rest) =
          '\n' :: ([' ', ' ', ' ', ' '] ++ ((quoted text).toList ++ after)) := by
        simp [listLines, after]
      have read := @run_value_quoted depth text after apart
      rw [lines_eq]
      simp only [elements, StateT.run_bind, Option.bind_eq_bind, skipped, Option.bind_some,
        run_take_other unclosed, Bool.false_eq_true, if_false, read, run_skipSpace comma]
      simp [after, run_take, others]

theorem length_le_listLines (texts : List String) : texts.length ≤ (listLines texts).length := by
  induction texts with
  | nil => exact Nat.le_refl 0
  | cons text texts ih =>
      have lines_eq : listLines (text :: texts) =
          [' ', ' ', ' ', ' '] ++ ((quoted text).toList ++ [',', '\n']) ++ listLines texts := rfl
      rw [lines_eq, List.length_append, List.length_append, List.length_cons]
      simp only [List.length_cons]
      omega

theorem run_elements_none {element : Reader Value} (fuel : Nat) (rest : List Char) :
    (elements element (fuel + 1)).run (']' :: rest) = some ([], rest) := by
  have closes : Solid (']' :: rest) := by simp [Solid]
  simp [elements, run_skipSpace closes, run_take]

theorem run_elements_one {depth : Nat} (fuel : Nat) (text : String) (rest : List Char) :
    (elements (value (depth + 1)) (fuel + 1)).run ((quoted text).toList ++ ']' :: rest) =
      some ([.text text], rest) := by
  have closes : Solid (']' :: rest) := by simp [Solid]
  obtain ⟨solid, unclosed⟩ := solid_quoted text (']' :: rest)
  have read := @run_value_quoted depth text (']' :: rest) (by simp)
  have last : (take ',').run (']' :: rest) = some (false, ']' :: rest) := run_take_other (by simp)
  simp only [elements, StateT.run_bind, Option.bind_eq_bind, run_skipSpace solid, Option.bind_some,
    run_take_other unclosed, Bool.false_eq_true, if_false, read, run_skipSpace closes, last,
    run_expect]
  rfl

theorem run_value_list {depth : Nat} (texts : List String) (rest : List Char) :
    (value (depth + 2)).run ((writtenList (texts.map quoted)).toList ++ rest) =
      some (.list (texts.map .text), rest) := by
  have opened {body : List Char} {values : List Value}
      (read : (elements (value (depth + 1)) (body.length + 1)).run body = some (values, rest)) :
      (value (depth + 2)).run ('[' :: body) = some (.list values, rest) := by
    rw [value]
    simp [read]
  match texts with
  | [] => exact opened (run_elements_none _ rest)
  | [text] =>
      have written : (writtenList ([text].map quoted)).toList ++ rest =
          '[' :: ((quoted text).toList ++ ']' :: rest) := by
        simp [writtenList]
      rw [written]
      exact opened (run_elements_one _ text rest)
  | first :: second :: others =>
      have written : (writtenList ((first :: second :: others).map quoted)).toList ++ rest =
          '[' :: '\n' :: (listLines (first :: second :: others) ++ ']' :: rest) := by
        simp [writtenList, listLines, List.flatMap_map]
      rw [written]
      refine opened (run_elements_lines _ rest ?_)
      have bounded := length_le_listLines (first :: second :: others)
      simp only [List.length_cons, List.length_append] at bounded ⊢
      omega

theorem numeral_character {character : Char} (plain : isDigit character = true ∨ character = '-') :
    endsWord character = false ∧ character ∉ ['"', '\'', '[', '\x7b'] := by
  rcases plain with digit | rfl
  · have unlisted {listed : List Char} (others : listed.any isDigit = false) :
        character ∉ listed := by
      intro member
      rw [List.any_eq_true.mpr ⟨character, member, digit⟩] at others
      cases others
    refine ⟨?_, unlisted rfl⟩
    rw [endsWord, List.contains_eq_mem, decide_eq_false_iff_not]
    exact unlisted rfl
  · exact ⟨rfl, by decide⟩

theorem run_value_integer {depth : Nat} {number : Int} (fitting : fits number = true)
    {rest : List Char} (ends : ∀ character ∈ rest.head?, endsWord character = true) :
    (value (depth + 1)).run ((toString number).toList ++ rest) = some (.integer number, rest) := by
  have numeral := isNumeral_toString number
  have read := word?_toString fitting
  obtain ⟨first, digits, word_eq, leads, all⟩ := numeral.exists_digits
  have solid : ∀ character ∈ (toString number).toList, endsWord character = false := by
    rw [word_eq]
    refine List.forall_mem_cons.mpr ⟨(numeral_character leads).1, fun digit member => ?_⟩
    exact (numeral_character (.inl (all digit member))).1
  have word_read := run_word solid ends numeral.date? read
  rw [word_eq] at word_read ⊢
  exact (run_value_word (numeral_character leads).2).trans word_read

/-- The value of an entry is read up to the end of its line. -/
theorem run_value_leaf {leaf : Leaf} (fitting : leaf.Fits) (rest : List Char) :
    (value depthLimit).run (leaf.written.toList ++ '\n' :: rest) =
      some (leaf.toValue, '\n' :: rest) := by
  have line : ∀ character ∈ ('\n' :: rest).head?, endsWord character = true := by
    intro character first
    cases first
    decide
  cases leaf with
  | text text => exact run_value_quoted text (by simp)
  | texts texts => exact run_value_list texts ('\n' :: rest)
  | boolean holds =>
      cases holds with
      | true =>
          have solid : ∀ character ∈ "true".toList, endsWord character = false := by
            simp [endsWord]
          exact (run_value_word (by decide)).trans (run_word solid line rfl rfl)
      | false =>
          have solid : ∀ character ∈ "false".toList, endsWord character = false := by
            simp [endsWord]
          exact (run_value_word (by decide)).trans (run_word solid line rfl rfl)
  | integer number => exact run_value_integer fitting line

theorem not_blank_of_word {character : Char} (solid : endsWord character = false) :
    isBlank character = false := by
  have space : character ≠ ' ' := by
    rintro rfl
    cases solid
  have tab : character ≠ '\t' := by
    rintro rfl
    cases solid
  simp [isBlank, space, tab]

theorem exists_written (leaf : Leaf) : ∃ first rest,
    leaf.written.toList = first :: rest ∧ isBlank first = false := by
  cases leaf with
  | text text =>
      rw [Leaf.written, quoted, String.toList_ofList]
      cases quotingOf text.toList with
      | basic | longBasic => exact ⟨'"', _, rfl, rfl⟩
      | literal | longLiteral => exact ⟨'\'', _, rfl, rfl⟩
  | integer number =>
      obtain ⟨first, digits, word_eq, leads, _⟩ := (isNumeral_toString number).exists_digits
      exact ⟨first, digits, word_eq, not_blank_of_word (numeral_character leads).1⟩
  | boolean holds =>
      cases holds with
      | true => exact ⟨'t', _, rfl, rfl⟩
      | false => exact ⟨'f', _, rfl, rfl⟩
  | texts texts =>
      match texts with
      | [] => exact ⟨'[', _, rfl, rfl⟩
      | [text] => exact ⟨'[', _, by simp [Leaf.written, writtenList]; rfl, rfl⟩
      | first :: second :: others => exact ⟨'[', _, by simp [Leaf.written, writtenList]; rfl, rfl⟩

end ClusterRest.Toml
