import ClusterRest.Proofs.Json.Tree

/-!
What the readers of strings and numbers take from a text that begins with one, and what they leave.
Where and why a reader fails is left out.
-/

namespace ClusterRest.Json

section

variable {α β : Type}

/-- What a reader gives and leaves; none where it fails. -/
def result? (reader : Reader α) (text : Bytes) : Option (α × Bytes) := (reader text).toOption

@[simp] theorem result?_pure (value : α) (text : Bytes) :
    result? (pure value : Reader α) text = some (value, text) := rfl

@[simp] theorem result?_bind (reader : Reader α) (next : α → Reader β) (text : Bytes) :
    result? (reader >>= next) text =
      (result? reader text).bind fun taken => result? (next taken.1) taken.2 := by
  simp only [result?, StateT.bind, bind, Except.bind]
  cases reader text <;> rfl

@[simp] theorem result?_get (text : Bytes) : result? get text = some (text, text) := rfl

@[simp] theorem result?_set (left text : Bytes) : result? (set left) text = some ((), left) := rfl

@[simp] theorem result?_failNext (cause : Cause) (text : Bytes) :
    result? (failNext cause : Reader α) text = none := rfl

@[simp] theorem result?_skipByte (text : Bytes) :
    result? skipByte text = some ((), text.drop 1) := rfl

@[simp] theorem result?_ite (condition : Prop) [Decidable condition] (first second : Reader α)
    (text : Bytes) :
    result? (if condition then first else second) text =
      if condition then result? first text else result? second text := by
  split <;> rfl

end

/-! ### Strings -/

/-- Bytes that end no string and begin no escape. -/
def isOrdinary (byte : UInt8) : Bool :=
  byte != quoteByte && byte != backslashByte && !decide (byte < 0x20)

theorem isOrdinary_of_mem {character : Char} (unescaped : isUnescaped character = true)
    {byte : UInt8} (member : byte ∈ String.utf8EncodeChar character) :
    isOrdinary byte = true := by
  by_cases ascii : character.toNat < 0x80
  · rw [Bytes.encode_ascii ascii, List.mem_singleton] at member
    subst member
    simp only [isUnescaped, Bool.and_eq_true, decide_eq_true_eq, bne_iff_ne, ne_eq,
      Char.le_def, ← Char.toNat_inj] at unescaped
    obtain ⟨⟨control, quote⟩, backslash⟩ := unescaped
    have control : 0x20 ≤ character.toNat := control
    have small : character.toNat % 256 = character.toNat := Nat.mod_eq_of_lt (by omega)
    simp only [isOrdinary, quoteByte, backslashByte, Bool.and_eq_true, bne_iff_ne, ne_eq,
      ← UInt8.toNat_inj, UInt8.toNat_ofNat', UInt8.lt_iff_toNat_lt, Bool.not_eq_true',
      decide_eq_false_iff_not, Nat.reducePow, small]
    exact ⟨⟨quote, backslash⟩, Nat.not_lt.mpr control⟩
  · have high := Bytes.le_of_mem_encode (Nat.le_of_not_lt ascii) member
    simp only [UInt8.le_iff_toNat_le] at high
    have high : 0x80 ≤ byte.toNat := high
    simp only [isOrdinary, quoteByte, backslashByte, Bool.and_eq_true, bne_iff_ne, ne_eq,
      ← UInt8.toNat_inj, UInt8.lt_iff_toNat_lt, Bool.not_eq_true', decide_eq_false_iff_not,
      UInt8.toNat_ofNat, Nat.reduceMod, Nat.reducePow]
    omega

theorem stringBytes_ordinary {byte : UInt8} (ordinary : isOrdinary byte = true) (rest : Bytes) :
    (stringBytes 0 (byte :: rest)).toOption =
      (stringBytes 0 rest).toOption.map fun (content, left) => (byte :: content, left) := by
  simp only [isOrdinary, Bool.and_eq_true, bne_iff_ne, Bool.not_eq_true',
    decide_eq_false_iff_not] at ordinary
  obtain ⟨⟨quote, backslash⟩, control⟩ := ordinary
  rw [stringBytes]
  simp only [beq_iff_eq, quote, backslash, control, if_false]
  cases stringBytes 0 rest <;> rfl

theorem stringBytes_run {run : Bytes} (ordinary : ∀ byte ∈ run, isOrdinary byte = true)
    (rest : Bytes) :
    (stringBytes 0 (run ++ rest)).toOption =
      (stringBytes 0 rest).toOption.map fun (content, left) => (run ++ content, left) := by
  induction run with
  | nil => simp
  | cons byte run ih =>
      rw [List.cons_append, stringBytes_ordinary (ordinary byte List.mem_cons_self),
        ih fun other member => ordinary other (List.mem_cons_of_mem byte member), Option.map_map]
      rfl

theorem stringBytes_skip (read rest : Bytes) :
    stringBytes read.length (read ++ rest) = stringBytes 0 rest := by
  induction read with
  | nil => rfl
  | cons byte read ih => rw [List.cons_append, List.length_cons, stringBytes, ih]

theorem length_append_sub (read rest : Bytes) :
    (read ++ rest).length - rest.length = read.length := by
  rw [List.length_append, Nat.add_sub_cancel]

/-- An escape that is read counts as its character. -/
theorem stringBytes_escape {character : Char} {read rest : Bytes}
    (reads : escape (read ++ rest) = .ok (character, rest)) :
    (stringBytes 0 (backslashByte :: (read ++ rest))).toOption =
      (stringBytes 0 rest).toOption.map fun (content, left) =>
        (Bytes.ofChars [character] ++ content, left) := by
  have backslash : (backslashByte == quoteByte) = false := by decide
  rw [stringBytes]
  simp only [backslash, Bool.false_eq_true, if_false, beq_self_eq_true, if_true, reads,
    length_append_sub, stringBytes_skip]
  cases stringBytes 0 rest <;> rfl

theorem stringBytes_badEscape {text : Bytes} {fault : Fault} (fails : escape text = .error fault) :
    (stringBytes 0 (backslashByte :: text)).toOption = none := by
  have backslash : (backslashByte == quoteByte) = false := by decide
  rw [stringBytes]
  simp only [backslash, Bool.false_eq_true, if_false, beq_self_eq_true, if_true, fails]
  rfl

theorem ofHexDigit?_isSome (digit : HexDigit) : (Bytes.ofHexDigit? digit).isSome = true := by
  have accepted := digit.property
  simp only [Text.isHexDigit, Text.isDigit, Bool.or_eq_true] at accepted
  rw [Bytes.ofHexDigit?]
  split
  · rfl
  split
  · rfl
  split
  · rfl
  next decimal lower upper =>
    rcases accepted with (accepted | accepted) | accepted
    · exact absurd accepted decimal
    · exact absurd accepted lower
    · exact absurd accepted upper

theorem HexDigit.ascii (digit : HexDigit) : digit.val.toNat < 0x80 := by
  have accepted := digit.property
  simp only [Text.isHexDigit, Text.isDigit, Bool.or_eq_true, Bool.and_eq_true, decide_eq_true_eq,
    Char.le_def, UInt32.le_iff_toNat_le] at accepted
  have value : digit.val.val.toNat = digit.val.toNat := rfl
  simp only [value] at accepted
  rcases accepted with (⟨_, high⟩ | ⟨_, high⟩) | ⟨_, high⟩
  · exact Nat.lt_of_le_of_lt high (by decide)
  · exact Nat.lt_of_le_of_lt high (by decide)
  · exact Nat.lt_of_le_of_lt high (by decide)

theorem hexEscape_code (code : HexCode) (rest : Bytes) :
    hexEscape (Bytes.ofChars code.chars ++ rest) = .ok (code.value, rest) := by
  obtain ⟨first, second, third, fourth⟩ := code
  obtain ⟨one, one_eq⟩ := Option.isSome_iff_exists.mp (ofHexDigit?_isSome first)
  obtain ⟨two, two_eq⟩ := Option.isSome_iff_exists.mp (ofHexDigit?_isSome second)
  obtain ⟨three, three_eq⟩ := Option.isSome_iff_exists.mp (ofHexDigit?_isSome third)
  obtain ⟨four, four_eq⟩ := Option.isSome_iff_exists.mp (ofHexDigit?_isSome fourth)
  simp only [HexCode.chars, HexCode.value, Bytes.ofChars_cons_ascii (HexDigit.ascii _),
    Bytes.ofChars_nil, List.cons_append, List.nil_append, hexEscape, List.mapM_cons,
    List.mapM_nil, Bytes.ofNat_toNat_ofNat (HexDigit.ascii _), one_eq, two_eq, three_eq, four_eq,
    List.foldl_cons, List.foldl_nil, Option.getD_some]
  rfl

theorem contentBytes_cons (piece : Piece) (rest : List Piece) :
    Bytes.ofChars (contentChars (piece :: rest)) =
      Bytes.ofChars piece.chars ++ Bytes.ofChars (contentChars rest) := by
  rw [contentChars, List.flatMap_cons, Bytes.ofChars_append]
  rfl

theorem plain_bytes {character : Char} (unescaped : isUnescaped character = true) :
    Bytes.ofChars (Piece.plain character unescaped).chars = String.utf8EncodeChar character := by
  rw [Piece.chars, Bytes.ofChars_cons, Bytes.ofChars_nil, List.append_nil]

theorem escaped_bytes (escape : Escape) :
    Bytes.ofChars (Piece.escaped escape).chars =
      backslashByte :: [.ofNat escape.letter.toNat] := by
  cases escape <;> rfl

theorem escape_escaped (written : Escape) (rest : Bytes) :
    escape ([.ofNat written.letter.toNat] ++ rest) = .ok (written.character, rest) := by
  cases written <;> rfl

theorem coded_bytes (code : HexCode) :
    Bytes.ofChars (Piece.coded code).chars =
      backslashByte :: (0x75 :: Bytes.ofChars code.chars) := by
  rw [Piece.chars, Bytes.ofChars_cons_ascii (by decide), Bytes.ofChars_cons_ascii (by decide)]
  rfl

theorem escape_coded (code : HexCode) (rest : Bytes) :
    escape ((0x75 :: Bytes.ofChars code.chars) ++ rest) =
      if code.isTrailing then .error ⟨.loneSurrogate, rest.length⟩
      else if code.isLeading then trailingEscape code.value rest
      else .ok (Char.ofNat code.value, rest) := by
  rw [List.cons_append, escape]
  simp only [beq_self_eq_true, if_true, hexEscape_code]
  rfl

theorem trailingEscape_coded (leading : Nat) (code : HexCode) (rest : Bytes) :
    trailingEscape leading (backslashByte :: (0x75 :: Bytes.ofChars code.chars) ++ rest) =
      if code.isTrailing then .ok (surrogatePair leading code.value, rest)
      else .error ⟨.loneSurrogate, rest.length⟩ := by
  simp only [List.cons_append, trailingEscape, bne_self_eq_false, Bool.false_eq_true, if_false,
    hexEscape_code]
  rfl

/-- A leading surrogate without another escape by number after it. -/
theorem trailingEscape_fails (leading : Nat) {pieces : List Piece}
    (alone : ∀ trailing rest, pieces ≠ .coded trailing :: rest) (rest : Bytes) :
    ∃ fault, trailingEscape leading
      (Bytes.ofChars (contentChars pieces) ++ quoteByte :: rest) = .error fault := by
  cases pieces with
  | nil => exact ⟨_, rfl⟩
  | cons piece more =>
      rw [contentBytes_cons]
      cases piece with
      | plain character unescaped =>
          obtain ⟨byte, after, written⟩ := Bytes.encode_eq_cons character
          have ordinary : isOrdinary byte = true :=
            isOrdinary_of_mem unescaped (written ▸ List.mem_cons_self)
          simp only [isOrdinary, Bool.and_eq_true] at ordinary
          rw [plain_bytes, written]
          simp only [List.cons_append, trailingEscape, ordinary.1.2, if_true]
          exact ⟨_, rfl⟩
      | escaped written =>
          rw [escaped_bytes]
          cases written <;> exact ⟨_, rfl⟩
      | coded code => exact absurd rfl (alone code more)

theorem map_cons_character (character : Char) (decoded : Option (List Char)) (rest : Bytes) :
    ((decoded.map fun characters => (Bytes.ofChars characters, rest)).map
        fun (content, left) => (Bytes.ofChars [character] ++ content, left)) =
      (decoded.map (character :: ·)).map fun characters => (Bytes.ofChars characters, rest) := by
  rw [Option.map_map, Option.map_map]
  exact congrArg (Option.map · decoded) (funext fun _ => by
    simp only [Function.comp_apply, ← Bytes.ofChars_append, List.singleton_append])

/-- The bytes between two quotes are read as the characters that they stand for. -/
theorem stringBytes_content (pieces : List Piece) (rest : Bytes) :
    (stringBytes 0 (Bytes.ofChars (contentChars pieces) ++ quoteByte :: rest)).toOption =
      (decode? pieces).map fun characters => (Bytes.ofChars characters, rest) := by
  fun_induction decode? pieces with
  | case1 => rfl
  | case2 character unescaped more ih =>
      rw [contentBytes_cons, plain_bytes, List.append_assoc,
        stringBytes_run fun _ member => isOrdinary_of_mem unescaped member, ih, Option.map_map,
        Option.map_map]
      rfl
  | case3 written more ih =>
      rw [contentBytes_cons, escaped_bytes, List.append_assoc, List.cons_append,
        stringBytes_escape (escape_escaped written _), ih, map_cons_character]
  | case4 code more trailing =>
      rw [contentBytes_cons, coded_bytes, List.append_assoc, List.cons_append]
      exact stringBytes_badEscape ((escape_coded code _).trans (if_pos trailing))
  | case5 code alone leading partner more trailing ih =>
      have reads (rest : Bytes) :
          escape ((0x75 :: Bytes.ofChars code.chars ++
            backslashByte :: (0x75 :: Bytes.ofChars partner.chars)) ++ rest) =
              .ok (surrogatePair code.value partner.value, rest) := by
        rw [List.append_assoc, escape_coded, if_neg alone, if_pos leading, trailingEscape_coded,
          if_pos trailing]
      rw [contentBytes_cons, contentBytes_cons, coded_bytes, coded_bytes, List.cons_append,
        List.cons_append, ← List.append_assoc, List.append_assoc,
        stringBytes_escape (reads _), ih, map_cons_character]
  | case6 code alone leading partner more lone =>
      rw [contentBytes_cons, contentBytes_cons, coded_bytes, coded_bytes, List.append_assoc,
        List.append_assoc, List.cons_append]
      exact stringBytes_badEscape ((escape_coded code _).trans <| (if_neg alone).trans <|
        (if_pos leading).trans <| (trailingEscape_coded _ _ _).trans (if_neg lone))
  | case7 code more alone leading none =>
      obtain ⟨fault, fails⟩ := trailingEscape_fails code.value none rest
      rw [contentBytes_cons, coded_bytes, List.append_assoc, List.cons_append]
      exact stringBytes_badEscape ((escape_coded code _).trans <| (if_neg alone).trans <|
        (if_pos leading).trans fails)
  | case8 code more alone single ih =>
      rw [contentBytes_cons, coded_bytes, List.append_assoc, List.cons_append,
        stringBytes_escape ((escape_coded code _).trans (by rw [if_neg alone, if_neg single])), ih,
        map_cons_character]

theorem result?_stringTail (pieces : List Piece) (rest : Bytes) :
    result? stringTail (Bytes.ofChars (contentChars pieces) ++ quoteByte :: rest) =
      (string? pieces).map (·, rest) := by
  have read := stringBytes_content pieces rest
  rw [result?, stringTail, string?]
  cases outcome : stringBytes 0 (Bytes.ofChars (contentChars pieces) ++ quoteByte :: rest) with
  | error fault =>
      rw [outcome] at read
      rw [Option.map_eq_none_iff.mp read.symm]
      rfl
  | ok taken =>
      rw [outcome] at read
      obtain ⟨characters, decoded, taken_eq⟩ := Option.map_eq_some_iff.mp read.symm
      subst taken_eq
      simp only [Bytes.toString?_ofChars, decoded, Option.map_some]
      rfl

/-! ### Strings that nobody reads -/

theorem skipStringFrom_skip (read rest : Bytes) :
    skipStringFrom read.length (read ++ rest) = skipStringFrom 0 rest := by
  induction read with
  | nil => rfl
  | cons byte read ih => rw [List.cons_append, List.length_cons, skipStringFrom, ih]

theorem skipStringFrom_run {run : Bytes} (ordinary : ∀ byte ∈ run, isOrdinary byte = true)
    (rest : Bytes) : skipStringFrom 0 (run ++ rest) = skipStringFrom 0 rest := by
  induction run with
  | nil => rfl
  | cons byte run ih =>
      have first := ordinary byte List.mem_cons_self
      simp only [isOrdinary, Bool.and_eq_true, bne_iff_ne, Bool.not_eq_true',
        decide_eq_false_iff_not] at first
      obtain ⟨⟨quote, backslash⟩, control⟩ := first
      rw [List.cons_append, skipStringFrom]
      simp only [beq_iff_eq, quote, backslash, control, if_false]
      exact ih fun other member => ordinary other (List.mem_cons_of_mem byte member)

theorem skipStringFrom_escape {read rest : Bytes}
    (skips : skippedEscape (read ++ rest) = .ok rest) :
    skipStringFrom 0 (backslashByte :: (read ++ rest)) = skipStringFrom 0 rest := by
  have backslash : (backslashByte == quoteByte) = false := by decide
  rw [skipStringFrom]
  simp only [backslash, Bool.false_eq_true, if_false, beq_self_eq_true, if_true, skips,
    length_append_sub, skipStringFrom_skip]

theorem skippedEscape_coded (code : HexCode) (rest : Bytes) :
    skippedEscape ((0x75 :: Bytes.ofChars code.chars) ++ rest) = .ok rest := by
  rw [List.cons_append, skippedEscape]
  simp only [beq_self_eq_true, if_true, hexEscape_code]
  rfl

theorem skippedEscape_escaped (written : Escape) (rest : Bytes) :
    skippedEscape ([.ofNat written.letter.toNat] ++ rest) = .ok rest := by
  cases written <;> rfl

theorem skipStringFrom_content (pieces : List Piece) (rest : Bytes) :
    skipStringFrom 0 (Bytes.ofChars (contentChars pieces) ++ quoteByte :: rest) = .ok rest := by
  induction pieces with
  | nil => rfl
  | cons piece more ih =>
      rw [contentBytes_cons, List.append_assoc]
      cases piece with
      | plain character unescaped =>
          rw [plain_bytes,
            skipStringFrom_run fun _ member => isOrdinary_of_mem unescaped member, ih]
      | escaped written =>
          rw [escaped_bytes, List.cons_append,
            skipStringFrom_escape (skippedEscape_escaped written _), ih]
      | coded code =>
          rw [coded_bytes, List.cons_append, skipStringFrom_escape (skippedEscape_coded code _), ih]

theorem result?_skipStringTail (pieces : List Piece) (rest : Bytes) :
    result? skipStringTail (Bytes.ofChars (contentChars pieces) ++ quoteByte :: rest) =
      some ((), rest) := by
  rw [result?, skipStringTail, skipStringFrom_content]
  rfl

/-! ### Numbers -/

theorem digitBytes_eq (digits : List Digit) :
    Bytes.ofChars (digitChars digits) = digitBytes digits := by
  have written : ∀ digit : Digit, digit.char.toNat < 0x80 ∧
      UInt8.ofNat digit.char.toNat = digit.byte := by decide
  induction digits with
  | nil => rfl
  | cons digit rest ih =>
      obtain ⟨ascii, byte⟩ := written digit
      rw [digitChars, List.map_cons, Bytes.ofChars_cons_ascii ascii, byte]
      exact congrArg (digit.byte :: ·) ih

theorem isDigitByte_byte : ∀ digit : Digit, isDigitByte digit.byte = true := by decide

theorem byte_ne_zero : ∀ digit : Digit, digit ≠ 0 → (digit.byte == 0x30) = false := by decide

theorem byte_ne_sign : ∀ digit : Digit, digit.byte ≠ 0x2B ∧ digit.byte ≠ 0x2D := by decide

theorem isDigitByte_of_mem {digits : List Digit} {byte : UInt8}
    (member : byte ∈ digitBytes digits) : isDigitByte byte = true := by
  obtain ⟨digit, _, rfl⟩ := List.mem_map.mp member
  exact isDigitByte_byte digit

/-- Bytes that would go on with a numeral that ends before them. -/
def continuesNumber (byte : UInt8) : Bool :=
  isDigitByte byte || byte == 0x2E || isExponentMark byte

/-- Where a text begins with none of them. -/
def EndsNumber (rest : Bytes) : Prop := ∀ byte ∈ rest.head?, continuesNumber byte = false

def EndsDigits (rest : Bytes) : Prop := ∀ byte ∈ rest.head?, isDigitByte byte = false

theorem any_head? {stops : UInt8 → Bool} {rest : Bytes}
    (ends : ∀ byte ∈ rest.head?, stops byte = false) : rest.head?.any stops = false := by
  cases next : rest.head? with
  | none => rfl
  | some byte => exact ends byte next

theorem EndsNumber.endsDigits {rest : Bytes} (ends : EndsNumber rest) : EndsDigits rest := by
  intro byte next
  have stop := ends byte next
  simp only [continuesNumber, Bool.or_eq_false_iff] at stop
  exact stop.1.1

theorem takeWhile_of_endsDigits {rest : Bytes} (ends : EndsDigits rest) :
    rest.takeWhile isDigitByte = [] ∧ rest.dropWhile isDigitByte = rest := by
  cases rest with
  | nil => exact ⟨rfl, rfl⟩
  | cons byte more =>
      have stop : isDigitByte byte = false := ends byte rfl
      simp [stop]

theorem result?_takeDigits (digits : List Digit) {rest : Bytes} (ends : EndsDigits rest) :
    result? takeDigits (digitBytes digits ++ rest) = some (digitBytes digits, rest) := by
  obtain ⟨taken, left⟩ := takeWhile_of_endsDigits ends
  have digit : ∀ byte ∈ digitBytes digits, isDigitByte byte = true :=
    fun _ member => isDigitByte_of_mem member
  rw [result?, takeDigits, List.takeWhile_append_of_pos digit, List.dropWhile_append_of_pos digit,
    taken, left, List.append_nil]
  rfl

theorem result?_floating (isNegative : Bool) (significand : Nat) (exponent : Int) (text : Bytes) :
    result? (floating isNegative significand exponent) text =
      (floating? isNegative significand exponent).map (·, text) := by
  rw [floating, floating?]
  cases scale? significand exponent <;> rfl

theorem result?_exponentSign (sign : Sign) (digits : Digits) (rest : Bytes) :
    result? exponentSign (Bytes.ofChars sign.chars ++ (digitBytes digits.all ++ rest)) =
      some (sign == .minus, digitBytes digits.all ++ rest) := by
  cases sign with
  | none =>
      obtain ⟨plus, minus⟩ := byte_ne_sign digits.first
      simp only [Sign.chars, Bytes.ofChars_nil, List.nil_append, Digits.all, digitBytes,
        List.map_cons, List.cons_append, result?, exponentSign]
      split
      next same => exact absurd (List.cons.inj same).1 plus
      next same => exact absurd (List.cons.inj same).1 minus
      next => rfl
  | plus => rfl
  | minus => rfl

theorem result?_exponentTail (isNegative : Bool) (significand : Nat) (scale : Int)
    (exponent : Exponent) {rest : Bytes} (ends : EndsDigits rest) :
    result? (exponentTail isNegative significand scale)
      (Bytes.ofChars exponent.sign.chars ++ (digitBytes exponent.digits.all ++ rest)) =
        (exponent.value? isNegative significand scale).map (·, rest) := by
  have digit := isDigitByte_byte exponent.digits.first
  have digits := result?_takeDigits exponent.digits.all ends
  simp only [Digits.all, digitBytes, List.map_cons, List.cons_append] at digits
  rw [exponentTail, result?_bind, result?_exponentSign, Option.bind_some, Exponent.value?]
  simp only [Digits.all, digitBytes, List.map_cons, List.cons_append, result?_bind, result?_get,
    Option.bind_some, digit, Bool.not_true, Bool.false_eq_true, if_false, digits]
  split
  · exact result?_floating _ _ _ _
  · split <;> rfl

theorem exponentChars_head (exponent : Exponent) :
    ∃ mark, isExponentMark mark = true ∧ (mark == 0x2E) = false ∧
      Bytes.ofChars exponent.chars = mark ::
        (Bytes.ofChars exponent.sign.chars ++ digitBytes exponent.digits.all) := by
  rw [Exponent.chars]
  cases exponent.isUpper with
  | false =>
      refine ⟨0x65, rfl, rfl, ?_⟩
      rw [if_neg Bool.false_ne_true, Bytes.ofChars_cons_ascii (by decide), Bytes.ofChars_append,
        digitBytes_eq]
      rfl
  | true =>
      refine ⟨0x45, rfl, rfl, ?_⟩
      rw [if_pos rfl, Bytes.ofChars_cons_ascii (by decide), Bytes.ofChars_append, digitBytes_eq]
      rfl

theorem endsDigits_exponent (exponent : Option Exponent) {rest : Bytes} (ends : EndsNumber rest) :
    EndsDigits (Bytes.ofChars (Numeral.exponentChars exponent) ++ rest) := by
  cases exponent with
  | none => exact ends.endsDigits
  | some exponent =>
      obtain ⟨mark, isMark, _, written⟩ := exponentChars_head exponent
      intro byte next
      rw [Numeral.exponentChars, written, List.cons_append, List.head?_cons,
        Option.mem_some] at next
      subst next
      have : mark = 0x65 ∨ mark = 0x45 := by
        simpa [isExponentMark] using isMark
      rcases this with rfl | rfl <;> rfl

/-- A text after digits goes on with an exponent, or the number ends here. -/
theorem result?_exponent (isNegative : Bool) (significand : Nat) (scale : Int)
    (exponent : Option Exponent) (plain : Reader Number) {rest : Bytes} (ends : EndsNumber rest) :
    result? (do
      if (← get).head?.any isExponentMark then
        skipByte
        exponentTail isNegative significand scale
      else plain) (Bytes.ofChars (Numeral.exponentChars exponent) ++ rest) =
        match exponent with
        | none => result? plain rest
        | some exponent => (exponent.value? isNegative significand scale).map (·, rest) := by
  rw [result?_bind, result?_get, Option.bind_some]
  cases exponent with
  | none =>
      have stop : rest.head?.any isExponentMark = false := any_head? fun byte next => by
        have stop := ends byte next
        simp only [continuesNumber, Bool.or_eq_false_iff] at stop
        exact stop.2
      simp only [Numeral.exponentChars, Bytes.ofChars_nil, List.nil_append, stop,
        Bool.false_eq_true, if_false]
  | some exponent =>
      obtain ⟨mark, isMark, _, written⟩ := exponentChars_head exponent
      simp only [Numeral.exponentChars, written, List.cons_append, List.head?_cons, Option.any_some,
        isMark, if_true, result?_bind, result?_skipByte, Option.bind_some, List.drop_succ_cons,
        List.drop_zero, List.append_assoc]
      exact result?_exponentTail _ _ _ _ ends.endsDigits

theorem result?_fractionTail (isNegative : Bool) (significand : Nat) (scale : Int)
    (digits : Digits) (exponent : Option Exponent) {rest : Bytes} (ends : EndsNumber rest) :
    result? (fractionTail isNegative significand scale)
      (digitBytes digits.all ++ (Bytes.ofChars (Numeral.exponentChars exponent) ++ rest)) =
        (let (significand, taken) := appendDigits significand (digitBytes digits.all)
         scaled? exponent isNegative significand (scale - taken)
          (floating? isNegative significand (scale - taken))).map (·, rest) := by
  have taken := result?_takeDigits digits.all (endsDigits_exponent exponent ends)
  have some_digit : (digitBytes digits.all).isEmpty = false := rfl
  rw [fractionTail, result?_bind, taken, Option.bind_some]
  simp only [some_digit, Bool.false_eq_true, if_false]
  rw [result?_exponent _ _ _ _ _ ends]
  cases exponent with
  | none => exact result?_floating _ _ _ _
  | some exponent => rfl

theorem fractionBytes (digits : Digits) :
    Bytes.ofChars (Numeral.fractionChars (some digits)) = 0x2E :: digitBytes digits.all := by
  rw [Numeral.fractionChars, Bytes.ofChars_cons_ascii (by decide), digitBytes_eq]
  rfl

theorem endsDigits_fraction (fraction : Option Digits) {rest : Bytes} (ends : EndsDigits rest) :
    EndsDigits (Bytes.ofChars (Numeral.fractionChars fraction) ++ rest) := by
  cases fraction with
  | none => exact ends
  | some digits =>
      intro byte next
      rw [fractionBytes, List.cons_append, List.head?_cons, Option.mem_some] at next
      subst next
      rfl

/-- What follows the whole part: a fraction, an exponent, or the end of the numeral. -/
theorem result?_wholeTail (isNegative : Bool) (significand : Nat) (dropped : Int)
    (fraction : Option Digits) (exponent : Option Exponent) {rest : Bytes}
    (ends : EndsNumber rest) :
    result? (do
      match (← get).head? with
      | some 0x2E =>
        skipByte
        fractionTail isNegative significand dropped
      | some byte =>
        if isExponentMark byte then
          skipByte
          exponentTail isNegative significand dropped
        else if dropped = 0 then return integer isNegative significand
        else floating isNegative significand dropped
      | none =>
        if dropped = 0 then return integer isNegative significand
        else floating isNegative significand dropped)
      (Bytes.ofChars (Numeral.fractionChars fraction) ++
        (Bytes.ofChars (Numeral.exponentChars exponent) ++ rest)) =
      (match fraction with
        | none =>
          scaled? exponent isNegative significand dropped
            (if dropped = 0 then some (integer isNegative significand)
            else floating? isNegative significand dropped)
        | some digits =>
          let (significand, taken) := appendDigits significand (digitBytes digits.all)
          scaled? exponent isNegative significand (dropped - taken)
            (floating? isNegative significand (dropped - taken))).map (·, rest) := by
  rw [result?_bind, result?_get, Option.bind_some]
  cases fraction with
  | some digits =>
      rw [fractionBytes]
      exact result?_fractionTail _ _ _ _ _ ends
  | none =>
      have plain (text : Bytes) :
          result? (if dropped = 0 then pure (integer isNegative significand)
            else floating isNegative significand dropped) text =
              (if dropped = 0 then some (integer isNegative significand)
                else floating? isNegative significand dropped).map (·, text) := by
        split
        · rfl
        · exact result?_floating _ _ _ _
      cases exponent with
      | some exponent =>
          obtain ⟨mark, isMark, notPoint, written⟩ := exponentChars_head exponent
          have notPoint : mark ≠ 0x2E := by simpa using notPoint
          simp only [Numeral.fractionChars, Numeral.exponentChars, Bytes.ofChars_nil,
            List.nil_append, written, List.cons_append, List.head?_cons]
          rw [if_pos isMark, result?_bind, result?_skipByte, Option.bind_some,
            List.drop_succ_cons, List.drop_zero, List.append_assoc]
          exact result?_exponentTail _ _ _ _ ends.endsDigits
      | none =>
          simp only [Numeral.fractionChars, Numeral.exponentChars, Bytes.ofChars_nil,
            List.nil_append]
          split
          next point => exact absurd (ends _ point) (by decide)
          next byte _ next =>
            have stop := ends byte next
            simp only [continuesNumber, Bool.or_eq_false_iff] at stop
            rw [if_neg (by rw [stop.2]; exact Bool.false_ne_true)]
            exact plain rest
          next => exact plain rest

/-- A numeral after its sign is read as its number. -/
theorem result?_numberTail (numeral : Numeral) {rest : Bytes} (ends : EndsNumber rest) :
    result? (numberTail numeral.isNegative) (Bytes.ofChars numeral.tailChars ++ rest) =
      numeral.value?.map (·, rest) := by
  obtain ⟨isNegative, whole, fraction, exponent⟩ := numeral
  have stops := endsDigits_fraction fraction (endsDigits_exponent exponent ends)
  rw [Numeral.tailChars, Bytes.ofChars_append, Bytes.ofChars_append, digitBytes_eq]
  simp only [List.append_assoc]
  rw [numberTail, Numeral.value?]
  cases whole with
  | zero =>
    have zero : isDigitByte 0x30 = true := rfl
    have alone := any_head? stops
    have written : digitBytes Whole.zero.digits = [0x30] := rfl
    simp only [written, List.cons_append, List.nil_append, result?_bind, result?_get,
      Option.bind_some, zero, Bool.not_true, Bool.false_eq_true, if_false, beq_self_eq_true,
      if_true, result?_skipByte, List.drop_succ_cons, List.drop_zero, result?_pure, alone,
      Bool.and_false]
    exact result?_wholeTail _ _ _ _ _ ends
  | positive first nonzero more =>
    have taken := result?_takeDigits (Whole.positive first nonzero more).digits stops
    simp only [Whole.digits, digitBytes, List.map_cons, List.cons_append] at taken ⊢
    simp only [result?_bind, result?_get, Option.bind_some, isDigitByte_byte, Bool.not_true,
      Bool.false_eq_true, if_false, byte_ne_zero first nonzero, taken, Bool.false_and]
    exact result?_wholeTail _ _ _ _ _ ends

/-! ### Numbers that nobody reads -/

theorem result?_skipExponent (exponent : Exponent) {rest : Bytes} (ends : EndsDigits rest) :
    result? skipExponent
      (Bytes.ofChars exponent.sign.chars ++ (digitBytes exponent.digits.all ++ rest)) =
        some ((), rest) := by
  have digit := isDigitByte_byte exponent.digits.first
  have digits := result?_takeDigits exponent.digits.all ends
  simp only [Digits.all, digitBytes, List.map_cons, List.cons_append] at digits
  rw [skipExponent, result?_bind, result?_exponentSign, Option.bind_some]
  simp only [Digits.all, digitBytes, List.map_cons, List.cons_append, result?_bind, result?_get,
    Option.bind_some, digit, Bool.not_true, Bool.false_eq_true, if_false, digits]
  rfl

theorem result?_skipFractionAndExponent (fraction : Option Digits) (exponent : Option Exponent)
    {rest : Bytes} (ends : EndsNumber rest) :
    result? skipFractionAndExponent (Bytes.ofChars (Numeral.fractionChars fraction) ++
      (Bytes.ofChars (Numeral.exponentChars exponent) ++ rest)) = some ((), rest) := by
  rw [skipFractionAndExponent, result?_bind, result?_get, Option.bind_some]
  cases fraction with
  | some digits =>
      have taken := result?_takeDigits digits.all (endsDigits_exponent exponent ends)
      have some_digit : (digitBytes digits.all).isEmpty = false := rfl
      rw [fractionBytes]
      simp only [List.cons_append, List.head?_cons, result?_bind, result?_skipByte,
        Option.bind_some, List.drop_succ_cons, List.drop_zero, taken, some_digit,
        Bool.false_eq_true, if_false, result?_get]
      cases exponent with
      | none =>
          have stop : rest.head?.any isExponentMark = false := any_head? fun byte next => by
            have stop := ends byte next
            simp only [continuesNumber, Bool.or_eq_false_iff] at stop
            exact stop.2
          simp only [Numeral.exponentChars, Bytes.ofChars_nil, List.nil_append, stop,
            Bool.false_eq_true, if_false, result?_pure]
      | some exponent =>
          obtain ⟨mark, isMark, _, written⟩ := exponentChars_head exponent
          simp only [Numeral.exponentChars, written, List.cons_append, List.head?_cons,
            Option.any_some, isMark, if_true, result?_bind, result?_skipByte, Option.bind_some,
            List.drop_succ_cons, List.drop_zero, List.append_assoc]
          exact result?_skipExponent _ ends.endsDigits
  | none =>
      cases exponent with
      | some exponent =>
          obtain ⟨mark, isMark, notPoint, written⟩ := exponentChars_head exponent
          have notPoint : mark ≠ 0x2E := by simpa using notPoint
          simp only [Numeral.fractionChars, Numeral.exponentChars, Bytes.ofChars_nil,
            List.nil_append, written, List.cons_append, List.head?_cons]
          rw [if_pos isMark, result?_bind, result?_skipByte, Option.bind_some,
            List.drop_succ_cons, List.drop_zero, List.append_assoc]
          exact result?_skipExponent _ ends.endsDigits
      | none =>
          simp only [Numeral.fractionChars, Numeral.exponentChars, Bytes.ofChars_nil,
            List.nil_append]
          split
          next point => exact absurd (ends _ point) (by decide)
          next byte _ next =>
            have stop := ends byte next
            simp only [continuesNumber, Bool.or_eq_false_iff] at stop
            rw [if_neg (by rw [stop.2]; exact Bool.false_ne_true), result?_pure]
          next => rfl

theorem result?_skipNumberTail (numeral : Numeral) {rest : Bytes} (ends : EndsNumber rest) :
    result? skipNumberTail (Bytes.ofChars numeral.tailChars ++ rest) = some ((), rest) := by
  obtain ⟨isNegative, whole, fraction, exponent⟩ := numeral
  have stops := endsDigits_fraction fraction (endsDigits_exponent exponent ends)
  rw [Numeral.tailChars, Bytes.ofChars_append, Bytes.ofChars_append, digitBytes_eq]
  simp only [List.append_assoc]
  rw [skipNumberTail]
  cases whole with
  | zero =>
    have zero : isDigitByte 0x30 = true := rfl
    have alone := any_head? stops
    have written : digitBytes Whole.zero.digits = [0x30] := rfl
    simp only [written, List.cons_append, List.nil_append, result?_bind, result?_get,
      Option.bind_some, zero, Bool.not_true, Bool.false_eq_true, if_false, beq_self_eq_true,
      if_true, result?_skipByte, List.drop_succ_cons, List.drop_zero, alone]
    exact result?_skipFractionAndExponent _ _ ends
  | positive first nonzero more =>
    have taken := result?_takeDigits (Whole.positive first nonzero more).digits stops
    simp only [Whole.digits, digitBytes, List.map_cons, List.cons_append] at taken ⊢
    simp only [result?_bind, result?_get, Option.bind_some, isDigitByte_byte, Bool.not_true,
      Bool.false_eq_true, if_false, byte_ne_zero first nonzero, taken]
    exact result?_skipFractionAndExponent _ _ ends

end ClusterRest.Json
