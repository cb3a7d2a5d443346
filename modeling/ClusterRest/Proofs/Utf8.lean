import ClusterRest.Bytes

/-! Text in UTF-8 reads back, a byte of ASCII stands for itself wherever it is, and two hexadecimal
digits write any byte. -/

namespace ClusterRest.Bytes

@[simp] theorem ofChars_nil : ofChars [] = [] := rfl

theorem ofChars_cons (character : Char) (rest : List Char) :
    ofChars (character :: rest) = String.utf8EncodeChar character ++ ofChars rest := rfl

theorem encode_ascii {character : Char} (ascii : character.toNat < 0x80) :
    String.utf8EncodeChar character = [.ofNat character.toNat] :=
  if_pos (by have : character.val.toNat = character.toNat := rfl; omega)

theorem ofNat_toNat_ofNat {character : Char} (ascii : character.toNat < 0x80) :
    Char.ofNat (UInt8.ofNat character.toNat).toNat = character := by
  rw [UInt8.toNat_ofNat', Nat.mod_eq_of_lt (by omega), Char.ofNat_toNat]

theorem ofChars_cons_ascii {character : Char} (ascii : character.toNat < 0x80)
    (rest : List Char) :
    ofChars (character :: rest) = .ofNat character.toNat :: ofChars rest := by
  rw [ofChars_cons, encode_ascii ascii, List.singleton_append]

/-- Beyond ASCII no byte of a character is one of ASCII. -/
theorem le_of_mem_encode {character : Char} (beyond : 0x80 ≤ character.toNat) {byte : UInt8}
    (member : byte ∈ String.utf8EncodeChar character) : 0x80 ≤ byte := by
  have bounded : character.toNat < 0x110000 := by
    rcases character.valid with low | ⟨_, high⟩
    · exact Nat.lt_trans low (by decide)
    · exact high
  have value : character.val.toNat = character.toNat := rfl
  rw [String.utf8EncodeChar, value] at member
  simp only [UInt8.le_iff_toNat_le]
  split at member
  · omega
  · split at member
    · simp only [List.mem_cons, List.not_mem_nil, or_false] at member
      rcases member with rfl | rfl <;> simp <;> omega
    · split at member
      · simp only [List.mem_cons, List.not_mem_nil, or_false] at member
        rcases member with rfl | rfl | rfl <;> simp <;> omega
      · simp only [List.mem_cons, List.not_mem_nil, or_false] at member
        rcases member with rfl | rfl | rfl | rfl <;> simp <;> omega

theorem payload_low5 (byte : UInt8) : payload byte 0x1F 6 = byte.toNat % 32 * 64 := by
  simp [payload, Nat.and_two_pow_sub_one_eq_mod byte.toNat 5]

theorem payload_low6 (byte : UInt8) (shift : Nat) :
    payload byte 0x3F shift = byte.toNat % 64 * Nat.pow 2 shift := by
  simp [payload, Nat.and_two_pow_sub_one_eq_mod byte.toNat 6]

theorem payload_low4 (byte : UInt8) : payload byte 0x0F 12 = byte.toNat % 16 * 4096 := by
  simp [payload, Nat.and_two_pow_sub_one_eq_mod byte.toNat 4]

theorem payload_low3 (byte : UInt8) : payload byte 0x07 18 = byte.toNat % 8 * 262144 := by
  simp [payload, Nat.and_two_pow_sub_one_eq_mod byte.toNat 3]

theorem isContinuation_ofNat {byte : Nat} (least : 0x80 ≤ byte) (greatest : byte ≤ 0xBF) :
    isContinuation (.ofNat byte) = true := by
  simp only [isContinuation, UInt8.le_iff_toNat_le, UInt8.toNat_ofNat', Bool.and_eq_true,
    decide_eq_true_eq]
  exact ⟨by simp; omega, by simp; omega⟩

theorem scanUtf8_two {lead second : Nat} (least : 0xC2 ≤ lead) (greatest : lead ≤ 0xDF)
    (least' : 0x80 ≤ second) (greatest' : second ≤ 0xBF) (rest : Bytes) :
    scanUtf8 (.ofNat lead :: .ofNat second :: rest) =
      some (Char.ofNat (lead % 32 * 64 + second % 64)) :: scanUtf8 rest := by
  have ascii : ¬ UInt8.ofNat lead < 0x80 := by
    simp [UInt8.lt_iff_toNat_lt]; omega
  have two : (0xC2 ≤ UInt8.ofNat lead && UInt8.ofNat lead ≤ 0xDF) = true := by
    simp [UInt8.le_iff_toNat_le]; omega
  have code : lead % 2 ^ 8 % 32 * 64 + second % 2 ^ 8 % 64 * 2 ^ 0 =
      lead % 32 * 64 + second % 64 := by omega
  rw [scanUtf8.eq_def]
  simp only [if_neg ascii, if_pos two, if_pos (isContinuation_ofNat least' greatest'),
    payload_low5, payload_low6, Nat.pow_eq, UInt8.toNat_ofNat', code]

/-- The second byte of a code point that is written in no fewer bytes and is no surrogate. -/
theorem secondByteFits_ofNat {lead second : Nat} (bounded : lead < 256) (least : 0x80 ≤ second)
    (greatest : second ≤ 0xBF) (afterE0 : lead = 0xE0 → 0xA0 ≤ second)
    (afterED : lead = 0xED → second ≤ 0x9F) (afterF0 : lead = 0xF0 → 0x90 ≤ second)
    (afterF4 : lead = 0xF4 → second ≤ 0x8F) :
    secondByteFits (.ofNat lead) (.ofNat second) = true := by
  have small : second % 256 = second := Nat.mod_eq_of_lt (by omega)
  simp only [secondByteFits, isContinuation_ofNat least greatest, Bool.true_and, Bool.and_eq_true,
    Bool.or_eq_true, bne_iff_ne, ne_eq, ← UInt8.toNat_inj, decide_eq_true_eq,
    UInt8.le_iff_toNat_le, UInt8.toNat_ofNat', UInt8.toNat_ofNat, Nat.mod_eq_of_lt bounded, small]
  omega

theorem scanUtf8_three {lead second third : Nat} (least : 0xE0 ≤ lead) (greatest : lead ≤ 0xEF)
    (fits : secondByteFits (.ofNat lead) (.ofNat second) = true)
    (least' : 0x80 ≤ third) (greatest' : third ≤ 0xBF) (rest : Bytes) :
    scanUtf8 (.ofNat lead :: .ofNat second :: .ofNat third :: rest) =
      some (Char.ofNat (lead % 16 * 4096 + second % 64 * 64 + third % 64)) :: scanUtf8 rest := by
  have ascii : ¬ UInt8.ofNat lead < 0x80 := by
    simp [UInt8.lt_iff_toNat_lt]; omega
  have two : ¬ (0xC2 ≤ UInt8.ofNat lead && UInt8.ofNat lead ≤ 0xDF) = true := by
    simp [UInt8.le_iff_toNat_le]; omega
  have three : (0xE0 ≤ UInt8.ofNat lead && UInt8.ofNat lead ≤ 0xEF) = true := by
    simp [UInt8.le_iff_toNat_le]; omega
  have code : lead % 2 ^ 8 % 16 * 4096 + second % 2 ^ 8 % 64 * 2 ^ 6 + third % 2 ^ 8 % 64 * 2 ^ 0 =
      lead % 16 * 4096 + second % 64 * 64 + third % 64 := by omega
  rw [scanUtf8.eq_def]
  simp only [if_neg ascii, if_neg two, if_pos three, if_pos fits,
    if_pos (isContinuation_ofNat least' greatest'), payload_low4, payload_low6, Nat.pow_eq,
    UInt8.toNat_ofNat', code]

theorem scanUtf8_four {lead second third fourth : Nat} (least : 0xF0 ≤ lead)
    (greatest : lead ≤ 0xF4) (fits : secondByteFits (.ofNat lead) (.ofNat second) = true)
    (least' : 0x80 ≤ third) (greatest' : third ≤ 0xBF)
    (least'' : 0x80 ≤ fourth) (greatest'' : fourth ≤ 0xBF) (rest : Bytes) :
    scanUtf8 (.ofNat lead :: .ofNat second :: .ofNat third :: .ofNat fourth :: rest) =
      some (Char.ofNat (lead % 8 * 262144 + second % 64 * 4096 + third % 64 * 64 + fourth % 64)) ::
        scanUtf8 rest := by
  have ascii : ¬ UInt8.ofNat lead < 0x80 := by
    simp [UInt8.lt_iff_toNat_lt]; omega
  have two : ¬ (0xC2 ≤ UInt8.ofNat lead && UInt8.ofNat lead ≤ 0xDF) = true := by
    simp [UInt8.le_iff_toNat_le]; omega
  have three : ¬ (0xE0 ≤ UInt8.ofNat lead && UInt8.ofNat lead ≤ 0xEF) = true := by
    simp [UInt8.le_iff_toNat_le]; omega
  have four : (0xF0 ≤ UInt8.ofNat lead && UInt8.ofNat lead ≤ 0xF4) = true := by
    simp [UInt8.le_iff_toNat_le]; omega
  have code : lead % 2 ^ 8 % 8 * 262144 + second % 2 ^ 8 % 64 * 2 ^ 12 +
      third % 2 ^ 8 % 64 * 2 ^ 6 + fourth % 2 ^ 8 % 64 * 2 ^ 0 =
        lead % 8 * 262144 + second % 64 * 4096 + third % 64 * 64 + fourth % 64 := by omega
  rw [scanUtf8.eq_def]
  simp only [if_neg ascii, if_neg two, if_neg three, if_pos four, if_pos fits,
    if_pos (isContinuation_ofNat least' greatest'),
    if_pos (isContinuation_ofNat least'' greatest''), payload_low3, payload_low6, Nat.pow_eq,
    UInt8.toNat_ofNat', code]

theorem scanUtf8_ascii {byte : UInt8} (ascii : byte < 0x80) (rest : Bytes) :
    scanUtf8 (byte :: rest) = some (Char.ofNat byte.toNat) :: scanUtf8 rest := by
  rw [scanUtf8.eq_def]
  exact if_pos ascii

/-- A character in UTF-8 is read as itself, whatever follows it. -/
theorem scanUtf8_encode (character : Char) (rest : Bytes) :
    scanUtf8 (String.utf8EncodeChar character ++ rest) = some character :: scanUtf8 rest := by
  have valid : character.toNat < 0xD800 ∨ 0xDFFF < character.toNat ∧ character.toNat < 0x110000 :=
    character.valid
  have itself (code : Nat) (eq : code = character.toNat) : Char.ofNat code = character := by
    rw [eq, Char.ofNat_toNat]
  have value : character.val.toNat = character.toNat := rfl
  rw [String.utf8EncodeChar, value]
  split
  next one =>
    have ascii : UInt8.ofNat character.toNat < 0x80 := by
      simp [UInt8.lt_iff_toNat_lt]; omega
    rw [List.singleton_append, scanUtf8_ascii ascii, itself]
    rw [UInt8.toNat_ofNat']; omega
  next one =>
    split
    next two =>
      rw [List.cons_append, List.singleton_append,
        scanUtf8_two (by omega) (by omega) (by omega) (by omega), itself]
      omega
    next two =>
      split
      next three =>
        simp only [List.cons_append, List.nil_append]
        rw [scanUtf8_three (by omega) (by omega) ?_ (by omega) (by omega), itself]
        · omega
        · apply secondByteFits_ofNat <;> omega
      next three =>
        simp only [List.cons_append, List.nil_append]
        rw [scanUtf8_four (by omega) (by omega) ?_ (by omega) (by omega) (by omega) (by omega),
          itself]
        · omega
        · apply secondByteFits_ofNat <;> omega

theorem encode_eq_cons (character : Char) :
    ∃ byte more, String.utf8EncodeChar character = byte :: more := by
  cases written : String.utf8EncodeChar character with
  | nil =>
      have read := scanUtf8_encode character []
      rw [written] at read
      cases read
  | cons byte more => exact ⟨byte, more, rfl⟩

theorem scanUtf8_ofChars (characters : List Char) :
    scanUtf8 (ofChars characters) = characters.map some := by
  induction characters with
  | nil => rfl
  | cons character rest ih => rw [ofChars_cons, scanUtf8_encode, ih, List.map_cons]

theorem toString?_ofChars (characters : List Char) :
    toString? (ofChars characters) = some (.ofList characters) := by
  have collected : (characters.map some).mapM id = some characters := by
    induction characters with
    | nil => rfl
    | cons character rest ih => simp [ih]
  rw [toString?, scanUtf8_ofChars, collected, Option.map_some]

theorem toStringLossy_ofChars (characters : List Char) :
    toStringLossy (ofChars characters) = .ofList characters := by
  rw [toStringLossy, scanUtf8_ofChars, List.map_map]
  exact congrArg String.ofList (List.map_id'' (fun _ => rfl) characters)

theorem toStringLossy_ofString (text : String) : toStringLossy (ofString text) = text := by
  rw [ofString, toStringLossy_ofChars, String.ofList_toList]

/-- A byte of ASCII belongs to no other character than its own. -/
theorem mem_scanUtf8 {byte : UInt8} (ascii : byte < 0x80) {bytes : Bytes}
    (member : byte ∈ bytes) : some (Char.ofNat byte.toNat) ∈ scanUtf8 bytes := by
  have continues : ∀ other, isContinuation other = true → byte ≠ other := by
    rintro _ follows rfl
    simp only [isContinuation, Bool.and_eq_true, decide_eq_true_eq] at follows
    exact absurd ascii (UInt8.not_lt.mpr follows.1)
  have fits : ∀ lead second, secondByteFits lead second = true → byte ≠ second := by
    intro lead second fits
    simp only [secondByteFits, Bool.and_eq_true] at fits
    exact continues second fits.1.1.1.1
  fun_induction scanUtf8 bytes with
  | case2 lead rest low ih =>
      rcases List.mem_cons.mp member with rfl | member
      · exact List.mem_cons_self
      · exact List.mem_cons_of_mem _ (ih member)
  | _ => grind

theorem mem_toStringLossy {byte : UInt8} (ascii : byte < 0x80) {bytes : Bytes}
    (member : byte ∈ bytes) : Char.ofNat byte.toNat ∈ (toStringLossy bytes).toList := by
  rw [toStringLossy, String.toList_ofList]
  exact List.mem_map.mpr ⟨_, mem_scanUtf8 ascii member, rfl⟩

theorem mem_ofChars {character : Char} (ascii : character.toNat < 0x80) {characters : List Char}
    (member : character ∈ characters) : .ofNat character.toNat ∈ ofChars characters := by
  refine List.mem_flatMap.mpr ⟨character, member, ?_⟩
  rw [encode_ascii ascii]
  exact List.mem_singleton_self _

theorem ofChars_injective : Function.Injective ofChars := by
  intro first second same
  have read := congrArg toString? same
  rw [toString?_ofChars, toString?_ofChars, Option.some.injEq] at read
  exact String.ofList_injective read

theorem ofChars_ofNat {byte : UInt8} (ascii : byte.toNat < 0x80) :
    ofChars [Char.ofNat byte.toNat] = [byte] := by
  have all : ∀ code : Fin 128, ofChars [Char.ofNat code] = [.ofNat code] := by decide
  simpa using all ⟨byte.toNat, ascii⟩

/-! ### Hexadecimal digits -/

theorem ofHexDigit?_upperHexDigit {digit : UInt8} (small : digit < 16) :
    ofHexDigit? (upperHexDigit digit) = some digit := by
  have all : ∀ code : Fin 16, ofHexDigit? (upperHexDigit (.ofNat code)) = some (.ofNat code) := by
    decide
  simpa using all ⟨digit.toNat, UInt8.lt_iff_toNat_lt.mp small⟩

/-- A byte is made of the two digits that write it. -/
theorem sixteens (byte : UInt8) :
    byte / 16 < 16 ∧ byte % 16 < 16 ∧ 16 * (byte / 16) + byte % 16 = byte := by
  have bounded := byte.toNat_lt
  simp only [UInt8.lt_iff_toNat_lt, ← UInt8.toNat_inj, UInt8.toNat_add, UInt8.toNat_mul,
    UInt8.toNat_div, UInt8.toNat_mod, UInt8.reduceToNat]
  omega

end ClusterRest.Bytes
