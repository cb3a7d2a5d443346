import ClusterRest.Params
import ClusterRest.Proofs.Text
import ClusterRest.Proofs.Utf8
import Mathlib.Data.List.Basic

/-!
Query encoding. Main statement: parameters read back from their encoded form as they were given, so
different parameters are encoded differently.
-/

namespace ClusterRest.Form

open Text

/-! ### One byte string -/

/-- Characters of an encoded byte string. -/
def isEncoded (character : Char) : Bool :=
  isAsciiAlphanumeric character || "*-._+%".toList.contains character

theorem isEncoded_encodeByte (byte : UInt8) : (encodeByte byte).all isEncoded = true := by
  have all : ∀ code : Fin 256, (encodeByte (.ofNat code)).all isEncoded = true := by
    decide +kernel
  simpa using all ⟨byte.toNat, byte.toNat_lt⟩

theorem isEncoded_encodeBytes (bytes : Bytes) : (encodeBytes bytes).all isEncoded = true := by
  rw [encodeBytes, List.all_flatMap, List.all_eq_true]
  exact fun byte _ => isEncoded_encodeByte byte

theorem notMem_encodeBytes {mark : Char} (free : isEncoded mark = false) (bytes : Bytes) :
    mark ∉ encodeBytes bytes := by
  intro member
  have encoded := List.all_eq_true.mp (isEncoded_encodeBytes bytes) mark member
  exact Bool.noConfusion (free.symm.trans encoded)

/-- A byte that stands for itself is ASCII, begins no escape and is no space in disguise. -/
theorem plain_byte {byte : UInt8} (plain : isPlain byte = true) :
    byte.toNat < 0x80 ∧ Char.ofNat byte.toNat ≠ '%' ∧ Char.ofNat byte.toNat ≠ '+' := by
  have all : ∀ code : Fin 256, isPlain (.ofNat code) = true →
      code.val < 0x80 ∧ Char.ofNat code ≠ '%' ∧ Char.ofNat code ≠ '+' := by
    decide +kernel
  exact all ⟨byte.toNat, byte.toNat_lt⟩ (by simpa using plain)

theorem decodeBytes_cons {character : Char} (noEscape : character ≠ '%')
    (noPlus : character ≠ '+') (rest : List Char) :
    decodeBytes (character :: rest) = Bytes.ofChars [character] ++ decodeBytes rest := by
  rw [decodeBytes]
  · exact fun _ _ _ escape => absurd escape noEscape
  · exact noPlus

theorem decodeBytes_encodeByte (byte : UInt8) (rest : List Char) :
    decodeBytes (encodeByte byte ++ rest) = byte :: decodeBytes rest := by
  rw [encodeByte]
  split
  next plain =>
    obtain ⟨ascii, noEscape, noPlus⟩ := plain_byte plain
    rw [List.singleton_append, decodeBytes_cons noEscape noPlus, Bytes.ofChars_ofNat ascii,
      List.singleton_append]
  next =>
    split
    next space =>
      rw [beq_iff_eq.mp space]
      rfl
    next =>
      obtain ⟨high, low, whole⟩ := Bytes.sixteens byte
      simp only [List.cons_append, List.nil_append, decodeBytes,
        Bytes.ofHexDigit?_upperHexDigit high, Bytes.ofHexDigit?_upperHexDigit low, whole]

theorem decodeBytes_encodeBytes (bytes : Bytes) : decodeBytes (encodeBytes bytes) = bytes := by
  induction bytes with
  | nil => rfl
  | cons byte rest ih =>
      have parts : encodeBytes (byte :: rest) = encodeByte byte ++ encodeBytes rest :=
        List.flatMap_cons
      rw [parts, decodeBytes_encodeByte, ih]

/-! ### Pairs -/

theorem decodePair_encodePair (pair : Bytes × Bytes) : decodePair (encodePair pair) = pair := by
  have unmarked := notMem_encodeBytes (by decide : isEncoded '=' = false) pair.1
  have cut : cutChars '=' (encodePair pair) = some (encodeBytes pair.1, encodeBytes pair.2) := by
    rw [encodePair, cutChars_append unmarked, cutChars, if_pos rfl, Option.map_some]
    simp only [List.append_nil]
  rw [decodePair, cut]
  simp only [decodeBytes_encodeBytes]

theorem notMem_encodePair (pair : Bytes × Bytes) : '&' ∉ encodePair pair := by
  have unmarked := notMem_encodeBytes (by decide : isEncoded '&' = false)
  rw [encodePair, List.mem_append, List.mem_cons, not_or, not_or]
  exact ⟨unmarked pair.1, by decide, unmarked pair.2⟩

theorem encodePair_ne_nil (pair : Bytes × Bytes) : encodePair pair ≠ [] := by
  simp [encodePair]

theorem encode_cons_cons (pair next : Bytes × Bytes) (rest : List (Bytes × Bytes)) :
    encode (pair :: next :: rest) = encodePair pair ++ '&' :: encode (next :: rest) := rfl

theorem piecesOf_encode {pairs : List (Bytes × Bytes)} (filled : pairs ≠ []) :
    piecesOf '&' (encode pairs) = pairs.map encodePair := by
  induction pairs with
  | nil => exact absurd rfl filled
  | cons pair rest ih =>
      cases rest with
      | nil => exact piecesOf_unmarked (notMem_encodePair pair)
      | cons next others =>
          rw [encode_cons_cons, piecesOf_append (notMem_encodePair pair), ih (List.cons_ne_nil _ _)]
          rfl

theorem decode_encode (pairs : List (Bytes × Bytes)) : decode (encode pairs) = pairs := by
  cases pairs with
  | nil => rfl
  | cons pair rest =>
      have kept : ((pair :: rest).map encodePair).filter (!·.isEmpty) =
          (pair :: rest).map encodePair := by
        rw [List.filter_eq_self]
        intro piece member
        obtain ⟨written, _, rfl⟩ := List.mem_map.mp member
        simpa using encodePair_ne_nil written
      rw [decode, piecesOf_encode (List.cons_ne_nil _ _), kept, List.map_map]
      exact List.map_id'' decodePair_encodePair _

theorem encode_append {first second : List (Bytes × Bytes)} (filled : first ≠ [])
    (filled' : second ≠ []) : encode (first ++ second) = encode first ++ '&' :: encode second := by
  induction first with
  | nil => exact absurd rfl filled
  | cons pair rest ih =>
      cases rest with
      | nil =>
          obtain ⟨next, others, rfl⟩ := List.exists_cons_of_ne_nil filled'
          rfl
      | cons next others =>
          rw [List.cons_append, List.cons_append, encode_cons_cons, encode_cons_cons,
            ← List.cons_append, ih (List.cons_ne_nil _ _), List.append_assoc, List.cons_append]

/-- Characters of an encoded list of pairs. -/
def isQuery (character : Char) : Bool := isEncoded character || character = '&' || character = '='

theorem isQuery_encodePair (pair : Bytes × Bytes) : (encodePair pair).all isQuery = true := by
  have encoded (bytes : Bytes) : (encodeBytes bytes).all isQuery = true := by
    rw [List.all_eq_true]
    intro character member
    simp only [isQuery, List.all_eq_true.mp (isEncoded_encodeBytes bytes) character member,
      Bool.true_or]
  rw [encodePair, List.all_append, List.all_cons, encoded, encoded]
  rfl

theorem isQuery_encode (pairs : List (Bytes × Bytes)) : (encode pairs).all isQuery = true := by
  induction pairs with
  | nil => rfl
  | cons pair rest ih =>
      cases rest with
      | nil => exact isQuery_encodePair pair
      | cons next others =>
          rw [encode_cons_cons, List.all_append, List.all_cons, isQuery_encodePair, ih]
          rfl

end ClusterRest.Form

namespace ClusterRest.Params

/-- The bytes of names and values. -/
def pairs (params : Params) : List (Bytes × Bytes) :=
  params.entries.map fun (name, value) => (Bytes.ofString name, value)

theorem toList_encode (params : Params) : params.encode.toList = Form.encode params.pairs :=
  String.toList_ofList

theorem pairs_injective : Function.Injective pairs := by
  intro first second same
  obtain ⟨entries⟩ := first
  obtain ⟨entries'⟩ := second
  congr 1
  refine List.map_injective_iff.mpr ?_ same
  rintro ⟨name, value⟩ ⟨name', value'⟩ equal
  rw [Prod.mk.injEq] at equal ⊢
  exact ⟨String.toList_inj.mp (Bytes.ofChars_injective equal.1), equal.2⟩

/-- Encoding loses nothing: parameters read back in order and with all repetitions, so no two lists
of parameters have one encoding. An ampersand joins the encodings of two lists. -/
theorem encode_lossless :
    (∀ params : Params, Form.decode params.encode.toList = params.pairs) ∧
      Function.Injective encode ∧
      (∀ params : Params, params.encode.toList.all Form.isQuery = true) ∧
      ∀ first second : Params, first.isEmpty = false → second.isEmpty = false →
        encode ⟨first.entries ++ second.entries⟩ = first.encode ++ "&" ++ second.encode := by
  have reads : ∀ params : Params, Form.decode params.encode.toList = params.pairs := by
    intro params
    rw [toList_encode, Form.decode_encode]
  refine ⟨reads, ?_, ?_, ?_⟩
  · intro first second same
    apply pairs_injective
    rw [← reads, ← reads, same]
  · intro params
    rw [toList_encode]
    exact Form.isQuery_encode params.pairs
  · intro first second filled filled'
    have found : ∀ {params : Params}, params.isEmpty = false → params.pairs ≠ [] := by
      intro params filled
      simpa [pairs, isEmpty] using filled
    have joined : pairs ⟨first.entries ++ second.entries⟩ = first.pairs ++ second.pairs :=
      List.map_append
    apply String.toList_inj.mp
    calc
      _ = Form.encode (first.pairs ++ second.pairs) := by rw [toList_encode, joined]
      _ = Form.encode first.pairs ++ '&' :: Form.encode second.pairs :=
        Form.encode_append (found filled) (found filled')
      _ = _ := by simp [toList_encode]

theorem encode_lossless_repeatedName :
    let params : Params := ⟨[("", []), ("a b", [0x26, 0xFF])]⟩
    let more : Params := ⟨[("a b", [0x3D])]⟩
    params.isEmpty = false ∧ more.isEmpty = false ∧
      params.encode = "=&a+b=%26%FF" ∧
      Form.decode params.encode.toList = params.pairs ∧
      encode ⟨params.entries ++ more.entries⟩ = params.encode ++ "&" ++ more.encode :=
  ⟨rfl, rfl, by decide, encode_lossless.1 _, encode_lossless.2.2.2 _ _ rfl rfl⟩

end ClusterRest.Params
