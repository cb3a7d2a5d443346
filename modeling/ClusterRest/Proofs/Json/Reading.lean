import ClusterRest.Proofs.Json.Token

/-!
Reading grammatical texts: what the readers of lists, objects and values make of a tree, given what
the reader of one element or member makes of one.
-/

namespace ClusterRest.Json

/-! ### Blanks -/

def blankBytes (blanks : Blanks) : Bytes := .ofChars (blankChars blanks)

theorem blankBytes_cons (blank : Blank) (blanks : Blanks) :
    ∃ byte, isSpace byte = true ∧ continuesNumber byte = false ∧
      blankBytes (blank :: blanks) = byte :: blankBytes blanks := by
  cases blank
  · exact ⟨0x20, rfl, rfl, rfl⟩
  · exact ⟨0x09, rfl, rfl, rfl⟩
  · exact ⟨0x0A, rfl, rfl, rfl⟩
  · exact ⟨0x0D, rfl, rfl, rfl⟩

theorem blankBytes_append (first second : Blanks) (rest : Bytes) :
    blankBytes (first ++ second) ++ rest = blankBytes first ++ (blankBytes second ++ rest) := by
  simp only [blankBytes, blankChars, List.map_append, Bytes.ofChars_append, List.append_assoc]

theorem dropWhile_blankBytes (blanks : Blanks) (rest : Bytes) :
    (blankBytes blanks ++ rest).dropWhile isSpace = rest.dropWhile isSpace := by
  induction blanks with
  | nil => rfl
  | cons blank blanks ih =>
      obtain ⟨byte, space, _, written⟩ := blankBytes_cons blank blanks
      rw [written, List.cons_append, List.dropWhile_cons_of_pos space, ih]

theorem EndsNumber.blankBytes {rest : Bytes} (ends : EndsNumber rest) (blanks : Blanks) :
    EndsNumber (blankBytes blanks ++ rest) := by
  cases blanks with
  | nil => exact ends
  | cons blank blanks =>
      obtain ⟨byte, _, stop, written⟩ := blankBytes_cons blank blanks
      intro next head
      rw [written, List.cons_append, List.head?_cons, Option.mem_some] at head
      exact head ▸ stop

theorem endsNumber_cons {byte : UInt8} (stop : continuesNumber byte = false) (rest : Bytes) :
    EndsNumber (byte :: rest) := by
  intro next head
  rw [List.head?_cons, Option.mem_some] at head
  exact head ▸ stop

@[simp] theorem result?_peek (blanks : Blanks) {byte : UInt8} (solid : isSpace byte = false)
    (rest : Bytes) :
    result? peek (blankBytes blanks ++ byte :: rest) = some (some byte, byte :: rest) := by
  rw [result?, peek, dropWhile_blankBytes, List.dropWhile_cons_of_neg (by simp [solid])]
  rfl

theorem result?_peek_end (blanks : Blanks) :
    result? peek (blankBytes blanks) = some (none, []) := by
  have stripped := dropWhile_blankBytes blanks []
  rw [List.append_nil] at stripped
  rw [result?, peek, stripped]
  rfl

/-! ### Trees as bytes -/

def literalBytes (pieces : List Piece) : Bytes :=
  quoteByte :: (Bytes.ofChars (contentChars pieces) ++ [quoteByte])

def elementBytes (isFirst : Bool) (elements : List Tree) : Bytes :=
  .ofChars (elementChars isFirst elements)

def memberBytes (isFirst : Bool) (members : List (Name × Tree)) : Bytes :=
  .ofChars (memberChars isFirst members)

theorem literalBytes_eq (pieces : List Piece) :
    Bytes.ofChars (literalChars pieces) = literalBytes pieces := by
  rw [literalChars, Bytes.ofChars_cons_ascii (by decide), Bytes.ofChars_append]
  rfl

namespace Tree

def before : Tree → Blanks
  | .scalar before _ _ | .array before _ _ _ | .object before _ _ _ => before

/-- The value itself, from its first byte to its last. -/
def core : Tree → Bytes
  | .scalar _ written _ => .ofChars written.chars
  | .array _ inner elements _ =>
    openBracket :: (blankBytes inner ++ (elementBytes true elements ++ [closeBracket]))
  | .object _ inner members _ =>
    openBrace :: (blankBytes inner ++ (memberBytes true members ++ [closeBrace]))

theorem bytes_eq (tree : Tree) :
    tree.bytes = blankBytes tree.before ++ (tree.core ++ blankBytes tree.after) := by
  cases tree with
  | scalar before written after =>
      simp only [bytes, chars, Bytes.ofChars_append, Tree.before, core, Tree.after, blankBytes,
        List.append_assoc]
  | array before inner elements after =>
      have opening (rest : List Char) :
          Bytes.ofChars ('[' :: rest) = openBracket :: Bytes.ofChars rest :=
        Bytes.ofChars_cons_ascii (by decide) rest
      have closing (rest : List Char) :
          Bytes.ofChars (']' :: rest) = closeBracket :: Bytes.ofChars rest :=
        Bytes.ofChars_cons_ascii (by decide) rest
      simp only [bytes, chars, Bytes.ofChars_append, opening, closing, Tree.before, core,
        Tree.after, blankBytes, elementBytes, List.append_assoc, List.cons_append, List.nil_append]
  | object before inner members after =>
      have opening (rest : List Char) :
          Bytes.ofChars ('{' :: rest) = openBrace :: Bytes.ofChars rest :=
        Bytes.ofChars_cons_ascii (by decide) rest
      have closing (rest : List Char) :
          Bytes.ofChars ('}' :: rest) = closeBrace :: Bytes.ofChars rest :=
        Bytes.ofChars_cons_ascii (by decide) rest
      simp only [bytes, chars, Bytes.ofChars_append, opening, closing, Tree.before, core,
        Tree.after, blankBytes, memberBytes, List.append_assoc, List.cons_append, List.nil_append]

end Tree

theorem comma_bytes (isFirst : Bool) :
    Bytes.ofChars (if isFirst then [] else [',']) = if isFirst then [] else [comma] := by
  cases isFirst <;> rfl

theorem elementBytes_cons (isFirst : Bool) (element : Tree) (rest : List Tree) :
    elementBytes isFirst (element :: rest) =
      (if isFirst then [] else [comma]) ++ (element.bytes ++ elementBytes false rest) := by
  simp only [elementBytes, elementChars, Bytes.ofChars_append, comma_bytes, List.append_assoc]
  rfl

theorem memberBytes_cons (isFirst : Bool) (name : Name) (tree : Tree)
    (rest : List (Name × Tree)) :
    memberBytes isFirst ((name, tree) :: rest) =
      (if isFirst then [] else [comma]) ++ (blankBytes name.before ++ (literalBytes name.pieces ++
        (blankBytes name.after ++ colon :: (tree.bytes ++ memberBytes false rest)))) := by
  have opening (rest : List Char) :
      Bytes.ofChars (':' :: rest) = colon :: Bytes.ofChars rest :=
    Bytes.ofChars_cons_ascii (by decide) rest
  simp only [memberBytes, memberChars, Name.chars, Bytes.ofChars_append, comma_bytes, opening,
    literalBytes_eq, List.append_assoc, List.cons_append]
  rfl

/-- Bytes that a value can begin with. -/
def startsValue (byte : UInt8) : Bool :=
  byte == 0x6E || byte == 0x74 || byte == 0x66 || byte == 0x2D || isDigitByte byte ||
    byte == quoteByte || byte == openBracket || byte == openBrace

theorem startsValue_byte : ∀ digit : Digit, startsValue digit.byte = true := by decide

theorem Whole.digits_eq_cons (whole : Whole) : ∃ first more, whole.digits = first :: more := by
  cases whole with
  | zero => exact ⟨_, _, rfl⟩
  | positive first _ more => exact ⟨first, more, rfl⟩

theorem Numeral.tailBytes_eq_cons (numeral : Numeral) :
    ∃ digit more, Bytes.ofChars numeral.tailChars = Digit.byte digit :: more := by
  obtain ⟨first, more, whole⟩ := numeral.whole.digits_eq_cons
  rw [Numeral.tailChars, Bytes.ofChars_append, digitBytes_eq, whole]
  exact ⟨first, _, rfl⟩

theorem Numeral.bytes_eq (numeral : Numeral) :
    Bytes.ofChars numeral.chars =
      (if numeral.isNegative then [0x2D] else []) ++ Bytes.ofChars numeral.tailChars := by
  rw [Numeral.chars, Bytes.ofChars_append]
  cases numeral.isNegative <;> rfl

theorem Scalar.bytes_eq_cons (scalar : Scalar) :
    ∃ byte more, Bytes.ofChars scalar.chars = byte :: more ∧ startsValue byte = true := by
  cases scalar with
  | null => exact ⟨_, _, rfl, rfl⟩
  | bool truth => cases truth <;> exact ⟨_, _, rfl, rfl⟩
  | number numeral =>
      obtain ⟨digit, more, tail⟩ := numeral.tailBytes_eq_cons
      rw [Scalar.chars, Numeral.bytes_eq, tail]
      cases numeral.isNegative with
      | false => exact ⟨_, _, rfl, startsValue_byte digit⟩
      | true => exact ⟨_, _, rfl, rfl⟩
  | string pieces =>
      rw [Scalar.chars, literalBytes_eq]
      exact ⟨_, _, rfl, rfl⟩

theorem Tree.core_eq_cons (tree : Tree) :
    ∃ byte more, tree.core = byte :: more ∧ startsValue byte = true := by
  cases tree with
  | scalar before written after => exact written.bytes_eq_cons
  | array before inner elements after => exact ⟨_, _, rfl, rfl⟩
  | object before inner members after => exact ⟨_, _, rfl, rfl⟩

/-- A value is told from a blank and from what ends or parts a list. -/
theorem startsValue_solid {byte : UInt8} (starts : startsValue byte = true) :
    isSpace byte = false ∧ (byte == closeBracket) = false ∧ (byte == closeBrace) = false ∧
      (byte == comma) = false := by
  simp only [startsValue, isDigitByte, quoteByte, openBracket, openBrace, Bool.or_eq_true,
    beq_iff_eq, Bool.and_eq_true, decide_eq_true_eq, UInt8.le_iff_toNat_le, ← UInt8.toNat_inj,
    UInt8.toNat_ofNat, Nat.reducePow, Nat.reduceMod] at starts
  simp only [isSpace, closeBracket, closeBrace, comma, Bool.or_eq_false_iff, beq_eq_false_iff_ne,
    ne_eq, ← UInt8.toNat_inj, UInt8.toNat_ofNat, Nat.reducePow, Nat.reduceMod]
  omega

theorem result?_peekValue (blanks : Blanks) {byte : UInt8} (solid : isSpace byte = false)
    (rest : Bytes) :
    result? peekValue (blankBytes blanks ++ byte :: rest) = some (byte, byte :: rest) := by
  rw [peekValue, result?_bind, result?_peek blanks solid]
  rfl

/-- A reader reads a tree: it gives the value, or fails where there is none, and leaves what
follows. Blanks before the tree do not matter. -/
def Reads {α : Type} (reader : Reader α) (tree : Tree) (value : Option α) : Prop :=
  ∀ blanks rest, EndsNumber rest →
    result? reader (blankBytes blanks ++ (tree.core ++ rest)) = value.map (·, rest)

/-! ### Lists -/

theorem blankBytes_append_bytes (blanks : Blanks) (tree : Tree) (rest : Bytes) :
    blankBytes blanks ++ (tree.bytes ++ rest) =
      blankBytes (blanks ++ tree.before) ++ (tree.core ++ (blankBytes tree.after ++ rest)) := by
  rw [tree.bytes_eq, blankBytes_append, List.append_assoc, List.append_assoc]

theorem result?_nextElement_end (isFirst : Bool) (blanks : Blanks) (rest : Bytes) :
    result? (nextElement isFirst) (blankBytes blanks ++ closeBracket :: rest) =
      some (false, closeBracket :: rest) := by
  rw [nextElement, result?_bind, result?_peek blanks (by decide)]
  rfl

theorem result?_nextElement (isFirst : Bool) (blanks : Blanks) (tree : Tree) (rest : Bytes) :
    result? (nextElement isFirst) (blankBytes blanks ++
        ((if isFirst then [] else [comma]) ++ (tree.bytes ++ rest))) =
      some (true, tree.core ++ (blankBytes tree.after ++ rest)) := by
  obtain ⟨byte, more, core, starts⟩ := tree.core_eq_cons
  obtain ⟨solid, bracket, _, _⟩ := startsValue_solid starts
  cases isFirst with
  | true =>
      rw [if_pos rfl, List.nil_append, blankBytes_append_bytes, core, List.cons_append, nextElement,
        result?_bind, result?_peek _ solid]
      simp only [Option.bind_some, bracket, Bool.false_eq_true, if_false, if_true, result?_pure]
  | false =>
      have commaBracket : (comma == closeBracket) = false := by decide
      rw [if_neg Bool.false_ne_true, List.singleton_append, nextElement, result?_bind,
        result?_peek blanks (by decide)]
      simp only [Option.bind_some, commaBracket, beq_self_eq_true, Bool.false_eq_true, if_false,
        if_true, result?_bind, result?_skipByte, List.drop_succ_cons, List.drop_zero]
      have peeked := result?_peek tree.before solid (more ++ (blankBytes tree.after ++ rest))
      rw [tree.bytes_eq, core, List.append_assoc, List.append_assoc, List.cons_append, peeked]
      simp only [Option.bind_some, bracket, Bool.false_eq_true, if_false, result?_pure]

theorem endsNumber_elements (element : List Tree) (rest : Bytes) :
    EndsNumber (elementBytes false element ++ closeBracket :: rest) := by
  cases element with
  | nil => exact endsNumber_cons rfl rest
  | cons element more =>
      rw [elementBytes_cons]
      exact endsNumber_cons rfl _

section

variable {σ : Type} {element : σ → Reader σ} {step : σ → Tree → Option σ} {elements : List Tree}

theorem result?_elementsFrom
    (reads : ∀ tree ∈ elements, ∀ state, Reads (element state) tree (step state tree))
    {fuel : Nat} (enough : elements.length < fuel) (isFirst : Bool) (blanks : Blanks) (state : σ)
    (rest : Bytes) :
    result? (elementsFrom element fuel isFirst state)
      (blankBytes blanks ++ (elementBytes isFirst elements ++ closeBracket :: rest)) =
        (elements.foldlM step state).map (·, closeBracket :: rest) := by
  induction elements generalizing fuel isFirst blanks state with
  | nil =>
      obtain ⟨fuel, rfl⟩ := Nat.exists_eq_add_of_lt enough
      have none : elementBytes isFirst [] = [] := by cases isFirst <;> rfl
      rw [none, List.nil_append, elementsFrom, result?_bind, result?_nextElement_end]
      rfl
  | cons tree more ih =>
      obtain ⟨fuel, rfl⟩ := Nat.exists_eq_add_of_lt enough
      rw [elementBytes_cons, List.append_assoc, List.append_assoc, elementsFrom, result?_bind,
        result?_nextElement, Option.bind_some, if_pos rfl, result?_bind]
      have ends := (endsNumber_elements more rest).blankBytes tree.after
      have read := reads tree List.mem_cons_self state [] _ ends
      rw [show blankBytes [] = [] from rfl, List.nil_append] at read
      rw [read, List.foldlM_cons]
      cases step state tree with
      | none => rfl
      | some next =>
          exact ih (fun other member => reads other (List.mem_cons_of_mem tree member))
            (by simp only [List.length_cons]; omega) false tree.after next

theorem length_le_elementBytes (isFirst : Bool) (elements : List Tree) :
    elements.length ≤ (elementBytes isFirst elements).length := by
  induction elements generalizing isFirst with
  | nil => exact Nat.zero_le _
  | cons tree more ih =>
      obtain ⟨byte, rest, core, _⟩ := tree.core_eq_cons
      have shorter := ih false
      simp only [elementBytes_cons, tree.bytes_eq, core, List.length_append, List.length_cons]
      omega

variable (step) in
/-- A list is read element by element. -/
theorem result?_list
    (reads : ∀ tree ∈ elements, ∀ state, Reads (element state) tree (step state tree))
    (inner : Blanks) (initial : σ) (rest : Bytes) :
    result? (list element initial)
      (openBracket :: (blankBytes inner ++ (elementBytes true elements ++ closeBracket :: rest))) =
        (elements.foldlM step initial).map (·, rest) := by
  have enough : elements.length <
      (blankBytes inner ++ (elementBytes true elements ++ closeBracket :: rest)).length + 1 := by
    have shorter := length_le_elementBytes true elements
    simp only [List.length_append]
    omega
  rw [list, result?_bind, result?_skipByte, Option.bind_some, result?_bind, result?_get,
    Option.bind_some]
  simp only [List.drop_succ_cons, List.drop_zero]
  rw [result?_bind, result?_elementsFrom reads enough]
  cases elements.foldlM step initial <;> rfl

end

/-! ### Members -/

/-- The same for what follows a member's name: blanks, a colon and a tree. The blanks after the tree
are left. -/
def ReadsMember {α : Type} (reader : Reader α) (tree : Tree) (value : Option α) : Prop :=
  ∀ blanks rest, EndsNumber rest →
    result? reader (blankBytes blanks ++ colon :: (tree.bytes ++ rest)) =
      value.map (·, blankBytes tree.after ++ rest)

theorem result?_passColon (blanks : Blanks) (rest : Bytes) :
    result? passColon (blankBytes blanks ++ colon :: rest) = some ((), rest) := by
  rw [passColon, result?_bind, result?_peek blanks (by decide)]
  rfl

theorem Reads.member {α β : Type} {reader : Reader α} {tree : Tree} {value : Option α}
    (reads : Reads reader tree value) (use : α → β) :
    ReadsMember (do passColon; return use (← reader)) tree (value.map use) := by
  intro blanks rest ends
  have read := reads tree.before (blankBytes tree.after ++ rest) (ends.blankBytes tree.after)
  rw [result?_bind, result?_passColon, Option.bind_some, tree.bytes_eq, List.append_assoc,
    List.append_assoc, result?_bind, read]
  cases value <;> rfl

theorem result?_nextMember_end (isFirst : Bool) (blanks : Blanks) (rest : Bytes) :
    result? (nextMember isFirst) (blankBytes blanks ++ closeBrace :: rest) =
      some (false, closeBrace :: rest) := by
  rw [nextMember, result?_bind, result?_peek blanks (by decide)]
  rfl

theorem result?_nextMember (isFirst : Bool) (blanks before : Blanks) (pieces : List Piece)
    (rest : Bytes) :
    result? (nextMember isFirst) (blankBytes blanks ++ ((if isFirst then [] else [comma]) ++
        (blankBytes before ++ (literalBytes pieces ++ rest)))) =
      some (true, Bytes.ofChars (contentChars pieces) ++ quoteByte :: rest) := by
  have brace : (quoteByte == closeBrace) = false := by decide
  have commaBrace : (comma == closeBrace) = false := by decide
  have quote : isSpace quoteByte = false := by decide
  cases isFirst with
  | true =>
      rw [if_pos rfl, List.nil_append, ← blankBytes_append, literalBytes, List.cons_append,
        nextMember, result?_bind, result?_peek _ quote]
      simp only [Option.bind_some, brace, Bool.false_eq_true, if_false, if_true,
        beq_self_eq_true, result?_bind, result?_skipByte, result?_pure, List.drop_succ_cons,
        List.drop_zero, List.append_assoc, List.singleton_append]
  | false =>
      rw [if_neg Bool.false_ne_true, List.singleton_append, nextMember, result?_bind,
        result?_peek blanks (by decide)]
      simp only [Option.bind_some, commaBrace, beq_self_eq_true, Bool.false_eq_true, if_false,
        if_true, result?_bind, result?_skipByte, List.drop_succ_cons, List.drop_zero]
      rw [literalBytes, List.cons_append, result?_peek before quote]
      simp only [Option.bind_some, beq_self_eq_true, if_true, result?_bind, result?_skipByte,
        result?_pure, List.drop_succ_cons, List.drop_zero, List.append_assoc,
        List.singleton_append]

theorem endsNumber_members (members : List (Name × Tree)) (rest : Bytes) :
    EndsNumber (memberBytes false members ++ closeBrace :: rest) := by
  cases members with
  | nil => exact endsNumber_cons rfl rest
  | cons first more =>
      rw [memberBytes_cons]
      exact endsNumber_cons rfl _

section

variable {σ : Type} {member : String → σ → Reader σ} {step : σ → String → Tree → Option σ}
  {written : List (Name × Tree)}

/-- What the members of an object make of a state, one after the other. -/
def stepMember (step : σ → String → Tree → Option σ) (state : σ) (member : Name × Tree) :
    Option σ :=
  (string? member.1.pieces).bind fun name => step state name member.2

theorem result?_membersFrom
    (reads : ∀ named ∈ written, ∀ text state,
      ReadsMember (member text state) named.2 (step state text named.2))
    {fuel : Nat} (enough : written.length < fuel) (isFirst : Bool) (blanks : Blanks) (state : σ)
    (rest : Bytes) :
    result? (membersFrom member fuel isFirst state)
      (blankBytes blanks ++ (memberBytes isFirst written ++ closeBrace :: rest)) =
        (written.foldlM (stepMember step) state).map (·, closeBrace :: rest) := by
  induction written generalizing fuel isFirst blanks state with
  | nil =>
      obtain ⟨fuel, rfl⟩ := Nat.exists_eq_add_of_lt enough
      have none : memberBytes isFirst [] = [] := by cases isFirst <;> rfl
      rw [none, List.nil_append, membersFrom, result?_bind, result?_nextMember_end]
      rfl
  | cons first more ih =>
      obtain ⟨name, tree⟩ := first
      obtain ⟨fuel, rfl⟩ := Nat.exists_eq_add_of_lt enough
      simp only [memberBytes_cons, List.append_assoc, List.cons_append]
      rw [membersFrom, result?_bind, result?_nextMember, Option.bind_some, if_pos rfl,
        result?_bind, result?_stringTail, List.foldlM_cons, stepMember]
      cases string? name.pieces with
      | none => rfl
      | some text =>
          have read := reads _ List.mem_cons_self text state name.after _
            (endsNumber_members more rest)
          simp only [Option.map_some, Option.bind_some, result?_bind, read]
          cases step state text tree with
          | none => rfl
          | some next =>
              exact ih (fun named member => reads named (List.mem_cons_of_mem _ member))
                (by simp only [List.length_cons]; omega) false tree.after next

theorem length_le_memberBytes (isFirst : Bool) (members : List (Name × Tree)) :
    members.length ≤ (memberBytes isFirst members).length := by
  induction members generalizing isFirst with
  | nil => exact Nat.zero_le _
  | cons first more ih =>
      obtain ⟨name, tree⟩ := first
      have shorter := ih false
      simp only [memberBytes_cons, List.length_append, List.length_cons]
      omega

variable (step) in
/-- An object is read member by member. -/
theorem result?_members
    (reads : ∀ named ∈ written, ∀ text state,
      ReadsMember (member text state) named.2 (step state text named.2))
    (inner : Blanks) (initial : σ) (rest : Bytes) :
    result? (members member initial)
      (openBrace :: (blankBytes inner ++ (memberBytes true written ++ closeBrace :: rest))) =
        (written.foldlM (stepMember step) initial).map (·, rest) := by
  have enough : written.length <
      (blankBytes inner ++ (memberBytes true written ++ closeBrace :: rest)).length + 1 := by
    have shorter := length_le_memberBytes true written
    simp only [List.length_append]
    omega
  rw [members, result?_bind, result?_skipByte, Option.bind_some, result?_bind, result?_get,
    Option.bind_some]
  simp only [List.drop_succ_cons, List.drop_zero]
  rw [result?_bind, result?_membersFrom reads enough]
  cases written.foldlM (stepMember step) initial <;> rfl

end

end ClusterRest.Json
