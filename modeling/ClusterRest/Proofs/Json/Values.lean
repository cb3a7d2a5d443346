import ClusterRest.Proofs.Json.Reading

/-!
Any tree as the readers of values see it: read up to a depth where it stands for a value, and
skipped at any depth. `parse` reads those texts alone, of all that are grammatical, whose brackets nest less
than `depthLimit` deep and whose numbers and surrogates it can represent.
-/

namespace ClusterRest.Json

/-- Induction over trees: a list by its elements, an object by the trees of its members. -/
@[elab_as_elim, induction_eliminator]
theorem Tree.induction {motive : Tree → Prop}
    (scalar : ∀ before written after, motive (.scalar before written after))
    (array : ∀ before inner elements after, (∀ tree ∈ elements, motive tree) →
      motive (.array before inner elements after))
    (object : ∀ before inner members after, (∀ named ∈ members, motive named.2) →
      motive (.object before inner members after))
    (tree : Tree) : motive tree :=
  match tree with
  | .scalar before written after => scalar before written after
  | .array before inner elements after =>
    array before inner elements after fun tree _ => Tree.induction scalar array object tree
  | .object before inner members after =>
    object before inner members after fun named _ => Tree.induction scalar array object named.2
termination_by sizeOf tree
decreasing_by
  · have smaller := List.sizeOf_lt_of_mem ‹tree ∈ elements›
    simp only [Tree.array.sizeOf_spec]
    omega
  · have smaller := List.sizeOf_lt_of_mem ‹named ∈ members›
    have part : sizeOf named.2 < sizeOf named := by
      cases named
      simp only [Prod.mk.sizeOf_spec]
      omega
    simp only [Tree.object.sizeOf_spec]
    omega

/-! ### What lists and objects stand for -/

theorem elementValues?_eq (elements : List Tree) :
    elementValues? elements = elements.mapM Tree.value? := by
  induction elements with
  | nil => rfl
  | cons element rest ih => rw [elementValues?, ih, List.mapM_cons]

/-- The name of a member and the value of its tree. -/
def memberValue? (value? : Tree → Option Value) (named : Name × Tree) : Option (String × Value) :=
  (string? named.1.pieces).bind fun name => (value? named.2).map (name, ·)

theorem memberValues?_eq (members : List (Name × Tree)) :
    memberValues? members = members.mapM (memberValue? Tree.value?) := by
  induction members with
  | nil => rfl
  | cons named rest ih =>
      rw [memberValues?, ih, List.mapM_cons, memberValue?]
      cases string? named.1.pieces with
      | none => rfl
      | some name => cases named.2.value? <;> rfl

theorem elementDepth_lt_iff {elements : List Tree} {depth : Nat} :
    elementDepth elements < depth ↔ 0 < depth ∧ ∀ tree ∈ elements, tree.depth < depth := by
  induction elements with
  | nil => simp [elementDepth]
  | cons element rest ih =>
      rw [elementDepth, Nat.max_lt, ih, List.forall_mem_cons, and_left_comm]

theorem memberDepth_lt_iff {members : List (Name × Tree)} {depth : Nat} :
    memberDepth members < depth ↔ 0 < depth ∧ ∀ named ∈ members, named.2.depth < depth := by
  induction members with
  | nil => simp [memberDepth]
  | cons named rest ih =>
      rw [memberDepth, Nat.max_lt, ih, List.forall_mem_cons, and_left_comm]

/-! ### Scalars -/

theorem literalTail_bytes (literal : Bytes) (rest : Bytes) :
    result? (literalTail literal) (literal ++ rest) = some ((), rest) := by
  induction literal with
  | nil => rfl
  | cons byte literal ih =>
      rw [literalTail, List.cons_append, result?_bind, result?_get, Option.bind_some]
      simp only [result?_bind, result?_set, Option.bind_some, beq_self_eq_true, if_true]
      exact ih

theorem result?_literal (value : Value) (first : UInt8) (literal rest : Bytes) :
    result? (do
      skipByte
      literalTail literal
      return some value) (first :: (literal ++ rest)) = some (some value, rest) := by
  rw [result?_bind, result?_skipByte, Option.bind_some, List.drop_succ_cons, List.drop_zero,
    result?_bind, literalTail_bytes]
  rfl

theorem scalar?_digit : ∀ digit : Digit,
    scalar? digit.byte = (do return some (.number (← numberTail false))) := by
  intro digit
  have isDigit := isDigitByte_byte digit
  have others : ∀ digit : Digit, (digit.byte == 0x6E) = false ∧ (digit.byte == 0x74) = false ∧
    (digit.byte == 0x66) = false ∧ (digit.byte == 0x2D) = false := by decide
  obtain ⟨n, t, f, minus⟩ := others digit
  simp only [scalar?, n, t, f, minus, isDigit, Bool.false_eq_true, if_false, if_true]

/-- A scalar is read as its value. -/
theorem result?_scalar (scalar : Scalar) {rest : Bytes} (ends : EndsNumber rest) :
    ∃ first more, Bytes.ofChars scalar.chars = first :: more ∧ startsValue first = true ∧
      (first == openBracket) = false ∧ (first == openBrace) = false ∧
      result? (scalar? first) (first :: (more ++ rest)) =
        scalar.value?.map fun value => (some value, rest) := by
  cases scalar with
  | null =>
      exact ⟨0x6E, [0x75, 0x6C, 0x6C], rfl, rfl, rfl, rfl,
        result?_literal .null 0x6E [0x75, 0x6C, 0x6C] rest⟩
  | bool truth =>
      cases truth with
      | true =>
          exact ⟨0x74, [0x72, 0x75, 0x65], rfl, rfl, rfl, rfl,
            result?_literal (.bool true) 0x74 [0x72, 0x75, 0x65] rest⟩
      | false =>
          exact ⟨0x66, [0x61, 0x6C, 0x73, 0x65], rfl, rfl, rfl, rfl,
            result?_literal (.bool false) 0x66 [0x61, 0x6C, 0x73, 0x65] rest⟩
  | number numeral =>
      obtain ⟨digit, more, tail⟩ := numeral.tailBytes_eq_cons
      have read := result?_numberTail numeral ends
      have written := numeral.bytes_eq
      cases negative : numeral.isNegative with
      | true =>
          rw [negative, if_pos rfl, List.singleton_append] at written
          rw [negative] at read
          refine ⟨0x2D, _, written, rfl, rfl, rfl, ?_⟩
          have step : scalar? 0x2D = (do
              skipByte
              return some (.number (← numberTail true))) := rfl
          rw [step, result?_bind, result?_skipByte, Option.bind_some, List.drop_succ_cons,
            List.drop_zero, result?_bind, read, Scalar.value?, Option.map_map]
          cases numeral.value? <;> rfl
      | false =>
          rw [negative, if_neg Bool.false_ne_true, List.nil_append, tail] at written
          rw [negative, tail, List.cons_append] at read
          have brackets : ∀ digit : Digit, (digit.byte == openBracket) = false ∧
            (digit.byte == openBrace) = false := by decide
          refine ⟨digit.byte, more, written, startsValue_byte digit, (brackets digit).1,
            (brackets digit).2, ?_⟩
          rw [scalar?_digit, result?_bind, read, Scalar.value?, Option.map_map]
          cases numeral.value? <;> rfl
  | string pieces =>
      refine ⟨quoteByte, _, literalBytes_eq pieces, rfl, rfl, rfl, ?_⟩
      have read := result?_stringTail pieces rest
      have step : scalar? quoteByte = (do
          skipByte
          return some (.string (← stringTail))) := rfl
      rw [step, result?_bind, result?_skipByte, Option.bind_some, List.drop_succ_cons,
        List.drop_zero, List.append_assoc, List.singleton_append, result?_bind, read,
        Scalar.value?, Option.map_map]
      cases string? pieces <;> rfl

/-! ### Values -/

theorem foldlM_append {α β : Type} (read? : α → Option β) (items : List α) (initial : List β) :
    items.foldlM (fun read item => (read? item).map (read ++ [·])) initial =
      (items.mapM read?).map (initial ++ ·) := by
  induction items generalizing initial with
  | nil => exact congrArg some (List.append_nil initial).symm
  | cons item rest ih =>
      rw [List.foldlM_cons, List.mapM_cons]
      cases read? item with
      | none => rfl
      | some first =>
          have step := ih (initial ++ [first])
          simp only [Option.map_some, Option.bind_eq_bind, Option.bind_some, step]
          cases rest.mapM read? with
          | none => rfl
          | some more => simp

theorem foldlM_insertMember (value? : Tree → Option Value) (members : List (Name × Tree))
    (initial : Members) :
    members.foldlM (stepMember fun sorted name tree =>
        (value? tree).map (insertMember name · sorted)) initial =
      (members.mapM (memberValue? value?)).map
        (List.foldl (fun sorted (name, value) => insertMember name value sorted) initial) := by
  induction members generalizing initial with
  | nil => rfl
  | cons named rest ih =>
      rw [List.foldlM_cons, List.mapM_cons, stepMember, memberValue?]
      cases string? named.1.pieces with
      | none => rfl
      | some name =>
          cases value? named.2 with
          | none => rfl
          | some value =>
              have step := ih (insertMember name value initial)
              simp only [Option.map_some, Option.bind_eq_bind, Option.bind_some, step]
              cases rest.mapM (memberValue? value?) <;> rfl

/-- One item that is not read spoils the list. -/
theorem mapM_ite {α β : Type} (isRead : α → Prop) [DecidablePred isRead] (read? : α → Option β)
    (items : List α) :
    items.mapM (fun item => if isRead item then read? item else none) =
      if ∀ item ∈ items, isRead item then items.mapM read? else none := by
  induction items with
  | nil => rfl
  | cons item rest ih =>
      rw [List.mapM_cons, ih]
      by_cases first : isRead item
      · by_cases others : ∀ other ∈ rest, isRead other
        · rw [if_pos first, if_pos others, if_pos (List.forall_mem_cons.mpr ⟨first, others⟩),
            List.mapM_cons]
        · rw [if_pos first, if_neg others,
            if_neg fun all => others (List.forall_mem_cons.mp all).2]
          cases read? item <;> rfl
      · rw [if_neg first, if_neg fun all => first (List.forall_mem_cons.mp all).1]
        rfl

/-- The value of a tree whose brackets nest less than `depth` deep. -/
def Tree.valueWithin? (depth : Nat) (tree : Tree) : Option Value :=
  if tree.depth < depth then tree.value? else none

theorem arrayWithin? (depth : Nat) (before inner : Blanks) (elements : List Tree)
    (after : Blanks) :
    (Tree.array before inner elements after).valueWithin? (depth + 1) =
      if depth = 0 then none else (elements.mapM (Tree.valueWithin? depth)).map .array := by
  have nested : (Tree.array before inner elements after).depth < depth + 1 ↔
      depth ≠ 0 ∧ ∀ tree ∈ elements, tree.depth < depth := by
    rw [Tree.depth, Nat.add_lt_add_iff_right, elementDepth_lt_iff, Nat.pos_iff_ne_zero]
  have each : elements.mapM (Tree.valueWithin? depth) =
      if ∀ tree ∈ elements, tree.depth < depth then elements.mapM Tree.value? else none :=
    mapM_ite (fun tree : Tree => tree.depth < depth) Tree.value? elements
  rw [Tree.valueWithin?, Tree.value?, elementValues?_eq, each]
  by_cases zero : depth = 0
  · rw [if_pos zero, if_neg fun less => (nested.mp less).1 zero]
  · rw [if_neg zero]
    by_cases all : ∀ tree ∈ elements, tree.depth < depth
    · rw [if_pos (nested.mpr ⟨zero, all⟩), if_pos all]
    · rw [if_neg fun less => all (nested.mp less).2, if_neg all]
      rfl

theorem objectWithin? (depth : Nat) (before inner : Blanks) (members : List (Name × Tree))
    (after : Blanks) :
    (Tree.object before inner members after).valueWithin? (depth + 1) =
      if depth = 0 then none
      else (members.mapM (memberValue? (Tree.valueWithin? depth))).map ofMembers := by
  have nested : (Tree.object before inner members after).depth < depth + 1 ↔
      depth ≠ 0 ∧ ∀ named ∈ members, named.2.depth < depth := by
    rw [Tree.depth, Nat.add_lt_add_iff_right, memberDepth_lt_iff, Nat.pos_iff_ne_zero]
  have one (named : Name × Tree) : memberValue? (Tree.valueWithin? depth) named =
      if named.2.depth < depth then memberValue? Tree.value? named else none := by
    rw [memberValue?, memberValue?, Tree.valueWithin?]
    split
    · rfl
    · cases string? named.1.pieces <;> rfl
  have each : members.mapM (memberValue? (Tree.valueWithin? depth)) =
      if ∀ named ∈ members, named.2.depth < depth then members.mapM (memberValue? Tree.value?)
      else none := by
    rw [funext one]
    exact mapM_ite (fun named => named.2.depth < depth) (memberValue? Tree.value?) members
  rw [Tree.valueWithin?, Tree.value?, memberValues?_eq, each]
  by_cases zero : depth = 0
  · rw [if_pos zero, if_neg fun less => (nested.mp less).1 zero]
  · rw [if_neg zero]
    by_cases all : ∀ named ∈ members, named.2.depth < depth
    · rw [if_pos (nested.mpr ⟨zero, all⟩), if_pos all]
    · rw [if_neg fun less => all (nested.mp less).2, if_neg all]
      rfl

theorem result?_scalar_bracket (rest : Bytes) :
    result? (scalar? openBracket) (openBracket :: rest) = some (none, openBracket :: rest) := rfl

theorem result?_scalar_brace (rest : Bytes) :
    result? (scalar? openBrace) (openBrace :: rest) = some (none, openBrace :: rest) := rfl

/-- The elements of a list are read as their values, if those are. -/
theorem result?_elements {depth : Nat}
    (reads : ∀ tree, Reads (value depth) tree (tree.valueWithin? depth)) (inner : Blanks)
    (elements : List Tree) (rest : Bytes) :
    result? (list (fun read => do return read ++ [← value depth]) [])
        (openBracket ::
          (blankBytes inner ++ (elementBytes true elements ++ closeBracket :: rest))) =
      (elements.mapM (Tree.valueWithin? depth)).map (·, rest) := by
  rw [result?_list (fun read tree => (tree.valueWithin? depth).map (read ++ [·])), foldlM_append]
  · cases elements.mapM (Tree.valueWithin? depth) <;> rfl
  · intro tree _ state blanks rest ends
    rw [result?_bind, reads tree blanks rest ends]
    cases tree.valueWithin? depth <;> rfl

/-- The members of an object are read as their values, if those are, in the order of names. -/
theorem result?_namedValues {depth : Nat}
    (reads : ∀ tree, Reads (value depth) tree (tree.valueWithin? depth)) (inner : Blanks)
    (written : List (Name × Tree)) (rest : Bytes) :
    result? (members (fun name read => do
        passColon
        return insertMember name (← value depth) read) [])
        (openBrace ::
          (blankBytes inner ++ (memberBytes true written ++ closeBrace :: rest))) =
      (written.mapM (memberValue? (Tree.valueWithin? depth))).map fun read =>
        (read.foldl (fun sorted (name, value) => insertMember name value sorted) [], rest) := by
  rw [result?_members (fun sorted name tree =>
      (tree.valueWithin? depth).map (insertMember name · sorted)), foldlM_insertMember,
    Option.map_map]
  · rfl
  · intro named _ text state
    exact (reads named.2).member (insertMember text · state)

/-- A value is read from a tree that nests less deep than the limit. -/
theorem reads_value (depth : Nat) (tree : Tree) :
    Reads (value depth) tree (tree.valueWithin? depth) := by
  induction depth generalizing tree with
  | zero =>
      intro blanks rest ends
      rw [Tree.valueWithin?, if_neg (Nat.not_lt_zero _), value]
      rfl
  | succ depth ih =>
      intro blanks rest ends
      cases tree with
      | scalar before written after =>
          obtain ⟨first, more, bytes, starts, _, _, read⟩ := result?_scalar written ends
          obtain ⟨solid, _⟩ := startsValue_solid starts
          have shallow : (Tree.scalar before written after).depth < depth + 1 := Nat.succ_pos depth
          rw [Tree.core, bytes, List.cons_append, value, result?_bind,
            result?_peekValue blanks solid, Option.bind_some, result?_bind, read,
            Tree.valueWithin?, if_pos shallow, Tree.value?]
          cases written.value? <;> rfl
      | array before inner elements after =>
          have read := result?_elements ih inner elements rest
          rw [arrayWithin?, Tree.core, List.cons_append, List.append_assoc, List.append_assoc,
            List.singleton_append, value, result?_bind, result?_peekValue blanks (by decide),
            Option.bind_some, result?_bind, result?_scalar_bracket, Option.bind_some]
          simp only [result?_ite, result?_failNext, beq_self_eq_true, if_true, result?_bind, read]
          split
          · rfl
          · cases elements.mapM (Tree.valueWithin? depth) <;> rfl
      | object before inner written after =>
          have read := result?_namedValues ih inner written rest
          have bracket : (openBrace == openBracket) = false := by decide
          rw [objectWithin?, Tree.core, List.cons_append, List.append_assoc, List.append_assoc,
            List.singleton_append, value, result?_bind, result?_peekValue blanks (by decide),
            Option.bind_some, result?_bind, result?_scalar_brace, Option.bind_some]
          simp only [result?_ite, result?_failNext, bracket, Bool.false_eq_true, if_false,
            result?_bind, read]
          split
          · rfl
          · cases written.mapM (memberValue? (Tree.valueWithin? depth)) <;> rfl

/-! ### Whole texts -/

/-- Nothing follows a text of its own. -/
theorem result?_alone {α : Type} {reader : Reader α} {tree : Tree} {value : Option α}
    (reads : Reads reader tree value) :
    result? (do
      let read ← reader
      match ← peek with
      | none => return read
      | some _ => failNext .trailingCharacters) tree.bytes = value.map (·, []) := by
  have ends : EndsNumber (blankBytes tree.after) := by
    have nothing : EndsNumber [] := fun _ next => nomatch next
    have ends := nothing.blankBytes tree.after
    rwa [List.append_nil] at ends
  have read := reads tree.before (blankBytes tree.after) ends
  rw [← tree.bytes_eq] at read
  rw [result?_bind, read]
  cases value with
  | none => rfl
  | some value =>
      rw [Option.map_some, Option.bind_some, result?_bind, result?_peek_end]
      rfl

theorem toOption_readWhole {α : Type} {reader : Reader α} {tree : Tree} {value : Option α}
    (reads : Reads reader tree value) : (readWhole reader tree.bytes).toOption = value := by
  have whole := result?_alone reads
  rw [readWhole]
  split
  next outcome =>
    have given := (congrArg Except.toOption outcome).symm.trans whole
    cases value <;> cases given
    rfl
  next outcome =>
    have given := (congrArg Except.toOption outcome).symm.trans whole
    cases value <;> cases given
    rfl

/-- A grammatical text is read as the value that its tree stands for, up to the limit of depth. -/
theorem toOption_parse (tree : Tree) :
    (parse tree.bytes).toOption = tree.valueWithin? depthLimit :=
  toOption_readWhole (reads_value depthLimit tree)

/-- Whether a text has a value that the reader can hold. -/
def Tree.IsReadable (tree : Tree) : Prop :=
  tree.depth < depthLimit ∧ tree.value?.isSome = true

instance (tree : Tree) : Decidable tree.IsReadable :=
  inferInstanceAs (Decidable (_ ∧ _))

theorem parse_of_readable {tree : Tree} (readable : tree.IsReadable) :
    ∃ value, parse tree.bytes = .ok value ∧ tree.value? = some value := by
  obtain ⟨shallow, read⟩ := readable
  obtain ⟨value, given⟩ := Option.isSome_iff_exists.mp read
  have parsed := toOption_parse tree
  rw [Tree.valueWithin?, if_pos shallow, given] at parsed
  cases outcome : parse tree.bytes with
  | error fault => rw [outcome] at parsed; cases parsed
  | ok other => rw [outcome] at parsed; cases parsed; exact ⟨value, rfl, given⟩

theorem parse_of_not_readable {tree : Tree} (unreadable : ¬ tree.IsReadable) :
    ∃ fault, parse tree.bytes = .error fault := by
  have parsed := toOption_parse tree
  have none : tree.valueWithin? depthLimit = none := by
    rw [Tree.valueWithin?]
    split
    next shallow =>
      cases given : tree.value? with
      | none => rfl
      | some value => exact absurd ⟨shallow, by rw [given]; rfl⟩ unreadable
    next => rfl
  cases outcome : parse tree.bytes with
  | error fault => exact ⟨fault, rfl⟩
  | ok value => rw [outcome, none] at parsed; cases parsed

/-! ### Values that nobody reads -/

theorem result?_skipToNext_comma (close : UInt8) (missing atEnd : Cause) (blanks : Blanks)
    (rest : Bytes) :
    result? (skipToNext close missing atEnd) (blankBytes blanks ++ comma :: rest) =
      some (true, rest) := by
  rw [skipToNext, result?_bind, result?_peek blanks (by decide)]
  rfl

theorem result?_skipToNext_close {close : UInt8} (solid : isSpace close = false)
    (other : (close == comma) = false) (missing atEnd : Cause) (blanks : Blanks) (rest : Bytes) :
    result? (skipToNext close missing atEnd) (blankBytes blanks ++ close :: rest) =
      some (false, rest) := by
  rw [skipToNext, result?_bind, result?_peek blanks solid]
  simp only [Option.bind_some, other, Bool.false_eq_true, if_false, beq_self_eq_true, if_true,
    result?_bind, result?_skipByte, result?_pure, List.drop_succ_cons, List.drop_zero]

/-- A reader passes over a tree. -/
abbrev Skips (skip : Reader Unit) (tree : Tree) : Prop := Reads skip tree (some ())

theorem result?_skipElements {skip : Reader Unit} {first : Tree} {more : List Tree}
    (skips : ∀ tree ∈ first :: more, Skips skip tree) {fuel : Nat} (enough : more.length < fuel)
    (blanks : Blanks) (rest : Bytes) :
    result? (skipElements skip fuel) (blankBytes blanks ++ (first.core ++
      (blankBytes first.after ++ (elementBytes false more ++ closeBracket :: rest)))) =
        some ((), rest) := by
  have ends := (endsNumber_elements more rest).blankBytes first.after
  have skipped := skips first List.mem_cons_self blanks _ ends
  induction more generalizing first fuel blanks with
  | nil =>
      obtain ⟨fuel, rfl⟩ := Nat.exists_eq_add_of_lt enough
      have none : elementBytes false [] = [] := rfl
      rw [skipElements, result?_bind, skipped]
      simp only [Option.map_some, Option.bind_some, result?_bind, none, List.nil_append]
      rw [result?_skipToNext_close (by decide) (by decide)]
      rfl
  | cons second more ih =>
      obtain ⟨fuel, rfl⟩ := Nat.exists_eq_add_of_lt enough
      have enough : more.length < (second :: more).length + fuel := by
        simp only [List.length_cons]
        omega
      have ends := (endsNumber_elements more rest).blankBytes second.after
      have next := skips second (List.mem_cons_of_mem first List.mem_cons_self)
      have others := ih (fun tree member => skips tree (List.mem_cons_of_mem first member)) enough
        second.before ends (next _ _ ends)
      rw [skipElements, result?_bind, skipped]
      simp only [Option.map_some, Option.bind_some, result?_bind]
      rw [elementBytes_cons, if_neg Bool.false_ne_true, List.append_assoc, List.singleton_append,
        result?_skipToNext_comma, Option.bind_some, if_pos rfl, List.append_assoc, second.bytes_eq,
        List.append_assoc, List.append_assoc]
      exact others

theorem result?_skipName (blanks after : Blanks) (pieces : List Piece) (rest : Bytes) :
    result? skipName (blankBytes blanks ++ (literalBytes pieces ++
      (blankBytes after ++ colon :: rest))) = some ((), rest) := by
  rw [literalBytes, List.cons_append, skipName, result?_bind, result?_peek _ (by decide),
    Option.bind_some]
  simp only [beq_self_eq_true, if_true, result?_bind, result?_skipByte, Option.bind_some,
    List.drop_succ_cons, List.drop_zero, List.append_assoc, List.singleton_append]
  rw [result?_skipStringTail, Option.bind_some, result?_passColon]

theorem result?_skipMembers {skip : Reader Unit} {first : Name × Tree} {more : List (Name × Tree)}
    (skips : ∀ named ∈ first :: more, Skips skip named.2) {fuel : Nat} (enough : more.length < fuel)
    (blanks : Blanks) (rest : Bytes) :
    result? (skipMembers skip fuel) (blankBytes blanks ++ (literalBytes first.1.pieces ++
      (blankBytes first.1.after ++ colon :: (first.2.bytes ++
        (memberBytes false more ++ closeBrace :: rest))))) = some ((), rest) := by
  have ends := (endsNumber_members more rest).blankBytes first.2.after
  have skipped := skips first List.mem_cons_self first.2.before _ ends
  induction more generalizing first fuel blanks with
  | nil =>
      obtain ⟨fuel, rfl⟩ := Nat.exists_eq_add_of_lt enough
      have none : memberBytes false [] = [] := rfl
      rw [skipMembers, result?_bind, result?_skipName, Option.bind_some, result?_bind,
        first.2.bytes_eq, List.append_assoc, List.append_assoc, skipped]
      simp only [Option.map_some, Option.bind_some, result?_bind, none, List.nil_append]
      rw [result?_skipToNext_close (by decide) (by decide)]
      rfl
  | cons second more ih =>
      obtain ⟨fuel, rfl⟩ := Nat.exists_eq_add_of_lt enough
      have enough : more.length < (second :: more).length + fuel := by
        simp only [List.length_cons]
        omega
      have ends := (endsNumber_members more rest).blankBytes second.2.after
      have next := skips second (List.mem_cons_of_mem first List.mem_cons_self)
      have others := ih (fun named member => skips named (List.mem_cons_of_mem first member)) enough
        second.1.before ends (next _ _ ends)
      rw [skipMembers, result?_bind, result?_skipName, Option.bind_some, result?_bind,
        first.2.bytes_eq, List.append_assoc, List.append_assoc, skipped]
      simp only [Option.map_some, Option.bind_some, result?_bind]
      rw [memberBytes_cons, if_neg Bool.false_ne_true, List.append_assoc, List.singleton_append,
        result?_skipToNext_comma, Option.bind_some, if_pos rfl]
      simp only [List.append_assoc, List.cons_append]
      exact others

/-- A scalar is skipped without a look at its number or its surrogates. -/
theorem result?_skipScalar (fuel : Nat) (scalar : Scalar) (blanks : Blanks) {rest : Bytes}
    (ends : EndsNumber rest) :
    result? (skipValueWithin (fuel + 1))
      (blankBytes blanks ++ (Bytes.ofChars scalar.chars ++ rest)) = some ((), rest) := by
  obtain ⟨first, more, bytes, starts, bracket, brace, read⟩ := result?_scalar scalar ends
  obtain ⟨solid, _⟩ := startsValue_solid starts
  rw [bytes, List.cons_append, skipValueWithin, result?_bind, result?_peekValue blanks solid]
  simp only [Option.bind_some, bracket, brace, Bool.false_eq_true, if_false]
  cases scalar with
  | null =>
      cases bytes
      rw [result?_ite, if_neg (by decide), result?_ite, if_neg (by decide), result?_ite,
        if_neg (by decide), result?_ite, if_pos (by decide), result?_bind, read]
      rfl
  | bool truth =>
      cases truth <;>
      · cases bytes
        rw [result?_ite, if_neg (by decide), result?_ite, if_neg (by decide), result?_ite,
          if_neg (by decide), result?_ite, if_pos (by decide), result?_bind, read]
        rfl
  | number numeral =>
      have skipped := result?_skipNumberTail numeral ends
      rw [Scalar.chars, numeral.bytes_eq] at bytes
      cases negative : numeral.isNegative with
      | true =>
          rw [negative, if_pos rfl, List.singleton_append] at bytes
          obtain ⟨rfl, rfl⟩ := List.cons.inj bytes
          rw [result?_ite, if_neg (by decide), result?_ite, if_pos (by decide), result?_bind,
            result?_skipByte, Option.bind_some, List.drop_succ_cons, List.drop_zero, skipped]
      | false =>
          obtain ⟨digit, after, tail⟩ := numeral.tailBytes_eq_cons
          rw [negative, if_neg Bool.false_ne_true, List.nil_append, tail] at bytes
          obtain ⟨rfl, rfl⟩ := List.cons.inj bytes
          have others : ∀ digit : Digit, (digit.byte == quoteByte) = false ∧
            (digit.byte == 0x2D) = false := by decide
          rw [tail, List.cons_append] at skipped
          simp only [(others digit).1, (others digit).2, isDigitByte_byte digit,
            Bool.false_eq_true, if_false, if_true, skipped]
  | string pieces =>
      rw [Scalar.chars, literalBytes_eq] at bytes
      obtain ⟨rfl, rfl⟩ := List.cons.inj bytes
      rw [result?_ite, if_pos (by decide), result?_bind, result?_skipByte, Option.bind_some,
        List.drop_succ_cons, List.drop_zero, List.append_assoc, List.singleton_append,
        result?_skipStringTail]

theorem skips_array {fuel : Nat} {elements : List Tree}
    (skips : ∀ tree ∈ elements, Skips (skipValueWithin fuel) tree) (before inner after : Blanks) :
    Skips (skipValueWithin (fuel + 1)) (.array before inner elements after) := by
  intro blanks rest ends
  rw [Tree.core, List.cons_append, List.append_assoc, List.append_assoc, List.singleton_append,
    skipValueWithin, result?_bind, result?_peekValue blanks (by decide), Option.bind_some]
  simp only [beq_self_eq_true, if_true, result?_bind, result?_skipByte, Option.bind_some,
    List.drop_succ_cons, List.drop_zero]
  cases elements with
  | nil =>
      rw [show elementBytes true [] = [] from rfl, List.nil_append, result?_peek inner (by decide)]
      rfl
  | cons first more =>
      obtain ⟨byte, after', core, starts⟩ := first.core_eq_cons
      obtain ⟨solid, bracket, _⟩ := startsValue_solid starts
      have shorter := length_le_elementBytes false more
      have skipped := result?_skipElements skips
        (Nat.lt_succ_of_le (m := (first.core ++ (blankBytes first.after ++
          (elementBytes false more ++ closeBracket :: rest))).length)
          (by simp only [List.length_append]; omega)) [] rest
      rw [show blankBytes [] = [] from rfl, List.nil_append, core, List.cons_append] at skipped
      rw [elementBytes_cons, if_pos rfl, List.nil_append, List.append_assoc,
        blankBytes_append_bytes, core, List.cons_append, result?_peek _ solid, Option.bind_some]
      simp only [bracket, Bool.false_eq_true, if_false, result?_bind, result?_get,
        Option.bind_some]
      exact skipped

theorem skips_object {fuel : Nat} {members : List (Name × Tree)}
    (skips : ∀ named ∈ members, Skips (skipValueWithin fuel) named.2)
    (before inner after : Blanks) :
    Skips (skipValueWithin (fuel + 1)) (.object before inner members after) := by
  intro blanks rest ends
  have bracket : (openBrace == openBracket) = false := by decide
  rw [Tree.core, List.cons_append, List.append_assoc, List.append_assoc, List.singleton_append,
    skipValueWithin, result?_bind, result?_peekValue blanks (by decide), Option.bind_some]
  simp only [bracket, Bool.false_eq_true, if_false, beq_self_eq_true, if_true,
    result?_bind, result?_skipByte, Option.bind_some, List.drop_succ_cons, List.drop_zero]
  cases members with
  | nil =>
      rw [show memberBytes true [] = [] from rfl, List.nil_append, result?_peek inner (by decide)]
      rfl
  | cons first more =>
      have brace : (quoteByte == closeBrace) = false := by decide
      have shorter := length_le_memberBytes false more
      have skipped := result?_skipMembers skips
        (Nat.lt_succ_of_le (m := (literalBytes first.1.pieces ++
          (blankBytes first.1.after ++ colon :: (first.2.bytes ++
            (memberBytes false more ++ closeBrace :: rest)))).length)
          (by simp only [List.length_append, List.length_cons]; omega)) [] rest
      rw [show blankBytes [] = [] from rfl, List.nil_append, literalBytes,
        List.cons_append] at skipped
      rw [memberBytes_cons, if_pos rfl, List.nil_append]
      simp only [List.append_assoc, List.cons_append]
      rw [← blankBytes_append, literalBytes, List.cons_append, result?_peek _ (by decide),
        Option.bind_some]
      simp only [brace, Bool.false_eq_true, if_false, result?_bind, result?_get,
        Option.bind_some]
      exact skipped

/-- A value is skipped at any depth below the fuel. -/
theorem skips_within {fuel : Nat} {tree : Tree} (enough : tree.depth < fuel) :
    Skips (skipValueWithin fuel) tree := by
  induction fuel generalizing tree with
  | zero => exact absurd enough (Nat.not_lt_zero _)
  | succ fuel ih =>
      cases tree with
      | scalar before written after =>
          exact fun blanks _ ends => result?_skipScalar fuel written blanks ends
      | array before inner elements after =>
          rw [Tree.depth, Nat.add_lt_add_iff_right, elementDepth_lt_iff] at enough
          exact skips_array (fun tree member => ih (enough.2 tree member)) before inner after
      | object before inner members after =>
          rw [Tree.depth, Nat.add_lt_add_iff_right, memberDepth_lt_iff] at enough
          exact skips_object (fun named member => ih (enough.2 named member)) before inner after

theorem elementDepth_le {elements : List Tree}
    (shallow : ∀ tree ∈ elements, tree.depth ≤ tree.core.length) (isFirst : Bool) :
    elementDepth elements ≤ (elementBytes isFirst elements).length := by
  induction elements generalizing isFirst with
  | nil => exact Nat.zero_le _
  | cons tree more ih =>
      have first := shallow tree List.mem_cons_self
      have others := ih (fun tree member => shallow tree (List.mem_cons_of_mem _ member)) false
      simp only [elementDepth, elementBytes_cons, tree.bytes_eq, List.length_append]
      omega

theorem memberDepth_le {members : List (Name × Tree)}
    (shallow : ∀ named ∈ members, named.2.depth ≤ named.2.core.length) (isFirst : Bool) :
    memberDepth members ≤ (memberBytes isFirst members).length := by
  induction members generalizing isFirst with
  | nil => exact Nat.zero_le _
  | cons named more ih =>
      obtain ⟨name, tree⟩ := named
      have first := shallow _ List.mem_cons_self
      have others := ih (fun named member => shallow named (List.mem_cons_of_mem _ member)) false
      simp only [memberDepth, memberBytes_cons, tree.bytes_eq, List.length_append,
        List.length_cons]
      simp only at first
      omega

theorem depth_le_length (tree : Tree) : tree.depth ≤ tree.core.length := by
  induction tree with
  | scalar before written after => exact Nat.zero_le _
  | array before inner elements after ih =>
      have shallow := elementDepth_le ih true
      simp only [Tree.depth, Tree.core, List.length_cons, List.length_append]
      omega
  | object before inner members after ih =>
      have shallow := memberDepth_le ih true
      simp only [Tree.depth, Tree.core, List.length_cons, List.length_append]
      omega

/-- Any tree is skipped, however deep it nests. -/
theorem skips_value (tree : Tree) : Skips skipValue tree := by
  intro blanks rest ends
  have shallow := depth_le_length tree
  rw [skipValue, result?_bind, result?_get, Option.bind_some]
  refine skips_within ?_ blanks rest ends
  simp only [List.length_append]
  omega

end ClusterRest.Json
