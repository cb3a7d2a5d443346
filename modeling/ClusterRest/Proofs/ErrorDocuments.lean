import ClusterRest.Proofs.Calls
import ClusterRest.Proofs.Json.Shapes
import ClusterRest.Proofs.Text
import ClusterRest.Transport.Connect

/-!
Which JSON values are error documents. `documentOf?` gives the entries of a value that is one, and
`decode` makes exactly these of its compact text.
-/

namespace ClusterRest

namespace ErrorDocument

open Json

/-! ### Values that are error documents -/

/-- The text of a member that may be absent. -/
def memberText? (name : String) (members : Members) : Option String :=
  match lookup? name members with
  | none => some ""
  | some value => value.text?

/-- An entry: an object of texts under three names, or a list of at most three texts. -/
def entryOf? : Value → Option ErrorEntry
  | .object members => do
    let code ← memberText? "code" members
    let field ← memberText? "field" members
    let message ← memberText? "message" members
    return ⟨code, field, message⟩
  | .array elements => do
    match ← elements.mapM Value.text? with
    | [] => return ⟨"", "", ""⟩
    | [code] => return ⟨code, "", ""⟩
    | [code, field] => return ⟨code, field, ""⟩
    | [code, field, message] => return ⟨code, field, message⟩
    | _ => none
  | _ => none

def entriesOf? : Value → Option (List ErrorEntry)
  | .array elements => elements.mapM entryOf?
  | _ => none

/-- A document: an object with its entries under `errors`, or a list of nothing but them. -/
def documentOf? : Value → Option (List ErrorEntry)
  | .object members =>
    match lookup? "errors" members with
    | none => some []
    | some listed => entriesOf? listed
  | .array [] => some []
  | .array [listed] => entriesOf? listed
  | _ => none

end ErrorDocument

namespace ErrorEntry

open Json

/-- The rest of a list that holds texts, and at most so many of them. -/
theorem result?_texts {α : Type} (use : List String → α) (count : Nat) (isFirst : Bool)
    (elements : List Tree) (blanks : Blanks) (rest : Bytes) :
    result? (do
      let read ← texts count isFirst
      closeList
      return use read)
      (blankBytes blanks ++ (elementBytes isFirst elements ++ closeBracket :: rest)) =
        (if elements.length ≤ count then elements.mapM Tree.string? else none).map
          (use ·, rest) := by
  induction count generalizing use isFirst elements blanks with
  | zero =>
      rw [texts, result?_bind, result?_pure, Option.bind_some, result?_bind, result?_closeList]
      cases elements <;> rfl
  | succ count ih =>
      cases elements with
      | nil =>
          have closes := result?_closeList_end [] rest
          simp only [texts, result?_bind, result?_element?_end, Option.bind_some, result?_pure]
          exact congrArg (Option.bind · _) closes
      | cons element more =>
          simp only [texts, result?_bind, result?_element? (reads_text element), List.mapM_cons]
          cases element.string? with
          | none =>
              simp only [Option.map_none, Option.bind_none, Option.bind_eq_bind]
              split <;> rfl
          | some first =>
              have others := ih (fun read => use (first :: read)) false more element.after
              simp only [result?_bind, result?_pure] at others
              simp only [Option.map_some, Option.bind_some, result?_bind, result?_pure,
                Option.bind_assoc, others, List.length_cons, Nat.add_le_add_iff_right]
              split
              · cases more.mapM Tree.string? <;> rfl
              · rfl

/-- What a member adds to the parts of an entry: none where it stands twice or is no text. -/
def step (parts : Parts) (name : String) (tree : Tree) : Option Parts :=
  let once (read : Option String) := if read.isSome then none else tree.string?
  if name = "code" then (once parts.code).map fun text => { parts with code := some text }
  else if name = "field" then (once parts.field).map fun text => { parts with field := some text }
  else if name = "message" then
    (once parts.message).map fun text => { parts with message := some text }
  else some parts

theorem readsMember_once (name : String) (read : Option String) (tree : Tree) :
    ReadsMember (once name read) tree (if read.isSome then none else tree.string?) := by
  intro blanks rest ends
  rw [once]
  cases read with
  | some text =>
      refine (result?_bind _ _ _).trans ?_
      rw [result?_failWhole]
      rfl
  | none =>
      have reads := (reads_text tree).member id blanks rest ends
      simp only [Option.map_id_fun, id_eq, bind_pure] at reads
      exact reads

theorem readsMember_member (name : String) (parts : Parts) (tree : Tree) :
    ReadsMember (member name parts) tree (step parts name tree) := by
  rw [member, step]
  split
  · exact (readsMember_once name parts.code tree).map _
  · split
    · exact (readsMember_once name parts.field tree).map _
    · split
      · exact (readsMember_once name parts.message tree).map _
      · exact readsMember_skip parts tree

/-- The entry that a tree reads as. -/
def ofTree? : Tree → Option ErrorEntry
  | .scalar _ _ _ => none
  | .array _ _ elements _ =>
    (if elements.length ≤ 3 then elements.mapM Tree.string? else none).map fun read =>
      Parts.entry ⟨read[0]?, read[1]?, read[2]?⟩
  | .object _ _ members _ => (members.foldlM (stepMember step) ⟨none, none, none⟩).map Parts.entry

theorem reads_entry (tree : Tree) : Reads reader tree (ofTree? tree) := by
  intro blanks rest ends
  cases tree with
  | scalar before written after =>
      obtain ⟨first, more, bytes, starts, bracket, brace, _⟩ := result?_scalar written ends
      obtain ⟨solid, _⟩ := startsValue_solid starts
      rw [Tree.core, bytes, List.cons_append, reader, result?_bind,
        result?_peekValue blanks solid, Option.bind_some]
      simp only [bracket, brace, Bool.false_eq_true, if_false, result?_failType]
      rfl
  | array before inner elements after =>
      have brace : (openBracket == openBrace) = false := by decide
      rw [Tree.core, List.cons_append, List.append_assoc, List.append_assoc,
        List.singleton_append, reader, result?_bind, result?_peekValue blanks (by decide),
        Option.bind_some]
      simp only [brace, Bool.false_eq_true, if_false, beq_self_eq_true, if_true]
      rw [result?_bind, result?_skipByte, Option.bind_some, List.drop_succ_cons, List.drop_zero]
      refine (result?_texts (fun read => Parts.entry ⟨read[0]?, read[1]?, read[2]?⟩)
        3 true elements inner rest).trans ?_
      rw [ofTree?, Option.map_map]
      rfl
  | object before inner written after =>
      rw [Tree.core, List.cons_append, List.append_assoc, List.append_assoc,
        List.singleton_append, reader, result?_bind, result?_peekValue blanks (by decide),
        Option.bind_some]
      simp only [beq_self_eq_true, if_true, result?_bind]
      rw [result?_members step (fun named _ text parts => readsMember_member text parts named.2),
        ofTree?]
      cases written.foldlM (stepMember step) ⟨none, none, none⟩ <;> rfl

/-! ### Entries of values -/

/-- A member that stands once after those that are read, as far as it is looked for. -/
def found? (read : Option String) (name : String) (members : Members) : Option (Option String) :=
  match lookup? name members with
  | none => some read
  | some value => if read.isSome then none else value.text?.map some

theorem lookup?_eq_none {name : String} {members : Members}
    (absent : name ∉ members.map (·.1)) : lookup? name members = none := by
  induction members with
  | nil => rfl
  | cons first rest ih =>
      obtain ⟨other, value⟩ := first
      rw [List.map_cons, List.mem_cons, not_or] at absent
      rw [lookup?, if_neg absent.1, ih absent.2]

theorem found?_absent {name : String} {members : Members}
    (absent : lookup? name members = none) (read : Option String) :
    found? read name members = some read := by
  rw [found?, absent]

/-- A member that stands first is looked for no further. -/
theorem found?_first {name : String} {rest : Members} (absent : lookup? name rest = none)
    (read : Option String) (value : Value) :
    found? read name ((name, value) :: rest) =
      (if read.isSome then none else value.text?).bind fun text => found? (some text) name rest := by
  simp only [found?_absent absent]
  rw [found?, lookup?, if_pos rfl]
  cases read with
  | some text => rfl
  | none => exact Option.map_eq_bind

theorem found?_other (read : Option String) {name other : String} (distinct : name ≠ other)
    (value : Value) (rest : Members) :
    found? read name ((other, value) :: rest) = found? read name rest := by
  rw [found?, lookup?, if_neg distinct, found?]

/-- The parts that an object adds, where no name stands twice in it. -/
theorem foldlM_step {members : Members} (distinct : (members.map (·.1)).Nodup) (parts : Parts) :
    (Tree.ofNamed members).foldlM (stepMember step) parts = (do
      let code ← found? parts.code "code" members
      let field ← found? parts.field "field" members
      let message ← found? parts.message "message" members
      return ⟨code, field, message⟩) := by
  induction members generalizing parts with
  | nil => rfl
  | cons first rest ih =>
      obtain ⟨name, value⟩ := first
      rw [List.map_cons, List.nodup_cons] at distinct
      have absent := lookup?_eq_none distinct.1
      have ih := ih distinct.2
      rw [Tree.ofNamed, List.foldlM_cons, stepMember, writtenName, string?_writtenPieces,
        Option.bind_some, step]
      simp only [string?_ofValue]
      by_cases code : name = "code"
      · subst code
        rw [if_pos rfl, found?_first absent, found?_other _ (by decide), found?_other _ (by decide)]
        cases if parts.code.isSome then none else value.text? with
        | none => rfl
        | some text => exact ih _
      rw [if_neg code, found?_other _ (Ne.symm code)]
      by_cases field : name = "field"
      · subst field
        rw [if_pos rfl, found?_first absent, found?_other _ (by decide)]
        cases if parts.field.isSome then none else value.text? with
        | none => cases found? parts.code "code" rest <;> rfl
        | some text => exact ih _
      rw [if_neg field, found?_other _ (Ne.symm field)]
      by_cases message : name = "message"
      · subst message
        rw [if_pos rfl, found?_first absent]
        cases if parts.message.isSome then none else value.text? with
        | none =>
            cases found? parts.code "code" rest with
            | none => rfl
            | some code => cases found? parts.field "field" rest <;> rfl
        | some text => exact ih _
      · rw [if_neg message, found?_other _ (Ne.symm message)]
        exact ih parts

theorem texts_eq {elements : List Value} {texts : List String}
    (read : elements.mapM Value.text? = some texts) : texts.length = elements.length := by
  induction elements generalizing texts with
  | nil => cases read; rfl
  | cons element rest ih =>
      rw [List.mapM_cons] at read
      cases first : element.text? with
      | none => rw [first] at read; cases read
      | some text =>
          cases others : rest.mapM Value.text? with
          | none => rw [first, others] at read; cases read
          | some more =>
              rw [first, others] at read
              cases read
              exact congrArg (· + 1) (ih others)

theorem found?_none (name : String) (members : Members) :
    (found? none name members).map (·.getD "") = ErrorDocument.memberText? name members := by
  rw [found?, ErrorDocument.memberText?]
  cases lookup? name members with
  | none => rfl
  | some value =>
      simp only [Option.isSome_none, Bool.false_eq_true, if_false]
      cases value.text? <;> rfl

/-- A value reads as the entry that it is. -/
theorem ofTree?_ofValue {value : Value} (distinct : value.HasDistinctNames) :
    ofTree? (Tree.ofValue value) = ErrorDocument.entryOf? value := by
  cases distinct with
  | null | bool | number | string => rfl
  | @array elements each =>
      have strings : (elements.map Tree.ofValue).mapM Tree.string? = elements.mapM Value.text? := by
        rw [List.mapM_map]
        exact congrArg (elements.mapM ·) (funext string?_ofValue)
      rw [Tree.ofValue, ofTree?, ErrorDocument.entryOf?, ofElements_eq, List.length_map, strings]
      cases read : elements.mapM Value.text? with
      | none => split <;> rfl
      | some texts =>
          rw [← texts_eq read]
          rcases texts with _ | ⟨code, _ | ⟨field, _ | ⟨message, _ | ⟨other, more⟩⟩⟩⟩ <;> rfl
  | @object members distinct each =>
      rw [Tree.ofValue, ofTree?, ErrorDocument.entryOf?, foldlM_step distinct, ← found?_none,
        ← found?_none, ← found?_none]
      cases found? none "code" members with
      | none => rfl
      | some code =>
          cases found? none "field" members with
          | none => rfl
          | some field => cases found? none "message" members <;> rfl

end ErrorEntry

namespace ErrorDocument

open Json

/-! ### Documents -/

/-- The entries that a tree reads as. -/
def entriesOfTree? : Tree → Option (List ErrorEntry)
  | .array _ _ elements _ => elements.mapM ErrorEntry.ofTree?
  | _ => none

theorem reads_entries (tree : Tree) : Reads entriesReader tree (entriesOfTree? tree) := by
  intro blanks rest ends
  cases tree with
  | scalar before written after =>
      obtain ⟨first, more, bytes, starts, bracket, _⟩ := result?_scalar written ends
      obtain ⟨solid, _⟩ := startsValue_solid starts
      rw [Tree.core, bytes, List.cons_append, entriesReader, result?_bind,
        result?_peekValue blanks solid, Option.bind_some]
      simp only [bracket, Bool.false_eq_true, if_false, result?_failType]
      rfl
  | array before inner elements after =>
      rw [Tree.core, List.cons_append, List.append_assoc, List.append_assoc,
        List.singleton_append, entriesReader, result?_bind,
        result?_peekValue blanks (by decide), Option.bind_some]
      simp only [beq_self_eq_true, if_true]
      rw [result?_list (fun read tree => (ErrorEntry.ofTree? tree).map (read ++ [·])),
        foldlM_append, entriesOfTree?, Option.map_map]
      · rfl
      · intro tree _ state blanks rest ends
        rw [result?_bind, ErrorEntry.reads_entry tree blanks rest ends]
        cases ErrorEntry.ofTree? tree <;> rfl
  | object before inner members after =>
      have bracket : (openBrace == openBracket) = false := by decide
      rw [Tree.core, List.cons_append, entriesReader, result?_bind,
        result?_peekValue blanks (by decide), Option.bind_some]
      simp only [bracket, Bool.false_eq_true, if_false, result?_failType]
      rfl

/-- What a member adds to a document: none where its entries stand twice. -/
def step (read : Option (List ErrorEntry)) (name : String) (tree : Tree) :
    Option (Option (List ErrorEntry)) :=
  if name = "errors" then if read.isSome then none else (entriesOfTree? tree).map some
  else some read

theorem readsMember_member (name : String) (read : Option (List ErrorEntry)) (tree : Tree) :
    ReadsMember (member name read) tree (step read name tree) := by
  rw [member, step]
  split
  · intro blanks rest ends
    cases read with
    | some entries =>
        refine (result?_bind _ _ _).trans ?_
        rw [result?_failWhole]
        rfl
    | none => exact (reads_entries tree).member some blanks rest ends
  · exact readsMember_skip read tree

/-- The document that a tree reads as. -/
def ofTree? : Tree → Option (List ErrorEntry)
  | .scalar _ _ _ => none
  | .array _ _ [] _ => some []
  | .array _ _ [listed] _ => entriesOfTree? listed
  | .array _ _ (_ :: _ :: _) _ => none
  | .object _ _ members _ => (members.foldlM (stepMember step) none).map (·.getD [])

theorem reads_document (tree : Tree) : Reads reader tree (ofTree? tree) := by
  intro blanks rest ends
  cases tree with
  | scalar before written after =>
      obtain ⟨first, more, bytes, starts, bracket, brace, _⟩ := result?_scalar written ends
      obtain ⟨solid, _⟩ := startsValue_solid starts
      rw [Tree.core, bytes, List.cons_append, reader, result?_bind,
        result?_peekValue blanks solid, Option.bind_some]
      simp only [bracket, brace, Bool.false_eq_true, if_false, result?_failType]
      rfl
  | array before inner elements after =>
      have brace : (openBracket == openBrace) = false := by decide
      rw [Tree.core, List.cons_append, List.append_assoc, List.append_assoc,
        List.singleton_append, reader, result?_bind, result?_peekValue blanks (by decide),
        Option.bind_some]
      simp only [brace, Bool.false_eq_true, if_false, beq_self_eq_true, if_true]
      rw [result?_bind, result?_skipByte, Option.bind_some, List.drop_succ_cons, List.drop_zero]
      cases elements with
      | nil =>
          have closes := result?_closeList_end [] rest
          simp only [result?_bind, result?_element?_end, Option.bind_some, result?_pure]
          exact congrArg (Option.bind · _) closes
      | cons listed more =>
          simp only [result?_bind, result?_element? (reads_entries listed)]
          cases more with
          | nil | cons =>
              rw [ofTree?]
              cases entriesOfTree? listed with
              | none => rfl
              | some entries =>
                  simp only [Option.map_some, Option.bind_some, result?_closeList]
                  rfl
  | object before inner written after =>
      rw [Tree.core, List.cons_append, List.append_assoc, List.append_assoc,
        List.singleton_append, reader, result?_bind, result?_peekValue blanks (by decide),
        Option.bind_some]
      simp only [beq_self_eq_true, if_true, result?_bind]
      rw [result?_members step (fun named _ text read => readsMember_member text read named.2),
        ofTree?]
      cases written.foldlM (stepMember step) none <;> rfl

/-! ### Documents of values -/

theorem entriesOfTree?_ofValue {value : Value} (distinct : value.HasDistinctNames) :
    entriesOfTree? (Tree.ofValue value) = entriesOf? value := by
  cases distinct with
  | null | bool | number | string | object => rfl
  | array each =>
      rw [Tree.ofValue, entriesOfTree?, entriesOf?, ofElements_eq, List.mapM_map]
      exact mapM_congr fun element member => ErrorEntry.ofTree?_ofValue (each element member)

/-- The entries that an object adds, where no name stands twice in it. -/
theorem foldlM_step {members : Members} (names : (members.map (·.1)).Nodup)
    (each : ∀ named ∈ members, named.2.HasDistinctNames) (read : Option (List ErrorEntry)) :
    (Tree.ofNamed members).foldlM (stepMember step) read =
      match lookup? "errors" members with
      | none => some read
      | some listed => if read.isSome then none else (entriesOf? listed).map some := by
  induction members generalizing read with
  | nil => rfl
  | cons first rest ih =>
      obtain ⟨name, value⟩ := first
      rw [List.map_cons, List.nodup_cons] at names
      have ih := ih names.2 fun named member => each named (List.mem_cons_of_mem _ member)
      rw [Tree.ofNamed, List.foldlM_cons, stepMember, writtenName, string?_writtenPieces,
        Option.bind_some, step, entriesOfTree?_ofValue (each _ List.mem_cons_self), lookup?]
      by_cases errors : name = "errors"
      · subst errors
        rw [ErrorEntry.lookup?_eq_none names.1] at ih
        simp only [if_true]
        split
        · rfl
        · cases entriesOf? value with
          | none => rfl
          | some entries => exact ih (some entries)
      · rw [if_neg errors, if_neg (Ne.symm errors)]
        exact ih read

/-- A value reads as the document that it is. -/
theorem ofTree?_ofValue {value : Value} (distinct : value.HasDistinctNames) :
    ofTree? (Tree.ofValue value) = documentOf? value := by
  cases distinct with
  | null | bool | number | string => rfl
  | @array elements each =>
      match elements with
      | [] => rfl
      | [listed] => exact entriesOfTree?_ofValue (each listed List.mem_cons_self)
      | _ :: _ :: _ => rfl
  | @object members names each =>
      rw [Tree.ofValue, ofTree?, documentOf?, foldlM_step names each]
      cases lookup? "errors" members with
      | none => rfl
      | some listed =>
          simp only [Option.isSome_none, Bool.false_eq_true, if_false]
          cases entriesOf? listed <;> rfl

/-! ### Decoding -/

/-- The first content type given is visible text whose part before parameters is `text/html`. -/
def NamesPage (headers : Http.Headers) : Prop :=
  ∃ value contentType, headers.first? "content-type" = some value ∧
    Http.visibleText? value = some contentType ∧
    Text.sameIgnoringCase
      (Text.trim (.ofList (contentType.toList.takeWhile (· != ';')))) "text/html" = true

theorem head?_pieces (text : String) :
    (Text.pieces ';' text).head?.getD "" = .ofList (text.toList.takeWhile (· != ';')) := by
  rw [Text.pieces, List.head?_map, Text.head?_piecesOf]
  rfl

theorem isPage_iff (headers : Http.Headers) : isPage headers = true ↔ NamesPage headers := by
  rw [isPage, NamesPage]
  cases headers.first? "content-type" with
  | none => simp
  | some value =>
      rw [Option.bind_some]
      cases visible : Http.visibleText? value with
      | none => simp [visible]
      | some contentType => simp [head?_pieces, visible]

/-- No JSON text is blank. -/
theorem bytes_not_blank (tree : Tree) : tree.bytes.all isAsciiBlank = false := by
  obtain ⟨byte, more, core, starts⟩ := tree.core_eq_cons
  have solid : isAsciiBlank byte = false := by
    simp only [startsValue, isDigitByte, quoteByte, openBracket, openBrace, Bool.or_eq_true,
      beq_iff_eq, Bool.and_eq_true, decide_eq_true_eq, UInt8.le_iff_toNat_le, ← UInt8.toNat_inj,
      UInt8.toNat_ofNat, Nat.reducePow, Nat.reduceMod] at starts
    simp only [isAsciiBlank, Bool.or_eq_false_iff, beq_eq_false_iff_ne, ne_eq, ← UInt8.toNat_inj,
      UInt8.toNat_ofNat, Nat.reducePow, Nat.reduceMod]
    omega
  rw [tree.bytes_eq, core, List.all_append, List.cons_append, List.all_cons, solid,
    Bool.false_and, Bool.and_false]

/-- What the compact text of a value is decoded as, where it comes as no page. -/
theorem decode_compact {value : Value} (distinct : value.HasDistinctNames) {headers : Http.Headers}
    (noPage : ¬ NamesPage headers) (status : Nat) :
    (∀ entries, documentOf? value = some entries →
      decode status headers (Bytes.ofString value.compact) =
        .reply (.entries status (Http.statusLine status) entries)) ∧
    (documentOf? value = none → ∃ reason,
      decode status headers (Bytes.ofString value.compact) =
        .deserialization reason value.compact) := by
  have read := toOption_readWhole (reads_document (Tree.ofValue value))
  rw [ofTree?_ofValue distinct] at read
  have plain : ¬ isPage headers = true := fun page => noPage ((isPage_iff headers).mp page)
  rw [← bytes_ofValue, decode, if_neg plain, if_neg (by simp [bytes_not_blank])]
  constructor
  · intro entries document
    rw [document] at read
    cases outcome : readWhole reader (Tree.ofValue value).bytes with
    | error fault => rw [outcome] at read; cases read
    | ok given => rw [outcome] at read; cases read; rfl
  · intro document
    rw [document] at read
    cases outcome : readWhole reader (Tree.ofValue value).bytes with
    | ok given => rw [outcome] at read; cases read
    | error fault =>
        have text : Bytes.toStringLossy (Tree.ofValue value).bytes = value.compact := by
          rw [bytes_ofValue, Bytes.toStringLossy_ofString]
        exact ⟨_, congrArg (ClientError.deserialization _) text⟩

theorem decode_entries_iff {value : Value} (distinct : value.HasDistinctNames)
    {headers : Http.Headers} (noPage : ¬ NamesPage headers) (status : Nat)
    (entries : List ErrorEntry) :
    decode status headers (Bytes.ofString value.compact) =
        .reply (.entries status (Http.statusLine status) entries) ↔
      documentOf? value = some entries := by
  have decoded := decode_compact distinct noPage status
  constructor
  · intro reply
    cases document : documentOf? value with
    | none =>
        obtain ⟨reason, other⟩ := decoded.2 document
        cases other.symm.trans reply
    | some given =>
        cases (decoded.1 given document).symm.trans reply
        rfl
  · exact decoded.1 entries

theorem decode_isUnauthorized {value : Value} (distinct : value.HasDistinctNames)
    {headers : Http.Headers} (noPage : ¬ NamesPage headers) (status : Nat) :
    (decode status headers (Bytes.ofString value.compact)).isUnauthorized = true ↔
      status = Http.unauthorized ∧ (documentOf? value).isSome = true := by
  have decoded := decode_compact distinct noPage status
  cases document : documentOf? value with
  | none =>
      obtain ⟨reason, reply⟩ := decoded.2 document
      rw [reply]
      simp [ClientError.isUnauthorized, ClientError.status?]
  | some given =>
      rw [decoded.1 given document]
      simp [ClientError.isUnauthorized, ClientError.status?, ErrorReply.status]

end ErrorDocument

/-! ### What a document does to a call -/

namespace Transport

variable {World : Type}

theorem Connection.fires_of_answer {connection : Connection} {url : String}
    {cancellation : Cancellation} {delivery : Delivery} {reply : Reply}
    (answered : (connection.outcome url cancellation delivery).1 = .ok reply) :
    (connection.outcome url cancellation delivery).2 = false := by
  cases delivery with
  | answered | unreachable | broken | silent => rfl
  | abandoned => cases cancellation <;> cases answered

/-- A token does not fire while a reply comes in. -/
theorem Connection.fires_of_reply {connection : Connection} {network : Network World}
    {traffic : Traffic World} {request : Request} {session : Session} {reply : Reply}
    (answered : (connection.send network traffic request session).outcome = .ok reply) :
    (connection.send network traffic request session).fires = false := by
  cases live : request.isCancelled false with
  | true => rw [Connection.send_cancelled live]
  | false =>
      cases written : connection.message request session with
      | error error => rw [Connection.send_unwritten live written]
      | ok message =>
          rw [Connection.send_written live written] at answered ⊢
          simp only [Connection.deliver] at answered ⊢
          split at answered
          next sendable =>
            rw [if_pos sendable]
            exact Connection.fires_of_answer answered
          next unsendable => rw [if_neg unsendable]

section

variable {network : Network World} {config : ClientConfig} {request : Request}
  {run : Run (Traffic World)} {reply : Reply}

/-- A call whose first reply fails logs in just where that reply refuses the session. -/
theorem loggingIn_mem_entries (session : config.authMode = .session)
    (unfired : request.cancellation ≠ .fired)
    (answered : ((connectionOf config).send network run.world request run.session).outcome =
      .ok reply)
    (failed : Http.isSuccess reply.status = false) :
    .loggingIn ∈ ((coordinatorOf network config).execute request).entries run ↔
      (ErrorDocument.decode reply.status reply.headers reply.body).isUnauthorized = true := by
  have live : request.isCancelled false = false := by
    cases token : request.cancellation with
    | none => exact Request.isCancelled_of_none token false
    | live => exact Request.isCancelled_of_live token false
    | fired => exact absurd token unfired
  have exchange : (coordinatorOf network config).exchange request run.begun =
      ⟨.error (ErrorDocument.decode reply.status reply.headers reply.body), [], false,
        ((connectionOf config).send network run.world request run.session).traffic⟩ := by
    have silent := Connection.fires_of_reply answered
    have same : (coordinatorOf network config).exchange request run.begun =
      (connectionOf config).dispatch network run.world request run.session := rfl
    rw [same, Connection.dispatch, answered, silent]
    simp only [Except.bind, Connection.accept, failed, Bool.false_eq_true, if_false]
  have refused : ((coordinatorOf network config).exchange request run.begun).isRefused =
      (ErrorDocument.decode reply.status reply.headers reply.body).isUnauthorized := by
    rw [exchange, Exchange.isRefused]
  have entries : ((coordinatorOf network config).exchange request run.begun).entries = [] := by
    rw [exchange]
    rfl
  have course := Coordinator.execute_course (coordinatorOf network config) request run
  generalize ((coordinatorOf network config).execute request).outcome run = outcome at course
  generalize ((coordinatorOf network config).execute request).entries run = told at course ⊢
  generalize ((coordinatorOf network config).execute request).after run = after at course
  rw [← refused]
  cases course with
  | stopped cancelled => rw [live] at cancelled; cases cancelled
  | settled _ kept =>
      rcases kept with direct | kept
      · rw [coordinatorOf, session] at direct
        cases direct
      · rw [entries, kept]
        simp
  | stoppedBeforeRenewal refusal cancelled =>
      rw [refusal.fired_eq, exchange, live] at cancelled
      cases cancelled
  | reused refusal _ newer =>
      rw [Run.session, Run.session, refusal.store_eq, exchange] at newer
      exact absurd newer (Nat.lt_irrefl _)
  | loginFailed refusal => simp [refusal.refused]
  | stoppedBeforeReplay refusal => simp [refusal.refused]
  | replayed refusal => simp [refusal.refused]

end

end Transport

namespace ErrorDocument

open Json Transport

/-- Error documents are decoded exactly: into the entries of a value that is one, and into a failure
that carries the text of any other value. So a call with sessions that meets such a reply first logs
in again if and only if the reply has the status for it and a document for a body. -/
theorem decode_exact {value : Value} (distinct : value.HasDistinctNames) {headers : Http.Headers}
    (noPage : ¬ NamesPage headers) {status : Nat} (failed : Http.isSuccess status = false) :
    (∀ entries, decode status headers (Bytes.ofString value.compact) =
        .reply (.entries status (Http.statusLine status) entries) ↔
      documentOf? value = some entries) ∧
    (documentOf? value = none → ∃ reason,
      decode status headers (Bytes.ofString value.compact) =
        .deserialization reason value.compact) ∧
    ∀ {World : Type} (network : Network World) (config : ClientConfig) (request : Request)
      (run : Run (Traffic World)),
      config.authMode = .session → request.cancellation ≠ .fired →
      ((connectionOf config).send network run.world request run.session).outcome =
        .ok ⟨status, headers, Bytes.ofString value.compact⟩ →
      (.loggingIn ∈ ((coordinatorOf network config).execute request).entries run ↔
        status = Http.unauthorized ∧ (documentOf? value).isSome = true) := by
  refine ⟨decode_entries_iff distinct noPage status, (decode_compact distinct noPage status).2, ?_⟩
  intro World network config request run session unfired answered
  rw [loggingIn_mem_entries session unfired answered failed]
  exact decode_isUnauthorized distinct noPage status

/-- A document with an entry of either kind; a member that is no text is passed over. -/
def refusalDocument : Value := .object [
  ("errors", .array [
    .object [("code", .string "AEC_UNAUTHORIZED"), ("detail", .null)],
    .array [.string "AEC_NOT_FOUND", .string "id"]]),
  ("total", .number (.natural 2))]

def jsonHeaders : Http.Headers :=
  ⟨[("content-type", [Bytes.ofString "application/json; charset=utf-8"])]⟩

theorem forall_mem_pair {α : Type} {holds : α → Prop} {first second : α} (left : holds first)
    (right : holds second) : ∀ item ∈ [first, second], holds item :=
  List.forall_mem_cons.mpr ⟨left, List.forall_mem_singleton.mpr right⟩

theorem distinct_refusalDocument : refusalDocument.HasDistinctNames := by
  refine .object (by decide) (forall_mem_pair (.array (forall_mem_pair ?_ ?_)) (.number _))
  · exact .object (by decide) (forall_mem_pair (.string _) .null)
  · exact .array (forall_mem_pair (.string _) (.string _))

theorem not_namesPage_jsonHeaders : ¬ NamesPage jsonHeaders := by
  rw [← isPage_iff]
  simp only [isPage, Text.sameIgnoringCase, Text.asciiLower_eq]
  decide

/-- A cluster that answers every request with the document. -/
def refusingAll : Network Nat := fun count _ =>
  (.answered 401 jsonHeaders (Bytes.ofString refusalDocument.compact), count + 1)

def sessionConfig : ClientConfig :=
  { ClientConfig.new "http://[::1]:8080" "admin" "secret" with authMode := .session }

theorem decode_refusalDocument :
    decode 401 jsonHeaders (Bytes.ofString refusalDocument.compact) =
        .reply (.entries 401 "401 Unauthorized"
          [⟨"AEC_UNAUTHORIZED", "", ""⟩, ⟨"AEC_NOT_FOUND", "id", ""⟩]) ∧
      .loggingIn ∈ ((coordinatorOf refusingAll sessionConfig).execute (.get "/x")).entries
        (.start (.start 0)) := by
  obtain ⟨exact, _, renews⟩ := decode_exact distinct_refusalDocument not_namesPage_jsonHeaders
    (by decide : Http.isSuccess 401 = false)
  exact ⟨(exact _).mpr rfl,
    (renews refusingAll sessionConfig (.get "/x") (.start (.start 0)) rfl (by decide) rfl).mpr
      ⟨rfl, rfl⟩⟩

end ErrorDocument

end ClusterRest
