import ClusterRest.Dump
import ClusterRest.Proofs.Json.Values
import ClusterRest.Proofs.Json.Writing
import ClusterRest.Proofs.Text

/-!
What the text of a dumped body tells about the passwords in it. A grammatical JSON text that the
reader has a value for is shown as if its passwords were empty. One that it has no value for, since
a number is out of range, a surrogate alone or the nesting too deep, is shown as it is.
-/

namespace ClusterRest.Json

open Dump

/-! ### Texts without their passwords -/

/-- A name that reads as that of a secret member. -/
def Name.isSecret (name : Name) : Bool := (string? name.pieces).any isSecretMember

/-- A string literal without its contents. -/
def Tree.conceal : Tree → Tree
  | .scalar before (.string _) after => .scalar before (.string []) after
  | tree => tree

mutual

/-- A text whose string literals under secret names are empty, at any depth. -/
def Tree.blind : Tree → Tree
  | .scalar before written after => .scalar before written after
  | .array before inner elements after => .array before inner (blindElements elements) after
  | .object before inner members after => .object before inner (blindMembers members) after

def blindElements : List Tree → List Tree
  | [] => []
  | tree :: rest => tree.blind :: blindElements rest

def blindMembers : List (Name × Tree) → List (Name × Tree)
  | [] => []
  | (name, tree) :: rest =>
    (name, if name.isSecret then tree.blind.conceal else tree.blind) :: blindMembers rest

end

/-! ### Masking -/

theorem redactElements_eq (elements : List Value) :
    redactElements elements = elements.map redactValue := by
  induction elements with
  | nil => rfl
  | cons element rest ih => rw [redactElements, ih, List.map_cons]

/-- What masking makes of the value of a member. -/
def redactNamed (name : String) (value : Value) : Value :=
  if isSecretMember name then .string mask else redactValue value

theorem redactMembers_eq (members : Members) :
    redactMembers members = members.map fun (name, value) => (name, redactNamed name value) := by
  induction members with
  | nil => rfl
  | cons first rest ih =>
      rw [redactMembers, ih, List.map_cons]
      rfl

/-- A member that takes its place among others is masked there as it is alone. -/
theorem redactMembers_insertMember (name : String) (value : Value) (sorted : Members) :
    redactMembers (insertMember name value sorted) =
      insertMember name (redactNamed name value) (redactMembers sorted) := by
  induction sorted with
  | nil => rfl
  | cons first rest ih =>
      obtain ⟨other, present⟩ := first
      rw [insertMember, redactMembers, insertMember]
      split
      · rfl
      · split
        · rfl
        · rw [redactMembers, ih]

theorem redactMembers_foldl (members sorted : Members) :
    redactMembers (members.foldl (fun sorted (name, value) => insertMember name value sorted)
        sorted) =
      (members.map fun (name, value) => (name, redactNamed name value)).foldl
        (fun sorted (name, value) => insertMember name value sorted) (redactMembers sorted) := by
  induction members generalizing sorted with
  | nil => rfl
  | cons first rest ih =>
      rw [List.foldl_cons, ih, redactMembers_insertMember, List.map_cons, List.foldl_cons]

theorem redactValue_ofMembers (members : Members) :
    redactValue (ofMembers members) =
      ofMembers (members.map fun (name, value) => (name, redactNamed name value)) :=
  congrArg Value.object (redactMembers_foldl members [])

/-! ### The masked value -/

/-- The value of a text, masked. -/
def Tree.masked? (tree : Tree) : Option Value := tree.value?.map redactValue

/-- A member as masking leaves it: of a secret one, only that it has a value. -/
def maskedMember? (named : Name × Tree) : Option (String × Value) :=
  (memberValue? Tree.value? named).map fun (name, value) => (name, redactNamed name value)

theorem map_mapM {α β γ : Type} (read? : α → Option β) (use : β → γ) (items : List α) :
    (items.mapM read?).map (List.map use) = items.mapM fun item => (read? item).map use := by
  induction items with
  | nil => rfl
  | cons item rest ih =>
      rw [List.mapM_cons, List.mapM_cons, ← ih]
      cases read? item with
      | none => rfl
      | some first => cases rest.mapM read? <;> rfl

theorem masked?_array (before inner : Blanks) (elements : List Tree) (after : Blanks) :
    (Tree.array before inner elements after).masked? =
      (elements.mapM Tree.masked?).map .array := by
  have each : elements.mapM Tree.masked? = (elements.mapM Tree.value?).map (List.map redactValue) :=
    (map_mapM _ _ _).symm
  rw [Tree.masked?, Tree.value?, elementValues?_eq, each, Option.map_map, Option.map_map]
  exact congrArg (Option.map · _) (funext fun values => by
    rw [Function.comp_apply, redactValue, redactElements_eq]
    rfl)

theorem masked?_object (before inner : Blanks) (members : List (Name × Tree)) (after : Blanks) :
    (Tree.object before inner members after).masked? =
      (members.mapM maskedMember?).map ofMembers := by
  have each : members.mapM maskedMember? = (members.mapM (memberValue? Tree.value?)).map
      (List.map fun (name, value) => (name, redactNamed name value)) :=
    (map_mapM _ _ _).symm
  rw [Tree.masked?, Tree.value?, memberValues?_eq, each, Option.map_map, Option.map_map]
  exact congrArg (Option.map · _) (funext redactValue_ofMembers)

/-- Readers that agree on each item that the one reads agree on a list that it reads. -/
theorem mapM_congr_of_isSome {α β : Type} {first second : α → Option β} {items : List α}
    (agree : ∀ item ∈ items, (first item).isSome = true → second item = first item)
    (read : (items.mapM first).isSome = true) : items.mapM second = items.mapM first := by
  induction items with
  | nil => rfl
  | cons item rest ih =>
      rw [List.mapM_cons] at read ⊢
      cases given : first item with
      | none =>
          rw [given] at read
          cases read
      | some value =>
          have others : (rest.mapM first).isSome = true := by
            rw [given] at read
            cases more : rest.mapM first with
            | none => rw [more] at read; cases read
            | some values => rfl
          rw [List.mapM_cons, agree item List.mem_cons_self (by rw [given]; rfl), given,
            ih (fun other member => agree other (List.mem_cons_of_mem item member)) others]

/-! ### Passwords do not matter -/

theorem isSome_masked? (tree : Tree) : tree.masked?.isSome = tree.value?.isSome :=
  Option.isSome_map

theorem isSome_conceal {tree : Tree} (read : tree.value?.isSome = true) :
    tree.conceal.value?.isSome = true := by
  cases tree with
  | scalar before written after =>
      cases written with
      | string pieces => rfl
      | null | bool | number => exact read
  | array before inner elements after => exact read
  | object before inner members after => exact read

theorem maskedMember?_eq {name : Name} {text : String} (reads : string? name.pieces = some text)
    (tree : Tree) :
    maskedMember? (name, tree) = tree.value?.map fun value => (text, redactNamed text value) := by
  rw [maskedMember?, memberValue?, reads, Option.bind_some, Option.map_map]
  rfl

theorem maskedMember?_blind {name : Name} {tree : Tree}
    (agree : tree.masked?.isSome = true → tree.blind.masked? = tree.masked?)
    (read : (maskedMember? (name, tree)).isSome = true) :
    maskedMember? (name, if name.isSecret then tree.blind.conceal else tree.blind) =
      maskedMember? (name, tree) := by
  cases reads : string? name.pieces with
  | none =>
      rw [maskedMember?, memberValue?, reads] at read
      cases read
  | some text =>
      have isSecret : name.isSecret = isSecretMember text := by
        rw [Name.isSecret, reads, Option.any_some]
      rw [maskedMember?_eq reads, Option.isSome_map] at read
      have agree := agree (by rw [isSome_masked?, read])
      rw [maskedMember?_eq reads, maskedMember?_eq reads, isSecret]
      cases secret : isSecretMember text with
      | true =>
          have blinded : tree.blind.conceal.value?.isSome = true :=
            isSome_conceal (by rw [← isSome_masked?, agree, isSome_masked?, read])
          obtain ⟨value, given⟩ := Option.isSome_iff_exists.mp read
          obtain ⟨shown, concealed⟩ := Option.isSome_iff_exists.mp blinded
          simp only [if_true, given, concealed, Option.map_some, redactNamed, secret]
      | false =>
          have whole := congrArg (Option.map (text, ·)) agree
          rw [Tree.masked?, Tree.masked?, Option.map_map, Option.map_map] at whole
          simpa only [if_false, Bool.false_eq_true, redactNamed, secret, Function.comp_def]
            using whole

theorem blindElements_eq (elements : List Tree) :
    blindElements elements = elements.map Tree.blind := by
  induction elements with
  | nil => rfl
  | cons tree rest ih => rw [blindElements, ih, List.map_cons]

theorem blindMembers_eq (members : List (Name × Tree)) :
    blindMembers members = members.map fun (name, tree) =>
      (name, if name.isSecret then tree.blind.conceal else tree.blind) := by
  induction members with
  | nil => rfl
  | cons named rest ih => rw [blindMembers, ih, List.map_cons]

/-- A readable text has the masked value of its text without passwords. -/
theorem masked?_blind (tree : Tree) (read : tree.masked?.isSome = true) :
    tree.blind.masked? = tree.masked? := by
  induction tree with
  | scalar before written after => rfl
  | array before inner elements after ih =>
      rw [masked?_array, Option.isSome_map] at read
      rw [Tree.blind, masked?_array, masked?_array, blindElements_eq, List.mapM_map]
      exact congrArg (Option.map Value.array) (mapM_congr_of_isSome ih read)
  | object before inner members after ih =>
      rw [masked?_object, Option.isSome_map] at read
      rw [Tree.blind, masked?_object, masked?_object, blindMembers_eq, List.mapM_map]
      exact congrArg (Option.map ofMembers) (mapM_congr_of_isSome
        (fun named member => maskedMember?_blind (ih named member)) read)

/-! ### Dumped bodies -/

theorem redactBody_of_readable {tree : Tree} (readable : tree.IsReadable) :
    ∃ value, tree.masked? = some value ∧ redactBody tree.bytes = value.compact := by
  obtain ⟨value, parsed, given⟩ := parse_of_readable readable
  refine ⟨redactValue value, by rw [Tree.masked?, given]; rfl, ?_⟩
  rw [redactBody, parsed]

theorem redactBody_of_not_readable {tree : Tree} (unreadable : ¬ tree.IsReadable) :
    redactBody tree.bytes = tree.text := by
  obtain ⟨fault, failed⟩ := parse_of_not_readable unreadable
  rw [redactBody, failed, Tree.bytes, Bytes.toString?_ofChars]
  rfl

theorem redactBody_alike {first second : Tree} (alike : first.blind = second.blind)
    (readable : first.IsReadable) (readable' : second.IsReadable) :
    redactBody first.bytes = redactBody second.bytes := by
  obtain ⟨value, masked, shown⟩ := redactBody_of_readable readable
  obtain ⟨value', masked', shown'⟩ := redactBody_of_readable readable'
  have same : first.masked? = second.masked? := by
    rw [← masked?_blind first (by rw [masked]; rfl), alike,
      masked?_blind second (by rw [masked']; rfl)]
  rw [masked, masked', Option.some.injEq] at same
  rw [shown, shown', same]

/-- Of two texts that differ only in passwords, a dump tells no difference where both have a value.
Where the first has none, the dump is the text itself. -/
theorem redactBody_blind (first second : Tree) (alike : first.blind = second.blind) :
    (first.IsReadable → second.IsReadable →
      redactBody first.bytes = redactBody second.bytes) ∧
    (¬ first.IsReadable → redactBody first.bytes = first.text) :=
  ⟨redactBody_alike alike, redactBody_of_not_readable⟩

/-- A list with one object, of a password and a size. -/
def credentials (password : String) (size : Numeral) : Tree :=
  .array [] [.space] [.object [.tab] [] [
    (writtenName "PassWord", .scalar [] (.string (writtenPieces password)) []),
    (writtenName "size", .scalar [.space] (.number size) [])] [.lineFeed]] []

/-- One, to the power of ten that some digits write. -/
def oneTo (power : Digits) : Numeral :=
  ⟨false, .positive 1 (by decide) [], none, some ⟨false, .none, power⟩⟩

theorem isSecret_writtenName (name : String) :
    (writtenName name).isSecret = isSecretMember name := by
  rw [Name.isSecret, writtenName, string?_writtenPieces, Option.any_some]

theorem blind_credentials (password : String) (size : Numeral) :
    (credentials password size).blind = (credentials "" size).blind := by
  have secret : isSecretMember "PassWord" = true := by
    rw [isSecretMember, Text.sameIgnoringCase, Text.asciiLower_eq, Text.asciiLower_eq]
    decide
  simp only [credentials, Tree.blind, blindElements, blindMembers, isSecret_writtenName, secret,
    if_true, Tree.conceal]

theorem redactBody_credentials :
    (credentials "hunter2" (oneTo ⟨9, []⟩)).blind = (credentials "\"\\" (oneTo ⟨9, []⟩)).blind ∧
      redactBody (credentials "hunter2" (oneTo ⟨9, []⟩)).bytes =
        redactBody (credentials "\"\\" (oneTo ⟨9, []⟩)).bytes :=
  have alike := (blind_credentials "hunter2" _).trans (blind_credentials "\"\\" _).symm
  ⟨alike, (redactBody_blind _ _ alike).1 (by decide) (by decide)⟩

/-- A number out of range beside it lets a password through. -/
theorem redactBody_shows_password :
    (credentials "hunter2" (oneTo ⟨9, [9, 9]⟩)).blind =
        (credentials "swordfish" (oneTo ⟨9, [9, 9]⟩)).blind ∧
      redactBody (credentials "hunter2" (oneTo ⟨9, [9, 9]⟩)).bytes ≠
        redactBody (credentials "swordfish" (oneTo ⟨9, [9, 9]⟩)).bytes := by
  have alike := (blind_credentials "hunter2" (oneTo ⟨9, [9, 9]⟩)).trans
    (blind_credentials "swordfish" _).symm
  refine ⟨alike, ?_⟩
  rw [redactBody_of_not_readable (by decide), redactBody_of_not_readable (by decide)]
  decide

end ClusterRest.Json
