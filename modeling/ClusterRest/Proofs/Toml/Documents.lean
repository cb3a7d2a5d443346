import ClusterRest.Proofs.Toml.Values

/-!
TOML documents, written and read back. Each line that is written takes the reader from one draft to
the next, so that a document gives what adding its tables one by one gives.

Main statement: `parse?_written`.
-/

namespace ClusterRest.Toml

open Text Reader

/-! ### Lines -/

/-- The line of an entry. -/
def lineOf (entry : String × Leaf) : List Char :=
  (writtenName entry.1).toList ++ ' ' :: '=' :: ' ' :: (entry.2.written.toList ++ ['\n'])

/-- The line that opens a table. -/
def openingLine (path : List String) : List Char := '[' :: (dotted path ++ [']', '\n'])

theorem run_name (name : String) (rest : List Char) :
    Toml.name.run ((writtenName name).toList ++ ' ' :: '=' :: rest) =
      some (([], name), '=' :: rest) := by
  have ends : EndsName (' ' :: '=' :: rest) := by
    intro character first
    cases first
    decide
  have left : (' ' :: '=' :: rest).dropWhile isBlank = '=' :: rest := rfl
  have read := @run_stepsWithin (depthLimit - 1) [name] (List.cons_ne_nil _ _)
    (Nat.le_add_left 1 78) _ ends (by rw [left]; simp)
  rw [dotted_singleton, left] at read
  simp [Toml.name, steps, read]

theorem run_pair {draft next : Draft} {entry : String × Leaf} (fitting : entry.2.Fits)
    (added : draft.add [] entry.1 entry.2.toValue = some next) (rest : List Char) :
    (pair draft).run (lineOf entry ++ rest) = some (next, rest) := by
  obtain ⟨first, others, leaf_eq, solid⟩ := exists_written entry.2
  have read := run_value_leaf fitting rest
  have line_eq : lineOf entry ++ rest = (writtenName entry.1).toList ++
      ' ' :: '=' :: (' ' :: (entry.2.written.toList ++ '\n' :: rest)) := by
    simp [lineOf]
  have skipped : skipBlanks.run (' ' :: (entry.2.written.toList ++ '\n' :: rest)) =
      some ((), entry.2.written.toList ++ '\n' :: rest) := by
    have space : isBlank ' ' = true := rfl
    simp [run_skipBlanks, leaf_eq, space, solid]
  rw [line_eq]
  simp only [pair, StateT.run_bind, Option.bind_eq_bind, run_name, Option.bind_some, run_expect,
    skipped, read, run_endLine, added]
  rfl

theorem exists_startsDotted {path : List String} (filled : path ≠ []) :
    ∃ first rest, dotted path = first :: rest ∧ StartsName first := by
  obtain ⟨name, others, rfl⟩ := List.exists_cons_of_ne_nil filled
  obtain ⟨first, rest, name_eq, starts⟩ := exists_startsName name
  cases others with
  | nil => exact ⟨first, rest, (dotted_singleton name).trans name_eq, starts⟩
  | cons next others =>
      rw [dotted_cons, name_eq]
      exact ⟨first, _, rfl, starts⟩

theorem run_header {draft next : Draft} {path : List String} (filled : path ≠ [])
    (short : path.length < depthLimit) (opened : draft.openTable path = some next)
    (rest : List Char) :
    (header draft).run (dotted path ++ ']' :: '\n' :: rest) = some (next, rest) := by
  have single : (dotted path ++ ']' :: '\n' :: rest).head? ≠ some '[' := by
    obtain ⟨first, others, path_eq, starts⟩ := exists_startsDotted filled
    rw [path_eq]
    exact fun same => starts.ne rfl (by decide) (by decide) (Option.some.inj same)
  have ends : EndsName (']' :: '\n' :: rest) := by
    intro character first
    cases first
    decide
  have left : (']' :: '\n' :: rest).dropWhile isBlank = ']' :: '\n' :: rest := rfl
  have read := @run_stepsWithin (depthLimit - 1) _ filled (Nat.le_sub_one_of_lt short) _ ends
    (by rw [left]; simp)
  rw [left] at read
  simp only [header, StateT.run_bind, Option.bind_eq_bind, run_take_other single, Option.bind_some,
    steps, read, run_expect, Bool.false_eq_true, if_false, run_endLine, opened, StateT.run_pure]
  rfl

/-- Reading a document goes on from one place and draft to another. -/
def Advances (text : List Char) (draft : Draft) (rest : List Char) (next : Draft) : Prop :=
  ∀ fuel, text.length < fuel → ∃ fewer, rest.length < fewer ∧
    (lines fuel draft).run text = (lines fewer next).run rest

namespace Advances

variable {text middle rest : List Char} {draft between next : Draft}

theorem refl (text : List Char) (draft : Draft) : Advances text draft text draft :=
  fun fuel fueled => ⟨fuel, fueled, rfl⟩

theorem trans (first : Advances text draft middle between)
    (second : Advances middle between rest next) : Advances text draft rest next := by
  intro fuel fueled
  obtain ⟨fewer, left, lines_eq⟩ := first fuel fueled
  obtain ⟨fewest, leftover, others_eq⟩ := second fewer left
  exact ⟨fewest, leftover, lines_eq.trans others_eq⟩

/-- A line takes one unit of fuel and one character at least. -/
theorem line {character : Char} (shorter : rest.length ≤ text.length)
    (read : ∀ fuel, (lines (fuel + 1) draft).run (character :: text) = (lines fuel next).run rest) :
    Advances (character :: text) draft rest next := by
  intro fuel fueled
  obtain ⟨fewer, rfl⟩ := Nat.exists_eq_add_one_of_ne_zero (Nat.ne_zero_of_lt fueled)
  rw [List.length_cons] at fueled
  exact ⟨fewer, by omega, read fewer⟩

theorem blank (rest : List Char) (draft : Draft) : Advances ('\n' :: rest) draft rest draft := by
  refine line (Nat.le_refl _) fun fuel => ?_
  have unblank : isBlank '\n' = false := rfl
  simp [lines, run_skipBlanks, run_peek, unblank, run_endLine]

theorem pair {entry : String × Leaf} (fitting : entry.2.Fits)
    (added : draft.add [] entry.1 entry.2.toValue = some next) (rest : List Char) :
    Advances (lineOf entry ++ rest) draft rest next := by
  have read := run_pair fitting added rest
  obtain ⟨first, others, name_eq, starts⟩ := exists_startsName entry.1
  obtain ⟨text, line_eq⟩ : ∃ text, lineOf entry = first :: text := by
    rw [lineOf, name_eq]
    exact ⟨_, rfl⟩
  rw [line_eq, List.cons_append] at read ⊢
  refine line (by simp) fun fuel => ?_
  have unmarked : first ≠ '#' ∧ first ≠ '\n' ∧ first ≠ '\r' ∧ first ≠ '[' :=
    ⟨starts.ne rfl (by decide) (by decide), starts.ne rfl (by decide) (by decide),
      starts.ne rfl (by decide) (by decide), starts.ne rfl (by decide) (by decide)⟩
  simp [lines, run_skipBlanks, run_peek, starts.isBlank_eq, unmarked, read]

theorem header {path : List String} (filled : path ≠ [])
    (short : path.length < depthLimit) (opened : draft.openTable path = some next)
    (rest : List Char) : Advances (openingLine path ++ rest) draft rest next := by
  have read := run_header filled short opened rest
  have line_eq : openingLine path ++ rest = '[' :: (dotted path ++ ']' :: '\n' :: rest) := by
    simp [openingLine]
  rw [line_eq]
  refine line (by simp; omega) fun fuel => ?_
  have unblank : isBlank '[' = false := rfl
  simp [lines, run_skipBlanks, run_peek, unblank, run_expect, read]

end Advances

/-! ### Documents -/

/-- Adds the entry of a written table. -/
def Draft.addEntry (draft : Draft) (entry : String × Leaf) : Option Draft :=
  draft.add [] entry.1 entry.2.toValue

/-- Adds a written table: its header, if it has one, and its entries. -/
def Draft.addSection (draft : Draft) (table : Section) : Option Draft :=
  (if table.path.isEmpty then some draft else draft.openTable table.path).bind
    (table.entries.foldlM addEntry)

/-- Written tables that can be read back. -/
structure Section.IsReadable (table : Section) : Prop where
  short : table.path.length < depthLimit
  fitting : ∀ entry ∈ table.entries, entry.2.Fits

/-- The lines of a written table. -/
def Section.chars (table : Section) : List Char :=
  (if table.path.isEmpty then [] else openingLine table.path) ++ table.entries.flatMap lineOf

theorem toList_lines (entries : List (String × Leaf)) :
    (String.join (entries.map fun (name, leaf) =>
      writtenName name ++ " = " ++ leaf.written ++ "\n")).toList = entries.flatMap lineOf := by
  rw [String.toList_join, List.flatMap_map]
  refine congrArg (List.flatMap · entries) (funext fun entry => ?_)
  simp [lineOf]

theorem toList_written (table : Section) : table.written.toList = table.chars := by
  obtain ⟨path, entries⟩ := table
  rw [Section.written, String.toList_append, toList_lines, Section.chars]
  cases path with
  | nil => rfl
  | cons name path => simp [headerLine, openingLine, dotted]

theorem advances_entries {entries : List (String × Leaf)}
    (fitting : ∀ entry ∈ entries, entry.2.Fits) {draft next : Draft}
    (added : entries.foldlM Draft.addEntry draft = some next) (rest : List Char) :
    Advances (entries.flatMap lineOf ++ rest) draft rest next := by
  induction entries generalizing draft with
  | nil =>
      cases added
      exact .refl _ _
  | cons entry entries ih =>
      rw [List.foldlM_cons] at added
      obtain ⟨between, first, others⟩ := Option.bind_eq_some_iff.mp added
      rw [List.flatMap_cons, List.append_assoc]
      exact (Advances.pair (fitting entry List.mem_cons_self) first _).trans
        (ih (fun entry member => fitting entry (List.mem_cons_of_mem _ member)) others)

theorem advances_section {table : Section} (readable : table.IsReadable) {draft next : Draft}
    (added : draft.addSection table = some next) (rest : List Char) :
    Advances (table.chars ++ rest) draft rest next := by
  obtain ⟨opened, header, entries⟩ := Option.bind_eq_some_iff.mp added
  have lines := advances_entries readable.fitting entries rest
  rw [Section.chars, List.append_assoc]
  by_cases rooted : table.path.isEmpty = true
  · rw [if_pos rooted] at header ⊢
    cases header
    exact lines
  · rw [if_neg rooted] at header ⊢
    have filled : table.path ≠ [] := by simpa using rooted
    exact (Advances.header filled readable.short header _).trans lines

/-- The lines of a document, with a blank one between tables. -/
def documentChars : List Section → List Char
  | [] => []
  | [table] => table.chars
  | table :: next :: tables => table.chars ++ '\n' :: documentChars (next :: tables)

theorem toList_document (tables : List Section) :
    (written tables).toList = documentChars tables := by
  induction tables with
  | nil => rfl
  | cons table tables ih =>
      cases tables with
      | nil => simp [written, documentChars, toList_written]
      | cons next tables =>
          rw [documentChars, ← ih]
          simp [written, String.intercalate_cons_cons, toList_written]

theorem advances_document {tables : List Section}
    (readable : ∀ table ∈ tables, table.IsReadable) {draft next : Draft}
    (added : tables.foldlM Draft.addSection draft = some next) :
    Advances (documentChars tables) draft [] next := by
  induction tables generalizing draft with
  | nil =>
      cases added
      exact .refl _ _
  | cons table tables ih =>
      rw [List.foldlM_cons] at added
      obtain ⟨between, first, others⟩ := Option.bind_eq_some_iff.mp added
      obtain ⟨firstReadable, othersReadable⟩ := List.forall_mem_cons.mp readable
      cases tables with
      | nil =>
          cases others
          have lines := advances_section firstReadable first []
          rwa [List.append_nil] at lines
      | cons next tables =>
          have lines :=
            advances_section firstReadable first ('\n' :: documentChars (next :: tables))
          exact lines.trans ((Advances.blank _ _).trans (ih othersReadable others))

theorem head?_section (table : Section) : table.chars.head? ≠ some '\ufeff' := by
  rw [Section.chars]
  by_cases rooted : table.path.isEmpty = true
  · rw [if_pos rooted, List.nil_append]
    cases table.entries with
    | nil => simp
    | cons entry entries =>
        obtain ⟨first, rest, name_eq, starts⟩ := exists_startsName entry.1
        rw [List.flatMap_cons, lineOf, name_eq]
        exact fun same => starts.ne rfl (by decide) (by decide) (Option.some.inj same)
  · rw [if_neg rooted, openingLine]
    simp

theorem head?_document (tables : List Section) :
    (documentChars tables).head? ≠ some '\ufeff' := by
  match tables with
  | [] => simp [documentChars]
  | [table] => exact head?_section table
  | table :: next :: tables =>
      rw [documentChars]
      cases chars_eq : table.chars with
      | nil => simp
      | cons first rest =>
          have start := head?_section table
          rwa [chars_eq] at start

theorem dropByteOrderMark_document (tables : List Section) :
    dropByteOrderMark (documentChars tables) = documentChars tables := by
  have start := head?_document tables
  rw [dropByteOrderMark]
  intro rest marked
  rw [marked] at start
  exact start rfl

/-- A document is read back as its tables are added one by one. -/
theorem parse?_written {tables : List Section} (readable : ∀ table ∈ tables, table.IsReadable)
    {draft : Draft} (added : tables.foldlM Draft.addSection .empty = some draft) :
    parse? (written tables) = draft.finish.map membersOf := by
  obtain ⟨fewer, fueled, lines_eq⟩ := advances_document readable added
    ((documentChars tables).length + 1) (Nat.lt_succ_self _)
  obtain ⟨fewer, rfl⟩ := Nat.exists_eq_add_one_of_ne_zero (Nat.ne_zero_of_lt fueled)
  have read : (lines (fewer + 1) draft).run [] = some (draft, []) := by
    simp [lines, run_skipBlanks, run_peek]
  rw [read] at lines_eq
  simp only [parse?, toList_document, dropByteOrderMark_document, lines_eq, Option.bind_eq_bind,
    Option.bind_some]
  cases draft.finish <;> rfl

end ClusterRest.Toml
