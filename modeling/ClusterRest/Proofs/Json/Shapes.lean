import ClusterRest.Proofs.Json.Values
import ClusterRest.Proofs.Json.Writing

/-! Reading values of a given shape: texts, lists that end after so many elements, and members. -/

namespace ClusterRest.Json

theorem mapM_congr {α β : Type} {first second : α → Option β} {items : List α}
    (agree : ∀ item ∈ items, first item = second item) : items.mapM first = items.mapM second := by
  induction items with
  | nil => rfl
  | cons item rest ih =>
      rw [List.mapM_cons, List.mapM_cons, agree item List.mem_cons_self,
        ih fun other member => agree other (List.mem_cons_of_mem item member)]

theorem result?_bind_none {α β : Type} {reader : Reader α} {next : α → Reader β}
    (fails : ∀ value text, result? (next value) text = none) (text : Bytes) :
    result? (reader >>= next) text = none := by
  rw [result?_bind]
  cases result? reader text with
  | none => rfl
  | some taken => exact fails taken.1 taken.2

theorem result?_failType {α : Type} (expected : String) (text : Bytes) :
    result? (failType expected : Reader α) text = none := by
  refine result?_bind_none (fun first text => ?_) text
  refine result?_bind_none (fun scalar text => ?_) text
  split <;> exact result?_bind_none (fun _ _ => rfl) _

theorem result?_failWhole {α : Type} (close : UInt8) (cause : Cause) (text : Bytes) :
    result? (failWhole close cause : Reader α) text = none := by
  refine result?_bind_none (fun next text => ?_) text
  split
  · exact result?_bind_none (fun _ _ => rfl) _
  · rfl

/-- The text of a string. -/
def Value.text? : Value → Option String
  | .string text => some text
  | _ => none

/-- The text of a string that stands alone. -/
def Tree.string? : Tree → Option String
  | .scalar _ (.string pieces) _ => Json.string? pieces
  | _ => none

theorem string?_ofValue (value : Value) : (Tree.ofValue value).string? = value.text? := by
  cases value with
  | string text => exact string?_writtenPieces text
  | null | bool | number | array | object => rfl

/-- Where a value does not begin with a quote, no text is read. -/
theorem result?_text_other (blanks : Blanks) {byte : UInt8} (solid : isSpace byte = false)
    (other : (byte == quoteByte) = false) (rest : Bytes) :
    result? text (blankBytes blanks ++ byte :: rest) = none := by
  rw [text, result?_bind, result?_peekValue blanks solid, Option.bind_some]
  simp only [other, Bool.false_eq_true, if_false, result?_failType]

theorem reads_text (tree : Tree) : Reads text tree tree.string? := by
  intro blanks rest ends
  cases tree with
  | scalar before written after =>
      cases written with
      | null => exact result?_text_other blanks rfl rfl _
      | bool truth => cases truth <;> exact result?_text_other blanks rfl rfl _
      | number numeral =>
          obtain ⟨digit, more, tail⟩ := numeral.tailBytes_eq_cons
          have others : ∀ digit : Digit, isSpace digit.byte = false ∧
            (digit.byte == quoteByte) = false := by decide
          rw [Tree.core, Scalar.chars, numeral.bytes_eq, tail]
          cases numeral.isNegative with
          | true => exact result?_text_other blanks rfl rfl _
          | false => exact result?_text_other blanks (others digit).1 (others digit).2 _
      | string pieces =>
          have read := result?_stringTail pieces rest
          rw [Tree.core, Scalar.chars, literalBytes_eq, literalBytes, List.cons_append,
            List.append_assoc, List.singleton_append, text, result?_bind,
            result?_peekValue blanks (by decide), Option.bind_some]
          simp only [beq_self_eq_true, if_true, result?_bind, result?_skipByte, Option.bind_some,
            List.drop_succ_cons, List.drop_zero, read, Tree.string?]
  | array before inner elements after => exact result?_text_other blanks (by decide) (by decide) _
  | object before inner members after => exact result?_text_other blanks (by decide) (by decide) _

/-! ### Lists element by element -/

theorem elementBytes_nil (isFirst : Bool) : elementBytes isFirst [] = [] := by
  cases isFirst <;> rfl

theorem result?_element?_end {α : Type} (reader : Reader α) (isFirst : Bool) (blanks : Blanks)
    (rest : Bytes) :
    result? (element? reader isFirst)
        (blankBytes blanks ++ (elementBytes isFirst [] ++ closeBracket :: rest)) =
      some (none, closeBracket :: rest) := by
  rw [elementBytes_nil, List.nil_append, element?, result?_bind, result?_nextElement_end]
  rfl

theorem result?_element? {α : Type} {reader : Reader α} {element : Tree} {value : Option α}
    (reads : Reads reader element value) (isFirst : Bool) (blanks : Blanks) (more : List Tree)
    (rest : Bytes) :
    result? (element? reader isFirst)
        (blankBytes blanks ++ (elementBytes isFirst (element :: more) ++ closeBracket :: rest)) =
      value.map (some ·,
        blankBytes element.after ++ (elementBytes false more ++ closeBracket :: rest)) := by
  have read := reads [] _ ((endsNumber_elements more rest).blankBytes element.after)
  rw [show blankBytes [] = [] from rfl, List.nil_append] at read
  rw [elementBytes_cons, List.append_assoc, List.append_assoc, element?, result?_bind,
    result?_nextElement, Option.bind_some, if_pos rfl, result?_bind, read]
  cases value <;> rfl

theorem result?_closeList_end (blanks : Blanks) (rest : Bytes) :
    result? closeList (blankBytes blanks ++ closeBracket :: rest) = some ((), rest) := by
  rw [closeList, result?_bind, result?_peek blanks (by decide)]
  rfl

theorem result?_closeList_other (blanks : Blanks) {byte : UInt8} (solid : isSpace byte = false)
    (other : (byte == closeBracket) = false) (rest : Bytes) :
    result? closeList (blankBytes blanks ++ byte :: rest) = none := by
  rw [closeList, result?_bind, result?_peek blanks solid, Option.bind_some]
  simp only [other, Bool.false_eq_true, if_false, result?_ite, result?_failNext]
  split
  · refine result?_bind_none (fun _ text => ?_) _
    refine result?_bind_none (fun next text => ?_) text
    split <;> rfl
  · rfl

/-- A list ends where no element is left. -/
theorem result?_closeList (isFirst : Bool) (blanks : Blanks) (elements : List Tree)
    (rest : Bytes) :
    result? closeList
        (blankBytes blanks ++ (elementBytes isFirst elements ++ closeBracket :: rest)) =
      if elements.isEmpty then some ((), rest) else none := by
  cases elements with
  | nil =>
      rw [elementBytes_nil, List.nil_append, result?_closeList_end]
      rfl
  | cons element more =>
      obtain ⟨byte, after, core, starts⟩ := element.core_eq_cons
      obtain ⟨solid, bracket, _⟩ := startsValue_solid starts
      rw [elementBytes_cons, List.append_assoc, List.append_assoc, List.isEmpty_cons,
        if_neg Bool.false_ne_true]
      cases isFirst with
      | true =>
          rw [if_pos rfl, List.nil_append, blankBytes_append_bytes, core, List.cons_append]
          exact result?_closeList_other _ solid bracket _
      | false => exact result?_closeList_other blanks (by decide) (by decide) _

/-! ### Members -/

theorem ReadsMember.map {α β : Type} {reader : Reader α} {tree : Tree} {value : Option α}
    (reads : ReadsMember reader tree value) (use : α → β) :
    ReadsMember (do return use (← reader)) tree (value.map use) := by
  intro blanks rest ends
  rw [result?_bind, reads blanks rest ends]
  cases value <;> rfl

theorem readsMember_skip {α : Type} (value : α) (tree : Tree) :
    ReadsMember (do passColon; skipValue; return value) tree (some value) :=
  (skips_value tree).member fun _ => value

end ClusterRest.Json
