import Statechart.Dot.Basic

/-
  This file states that a dot document shows which
  statements it was written from, whatever the names in them
  are. Every written name, and every line, ends in a way
  that does not depend on what follows, so a document can be
  taken apart line by line.

  Key definitions include:
    * `readEscaped?`
    * `SelfDelimiting`

  Key theorems include:
    * `readEscaped?_escape`
    * `selfDelimiting_quote`
    * `Statement.selfDelimiting_line`
    * `document_injective`
-/

namespace Statechart

namespace Dot

------------------------------------------------------------
-- Reading Names
------------------------------------------------------------

/-
  Read an escaped text up to the first bare quotation mark,
  and give the characters after the mark as well.
-/
def readEscaped? :
    List Char → Option (List Char × List Char)
  | [] => none
  | '"' :: rest => some ([], rest)
  | '\\' :: c :: rest =>
      (readEscaped? rest).map fun (name, after) =>
        (c :: name, after)
  | c :: rest =>
      (readEscaped? rest).map fun (name, after) =>
        (c :: name, after)

/- An escaped text is read to its end and no further. -/
theorem readEscaped?_escape
    (text rest : List Char) :
    readEscaped? (escape text ++ '"' :: rest) =
      some (text, rest) := by
  induction text with
  | nil => rfl
  | cons c text ih =>
      by_cases hMark : c = '"' ∨ c = '\\'
      · simp [escape, hMark, readEscaped?, ih]
      · rw [not_or] at hMark
        simp [escape, hMark, readEscaped?, ih]

------------------------------------------------------------
-- Self-Delimiting Texts
------------------------------------------------------------

/-
  The texts that values are written in are self-delimiting
  if, whatever follows, the value and what follows it can
  both be told from the characters.
-/
def SelfDelimiting
    {α : Type}
    (write : α → String) : Prop :=
  ∀ v w rest rest',
    (write v).toList ++ rest = (write w).toList ++ rest' →
      v = w ∧ rest = rest'

theorem selfDelimiting_quote : SelfDelimiting quote := by
  intro v w rest rest' hEq
  have hEscaped :
      escape v.toList ++ '"' :: rest =
        escape w.toList ++ '"' :: rest' := by
    simpa [quote] using hEq
  have hRead := congrArg readEscaped? hEscaped
  rw [readEscaped?_escape, readEscaped?_escape,
    Option.some.injEq, Prod.mk.injEq] at hRead
  exact ⟨String.toList_inj.mp hRead.1, hRead.2⟩

/- A direction is told by its code. -/
theorem Direction.ofCode?_code
    (d : Direction) :
    ofCode? d.code = some d := by
  cases d <;> decide

/- All codes of directions are equally long. -/
theorem selfDelimiting_code :
    SelfDelimiting Direction.code := by
  intro v w rest rest' hEq
  have hLength :
      ∀ d : Direction, d.code.toList.length = 2 := by
    intro d
    cases d <;> rfl
  rcases List.append_inj hEq
      ((hLength v).trans (hLength w).symm) with
    ⟨hChars, hRest⟩
  have hCodes : v.code = w.code :=
    String.toList_inj.mp hChars
  have hRead : some v = some w := by
    rw [← v.ofCode?_code, hCodes, w.ofCode?_code]
  exact ⟨Option.some.inj hRead, hRest⟩

------------------------------------------------------------
-- Lines
------------------------------------------------------------

namespace Statement

/-
  What follows the name of a state in the line of its node,
  and what follows the source in the line of an edge.
-/
def nodeTail
    (state : String)
    (highlighted : Bool) : String :=
  " [label=" ++ quote state ++
    (if highlighted then ", peripheries=2" else "") ++ "]\n"

def edgeTail
    (ends : String × String) : String :=
  " -> " ++ quote ends.1 ++ " [label=" ++
    quote ends.2 ++ "]\n"

theorem toList_line_node
    (state : String)
    (highlighted : Bool) :
    (node state highlighted).line.toList =
      '\t' :: (quote state).toList ++
        (nodeTail state highlighted).toList := by
  simp [line, text, nodeTail]

theorem toList_line_edge
    (source destination label : String) :
    (edge source destination label).line.toList =
      '\t' :: (quote source).toList ++
        (edgeTail (destination, label)).toList := by
  simp [line, text, edgeTail]

theorem selfDelimiting_nodeTail
    (state : String) :
    SelfDelimiting (nodeTail state) := by
  intro v w rest rest' hEq
  have hBorder :
      (if v then ", peripheries=2" else "").toList ++
          ']' :: '\n' :: rest =
        (if w then ", peripheries=2" else "").toList ++
          ']' :: '\n' :: rest' := by
    simpa [nodeTail] using hEq
  cases v <;> cases w <;> simp_all

theorem selfDelimiting_edgeTail :
    SelfDelimiting edgeTail := by
  rintro ⟨destination, label⟩ ⟨destination', label'⟩ rest
    rest' hEq
  simp only [edgeTail, String.toList_append,
    List.append_assoc] at hEq
  rcases selfDelimiting_quote _ _ _ _
      (List.append_cancel_left hEq) with
    ⟨rfl, hAfter⟩
  rcases selfDelimiting_quote _ _ _ _
      (List.append_cancel_left hAfter) with
    ⟨rfl, hRest⟩
  exact ⟨rfl, List.append_cancel_left hRest⟩

/- The first character of the text of a statement. -/
def mark : Statement → Char
  | direction _ => 'r'
  | nodeDefaults => 'n'
  | startMarker => '_'
  | node _ _ => '"'
  | startEdge _ => '_'
  | edge _ _ _ => '"'

/- Every line starts with a tabulator and the mark. -/
theorem exists_line_eq
    (s : Statement) :
    ∃ after, s.line.toList = '\t' :: s.mark :: after := by
  cases s <;> simp [line, text, mark, startNode, quote]

theorem mark_eq_of_line_append
    {s s' : Statement}
    {rest rest' : List Char}
    (hEq :
      s.line.toList ++ rest = s'.line.toList ++ rest') :
    s.mark = s'.mark := by
  rcases s.exists_line_eq with ⟨after, hLine⟩
  rcases s'.exists_line_eq with ⟨after', hLine'⟩
  rw [hLine, hLine'] at hEq
  exact (List.cons.inj (List.cons.inj hEq).2).1

/- A line shows its statement and where it ends. -/
theorem selfDelimiting_line : SelfDelimiting line := by
  intro v w rest rest' hEq
  have hMark := mark_eq_of_line_append hEq
  -- Marks tell apart all lines but those of the start node
  -- and those that start with the name of a state.
  cases v with
  | direction d =>
      cases w with
      | direction d' =>
          have hCodes :
              d.code.toList ++ '\n' :: rest =
                d'.code.toList ++ '\n' :: rest' := by
            simpa [line, text] using hEq
          rcases selfDelimiting_code _ _ _ _ hCodes with
            ⟨rfl, hRest⟩
          exact ⟨rfl, List.tail_eq_of_cons_eq hRest⟩
      | _ => simp [mark] at hMark
  | nodeDefaults =>
      cases w with
      | nodeDefaults =>
          exact ⟨rfl, List.append_cancel_left hEq⟩
      | _ => simp [mark] at hMark
  | startMarker =>
      cases w with
      | startMarker =>
          exact ⟨rfl, List.append_cancel_left hEq⟩
      | startEdge state =>
          simp [line, text] at hEq
      | _ => simp [mark] at hMark
  | node state highlighted =>
      cases w with
      | node state' highlighted' =>
          simp only [toList_line_node, List.cons_append,
            List.append_assoc, List.cons.injEq] at hEq
          rcases selfDelimiting_quote _ _ _ _ hEq.2 with
            ⟨rfl, hTail⟩
          rcases selfDelimiting_nodeTail _ _ _ _ _ hTail with
            ⟨rfl, hRest⟩
          exact ⟨rfl, hRest⟩
      | edge source destination label =>
          simp only [toList_line_node, toList_line_edge,
            List.cons_append, List.append_assoc,
            List.cons.injEq] at hEq
          rcases selfDelimiting_quote _ _ _ _ hEq.2 with
            ⟨_, hTail⟩
          simp [nodeTail, edgeTail] at hTail
      | _ => simp [mark] at hMark
  | startEdge state =>
      cases w with
      | startMarker =>
          simp [line, text] at hEq
      | startEdge state' =>
          simp only [line, text, String.toList_append,
            List.append_assoc] at hEq
          have hName :=
            List.append_cancel_left
              (List.append_cancel_left
                (List.append_cancel_left hEq))
          rcases selfDelimiting_quote _ _ _ _ hName with
            ⟨rfl, hRest⟩
          exact ⟨rfl, List.append_cancel_left hRest⟩
      | _ => simp [mark] at hMark
  | edge source destination label =>
      cases w with
      | node state' highlighted' =>
          simp only [toList_line_node, toList_line_edge,
            List.cons_append, List.append_assoc,
            List.cons.injEq] at hEq
          rcases selfDelimiting_quote _ _ _ _ hEq.2 with
            ⟨_, hTail⟩
          simp [nodeTail, edgeTail] at hTail
      | edge source' destination' label' =>
          simp only [toList_line_edge, List.cons_append,
            List.append_assoc, List.cons.injEq] at hEq
          rcases selfDelimiting_quote _ _ _ _ hEq.2 with
            ⟨rfl, hTail⟩
          rcases selfDelimiting_edgeTail _ _ _ _ hTail with
            ⟨hEnds, hRest⟩
          cases hEnds
          exact ⟨rfl, hRest⟩
      | _ => simp [mark] at hMark

end Statement

------------------------------------------------------------
-- Documents
------------------------------------------------------------

theorem toList_join_lines
    (list : List Statement) :
    (String.join (list.map Statement.line)).toList =
      list.flatMap (·.line.toList) := by
  simp [List.flatMap_map]

/- Lines end where something else than a line follows. -/
theorem lines_injective
    {list list' : List Statement}
    (hEq :
      list.flatMap (·.line.toList) ++ ['}', '\n'] =
        list'.flatMap (·.line.toList) ++ ['}', '\n']) :
    list = list' := by
  induction list generalizing list' with
  | nil =>
      cases list' with
      | nil => rfl
      | cons s' rest' =>
          rcases s'.exists_line_eq with ⟨after, hLine⟩
          simp [hLine] at hEq
  | cons s rest ih =>
      cases list' with
      | nil =>
          rcases s.exists_line_eq with ⟨after, hLine⟩
          simp [hLine] at hEq
      | cons s' rest' =>
          simp only [List.flatMap_cons, List.append_assoc]
            at hEq
          rcases Statement.selfDelimiting_line _ _ _ _ hEq with
            ⟨rfl, hRest⟩
          rw [ih hRest]

/- No two lists of statements are written alike. -/
theorem document_injective
    {list list' : List Statement}
    (hEq : document list = document list') :
    list = list' := by
  have hChars := congrArg String.toList hEq
  simp only [document, String.toList_append,
    toList_join_lines, List.append_assoc] at hChars
  exact lines_injective (List.append_cancel_left hChars)

end Dot

end Statechart
