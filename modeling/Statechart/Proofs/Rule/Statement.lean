import Statechart.Proofs.Rule.Layout
import Statechart.Rule.Statement

/-
  This file states how a text is split into statements, and
  that statements written on lines of their own are found
  again.

  Key definitions include:
    * `CleanStatement`
    * `Rule.line`

  Key theorems include:
    * `statementChars_append`
    * `statementChars_lines`
    * `statements_lines`
-/

namespace Statechart

------------------------------------------------------------
-- Comments
------------------------------------------------------------

theorem uncomment_append
    {before : List Char}
    (hBefore : '#' ∉ before)
    (rest : List Char) :
    uncomment (before ++ rest) =
      before ++ uncomment rest := by
  induction before with
  | nil => rfl
  | cons c before ih =>
      have hFirst : c ≠ '#' := by
        intro hEq
        exact hBefore (hEq ▸ List.mem_cons_self)
      have hRest := ih fun hMember =>
        hBefore (List.mem_cons_of_mem c hMember)
      simp only [uncomment] at hRest ⊢
      simp [uncommentFrom, hFirst, hRest]

/- A text without the sign of comments stays as it is. -/
theorem uncomment_of_plain
    {text : List Char}
    (hPlain : '#' ∉ text) :
    uncomment text = text := by
  have hEnd : uncomment [] = [] := rfl
  have hAppend := uncomment_append hPlain []
  rwa [hEnd, List.append_nil] at hAppend

/- No comment reaches beyond the end of its line. -/
theorem uncommentFrom_append_newline
    (commented : Bool)
    (text rest : List Char) :
    uncommentFrom commented (text ++ '\n' :: rest) =
      uncommentFrom commented text ++
        '\n' :: uncomment rest := by
  induction text generalizing commented with
  | nil => cases commented <;> rfl
  | cons c text ih =>
      cases commented <;>
        simp only [List.cons_append, uncommentFrom] <;>
          split <;> simp [ih]

theorem uncomment_append_newline
    (text rest : List Char) :
    uncomment (text ++ '\n' :: rest) =
      uncomment text ++ '\n' :: uncomment rest :=
  uncommentFrom_append_newline false text rest

------------------------------------------------------------
-- Splitting off a Statement
------------------------------------------------------------

/- The statements of a text without comments. -/
def codeStatements
    (code : List Char) : List (List Char) :=
  ((Text.pieces (· == ';') code).map
    collapse).filter fun s => !s.isEmpty

/- Statements are found after comments are removed. -/
theorem statementChars_eq
    (text : List Char) :
    statementChars text = codeStatements (uncomment text) :=
  rfl

theorem statementChars_of_plain
    {text : List Char}
    (hPlain : '#' ∉ text) :
    statementChars text = codeStatements text := by
  rw [statementChars_eq, uncomment_of_plain hPlain]

theorem isBlank_newline : Text.isBlank '\n' = true := by
  decide

theorem blank_newline : Text.Blank ['\n'] :=
  List.forall_mem_singleton.mpr isBlank_newline

/- A blank is not the sign of comments. -/
theorem not_mem_of_blank
    {run : List Char}
    (hRun : Text.Blank run) :
    '#' ∉ run := by
  intro hMember
  have hMark : Text.isBlank '#' = false := by decide
  rw [hRun '#' hMember] at hMark
  cases hMark

/- A blank is no semicolon. -/
theorem beq_semicolon_of_isBlank
    {c : Char}
    (hBlank : Text.isBlank c = true) :
    (c == ';') = false := by
  have hSolid : Text.isBlank ';' = false := by decide
  apply beq_false_of_ne
  intro hEq
  rw [hEq, hSolid] at hBlank
  cases hBlank

/- A semicolon separates statements. -/
theorem codeStatements_append
    (before rest : List Char) :
    codeStatements (before ++ ';' :: rest) =
      codeStatements before ++ codeStatements rest := by
  have hPieces :
      Text.pieces (· == ';') (before ++ ';' :: rest) =
        Text.pieces (· == ';') before ++
          Text.pieces (· == ';') rest :=
    Text.pieces_append_separator (by simp) _ _
  simp [codeStatements, hPieces]

/- Blanks after the statements do not matter. -/
theorem codeStatements_append_blank
    {after : List Char}
    (hAfter : Text.Blank after)
    (code : List Char) :
    codeStatements (code ++ after) =
      codeStatements code := by
  rcases Text.exists_last_piece (· == ';') code with
    ⟨first, last, hPieces⟩
  have hBlanks :
      Text.pieces (· == ';') after = [after] :=
    Text.pieces_of_forall fun c hMember =>
      beq_semicolon_of_isBlank (hAfter c hMember)
  have hLonger := hPieces after after [] hBlanks
  have hPlain := hPieces [] [] [] rfl
  have hCollapse :
      collapse (last ++ after) = collapse last := by
    unfold collapse
    rw [Text.words_append_of_blank hAfter]
  rw [List.append_nil] at hPlain
  simp [codeStatements, hLonger, hPlain, hCollapse]

/- Blanks before a statement do not matter. -/
theorem codeStatements_cons_of_blank
    {c : Char}
    (hBlank : Text.isBlank c = true)
    (rest : List Char) :
    codeStatements (c :: rest) = codeStatements rest := by
  have hFirst :
      Text.pieces (· == ';') (c :: rest) =
        Text.consFirst c (Text.pieces (· == ';') rest) := by
    simp [Text.pieces, beq_semicolon_of_isBlank hBlank]
  unfold codeStatements
  rw [hFirst]
  cases hPieces : Text.pieces (· == ';') rest with
  | nil => exact absurd hPieces (Text.pieces_ne_nil _ _)
  | cons piece others =>
      have hCollapse :
          collapse (c :: piece) = collapse piece := by
        unfold collapse
        rw [Text.words_cons_of_blank hBlank]
      simp [Text.consFirst, hCollapse]

theorem codeStatements_blank_append
    {before : List Char}
    (hBefore : Text.Blank before)
    (rest : List Char) :
    codeStatements (before ++ rest) =
      codeStatements rest := by
  induction before with
  | nil => rfl
  | cons c before ih =>
      have hFirst := hBefore c List.mem_cons_self
      rw [List.cons_append,
        codeStatements_cons_of_blank hFirst,
        ih hBefore.tail]

/- There is no statement in blanks. -/
theorem codeStatements_of_blank
    {code : List Char}
    (hBlank : Text.Blank code) :
    codeStatements code = [] := by
  have hShort := codeStatements_blank_append hBlank []
  rwa [List.append_nil] at hShort

/- There is one statement where no semicolon is. -/
theorem codeStatements_of_unseparated
    {code : List Char}
    (hSeparator : ';' ∉ code)
    (hNonempty : collapse code ≠ []) :
    codeStatements code = [collapse code] := by
  have hCode :
      ∀ c ∈ code, (c == ';') = false := by
    intro c hMember
    apply beq_false_of_ne
    intro hEq
    exact hSeparator (hEq ▸ hMember)
  simp [codeStatements, Text.pieces_of_forall hCode,
    hNonempty]

/- A statement reaches to the first semicolon. -/
theorem statementChars_append
    {before : List Char}
    (hComment : '#' ∉ before)
    (hSeparator : ';' ∉ before)
    (hNonempty : collapse before ≠ [])
    (rest : List Char) :
    statementChars (before ++ ';' :: rest) =
      collapse before :: statementChars rest := by
  have hUncomment :
      uncomment (before ++ ';' :: rest) =
        before ++ ';' :: uncomment rest := by
    rw [uncomment_append hComment]
    rfl
  rw [statementChars_eq, hUncomment, codeStatements_append,
    codeStatements_of_unseparated hSeparator hNonempty]
  rfl

theorem statementChars_cons_of_blank
    {c : Char}
    (hBlank : Text.isBlank c = true)
    (rest : List Char) :
    statementChars (c :: rest) = statementChars rest := by
  have hComment : '#' ∉ [c] :=
    not_mem_of_blank (List.forall_mem_singleton.mpr hBlank)
  have hUncomment :
      uncomment (c :: rest) = c :: uncomment rest :=
    uncomment_append hComment rest
  rw [statementChars_eq, hUncomment,
    codeStatements_cons_of_blank hBlank]
  rfl

------------------------------------------------------------
-- Lines
------------------------------------------------------------

/-
  A statement is clean if it is what is found between two
  semicolons: it is not empty, holds no mark, and blanks
  occur in it as single spaces only.
-/
structure CleanStatement (s : List Char) : Prop where
  uncommented : '#' ∉ s
  unseparated : ';' ∉ s
  collapsed : collapse s = s
  nonempty : s ≠ []

/- A text that is a clean statement holds no other one. -/
theorem CleanStatement.statementChars_eq_singleton
    {s : List Char}
    (hClean : CleanStatement s) :
    statementChars s = [s] := by
  have hNonempty : collapse s ≠ [] :=
    hClean.collapsed.symm ▸ hClean.nonempty
  rw [statementChars_of_plain hClean.uncommented,
    codeStatements_of_unseparated hClean.unseparated
      hNonempty, hClean.collapsed]

/- Clean statements on lines of their own are found again. -/
theorem statementChars_lines
    {list : List (List Char)}
    (hClean : ∀ s ∈ list, CleanStatement s) :
    statementChars
        (['\n'].intercalate (list.map (· ++ [';']))) =
      list := by
  induction list with
  | nil => rfl
  | cons s rest ih =>
      have hFirst := hClean s List.mem_cons_self
      have hRest := ih fun s' hMember =>
        hClean s' (List.mem_cons_of_mem s hMember)
      have hSplit := statementChars_append
        hFirst.uncommented hFirst.unseparated
        (hFirst.collapsed.symm ▸ hFirst.nonempty)
      rw [hFirst.collapsed] at hSplit
      cases rest with
      | nil =>
          have hEnd : statementChars [] = [] := rfl
          have hLine := hSplit []
          rw [hEnd] at hLine
          simpa using hLine
      | cons next rest =>
          simp only [List.map_cons,
            List.intercalate_cons_cons, List.append_assoc,
            List.cons_append, List.nil_append] at hRest ⊢
          rw [hSplit, statementChars_cons_of_blank isBlank_newline,
            hRest]

------------------------------------------------------------
-- Lines of Rules
------------------------------------------------------------

namespace Rule

/- The line of a rule in a rule text. -/
def line (r : Rule) : String :=
  r.text ++ ";"

/- A textual rule consists of four words. -/
theorem text_eq_joinWith
    (r : Rule) :
    r.text.toList =
      Text.joinWith [' ']
        [ r.source.toList, ['-', '>'],
          r.destination.toList,
          '(' :: (r.label.toList ++ [')']) ] := by
  simp [text, Text.joinWith]

theorem Textual.words
    {r : Rule}
    (hTextual : r.Textual) :
    Text.words r.text.toList =
      [ r.source.toList, ['-', '>'],
        r.destination.toList,
        '(' :: (r.label.toList ++ [')']) ] := by
  have hName :
      ∀ {name : List Char}, isIdentifier name = true →
        Text.Solid name ∧ name ≠ [] :=
    fun hName =>
      ⟨solid_of_isIdentifier hName,
        (isIdentifier_iff.mp hName).1⟩
  have hArrow : Text.Solid ['-', '>'] := by
    intro c hMember
    simp only [List.mem_cons, List.not_mem_nil, or_false]
      at hMember
    rcases hMember with rfl | rfl
    · decide
    · decide
  have hParentheses :
      Text.Solid ('(' :: (r.label.toList ++ [')'])) := by
    intro c hMember
    simp only [List.mem_cons, List.mem_append,
      List.not_mem_nil, or_false] at hMember
    rcases hMember with rfl | hMember | rfl
    · decide
    · exact (hName hTextual.label).1 c hMember
    · decide
  rw [text_eq_joinWith]
  apply Text.words_joinWith
  simp only [List.forall_mem_cons, List.not_mem_nil,
    false_implies, implies_true, and_true]
  exact
    ⟨hName hTextual.source, ⟨hArrow, List.cons_ne_nil _ _⟩,
      hName hTextual.destination,
      ⟨hParentheses, List.cons_ne_nil _ _⟩⟩

theorem Textual.cleanStatement
    {r : Rule}
    (hTextual : r.Textual) :
    CleanStatement r.text.toList := by
  have hMark :
      ∀ mark, isIdentChar mark = false →
        mark ∉ [' ', '-', '>', '(', ')'] →
          mark ∉ r.text.toList := by
    intro mark hIdent hOther
    have hSource :=
      not_mem_of_isIdentifier hIdent hTextual.source
    have hDestination :=
      not_mem_of_isIdentifier hIdent hTextual.destination
    have hLabel :=
      not_mem_of_isIdentifier hIdent hTextual.label
    simp at hOther
    simp [text, hSource, hDestination, hLabel, hOther]
  exact
    { uncommented := hMark '#' (by decide) (by decide)
      unseparated := hMark ';' (by decide) (by decide)
      collapsed := by
        unfold collapse
        rw [hTextual.words, text_eq_joinWith]
      nonempty := by
        simp [text] }

end Rule

/- The text of a textual rule is a single statement. -/
theorem Rule.Textual.statements_text
    {r : Rule}
    (hTextual : r.Textual) :
    statements r.text = [r.text] := by
  unfold statements
  rw [hTextual.cleanStatement.statementChars_eq_singleton]
  simp

/- The lines of textual rules are read as these rules. -/
theorem statements_lines
    {rules : List Rule}
    (hTextual : ∀ r ∈ rules, r.Textual) :
    statements
        (String.intercalate "\n" (rules.map Rule.line)) =
      rules.map Rule.text := by
  have hClean :
      ∀ s ∈ rules.map (·.text.toList), CleanStatement s := by
    intro s hMember
    rcases List.mem_map.mp hMember with ⟨r, hRule, rfl⟩
    exact (hTextual r hRule).cleanStatement
  have hChars := statementChars_lines hClean
  have hText :
      (String.intercalate "\n"
          (rules.map Rule.line)).toList =
        ['\n'].intercalate
          ((rules.map (·.text.toList)).map (· ++ [';'])) := by
    simp [Rule.line, Function.comp_def]
  unfold statements
  rw [hText, hChars]
  simp [Function.comp_def]

end Statechart
