import Statechart.Proofs.Rule.Chunks
import Statechart.Rule.Reading

/-
  This file states that the statements of a text are in a
  normal form which does not depend on how the text is laid
  out. Statements hold no comments, no semicolons and only
  single spaces, and they are found again when they are
  joined. Comments may be added at the end of any line, line
  feeds may follow carriage returns, and blanks may be
  replaced by other blanks or stand next to semicolons.

  Key definitions include:
    * `NormalStatement`
    * `withReturns`
    * `Relaid`

  Key theorems include:
    * `flatMap_statementChars`
    * `cleanStatement_of_mem`
    * `statements_joined`
    * `Relaid.same_statements`
    * `statements_normal_form`
-/

namespace Statechart

------------------------------------------------------------
-- Normal Forms
------------------------------------------------------------

/- The sign of comments is removed with them. -/
theorem not_mem_uncommentFrom
    (commented : Bool)
    (text : List Char) :
    '#' ∉ uncommentFrom commented text := by
  induction text generalizing commented with
  | nil => cases commented <;> simp [uncommentFrom]
  | cons c rest ih =>
      cases commented with
      | false =>
          unfold uncommentFrom
          split
          · exact ih true
          · rename_i hFirst
            simp [ih false, Ne.symm hFirst]
      | true =>
          unfold uncommentFrom
          split
          · rename_i hNewline
            subst hNewline
            simp [ih false]
          · exact ih true

theorem collapse_singleSpaced
    (text : List Char) :
    Text.SingleSpaced (collapse text) :=
  Text.singleSpaced_joinWith fun _ => Text.of_mem_words

/- What is collapsed already stays as it is. -/
theorem collapse_collapse
    (text : List Char) :
    collapse (collapse text) = collapse text := by
  have hWords :
      Text.words (collapse text) = Text.words text :=
    Text.words_joinWith fun _ => Text.of_mem_words
  unfold collapse at hWords ⊢
  rw [hWords]

/- Nothing but spaces is added by collapsing. -/
theorem mem_of_mem_collapse
    {text : List Char}
    {c : Char}
    (hMember : c ∈ collapse text) :
    c = ' ' ∨ c ∈ text := by
  rcases Text.mem_joinWith hMember with
    hSpace | ⟨word, hWord, hInWord⟩
  · exact Or.inl (List.mem_singleton.mp hSpace)
  · have hPiece := (List.mem_filter.mp hWord).1
    exact Or.inr (Text.of_mem_pieces hPiece hInWord).1

/- Collapsing keeps what is not blank. -/
theorem filter_collapse
    (text : List Char) :
    (collapse text).filter (fun c => !Text.isBlank c) =
      text.filter fun c => !Text.isBlank c := by
  have hSpace :
      [' '].filter (fun c => !Text.isBlank c) = [] := by
    decide
  unfold collapse
  rw [Text.filter_joinWith hSpace, Text.flatten_words,
    List.filter_filter]
  simp

/- Statements hold all the code, in order. -/
theorem flatMap_statementChars
    (text : List Char) :
    ((statementChars text).flatMap fun s =>
        s.filter fun c => !Text.isBlank c) =
      (uncomment text).filter fun c =>
        !Text.isBlank c && !(c == ';') := by
  rw [statementChars_eq]
  unfold codeStatements
  rw [List.flatMap_def, ← List.filter_flatten,
    List.flatten_filter_not_isEmpty, List.filter_flatten,
    List.map_map]
  have hCollapse :
      (List.filter fun c => !Text.isBlank c) ∘ collapse =
        List.filter fun c => !Text.isBlank c :=
    funext filter_collapse
  rw [hCollapse, ← List.filter_flatten, Text.flatten_pieces,
    List.filter_filter]

/- Every statement that is found is clean. -/
theorem cleanStatement_of_mem
    {text s : List Char}
    (hMember : s ∈ statementChars text) :
    CleanStatement s := by
  rcases List.mem_filter.mp hMember with
    ⟨hCollapsed, hNonempty⟩
  rcases List.mem_map.mp hCollapsed with
    ⟨piece, hPiece, rfl⟩
  have hMark :
      ∀ mark, mark ≠ ' ' →
        mark ∈ collapse piece →
          mark ∈ uncomment text ∧ (mark == ';') = false := by
    intro mark hOther hMark
    rcases mem_of_mem_collapse hMark with hSpace | hInPiece
    · exact absurd hSpace hOther
    · exact Text.of_mem_pieces hPiece hInPiece
  exact
    { uncommented := fun hComment =>
        not_mem_uncommentFrom false text
          (hMark '#' (by decide) hComment).1
      unseparated := fun hSeparator => by
        have hNot := (hMark ';' (by decide) hSeparator).2
        cases hNot
      collapsed := collapse_collapse piece
      nonempty := by simpa using hNonempty }

/- Clean statements are found again when they are joined. -/
theorem statementChars_joined
    {list : List (List Char)}
    (hClean : ∀ s ∈ list, CleanStatement s) :
    statementChars ([';', '\n'].intercalate list) = list := by
  have hApart :
      ∀ s ∈ list,
        ∀ rest,
          statementChars (s ++ [';', '\n'] ++ rest) =
            statementChars s ++ statementChars rest := by
    intro s hMember rest
    have hStatement := hClean s hMember
    have hSplit :=
      statementChars_append hStatement.uncommented
        hStatement.unseparated
        (hStatement.collapsed.symm ▸ hStatement.nonempty)
        ('\n' :: rest)
    rw [hStatement.collapsed,
      statementChars_cons_of_blank isBlank_newline] at hSplit
    rw [hStatement.statementChars_eq_singleton]
    simpa using hSplit
  rw [statementChars_intercalate hApart]
  clear hApart
  induction list with
  | nil => rfl
  | cons s rest ih =>
      rw [List.flatMap_cons,
        (hClean s
          List.mem_cons_self).statementChars_eq_singleton,
        ih fun s' hMember =>
          hClean s' (List.mem_cons_of_mem s hMember)]
      rfl

/-
  A statement in normal form is not empty, holds no mark, and
  its blanks are single spaces between other characters.
-/
structure NormalStatement (s : String) : Prop where
  nonempty : s ≠ ""
  uncommented : '#' ∉ s.toList
  unseparated : ';' ∉ s.toList
  singleSpaced : Text.SingleSpaced s.toList

/- Clean statements are those in normal form. -/
theorem cleanStatement_toList_iff
    {s : String} :
    CleanStatement s.toList ↔ NormalStatement s := by
  constructor
  · intro hClean
    have hSpaced := collapse_singleSpaced s.toList
    rw [hClean.collapsed] at hSpaced
    exact
      { nonempty := by simpa using hClean.nonempty
        uncommented := hClean.uncommented
        unseparated := hClean.unseparated
        singleSpaced := hSpaced }
  · intro hNormal
    have hCollapsed :=
      @Text.joinWith_words [] s.toList (by simp [Text.Solid])
        hNormal.singleSpaced
    exact
      { uncommented := hNormal.uncommented
        unseparated := hNormal.unseparated
        collapsed := hCollapsed
        nonempty := by simpa using hNormal.nonempty }

/- Statements in normal form are found again. -/
theorem statements_joined
    {list : List String}
    (hNormal : ∀ s ∈ list, NormalStatement s) :
    statements (String.intercalate ";\n" list) = list := by
  have hClean :
      ∀ s ∈ list.map String.toList, CleanStatement s := by
    intro s hMember
    rcases List.mem_map.mp hMember with ⟨t, hList, rfl⟩
    exact cleanStatement_toList_iff.mpr (hNormal t hList)
  have hChars :
      (String.intercalate ";\n" list).toList =
        [';', '\n'].intercalate (list.map String.toList) := by
    simp
  unfold statements
  rw [hChars, statementChars_joined hClean]
  simp [Function.comp_def]

------------------------------------------------------------
-- Layouts
------------------------------------------------------------

/- A text with a carriage return before each line feed. -/
def withReturns (text : List Char) : List Char :=
  text.flatMap fun c =>
    if c = '\n' then ['\r', '\n'] else [c]

/-
  One change of the layout of a text:

    * a comment is put before a line feed,
    * or at the end of the text,
    * every line feed gets a carriage return,
    * in a text without comments, blanks are replaced by
      other blanks,
    * or blanks are put before
    * or after a semicolon.
-/
inductive Relaid : List Char → List Char → Prop where
  | comment
      {comment : List Char}
      (before after : List Char)
      (hComment : '\n' ∉ comment) :
      Relaid (before ++ '\n' :: after)
        (before ++ '#' :: comment ++ '\n' :: after)
  | lastComment
      {comment : List Char}
      (text : List Char)
      (hComment : '\n' ∉ comment) :
      Relaid text (text ++ '#' :: comment)
  | returns
      (text : List Char) :
      Relaid text (withReturns text)
  | blanks
      {before run run' after : List Char}
      (hPlain : '#' ∉ before ++ run ++ after)
      (hRun : Text.Blank run)
      (hNonempty : run ≠ [])
      (hRun' : Text.Blank run')
      (hNonempty' : run' ≠ []) :
      Relaid (before ++ run ++ after)
        (before ++ run' ++ after)
  | beforeSemicolon
      {before run after : List Char}
      (hPlain : '#' ∉ before ++ ';' :: after)
      (hRun : Text.Blank run) :
      Relaid (before ++ ';' :: after)
        (before ++ run ++ ';' :: after)
  | afterSemicolon
      {before run after : List Char}
      (hPlain : '#' ∉ before ++ ';' :: after)
      (hRun : Text.Blank run) :
      Relaid (before ++ ';' :: after)
        (before ++ ';' :: run ++ after)

/- A comment at the end of a text says nothing. -/
theorem uncommentFrom_append_comment
    {comment : List Char}
    (hComment : '\n' ∉ comment)
    (commented : Bool)
    (text : List Char) :
    uncommentFrom commented (text ++ '#' :: comment) =
      uncommentFrom commented text := by
  have hInside : uncommentFrom true comment = [] := by
    induction comment with
    | nil => rfl
    | cons c rest ih =>
        have hFirst : c ≠ '\n' := by
          intro hEq
          exact hComment (hEq ▸ List.mem_cons_self)
        have hRest := ih fun hMember =>
          hComment (List.mem_cons_of_mem c hMember)
        simp [uncommentFrom, hFirst, hRest]
  induction text generalizing commented with
  | nil =>
      cases commented <;> simp [uncommentFrom, hInside]
  | cons c rest ih =>
      cases commented <;>
        simp only [List.cons_append, uncommentFrom] <;>
          split <;> simp [ih]

/- Which blanks keep two texts apart does not matter. -/
theorem codeStatements_blank_run
    {run run' : List Char}
    (hRun : Text.Blank run)
    (hNonempty : run ≠ [])
    (hRun' : Text.Blank run')
    (hNonempty' : run' ≠ [])
    (before after : List Char) :
    codeStatements (before ++ run ++ after) =
      codeStatements (before ++ run' ++ after) := by
  rcases Text.exists_last_piece (· == ';') before with
    ⟨first, last, hBefore⟩
  cases hAfter : Text.pieces (· == ';') after with
  | nil => exact absurd hAfter (Text.pieces_ne_nil _ _)
  | cons piece others =>
      have hPieces :
          ∀ {w}, Text.Blank w →
            Text.pieces (· == ';') (before ++ w ++ after) =
              first ++ (last ++ w ++ piece) :: others := by
        intro w hBlank
        have hJoined :=
          Text.pieces_append_of_forall
            (fun c hMember =>
              beq_semicolon_of_isBlank (hBlank c hMember))
            hAfter
        rw [List.append_assoc, hBefore _ _ _ hJoined,
          List.append_assoc]
      have hCollapse :
          collapse (last ++ run ++ piece) =
            collapse (last ++ run' ++ piece) := by
        unfold collapse
        rw [Text.words_append_blank_run hRun hNonempty,
          Text.words_append_blank_run hRun' hNonempty']
      simp only [codeStatements, hPieces hRun,
        hPieces hRun', List.map_append, List.map_cons,
        hCollapse]

------------------------------------------------------------
-- Changes of the Layout
------------------------------------------------------------

theorem blank_return_newline : Text.Blank ['\r', '\n'] :=
  blank_newline.cons (by decide)

/-
  The induction is on the text that is left to read. What was
  read of it before has moved in front, as a carriage return
  is only seen to be harmless between two texts.
-/
theorem codeStatements_withReturns
    (commented : Bool)
    (before text : List Char) :
    codeStatements
        (before ++ uncommentFrom commented (withReturns text)) =
      codeStatements
        (before ++ uncommentFrom commented text) := by
  induction text generalizing commented before with
  | nil => rfl
  | cons c rest ih =>
      have hMove :
          ∀ flag,
            codeStatements
                (before ++
                  c :: uncommentFrom flag (withReturns rest)) =
              codeStatements
                (before ++ c :: uncommentFrom flag rest) := by
        intro flag
        have hLater := ih flag (before ++ [c])
        simpa only [List.append_assoc,
          List.singleton_append] using hLater
      by_cases hNewline : c = '\n'
      · subst hNewline
        cases commented with
        | true => exact hMove false
        | false =>
            have hRun :=
              codeStatements_blank_run blank_return_newline
                (List.cons_ne_nil _ _) blank_newline
                (List.cons_ne_nil _ _) before
                (uncommentFrom false (withReturns rest))
            simp only [List.append_assoc, List.cons_append,
              List.nil_append] at hRun
            exact hRun.trans (hMove false)
      · have hFirst :
            withReturns (c :: rest) =
              c :: withReturns rest := by
          simp [withReturns, hNewline]
        rw [hFirst]
        cases commented with
        | true =>
            simp only [uncommentFrom, hNewline, if_false]
            exact ih true before
        | false =>
            unfold uncommentFrom
            split
            · exact ih true before
            · exact hMove false

/- The statements do not depend on the layout. -/
theorem Relaid.same_statements
    {text text' : List Char}
    (hRelaid : Relaid text text') :
    statementChars text' = statementChars text := by
  cases hRelaid with
  | comment before after hComment =>
      rw [statementChars_eq,
        statementChars_eq,
        uncomment_append_newline, uncomment_append_newline]
      unfold uncomment
      rw [uncommentFrom_append_comment hComment]
  | lastComment text hComment =>
      rw [statementChars_eq, uncomment,
        uncommentFrom_append_comment hComment]
      rfl
  | returns text =>
      exact codeStatements_withReturns false [] text
  | @blanks before run run' after hPlain hRun hNonempty
      hRun' hNonempty' =>
      have hPlain' : '#' ∉ before ++ run' ++ after := by
        simp only [List.mem_append, not_or] at hPlain ⊢
        exact
          ⟨⟨hPlain.1.1, not_mem_of_blank hRun'⟩, hPlain.2⟩
      rw [statementChars_of_plain hPlain,
        statementChars_of_plain hPlain']
      exact
        codeStatements_blank_run hRun' hNonempty' hRun
          hNonempty before after
  | @beforeSemicolon before run after hPlain hRun =>
      have hPlain' : '#' ∉ before ++ run ++ ';' :: after := by
        simp only [List.mem_append, not_or] at hPlain ⊢
        exact
          ⟨⟨hPlain.1, not_mem_of_blank hRun⟩, hPlain.2⟩
      rw [statementChars_of_plain hPlain,
        statementChars_of_plain hPlain',
        codeStatements_append, codeStatements_append,
        codeStatements_append_blank hRun]
  | @afterSemicolon before run after hPlain hRun =>
      have hPlain' :
          '#' ∉ before ++ ';' :: run ++ after := by
        simp only [List.mem_append, List.mem_cons, not_or]
          at hPlain ⊢
        exact
          ⟨⟨hPlain.1, hPlain.2.1, not_mem_of_blank hRun⟩,
            hPlain.2.2⟩
      rw [statementChars_of_plain hPlain,
        statementChars_of_plain hPlain', List.append_assoc,
        List.cons_append, codeStatements_append,
        codeStatements_append,
        codeStatements_blank_append hRun]

/-
  The statements of a text are its normal form: they are in
  normal form themselves, hold all the code in order, and are
  found again when they are joined, as any statements in
  normal form are. No change of the layout affects them, and
  charts read all these texts alike.
-/
theorem statements_normal_form (text : String) :
    (∀ s ∈ statements text, NormalStatement s) ∧
    ((statements text).flatMap fun s =>
        s.toList.filter fun c => !Text.isBlank c) =
      ((uncomment text.toList).filter fun c =>
        !Text.isBlank c && !(c == ';')) ∧
    (∀ list, (∀ s ∈ list, NormalStatement s) →
      statements (String.intercalate ";\n" list) = list) ∧
    statements
        (String.intercalate ";\n" (statements text)) =
      statements text ∧
    (∀ {G A : Type} (c : Chart G A),
      c.read (String.intercalate ";\n" (statements text)) =
        c.read text) ∧
    ∀ text', Relaid text.toList text'.toList →
      statements text' = statements text ∧
        ∀ {G A : Type} (c : Chart G A),
          c.read text' = c.read text := by
  have hNormal : ∀ s ∈ statements text, NormalStatement s := by
    intro s hMember
    rcases List.mem_map.mp hMember with ⟨chars, hChars, rfl⟩
    apply cleanStatement_toList_iff.mp
    rw [String.toList_ofList]
    exact cleanStatement_of_mem hChars
  have hCode :
      ((statements text).flatMap fun s =>
          s.toList.filter fun c => !Text.isBlank c) =
        ((uncomment text.toList).filter fun c =>
          !Text.isBlank c && !(c == ';')) := by
    rw [← flatMap_statementChars, statements,
      List.flatMap_map]
    simp only [String.toList_ofList]
  have hJoined := statements_joined hNormal
  refine
    ⟨hNormal, hCode, fun _ => statements_joined, hJoined,
      ?_, ?_⟩
  · intro G A c
    unfold Chart.read
    rw [hJoined]
  · intro text' hRelaid
    have hSame : statements text' = statements text := by
      unfold statements
      rw [hRelaid.same_statements]
    refine ⟨hSame, ?_⟩
    intro G A c
    unfold Chart.read
    rw [hSame]

/-
  In this text a statement extends over two lines. A comment
  with a semicolon in it is put into the statement.
-/
theorem statements_normal_form_two_lines :
    let text := "a ->\nb (c); b\t->a(d)"
    let text' := "a ->#; x -> y (z)\nb (c); b\t->a(d)"
    let list := ["a -> b (c)", "b ->a(d)"]
    statements text = list ∧
      (∀ s ∈ list, NormalStatement s) ∧
      statements (String.intercalate ";\n" list) = list ∧
      Relaid text.toList text'.toList ∧
      statements text' = list := by
  intro text text' list
  have hList : statements text = list := by
    decide +kernel
  have hRelaid : Relaid text.toList text'.toList := by
    have hComment : '\n' ∉ "; x -> y (z)".toList := by
      decide +kernel
    have hChange :=
      Relaid.comment "a ->".toList "b (c); b\t->a(d)".toList
        hComment
    simpa [text, text'] using hChange
  rcases statements_normal_form text with
    ⟨hNormal, _, hFound, _, _, hSame⟩
  rw [hList] at hNormal
  exact
    ⟨hList, hNormal, hFound list hNormal, hRelaid,
      (hSame text' hRelaid).1.trans hList⟩

end Statechart
