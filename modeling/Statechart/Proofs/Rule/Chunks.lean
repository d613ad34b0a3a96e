import Statechart.Proofs.Rule.Statement
import Statechart.Showcase.Turnstile

/-
  This file states that a text can be read in chunks. The
  chunks may end anywhere, also in the middle of a comment
  or of a statement: a semicolon on a line of its own keeps
  the statements of two chunks apart. Between chunks that
  end a statement a line feed is enough.

  Key definitions include:
    * `EndsStatement`
    * `Feed`
    * `Chart.readChunks`
    * `Chart.ReadLike`

  Key theorems include:
    * `statements_intercalate`
    * `Chart.readFrom_flatMap`
    * `Chart.read_in_chunks`
-/

namespace Statechart

------------------------------------------------------------
-- Ends of Statements
------------------------------------------------------------

/-
  A text ends a statement if it is blank or its last
  character that is not blank is a semicolon. Comments do
  not count.
-/
def EndsStatement (text : List Char) : Prop :=
  (Text.trimEnd (uncomment text)).getLast? = none ∨
    (Text.trimEnd (uncomment text)).getLast? = some ';'

instance (text : List Char) :
    Decidable (EndsStatement text) :=
  inferInstanceAs (Decidable (_ ∨ _))

theorem EndsStatement.blank_or_semicolon
    {text : List Char}
    (hEnds : EndsStatement text) :
    Text.Blank (uncomment text) ∨
      ∃ before after,
        uncomment text = before ++ ';' :: after ∧
          Text.Blank after := by
  rcases Text.exists_blank_of_trimEnd (uncomment text) with
    ⟨after, hAfter, hText⟩
  rcases hEnds with hNone | hSemicolon
  · left
    rw [List.getLast?_eq_none_iff] at hNone
    rw [hNone, List.nil_append] at hText
    rw [hText]
    exact hAfter
  · right
    rcases List.getLast?_eq_some_iff.mp hSemicolon with
      ⟨before, hBefore⟩
    refine ⟨before, after, ?_, hAfter⟩
    rw [hBefore, List.append_assoc, List.singleton_append]
      at hText
    exact hText

------------------------------------------------------------
-- Statements of Chunks
------------------------------------------------------------

/- A semicolon on a line of its own separates statements. -/
theorem statementChars_append_separator
    (text rest : List Char) :
    statementChars (text ++ ['\n', ';', '\n'] ++ rest) =
      statementChars text ++ statementChars rest := by
  have hUncomment :
      uncomment (text ++ ['\n', ';', '\n'] ++ rest) =
        uncomment text ++ ['\n'] ++
          ';' :: '\n' :: uncomment rest := by
    simp only [List.append_assoc, List.cons_append,
      List.nil_append]
    rw [uncomment_append_newline]
    rfl
  rw [statementChars_eq, hUncomment, codeStatements_append,
    codeStatements_append_blank blank_newline,
    codeStatements_cons_of_blank isBlank_newline]
  rfl

/- A line feed separates statements after an ended one. -/
theorem EndsStatement.statementChars_append_newline
    {text : List Char}
    (hEnds : EndsStatement text)
    (rest : List Char) :
    statementChars (text ++ ['\n'] ++ rest) =
      statementChars text ++ statementChars rest := by
  rw [List.append_assoc, List.singleton_append]
  simp only [statementChars_eq]
  rw [uncomment_append_newline]
  rcases hEnds.blank_or_semicolon with
    hBlank | ⟨before, after, hText, hAfter⟩
  · rw [codeStatements_blank_append hBlank,
      codeStatements_cons_of_blank isBlank_newline,
      codeStatements_of_blank hBlank, List.nil_append]
  · rw [hText, List.append_assoc, List.cons_append,
      codeStatements_append, codeStatements_append,
      codeStatements_blank_append hAfter,
      codeStatements_cons_of_blank isBlank_newline,
      codeStatements_of_blank hAfter, List.append_nil]

/-
  If a separator keeps the statements of each chunk apart
  from what follows, joined chunks have the statements of
  the chunks.
-/
theorem statementChars_intercalate
    {separator : List Char}
    {chunks : List (List Char)}
    (hApart :
      ∀ chunk ∈ chunks,
        ∀ rest,
          statementChars (chunk ++ separator ++ rest) =
            statementChars chunk ++ statementChars rest) :
    statementChars (separator.intercalate chunks) =
      chunks.flatMap statementChars := by
  induction chunks with
  | nil => rfl
  | cons chunk rest ih =>
      have hFirst := hApart chunk List.mem_cons_self
      have hRest := ih fun other hMember =>
        hApart other (List.mem_cons_of_mem chunk hMember)
      cases rest with
      | nil => simp
      | cons next rest =>
          rw [List.intercalate_cons_cons, hFirst, hRest]
          rfl

theorem statements_intercalate
    {separator : String}
    {chunks : List String}
    (hApart :
      ∀ chunk ∈ chunks,
        ∀ rest,
          statementChars
              (chunk.toList ++ separator.toList ++ rest) =
            statementChars chunk.toList ++
              statementChars rest) :
    statements (String.intercalate separator chunks) =
      chunks.flatMap statements := by
  have hChars :
      statementChars
          (separator.toList.intercalate
            (chunks.map String.toList)) =
        (chunks.map String.toList).flatMap
          statementChars := by
    apply statementChars_intercalate
    intro chunk hMember
    rcases List.mem_map.mp hMember with ⟨text, hText, rfl⟩
    exact hApart text hText
  unfold statements
  rw [String.toList_intercalate, hChars, List.flatMap_map,
    List.map_flatMap]

------------------------------------------------------------
-- Reading On
------------------------------------------------------------

namespace Reading

variable {G A : Type}

/- Go on reading with what was read, unless it failed. -/
def andThen
    (reading : Reading G A)
    (next : Nat → Chart G A → Reading G A) : Reading G A :=
  match reading.outcome with
  | .error e => ⟨reading.chart, .error e⟩
  | .ok count => next count reading.chart

/- A reading after some statements that were applied. -/
def after
    (applied : Nat)
    (reading : Reading G A) : Reading G A where
  chart := reading.chart
  outcome :=
    match reading.outcome with
    | .error e =>
        .error { e with applied := applied + e.applied }
    | .ok count => .ok (applied + count)

end Reading

------------------------------------------------------------
-- Reading in Chunks
------------------------------------------------------------

/-
  What is known after chunks were fed to a chart one after
  another: the counts of the chunks that were read to their
  ends, and what was wrong with the first one that was not.
-/
structure Feed (G A : Type) where
  chart : Chart G A
  counts : List Nat
  failure : Option RuleError

namespace Feed

variable {G A : Type}

/- The number of rules in the chunks read to their ends. -/
def total (feed : Feed G A) : Nat :=
  feed.counts.foldr (· + ·) 0

/- The reading of one text that a feed amounts to. -/
def reading (feed : Feed G A) : Reading G A where
  chart := feed.chart
  outcome :=
    match feed.failure with
    | none => .ok feed.total
    | some e =>
        .error { e with applied := feed.total + e.applied }

/- A chunk read to its end before a feed only counts. -/
theorem reading_cons
    (feed : Feed G A)
    (count : Nat) :
    Feed.reading
        { feed with counts := count :: feed.counts } =
      feed.reading.after count := by
  rcases feed with ⟨c, counts, failure⟩
  cases failure with
  | none => rfl
  | some e =>
      simp [reading, Reading.after, total, Nat.add_assoc]

end Feed

namespace Chart

variable {G A : Type}

/- Read chunks up to the first one that is at fault. -/
def readChunks
    (c : Chart G A) :
    List String → Feed G A
  | [] => ⟨c, [], none⟩
  | chunk :: rest =>
      let reading := c.read chunk
      match reading.outcome with
      | .error e => ⟨reading.chart, [], some e⟩
      | .ok count =>
          let feed := readChunks reading.chart rest
          { feed with counts := count :: feed.counts }

theorem readChunks_cons_of_error
    {c : Chart G A}
    {chunk : String}
    {e : RuleError}
    (hOutcome : (c.read chunk).outcome = .error e)
    (rest : List String) :
    c.readChunks (chunk :: rest) =
      ⟨(c.read chunk).chart, [], some e⟩ := by
  simp only [readChunks, hOutcome]

theorem readChunks_cons_of_ok
    {c : Chart G A}
    {chunk : String}
    {count : Nat}
    (hOutcome : (c.read chunk).outcome = .ok count)
    (rest : List String) :
    c.readChunks (chunk :: rest) =
      { (c.read chunk).chart.readChunks rest with
        counts :=
          count ::
            ((c.read chunk).chart.readChunks
              rest).counts } := by
  simp only [readChunks, hOutcome]

/- Chunks after the first one at fault are not read. -/
theorem readChunks_of_error
    {c : Chart G A}
    {before : List String}
    {chunk : String}
    {e : RuleError}
    (hBefore : (c.readChunks before).failure = none)
    (hOutcome :
      ((c.readChunks before).chart.read chunk).outcome =
        .error e)
    (after : List String) :
    c.readChunks (before ++ chunk :: after) =
      { chart :=
          ((c.readChunks before).chart.read chunk).chart
        counts := (c.readChunks before).counts
        failure := some e } := by
  -- The first chunk was read to its end, or the chunks
  -- before would have failed already.
  induction before generalizing c with
  | nil => exact readChunks_cons_of_error hOutcome after
  | cons first before ih =>
      cases hFirst : (c.read first).outcome with
      | error e =>
          rw [readChunks_cons_of_error hFirst] at hBefore
          cases hBefore
      | ok count =>
          rw [readChunks_cons_of_ok hFirst]
            at hBefore hOutcome ⊢
          rw [List.cons_append,
            readChunks_cons_of_ok hFirst,
            ih hBefore hOutcome]

------------------------------------------------------------
-- Statements of All Chunks
------------------------------------------------------------

theorem readFrom_andThen
    (c : Chart G A)
    (applied : Nat)
    (list rest : List String) :
    c.readFrom applied (list ++ rest) =
      (c.readFrom applied list).andThen fun count d =>
        d.readFrom count rest := by
  induction list generalizing c applied with
  | nil => rfl
  | cons statement list ih =>
      simp only [List.cons_append, readFrom]
      cases Rule.parse? statement with
      | none => rfl
      | some r => exact ih _ _

/- Statements applied before only count. -/
theorem readFrom_add
    (c : Chart G A)
    (applied count : Nat)
    (list : List String) :
    c.readFrom (applied + count) list =
      (c.readFrom count list).after applied := by
  induction list generalizing c count with
  | nil => rfl
  | cons statement list ih =>
      simp only [readFrom]
      cases Rule.parse? statement with
      | none => rfl
      | some r => exact ih _ (count + 1)

/- The statements of chunks are read as the chunks are. -/
theorem readFrom_flatMap
    (c : Chart G A)
    (chunks : List String) :
    c.readFrom 0 (chunks.flatMap statements) =
      (c.readChunks chunks).reading := by
  induction chunks generalizing c with
  | nil => rfl
  | cons chunk rest ih =>
      have hFirst :
          c.readFrom 0 (statements chunk) = c.read chunk :=
        rfl
      rw [List.flatMap_cons, readFrom_andThen, hFirst]
      unfold Reading.andThen
      cases hOutcome : (c.read chunk).outcome with
      | error e =>
          rw [readChunks_cons_of_error hOutcome]
          simp [Feed.reading, Feed.total]
      | ok count =>
          have hRest :=
            (c.read chunk).chart.readFrom_add count 0
              (rest.flatMap statements)
          rw [Nat.add_zero, ih] at hRest
          rw [readChunks_cons_of_ok hOutcome,
            Feed.reading_cons]
          exact hRest

/-
  One text is read like chunks if

    * it leaves the same chart,
    * it is read to its end if every chunk is, and then the
      counts of the chunks add up to its own,
    * if a chunk is the first at fault, it fails at the same
      statement, after the rules of the chunks before and
      the rules before the fault.
-/
structure ReadLike
    (c : Chart G A)
    (chunks : List String)
    (reading : Reading G A) : Prop where
  chart : reading.chart = (c.readChunks chunks).chart
  done :
    (∃ count, reading.outcome = .ok count) ↔
      (c.readChunks chunks).failure = none
  counted :
    (c.readChunks chunks).failure = none →
      reading.outcome = .ok (c.readChunks chunks).total
  failed :
    ∀ before chunk after e,
      chunks = before ++ chunk :: after →
        (c.readChunks before).failure = none →
          ((c.readChunks before).chart.read chunk).outcome =
              .error e →
            reading.outcome =
              .error
                { applied :=
                    (c.readChunks before).total + e.applied
                  statement := e.statement }

theorem readLike_of_statements
    (c : Chart G A)
    {chunks : List String}
    {text : String}
    (hText : statements text = chunks.flatMap statements) :
    c.ReadLike chunks (c.read text) := by
  have hReading :
      c.read text = (c.readChunks chunks).reading := by
    unfold read
    rw [hText, readFrom_flatMap]
  rw [hReading]
  refine ⟨rfl, ?_, ?_, ?_⟩
  · unfold Feed.reading
    cases (c.readChunks chunks).failure <;> simp
  · intro hDone
    simp only [Feed.reading, hDone]
  · intro before chunk after e hChunks hBefore hOutcome
    rw [hChunks, readChunks_of_error hBefore hOutcome]
    rfl

/-
  Reading chunks one after another is like reading them at
  once, with a semicolon on a line of its own between two
  chunks, or with a line feed only if each of them ends a
  statement.
-/
theorem read_in_chunks
    (c : Chart G A)
    (chunks : List String) :
    c.ReadLike chunks
        (c.read (String.intercalate "\n;\n" chunks)) ∧
      ((∀ chunk ∈ chunks, EndsStatement chunk.toList) →
        c.ReadLike chunks
          (c.read (String.intercalate "\n" chunks))) := by
  constructor
  · apply readLike_of_statements
    apply statements_intercalate
    intro chunk _ rest
    exact statementChars_append_separator _ _
  · intro hEnds
    apply readLike_of_statements
    apply statements_intercalate
    intro chunk hMember rest
    exact (hEnds chunk hMember).statementChars_append_newline _

/- Lines fed to the turnstile are chunks. -/
theorem readLines_eq
    (c : Turnstile.PlainChart)
    (lines : List String) :
    Turnstile.readLines c lines =
      match (c.readChunks lines).failure with
      | none => .ok (c.readChunks lines).chart
      | some e => .error e := by
  induction lines generalizing c with
  | nil => rfl
  | cons line rest ih =>
      unfold Turnstile.readLines
      cases hOutcome : (c.read line).outcome with
      | error e =>
          rw [readChunks_cons_of_error hOutcome]
          simp only [hOutcome]
      | ok count =>
          rw [readChunks_cons_of_ok hOutcome]
          simp only [hOutcome, ih]

/- The lines of the turnstile can be read at once. -/
theorem read_in_chunks_turnstile :
    let c : Turnstile.PlainChart := Chart.empty
    let lines := Turnstile.ruleLines
    (∀ line ∈ lines, EndsStatement line.toList) ∧
      (c.readChunks lines).failure = none ∧
      (c.readChunks lines).counts =
        [0, 0, 1, 1, 0, 1, 1] ∧
      c.ReadLike lines (c.read Turnstile.rules) ∧
      Turnstile.readLines c lines =
        .ok (c.read Turnstile.rules).chart := by
  intro c lines
  have hEnds :
      ∀ line ∈ lines, EndsStatement line.toList := by
    decide
  have hDone : (c.readChunks lines).failure = none := rfl
  have hLike : c.ReadLike lines (c.read Turnstile.rules) :=
    (c.read_in_chunks lines).2 hEnds
  have hLines := readLines_eq c lines
  rw [hDone, ← hLike.chart] at hLines
  exact ⟨hEnds, hDone, rfl, hLike, hLines⟩

end Chart

end Statechart
