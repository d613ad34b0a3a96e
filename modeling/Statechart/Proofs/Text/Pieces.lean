import Statechart.Text.Pieces

/-
  This file states how texts are taken apart again that were
  put together from words, blanks and marks.

  Key definitions include:
    * `Text.Solid`
    * `Text.Blank`
    * `Text.SingleSpaced`

  Key theorems include:
    * `Text.cutAt_append`
    * `Text.eq_of_cutAt`
    * `Text.trim_padded`
    * `Text.exists_blank_of_trim`
    * `Text.pieces_append_separator`
    * `Text.pieces_lines`
    * `Text.words_joinWith`
    * `Text.words_append_blank_run`
    * `Text.singleSpaced_joinWith`
    * `Text.joinWith_words`
-/

namespace Statechart

namespace Text

------------------------------------------------------------
-- Solid and Blank Texts
------------------------------------------------------------

/- No character of the text is blank. -/
def Solid (text : List Char) : Prop :=
  ∀ c ∈ text, isBlank c = false

/- Every character of the text is blank. -/
def Blank (text : List Char) : Prop :=
  ∀ c ∈ text, isBlank c = true

theorem Solid.tail
    {c : Char}
    {text : List Char}
    (hSolid : Solid (c :: text)) :
    Solid text :=
  fun d hMember => hSolid d (List.mem_cons_of_mem c hMember)

theorem Blank.tail
    {c : Char}
    {text : List Char}
    (hBlank : Blank (c :: text)) :
    Blank text :=
  fun d hMember => hBlank d (List.mem_cons_of_mem c hMember)

theorem Blank.cons
    {c : Char}
    {text : List Char}
    (hBlank : Blank text)
    (hFirst : isBlank c = true) :
    Blank (c :: text) :=
  List.forall_mem_cons.mpr ⟨hFirst, hBlank⟩

------------------------------------------------------------
-- Cutting
------------------------------------------------------------

/- A text is cut at the first mark. -/
theorem cutAt_append
    {mark : Char}
    {before : List Char}
    (hBefore : mark ∉ before)
    (after : List Char) :
    cutAt mark (before ++ mark :: after) =
      some (before, after) := by
  induction before with
  | nil => simp [cutAt]
  | cons c rest ih =>
      have hFirst : c ≠ mark := by
        intro hEq
        exact hBefore (hEq ▸ List.mem_cons_self)
      have hRest : mark ∉ rest := by
        intro hMember
        exact hBefore (List.mem_cons_of_mem c hMember)
      simp [cutAt, hFirst, ih hRest]

/- What is cut apart is put together again by the mark. -/
theorem eq_of_cutAt
    {mark : Char}
    {text before after : List Char}
    (hCut : cutAt mark text = some (before, after)) :
    text = before ++ mark :: after := by
  induction text generalizing before with
  | nil => cases hCut
  | cons c rest ih =>
      by_cases hFirst : c = mark
      · simp only [cutAt, hFirst, if_true] at hCut
        cases hCut
        rw [hFirst, List.nil_append]
      · simp only [cutAt, hFirst, if_false] at hCut
        cases hRest : cutAt mark rest with
        | none =>
            rw [hRest] at hCut
            cases hCut
        | some parts =>
            rw [hRest] at hCut
            cases hCut
            rw [ih hRest, List.cons_append]

------------------------------------------------------------
-- Trimming
------------------------------------------------------------

theorem trimStart_append
    {before : List Char}
    (hBefore : Blank before)
    (text : List Char) :
    trimStart (before ++ text) = trimStart text := by
  induction before with
  | nil => rfl
  | cons c rest ih =>
      have hFirst := hBefore c List.mem_cons_self
      simp [trimStart, hFirst, ih hBefore.tail]

theorem trimStart_of_solid
    {word : List Char}
    (hSolid : Solid word)
    (hNonempty : word ≠ [])
    (after : List Char) :
    trimStart (word ++ after) = word ++ after := by
  cases word with
  | nil => exact absurd rfl hNonempty
  | cons c rest =>
      have hFirst := hSolid c List.mem_cons_self
      simp [trimStart, hFirst]

theorem trimEnd_of_blank
    {text : List Char}
    (hBlank : Blank text) :
    trimEnd text = [] := by
  induction text with
  | nil => rfl
  | cons c rest ih =>
      have hFirst := hBlank c List.mem_cons_self
      simp [trimEnd, ih hBlank.tail, hFirst]

/- Blanks after a word are dropped, and nothing else. -/
theorem trimEnd_append
    {word after : List Char}
    (hSolid : Solid word)
    (hAfter : Blank after) :
    trimEnd (word ++ after) = word := by
  induction word with
  | nil => exact trimEnd_of_blank hAfter
  | cons c rest ih =>
      have hFirst := hSolid c List.mem_cons_self
      have hRest := ih hSolid.tail
      simp only [List.cons_append, trimEnd, hRest]
      cases rest with
      | nil => simp [hFirst]
      | cons d kept => rfl

/- What is dropped at the end of a text is blank. -/
theorem exists_blank_of_trimEnd
    (text : List Char) :
    ∃ after,
      Blank after ∧ text = trimEnd text ++ after := by
  induction text with
  | nil => exact ⟨[], by simp [Blank], rfl⟩
  | cons c rest ih =>
      rcases ih with ⟨after, hAfter, hRest⟩
      cases hKept : trimEnd rest with
      | cons d kept =>
          refine ⟨after, hAfter, ?_⟩
          rw [hKept] at hRest
          simp only [trimEnd, hKept]
          rw [hRest]
          rfl
      | nil =>
          rw [hKept, List.nil_append] at hRest
          simp only [trimEnd, hKept]
          split
          · rename_i hBlank
            exact
              ⟨c :: after, hAfter.cons hBlank, by
                rw [hRest, List.nil_append]⟩
          · exact
              ⟨after, hAfter, by
                rw [hRest, List.singleton_append]⟩

/- What is dropped at the start of a text is blank. -/
theorem exists_blank_of_trimStart
    (text : List Char) :
    ∃ before,
      Blank before ∧ text = before ++ trimStart text := by
  induction text with
  | nil => exact ⟨[], by simp [Blank], rfl⟩
  | cons c rest ih =>
      by_cases hBlank : isBlank c = true
      · rcases ih with ⟨before, hBefore, hRest⟩
        refine ⟨c :: before, hBefore.cons hBlank, ?_⟩
        simp only [trimStart, hBlank, if_true,
          List.cons_append]
        rw [← hRest]
      · refine ⟨[], by simp [Blank], ?_⟩
        simp [trimStart, hBlank]

theorem exists_blank_of_trim
    (text : List Char) :
    ∃ before after,
      Blank before ∧ Blank after ∧
        text = before ++ trim text ++ after := by
  rcases exists_blank_of_trimStart text with
    ⟨before, hBefore, hText⟩
  rcases exists_blank_of_trimEnd (trimStart text) with
    ⟨after, hAfter, hStart⟩
  refine ⟨before, after, hBefore, hAfter, ?_⟩
  rw [List.append_assoc]
  exact hText.trans (congrArg (before ++ ·) hStart)

/- Trimming removes what a word is padded with. -/
theorem trim_padded
    {before word after : List Char}
    (hBefore : Blank before)
    (hSolid : Solid word)
    (hNonempty : word ≠ [])
    (hAfter : Blank after) :
    trim (before ++ word ++ after) = word := by
  unfold trim
  rw [List.append_assoc, trimStart_append hBefore,
    trimStart_of_solid hSolid hNonempty,
    trimEnd_append hSolid hAfter]

------------------------------------------------------------
-- Splitting
------------------------------------------------------------

/- A text without separators is one piece. -/
theorem pieces_of_forall
    {isSeparator : Char → Bool}
    {text : List Char}
    (hText : ∀ c ∈ text, isSeparator c = false) :
    pieces isSeparator text = [text] := by
  induction text with
  | nil => rfl
  | cons c rest ih =>
      have hFirst := hText c List.mem_cons_self
      have hRest := ih fun d hMember =>
        hText d (List.mem_cons_of_mem c hMember)
      simp [pieces, hFirst, hRest, consFirst]

theorem pieces_ne_nil
    (isSeparator : Char → Bool)
    (text : List Char) :
    pieces isSeparator text ≠ [] := by
  cases text with
  | nil => simp [pieces]
  | cons c rest =>
      unfold pieces
      split
      · simp
      · cases pieces isSeparator rest <;> simp [consFirst]

/- A separator ends a piece, whatever stands before it. -/
theorem pieces_append_separator
    {isSeparator : Char → Bool}
    {c : Char}
    (hSeparator : isSeparator c = true)
    (before rest : List Char) :
    pieces isSeparator (before ++ c :: rest) =
      pieces isSeparator before ++
        pieces isSeparator rest := by
  induction before with
  | nil => simp [pieces, hSeparator]
  | cons d before ih =>
      simp only [List.cons_append, pieces, ih]
      split
      · rfl
      · cases hPieces : pieces isSeparator before with
        | nil => exact absurd hPieces (pieces_ne_nil _ _)
        | cons piece others => rfl

/- Lines that a separator ends are pieces of their own. -/
theorem pieces_lines
    {isSeparator : Char → Bool}
    {c : Char}
    (hSeparator : isSeparator c = true)
    {lines : List (List Char)}
    (hLines :
      ∀ line ∈ lines, ∀ d ∈ line, isSeparator d = false) :
    pieces isSeparator (lines.flatMap (· ++ [c])) =
      lines ++ [[]] := by
  induction lines with
  | nil => rfl
  | cons line rest ih =>
      rcases List.forall_mem_cons.mp hLines with
        ⟨hFirst, hRest⟩
      rw [List.flatMap_cons, List.append_assoc,
        List.singleton_append,
        pieces_append_separator hSeparator,
        pieces_of_forall hFirst, ih hRest]
      rfl

/- Pieces hold characters of the text, and no separators. -/
theorem of_mem_pieces
    {isSeparator : Char → Bool}
    {text piece : List Char}
    (hPiece : piece ∈ pieces isSeparator text)
    {c : Char}
    (hMember : c ∈ piece) :
    c ∈ text ∧ isSeparator c = false := by
  induction text generalizing piece with
  | nil =>
      rw [List.mem_singleton.mp hPiece] at hMember
      cases hMember
  | cons d rest ih =>
      unfold pieces at hPiece
      split at hPiece
      · rcases List.mem_cons.mp hPiece with rfl | hRest
        · cases hMember
        · have hOther := ih hRest hMember
          exact ⟨List.mem_cons_of_mem d hOther.1, hOther.2⟩
      · rename_i hFirst
        cases hPieces : pieces isSeparator rest with
        | nil => exact absurd hPieces (pieces_ne_nil _ _)
        | cons first others =>
            rw [hPieces] at hPiece ih
            rcases List.mem_cons.mp hPiece with rfl | hRest
            · rcases List.mem_cons.mp hMember with
                rfl | hOld
              · exact
                  ⟨List.mem_cons_self,
                    Bool.eq_false_iff.mpr hFirst⟩
              · have hOther := ih List.mem_cons_self hOld
                exact
                  ⟨List.mem_cons_of_mem d hOther.1, hOther.2⟩
            · have hOther :=
                ih (List.mem_cons_of_mem first hRest) hMember
              exact
                ⟨List.mem_cons_of_mem d hOther.1, hOther.2⟩

/- The pieces hold everything but the separators. -/
theorem flatten_pieces
    (isSeparator : Char → Bool)
    (text : List Char) :
    (pieces isSeparator text).flatten =
      text.filter fun c => !isSeparator c := by
  induction text with
  | nil => rfl
  | cons c rest ih =>
      unfold pieces
      split
      · rename_i hSeparator
        simp [hSeparator, ih]
      · rename_i hOther
        cases hPieces : pieces isSeparator rest with
        | nil => exact absurd hPieces (pieces_ne_nil _ _)
        | cons piece others =>
            rw [hPieces, List.flatten_cons] at ih
            simp [consFirst, hOther, ih]

/- A run without separators joins the first piece. -/
theorem pieces_append_of_forall
    {isSeparator : Char → Bool}
    {run after piece : List Char}
    {others : List (List Char)}
    (hRun : ∀ c ∈ run, isSeparator c = false)
    (hAfter : pieces isSeparator after = piece :: others) :
    pieces isSeparator (run ++ after) =
      (run ++ piece) :: others := by
  induction run with
  | nil => exact hAfter
  | cons c rest ih =>
      have hFirst := hRun c List.mem_cons_self
      have hRest := ih fun d hMember =>
        hRun d (List.mem_cons_of_mem c hMember)
      simp [pieces, hFirst, hRest, consFirst]

/- The last piece of a text is joined by what follows. -/
theorem exists_last_piece
    (isSeparator : Char → Bool)
    (text : List Char) :
    ∃ first last,
      ∀ after piece others,
        pieces isSeparator after = piece :: others →
          pieces isSeparator (text ++ after) =
            first ++ (last ++ piece) :: others := by
  induction text with
  | nil => exact ⟨[], [], fun _ _ _ hAfter => hAfter⟩
  | cons c rest ih =>
      rcases ih with ⟨first, last, hPieces⟩
      by_cases hSeparator : isSeparator c = true
      · refine ⟨[] :: first, last, ?_⟩
        intro after piece others hAfter
        simp [pieces, hSeparator, hPieces _ _ _ hAfter]
      · cases first with
        | nil =>
            refine ⟨[], c :: last, ?_⟩
            intro after piece others hAfter
            simp [pieces, hSeparator, hPieces _ _ _ hAfter,
              consFirst]
        | cons firstPiece between =>
            refine ⟨(c :: firstPiece) :: between, last, ?_⟩
            intro after piece others hAfter
            simp [pieces, hSeparator, hPieces _ _ _ hAfter,
              consFirst]

------------------------------------------------------------
-- Words
------------------------------------------------------------

/- A blank ends a word and belongs to none. -/
theorem words_append_of_isBlank
    {c : Char}
    (hBlank : isBlank c = true)
    (before rest : List Char) :
    words (before ++ c :: rest) =
      words before ++ words rest := by
  simp [words, pieces_append_separator hBlank]

theorem words_cons_of_blank
    {c : Char}
    (hBlank : isBlank c = true)
    (rest : List Char) :
    words (c :: rest) = words rest :=
  words_append_of_isBlank hBlank [] rest

/- Blanks at the end of a text belong to no word. -/
theorem words_append_of_blank
    {after : List Char}
    (hAfter : Blank after)
    (text : List Char) :
    words (text ++ after) = words text := by
  induction after generalizing text with
  | nil => rw [List.append_nil]
  | cons c rest ih =>
      have hFirst := hAfter c List.mem_cons_self
      have hRest : words rest = [] := ih hAfter.tail []
      rw [words_append_of_isBlank hFirst, hRest,
        List.append_nil]

/- A word is not empty and has no blanks. -/
theorem of_mem_words
    {text word : List Char}
    (hWord : word ∈ words text) :
    Solid word ∧ word ≠ [] := by
  rcases List.mem_filter.mp hWord with ⟨hPiece, hNonempty⟩
  refine ⟨?_, by simpa using hNonempty⟩
  intro c hMember
  exact (of_mem_pieces hPiece hMember).2

/- The words hold everything but the blanks. -/
theorem flatten_words
    (text : List Char) :
    (words text).flatten =
      text.filter fun c => !isBlank c := by
  rw [← flatten_pieces]
  unfold words
  exact List.flatten_filter_not_isEmpty

/- Blanks at the start of a text belong to no word. -/
theorem words_blank_append
    {before : List Char}
    (hBefore : Blank before)
    (text : List Char) :
    words (before ++ text) = words text := by
  induction before with
  | nil => rfl
  | cons c rest ih =>
      have hFirst := hBefore c List.mem_cons_self
      rw [List.cons_append, words_cons_of_blank hFirst,
        ih hBefore.tail]

/- Any blanks between two texts keep their words apart. -/
theorem words_append_blank_run
    {run : List Char}
    (hRun : Blank run)
    (hNonempty : run ≠ [])
    (before after : List Char) :
    words (before ++ run ++ after) =
      words before ++ words after := by
  cases run with
  | nil => exact absurd rfl hNonempty
  | cons c rest =>
      have hFirst := hRun c List.mem_cons_self
      rw [List.append_assoc, List.cons_append,
        words_append_of_isBlank hFirst,
        words_blank_append hRun.tail]

theorem words_of_solid
    {word : List Char}
    (hSolid : Solid word)
    (hNonempty : word ≠ []) :
    words word = [word] := by
  simp [words, pieces_of_forall hSolid, hNonempty]

theorem words_append
    {word : List Char}
    {c : Char}
    (hSolid : Solid word)
    (hNonempty : word ≠ [])
    (hBlank : isBlank c = true)
    (rest : List Char) :
    words (word ++ c :: rest) = word :: words rest := by
  rw [words_append_of_isBlank hBlank,
    words_of_solid hSolid hNonempty, List.singleton_append]

/- Words are found again after they were joined. -/
theorem words_joinWith
    {list : List (List Char)}
    (hWords : ∀ word ∈ list, Solid word ∧ word ≠ []) :
    words (joinWith [' '] list) = list := by
  have hSpace : isBlank ' ' = true := by decide
  induction list with
  | nil => rfl
  | cons word rest ih =>
      rcases hWords word List.mem_cons_self with
        ⟨hSolid, hNonempty⟩
      cases rest with
      | nil => exact words_of_solid hSolid hNonempty
      | cons next rest =>
          have hRest := ih fun other hMember =>
            hWords other (List.mem_cons_of_mem word hMember)
          simp only [joinWith, List.append_assoc,
            List.singleton_append]
          rw [words_append hSolid hNonempty hSpace, hRest]

------------------------------------------------------------
-- Single Spaces
------------------------------------------------------------

/-
  A text is single-spaced if all blanks in it are spaces with
  a character that is not blank on either side.
-/
def SingleSpaced (text : List Char) : Prop :=
  ∀ before c after,
    text = before ++ c :: after →
      isBlank c = true →
        c = ' ' ∧
          (∃ d ∈ before.getLast?, isBlank d = false) ∧
          ∃ d ∈ after.head?, isBlank d = false

theorem Solid.singleSpaced
    {text : List Char}
    (hSolid : Solid text) :
    SingleSpaced text := by
  rintro before c after rfl hBlank
  have hFirst := hSolid c (by simp)
  rw [hFirst] at hBlank
  cases hBlank

theorem Solid.exists_last
    {text : List Char}
    (hSolid : Solid text)
    (hNonempty : text ≠ []) :
    ∃ d ∈ text.getLast?, isBlank d = false :=
  ⟨text.getLast hNonempty,
    List.getLast?_eq_some_getLast hNonempty,
    hSolid _ (List.getLast_mem hNonempty)⟩

/- A word may stand before a single-spaced text. -/
theorem SingleSpaced.cons_word
    {word rest : List Char}
    (hSolid : Solid word)
    (hNonempty : word ≠ [])
    (hHead : ∃ d ∈ rest.head?, isBlank d = false)
    (hRest : SingleSpaced rest) :
    SingleSpaced (word ++ ' ' :: rest) := by
  intro before c after hText hBlank
  rcases List.append_eq_append_iff.mp hText with
    ⟨more, hBefore, hAfter⟩ | ⟨more, hWord, hAfter⟩
  · cases more with
    | nil =>
        cases hAfter
        rw [hBefore, List.append_nil]
        exact ⟨rfl, hSolid.exists_last hNonempty, hHead⟩
    | cons d more =>
        -- The blank stands in the rest of the text.
        rcases List.cons.inj hAfter with ⟨rfl, hMore⟩
        rcases hRest more c after hMore hBlank with
          ⟨hSpace, ⟨last, hLast, hLastSolid⟩, hFollowed⟩
        refine ⟨hSpace, ⟨last, ?_, hLastSolid⟩, hFollowed⟩
        rcases List.getLast?_eq_some_iff.mp hLast with
          ⟨init, rfl⟩
        have hEnd :
            before = word ++ ' ' :: init ++ [last] := by
          rw [hBefore]
          simp
        rw [hEnd]
        exact List.getLast?_concat
  · cases more with
    | nil =>
        cases hAfter
        rw [List.append_nil] at hWord
        rw [← hWord]
        exact ⟨rfl, hSolid.exists_last hNonempty, hHead⟩
    | cons d more =>
        rcases List.cons.inj hAfter with ⟨rfl, _⟩
        have hMember : c ∈ word := by simp [hWord]
        rw [hSolid c hMember] at hBlank
        cases hBlank

/- Joined texts consist of the texts and the separator. -/
theorem mem_joinWith
    {separator : List Char}
    {list : List (List Char)}
    {c : Char}
    (hMember : c ∈ joinWith separator list) :
    c ∈ separator ∨ ∃ piece ∈ list, c ∈ piece := by
  induction list with
  | nil => cases hMember
  | cons piece rest ih =>
      cases rest with
      | nil =>
          exact Or.inr ⟨piece, List.mem_cons_self, hMember⟩
      | cons next rest =>
          simp only [joinWith, List.mem_append] at hMember
          rcases hMember with (hFirst | hBetween) | hRest
          · exact Or.inr ⟨piece, List.mem_cons_self, hFirst⟩
          · exact Or.inl hBetween
          · rcases ih hRest with hBetween | ⟨other, hIn, hAt⟩
            · exact Or.inl hBetween
            · exact
                Or.inr
                  ⟨other, List.mem_cons_of_mem piece hIn, hAt⟩

/- What a separator is made of may be filtered out. -/
theorem filter_joinWith
    {keeps : Char → Bool}
    {separator : List Char}
    (hSeparator : separator.filter keeps = [])
    (list : List (List Char)) :
    (joinWith separator list).filter keeps =
      list.flatten.filter keeps := by
  induction list with
  | nil => rfl
  | cons piece rest ih =>
      cases rest with
      | nil => simp [joinWith]
      | cons next rest =>
          simp only [joinWith, List.filter_append, ih,
            hSeparator, List.append_nil, List.flatten_cons]

theorem head?_joinWith_cons
    (separator : List Char)
    {word : List Char}
    (hNonempty : word ≠ [])
    (rest : List (List Char)) :
    (joinWith separator (word :: rest)).head? =
      word.head? := by
  cases word with
  | nil => exact absurd rfl hNonempty
  | cons c word => cases rest <;> rfl

/- Words joined by spaces are single-spaced. -/
theorem singleSpaced_joinWith
    {list : List (List Char)}
    (hWords : ∀ word ∈ list, Solid word ∧ word ≠ []) :
    SingleSpaced (joinWith [' '] list) := by
  induction list with
  | nil =>
      intro before c after hText
      simp [joinWith] at hText
  | cons word rest ih =>
      rcases hWords word List.mem_cons_self with
        ⟨hSolid, hNonempty⟩
      have hOthers :
          ∀ other ∈ rest, Solid other ∧ other ≠ [] :=
        fun other hMember =>
          hWords other (List.mem_cons_of_mem word hMember)
      cases rest with
      | nil => exact hSolid.singleSpaced
      | cons next rest =>
          rcases hOthers next List.mem_cons_self with
            ⟨hNextSolid, hNextNonempty⟩
          have hHead :
              ∃ d ∈ (joinWith [' '] (next :: rest)).head?,
                isBlank d = false := by
            rw [head?_joinWith_cons _ hNextNonempty]
            exact
              ⟨next.head hNextNonempty,
                List.head?_eq_some_head hNextNonempty,
                hNextSolid _ (List.head_mem hNextNonempty)⟩
          have hJoined :=
            SingleSpaced.cons_word hSolid hNonempty hHead
              (ih hOthers)
          simpa only [joinWith, List.append_assoc,
            List.singleton_append] using hJoined

/- What follows a space in it is single-spaced again. -/
theorem SingleSpaced.of_cons_word
    {word rest : List Char}
    (hSpaced : SingleSpaced (word ++ ' ' :: rest)) :
    SingleSpaced rest := by
  intro before c after hRest hBlank
  have hText :
      word ++ ' ' :: rest =
        (word ++ ' ' :: before) ++ c :: after := by
    simp [hRest]
  rcases hSpaced _ c after hText hBlank with
    ⟨hSpace, ⟨last, hLast, hSolid⟩, hFollowed⟩
  refine ⟨hSpace, ?_, hFollowed⟩
  cases before with
  | nil =>
      have hFirst : isBlank ' ' = true := by decide
      have hSame : ' ' = last := by simpa using hLast
      rw [← hSame, hFirst] at hSolid
      cases hSolid
  | cons d more =>
      refine ⟨last, ?_, hSolid⟩
      simpa [List.getLast?_cons] using hLast

/-
  A single-spaced text is what its words are joined to. The
  word that is being read has moved in front of the text.
-/
theorem joinWith_words
    {word text : List Char}
    (hSolid : Solid word)
    (hSpaced : SingleSpaced (word ++ text)) :
    joinWith [' '] (words (word ++ text)) = word ++ text := by
  induction text generalizing word with
  | nil =>
      rw [List.append_nil]
      cases word with
      | nil => rfl
      | cons c word =>
          rw [words_of_solid hSolid (List.cons_ne_nil _ _)]
          rfl
  | cons c rest ih =>
      by_cases hBlank : isBlank c = true
      · rcases hSpaced word c rest rfl hBlank with
          ⟨rfl, ⟨last, hLast, _⟩, ⟨next, hNext, _⟩⟩
        have hNonempty : word ≠ [] := by
          rintro rfl
          cases hLast
        have hRest :=
          @ih [] (by simp [Solid]) hSpaced.of_cons_word
        rw [List.nil_append] at hRest
        rw [words_append hSolid hNonempty hBlank]
        cases hWords : words rest with
        | nil =>
            rw [hWords] at hRest
            rw [← hRest] at hNext
            cases hNext
        | cons first others =>
            rw [hWords] at hRest
            simp [joinWith, hRest]
      · have hLonger : Solid (word ++ [c]) := by
          intro d hMember
          rcases List.mem_append.mp hMember with
            hOld | hLast
          · exact hSolid d hOld
          · rw [List.mem_singleton.mp hLast]
            exact Bool.eq_false_iff.mpr hBlank
        have hText :
            word ++ c :: rest = (word ++ [c]) ++ rest := by
          simp
        rw [hText] at hSpaced ⊢
        exact ih hLonger hSpaced

end Text

end Statechart
