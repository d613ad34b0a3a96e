import Statechart.Json.Reading
import Statechart.Json.Writing
import Statechart.Proofs.Text.Decimal

/-
  This file states that written JSON values are read back.
  Strings may hold any characters: each one is written as an
  escape or as itself and gives one code unit when it is
  read. A value is read up to where it ends, so what follows
  it must not look like more of it.

  Key definitions include:
    * `Json.Ended`
    * `Json.Plain`

  Key theorems include:
    * `Json.readUnits_escape`
    * `Json.unitsText?_toNat`
    * `Json.readNumeral_ofNat`
    * `Json.Plain.readValue_chars`
    * `Json.Plain.read?_write`
-/

namespace Statechart

namespace Json

------------------------------------------------------------
-- Blanks
------------------------------------------------------------

theorem skipBlanks_cons
    {c : Char}
    (hOther : isSpace c = false)
    (rest : List Char) :
    skipBlanks (c :: rest) = c :: rest := by
  simp [skipBlanks, hOther]

------------------------------------------------------------
-- Strings
------------------------------------------------------------

/- Control characters have two hexadecimal digits. -/
theorem hexUnit?_control
    {n : Nat}
    (hControl : n < 0x20) :
    hexUnit? '0' '0' (hexDigit (n / 16)) (hexDigit (n % 16)) =
      some n := by
  have hAll :
      ∀ k < 0x20,
        hexUnit? '0' '0' (hexDigit (k / 16))
            (hexDigit (k % 16)) =
          some k := by
    decide
  exact hAll n hControl

/- An escape of one letter gives its code unit. -/
theorem readUnits_letter
    {letter : Char}
    {unit : Nat}
    (hLetter : letterUnit? letter = some unit)
    (text : List Char) :
    readUnits ('\\' :: letter :: text) =
      (readUnits text).map fun r => (unit :: r.1, r.2) := by
  have hOther : letter ≠ 'u' := by
    rintro rfl
    cases hLetter
  cases hText : readUnits text <;>
    simp [readUnits, hOther, hLetter, hText]

/- A character that needs no escape gives its code point. -/
theorem readUnits_cons
    {c : Char}
    (hQuote : c ≠ '"')
    (hBackslash : c ≠ '\\')
    (hControl : ¬ c.toNat < 0x20)
    (text : List Char) :
    readUnits (c :: text) =
      (readUnits text).map fun r => (c.toNat :: r.1, r.2) := by
  cases hText : readUnits text <;>
    simp [readUnits, hBackslash, hControl, hText]

/-
  A character is written as an escape of one letter, as an
  escape of four digits or as itself.
-/
theorem escapeChar_cases (c : Char) :
    (∃ letter,
      escapeChar c = ['\\', letter] ∧
        letterUnit? letter = some c.toNat) ∨
    (c.toNat < 0x20 ∧
      escapeChar c =
        ['\\', 'u', '0', '0', hexDigit (c.toNat / 16),
          hexDigit (c.toNat % 16)]) ∨
    (escapeChar c = [c] ∧ c ≠ '"' ∧ c ≠ '\\' ∧
      ¬ c.toNat < 0x20) := by
  generalize hWritten : escapeChar c = written
  unfold escapeChar at hWritten
  -- Seven characters have an escape of one letter.
  iterate 7
    split at hWritten
    · rename_i hChar
      subst hChar
      exact Or.inl ⟨_, hWritten.symm, rfl⟩
  split at hWritten
  · rename_i hControl
    exact Or.inr (Or.inl ⟨hControl, hWritten.symm⟩)
  · rename_i hControl
    exact
      Or.inr (Or.inr ⟨hWritten.symm, ‹_›, ‹_›, hControl⟩)

/- A character gives one code unit, escaped or not. -/
theorem readUnits_escapeChar
    (c : Char)
    (text : List Char) :
    readUnits (escapeChar c ++ text) =
      (readUnits text).map fun r => (c.toNat :: r.1, r.2) := by
  rcases escapeChar_cases c with
    ⟨letter, hEscape, hLetter⟩ | ⟨hControl, hEscape⟩ |
    ⟨hEscape, hQuote, hBackslash, hControl⟩
  · rw [hEscape]
    exact readUnits_letter hLetter text
  · rw [hEscape]
    simp only [List.cons_append, List.nil_append]
    rw [readUnits, hexUnit?_control hControl]
    cases readUnits text <;> rfl
  · rw [hEscape]
    exact readUnits_cons hQuote hBackslash hControl text

/- The characters of a written string are read back. -/
theorem readUnits_escape
    (content rest : List Char) :
    readUnits (escape content ++ '"' :: rest) =
      some (content.map Char.toNat, rest) := by
  induction content with
  | nil => simp [escape, readUnits]
  | cons c content ih =>
      unfold escape at ih ⊢
      rw [List.flatMap_cons, List.append_assoc,
        readUnits_escapeChar, ih]
      rfl

/- The code unit of a character is half of no pair. -/
theorem not_surrogate_toNat (c : Char) :
    isLeadingUnit c.toNat = false ∧
      isTrailingUnit c.toNat = false := by
  have hValid : c.toNat < 0xD800 ∨ 0xDFFF < c.toNat := by
    rcases c.valid with hLow | hHigh
    · exact Or.inl hLow
    · exact Or.inr hHigh.1
  simp only [isLeadingUnit, isTrailingUnit,
    Bool.and_eq_false_iff, decide_eq_false_iff_not]
  omega

theorem combineUnits?_toNat
    (content : List Char) :
    combineUnits? (content.map Char.toNat) = some content := by
  induction content with
  | nil => rfl
  | cons c rest ih =>
      rcases not_surrogate_toNat c with
        ⟨hLeading, hTrailing⟩
      cases rest with
      | nil =>
          simp [combineUnits?, hLeading, hTrailing]
      | cons d rest =>
          simp only [List.map_cons] at ih ⊢
          simp [combineUnits?, hLeading, hTrailing, ih]

theorem unitsText?_toNat (text : String) :
    unitsText? (text.toList.map Char.toNat) = some text := by
  simp [unitsText?, combineUnits?_toNat]

------------------------------------------------------------
-- Numbers
------------------------------------------------------------

/-
  The text is at its end or goes on behind the value in an
  item, in a field or in what holds them.
-/
def Ended (rest : List Char) : Prop :=
  ∀ c ∈ rest.head?, c = ',' ∨ c = ']' ∨ c = '\x7d'

theorem Ended.cons
    {c : Char}
    (hMark : c = ',' ∨ c = ']' ∨ c = '\x7d')
    (rest : List Char) :
    Ended (c :: rest) := by
  intro d hFirst
  rwa [← Option.some.inj hFirst]

theorem Ended.noDigitFirst
    {rest : List Char}
    (hEnded : Ended rest) :
    Text.NoDigitFirst rest := by
  intro c hFirst
  rcases hEnded c hFirst with rfl | rfl | rfl <;> rfl

/- Natural numbers are written without leading zeros. -/
theorem readWhole_decimal
    {rest : List Char}
    (hRest : Text.NoDigitFirst rest)
    (n : Nat) :
    readWhole (Text.decimal n ++ rest) =
      some (Text.decimal n, rest) := by
  have hSpan :=
    Text.spanDigits_append (Text.allDigits_decimal n) hRest
  unfold readWhole
  rw [hSpan]
  cases n with
  | zero => rfl
  | succ n =>
      have hHead := Text.decimal_head (Nat.succ_pos n)
      split
      · rename_i hNone
        exact
          absurd (congrArg Prod.fst hNone)
            (Text.decimal_ne_nil _)
      · rename_i hZero
        have hDecimal := congrArg Prod.fst hZero
        exact absurd (congrArg List.head? hDecimal) hHead
      · rename_i hZero
        have hDecimal := congrArg Prod.fst hZero
        exact absurd (congrArg List.head? hDecimal) hHead
      · rename_i hDigits
        cases hDigits
        rfl

theorem readFraction_of_ended
    {rest : List Char}
    (hEnded : Ended rest) :
    readFraction rest = some ([], rest) := by
  unfold readFraction
  split
  · exact absurd (hEnded '.' rfl) (by decide)
  · rfl

theorem readExponent_of_ended
    {rest : List Char}
    (hEnded : Ended rest) :
    readExponent rest = some ([], rest) := by
  unfold readExponent
  split
  · rename_i c rest
    rw [if_neg]
    rintro (rfl | rfl)
    · exact absurd (hEnded 'e' rfl) (by decide)
    · exact absurd (hEnded 'E' rfl) (by decide)
  · rfl

theorem readNumeral_ofNat
    {rest : List Char}
    (hEnded : Ended rest)
    (n : Nat) :
    readNumeral (Text.decimal n ++ rest) =
      some (.ofNat n, rest) := by
  have hRead :
      readUnsigned false (Text.decimal n ++ rest) =
        some (.ofNat n, rest) := by
    unfold readUnsigned
    rw [readWhole_decimal hEnded.noDigitFirst]
    simp only [readFraction_of_ended hEnded,
      readExponent_of_ended hEnded]
    rfl
  rcases (Text.allDigits_decimal n).exists_first
      (Text.decimal_ne_nil n) with
    ⟨c, digits, hDecimal, hFirst⟩
  unfold readNumeral
  split
  · rename_i hSign
    rw [hDecimal] at hSign
    cases hSign
    cases hFirst
  · exact hRead

------------------------------------------------------------
-- Values
------------------------------------------------------------

/-
  A plain value holds texts and natural numbers: strings and
  names of fields have a content, and numbers are natural.
-/
inductive Plain : Json → Prop where
  | null : Plain .null
  | bool (value : Bool) : Plain (.bool value)
  | number (n : Nat) : Plain (.ofNat n)
  | string (content : String) : Plain (.ofText content)
  | list
      {items : List Json}
      (hItems : ∀ j ∈ items, Plain j) :
      Plain (.list items)
  | object
      {fields : List (Option String × Json)}
      (hNames : ∀ f ∈ fields, ∃ name, f.1 = some name)
      (hValues : ∀ f ∈ fields, Plain f.2) :
      Plain (.object fields)

/-
  The value is read up to where it ends, with any budget that
  its length does not exceed.
-/
def ReadsBack (j : Json) : Prop :=
  ∀ budget rest,
    j.chars.length ≤ budget →
      Ended rest →
        readValue budget (j.chars ++ rest) = some (j, rest)

/- No value begins with a closing bracket. -/
theorem readValue_of_bracket
    {text rest : List Char}
    (hText : skipBlanks text = ']' :: rest)
    (budget : Nat) :
    readValue budget text = none := by
  cases budget with
  | zero => rfl
  | succ budget =>
      simp [readValue, hText, readNumeral, readUnsigned,
        readWhole, Text.spanDigits]

/- What begins with a digit is a number. -/
theorem readValue_of_digit
    {c : Char}
    (hDigit : c.isDigit = true)
    (budget : Nat)
    (rest : List Char) :
    readValue (budget + 1) (c :: rest) =
      (readNumeral (c :: rest)).map
        fun r => (.number r.1, r.2) := by
  have hOther : ∀ {d : Char}, d.isDigit = false → c ≠ d := by
    rintro d hNone rfl
    rw [hNone] at hDigit
    cases hDigit
  have hSpace : isSpace c = false := by
    simp [isSpace, @hOther ' ' rfl, @hOther '\t' rfl,
      @hOther '\n' rfl, @hOther '\r' rfl]
  rw [readValue, skipBlanks_cons hSpace]
  split
  iterate 6
    · rename_i hText
      exact absurd (List.cons.inj hText).1 (hOther rfl)
  cases readNumeral (c :: rest) <;> rfl

------------------------------------------------------------
-- Simple Values
------------------------------------------------------------

theorem readsBack_ofNat (n : Nat) :
    (ofNat n).ReadsBack := by
  intro budget rest hBudget hEnded
  have hChars : (ofNat n).chars = Text.decimal n := by
    simp [ofNat, chars, Numeral.chars, Numeral.ofNat]
  have hRead := readNumeral_ofNat hEnded n
  rcases (Text.allDigits_decimal n).exists_first
      (Text.decimal_ne_nil n) with
    ⟨c, digits, hDecimal, hFirst⟩
  rw [hChars, hDecimal] at hBudget ⊢
  rw [hDecimal] at hRead
  cases budget with
  | zero => cases hBudget
  | succ budget =>
      rw [List.cons_append] at hRead ⊢
      rw [readValue_of_digit hFirst, hRead]
      rfl

theorem readsBack_ofText (content : String) :
    (ofText content).ReadsBack := by
  intro budget rest hBudget _
  have hText :
      (ofText content).chars ++ rest =
        '"' :: (escape content.toList ++ '"' :: rest) := by
    simp [ofText, chars, contentChars, quoted]
  cases budget with
  | zero => cases hBudget
  | succ budget =>
      rw [hText, readValue, skipBlanks_cons rfl]
      simp only [readUnits_escape, unitsText?_toNat]
      rfl

------------------------------------------------------------
-- Lists
------------------------------------------------------------

theorem readItems_of_bracket
    {text rest : List Char}
    (hText : skipBlanks text = ']' :: rest)
    (budget : Nat) :
    readItems budget text = none := by
  cases budget with
  | zero => rfl
  | succ budget =>
      rw [readItems, readValue_of_bracket hText]

/- Items are read back, each of them up to its comma. -/
theorem readItems_itemChars
    {items : List Json}
    (hReads : ∀ j ∈ items, j.ReadsBack)
    (hNonempty : items ≠ [])
    (budget : Nat)
    (hBudget : (itemChars items).length < budget)
    (rest : List Char) :
    readItems budget (itemChars items ++ ']' :: rest) =
      some (items, rest) := by
  have hComma : isSpace ',' = false := rfl
  induction items generalizing budget with
  | nil => exact absurd rfl hNonempty
  | cons item others ih =>
      have hItem := hReads item List.mem_cons_self
      have hOthers := ih fun j hMember =>
        hReads j (List.mem_cons_of_mem item hMember)
      cases budget with
      | zero => cases hBudget
      | succ budget =>
          cases others with
          | nil =>
              simp only [itemChars] at hBudget ⊢
              rw [readItems,
                hItem budget _ (by omega)
                  (.cons (by decide) rest)]
              rfl
          | cons next more =>
              simp only [itemChars, List.length_append,
                List.length_cons] at hBudget
              have hMore :=
                hOthers (List.cons_ne_nil _ _) budget
                  (by omega)
              simp only [itemChars, List.append_assoc,
                List.cons_append]
              rw [readItems,
                hItem budget _ (by omega)
                  (.cons (by decide) _)]
              simp only [skipBlanks_cons hComma, hMore]

theorem readsBack_list
    {items : List Json}
    (hReads : ∀ j ∈ items, j.ReadsBack) :
    (list items).ReadsBack := by
  intro budget rest hBudget _
  simp only [chars, List.length_append, List.length_cons]
    at hBudget
  cases budget with
  | zero => omega
  | succ budget =>
      simp only [chars, List.cons_append, List.append_assoc,
        List.nil_append]
      rw [readValue, skipBlanks_cons rfl]
      cases items with
      | nil => rfl
      | cons item others =>
          have hItems :=
            readItems_itemChars hReads (List.cons_ne_nil _ _)
              budget (by omega) rest
          simp only
          split
          · rename_i hClosed
            rw [readItems_of_bracket hClosed] at hItems
            cases hItems
          · rw [hItems]

------------------------------------------------------------
-- Objects
------------------------------------------------------------

theorem readName_contentChars
    (name : String)
    (rest : List Char) :
    readName (contentChars (some name) ++ ':' :: rest) =
      some (some name, rest) := by
  have hText :
      contentChars (some name) ++ ':' :: rest =
        '"' :: (escape name.toList ++ '"' :: ':' :: rest) := by
    simp [contentChars, quoted]
  rw [hText, readName, skipBlanks_cons rfl]
  simp only [readUnits_escape, unitsText?_toNat]
  rfl

/- Fields are read back, each of them up to its comma. -/
theorem readFields_fieldChars
    {fields : List (Option String × Json)}
    (hNames : ∀ f ∈ fields, ∃ name, f.1 = some name)
    (hReads : ∀ f ∈ fields, f.2.ReadsBack)
    (hNonempty : fields ≠ [])
    (budget : Nat)
    (hBudget : (fieldChars fields).length < budget)
    (rest : List Char) :
    readFields budget (fieldChars fields ++ '\x7d' :: rest) =
      some (fields, rest) := by
  have hComma : isSpace ',' = false := rfl
  induction fields generalizing budget with
  | nil => exact absurd rfl hNonempty
  | cons field others ih =>
      rcases field with ⟨content, value⟩
      rcases hNames _ List.mem_cons_self with
        ⟨name, hName⟩
      have hValue := hReads _ List.mem_cons_self
      have hOthers :=
        ih
          (fun f hMember =>
            hNames f (List.mem_cons_of_mem _ hMember))
          (fun f hMember =>
            hReads f (List.mem_cons_of_mem _ hMember))
      simp only at hName hValue
      subst hName
      cases budget with
      | zero => cases hBudget
      | succ budget =>
          cases others with
          | nil =>
              simp only [fieldChars, List.length_append,
                List.length_cons] at hBudget
              simp only [fieldChars, List.append_assoc,
                List.cons_append]
              rw [readFields, readName_contentChars]
              simp only
              rw [hValue budget _ (by omega)
                (.cons (by decide) rest)]
              rfl
          | cons next more =>
              simp only [fieldChars, List.length_append,
                List.length_cons] at hBudget
              have hMore :=
                hOthers (List.cons_ne_nil _ _) budget
                  (by omega)
              simp only [fieldChars, List.append_assoc,
                List.cons_append]
              rw [readFields, readName_contentChars]
              simp only
              rw [hValue budget _ (by omega)
                (.cons (by decide) _)]
              simp only [skipBlanks_cons hComma, hMore]

theorem readsBack_object
    {fields : List (Option String × Json)}
    (hNames : ∀ f ∈ fields, ∃ name, f.1 = some name)
    (hReads : ∀ f ∈ fields, f.2.ReadsBack) :
    (object fields).ReadsBack := by
  intro budget rest hBudget _
  simp only [chars, List.length_append, List.length_cons]
    at hBudget
  cases budget with
  | zero => omega
  | succ budget =>
      simp only [chars, List.cons_append, List.append_assoc,
        List.nil_append]
      rw [readValue, skipBlanks_cons rfl]
      cases fields with
      | nil => rfl
      | cons field others =>
          have hFields :=
            readFields_fieldChars hNames hReads
              (List.cons_ne_nil _ _) budget (by omega) rest
          have hQuote :
              ∃ more,
                skipBlanks
                    (fieldChars (field :: others) ++
                      '\x7d' :: rest) =
                  '"' :: more := by
            cases others <;> exact ⟨_, rfl⟩
          rcases hQuote with ⟨more, hQuote⟩
          simp only [hQuote, hFields]
          rfl

------------------------------------------------------------
-- Plain Values
------------------------------------------------------------

/- The induction follows how plain values are built. -/
theorem Plain.readsBack
    {j : Json}
    (hPlain : j.Plain) :
    j.ReadsBack := by
  induction hPlain with
  | null =>
      intro budget rest hBudget _
      cases budget with
      | zero => cases hBudget
      | succ budget => rfl
  | bool value =>
      intro budget rest hBudget _
      cases budget with
      | zero => cases value <;> cases hBudget
      | succ budget => cases value <;> rfl
  | number n => exact readsBack_ofNat n
  | string content => exact readsBack_ofText content
  | list _ ih => exact readsBack_list ih
  | object hNames _ ih => exact readsBack_object hNames ih

/- A written value is read back if it is plain. -/
theorem Plain.read?_write
    {j : Json}
    (hPlain : j.Plain) :
    read? j.write = some j := by
  have hRead :=
    hPlain.readsBack (2 * j.chars.length + 2) [] (by omega)
      nofun
  rw [List.append_nil] at hRead
  unfold read? write ofChars?
  rw [String.toList_ofList, hRead]
  rfl

end Json

end Statechart
