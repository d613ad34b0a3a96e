import Statechart.Proofs.Dot.Document

/-
  This file defines how dot reads a drawing: the characters
  are scanned into tokens, an attribute list ends its
  statement, and every statement of a node or an edge puts
  one on the picture. A bare name and a quoted one with the
  same characters are the same token, so they name the same
  node.

  What is proved is that a document is read as the picture
  of its statements, whatever the names in them are.

  Key definitions include:
    * `Token`
    * `Mode.step`
    * `scan`
    * `Picture`
    * `Picture.read?`
    * `Statement.tokens`
    * `Picture.ofStatements`

  Key theorems include:
    * `scan_append`
    * `reads_bare`
    * `reads_quote`
    * `reads_line`
    * `Picture.read?_document`
-/

namespace Statechart

namespace Dot

------------------------------------------------------------
-- Tokens
------------------------------------------------------------

/- The words that are no names unless they are quoted. -/
inductive Keyword where
  | strict
  | graph
  | digraph
  | subgraph
  | node
  | edge
deriving DecidableEq, Repr

namespace Keyword

/- All keywords. -/
def all : List Keyword :=
  [strict, graph, digraph, subgraph, node, edge]

/- The lower-case letters of a keyword. -/
def word : Keyword → String
  | strict => "strict"
  | graph => "graph"
  | digraph => "digraph"
  | subgraph => "subgraph"
  | node => "node"
  | edge => "edge"

/- The keyword that a bare word is, in whatever case. -/
def ofWord? (word : List Char) : Option Keyword :=
  all.find? fun k =>
    k.word.toList == word.map Char.toLower

end Keyword

/- What the characters of a document are put together to. -/
inductive Token where
  | keyword (k : Keyword)
  | name (text : String)
  | arrow
  | leftBrace
  | rightBrace
  | leftBracket
  | rightBracket
  | equals
  | comma
  | semicolon
deriving DecidableEq, Repr

namespace Token

/- A bare word is a keyword or a name. -/
def ofWord (word : List Char) : Token :=
  match Keyword.ofWord? word with
  | some k => keyword k
  | none => name (String.ofList word)

/- The token that a character is by itself. -/
def ofChar? (c : Char) : Option Token :=
  if c = '\x7b' then some leftBrace
  else if c = '\x7d' then some rightBrace
  else if c = '[' then some leftBracket
  else if c = ']' then some rightBracket
  else if c = '=' then some equals
  else if c = ',' then some comma
  else if c = ';' then some semicolon
  else none

end Token

------------------------------------------------------------
-- Scanning
------------------------------------------------------------

/-
  Between two tokens, or within a token of which some
  characters are seen: a bare word, a quoted name, a quoted
  name right after a backslash, or an arrow.
-/
inductive Mode where
  | between
  | bare (seen : List Char)
  | quoted (seen : List Char)
  | escaped (seen : List Char)
  | dash
deriving DecidableEq, Repr

/- The tokens that are complete, and how to go on. -/
abbrev Scanned : Type :=
  Option (List Token × Mode)

/- The characters of bare names and numerals. -/
def isBare (c : Char) : Bool :=
  c.isAlphanum || c == '_' || c == '.' || 128 ≤ c.toNat

/- Scan a character that starts a token or is a blank. -/
def begin? (c : Char) : Scanned :=
  if c.isWhitespace then some ([], .between)
  else if isBare c then some ([], .bare [c])
  else if c = '"' then some ([], .quoted [])
  else if c = '-' then some ([], .dash)
  else (Token.ofChar? c).map fun t => ([t], .between)

/- Scan one character. -/
def Mode.step : Mode → Char → Scanned
  | .between, c => begin? c
  | .bare seen, c =>
      if isBare c then some ([], .bare (seen ++ [c]))
      else
        (begin? c).map fun (tokens, mode) =>
          (.ofWord seen :: tokens, mode)
  | .quoted seen, c =>
      if c = '"' then
        some ([.name (String.ofList seen)], .between)
      else if c = '\\' then some ([], .escaped seen)
      else some ([], .quoted (seen ++ [c]))
  | .escaped seen, c => some ([], .quoted (seen ++ [c]))
  | .dash, c =>
      if c = '>' then some ([.arrow], .between) else none

/- Scan some characters. -/
def scan (mode : Mode) : List Char → Scanned
  | [] => some ([], mode)
  | c :: rest =>
      (mode.step c).bind fun (tokens, next) =>
        (scan next rest).map fun (more, last) =>
          (tokens ++ more, last)

/- Scanning goes on where it stopped. -/
theorem scan_append
    {mode next : Mode}
    {chars : List Char}
    {tokens : List Token}
    (hScan : scan mode chars = some (tokens, next))
    (rest : List Char) :
    scan mode (chars ++ rest) =
      (scan next rest).map fun (more, last) =>
        (tokens ++ more, last) := by
  induction chars generalizing mode tokens with
  | nil =>
      cases hScan
      simp
  | cons c chars ih =>
      simp only [scan, Option.bind_eq_some_iff,
        Option.map_eq_some_iff] at hScan
      rcases hScan with
        ⟨⟨first, middle⟩, hStep, ⟨others, last⟩, hRest, hEq⟩
      cases hEq
      simp [scan, hStep, ih hRest, Function.comp_def]

/- The quoted characters of a name are all seen. -/
theorem scan_escape
    (seen text : List Char) :
    scan (.quoted seen) (escape text) =
      some ([], .quoted (seen ++ text)) := by
  induction text generalizing seen with
  | nil => simp [escape, scan]
  | cons c text ih =>
      by_cases hMark : c = '"' ∨ c = '\\'
      · simp [escape, hMark, scan, Mode.step, ih]
      · rw [not_or] at hMark
        simp [escape, hMark, scan, Mode.step, ih]

/-
  Some characters read as the tokens they are made of, if
  the last of these ends where the characters end.
-/
def Reads
    (chars : List Char)
    (tokens : List Token) : Prop :=
  scan .between chars = some (tokens, .between)

instance
    (chars : List Char)
    (tokens : List Token) : Decidable (Reads chars tokens) :=
  inferInstanceAs (Decidable (_ = _))

theorem Reads.append
    {chars chars' : List Char}
    {tokens tokens' : List Token}
    (hFirst : Reads chars tokens)
    (hSecond : Reads chars' tokens') :
    Reads (chars ++ chars') (tokens ++ tokens') := by
  unfold Reads at *
  rw [scan_append hFirst, hSecond]
  rfl

/- Bare characters are no blanks, so they start a word. -/
theorem begin?_of_isBare
    {c : Char}
    (hBare : isBare c = true) :
    begin? c = some ([], .bare [c]) := by
  have hSolid : c.isWhitespace = false := by
    apply Bool.eq_false_iff.mpr
    intro hBlank
    simp only [Char.isWhitespace, Bool.or_eq_true,
      decide_eq_true_eq] at hBlank
    rcases hBlank with ((rfl | rfl) | rfl) | rfl
    all_goals exact absurd hBare (by decide)
  simp [begin?, hSolid, hBare]

/- The characters of a bare word are all seen. -/
theorem scan_bare
    {word : List Char}
    (hBare : ∀ c ∈ word, isBare c = true)
    (seen : List Char) :
    scan (.bare seen) word =
      some ([], .bare (seen ++ word)) := by
  induction word generalizing seen with
  | nil => simp [scan]
  | cons c word ih =>
      rw [List.forall_mem_cons] at hBare
      simp [scan, Mode.step, hBare.1, ih hBare.2]

/-
  A bare name that is no keyword is read as the same token
  as the quoted name. It ends at a space.
-/
theorem reads_bare
    {name : String}
    (hSome : name.toList ≠ [])
    (hBare : name.toList.all isBare = true)
    (hName : Keyword.ofWord? name.toList = none) :
    Reads (name.toList ++ [' ']) [.name name] := by
  have hWord : Token.ofWord name.toList = .name name := by
    unfold Token.ofWord
    rw [hName, String.ofList_toList]
  have hEnd :
      scan (.bare name.toList) [' '] =
        some ([.name name], .between) := by
    rw [← hWord]
    rfl
  rcases List.exists_cons_of_ne_nil hSome with
    ⟨c, word, hChars⟩
  rw [List.all_eq_true, hChars, List.forall_mem_cons]
    at hBare
  have hStart :
      scan .between [c] = some ([], .bare [c]) := by
    simp [scan, Mode.step, begin?_of_isBare hBare.1]
  have hSeen :
      scan .between name.toList =
        some ([], .bare name.toList) := by
    rw [hChars, ← List.singleton_append, scan_append hStart,
      scan_bare hBare.2 [c]]
    rfl
  unfold Reads
  rw [scan_append hSeen, hEnd]
  rfl

/- A quoted name is read as the name that was written. -/
theorem reads_quote (text : String) :
    Reads (quote text).toList [.name text] := by
  have hOpen :
      scan .between ['"'] = some ([], .quoted []) := by
    rfl
  have hClose :
      scan (.quoted text.toList) ['"'] =
        some ([.name text], .between) := by
    simp [scan, Mode.step]
  have hQuoted :
      (quote text).toList =
        ['"'] ++ (escape text.toList ++ ['"']) := by
    simp [quote]
  unfold Reads
  rw [hQuoted, scan_append hOpen,
    scan_append (scan_escape [] _), List.nil_append, hClose]
  rfl

------------------------------------------------------------
-- Reading Lines
------------------------------------------------------------

/- The tokens of an attribute list. -/
def attributes (list : List (String × String)) : List Token :=
  [.leftBracket] ++
    List.intercalate [.comma]
      (list.map fun (key, value) =>
        [.name key, .equals, .name value]) ++
    [.rightBracket]

namespace Statement

/- The tokens of a statement. -/
def tokens : Statement → List Token
  | direction d =>
      [.name "rankdir", .equals, .name d.code]
  | nodeDefaults =>
      .keyword .node ::
        attributes
          [("shape", "circle"), ("height", "1"),
            ("width", "1")]
  | startMarker =>
      .name startNode ::
        attributes
          [("label", ""), ("shape", "circle"),
            ("style", "filled"), ("color", "black"),
            ("height", "0.25"), ("width", "0.25")]
  | node state highlighted =>
      .name state ::
        attributes
          (("label", state) ::
            if highlighted then [("peripheries", "2")]
            else [])
  | startEdge state =>
      [.name startNode, .arrow, .name state]
  | edge source destination label =>
      .name source :: .arrow :: .name destination ::
        attributes [("label", label)]

/- The label is the first attribute of nodes and edges. -/
theorem reads_labelled :
    Reads " [label=".toList
      [.leftBracket, .name "label", .equals] := by
  rfl

theorem reads_nodeTail
    (state : String)
    (highlighted : Bool) :
    Reads (nodeTail state highlighted).toList
      (node state highlighted).tokens.tail := by
  unfold nodeTail
  rw [String.append_assoc, String.toList_append,
    String.toList_append]
  cases highlighted with
  | false =>
      have hEnd :
          Reads ("" ++ "]\n").toList [.rightBracket] := by
        rfl
      exact
        (reads_labelled.append (reads_quote state)).append
          hEnd
  | true =>
      have hEnd :
          Reads (", peripheries=2" ++ "]\n").toList
            [.comma, .name "peripheries", .equals, .name "2",
              .rightBracket] := by
        rfl
      exact
        (reads_labelled.append (reads_quote state)).append
          hEnd

theorem reads_edgeTail
    (source destination label : String) :
    Reads (edgeTail (destination, label)).toList
      (edge source destination label).tokens.tail := by
  have hArrow : Reads " -> ".toList [.arrow] := by
    rfl
  have hEnd : Reads "]\n".toList [.rightBracket] := by
    rfl
  simp only [edgeTail, String.toList_append]
  exact
    (((hArrow.append (reads_quote destination)).append
      reads_labelled).append (reads_quote label)).append hEnd

/- The line of a statement is read as its tokens. -/
theorem reads_line
    (s : Statement) :
    Reads s.line.toList s.tokens := by
  have hTab : Reads ['\t'] [] := by
    rfl
  cases s with
  | direction d => cases d <;> rfl
  | nodeDefaults => rfl
  | startMarker => decide +kernel
  | node state highlighted =>
      rw [toList_line_node]
      exact
        (hTab.append (reads_quote state)).append
          (reads_nodeTail state highlighted)
  | startEdge state =>
      have hChars :
          (startEdge state).line.toList =
            ['\t'] ++ (startNode.toList ++ [' ']) ++
              ['-', '>', ' '] ++ (quote state).toList ++
              ['\n'] := by
        simp [line, text]
      have hMarker :
          Reads (startNode.toList ++ [' '])
            [.name startNode] :=
        reads_bare (List.cons_ne_nil _ _) rfl rfl
      have hArrow : Reads ['-', '>', ' '] [.arrow] := by
        rfl
      have hEnd : Reads ['\n'] [] := by
        rfl
      rw [hChars]
      exact
        (((hTab.append hMarker).append hArrow).append
          (reads_quote state)).append hEnd
  | edge source destination label =>
      rw [toList_line_edge]
      exact
        (hTab.append (reads_quote source)).append
          (reads_edgeTail source destination label)

end Statement

theorem reads_lines
    (list : List Statement) :
    Reads (list.flatMap (·.line.toList))
      (list.flatMap Statement.tokens) := by
  induction list with
  | nil => rfl
  | cons s rest ih => exact s.reads_line.append ih

------------------------------------------------------------
-- Pictures
------------------------------------------------------------

/-
  What a drawing shows: the names of the nodes that are
  declared, and the ends of the edges, in order.
-/
structure Picture where
  nodes : List String
  edges : List (String × String)
deriving DecidableEq, Repr

/-
  Put a semicolon for every attribute list. The flag tells
  whether a list is open.
-/
def dropAttributes : Bool → List Token → List Token
  | _, [] => []
  | false, .leftBracket :: rest => dropAttributes true rest
  | false, t :: rest => t :: dropAttributes false rest
  | true, .rightBracket :: rest =>
      .semicolon :: dropAttributes false rest
  | true, _ :: rest => dropAttributes true rest

namespace Picture

/-
  The picture of the statements up to the closing brace. A
  statement sets the attributes of a kind or of the graph,
  or it draws an edge or a node.
-/
def ofTokens? : List Token → Option Picture
  | [.rightBrace] => some ⟨[], []⟩
  | .semicolon :: rest => ofTokens? rest
  | .keyword _ :: .semicolon :: rest => ofTokens? rest
  | .name _ :: .equals :: .name _ :: rest => ofTokens? rest
  | .name source :: .arrow :: .name destination :: rest =>
      (ofTokens? rest).map fun p =>
        ⟨p.nodes, (source, destination) :: p.edges⟩
  | .name node :: rest =>
      (ofTokens? rest).map fun p => ⟨node :: p.nodes, p.edges⟩
  | _ => none

/- Read a directed graph as dot does. -/
def read? (text : String) : Option Picture :=
  match scan .between text.toList with
  | some
      (.keyword .digraph :: .leftBrace :: tokens, .between) =>
      ofTokens? (dropAttributes false tokens)
  | _ => none

end Picture

------------------------------------------------------------
-- Reading Documents
------------------------------------------------------------

/- A list is open up to its closing bracket. -/
theorem dropAttributes_of_notMem
    {list : List Token}
    (hOpen : .rightBracket ∉ list)
    (rest : List Token) :
    dropAttributes true (list ++ .rightBracket :: rest) =
      .semicolon :: dropAttributes false rest := by
  induction list with
  | nil => rfl
  | cons t list ih =>
      rw [List.mem_cons, not_or] at hOpen
      cases t with
      | rightBracket => exact absurd rfl hOpen.1
      | _ => exact ih hOpen.2

theorem dropAttributes_attributes
    (list : List (String × String))
    (rest : List Token) :
    dropAttributes false (attributes list ++ rest) =
      .semicolon :: dropAttributes false rest := by
  have hOpen :
      .rightBracket ∉
        List.intercalate [.comma]
          (list.map fun (key, value) =>
            [Token.name key, .equals, .name value]) := by
    induction list with
    | nil => simp
    | cons first list ih =>
        cases list with
        | nil => simp
        | cons second list => simpa using ih
  unfold attributes
  rw [List.append_assoc, List.append_assoc]
  exact dropAttributes_of_notMem hOpen rest

namespace Statement

/- The name of the node that a statement declares. -/
def declares? : Statement → Option String
  | startMarker => some startNode
  | node state _ => some state
  | _ => none

/- The ends of the edge that a statement draws. -/
def joins? : Statement → Option (String × String)
  | startEdge state => some (startNode, state)
  | edge source destination _ => some (source, destination)
  | _ => none

end Statement

namespace Picture

/- The picture that some statements draw. -/
def ofStatements (list : List Statement) : Picture where
  nodes := list.filterMap Statement.declares?
  edges := list.filterMap Statement.joins?

/- Every statement draws its own node or edge. -/
theorem ofTokens?_tokens
    (s : Statement)
    (rest : List Token) :
    ofTokens? (dropAttributes false (s.tokens ++ rest)) =
      (ofTokens? (dropAttributes false rest)).map fun p =>
        ⟨s.declares?.toList ++ p.nodes,
          s.joins?.toList ++ p.edges⟩ := by
  cases s <;>
    simp [Statement.tokens, Statement.declares?,
      Statement.joins?, dropAttributes,
      dropAttributes_attributes, ofTokens?]

theorem ofTokens?_flatMap
    (list : List Statement) :
    ofTokens?
        (dropAttributes false
          (list.flatMap Statement.tokens ++ [.rightBrace])) =
      some (ofStatements list) := by
  induction list with
  | nil => rfl
  | cons s rest ih =>
      rw [List.flatMap_cons, List.append_assoc,
        ofTokens?_tokens, ih]
      cases s <;> rfl

/- A document is read as the picture of its statements. -/
theorem read?_document
    (list : List Statement) :
    read? (document list) = some (ofStatements list) := by
  have hOpen :
      Reads "digraph \x7b\n".toList
        [.keyword .digraph, .leftBrace] := by
    rfl
  have hClose : Reads "\x7d\n".toList [.rightBrace] := by
    rfl
  have hDocument :
      Reads (document list).toList
        (.keyword .digraph :: .leftBrace ::
          (list.flatMap Statement.tokens ++
            [.rightBrace])) := by
    unfold document
    rw [String.toList_append, String.toList_append,
      toList_join_lines]
    exact (hOpen.append (reads_lines list)).append hClose
  unfold read?
  rw [hDocument]
  exact ofTokens?_flatMap list

end Picture

end Dot

end Statechart
