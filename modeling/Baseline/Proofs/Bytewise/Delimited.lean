import Baseline.ParseFailure
import Baseline.Proofs.Text.LineIndex
import Baseline.Proofs.Token.Scanning

/-!
# Strings and comments by byte offsets

A reader that keeps byte offsets into the source has to slice it and to look up
positions, and each of that can fail (`Halt.panic`).  Here strings and comments
are found in this way: an end is searched for with its byte offset in a slice,
and lengths are added to it.  At a boundary of the source this never fails, and
it finds what the scan of the characters finds (`scanDelimited_eq`).
-/

namespace Baseline

/-- Why a reading ends without a result. -/
inductive Halt
  /-- A slice or a position was asked for at an offset out of range or inside a
  character. -/
  | panic
  /-- The reading goes on for too long. -/
  | endless
  /-- The source is refused. -/
  | refused (failure : ParseFailure)
  deriving DecidableEq

namespace Bytewise

/-! ## Failing operations -/

/-- What must be there. -/
def require {α : Type} : Option α → Except Halt α
  | some value => .ok value
  | none => .error .panic

/-- The part of a text between two byte offsets. -/
def slice (text : String) (start stop : Nat) : Except Halt String :=
  require (Text.slice? text start stop)

/-- The position of a byte offset. -/
def position (lines : LineIndex) (source : String) (offset : Nat) : Except Halt Position :=
  require (lines.position? source offset)

/-- Refuse the source. -/
def refuse {α : Type} (reason : String) (position : Position) : Except Halt α :=
  .error (.refused ⟨reason, some position⟩)

/-! ## Searching -/

/-- The byte offset of the first character that has a property. -/
def findChar? (holds : Char → Bool) (offset : Nat) : List Char → Option Nat
  | [] => none
  | char :: rest =>
      if holds char then some offset else findChar? holds (offset + char.utf8Size) rest

/-- The byte offset of the first place where a pattern stands. -/
def findText? (pattern : List Char) (offset : Nat) : List Char → Option Nat
  | [] => if pattern.isEmpty then some offset else none
  | char :: rest =>
      if pattern.isPrefixOf (char :: rest) then some offset
      else findText? pattern (offset + char.utf8Size) rest

/-- The characters of a text with their byte offsets. -/
def charIndices (offset : Nat) : List Char → List (Nat × Char)
  | [] => []
  | char :: rest => (offset, char) :: charIndices (offset + char.utf8Size) rest

/-- The byte offset after the first quote that no backslash escapes.  Outside backticks a
line feed that no backslash escapes ends the search. -/
def findQuote? (quote : Char) : Bool → List (Nat × Char) → Option Nat
  | _, [] => none
  | true, _ :: rest => findQuote? quote false rest
  | false, (index, char) :: rest =>
      if char = '\\' then findQuote? quote true rest
      else if char = '\n' ∧ quote ≠ '`' then none
      else if char = quote then some (index + char.utf8Size)
      else findQuote? quote false rest

/-! ## Strings and comments -/

/-- A token with its byte offsets. -/
structure Piece where
  /-- What the text is. -/
  kind : TokenKind
  /-- The text itself. -/
  text : String
  /-- The byte offset where the text starts. -/
  start : Nat
  /-- The byte offset just after the text. -/
  stop : Nat
  deriving DecidableEq

/-- A token that starts at a byte offset. -/
def Piece.at (kind : TokenKind) (text : String) (start : Nat) : Piece :=
  ⟨kind, text, start, start + text.utf8ByteSize⟩

/-- The line comment at the start of the rest of a source, which starts at a byte offset. -/
def lineComment (rest : String) (start : Nat) : Except Halt Piece := do
  let length := (findChar? Text.isLineBreak 0 rest.toList).getD rest.utf8ByteSize
  return .at .comment (← slice rest 0 length) start

/-- The block comment at the start of the rest of a source. -/
def blockComment (lines : LineIndex) (source rest : String) (start : Nat) :
    Except Halt Piece := do
  match findText? "*/".toList 0 (← slice rest 2 rest.utf8ByteSize).toList with
  | some index => return .at .comment (← slice rest 0 (index + 4)) start
  | none => refuse DelimitedError.unterminatedComment.message (← position lines source start)

/-- The string literal at the start of the rest of a source. -/
def stringLiteral (lines : LineIndex) (source rest : String) (start : Nat) (quote : Char) :
    Except Halt Piece := do
  match findQuote? quote false ((charIndices 0 rest.toList).drop 1) with
  | some stop => return .at .string (← slice rest 0 stop) start
  | none => refuse DelimitedError.unterminatedString.message (← position lines source start)

/-- The string literal or comment at a byte offset, if there is one. -/
def scanDelimited (lines : LineIndex) (source : String) (start : Nat) :
    Except Halt (Option Piece) := do
  let rest ← slice source start source.utf8ByteSize
  if "//".toList.isPrefixOf rest.toList then some <$> lineComment rest start
  else if "/*".toList.isPrefixOf rest.toList then some <$> blockComment lines source rest start
  else
    match rest.toList.head?.filter Delimited.isQuote with
    | none => return none
    | some quote => some <$> stringLiteral lines source rest start quote

variable
  {source : String}
  {before after text rest : List Char}
  {offset : Nat}
  {quote : Char}

/-! ## What the operations give at boundaries -/

theorem slice_to_end (source_eq : source.toList = before ++ after) :
    slice source (String.utf8Len before) source.utf8ByteSize = .ok (String.ofList after) := by
  rw [slice, Text.slice?_to_end source_eq, require]

/-- A slice must not start inside a character. -/
example : slice "é" 1 2 = .error .panic := by
  decide +kernel

theorem slice_from_start (text_eq : text = before ++ after) :
    slice (String.ofList text) 0 (String.utf8Len before) = .ok (String.ofList before) := by
  have list_eq : (String.ofList text).toList = [] ++ (before ++ after) := by
    rw [String.toList_ofList, text_eq, List.nil_append]
  have sliced := Text.slice?_of_append list_eq
  rw [String.utf8Len_nil, Nat.zero_add] at sliced
  rw [slice, sliced, require]

theorem position_of_append (source_eq : source.toList = before ++ after) :
    position (.ofText source) source (String.utf8Len before) =
      .ok (Position.origin.advance before) := by
  rw [position, LineIndex.position?_of_append source_eq, require]

/-! ## What the searches find -/

theorem findChar?_eq_none
    {holds : Char → Bool}
    (absent : ∀ char ∈ text, holds char = false) :
    findChar? holds offset text = none := by
  induction text generalizing offset with
  | nil => rfl
  | cons char rest inductionHypothesis =>
      obtain ⟨here, later⟩ := List.forall_mem_cons.mp absent
      rw [findChar?, here, if_neg Bool.false_ne_true, inductionHypothesis later]

/-- A character is found after the bytes of the text before it. -/
theorem findChar?_eq_some
    {holds : Char → Bool}
    {char : Char}
    (absent : ∀ char ∈ text, holds char = false)
    (found : holds char) :
    findChar? holds offset (text ++ char :: rest) = some (offset + String.utf8Len text) := by
  induction text generalizing offset with
  | nil => rw [List.nil_append, findChar?, if_pos found]; rfl
  | cons first later inductionHypothesis =>
      obtain ⟨here, others⟩ := List.forall_mem_cons.mp absent
      rw [List.cons_append, findChar?, here, if_neg Bool.false_ne_true, inductionHypothesis others,
        String.utf8Len_cons, Nat.add_assoc, Nat.add_comm first.utf8Size]

/-- The first line break stands where the line ends. -/
theorem findChar?_isLineBreak (offset : Nat) (text : List Char) :
    (findChar? Text.isLineBreak offset text).getD (offset + String.utf8Len text) =
      offset + String.utf8Len (text.takeWhile Delimited.inLine) := by
  induction text generalizing offset with
  | nil => rfl
  | cons char rest inductionHypothesis =>
      cases breaks : Text.isLineBreak char with
      | true => simp [findChar?, Delimited.inLine, breaks]
      | false =>
          have length_eq : offset + String.utf8Len (char :: rest) =
              offset + char.utf8Size + String.utf8Len rest := by
            rw [String.utf8Len_cons]
            omega
          rw [findChar?, breaks, length_eq, if_neg Bool.false_ne_true, inductionHypothesis,
            List.takeWhile_cons, Delimited.inLine, breaks, Bool.not_false, if_pos rfl,
            String.utf8Len_cons]
          omega

theorem isPrefixOf_pair {first second char : Char}
    (absent : ∀ later, char = first → rest = second :: later → False) :
    [first, second].isPrefixOf (char :: rest) = false := by
  rw [Bool.eq_false_iff, ne_eq, List.isPrefixOf_iff_prefix]
  rintro ⟨later, text_eq⟩
  obtain ⟨first_eq, rest_eq⟩ := List.cons.inj text_eq
  exact absent later first_eq.symm rest_eq.symm

/-- The first end mark of a comment stands at the end of the text through it. -/
theorem findText?_endMark (offset : Nat) (text : List Char) :
    (findText? "*/".toList offset text).map (· + 2) =
      (Delimited.throughEndMark text).map fun found => offset + String.utf8Len found.1 := by
  fun_induction Delimited.throughEndMark text generalizing offset with
  | case1 => rfl
  | case2 rest => rfl
  | case3 char rest notEnd inductionHypothesis =>
      have absent : "*/".toList.isPrefixOf (char :: rest) = false := isPrefixOf_pair notEnd
      rw [findText?, absent, if_neg Bool.false_ne_true, inductionHypothesis, Option.map_map]
      congr 1
      funext found
      simp only [Function.comp_apply, String.utf8Len_cons]
      omega

/-- The first closing quote stands at the end of the text through it. -/
theorem findQuote?_eq (isQuote : Delimited.isQuote quote) (offset : Nat) (text : List Char) :
    findQuote? quote false (charIndices offset text) =
      (Delimited.throughQuote quote text).map fun found => offset + String.utf8Len found.1 := by
  fun_induction Delimited.throughQuote quote text generalizing offset with
  | case1 => rfl
  | case2 => rfl
  | case3 escaped rest inductionHypothesis =>
      simp only [charIndices, findQuote?, if_true, inductionHypothesis, Option.map_map]
      congr 1
      funext found
      simp only [Function.comp_apply, String.utf8Len_cons]
      omega
  | case4 rest notLast notEscaping =>
      have noFeed : quote ≠ '\n' := by
        rintro rfl
        cases isQuote
      rw [charIndices, findQuote?, if_neg (Delimited.ne_backslash notLast notEscaping),
        if_neg fun ends => noFeed ends.1, if_pos rfl]
      simp
  | case5 char rest notLast notEscaping _ ends =>
      rw [charIndices, findQuote?, if_neg (Delimited.ne_backslash notLast notEscaping), if_pos ends]
      rfl
  | case6 char rest notLast notEscaping different goesOn inductionHypothesis =>
      rw [charIndices, findQuote?, if_neg (Delimited.ne_backslash notLast notEscaping), if_neg goesOn,
        if_neg different, inductionHypothesis, Option.map_map]
      congr 1
      funext found
      simp only [Function.comp_apply, String.utf8Len_cons]
      omega

/-! ## Finding strings and comments -/

theorem lineComment_eq (text : List Char) (start : Nat) :
    lineComment (String.ofList ('/' :: '/' :: text)) start =
      .ok (.at .comment (String.ofList ('/' :: '/' :: text.takeWhile Delimited.inLine)) start) := by
  have text_eq : '/' :: '/' :: text = ('/' :: '/' :: text).takeWhile Delimited.inLine ++
      ('/' :: '/' :: text).dropWhile Delimited.inLine := by
    rw [List.takeWhile_append_dropWhile]
  have length_eq := findChar?_isLineBreak 0 ('/' :: '/' :: text)
  rw [Nat.zero_add, Nat.zero_add] at length_eq
  rw [lineComment, String.toList_ofList, String.utf8ByteSize_ofList, length_eq,
    slice_from_start text_eq]
  rfl

/-- The text after the start mark of a block comment. -/
theorem slice_afterMark (text : List Char) :
    slice (String.ofList ('/' :: '*' :: text)) 2 (String.ofList ('/' :: '*' :: text)).utf8ByteSize =
      .ok (String.ofList text) := by
  have list_eq : (String.ofList ('/' :: '*' :: text)).toList = ['/', '*'] ++ text :=
    String.toList_ofList
  exact slice_to_end list_eq

theorem blockComment_of_none
    (source_eq : source.toList = before ++ '/' :: '*' :: text)
    (missing : Delimited.throughEndMark text = none) :
    blockComment (.ofText source) source (String.ofList ('/' :: '*' :: text))
        (String.utf8Len before) =
      refuse DelimitedError.unterminatedComment.message (Position.origin.advance before) := by
  have absent : findText? "*/".toList 0 text = none := by
    rw [← Option.map_eq_none_iff, findText?_endMark, missing, Option.map_none]
  simp only [blockComment, slice_afterMark, position_of_append source_eq, Answer.ok_bind,
    String.toList_ofList, absent]

theorem blockComment_of_some
    {lines : LineIndex} {body : List Char}
    (found : Delimited.throughEndMark text = some (body, after)) :
    blockComment lines source (String.ofList ('/' :: '*' :: text)) offset =
      .ok (.at .comment (String.ofList ('/' :: '*' :: body)) offset) := by
  have searched := findText?_endMark 0 text
  rw [found, Option.map_some, Option.map_eq_some_iff] at searched
  obtain ⟨index, index_eq, length_eq⟩ := searched
  have stop_eq : index + 4 = String.utf8Len ('/' :: '*' :: body) := by
    rw [String.utf8Len_cons, String.utf8Len_cons, ← Nat.zero_add (String.utf8Len body),
      ← length_eq]
    rfl
  have text_eq : '/' :: '*' :: text = '/' :: '*' :: body ++ after := by
    rw [← Delimited.throughEndMark_append found]
    rfl
  simp only [blockComment, slice_afterMark, Answer.ok_bind, String.toList_ofList, index_eq,
    stop_eq, slice_from_start text_eq]
  rfl

theorem stringLiteral_of_none
    (isQuote : Delimited.isQuote quote)
    (source_eq : source.toList = before ++ quote :: text)
    (missing : Delimited.throughQuote quote text = none) :
    stringLiteral (.ofText source) source (String.ofList (quote :: text))
        (String.utf8Len before) quote =
      refuse DelimitedError.unterminatedString.message (Position.origin.advance before) := by
  have absent : findQuote? quote false (charIndices (0 + quote.utf8Size) text) = none := by
    rw [findQuote?_eq isQuote, missing, Option.map_none]
  simp only [stringLiteral, String.toList_ofList, charIndices, List.drop_succ_cons,
    List.drop_zero, absent, position_of_append source_eq, Answer.ok_bind]

theorem stringLiteral_of_some
    {lines : LineIndex} {body : List Char}
    (isQuote : Delimited.isQuote quote)
    (found : Delimited.throughQuote quote text = some (body, after)) :
    stringLiteral lines source (String.ofList (quote :: text)) offset quote =
      .ok (.at .string (String.ofList (quote :: body)) offset) := by
  have stop_eq : findQuote? quote false (charIndices (0 + quote.utf8Size) text) =
      some (String.utf8Len (quote :: body)) := by
    rw [findQuote?_eq isQuote, found, Option.map_some, String.utf8Len_cons, Nat.zero_add,
      Nat.add_comm]
  have text_eq : quote :: text = quote :: body ++ after := by
    rw [← Delimited.throughQuote_append found]
    rfl
  simp only [stringLiteral, String.toList_ofList, charIndices, List.drop_succ_cons,
    List.drop_zero, stop_eq, slice_from_start text_eq, Answer.ok_bind]
  rfl

/-- What a scan of the characters from a place on finds, as a result of the search by
offsets. -/
def outcome (before : List Char) :
    Except DelimitedError (Option Delimited) → Except Halt (Option Piece)
  | .error error => refuse error.message (Position.origin.advance before)
  | .ok found =>
      .ok <| found.map fun delimited =>
        .at delimited.kind (String.ofList delimited.text) (String.utf8Len before)

theorem Piece.stop_of_delimited (before : List Char) (delimited : Delimited) :
    (Piece.at delimited.kind (String.ofList delimited.text) (String.utf8Len before)).stop =
      String.utf8Len (before ++ delimited.text) := by
  rw [String.utf8Len_append, ← String.utf8ByteSize_ofList delimited.text]
  rfl

/-- At a boundary the search by offsets finds what the scan of the characters finds. -/
theorem scanDelimited_eq (source_eq : source.toList = before ++ text) :
    scanDelimited (.ofText source) source (String.utf8Len before) =
      outcome before (Delimited.scan text) := by
  have text_eq : (String.ofList text).toList = text := String.toList_ofList
  rw [scanDelimited, slice_to_end source_eq, Answer.ok_bind, text_eq]
  fun_cases Delimited.scan text with
  | case1 rest =>
      rw [if_pos (by simp), lineComment_eq]
      rfl
  | case2 rest body after found =>
      rw [if_neg (by simp), if_pos (by simp), blockComment_of_some found]
      rfl
  | case3 rest missing =>
      rw [if_neg (by simp), if_pos (by simp), blockComment_of_none source_eq missing]
      rfl
  | case4 => rfl
  | case5 quote rest notLine notBlock isQuote body after found =>
      have noLine : "//".toList.isPrefixOf (quote :: rest) = false := isPrefixOf_pair notLine
      have noBlock : "/*".toList.isPrefixOf (quote :: rest) = false := isPrefixOf_pair notBlock
      rw [noLine, noBlock, List.head?_cons, Option.filter_some, if_pos isQuote]
      exact congrArg (some <$> ·) (stringLiteral_of_some isQuote found)
  | case6 quote rest notLine notBlock isQuote missing =>
      have noLine : "//".toList.isPrefixOf (quote :: rest) = false := isPrefixOf_pair notLine
      have noBlock : "/*".toList.isPrefixOf (quote :: rest) = false := isPrefixOf_pair notBlock
      rw [noLine, noBlock, List.head?_cons, Option.filter_some, if_pos isQuote]
      exact congrArg (some <$> ·) (stringLiteral_of_none isQuote source_eq missing)
  | case7 quote rest notLine notBlock notQuote =>
      have noLine : "//".toList.isPrefixOf (quote :: rest) = false := isPrefixOf_pair notLine
      have noBlock : "/*".toList.isPrefixOf (quote :: rest) = false := isPrefixOf_pair notBlock
      rw [noLine, noBlock, List.head?_cons, Option.filter_some, if_neg notQuote]
      rfl

end Bytewise
end Baseline
