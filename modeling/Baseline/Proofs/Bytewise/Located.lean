import Baseline.Proofs.Bytewise.Tiling
import Baseline.Proofs.Bytewise.Tree
import Baseline.Proofs.Tree.Nesting

/-!
# Where sources are refused

A source is refused where a string or a comment starts that has no end, or at a
bracket without a partner.  The position of the refusal is the place of that
construct, which the reason names (`parse_answers`).
-/

namespace Baseline

/-- The reason of a refusal names what the text starts with: a quote, the start of a block
comment or the first bracket that the reason mentions. -/
def Names (reason : String) (text : List Char) : Prop :=
  if reason = DelimitedError.unterminatedString.message then
    ∃ quote ∈ text.head?, Delimited.isQuote quote
  else if reason = DelimitedError.unterminatedComment.message then
    "/*".toList <+: text
  else
    ∃ bracket, reason.toList.findSome? Bracket.ofChar? = some bracket ∧
      text.head? = some bracket.char

/-- The failure has a position in the source, and what its reason names stands there. -/
structure ParseFailure.IsLocated
    (source : String)
    (failure : ParseFailure)
    (position : Position) : Prop where
  /-- The failure tells the position. -/
  position_eq : failure.position = some position
  /-- The position is not at the end of the source. -/
  inside : position.offset < source.utf8ByteSize
  /-- A character starts at the position. -/
  boundary : Text.IsBoundary source position.offset
  /-- The line and the column are those of the byte offset. -/
  indexed : (LineIndex.ofText source).position? source position.offset = some position
  /-- At the position the source starts with what the reason names. -/
  named : ∃ rest, Text.slice? source position.offset source.utf8ByteSize = some rest ∧
    Names failure.reason rest.toList

variable
  {Fits : Token → List Char → Prop}
  {source reason : String}
  {before after text rest : List Char}
  {failure : ParseFailure}
  {error : DelimitedError}
  {token : Token}
  {bracket : Bracket}

theorem Names.ne_nil (names : Names reason rest) : rest ≠ [] := by
  rintro rfl
  unfold Names at names
  split at names
  · simp at names
  · split at names
    · simp at names
    · simp at names

/-- A failure at the start of what its reason names is located. -/
theorem ParseFailure.isLocated_of_append
    (source_eq : source.toList = before ++ rest)
    (names : Names reason rest) :
    IsLocated source ⟨reason, some (.advance .origin before)⟩ (.advance .origin before) where
  position_eq := rfl
  inside := by
    have rest_ne : String.utf8Len rest ≠ 0 := mt String.utf8Len_eq_zero.mp names.ne_nil
    rw [Position.offset_origin_advance, ← String.utf8Len_toList, source_eq,
      String.utf8Len_append]
    omega
  boundary := by
    rw [Position.offset_origin_advance]
    exact Text.isBoundary_iff.mpr ⟨before, rest, source_eq, rfl⟩
  indexed := by
    rw [Position.offset_origin_advance]
    exact LineIndex.position?_of_append source_eq
  named := by
    rw [Position.offset_origin_advance]
    exact ⟨String.ofList rest, Text.slice?_to_end source_eq, by rwa [String.toList_ofList]⟩

/-! ## Strings and comments without an end -/

theorem Delimited.names_of_error (refused : scan text = .error error) :
    Names error.message text := by
  fun_cases scan text with
  | case1 => cases refused
  | case2 rest body after found => simp [scan, found] at refused
  | case3 rest missing =>
      simp only [scan, missing, Except.error.injEq] at refused
      rw [← refused, Names, if_neg (by decide), if_pos rfl]
      exact List.prefix_append _ rest
  | case4 => cases refused
  | case5 quote rest notLine notBlock quotes body after found =>
      rw [scan] at refused
      · simp [quotes, found] at refused
      all_goals assumption
  | case6 quote rest notLine notBlock quotes missing =>
      rw [scan] at refused
      · simp only [quotes, if_true, missing, Except.error.injEq] at refused
        rw [← refused, Names, if_pos rfl]
        exact ⟨quote, rfl, quotes⟩
      all_goals assumption
  | case7 quote rest notLine notBlock quotes =>
      rw [scan] at refused
      · simp [quotes] at refused
      all_goals assumption

/-! ## Brackets without a partner -/

/-- An error of nesting mentions the bracket before any other one. -/
def NestingError.Mentions (error : NestingError) (bracket : Bracket) : Prop :=
  error.message.toList.findSome? Bracket.ofChar? = some bracket ∧
    error.message ≠ DelimitedError.unterminatedString.message ∧
      error.message ≠ DelimitedError.unterminatedComment.message

instance (error : NestingError) (bracket : Bracket) : Decidable (error.Mentions bracket) :=
  inferInstanceAs (Decidable (_ ∧ _ ∧ _))

theorem NestingError.mentions_unexpected (delimiter : Delimiter) :
    (unexpected (String.singleton delimiter.closer)).Mentions (.closing delimiter) := by
  cases delimiter <;> decide +kernel

theorem NestingError.mentions_mismatched (delimiter expected : Delimiter) :
    (mismatched (String.singleton delimiter.closer) expected).Mentions (.closing delimiter) := by
  cases delimiter <;> cases expected <;> decide +kernel

theorem NestingError.mentions_unclosed (delimiter : Delimiter) :
    (unclosed delimiter).Mentions (.opening delimiter) := by
  cases delimiter <;> decide +kernel

theorem NestingError.Mentions.names
    {error : NestingError}
    (mentions : error.Mentions bracket)
    (rest : List Char) :
    Names error.message (bracket.char :: rest) := by
  rw [Names, if_neg mentions.2.1, if_neg mentions.2.2]
  exact ⟨bracket, mentions.1, rfl⟩

namespace Token

/-- A failure at a bracket that it mentions first is located. -/
theorem isLocated_of_bracket
    {left right : List Token}
    {error : NestingError}
    (tiles : Tiles Fits .origin source.toList (left ++ token :: right) [])
    (found : token.bracket? = some bracket)
    (mentions : error.Mentions bracket) :
    (error.failureAt token.start).IsLocated source token.start := by
  have source_eq : source.toList = textOf left ++ bracket.char :: textOf right := by
    rw [tiles.text_eq, List.append_nil, textOf_append, textOf_cons, toList_of_bracket? found]
    rfl
  rw [tiles.of_middle.1]
  exact ParseFailure.isLocated_of_append source_eq (mentions.names _)

/-- Tokens that do not nest are refused at a bracket without a partner. -/
theorem Refusal.isLocated
    {tokens : List Token}
    (refusal : Refusal tokens failure)
    (tiles : Tiles Fits .origin source.toList tokens []) :
    ∃ position, failure.IsLocated source position := by
  cases refusal with
  | @unexpected before closer after delimiter _ _ closes =>
      refine ⟨closer.start, isLocated_of_bracket tiles closes ?_⟩
      rw [(bracket?_eq_some_iff.mp closes).2]
      exact NestingError.mentions_unexpected delimiter
  | @mismatched before closer after opener delimiter expected _ _ closes _ =>
      refine ⟨closer.start, isLocated_of_bracket tiles closes ?_⟩
      rw [(bracket?_eq_some_iff.mp closes).2]
      exact NestingError.mentions_mismatched delimiter expected
  | @unclosed _ opener delimiter _ leavesOpen =>
      obtain ⟨opens, _⟩ := leavesOpen
      exact ⟨opener.start, isLocated_of_bracket tiles opens
        (NestingError.mentions_unclosed delimiter)⟩

end Token

namespace Bytewise

/-- A source is read as a tree or refused at the place of what the reason names. -/
theorem parse_ok_or_refused
    [Unicode.Segmentation]
    (options : TreeOptions)
    (source : String) :
    (∃ tree, parse options source = .ok tree) ∨
      ∃ failure position, parse options source = .error (.refused failure) ∧
        failure.IsLocated source position := by
  rcases tokenize_answers source with
    ⟨tokens, read, tiles⟩ | ⟨before, rest, error, source_eq, scanned, refused⟩
  · rw [parse_of_tokens read tiles]
    cases nested : Baseline.nest (options.kept tokens) with
    | ok children => exact .inl ⟨_, rfl⟩
    | error failure =>
        have refusal := TokenTree.nest_kept_eq_error_iff.mp nested
        obtain ⟨position, isLocated⟩ := refusal.isLocated tiles
        exact .inr ⟨failure, position, rfl, isLocated⟩
  · exact .inr ⟨_, _, parse_of_halt refused,
      ParseFailure.isLocated_of_append source_eq (Delimited.names_of_error scanned)⟩

/-- Reading a source by byte offsets never asks for a slice or a position that is not there,
and never goes on for too long: at whatever places the words are cut, it gives a tree or refuses
the source at the place of what the reason names.  At default word boundaries that is the
tree or the refusal of the source. -/
theorem parse_answers (options : TreeOptions) (source : String) :
    (∀ [Unicode.Segmentation],
      (∃ tree, parse options source = .ok tree) ∨
        ∃ failure position, parse options source = .error (.refused failure) ∧
          failure.IsLocated source position) ∧
      parse options source = (TokenTree.parse options source).mapError .refused :=
  ⟨parse_ok_or_refused options source, parse_eq options source⟩

end Bytewise
end Baseline
