import Baseline.Proofs.Token.Tiling
import Baseline.Proofs.Tree.Reading
import Baseline.Proofs.Unicode.WordTail

/-!
# Where brackets stand in tokens

Outside strings and comments a bracket always starts a token.  If the next
character does not attach to it, the token is that bracket alone; otherwise the
token goes on with what is attached, and is no bracket (`isLexical_bracketing`).
-/

namespace Baseline

open Unicode (IsInert isAttached startsAttached wordTail)

/-! ## Brackets as characters -/

namespace Bracket

theorem isInert_char (bracket : Bracket) : IsInert bracket.char := by
  rcases bracket with (_ | _ | _) | (_ | _ | _) <;> decide +kernel

theorem ofChar?_of_not_inert {char : Char} (active : ¬IsInert char) : ofChar? char = none := by
  cases found : ofChar? char with
  | none => rfl
  | some bracket =>
      rw [← ofChar?_eq_some_iff.mp found] at active
      exact absurd bracket.isInert_char active

end Bracket

/-- The text holds no bracket. -/
def BracketFree (text : List Char) : Prop :=
  ∀ char ∈ text, Bracket.ofChar? char = none

-- A search for the instance would find the one that tries all characters there are.
instance (text : List Char) : Decidable (BracketFree text) :=
  List.decidableBAll _ text

namespace Token

/-- Where brackets stand in a token that is followed by some text. -/
inductive Bracketing : Token → List Char → Prop
  /-- A string or a comment may hold brackets anywhere. -/
  | quoted {token rest}
      (quoted : token.kind = .string ∨ token.kind = .comment) :
      Bracketing token rest
  /-- A token may hold no bracket. -/
  | free {token rest}
      (free : BracketFree token.text.toList) :
      Bracketing token rest
  /-- A token is a bracket to which nothing is attached. -/
  | alone {token rest bracket}
      (found : token.bracket? = some bracket)
      (apart : startsAttached rest = false) :
      Bracketing token rest
  /-- A token is a bracket with something attached to it. -/
  | attached {token rest bracket tail}
      (text_eq : token.text.toList = Bracket.char bracket :: tail)
      (attached : startsAttached tail)
      (free : BracketFree tail) :
      Bracketing token rest

variable
  {start : Position}
  {first : Char}
  {word rest : List Char}
  {bracket : Bracket}

theorem bracket?_ofSegment (bracket : Bracket) :
    (ofSegment start [bracket.char]).bracket? = some bracket := by
  have punct : classify [bracket.char] = .punct := by
    rcases bracket with (_ | _ | _) | (_ | _ | _) <;> decide +kernel
  rw [bracket?_eq_some_iff]
  refine ⟨punct, ?_⟩
  apply String.toList_injective
  simp [ofSegment]

/-- A bracket in a token that is no string and no comment starts the token.  It is the
token unless something is attached to it. -/
theorem Bracketing.of_bracket
    {token : Token}
    {front back : List Char}
    (bracketing : Bracketing token rest)
    (unquoted : token.kind ≠ .string ∧ token.kind ≠ .comment)
    (token_eq : token.text.toList = front ++ bracket.char :: back) :
    front = [] ∧ (token.bracket? = some bracket ↔ startsAttached (back ++ rest) = false) := by
  have found : Bracket.ofChar? bracket.char = some bracket := Bracket.ofChar?_eq_some_iff.mpr rfl
  cases bracketing with
  | quoted quoted => simp [unquoted] at quoted
  | free free =>
      rw [free bracket.char (by simp [token_eq])] at found
      cases found
  | @alone other isBracket apart =>
      rw [toList_of_bracket? isBracket] at token_eq
      obtain ⟨rfl, char_eq, rfl⟩ : front = [] ∧ bracket.char = other.char ∧ back = [] := by
        simpa [List.singleton_eq_append_iff] using token_eq
      rw [char_eq, Bracket.ofChar?_char] at found
      exact ⟨rfl, iff_of_true (isBracket.trans found) apart⟩
  | @attached other tail text_eq attached free =>
      rw [text_eq] at token_eq
      rcases List.cons_eq_append_iff.mp token_eq with ⟨rfl, token_eq⟩ | ⟨within, rfl, tail_eq⟩
      · obtain ⟨char_eq, rfl⟩ := List.cons.inj token_eq
        refine ⟨rfl, iff_of_false (fun isBracket => ?_) ?_⟩
        · rw [toList_of_bracket? isBracket] at text_eq
          obtain ⟨-, rfl⟩ := List.cons.inj text_eq
          cases attached
        · rw [Unicode.startsAttached_append attached]
          decide
      · rw [free bracket.char (by simp [tail_eq])] at found
        cases found

/-- A bracket and what is attached to it make one token. -/
theorem bracketing_ofSegment :
    Bracketing (ofSegment start (wordFrom bracket.char rest)) (afterWord bracket.char rest) := by
  cases attaches : startsAttached rest with
  | false =>
      have ends := (Unicode.wordTail_eq_zero_iff bracket.isInert_char).mpr attaches
      rw [wordFrom_eq, afterWord_eq, ends]
      exact .alone (bracket?_ofSegment bracket) attaches
  | true =>
      have goesOn : wordTail bracket.char rest ≠ 0 := by
        rw [ne_eq, Unicode.wordTail_eq_zero_iff bracket.isInert_char, attaches]
        simp
      rw [wordFrom_eq, afterWord_eq]
      refine .attached String.toList_ofList ?_ fun char member => ?_
      · rw [startsAttached, List.head?_take, if_neg goesOn]
        exact attaches
      · apply Bracket.ofChar?_of_not_inert
        exact Unicode.not_inert_of_mem_take_wordTail member

theorem dot_not_mem_wordFrom : '.' ∉ wordFrom bracket.char rest := by
  rw [wordFrom_eq, List.mem_cons, not_or]
  refine ⟨?_, fun member => ?_⟩
  · rcases bracket with (_ | _ | _) | (_ | _ | _) <;> decide
  · have attached := Unicode.attached_of_mem_take_wordTail bracket.isInert_char member
    revert attached
    decide +kernel

/-- Where brackets stand is settled when a token is made. -/
theorem isLexical_bracketing : IsLexical Bracketing where
  delimited scanned := .quoted (Delimited.kind_of_scan scanned)
  word {start first rest} _ := by
    rw [← wordFrom_append_afterWord]
    cases found : Bracket.ofChar? first with
    | none =>
        apply ofWord_tiles (by simp [wordFrom])
        intro token later inWord
        refine .free fun char member => ?_
        rcases List.mem_cons.mp (inWord char member) with rfl | inTail
        · exact found
        · exact Bracket.ofChar?_of_not_inert (Unicode.not_inert_of_mem_take_wordTail inTail)
    | some bracket =>
        rw [← Bracket.ofChar?_eq_some_iff.mp found, ofWord_of_not_mem_dot dot_not_mem_wordFrom]
        refine .cons rfl ?_ ?_ bracketing_ofSegment .nil
        · simp [ofSegment, wordFrom]
        · simp [ofSegment]
  operator {token rest} _ operator := by
    have free : ∀ text ∈ operators, BracketFree text.toList := by decide +kernel
    exact .free (free _ (by simpa [isOperator] using operator))

/-- Where brackets stand in one of the tokens of a source. -/
theorem bracketing_of_tokenize
    {source : String}
    {token : Token}
    {left right : List Token}
    (tokenized : tokenize source = .ok (left ++ token :: right)) :
    Bracketing token (textOf right) := by
  have bracketing := (isLexical_bracketing.tiles tokenized).of_middle.2.2
  rwa [List.append_nil] at bracketing

end Token
end Baseline
