import Baseline.Token.Basic

/-!
# Operators

Touching punctuation is joined into operators of several characters.  Every
operator can be built up one piece at a time, because each of its beginnings
with at least two characters is an operator too.
-/

namespace Baseline
namespace Token

/-- The operators of more than one character. -/
def operators : List String :=
  ["==", "===", "!=", "!==", "<=", ">=", "=>", "->", "&&", "||", "??", "?.", "++", "--",
   "+=", "-=", "*=", "/=", "%=", "**", "<<", ">>", ">>>", "::", "..", "..."]

/-- The text is an operator of more than one character. -/
def isOperator (text : String) : Bool :=
  operators.contains text

/-- Two touching tokens as one, if both are punctuation and make an operator. -/
def join? (left right : Token) : Option Token :=
  if left.kind = .punct ∧ right.kind = .punct ∧ isOperator (left.text ++ right.text) then
    some { left with text := left.text ++ right.text }
  else none

/-- Join operators in the tokens that follow a token still open to joining. -/
def joinOperatorsFrom (current : Token) : List Token → List Token
  | [] => [current]
  | next :: rest =>
      match current.join? next with
      | some joined => joinOperatorsFrom joined rest
      | none => current :: joinOperatorsFrom next rest

/-- Join touching punctuation into operators, from left to right. -/
def joinOperators : List Token → List Token
  | [] => []
  | first :: rest => joinOperatorsFrom first rest

@[simp] theorem joinOperatorsFrom_nil (current : Token) :
    joinOperatorsFrom current [] = [current] := rfl

@[simp] theorem joinOperators_nil : joinOperators [] = [] := rfl

@[simp] theorem joinOperators_cons (first : Token) (rest : List Token) :
    joinOperators (first :: rest) = joinOperatorsFrom first rest := rfl

end Token
end Baseline
