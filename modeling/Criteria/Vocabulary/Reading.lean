/-
Reading tokens.

A token is read as what it means in a vocabulary, or it is refused; then the
error shows it as it was given.
-/
import Criteria.Error
import Criteria.Vocabulary.Conjunction
import Criteria.Vocabulary.Function
import Criteria.Vocabulary.Sorting

namespace Criteria

/-- What a token means, or what is said of it when it means nothing. -/
def Vocabulary.read {α : Type} (find? : String → Option α) (unknown : String → ExpressionError)
    (token : String) : Except ExpressionError α :=
  match find? token with
  | some meaning => .ok meaning
  | none => .error (unknown token)

namespace Vocabulary

variable {α : Type} {find? : String → Option α} {unknown : String → ExpressionError}
  {token : String} {meaning : α} {e : ExpressionError}

theorem read_eq_ok : read find? unknown token = .ok meaning ↔ find? token = some meaning := by
  unfold read
  split
  · next m hm => rw [hm, Except.ok.injEq, Option.some.injEq]
  · next hm => simp [hm]

theorem read_eq_error :
    read find? unknown token = .error e ↔ find? token = none ∧ unknown token = e := by
  unfold read
  split
  · next m hm => simp [hm]
  · next hm => simp [hm]

end Vocabulary

/-- Reads an operator. -/
def Operator.ofToken (token : String) : Except ExpressionError Operator :=
  Vocabulary.read ofToken? .unknownOperator token

/-- Reads a function. -/
def Function.ofToken (token : String) : Except ExpressionError Function :=
  Vocabulary.read ofToken? .unknownFunction token

/-- Reads a conjunction. -/
def Conjunction.ofToken (token : String) : Except ExpressionError Conjunction :=
  Vocabulary.read ofToken? .unknownConjunction token

/-- Reads a direction. -/
def Direction.ofToken (token : String) : Except ExpressionError Direction :=
  Vocabulary.read ofToken? .unknownDirection token

/-- Reads a mode. -/
def OrderMode.ofToken (token : String) : Except ExpressionError OrderMode :=
  Vocabulary.read ofToken? .unknownMode token

end Criteria
