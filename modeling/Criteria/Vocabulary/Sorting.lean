/-
Words for sorting: the two directions, and the ways to sort.
-/
import Criteria.Vocabulary.Token

namespace Criteria

/-- The direction of a sort key. -/
inductive Direction where
  | asc
  | desc
deriving DecidableEq, Repr

namespace Direction

/-- The spelling in a query. -/
def sql : Direction → String
  | asc => "ASC"
  | desc => "DESC"

/-- The spellings that are read. -/
def spellings : List (String × Direction) :=
  [("ASC", asc), ("DESC", desc)]

/-- The direction that a token means. -/
def ofToken? (token : String) : Option Direction :=
  Vocabulary.find? spellings token

end Direction

/-- The way to sort that is asked for: one of the directions, at random, by the place in a list of
values, or by a text of one's own. -/
inductive OrderMode where
  | asc
  | desc
  | random
  | values
  | custom
deriving DecidableEq, Repr

namespace OrderMode

/-- The name of the mode. -/
def name : OrderMode → String
  | asc => "ASC"
  | desc => "DESC"
  | random => "RANDOM"
  | values => "VALUES"
  | custom => "CUSTOM"

/-- The direction that the mode is. -/
def direction? : OrderMode → Option Direction
  | asc => some .asc
  | desc => some .desc
  | random | values | custom => none

/-- The spellings that are read: the names of the modes, and RAND for the random one. -/
def spellings : List (String × OrderMode) :=
  [("ASC", asc), ("DESC", desc), ("RANDOM", random), ("RAND", random), ("VALUES", values),
    ("CUSTOM", custom)]

/-- The mode that a token means. -/
def ofToken? (token : String) : Option OrderMode :=
  Vocabulary.find? spellings token

end OrderMode

end Criteria
