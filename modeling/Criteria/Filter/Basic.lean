/-
Filters.

A filter is empty, a group of filters, a condition of the caller's own, or a
predicate.  It may be switched off, and groups and conditions may be
negated; a predicate is negated by its operator instead.

Compiling a filter gives a text.  A filter that is switched off has none,
nor has an empty one, and a group leaves out the members without text, and
has none itself when all of them are left out.
-/
import Criteria.Expression
import Criteria.Filter.Predicate

namespace Criteria

/-- What the rows of a query must satisfy. -/
inductive Filter where
  | empty (active : Bool)
  | group (active : Bool) (conjunction : Conjunction) (negated : Bool) (members : List Filter)
  | raw (active : Bool) (text : String) (negated : Bool)
  | predicate (active : Bool) (predicate : Predicate)

namespace Filter

/-! ## Building filters -/

/-- The empty filter. -/
def new : Filter :=
  .empty true

/-- The group of filters under a conjunction. -/
def ofGroup (conjunction : Conjunction) (members : List Filter) : Filter :=
  .group true conjunction false members

/-- All of the filters. -/
def all (members : List Filter) : Filter :=
  ofGroup .and members

/-- One of the filters. -/
def any (members : List Filter) : Filter :=
  ofGroup .or members

/-- A condition of the caller's own. -/
def ofText (text : String) : Filter :=
  .raw true text false

/-- The filter of a predicate. -/
def ofPredicate (p : Predicate) : Filter :=
  .predicate true p

/-- The comparison of fields given as texts. -/
def anyField (fields : List String) (operator : Operator) (comparand : Option Comparand) :
    Except NameError Filter := do
  let fields ← fields.mapM FieldName.ofText
  return ofPredicate { fields, operator, comparand }

/-- The comparison of a field given as a text. -/
def compare (field : String) (operator : Operator) (comparand : Option Comparand) :
    Except NameError Filter :=
  anyField [field] operator comparand

/-- Switches a filter on or off. -/
def setActive (active : Bool) : Filter → Filter
  | .empty _ => .empty active
  | .group _ conjunction negated members => .group active conjunction negated members
  | .raw _ text negated => .raw active text negated
  | .predicate _ p => .predicate active p

/-- Negates a group or a condition; a predicate is refused. -/
def negate : Filter → Except ExpressionError Filter
  | .empty active => .ok (.empty active)
  | .group active conjunction _ members => .ok (.group active conjunction true members)
  | .raw active text _ => .ok (.raw active text true)
  | .predicate _ _ => .error .ambiguousNegation

/-- Applies a function to the columns of a predicate; other filters have none. -/
def withFunction (function : Function) : Filter → Filter
  | .predicate active p => .predicate active { p with function := some function }
  | other => other

/-! ## Looking at filters -/

/-- The filter is switched on. -/
def isActive : Filter → Bool
  | .empty active | .group active _ _ _ | .raw active _ _ | .predicate active _ => active

/-- The condition of the caller's own. -/
def condition? : Filter → Option String
  | .raw _ text _ => some text
  | _ => none

/-- The filter is a group with members. -/
def hasFilters : Filter → Bool
  | .group _ _ _ members => !members.isEmpty
  | _ => false

/-- The filter is a predicate with fields. -/
def hasFields : Filter → Bool
  | .predicate _ p => !p.fields.isEmpty
  | _ => false

/-- The filter is negated, or a predicate with the operator NOT. -/
def isNegating : Filter → Bool
  | .group _ _ negated _ | .raw _ _ negated => negated
  | .predicate _ p => p.operator.isNegating
  | .empty _ => false

/-! ## Compiling filters -/

/-- The text of a condition of the caller's own; a negated one stands in parentheses. -/
def rawText (dialect : Dialect) (text : String) (negated : Bool) : String :=
  if text.isEmpty then ""
  else if negated then dialect.negation ++ " (" ++ text ++ ")"
  else text

/-- The text of a group whose members have the given texts; no texts make no group. -/
def groupText (dialect : Dialect) (conjunction : Conjunction) (negated : Bool) :
    List String → String
  | [] => ""
  | texts =>
    let joined := Template.groupTexts conjunction.sql texts
    if negated then dialect.negation ++ " " ++ joined else joined

mutual

/-- Compiles a filter; one that is switched off compiles to nothing. -/
def compile (writer : Writer) : Filter → Except ExpressionError (String × Writer)
  | .empty _ => .ok ("", writer)
  | .group active conjunction negated members =>
    if active then do
      let (texts, writer) ← compileMembers writer members
      return (groupText writer.context.dialect conjunction negated texts, writer)
    else .ok ("", writer)
  | .raw active text negated =>
    .ok (if active then rawText writer.context.dialect text negated else "", writer)
  | .predicate active p => if active then p.compile writer else .ok ("", writer)

/-- Compiles the members of a group; those without text are left out. -/
def compileMembers (writer : Writer) :
    List Filter → Except ExpressionError (List String × Writer)
  | [] => .ok ([], writer)
  | f :: rest => do
    let (text, writer) ← compile writer f
    let (texts, writer) ← compileMembers writer rest
    return (if text.isEmpty then texts else text :: texts, writer)

end

instance : Expression Filter where
  isActive := isActive
  condition? := condition?
  compile f writer := f.compile writer

end Filter

end Criteria
