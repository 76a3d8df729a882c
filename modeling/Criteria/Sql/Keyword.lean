/-
Reserved words.

A word of this list would change the meaning of a query if it stood where a
column or a table is named.  Letter case does not matter.
-/
import Criteria.Text.Case

namespace Criteria.Sql

/-- The reserved words, in capitals. -/
def keywords : List String :=
  ["SELECT", "INSERT", "UPDATE", "DELETE", "REPLACE", "DROP", "ALTER", "CREATE", "TRUNCATE",
    "GRANT", "REVOKE", "UNION", "FROM", "WHERE", "JOIN", "ON", "AS", "AND", "OR", "XOR", "NOT",
    "NULL", "TRUE", "FALSE", "IS", "IN", "LIKE", "REGEXP", "BETWEEN", "EXISTS", "CASE", "WHEN",
    "THEN", "ELSE", "END", "ORDER", "BY", "GROUP", "HAVING", "LIMIT", "OFFSET", "INTO", "VALUES",
    "SET", "DISTINCT"]

theorem upper_of_mem_keywords : ∀ word ∈ keywords, Text.upper word = word := by decide

/-- The name is a reserved word in some letter case. -/
def isKeyword (name : String) : Bool :=
  keywords.contains (Text.upper name)

example : isKeyword "select" ∧ isKeyword "sElEcT" ∧ !isKeyword "selects" := by decide

end Criteria.Sql
