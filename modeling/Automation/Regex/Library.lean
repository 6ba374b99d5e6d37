/-!
# The library of regular expressions

What is taken from a library of regular expressions: whether a pattern matches in a text, or why the
pattern is refused. Nothing else is known about it where expressions are evaluated.
-/

namespace Automation.Regex

/-- A library of regular expressions. -/
class Library where
  /-- The test whether a pattern matches in a text, or the reason why the pattern is refused. -/
  compile (pattern : String) : Except String (String → Bool)

end Automation.Regex
