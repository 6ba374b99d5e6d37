import Automation.Value.Basic

/-!
# The library of TOML

What is taken from a library of TOML: the value of a document. Tables are objects, and what a text is
refused for does not matter.
-/

namespace Automation.Toml

/-- A library of TOML. -/
class Library where
  /-- Reads a document, if the text is one. -/
  read? (text : String) : Option Value

end Automation.Toml
