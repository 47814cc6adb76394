import BuildingModel.Pattern.Reader

/-!
# Patterns

What compiles patterns is a parameter of all that reads shapes. It says which texts are patterns,
and of each pattern in which texts it occurs. The engine at hand reads patterns as expressions. It
has the classes of characters by general category, but none by script, age or another property, and
it puts no limit on the size of a pattern.
-/
namespace BuildingModel

/-- A pattern as it was compiled: its text, and the test whether it occurs in a text. -/
structure Pattern where
  text : String
  occursIn : String → Bool

/-- What compiles patterns. -/
structure PatternEngine where
  /-- The test that a text is compiled to, if it is a pattern. -/
  compile? : String → Option (String → Bool)

namespace PatternEngine

def pattern? (E : PatternEngine) (text : String) : Option Pattern :=
  (E.compile? text).map (Pattern.mk text)

/-- The engine that reads patterns as expressions. -/
def expressions : PatternEngine where
  compile? text := (Pattern.Expression.parse? text).map Pattern.Expression.occursIn

end PatternEngine

end BuildingModel
