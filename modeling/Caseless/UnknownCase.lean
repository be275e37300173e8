import Caseless.Text.Quoted

/-!
# Texts that match no case
-/

namespace Caseless

/-- The answer to a text that matches no case; it keeps the text. -/
structure UnknownCase where
  value : String
  deriving DecidableEq

namespace UnknownCase

/-- The answer in words. -/
def message (e : UnknownCase) : String := "\"" ++ e.value ++ "\" does not match any case"

/-- The answer as it is shown for debugging, with its text quoted. -/
def debug (e : UnknownCase) : String :=
  "UnknownCase \x7b value: " ++ Text.quote .debug e.value ++ " \x7d"

end UnknownCase

end Caseless
