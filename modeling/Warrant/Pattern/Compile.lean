import Warrant.Pattern.Match
import Warrant.Pattern.Reader
import Warrant.Pattern.Resolve
import Warrant.Pattern.Size

namespace Warrant.Pattern

/-- The pattern that a text writes, if it writes one and that is not too large. -/
def compile (text : String) : Option Pattern :=
  match Form.read text.toList with
  | none => none
  | some form =>
    match form.resolve {} with
    | none => none
    | some (pattern, _) => if pattern.fits then some pattern else none

end Warrant.Pattern
