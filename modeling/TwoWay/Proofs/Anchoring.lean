import TwoWay.Proofs.LeadingCheck
import TwoWay.Proofs.PastedSource

/-!
# Anchored and plain expressions

A match that counts begins where the text does, so an expression may as well be tried there only.
The anchored form of an expression is the same sequence of items behind one check for the start of
the text, and its program is the old one behind that check. The anchored source, however, has two
more levels of nesting, the group that the source is pasted into and the sequence of the anchor and
the group. Whatever the limits are, a source that comes within two levels of them can be read on its
own and not behind the anchor.
-/

namespace TwoWay.Regex

/-! ### Items in sequence -/

end TwoWay.Regex

namespace TwoWay.Pattern

open Regex

end TwoWay.Pattern
