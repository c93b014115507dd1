import TwoWay.Pattern

/-!
# A source pasted into a group

The source of an anchored expression is put as text between an anchor with an opening bracket and a
closing bracket. When the source can be read on its own, no token of it reaches beyond its end, so
the bracket behind it is a token of its own; and no token closes a group that the source has not
opened, so the frame of the source ends up as the content of the group around it.
-/

namespace TwoWay.Regex

/-! ### Tokens before a closing bracket -/

namespace Reading

variable {reading reading' : Reading} {token : Token} {tokens : List Token}

/-- The frame that stands for the whole source. -/
def base (reading : Reading) : Frame :=
  reading.outer.getLastD reading.top

end Reading

end TwoWay.Regex
