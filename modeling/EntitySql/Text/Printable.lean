import EntitySql.Text.Span
import EntitySql.Text.Printable.Table

/-!
# Characters shown as they are

A described text shows a character as it is if it has a visible form of its own.  A combining
character has none: it would be drawn on what stands before it.
-/

namespace EntitySql.Printable

/-- Whether a character has a visible form of its own. -/
def isVisible (c : Char) : Bool :=
  let n := c.toNat
  if n < 0x80 then 0x20 ≤ n && n < 0x7f else !inIntervals hidden n && !inIntervals combining n

end EntitySql.Printable
