import ProxySelection.Text.Basic

/-!
Line ends: a line may end with a carriage return, a line feed, or both in this order, and all
three count as a line feed. One line feed at the end of a text may not count at all.
-/

namespace ProxySelection

namespace Text

/-- The text with every line end as a line feed. -/
def withLineFeeds : Text → Text
  | char '\r' :: char '\n' :: t => char '\n' :: withLineFeeds t
  | char '\r' :: t => char '\n' :: withLineFeeds t
  | c :: t => c :: withLineFeeds t
  | [] => []

/-- The text without one line feed at its end. -/
def withoutFinalLineFeed (t : Text) : Text :=
  if t.getLast? = some (char '\n') then t.dropLast else t

end Text

end ProxySelection
