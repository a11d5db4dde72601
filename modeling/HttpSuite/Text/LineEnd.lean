/-!
# Line ends

A carriage return with a line feed, and one by itself, both count as a line feed.
-/

namespace HttpSuite.Text

/-- Write every line end as one line feed. -/
def unifyLineEnds : List Char → List Char
  | [] => []
  | '\r' :: '\n' :: rest => '\n' :: unifyLineEnds rest
  | c :: rest => (if c = '\r' then '\n' else c) :: unifyLineEnds rest

end HttpSuite.Text
