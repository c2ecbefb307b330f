/-!
# Line endings

Text files end their lines with a line feed, with a carriage return, or with
one after the other.  Reading them as text turns every line ending into a line
feed.

## Main Definitions

* `normalizeNewlines` — every line ending as a line feed
-/

namespace LoxScan

/-- Text with each carriage return, and the line feed that may follow it,
replaced by one line feed. -/
def normalizeNewlines : List Char → List Char
  | '\r' :: '\n' :: rest => '\n' :: normalizeNewlines rest
  | '\r' :: rest => '\n' :: normalizeNewlines rest
  | c :: rest => c :: normalizeNewlines rest
  | [] => []

/-- No carriage return is left. -/
theorem carriageReturn_not_mem_normalizeNewlines (text : List Char) :
    '\r' ∉ normalizeNewlines text := by
  fun_induction normalizeNewlines text with
  | case1 rest ih => simp [ih]
  | case2 rest _ ih => simp [ih]
  | case3 c rest _ notReturn ih =>
    simp only [List.mem_cons, not_or]
    exact ⟨fun h => notReturn h.symm, ih⟩
  | case4 => simp

end LoxScan
