/-!
# Placeholders in a text

SQL text is scanned from left to right.  A region in single or double quotes begins at one of these
characters and ends at the next occurrence of the same one; a region that is not closed runs to the
end.  Only a `?` outside all regions is a placeholder.

`number` replaces the placeholders by numbered ones, `count` counts them, and `after` is the state
that a text leaves the scanner in.  Scanning a text that is put together from two is scanning the
first and going on with the second (`number_append`, `count_append`, `after_append`).
-/

namespace EntitySql.Placeholder

/-- The quote that the scanner is inside of, if any. -/
abbrev State := Option Char

/-- Whether a character opens a quoted region. -/
def isQuote (c : Char) : Bool := c == '\x27' || c == '"'

/-- The state after one character. -/
def next (state : State) (c : Char) : State :=
  match state with
  | none => if isQuote c then some c else none
  | some q => if c = q then none else some q

/-- Whether a character is a placeholder. -/
def isMark (state : State) (c : Char) : Bool := state.isNone && c == '?'

/-- The state after a text. -/
def after (state : State) (s : List Char) : State := s.foldl next state

/-- How many placeholders a text has. -/
def count : State → List Char → Nat
  | _, [] => 0
  | state, c :: rest => (if isMark state c then 1 else 0) + count (next state c) rest

/-- The text with its placeholders replaced by those of the numbers after `n`. -/
def number (mark : Nat → List Char) : State → Nat → List Char → List Char
  | _, _, [] => []
  | state, n, c :: rest =>
    if isMark state c then mark (n + 1) ++ number mark (next state c) (n + 1) rest
    else c :: number mark (next state c) n rest

/-! ### Texts put together -/

theorem after_append (state : State) (s t : List Char) :
    after state (s ++ t) = after (after state s) t := List.foldl_append

theorem count_append (state : State) (s t : List Char) :
    count state (s ++ t) = count state s + count (after state s) t := by
  induction s generalizing state with
  | nil => simp [count, after]
  | cons c rest ih => simp only [List.cons_append, count, ih]; simp [after, Nat.add_assoc]

theorem number_append (mark : Nat → List Char) (state : State) (n : Nat) (s t : List Char) :
    number mark state n (s ++ t) =
      number mark state n s ++ number mark (after state s) (n + count state s) t := by
  induction s generalizing state n with
  | nil => simp [number, count, after]
  | cons c rest ih =>
    by_cases h : isMark state c = true
    · simp [number, count, after, h, ih, Nat.add_assoc]
    · simp [number, count, after, h, ih]

end EntitySql.Placeholder
