/-!
# Blank characters, trimming and words

A character is blank when it is a space of any width, a tab, or one of the characters that end a
line or separate records. Trimming removes blanks at the ends of a text, and the words of a text are
its longest runs without a blank.
-/

namespace Restack.Text

/-- Spaces of any width, tabs, line ends and the four record separators. -/
def isBlank (c : Char) : Bool :=
  let n := c.toNat
  (9 ≤ n && n ≤ 13) || (28 ≤ n && n ≤ 32) || n == 133 || n == 160 || n == 5760 ||
    (8192 ≤ n && n ≤ 8202) || n == 8232 || n == 8233 || n == 8239 || n == 8287 || n == 12288

/-- Removes what satisfies the test at the end of a list. -/
def dropTail {α : Type} (p : α → Bool) (s : List α) : List α :=
  (s.reverse.dropWhile p).reverse

/-- Removes what satisfies the test at both ends of a list. -/
def stripBoth {α : Type} (p : α → Bool) (s : List α) : List α :=
  dropTail p (s.dropWhile p)

/-- Removes the blanks at both ends. -/
def trim (s : List Char) : List Char :=
  stripBoth isBlank s

/-- The longest runs of characters that are not blank, in order. -/
def words (s : List Char) : List (List Char) :=
  go [] s
where
  /-- Collects the word in hand, written backwards. -/
  go : List Char → List Char → List (List Char)
    | [], [] => []
    | word, [] => [word.reverse]
    | word, c :: rest =>
      if isBlank c then
        match word with
        | [] => go [] rest
        | _ => word.reverse :: go [] rest
      else go (c :: word) rest

/-- A text without the blanks at its ends. -/
def trimmed (s : String) : String :=
  String.ofList (trim s.toList)

end Restack.Text
