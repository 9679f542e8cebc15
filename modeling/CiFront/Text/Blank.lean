/-!
# Blank characters and trimming

A blank is a character with the Unicode property `White_Space`. Tokens, locales, request prefixes and
the lines of a properties text are all trimmed by this one notion.
-/

namespace CiFront.Text

/-- The characters with the Unicode property `White_Space`. -/
def isBlank (c : Char) : Bool :=
  ('\t' ≤ c && c ≤ '\r') || c == ' ' || c == '\u0085' || c == '\u00a0' || c == '\u1680'
    || ('\u2000' ≤ c && c ≤ '\u200a') || c == '\u2028' || c == '\u2029' || c == '\u202f'
    || c == '\u205f' || c == '\u3000'

/-- The text without its leading blanks. -/
def trimStart (s : List Char) : List Char :=
  s.dropWhile isBlank

/-- The text without its trailing blanks. -/
def trimEnd (s : List Char) : List Char :=
  (s.reverse.dropWhile isBlank).reverse

/-- The text without the blanks around it. -/
def trim (s : List Char) : List Char :=
  trimEnd (trimStart s)

/-- Whether nothing but blanks is in the text. -/
def isBlankText (s : String) : Bool :=
  s.toList.all isBlank

@[simp] theorem trimStart_nil : trimStart [] = [] := rfl

@[simp] theorem trimEnd_nil : trimEnd [] = [] := rfl

@[simp] theorem trim_nil : trim [] = [] := rfl

theorem trimStart_cons (c : Char) (s : List Char) :
    trimStart (c :: s) = if isBlank c then trimStart s else c :: s := by
  simp only [trimStart, List.dropWhile_cons]

theorem trimEnd_append_singleton (s : List Char) (c : Char) :
    trimEnd (s ++ [c]) = if isBlank c then trimEnd s else s ++ [c] := by
  simp only [trimEnd, List.reverse_append, List.reverse_singleton, List.singleton_append,
    List.dropWhile_cons]
  split <;> simp

end CiFront.Text
