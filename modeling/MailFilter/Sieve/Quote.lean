import MailFilter.Text.Blank

/-!
# Quoting in scripts

The three ways in which foreign text enters a script: as a quoted string, as a literal part of a
wildcard pattern and inside a comment.
-/
namespace MailFilter.Sieve

/-- The characters of a quoted string that need a backslash. -/
def quoteChar (c : Char) : Text := if c == '\\' || c == '"' then ['\\', c] else [c]

/-- A quoted string. -/
def quote (s : Text) : Text := '"' :: s.flatMap quoteChar ++ ['"']

def globChar (c : Char) : Text :=
  if c == '\\' || c == '*' || c == '?' then ['\\', c] else [c]

/-- A wildcard pattern that matches exactly the given text. -/
def globEscape (s : Text) : Text := s.flatMap globChar

/-- Every end mark of a bracket comment broken up. -/
def breakCommentEnds : Text → Text
  | [] => []
  | '*' :: '/' :: s => '*' :: ' ' :: '/' :: breakCommentEnds s
  | c :: s => c :: breakCommentEnds s

/-- Text made safe inside a comment: one line, without the mark that ends a bracket comment. -/
def commentText (s : Text) : Text := Text.join [' '] (Text.words (breakCommentEnds s))

/-- Characters with a meaning of their own in a regular expression, the anchors apart. -/
def isRegexMeta (c : Char) : Bool := ".*+?[]()|\\".toList.contains c

/-- The wildcard pattern for an anchored literal: `^a` gives `a*`, `a$` gives `*a` and `^a$` gives
`a`. A pattern with other special characters, without an anchor or without a literal has none. -/
def literalGlob? (pattern : Text) : Option Text :=
  if pattern.any isRegexMeta then none
  else
    let starts := Text.startsWith pattern ['^']
    let ends := Text.endsWith pattern ['$']
    let tail := if starts then pattern.drop 1 else pattern
    let core := if ends then tail.dropLast else tail
    if core.isEmpty then none
    else
      match starts, ends with
      | true, true => some core
      | true, false => some (core ++ ['*'])
      | false, true => some ('*' :: core)
      | false, false => none

end MailFilter.Sieve
