import FullText.Text.Alphanumeric

/-!
# Escapes in query strings

Three kinds of text are put into a query string, and each has its own characters
that a backslash must precede: field names, tokens (tags and the terms of patterns),
and the phrases between quotes.
-/

namespace FullText

/-- A backslash before every special character. -/
def escapeWhere (special : Char → Bool) (cs : List Char) : List Char :=
  cs.flatMap fun c => if special c then ['\\', c] else [c]

/-- The characters that would end or split a field name: all but the alphanumeric
ones and the underscore. -/
def isFieldSpecial (c : Char) : Bool :=
  !isAlphanumeric c && c != '_'

/-- The punctuation that takes a backslash in a token, and the space. -/
def tokenSpecials : List Char :=
  [ ',', '.', '<', '>', '\x7b', '\x7d', '[', ']', '"', '\'', ':', ';', '!', '@', '#', '$',
    '%', '^', '&', '*', '(', ')', '-', '+', '=', '~', '|', '/', '\\', ' ' ]

/-- Whether a character takes a backslash in a token. -/
def isTokenSpecial (c : Char) : Bool :=
  tokenSpecials.contains c

/-- Whether a character would end or break a phrase. -/
def isPhraseSpecial (c : Char) : Bool :=
  c == '"' || c == '\\'

/-- A field name as it stands in a query string. -/
def escapeField (name : String) : List Char :=
  escapeWhere isFieldSpecial name.toList

/-- A tag or the term of a pattern as it stands in a query string. -/
def escapeToken (value : String) : List Char :=
  escapeWhere isTokenSpecial value.toList

/-- A phrase as it stands between quotes in a query string. -/
def escapePhrase (value : String) : List Char :=
  escapeWhere isPhraseSpecial value.toList

end FullText
