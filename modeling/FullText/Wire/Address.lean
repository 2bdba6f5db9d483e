import FullText.Wire.Channel

/-!
# Addresses

The address of a server is a URL with one of the schemes `redis`, `rediss`,
`redis+unix` and `unix`.  `Address.read` refuses every other text before a
connection is tried.
-/

namespace FullText

/-- The parts of an address that decide whether it can be used. -/
structure Address where
  scheme : String
  /-- What follows the scheme and its colon. -/
  rest : String

namespace Address

/-- The schemes of servers. -/
def schemes : List String :=
  ["redis", "rediss", "redis+unix", "unix"]

/-- Whether a character is dropped at the ends of a URL. -/
def isPadding (c : Char) : Bool :=
  c.toNat ≤ 32

/-- Whether a character is dropped anywhere in a URL. -/
def isBreak (c : Char) : Bool :=
  c == '\t' || c == '\n' || c == '\r'

/-- A URL without padding and line breaks. -/
def cleaned (s : String) : List Char :=
  (((s.toList.dropWhile isPadding).reverse.dropWhile isPadding).reverse).filter (!isBreak ·)

/-- Whether a character may stand in a scheme after its first letter. -/
def isSchemeChar (c : Char) : Bool :=
  c.isAlphanum || c == '+' || c == '-' || c == '.'

/-- Whether a character ends the part of a URL that names the host. -/
def endsHost (c : Char) : Bool :=
  c == '/' || c == '?' || c == '#'

/-- Whether a character may not stand in a host name. -/
def isForbidden (c : Char) : Bool :=
  "\x00\t\n\r #/:<>?@[\\]^|".toList.contains c

/-- The text after the last `@`, which is the host with its port. -/
def afterUser (cs : List Char) : List Char :=
  (cs.reverse.takeWhile (· != '@')).reverse

/-- Whether a text is empty or a port number after a colon. -/
def isPort : List Char → Bool
  | [] => true
  | ':' :: digits =>
    digits.all Char.isDigit && decide (digits.foldl (fun n c => 10 * n + (c.toNat - 48)) 0 < 65536)
  | _ => false

/-! ### Hosts in brackets -/

/-- The parts of a text between the places of a character. -/
def parts (mark : Char) : List Char → List (List Char)
  | [] => [[]]
  | c :: cs =>
    match parts mark cs with
    | [] => [[c]]
    | p :: ps => if c = mark then [] :: p :: ps else (c :: p) :: ps

/-- The groups of a text, of which the empty text has none. -/
def groups (cs : List Char) : List (List Char) :=
  if cs.isEmpty then [] else parts ':' cs

/-- Whether a text is a group of one to four hexadecimal digits. -/
def isGroup (cs : List Char) : Bool :=
  cs.all (fun c => c.isDigit || "abcdefABCDEF".toList.contains c) && !cs.isEmpty && cs.length ≤ 4

/-- Whether a text is a number below 256 without a leading zero. -/
def isByte (cs : List Char) : Bool :=
  cs.all Char.isDigit && !cs.isEmpty && (cs.length == 1 || cs.head? != some '0') &&
    cs.foldl (fun n c => 10 * n + (c.toNat - 48)) 0 < 256

/-- Whether a text is four bytes with points between them. -/
def isQuad (cs : List Char) : Bool :=
  (parts '.' cs).length == 4 && (parts '.' cs).all isByte

/-- How many groups a list of them stands for; the last may be four bytes, which take
the place of two. -/
def countGroups : List (List Char) → Option Nat
  | [] => some 0
  | [p] => if isGroup p then some 1 else if isQuad p then some 2 else none
  | p :: ps => if isGroup p then (countGroups ps).map (· + 1) else none

/-- The texts before and after the first two colons in a row. -/
def splitGap : List Char → Option (List Char × List Char)
  | [] => none
  | ':' :: ':' :: cs => some ([], cs)
  | c :: cs => (splitGap cs).map fun (before, after) => (c :: before, after)

/-- Whether a text is eight groups, or fewer with one gap. -/
def isGrouped (cs : List Char) : Bool :=
  match splitGap cs with
  | none => countGroups (groups cs) == some 8
  | some (before, after) =>
    match countGroups (groups after) with
    | some n => (groups before).all isGroup && (groups before).length + n ≤ 7
    | none => false

/-! ### Reading -/

/-- Whether a text is a host with an optional port.  An empty host has neither user
nor port. -/
def isHost (user : Bool) (cs : List Char) : Bool :=
  match cs with
  | '[' :: inner =>
    let host := inner.takeWhile (· != ']')
    match inner.drop host.length with
    | ']' :: port => isGrouped host && isPort port
    | _ => false
  | _ =>
    let host := cs.takeWhile (· != ':')
    let port := cs.drop host.length
    !host.any isForbidden && isPort port && !(host.isEmpty && (user || !port.isEmpty))

/-- Whether the part of a URL after the scheme is well-formed. -/
def isRest : List Char → Bool
  | '/' :: '/' :: cs =>
    let authority := cs.takeWhile (!endsHost ·)
    isHost (authority.contains '@') (afterUser authority)
  | _ => true

/-- The address that a text is. -/
def read? (s : String) : Option Address :=
  let cs := cleaned s
  let scheme := cs.takeWhile isSchemeChar
  match scheme, cs.drop scheme.length with
  | first :: _, ':' :: rest =>
    let name := String.ofList (scheme.map Char.toLower)
    if first.isAlpha && schemes.contains name && isRest rest then
      some ⟨name, String.ofList rest⟩
    else none
  | _, _ => none

/-- The address that a text is, or the error of a connection that cannot be tried. -/
def read (s : String) : Except ChannelError Address :=
  match read? s with
  | some a => .ok a
  | none => .error (.connection "Redis URL did not parse- InvalidClientConfig")

end Address

end FullText
