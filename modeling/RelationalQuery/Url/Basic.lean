import RelationalQuery.Url.Address
import RelationalQuery.Url.Domain

/-!
# Absolute URLs

A text is an absolute URL when it begins with a scheme and the authority behind the scheme is valid.
Control characters and spaces around the text and tabs and line breaks inside it do not count.

Main definitions:

- `Url.isUrl` decides whether a text is an absolute URL.
- `Url.isHost` and `Url.isOpaqueHost` check a host, `Url.isAuthority` the user, host and port
  together.
-/

namespace RelationalQuery.Url

/-! ## Schemes -/

/-- How the text behind a scheme is read. -/
inductive SchemeClass where
  | file
  | special
  | opaquePath
deriving DecidableEq

/-- The class of a scheme in lower case. -/
def SchemeClass.ofScheme (scheme : List Char) : SchemeClass :=
  let name := String.ofList scheme
  if name = "file" then .file
  else if ["http", "https", "ws", "wss", "ftp"].contains name then .special
  else .opaquePath

/-- The character may stand in a scheme. -/
def isSchemeChar (c : Char) : Bool := c.isAlphanum || c == '+' || c == '-' || c == '.'

/-- The scheme in lower case, and the text behind its colon. -/
def scheme? (cs : List Char) : Option (List Char × List Char) :=
  let scheme := cs.takeWhile isSchemeChar
  match scheme, cs.drop scheme.length with
  | first :: _, ':' :: rest => if first.isAlpha then some (scheme.map Char.toLower, rest) else none
  | _, _ => none

/-! ## Hosts -/

/-- The content of a text in square brackets; `none` without an opening bracket. -/
def bracketed? : List Char → Option (Option (List Char))
  | '[' :: rest => some (if rest.getLast? = some ']' then some rest.dropLast else none)
  | _ => none

/-- The host is valid behind a special scheme: an address of version 6 in brackets, an address of
version 4, or a domain. -/
def isHost (host : List Char) : Bool :=
  match bracketed? host with
  | some content => content.any isAddress6
  | none =>
    match domain? host with
    | none => false
    | some domain => !endsInNumber domain || isAddress4 domain

/-- The character is forbidden in a host behind a scheme that is not special. -/
def isForbiddenInHost (c : Char) : Bool :=
  ['\x00', '\t', '\n', '\r', ' ', '#', '/', ':', '<', '>', '?', '@', '[', '\\', ']', '^',
    '|'].contains c

/-- The host is valid behind a scheme that is not special. -/
def isOpaqueHost (host : List Char) : Bool :=
  match bracketed? host with
  | some content => content.any isAddress6
  | none => !host.any isForbiddenInHost

/-! ## Authorities -/

/-- The character ends an authority. -/
def endsAuthority (special : Bool) (c : Char) : Bool :=
  c == '/' || c == '?' || c == '#' || (special && c == '\\')

/-- The text up to the last occurrence of a character, and the text behind it. -/
def splitLast? (separator : Char) (cs : List Char) : Option (List Char × List Char) :=
  let behind := (cs.reverse.takeWhile (· ≠ separator)).reverse
  if behind.length = cs.length then none
  else some (cs.take (cs.length - behind.length - 1), behind)

/-- The length of the host at the front of a text: up to a colon outside of brackets, or the end of
the authority. -/
def hostLength (special : Bool) : List Char → Bool → Nat
  | [], _ => 0
  | c :: rest, inBrackets =>
    if (c == ':' && !inBrackets) || endsAuthority special c then 0
    else
      hostLength special rest (if c = '[' then true else if c = ']' then false else inBrackets) + 1

/-- The text behind a colon is a port number of at most 16 bits, or nothing, up to the path. -/
def isPort (cs : List Char) : Bool :=
  let digits := cs.takeWhile Text.isDigit
  decide (Text.decimalValue digits ≤ 65535) &&
    match cs.drop digits.length with
    | [] => true
    | c :: _ => endsAuthority true c

/-- Host and port at the front of a text are valid.  An empty host is no host: it is refused behind
a special scheme, in front of a port and behind a user. -/
def isHostAndPort (special hasUser : Bool) (cs : List Char) : Bool :=
  let host := cs.take (hostLength special cs false)
  let rest := cs.drop host.length
  let hostValid := if special then isHost host else isOpaqueHost host
  let portValid := match rest with
    | ':' :: port => !host.isEmpty && isPort port
    | _ => true
  hostValid && portValid && !(host.isEmpty && hasUser)

/-- The text behind the two slashes begins with a valid authority. -/
def isAuthority (special : Bool) (cs : List Char) : Bool :=
  let authority := cs.takeWhile (!endsAuthority special ·)
  let rest := cs.drop authority.length
  match splitLast? '@' authority with
  | none => isHostAndPort special false cs
  | some ([], host) =>
    !(host.isEmpty && !rest.isEmpty) && isHostAndPort special false (host ++ rest)
  | some (user, host) => isHostAndPort special (user != [':']) (host ++ rest)

/-! ## Files -/

/-- The character is one of the two slashes. -/
def isSlash (c : Char) : Bool := c == '/' || c == '\\'

/-- The text is a letter and a colon or a bar. -/
def isDriveLetter : List Char → Bool
  | [letter, mark] => letter.isAlpha && (mark == ':' || mark == '|')
  | _ => false

/-- The text behind the scheme of a file is valid: a host behind two slashes may be left out, be a
drive letter, or be valid. -/
def isFile : List Char → Bool
  | first :: second :: rest =>
    if isSlash first && isSlash second then
      let host := rest.takeWhile (!endsAuthority true ·)
      isDriveLetter host || host.isEmpty || isHost host
    else true
  | _ => true

/-! ## URLs -/

/-- The character is dropped at the ends of a URL. -/
def isTrimmed (c : Char) : Bool := c.toNat ≤ 0x20

/-- The character is dropped inside a URL. -/
def isDropped (c : Char) : Bool := c == '\t' || c == '\n' || c == '\r'

/-- The characters of a URL that count. -/
def significant (cs : List Char) : List Char :=
  let front := cs.dropWhile isTrimmed
  (front.reverse.dropWhile isTrimmed).reverse.filter (!isDropped ·)

/-- The text is an absolute URL. -/
def isUrl (text : String) : Bool :=
  match scheme? (significant text.toList) with
  | none => false
  | some (scheme, rest) =>
    match SchemeClass.ofScheme scheme with
    | .file => isFile rest
    | .special => isAuthority true (rest.dropWhile isSlash)
    | .opaquePath =>
      match rest with
      | '/' :: '/' :: authority => isAuthority false authority
      | _ => true

end RelationalQuery.Url
