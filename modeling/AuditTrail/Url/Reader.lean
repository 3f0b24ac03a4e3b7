import AuditTrail.Text.Split
import AuditTrail.Text.Utf8
import AuditTrail.Url.Address
import AuditTrail.Url.Basic
import AuditTrail.Url.Domain
import AuditTrail.Url.Error

/-! # Reading URLs

An absolute URL is read leniently: controls around it and tabs and newlines within it are passed
over, characters that may not stand where they stand are percent coded, and where the scheme is
special a backslash counts as a slash and a host is required.
-/

namespace AuditTrail.Url

/-! ## Cutting -/

/-- The text without controls and blanks at its ends, and without tabs and newlines. -/
def cleaned (cs : List Char) : List Char :=
  let dropStart (cs : List Char) : List Char := cs.dropWhile fun c => c.toNat ≤ 0x20
  dropTabsAndNewlines (dropStart (dropStart cs).reverse).reverse

/-- What stands before a mark, and what after it if the mark is there. -/
def cutAt (mark : Char) (cs : List Char) : List Char × Option (List Char) :=
  match cs.span (· != mark) with
  | (before, _ :: after) => (before, some after)
  | (before, []) => (before, none)

/-- What stands before the last of a mark, and what after it. -/
def cutAtLast? (mark : Char) (cs : List Char) : Option (List Char × List Char) :=
  match cutAt mark cs.reverse with
  | (after, some before) => some (before.reverse, after.reverse)
  | (_, none) => none

def isSchemeChar (c : Char) : Bool := c.isAlphanum || c == '+' || c == '-' || c == '.'

/-- A scheme in lower case, and what follows its colon. -/
def scheme? (cs : List Char) : Option (String × List Char) :=
  match cs.span isSchemeChar with
  | (c :: name, ':' :: rest) =>
    if c.isAlpha then some (String.ofList ((c :: name).map Char.toLower), rest) else none
  | _ => none

def isSlash (special : Bool) (c : Char) : Bool := c == '/' || (special && c == '\\')

/-! ## Hosts -/

/-- What a host without domain names may not hold. -/
def isForbiddenInHost (c : Char) : Bool :=
  ['\x00', '\t', '\n', '\r', ' ', '#', '/', ':', '<', '>', '?', '@', '[', '\\', ']', '^',
    '|'].contains c

/-- An address in brackets. -/
def bracketed (cs : List Char) : Except Fault String :=
  if cs.getLast? == some ']' then
    match ipv6? cs.dropLast with
    | some pieces => .ok (ipv6Text pieces)
    | none => .error .invalidIpv6
  else .error .invalidIpv6

/-- The host of a special scheme: an address or a domain. -/
def specialHost (cs : List Char) : Except Fault String :=
  match cs with
  | '[' :: rest => bracketed rest
  | _ =>
    match Text.Utf8.decode (decode cs) with
    | .error _ => .error .invalidDomainName
    | .ok decoded =>
      match Domain.toAscii? decoded with
      | none => .error .invalidDomainName
      | some [] => .error .emptyHost
      | some domain =>
        if endsInNumber domain then
          match ipv4? domain with
          | some address => .ok (ipv4Text address)
          | none => .error .invalidIpv4
        else .ok (String.ofList domain)

/-- The host of any other scheme: an address of version 6 or text. -/
def plainHost (cs : List Char) : Except Fault String :=
  match cs with
  | '[' :: rest => bracketed rest
  | _ =>
    if cs.any isForbiddenInHost then .error .invalidDomainCharacter
    else .ok (String.ofList (encode codedAlways cs))

/-! ## Authorities -/

/-- A host ends at a colon outside of brackets. -/
def splitHost (inBrackets : Bool) : List Char → List Char × List Char
  | [] => ([], [])
  | c :: rest =>
    if c = ':' && !inBrackets then ([], c :: rest)
    else
      let inBrackets := if c = '[' then true else if c = ']' then false else inBrackets
      let (host, after) := splitHost inBrackets rest
      (c :: host, after)

/-- A port, and what follows its digits; no digits state no port. -/
def port? (digits : List Char) : Except Fault (Option Nat) :=
  if digits.isEmpty then .ok none
  else
    let n := digits.foldl (fun n c => n * 10 + (c.toNat - 0x30)) 0
    if n < Nat.pow 2 16 then .ok (some n) else .error .invalidPort

/-- Name and password, each coded; an empty password is none. -/
def userInfo (cs : List Char) : String × Option String :=
  let coded (cs : List Char) : String := String.ofList (encode codedInUserInfo cs)
  match cutAt ':' cs with
  | (name, none) | (name, some []) => (coded name, none)
  | (name, some password) => (coded name, some (coded password))

/-- The host and port of an authority. Where a backslash is no slash, it ends a port, and what
follows belongs to the path. -/
def hostAndPort (scheme : String) (cs : List Char) :
    Except Fault (String × Option Nat × List Char) := do
  let special := isSpecial scheme
  let (hostPart, after) := splitHost false cs
  if special && hostPart.isEmpty then throw .emptyHost
  let host ← if special then specialHost hostPart else plainHost hostPart
  match after with
  | [] => pure (host, none, [])
  | _ :: portPart =>
    if host.isEmpty then throw .emptyHost
    let (digits, rest) := portPart.span Char.isDigit
    let port ← port? digits
    if rest.isEmpty || rest.head? == some '\\' then
      pure (host, if port == defaultPort? scheme then none else port, rest)
    else throw .invalidPort

/-- Reads an authority; `ends` tells whether the whole text ends with it. -/
def readAuthority (scheme : String) (ends : Bool) (cs : List Char) :
    Except Fault (Authority × List Char) := do
  match cutAtLast? '@' cs with
  | none =>
    let (host, port, rest) ← hostAndPort scheme cs
    pure ({ host, port }, rest)
  | some ([], after) =>
    if after.isEmpty && !ends then throw .emptyHost
    let (host, port, rest) ← hostAndPort scheme after
    pure ({ host, port }, rest)
  | some (info, after) =>
    let (username, password) := userInfo info
    let (host, port, rest) ← hostAndPort scheme after
    let a : Authority := { username, password, host, port }
    if a.hasUserInfo && host.isEmpty then throw .emptyHost
    pure (a, rest)

/-! ## Paths -/

/-- Reads the segments of a path one after the other. -/
def readSegments (scheme : String) (path : List String) : List (List Char) → List String
  | [] => path
  | part :: rest =>
    let coded := String.ofList (encode codedInPath part)
    readSegments scheme (addSegment scheme path coded rest.isEmpty) rest

/-- The segments of a path without its first slash. -/
def segments (scheme : String) (cs : List Char) : List String :=
  readSegments scheme [] (Text.splitWhere (isSlash (isSpecial scheme)) cs)

/-- The path after an authority. Only where the scheme is not special may it be empty. -/
def pathAfter (scheme : String) (cs : List Char) : Path :=
  match cs with
  | [] => .segments (if isSpecial scheme then [""] else [])
  | c :: rest =>
    .segments (segments scheme (if isSlash (isSpecial scheme) c then rest else c :: rest))

/-- Leading slashes of a file's path count once. -/
def dropEmptyStart : List String → List String
  | "" :: s :: rest => dropEmptyStart (s :: rest)
  | path => path

/-! ## URLs -/

/-- The part of a URL between its scheme and its query. -/
structure Body where
  authority : Option Authority := none
  path : Path

/-- The body of a URL of a file, whose host may be missing and is not written if it is the
machine itself. A drive letter stands for the host too. -/
def readFileBody (cs : List Char) : Except Fault Body := do
  let below (host : String) (cs : List Char) : Body :=
    let path := dropEmptyStart (segments "file" cs)
    let host := if path.any isDriveLetter then "" else host
    { authority := some { host }, path := .segments path }
  match cs with
  | a :: b :: rest =>
    if isSlash true a && isSlash true b then
      let (hostPart, after) := rest.span fun c => !isSlash true c
      if hostPart.isEmpty then pure (below "" after)
      else if isDriveLetter (String.ofList hostPart) then pure (below "" rest)
      else
        let host ← specialHost hostPart
        pure (below (if host == "localhost" then "" else host) (after.drop 1))
    else pure (below "" cs)
  | _ => pure (below "" cs)

/-- The body of a URL of any other scheme. -/
def readBody (scheme : String) (ends : Bool) (cs : List Char) : Except Fault Body := do
  let special := isSpecial scheme
  let withAuthority (cs : List Char) : Except Fault Body := do
    let (authorityPart, after) := cs.span fun c => !isSlash special c
    let (a, rest) ← readAuthority scheme (ends && after.isEmpty) authorityPart
    pure { authority := some a, path := pathAfter scheme (rest ++ after) }
  if special then withAuthority (cs.dropWhile (isSlash true))
  else
    match cs with
    | '/' :: '/' :: rest => withAuthority rest
    | '/' :: rest => pure { path := .segments (segments scheme rest) }
    | _ => pure { path := .plain (String.ofList (encode codedAlways cs)) }

/-- Reads an absolute URL. -/
def ofText (s : String) : Except Fault Url := do
  let some (scheme, rest) := scheme? (cleaned s.toList) | throw .relative
  let (rest, fragment) := cutAt '#' rest
  let (rest, query) := cutAt '?' rest
  let ends := query.isNone && fragment.isNone
  let b ← if scheme == "file" then readFileBody rest else readBody scheme ends rest
  let coded (set : Char → Bool) (cs : List Char) : String := String.ofList (encode set cs)
  pure
    { scheme
      authority := b.authority
      path := b.path
      query := query.map (coded (codedInQuery (isSpecial scheme)))
      fragment := fragment.map (coded codedInFragment) }

end AuditTrail.Url
