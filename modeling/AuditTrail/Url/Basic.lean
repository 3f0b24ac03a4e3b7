import AuditTrail.Url.Percent

/-! # URLs

A URL as its parts, each in its written form, and the changes that sinks make: another query,
further segments at the end of the path.
-/

namespace AuditTrail

/-- Who and where, before the path of a URL. -/
structure Url.Authority where
  username : String := ""
  password : Option String := none
  host : String
  /-- Left out where it is the scheme's own. -/
  port : Option Nat := none
deriving DecidableEq, Repr

/-- The path of a URL: one text that is not cut up, or segments with a slash before each. -/
inductive Url.Path
  | plain (text : String)
  | segments (list : List String)
deriving DecidableEq, Repr

structure Url where
  scheme : String
  authority : Option Url.Authority := none
  path : Url.Path
  query : Option String := none
  fragment : Option String := none
deriving DecidableEq, Repr

namespace Url

/-! ## Schemes -/

/-- Schemes whose URLs have a host, and among whose slashes a backslash counts. -/
def isSpecial (scheme : String) : Bool :=
  ["http", "https", "ws", "wss", "ftp", "file"].contains scheme

def defaultPort? (scheme : String) : Option Nat :=
  match scheme with
  | "http" | "ws" => some 80
  | "https" | "wss" => some 443
  | "ftp" => some 21
  | _ => none

/-! ## Written form -/

namespace Authority

def hasUserInfo (a : Authority) : Bool := !a.username.isEmpty || a.password.isSome

def text (a : Authority) : String :=
  (if a.hasUserInfo then
    a.username ++ (a.password.elim "" fun p => ":" ++ p) ++ "@"
  else "") ++
    a.host ++ (a.port.elim "" fun p => ":" ++ toString p)

end Authority

def Path.text : Path → String
  | plain text => text
  | segments list => String.join (list.map ("/" ++ ·))

/-- A path that starts with two slashes must not be read as a host. -/
def pathText (u : Url) : String :=
  match u.authority, u.path with
  | none, .segments ("" :: s :: rest) => "/." ++ (Path.segments ("" :: s :: rest)).text
  | _, path => path.text

def text (u : Url) : String :=
  u.scheme ++ ":" ++ (u.authority.elim "" fun a => "//" ++ a.text) ++ u.pathText ++
    (u.query.elim "" ("?" ++ ·)) ++ (u.fragment.elim "" ("#" ++ ·))

/-- The path and query that a request for the URL names. -/
def target (u : Url) : String := u.path.text ++ (u.query.elim "" ("?" ++ ·))

/-- Whether nothing can be put below the path. -/
def hasPlainPath (u : Url) : Bool :=
  match u.path with
  | .plain _ => true
  | .segments _ => false

/-! ## Changes -/

def isTabOrNewline (c : Char) : Bool := c == '\t' || c == '\n' || c == '\r'

def dropTabsAndNewlines (cs : List Char) : List Char := cs.filter fun c => !isTabOrNewline c

/-- Puts a query in place of the one there is. -/
def withQuery (u : Url) (query : String) : Url :=
  let coded := encode (codedInQuery (isSpecial u.scheme)) (dropTabsAndNewlines query.toList)
  { u with query := some (String.ofList coded) }

/-- The ways to write one dot in a segment. -/
def isSingleDot (segment : String) : Bool := [".", "%2e"].contains segment.toLower

/-- The ways to write two dots in a segment. -/
def isDoubleDot (segment : String) : Bool :=
  ["..", "%2e%2e", "%2e.", ".%2e"].contains segment.toLower

/-- A letter and a colon or a bar, which two dots do not leave. -/
def isDriveLetter (segment : String) : Bool :=
  match segment.toList with
  | [c, mark] => c.isAlpha && (mark == ':' || mark == '|')
  | _ => false

/-- The path without its last segment. -/
def leaveSegment (path : List String) : List String :=
  if path.getLast?.any isDriveLetter then path else path.dropLast

/-- Drive letters in paths of files are written with a colon. -/
def normalSegment (scheme segment : String) : String :=
  if scheme == "file" && isDriveLetter segment then
    String.ofList (segment.toList.take 1 ++ [':'])
  else segment

/-- Reads one more segment of a path. Two dots leave the segment before them; a path that ends
in dots ends in a slash. -/
def addSegment (scheme : String) (path : List String) (segment : String) (isLast : Bool) :
    List String :=
  let close (path : List String) : List String := if isLast then path ++ [""] else path
  if isDoubleDot segment then close (leaveSegment path)
  else if isSingleDot segment then close path
  else path ++ [normalSegment scheme segment]

/-- The path without an empty segment at its end; the first segment stays. -/
def dropEmptyEnd (path : List String) : List String :=
  match path with
  | [] | [_] => path
  | _ => if path.getLast? == some "" then path.dropLast else path

/-- Takes a name as a segment at the end of a path that ends in no slash of its own. Names of
one or two dots are passed over. -/
def pushSegment (scheme : String) (path : List String) (name : String) : List String :=
  if name = "." || name = ".." then path
  else
    let coded := encode (codedInSegment (isSpecial scheme)) (dropTabsAndNewlines name.toList)
    let path := if path = [""] then [] else path
    addSegment scheme path (String.ofList coded) true

/-- Names at the end of the path, below all of its segments. -/
def below (u : Url) (names : List String) : Url :=
  match u.path with
  | .plain _ => u
  | .segments list =>
    { u with
      path := .segments (names.foldl (pushSegment u.scheme) (dropEmptyEnd list)) }

end Url

end AuditTrail
