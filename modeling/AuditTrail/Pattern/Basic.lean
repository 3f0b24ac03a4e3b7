import AuditTrail.Pattern.Glob
import AuditTrail.Pattern.Regex.Matching
import AuditTrail.Pattern.Regex.Reader

/-! # Patterns

Text between slashes is a regular expression for the whole candidate, other text with a star or
a question mark is a glob, and any other text stands for itself. What lies between the slashes
is put between anchors, and a glob is written as an expression of its own. An engine turns
expressions into tests; where it refuses one the pattern matches nothing.
-/

namespace AuditTrail

/-- What compiles expressions. -/
structure Pattern.Engine where
  /-- The test that an expression stands for. There is none for a text that is no expression, or
  one that is too large to be compiled. -/
  compile? : List Char → Option (List Char → Bool)

/-- The expressions of this library, of any size. -/
def Pattern.Regex.engine : Pattern.Engine where
  compile? cs := (ofText? cs).map isMatch

inductive Pattern
  | exact (text : String)
  | glob (test : List Char → Bool)
  | regex (test : List Char → Bool)
  | invalid (text : String)

namespace Pattern

/-- What lies between two slashes, if that is how a text is written. -/
def betweenSlashes? : List Char → Option (List Char)
  | '/' :: rest => if rest.getLast? == some '/' then some rest.dropLast else none
  | _ => none

/-- An expression between anchors for the start and the end of the candidate. -/
def anchored (body : List Char) : List Char := ['^', '(', '?', ':'] ++ body ++ [')', '$']

def isGlob (cs : List Char) : Bool := cs.contains '*' || cs.contains '?'

/-- The pattern that a text writes. -/
def ofText (e : Engine) (text : String) : Pattern :=
  let cs := text.toList
  match betweenSlashes? cs with
  | some body =>
    match e.compile? (anchored body) with
    | some test => regex test
    | none => invalid text
  | none =>
    if isGlob cs then
      match e.compile? (Glob.expression cs) with
      | some test => glob test
      | none => invalid text
    else exact text

def accepts (p : Pattern) (candidate : String) : Bool :=
  match p with
  | exact text => text == candidate
  | glob test | regex test => test candidate.toList
  | invalid _ => false

/-- Whether a pattern may stand for several candidates. -/
def isWildcard : Pattern → Bool
  | glob _ | regex _ => true
  | exact _ | invalid _ => false

/-- Patterns of which one must match. -/
structure Any where
  patterns : List Pattern := []

namespace Any

def ofTexts (e : Engine) (texts : List String) : Any := ⟨texts.map (Pattern.ofText e)⟩

def isEmpty (a : Any) : Bool := a.patterns.isEmpty

def accepts (a : Any) (candidate : String) : Bool :=
  a.patterns.any fun p => p.accepts candidate

end Any

end Pattern

end AuditTrail
