/-! # Globs

In a glob a star stands for any run of characters, a question mark for one character, and every
other character for itself. A glob is matched by an expression between anchors, in which every
character that has a meaning of its own there is escaped.
-/

namespace AuditTrail.Pattern

/-- A glob as its characters. -/
abbrev Glob := List Char

namespace Glob

/-- Covering stated as a cut: each character of the glob takes a piece of the candidate. -/
inductive Covers : Glob → List Char → Prop
  | nil : Covers [] []
  | run {g : Glob} {rest : List Char} (piece : List Char) :
    Covers g rest → Covers ('*' :: g) (piece ++ rest)
  | any {g : Glob} {rest : List Char} (c : Char) : Covers g rest → Covers ('?' :: g) (c :: rest)
  | literal {g : Glob} {rest : List Char} {c : Char} :
    c ≠ '*' → c ≠ '?' → Covers g rest → Covers (c :: g) (c :: rest)

/-- The characters that have a meaning of their own in expressions. -/
def specials : List Char :=
  ['\\', '.', '+', '*', '?', '(', ')', '|', '[', ']', '{', '}', '^', '$', '#', '&', '-', '~']

/-- How an expression writes a character that stands for itself. -/
def escape (c : Char) : List Char := if specials.contains c then ['\\', c] else [c]

/-- How an expression writes what a character of a glob stands for. -/
def piece : Char → List Char
  | '*' => ['.', '*']
  | '?' => ['.']
  | c => escape c

/-- The expression of a glob, in which a point stands for line feeds too. -/
def expression (g : Glob) : List Char := ['(', '?', 's', ')', '^'] ++ g.flatMap piece ++ ['$']

end Glob

end AuditTrail.Pattern
