import AuditTrail.Pattern.Regex.Basic
import AuditTrail.Text.CharClass.Named

/-! # Reading regular expressions

The written form of expressions. A reader goes over the text once and keeps the groups that are
still open, so that a group may be closed only where one was opened, and settings made within a
group end with it. Every reading function gives the rest of the text, or nothing if the text is
no expression.
-/

namespace AuditTrail.Pattern.Regex

open Text (CharClass isBlank)

/-- Settings that change what characters mean. -/
structure Flags where
  /-- `i`: letters stand for their case variants too. -/
  ignoreCase : Bool := false
  /-- `m`: `^` and `$` hold at every line. -/
  multiLine : Bool := false
  /-- `s`: a point stands for line feeds too. -/
  dotAll : Bool := false
  /-- `u`: classes know all of Unicode. -/
  unicode : Bool := true
  /-- `x`: blanks and comments are skipped. -/
  verbose : Bool := false
  /-- `R`: `\r\n` ends lines too. -/
  anyLineEnd : Bool := false
deriving DecidableEq, Repr

/-- Sets the flag with a letter; `U` swaps greedy and lazy repetition, which are one here. -/
def Flags.set? (flags : Flags) (letter : Char) (on : Bool) : Option Flags :=
  match letter with
  | 'i' => some { flags with ignoreCase := on }
  | 'm' => some { flags with multiLine := on }
  | 's' => some { flags with dotAll := on }
  | 'u' => some { flags with unicode := on }
  | 'x' => some { flags with verbose := on }
  | 'R' => some { flags with anyLineEnd := on }
  | 'U' => some flags
  | _ => none

/-! ## Blanks and comments -/

/-- Skips blanks and comments, which run from `#` to the end of the line. -/
def skipSpace (inComment : Bool) : List Char → List Char
  | [] => []
  | c :: rest =>
    if inComment then skipSpace (c != '\n') rest
    else if isBlank c then skipSpace false rest
    else if c = '#' then skipSpace true rest
    else c :: rest

def Flags.skip (flags : Flags) (cs : List Char) : List Char :=
  if flags.verbose then skipSpace false cs else cs

/-- The text after its first character and what is skipped after that. -/
def Flags.next (flags : Flags) (cs : List Char) : List Char := flags.skip cs.tail

/-- The characters up to one that ends them, with the rest from that one on, read in at most
`fuel` steps. -/
def Flags.readUntil (flags : Flags) (ends : Char → Bool) (done : List Char) :
    Nat → List Char → Option (List Char × List Char)
  | 0, _ => none
  | _, [] => none
  | fuel + 1, c :: rest =>
    if ends c then some (done.reverse, c :: rest)
    else flags.readUntil ends (c :: done) fuel (flags.skip rest)

/-! ## Escapes -/

/-- What one item of an expression or a class stands for. -/
inductive Atom
  /-- A character; `isOctet` if it was written as the number of an octet. -/
  | literal (c : Char) (isOctet : Bool)
  /-- A class; `negated` if the complement is meant. -/
  | perl (letter : Char) (negated : Bool)
  | property (c : CharClass) (negated : Bool)
  | look (l : Look)

def hexValue? (c : Char) : Option Nat :=
  if c.isDigit then some (c.toNat - 0x30)
  else if 'a' ≤ c && c ≤ 'f' then some (c.toNat - 0x57)
  else if 'A' ≤ c && c ≤ 'F' then some (c.toNat - 0x37)
  else none

/-- The character with a number in hexadecimal digits. -/
def charOfHex? (digits : List Char) : Option Char := do
  let values ← digits.mapM hexValue?
  let n := values.foldl (fun n d => n * 16 + d) 0
  if h : n.isValidChar then some (Char.ofNatAux n h) else none

/-- A fixed count of hexadecimal digits. -/
def Flags.readHexDigits (flags : Flags) (done : List Char) :
    Nat → List Char → Option (List Char × List Char)
  | 0, cs => some (done.reverse, cs)
  | n + 1, cs =>
    match cs with
    | [] => none
    | c :: _ =>
      if (hexValue? c).isSome then flags.readHexDigits (c :: done) n (flags.next cs) else none

/-- What stands between braces, after the opening one. -/
def Flags.readBraced? (flags : Flags) (cs : List Char) : Option (List Char × List Char) :=
  (flags.readUntil (· == '}') [] (cs.length + 1) (flags.skip cs)).map fun p => (p.1, p.2.tail)

/-- The digits of a numeric escape after its letter. -/
def Flags.readHex? (flags : Flags) (letter : Char) (cs : List Char) :
    Option (Atom × List Char) :=
  match cs with
  | '{' :: rest => do
    let (digits, rest) ← flags.readBraced? rest
    if digits.isEmpty then none
    else
      let c ← charOfHex? digits
      some (.literal c false, flags.skip rest)
  | _ => do
    let count := if letter = 'x' then 2 else if letter = 'u' then 4 else 8
    let (digits, rest) ← flags.readHexDigits [] count cs
    let c ← charOfHex? digits
    some (.literal c (letter = 'x'), rest)

/-- Cuts a list at the first place where a word stands. -/
def cutAt? (word : List Char) : List Char → Option (List Char × List Char)
  | [] => none
  | c :: rest =>
    if word.isPrefixOf (c :: rest) then some ([], (c :: rest).drop word.length)
    else (cutAt? word rest).map fun p => (c :: p.1, p.2)

/-- The class that the text between the braces of a property names, and whether its complement
is meant. -/
def propertyClass? (name : List Char) : Option (CharClass × Bool) :=
  let valued (p : List Char × List Char) : Option CharClass :=
    CharClass.valued? (String.ofList p.1) (String.ofList p.2)
  match cutAt? ['!', '='] name with
  | some p => (valued p).map (·, true)
  | none =>
    match cutAt? [':'] name <|> cutAt? ['='] name with
    | some p => (valued p).map (·, false)
    | none => (CharClass.named? (String.ofList name)).map (·, false)

/-- The name of a property after its letter. -/
def Flags.readProperty? (flags : Flags) (negated : Bool) (cs : List Char) :
    Option (Atom × List Char) :=
  if !flags.unicode then none
  else
    match cs with
    | [] => none
    | '{' :: rest => do
      let (name, rest) ← flags.readBraced? rest
      let (c, unequal) ← propertyClass? name
      some (.property c (negated != unequal), rest)
    | c :: _ =>
      if c = '\\' then none
      else (CharClass.named? (String.ofList [c])).map fun p =>
        (.property p negated, flags.next cs)

def isWordLookChar (c : Char) : Bool := c.isAlpha || c == '-'

/-- What stands between braces after `\b`; nothing if that is no assertion but a count. -/
def Flags.readWordLook? (flags : Flags) (cs : List Char) :
    Option (Option WordLook × List Char) :=
  match cs with
  | '{' :: rest =>
    match flags.skip rest with
    | [] => none
    | c :: more =>
      if isWordLookChar c then do
        let (name, rest) ←
          flags.readUntil (fun c => !isWordLookChar c) [] (more.length + 2) (c :: more)
        if rest.head? != some '}' then none
        else
          let w ← (match String.ofList name with
            | "start" => some WordLook.start
            | "end" => some .finish
            | "start-half" => some .startHalf
            | "end-half" => some .endHalf
            | _ => none)
          some (some w, rest.tail)
      else some (none, cs)
  | _ => some (none, cs)

/-- The one-letter escapes of control characters. -/
def control? : Char → Option Char
  | 'a' => some '\x07'
  | 'f' => some '\x0c'
  | 't' => some '\t'
  | 'n' => some '\n'
  | 'r' => some '\r'
  | 'v' => some '\x0b'
  | _ => none

/-- Whether a character may be escaped to stand for itself. -/
def isEscapable (c : Char) : Bool := c.toNat < 0x80 && !c.isAlphanum && c != '<' && c != '>'

/-- The rest of an escape after its backslash. -/
def Flags.readEscape? (flags : Flags) : List Char → Option (Atom × List Char)
  | [] => none
  | c :: rest =>
    let look (w : WordLook) : Atom := .look (.word (!flags.unicode) w)
    if c.isDigit then none
    else if c = 'x' || c = 'u' || c = 'U' then flags.readHex? c (flags.skip rest)
    else if c = 'p' || c = 'P' then flags.readProperty? (c = 'P') (flags.skip rest)
    else if c = 'd' || c = 's' || c = 'w' then some (.perl c false, rest)
    else if c = 'D' || c = 'S' || c = 'W' then some (.perl c.toLower true, rest)
    else if isEscapable c then some (.literal c false, rest)
    else
      match control? c with
      | some x => some (.literal x false, rest)
      | none =>
        match c with
        | 'A' => some (.look .start, rest)
        | 'z' => some (.look .finish, rest)
        | 'b' =>
          (flags.readWordLook? rest).map fun p => (look (p.1.getD .boundary), p.2)
        | 'B' => some (look .inside, rest)
        | '<' => some (look .start, rest)
        | '>' => some (look .finish, rest)
        | _ => none

/-! ## Nesting -/

/-- How deep an expression may nest. -/
def nestingLimit : Nat := 250

/-- The nesting of a whole from that of its parts: one part alone is the whole. -/
def nesting : List Nat → Nat
  | [] => 0
  | [depth] => depth
  | depths => depths.foldl max 0 + 1

/-! ## Classes -/

/-- A class with the case variants of its characters, where case is ignored. -/
def Flags.fold (flags : Flags) (c : CharClass) : CharClass :=
  if flags.ignoreCase then .anyCase c else c

/-- Without `u` a class is over octets. The octets above ASCII are no characters, so the
complement of a class is refused as soon as it is made. -/
def Flags.negate? (flags : Flags) (negated : Bool) (c : CharClass) : Option CharClass :=
  if !negated then some c else if flags.unicode then some (.complement c) else none

/-- Without `u` the case variants of a character are those in ASCII. -/
def Flags.restrict (flags : Flags) (c : CharClass) : CharClass :=
  if flags.unicode then c else .intersection .ascii c

/-- The class of a letter. -/
def Flags.perlClass (flags : Flags) (letter : Char) : CharClass :=
  match letter with
  | 'd' => if flags.unicode then .digit else .asciiDigit
  | 's' => if flags.unicode then .blank else .asciiBlank
  | _ => if flags.unicode then .word else .asciiWord

def Flags.perl? (flags : Flags) (letter : Char) (negated : Bool) : Option CharClass :=
  flags.negate? negated (flags.perlClass letter)

def Flags.property? (flags : Flags) (c : CharClass) (negated : Bool) : Option CharClass :=
  flags.negate? negated (flags.fold c)

inductive SetOperator
  | intersection
  | difference
  | symmetricDifference

def SetOperator.apply (flags : Flags) (op : SetOperator) (a b : CharClass) : CharClass :=
  let a := flags.fold a
  let b := flags.fold b
  match op with
  | intersection => .intersection a b
  | difference => .difference a b
  | symmetricDifference => .symmetricDifference a b

/-- A class whose closing bracket has not been read. -/
structure OpenClass where
  negated : Bool
  /-- The operand before the last operator, that operator, and how deep the operand nests. -/
  left : Option (SetOperator × CharClass × Nat) := none
  /-- The items since the last operator. -/
  items : CharClass := .nothing
  /-- How deep each of these items nests. -/
  depths : List Nat := []

namespace OpenClass

def add (c : OpenClass) (item : CharClass) (depth : Nat := 0) : OpenClass :=
  { c with items := .union c.items item, depths := depth :: c.depths }

/-- The class up to here without its negation. -/
def operand (flags : Flags) (c : OpenClass) : CharClass :=
  match c.left with
  | none => c.items
  | some (op, left, _) => op.apply flags left c.items

/-- How deep the class nests up to here. -/
def depth (c : OpenClass) : Nat :=
  match c.left with
  | none => nesting c.depths
  | some (_, _, left) => max left (nesting c.depths) + 1

def operator (flags : Flags) (op : SetOperator) (c : OpenClass) : OpenClass :=
  { c with left := some (op, c.operand flags, c.depth), items := .nothing, depths := [] }

def close? (flags : Flags) (c : OpenClass) : Option CharClass :=
  flags.negate? c.negated (flags.fold (c.operand flags))

end OpenClass

/-- A character of a class; octets above ASCII stand in no class of characters. -/
def Flags.classChar? (flags : Flags) (c : Char) : Option Char :=
  if flags.unicode || c.toNat < 0x80 then some c else none

/-- One item of a class: an escape or a character. -/
def Flags.readItem? (flags : Flags) : List Char → Option (Atom × List Char)
  | [] => none
  | '\\' :: rest => flags.readEscape? rest
  | c :: rest => some (.literal c false, rest)

def Flags.itemClass? (flags : Flags) : Atom → Option CharClass
  | .literal c _ => (flags.classChar? c).map .one
  | .perl letter negated => flags.perl? letter negated
  | .property c negated => flags.property? c negated
  | .look _ => none

/-- A range of two characters. -/
def Flags.range? (flags : Flags) : Atom → Atom → Option CharClass
  | .literal low _, .literal high _ => do
    let low ← flags.classChar? low
    let high ← flags.classChar? high
    if low ≤ high then some (.between low high) else none
  | _, _ => none

/-- The character that is looked at after a hyphen. Blanks are passed over, but of a comment only
the mark at its front. -/
def Flags.peek? (flags : Flags) (cs : List Char) : Option Char :=
  if flags.verbose then
    match cs.dropWhile isBlank with
    | '#' :: rest => (rest.dropWhile isBlank).head?
    | cs => cs.head?
  else cs.head?

/-- The rest of an item or a range after its first character. A hyphen before a bracket or a
hyphen makes no range. -/
def Flags.readRangeFrom? (flags : Flags) (first : Atom) (cs : List Char) :
    Option (CharClass × List Char) :=
  match flags.skip cs with
  | [] => none
  | c :: more =>
    let peeked := flags.peek? more
    if c != '-' || peeked == some ']' || peeked == some '-' then
      (flags.itemClass? first).map (·, c :: more)
    else do
      let (last, rest) ← flags.readItem? (flags.skip more)
      let item ← flags.range? first last
      some (item, rest)

/-- An item or a range of two characters. -/
def Flags.readRange? (flags : Flags) (cs : List Char) : Option (CharClass × List Char) := do
  let (first, rest) ← flags.readItem? cs
  flags.readRangeFrom? first rest

/-- Hyphens at the front of a class, each of which stands for itself. -/
def Flags.readHyphens (flags : Flags) (c : OpenClass) : Nat → List Char → OpenClass × List Char
  | fuel + 1, '-' :: rest =>
    flags.readHyphens (c.add (.one '-')) fuel (flags.skip rest)
  | _, cs => (c, cs)

/-- Whether a caret stands at the front of a class, with what follows it. -/
def Flags.readCaret (flags : Flags) (cs : List Char) : Bool × List Char :=
  match flags.skip cs with
  | '^' :: rest => (true, flags.skip rest)
  | cs => (false, cs)

/-- The front of a class after its opening bracket: a caret, then hyphens or a closing bracket,
which stand for themselves. -/
def Flags.readClassFront? (flags : Flags) (cs : List Char) : Option (OpenClass × List Char) :=
  let caret := flags.readCaret cs
  let c : OpenClass := { negated := caret.1 }
  let front :=
    match caret.2 with
    | ']' :: rest => (c.add (.one ']'), flags.skip rest)
    | cs => flags.readHyphens c cs.length cs
  if front.2.isEmpty then none else some front

/-- The name of a class, which a colon and a bracket end. -/
def readPosixName? (cs : List Char) : Option (CharClass × List Char) :=
  match cs.dropWhile (· != ':') with
  | ':' :: ']' :: rest =>
    (CharClass.posix? (String.ofList (cs.takeWhile (· != ':')))).map (·, rest)
  | _ => none

/-- A class with a name between colons, after the bracket that opens it, and whether its complement
is meant. -/
def readPosix? : List Char → Option ((CharClass × Bool) × List Char)
  | ':' :: '^' :: rest => (readPosixName? rest).map fun p => ((p.1, true), p.2)
  | ':' :: rest => (readPosixName? rest).map fun p => ((p.1, false), p.2)
  | _ => none

/-- Classes within classes, none of which is closed. -/
structure Classes where
  inner : OpenClass
  /-- The classes around the innermost one. -/
  outer : List OpenClass := []

namespace Classes

def add (c : Classes) (item : CharClass) : Classes := { c with inner := c.inner.add item }

def operator (flags : Flags) (op : SetOperator) (c : Classes) : Classes :=
  { c with inner := c.inner.operator flags op }

/-- Closes the innermost class, which may leave a class with how deep it nests. -/
def close? (flags : Flags) (c : Classes) : Option (Classes ⊕ CharClass × Nat) :=
  (c.inner.close? flags).map fun all =>
    match c.outer with
    | [] => .inr (all, c.inner.depth + 1)
    | next :: outer => .inl ⟨next.add all (c.inner.depth + 1), outer⟩

/-- Reads what the first character within classes begins. -/
def step? (flags : Flags) (c : Classes) :
    List Char → Option ((Classes ⊕ CharClass × Nat) × List Char)
  | [] => none
  | '[' :: rest =>
    match readPosix? rest with
    | some (p, rest) => (flags.property? p.1 p.2).map fun item => (.inl (c.add item), rest)
    | none => (flags.readClassFront? rest).map fun p => (.inl ⟨p.1, c.inner :: c.outer⟩, p.2)
  | ']' :: rest => (c.close? flags).map (·, rest)
  | '&' :: '&' :: rest => some (.inl (c.operator flags .intersection), rest)
  | '-' :: '-' :: rest => some (.inl (c.operator flags .difference), rest)
  | '~' :: '~' :: rest => some (.inl (c.operator flags .symmetricDifference), rest)
  | cs => (flags.readRange? cs).map fun p => (.inl (c.add p.1), p.2)

/-- Reads to the end of the outermost class in at most `fuel` steps. -/
def run? (flags : Flags) (c : Classes) :
    Nat → List Char → Option ((CharClass × Nat) × List Char)
  | 0, _ => none
  | fuel + 1, cs =>
    match c.step? flags (flags.skip cs) with
    | some (.inl c, rest) => run? flags c fuel rest
    | some (.inr all, rest) => some (all, rest)
    | none => none

end Classes

/-- A class after its opening bracket, and how deep it nests. -/
def Flags.readBracket? (flags : Flags) (cs : List Char) : Option ((Regex × Nat) × List Char) := do
  let (c, rest) ← flags.readClassFront? cs
  let ((c, depth), rest) ← Classes.run? flags { inner := c } (rest.length + 1) rest
  some ((.chars (flags.restrict c), depth), rest)

/-! ## Single items -/

/-- The expression of one character. Without `u` case variants are known in ASCII alone. -/
def Flags.literal? (flags : Flags) (c : Char) (isOctet : Bool) : Option Regex :=
  if !flags.unicode && 0x80 ≤ c.toNat then if isOctet then none else some (.chars (.one c))
  else some (.chars (flags.restrict (flags.fold (.one c))))

def Flags.atom? (flags : Flags) : Atom → Option Regex
  | .literal c isOctet => flags.literal? c isOctet
  | .perl letter negated => (flags.perl? letter negated).map .chars
  | .property c negated => (flags.property? c negated).map .chars
  | .look l => some (.look l)

def Flags.dot? (flags : Flags) : Option Regex :=
  if !flags.unicode then none
  else if flags.dotAll then some (.chars .anything)
  else if flags.anyLineEnd then
    some (.chars (.complement (.union (.one '\n') (.one '\r'))))
  else some (.chars (.complement (.one '\n')))

def Flags.caret (flags : Flags) : Look :=
  if !flags.multiLine then .start else if flags.anyLineEnd then .anyLineStart else .lineStart

def Flags.dollar (flags : Flags) : Look :=
  if !flags.multiLine then .finish else if flags.anyLineEnd then .anyLineEnd else .lineEnd

/-- One item that is neither a group, a class nor a repetition. -/
def Flags.readSingle? (flags : Flags) : List Char → Option (Regex × List Char)
  | [] => none
  | '\\' :: rest => do
    let (atom, rest) ← flags.readEscape? rest
    let r ← flags.atom? atom
    some (r, rest)
  | '.' :: rest => flags.dot?.map (·, rest)
  | '^' :: rest => some (.look flags.caret, rest)
  | '$' :: rest => some (.look flags.dollar, rest)
  | c :: rest => (flags.literal? c false).map (·, rest)

/-! ## Counts -/

/-- Digits in decimal, between which verbose text may have blanks. -/
def Flags.readDigits (flags : Flags) (done : List Char) :
    Nat → List Char → List Char × List Char
  | fuel + 1, c :: rest =>
    if c.isDigit then flags.readDigits (c :: done) fuel (flags.skip rest)
    else (done.reverse, c :: rest)
  | _, cs => (done.reverse, cs)

/-- A count of at most 32 bits with blanks around it. -/
def Flags.readCount? (flags : Flags) (cs : List Char) : Option (Nat × List Char) :=
  let cs := cs.dropWhile isBlank
  let (digits, rest) := flags.readDigits [] cs.length cs
  let n := digits.foldl (fun n d => n * 10 + (d.toNat - 0x30)) 0
  if digits.isEmpty || Nat.pow 2 32 ≤ n then none else some (n, rest.dropWhile isBlank)

/-- The second count of a repetition. Without a comma it is the first one, and after a comma it may
be missing. -/
def Flags.readMost? (flags : Flags) (least : Nat) (cs : List Char) :
    Option (Option Nat × List Char) :=
  match cs with
  | ',' :: rest =>
    match flags.skip rest with
    | '}' :: more => some (none, '}' :: more)
    | cs => (flags.readCount? cs).map fun p => (some p.1, p.2)
  | _ => some (some least, cs)

/-- The counts of a repetition after its opening brace. -/
def Flags.readCounts? (flags : Flags) (cs : List Char) :
    Option ((Nat × Option Nat) × List Char) := do
  let (least, rest) ← flags.readCount? (flags.skip cs)
  let (most, rest) ← flags.readMost? least rest
  match rest with
  | '}' :: rest =>
    if most.all (least ≤ ·) then some ((least, most), flags.skip rest) else none
  | _ => none

/-- Drops the question mark that makes a repetition lazy. -/
def dropLazy : List Char → List Char
  | '?' :: rest => rest
  | cs => cs

/-! ## Groups -/

/-- Flags between `(?` and the colon or bracket that ends them: the flags, whether any was
written, and that end. -/
def Flags.readFlags? (flags : Flags) (seen : List Char) (on : Bool) :
    List Char → Option ((Flags × Bool × Char) × List Char)
  | [] => none
  | c :: rest =>
    if c = ':' || c = ')' then
      if seen.head? == some '-' then none else some ((flags, !seen.isEmpty, c), rest)
    else if seen.contains c then none
    else if c = '-' then flags.readFlags? (c :: seen) false rest
    else
      match flags.set? c on with
      | some flags => flags.readFlags? (c :: seen) on rest
      | none => none

def isNameStart (c : Char) : Bool := c == '_' || Text.Property.alphabetic.contains c

def isNameChar (c : Char) : Bool :=
  isNameStart c || c == '.' || c == '[' || c == ']' ||
    Text.Property.decimalNumber.contains c || Text.Property.letterNumber.contains c ||
    Text.Property.otherNumber.contains c

/-- The name of a group up to its closing angle bracket. -/
def readName? (cs : List Char) : Option (String × List Char) :=
  let name := cs.takeWhile (· != '>')
  match name, cs.dropWhile (· != '>') with
  | c :: more, _ :: rest =>
    if isNameStart c && more.all isNameChar then some (String.ofList name, rest) else none
  | _, _ => none

/-- An item of an alternative. Settings leave one with nothing in it, which cannot be
repeated. -/
structure Item where
  regex : Option Regex
  /-- How deep the item nests. -/
  depth : Nat := 0

/-- A group whose closing bracket has not been read, or the expression itself. -/
structure OpenGroup where
  /-- The finished alternatives and how deep each nests, last first. -/
  alternatives : List (Regex × Nat) := []
  /-- The items of the open alternative, last first. -/
  items : List Item := []

namespace OpenGroup

def add (g : OpenGroup) (r : Regex) (depth : Nat := 0) : OpenGroup :=
  { g with items := ⟨some r, depth⟩ :: g.items }

def addSettings (g : OpenGroup) : OpenGroup := { g with items := ⟨none, 0⟩ :: g.items }

def alternative (g : OpenGroup) : Regex := Regex.seqs (g.items.reverse.filterMap Item.regex)

def nextAlternative (g : OpenGroup) : OpenGroup :=
  { alternatives := (g.alternative, nesting (g.items.map Item.depth)) :: g.alternatives }

def close (g : OpenGroup) : Regex :=
  g.alternatives.foldl (fun later earlier => .alt earlier.1 later) g.alternative

/-- How deep the group nests within its brackets. -/
def depth (g : OpenGroup) : Nat :=
  nesting (nesting (g.items.map Item.depth) :: g.alternatives.map (·.2))

/-- Repeats the last item. -/
def repeat? (g : OpenGroup) (least : Nat) (most : Option Nat) : Option OpenGroup :=
  match g.items with
  | ⟨some r, depth⟩ :: before =>
    some { g with items := ⟨some (.times r least most), depth + 1⟩ :: before }
  | _ => none

end OpenGroup

/-- What has been read of an expression. -/
structure Reading where
  flags : Flags := {}
  group : OpenGroup := {}
  /-- The groups around the innermost one, each with the flags that hold again after it. -/
  outer : List (Flags × OpenGroup) := []
  /-- The names of groups so far. -/
  names : List String := []

namespace Reading

def add (r : Reading) (item : Regex) (depth : Nat := 0) : Reading :=
  { r with group := r.group.add item depth }

def openGroup (r : Reading) (flags : Flags) : Reading :=
  { r with flags, group := {}, outer := (r.flags, r.group) :: r.outer }

def isLookAround (cs : List Char) : Bool :=
  ["?=", "?!", "?<=", "?<!"].any fun w => w.toList.isPrefixOf cs

/-- Opens a group with a name. -/
def openNamed? (r : Reading) (cs : List Char) : Option (Reading × List Char) := do
  let (name, rest) ← readName? cs
  if r.names.contains name then none
  else some ({ r.openGroup r.flags with names := name :: r.names }, rest)

/-- What flags begin or change: a group before a colon, else what follows in the same group. -/
def applyFlags? (r : Reading) : Flags × Bool × Char → Option Reading
  | (flags, _, ':') => some (r.openGroup flags)
  | (flags, true, _) => some { r with flags, group := r.group.addSettings }
  | _ => none

/-- What the text after an opening bracket begins if that is no look-around. -/
def readGroup? (r : Reading) : List Char → Option (Reading × List Char)
  | '?' :: 'P' :: '<' :: rest => r.openNamed? rest
  | '?' :: '<' :: rest => r.openNamed? rest
  | '?' :: rest => do
    let (flags, rest) ← r.flags.readFlags? [] true rest
    let r ← r.applyFlags? flags
    some (r, rest)
  | cs => some (r.openGroup r.flags, cs)

/-- What an opening bracket begins. -/
def readOpen? (r : Reading) (cs : List Char) : Option (Reading × List Char) :=
  let cs := r.flags.skip cs
  if isLookAround cs then none else r.readGroup? cs

def closeGroup? (r : Reading) : Option Reading :=
  match r.outer with
  | [] => none
  | (flags, group) :: outer =>
    some { r with flags, group := group.add r.group.close (r.group.depth + 1), outer }

def repeat? (r : Reading) (least : Nat) (most : Option Nat) : Option Reading :=
  (r.group.repeat? least most).map fun group => { r with group }

/-- Reads what the first character begins. -/
def step? (r : Reading) : List Char → Option (Reading × List Char)
  | [] => none
  | c :: rest =>
    match c with
    | '(' => r.readOpen? rest
    | ')' => r.closeGroup?.map (·, rest)
    | '|' => some ({ r with group := r.group.nextAlternative }, rest)
    | '[' => (r.flags.readBracket? rest).map fun p => (r.add p.1.1 p.1.2, p.2)
    | '?' => (r.repeat? 0 (some 1)).map (·, dropLazy rest)
    | '*' => (r.repeat? 0 none).map (·, dropLazy rest)
    | '+' => (r.repeat? 1 none).map (·, dropLazy rest)
    | '{' => do
      let ((least, most), rest) ← r.flags.readCounts? rest
      let r ← r.repeat? least most
      some (r, dropLazy rest)
    | _ => (r.flags.readSingle? (c :: rest)).map fun p => (r.add p.1, p.2)

/-- Reads to the end of the text in at most `fuel` steps. -/
def run? (r : Reading) : Nat → List Char → Option Reading
  | fuel, cs =>
    match fuel, r.flags.skip cs with
    | _, [] => some r
    | 0, _ => none
    | fuel + 1, cs => do
      let (r, rest) ← r.step? cs
      run? r fuel rest

/-- The expression, if every group is closed and it nests no deeper than `levels`. -/
def closed? (levels : Nat) (r : Reading) : Option Regex :=
  if r.outer.isEmpty && r.group.depth ≤ levels then some r.group.close else none

end Reading

/-- The expression that a text writes, if it nests no deeper than `levels`: every step takes at
least one character. -/
def ofTextWithin? (levels : Nat) (cs : List Char) : Option Regex :=
  (Reading.run? {} cs.length cs).bind (Reading.closed? levels)

/-- The expression that a text writes. -/
def ofText? (cs : List Char) : Option Regex := ofTextWithin? nestingLimit cs

end AuditTrail.Pattern.Regex
