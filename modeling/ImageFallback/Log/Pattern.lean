import ImageFallback.Number.Digits
import ImageFallback.Text.Alphabetic
import ImageFallback.Text.Blank
import ImageFallback.Text.Numeric

/-!
# Patterns for values

A rule of a log filter may ask for the value of a detail by a regular expression. No event is ever
compared with one, but a rule whose pattern is not well formed is no rule. Groups and classes have
to be closed, a sign of repetition needs something to repeat, names of groups differ, and a
backslash stands before a character that has a meaning there or is a sign.

Patterns know no tables of the characters of all scripts. While a pattern is about characters, and
not about bytes, it can neither ask for digits, blanks, letters or the edges of words nor leave
upper and lower case aside. While it is about bytes it may ask for all of these, but it must not
reach a byte that is no character by itself.

The rule ends at the first closing brace, so no brace that a pattern opens is ever closed: a count
of repetitions, a number between braces and a property by its name are not well formed.

A value that is a number is no pattern, and is well formed although its sign may stand for
repetition elsewhere.
-/

namespace ImageFallback.Pattern

/-! ## Numbers -/

/-- Digits, of which there may be none, and what follows them. -/
def digitRun (cs : List Char) : List Char × List Char :=
  (cs.takeWhile Char.isDigit, cs.dropWhile Char.isDigit)

/-- What follows a sign. -/
def afterSign : List Char → List Char
  | '+' :: rest => rest
  | '-' :: rest => rest
  | cs => cs

/-- An exponent with its letter, or nothing. -/
def isPower : List Char → Bool
  | [] => true
  | c :: rest =>
    let digits := afterSign rest
    (c == 'e' || c == 'E') && !digits.isEmpty && digits.all Char.isDigit

/-- A number with an optional sign: whole, with a fraction, with an exponent, infinite or none. -/
def isNumber (cs : List Char) : Bool :=
  let unsigned := afterSign cs
  let (whole, rest) := digitRun unsigned
  let (fraction, rest) := match rest with
    | '.' :: rest => digitRun rest
    | rest => ([], rest)
  ["inf", "infinity", "nan"].contains (String.ofList (unsigned.map Char.toLower)) ||
    (!(whole ++ fraction).isEmpty && isPower rest)

/-! ## Modes -/

/-- What is in force at a place of a pattern. -/
structure Modes where
  /-- The pattern is about characters and not about bytes. -/
  ofCharacters : Bool := true
  /-- Upper and lower case are left aside. -/
  ofEitherCase : Bool := false
  /-- Blanks, and comments up to the end of a line, mean nothing. -/
  spaced : Bool := false
  deriving DecidableEq, Repr

namespace Modes

/-- The characters without the blanks and comments in front of them. -/
def skipFiller : Bool → List Char → List Char
  | _, [] => []
  | true, c :: rest => skipFiller (c != '\n') rest
  | false, c :: rest =>
    if Text.isBlank c then skipFiller false rest
    else if c == '#' then skipFiller true rest
    else c :: rest

/-- The characters without what means nothing in front of them. -/
def skip (modes : Modes) (cs : List Char) : List Char :=
  if modes.spaced then skipFiller false cs else cs

/-- The modes with one of them switched on or off. -/
def switch (modes : Modes) (on : Bool) (letter : Char) : Modes :=
  match letter with
  | 'u' => { modes with ofCharacters := on }
  | 'i' => { modes with ofEitherCase := on }
  | 'x' => { modes with spaced := on }
  | _ => modes

/-- The modes with letters switched on, up to the sign after which they are switched off. -/
def switchAll (modes : Modes) (on : Bool) : List Char → Modes
  | [] => modes
  | '-' :: rest => switchAll modes false rest
  | letter :: rest => switchAll (modes.switch on letter) on rest

/-- A character may stand for itself; `isByte` says that it is written as a byte. -/
def allowsCharacter (modes : Modes) (c : Char) (isByte : Bool) : Bool :=
  if modes.ofCharacters then !modes.ofEitherCase else !isByte || c.toNat < 0x80

/-- A character may stand for itself in a class. -/
def allowsMember (modes : Modes) (c : Char) : Bool := modes.ofCharacters || c.toNat < 0x80

/-- A class of characters may stand for its members, or for all others. -/
def allowsClass (modes : Modes) (negated : Bool) : Bool :=
  if modes.ofCharacters then !modes.ofEitherCase else !negated

/-- A class that has a letter of its own is known. -/
def allowsNamedClass (modes : Modes) (negated : Bool) : Bool := !modes.ofCharacters && !negated

end Modes

/-! ## Escapes -/

/-- What an escape stands for. -/
inductive Escape where
  | character (c : Char) (isByte : Bool)
  /-- A class of characters with a letter of its own. -/
  | named (negated : Bool)
  /-- The start or the end of the text. -/
  | border
  /-- An edge of a word, or a place that is none. -/
  | wordEdge
  deriving DecidableEq, Repr

/-- The signs of patterns and all other signs; letters and digits are none. -/
def isSign (c : Char) : Bool := c.toNat < 0x80 && !c.isAlphanum && c != '<' && c != '>'

/-- As many hexadecimal digits as asked for, between which there may be what means nothing. -/
def hexDigits? (modes : Modes) : Nat → List Char → Option (List Char × List Char)
  | 0, cs => some ([], cs)
  | count + 1, cs =>
    match modes.skip cs with
    | c :: rest =>
      if Number.isDigitIn 16 c then
        (hexDigits? modes count rest).map fun r => (c :: r.1, r.2)
      else none
    | [] => none

/-- The character with a code of the given number of digits. -/
def coded? (modes : Modes) (count : Nat) (isByte : Bool) (cs : List Char) :
    Option (Escape × List Char) := do
  let (digits, rest) ← hexDigits? modes count cs
  let code := Number.inBase 16 digits
  if code < 0xD800 || (0xDFFF < code && code ≤ 0x10FFFF) then
    return (.character (Char.ofNat code) isByte, rest)
  else none

/-- What an escape stands for, after its backslash, and what follows it. -/
def escape? (modes : Modes) : List Char → Option (Escape × List Char)
  | [] => none
  | c :: rest =>
    match c with
    | 'x' => coded? modes 2 true rest
    | 'u' => coded? modes 4 false rest
    | 'U' => coded? modes 8 false rest
    | 'd' | 's' | 'w' => some (.named false, rest)
    | 'D' | 'S' | 'W' => some (.named true, rest)
    | 'a' => some (.character (Char.ofNat 7) false, rest)
    | 'f' => some (.character (Char.ofNat 12) false, rest)
    | 't' => some (.character '\t' false, rest)
    | 'n' => some (.character '\n' false, rest)
    | 'r' => some (.character '\r' false, rest)
    | 'v' => some (.character (Char.ofNat 11) false, rest)
    | 'A' | 'z' => some (.border, rest)
    | 'b' | 'B' | '<' | '>' => some (.wordEdge, rest)
    | _ => if isSign c then some (.character c false, rest) else none

/-! ## Classes between brackets -/

/-- The names of classes that stand between two colons. -/
def classNames : List String := [
  "alnum", "alpha", "ascii", "blank", "cntrl", "digit", "graph", "lower", "print", "punct",
  "space", "upper", "word", "xdigit"]

/-- A class by its name, after its opening bracket: whether it is negated, and what follows. -/
def namedClass? (cs : List Char) : Option (Bool × List Char) := do
  let (negated, cs) ← match cs with
    | ':' :: '^' :: rest => some (true, rest)
    | ':' :: rest => some (false, rest)
    | _ => none
  let name := String.ofList (cs.takeWhile (· != ':'))
  match cs.dropWhile (· != ':') with
  | ':' :: ']' :: rest => if classNames.contains name then some (negated, rest) else none
  | _ => none

/-- The start of a class after its opening bracket: a sign that negates it, and members that are
signs of classes elsewhere. -/
def classStart? (modes : Modes) (cs : List Char) : Option (List Char) :=
  let (negated, cs) := match modes.skip cs with
    | '^' :: rest => (true, modes.skip rest)
    | cs => (false, cs)
  if modes.allowsClass negated then
    match cs with
    | ']' :: rest => some rest
    | cs => some (afterDashes cs.length cs)
  else none
where
  /-- What follows any number of dashes. -/
  afterDashes : Nat → List Char → List Char
    | fuel + 1, '-' :: rest => afterDashes fuel (modes.skip rest)
    | _, cs => cs

/-- A member of a class, which is a character or else a class with a letter of its own. -/
def member? (modes : Modes) : List Char → Option (Option Char × List Char)
  | [] => none
  | '\\' :: rest => do
    match ← escape? modes rest with
    | (.character c _, rest) => if modes.allowsMember c then return (some c, rest) else none
    | (.named negated, rest) => if modes.allowsNamedClass negated then return (none, rest) else none
    | _ => none
  | c :: rest => if modes.allowsMember c then some (some c, rest) else none

/-- A member of a class, or a range of them, whose end does not come before its start. -/
def range? (modes : Modes) (cs : List Char) : Option (List Char) := do
  let (low, rest) ← member? modes cs
  match modes.skip rest with
  | '-' :: after =>
    match (modes.skip after).head? with
    | some ']' => return '-' :: after
    | some '-' => return '-' :: after
    | _ =>
      let (high, rest) ← member? modes (modes.skip after)
      match low, high with
      | some low, some high => if low ≤ high then return rest else none
      | _, _ => none
  | rest => return rest

/-- What follows a class, with the number of classes that are still open inside it. -/
def afterClass? (modes : Modes) : Nat → Nat → List Char → Option (List Char)
  | 0, _, _ => none
  | fuel + 1, inner, cs => do
    match modes.skip cs with
    | [] => none
    | ']' :: rest => if inner == 0 then return rest else afterClass? modes fuel (inner - 1) rest
    | '[' :: rest =>
      match namedClass? rest with
      | some (negated, rest) =>
        if modes.allowsClass negated then afterClass? modes fuel inner rest else none
      | none => afterClass? modes fuel (inner + 1) (← classStart? modes rest)
    | '&' :: '&' :: rest => afterClass? modes fuel inner rest
    | '-' :: '-' :: rest => afterClass? modes fuel inner rest
    | '~' :: '~' :: rest => afterClass? modes fuel inner rest
    | cs => afterClass? modes fuel inner (← range? modes cs)

/-! ## Patterns -/

/-- What is known of a pattern while it is read. -/
structure Reading where
  modes : Modes := {}
  /-- The modes outside of each open group, the innermost first. -/
  outer : List Modes := []
  /-- The names of groups. -/
  names : List String := []
  /-- Something stands before the place that can be repeated. -/
  repeatable : Bool := false
  deriving DecidableEq, Repr

namespace Reading

/-- A group is opened, with modes of its own. -/
def opened (reading : Reading) (modes : Modes) : Reading :=
  { reading with modes := modes, outer := reading.modes :: reading.outer, repeatable := false }

/-- Something that can be repeated was read. -/
def withItem (reading : Reading) : Reading := { reading with repeatable := true }

/-- A character may start the name of a group or go on with it. -/
def isNamePart (first : Bool) (c : Char) : Bool :=
  if first then c == '_' || Text.isAlphabetic c
  else c == '_' || c == '.' || c == '[' || c == ']' || Text.isAlphabetic c || Text.isNumeric c

/-- A group with a name, from the name on. -/
def namedGroup? (reading : Reading) (cs : List Char) : Option (Reading × List Char) := do
  let characters := cs.takeWhile (· != '>')
  let name := String.ofList characters
  let fits := match characters with
    | first :: rest => isNamePart true first && rest.all (isNamePart false)
    | [] => false
  match cs.dropWhile (· != '>') with
  | _ :: rest =>
    if fits && !reading.names.contains name then
      return ({ reading.opened reading.modes with names := name :: reading.names }, rest)
    else none
  | [] => none

/-- The letters of modes, each of them once, with a sign between those that are switched on and
those that are switched off. -/
def areModes (letters : List Char) : Bool :=
  letters.all "imsUuRx-".toList.contains && letters.Nodup && letters.getLast? != some '-'

/-- Modes that are switched, from their letters on: for the rest of the group, or for a group of
their own. -/
def switched? (reading : Reading) (cs : List Char) : Option (Reading × List Char) := do
  let isEnd (c : Char) : Bool := c == ':' || c == ')'
  let letters := cs.takeWhile (fun c => !isEnd c)
  let modes := reading.modes.switchAll true letters
  if areModes letters then
    match cs.dropWhile (fun c => !isEnd c) with
    | ':' :: rest => return (reading.opened modes, rest)
    | ')' :: rest =>
      if letters.isEmpty then none
      else return ({ reading with modes := modes, repeatable := false }, rest)
    | _ => none
  else none

/-- A group after its opening parenthesis. -/
def group? (reading : Reading) (cs : List Char) : Option (Reading × List Char) :=
  match reading.modes.skip cs with
  | '?' :: 'P' :: '<' :: rest => reading.namedGroup? rest
  | '?' :: '<' :: rest => reading.namedGroup? rest
  | '?' :: rest => reading.switched? rest
  | rest => some (reading.opened reading.modes, rest)

/-- An escape after its backslash. -/
def escaped? (reading : Reading) (cs : List Char) : Option (Reading × List Char) := do
  let (escape, rest) ← escape? reading.modes cs
  let allowed := match escape with
    | .character c isByte => reading.modes.allowsCharacter c isByte
    | .named negated => reading.modes.allowsNamedClass negated
    | .border => true
    | .wordEdge => !reading.modes.ofCharacters
  if allowed then return (reading.withItem, rest) else none

/-- Reads one part of a pattern. -/
def step? (reading : Reading) : List Char → Option (Reading × List Char)
  | [] => some (reading, [])
  | c :: rest =>
    match c with
    | '(' => reading.group? rest
    | ')' =>
      match reading.outer with
      | modes :: outer => some ({ reading.withItem with modes := modes, outer := outer }, rest)
      | [] => none
    | '|' => some ({ reading with repeatable := false }, rest)
    | '[' => do
      let rest ← classStart? reading.modes rest
      let rest ← afterClass? reading.modes (rest.length + 1) 0 rest
      return (reading.withItem, rest)
    | '*' | '+' | '?' =>
      if reading.repeatable then
        match rest with
        | '?' :: rest => some (reading, rest)
        | rest => some (reading, rest)
      else none
    | '\x7b' => none
    | '\\' => reading.escaped? rest
    | '.' => if reading.modes.ofCharacters then some (reading.withItem, rest) else none
    | '^' | '$' => some (reading.withItem, rest)
    | _ =>
      if reading.modes.allowsCharacter c false then some (reading.withItem, rest) else none

/-- The rest of a pattern is well formed. -/
def completes : Nat → Reading → List Char → Bool
  | 0, _, _ => false
  | fuel + 1, reading, cs =>
    match reading.modes.skip cs with
    | [] => reading.outer.isEmpty
    | cs => (reading.step? cs).any fun r => completes fuel r.1 r.2

end Reading

/-- The text is a regular expression or a number. -/
def isWellFormed (text : String) : Bool :=
  isNumber text.toList || Reading.completes (text.length + 1) {} text.toList

end ImageFallback.Pattern
