import ImageFallback.Number.Stepwise
import ImageFallback.Syntax.Cooking
import ImageFallback.Text.Blank
import ImageFallback.Text.NameChars
import ImageFallback.Text.Occurrence
import ImageFallback.Text.Slice

/-!
# Tokens of a source

A source is cut into tokens and comments, each with its byte offsets. Braces are counted, because
the brace that closes an expression of a template leads back into the text of the template.

A comment leads the token that follows it. It trails the token before it instead, and leads none,
when it stands on the line of that token and a line break follows it; but a comment to the end of
the line right after an opening parenthesis or an equals sign always leads. Only a line feed or a
carriage return ends a line in this sense, while the two separators of lines and paragraphs still
count where a semicolon may be left out.

Two annotations are read from comments: that the call which starts at the next token, or the
function there, has no effect besides its value.
-/

namespace ImageFallback

/-- The two kinds of source: scripts have comments that modules do not have, and modules reserve a
word that scripts do not reserve. -/
inductive SourceKind where
  | module
  | script
  deriving DecidableEq, Repr

/-- A comment of a source. -/
structure Comment where
  span : Span
  raw : String
  isLine : Bool
  /-- The start of the token that the comment leads. -/
  leads : Option Nat := none
  lineBefore : Bool := false
  lineAfter : Bool := false
  deriving DecidableEq, Repr

namespace Comment

/-- What stands between the marks of a comment. -/
def content (comment : Comment) : List Char :=
  let inner := comment.raw.toList.drop 2
  if comment.isLine then inner else inner.take (inner.length - 2)

/-- The first word of the comment is the given annotation. -/
def isAnnotation (word : String) (comment : Comment) : Bool :=
  let isSpace (c : Char) : Bool :=
    c == ' ' || c == '\t' || c == '\n' || c == '\r' || c.toNat == 12
  match comment.content.dropWhile isSpace with
  | '@' :: rest => word.toList.isPrefixOf rest
  | '#' :: rest => word.toList.isPrefixOf rest
  | _ => false

/-- The comment says that a call has no effect. -/
def isPureCall (comment : Comment) : Bool := comment.isAnnotation "__PURE__"

/-- The comment says that a function has no effect. -/
def isPureFunction (comment : Comment) : Bool := comment.isAnnotation "__NO_SIDE_EFFECTS__"

/-- The comment asks to be kept. -/
def isLegal (comment : Comment) : Bool :=
  comment.content.head? == some '!' ||
    ["@license", "@preserve"].any (Text.occursIn · (String.ofList comment.content))

end Comment

namespace Token

/-- What a token is. -/
inductive Kind where
  | word (value : String)
  /-- A word with an escape in it, which may be a name but no keyword. -/
  | escapedWord (value : String)
  | mark (text : String)
  | number (value : Nat)
  | text (raw value : String) (lone : Bool)
  /-- A stretch of a template, with whether it opens and whether it closes the template. -/
  | template (quasi : Quasi) (opens closes : Bool)
  deriving DecidableEq, Repr

/-- The word that a token is. -/
def Kind.word? : Kind → Option String
  | .word value => some value
  | .escapedWord value => some value
  | _ => none

end Token

/-- A token with its place; `lineBefore` says that a line break stands before it, and the other two
flags what the comments before it say. -/
structure Token where
  kind : Token.Kind
  span : Span
  lineBefore : Bool
  pureCall : Bool := false
  pureFunction : Bool := false
  deriving DecidableEq, Repr

/-- What a closing brace belongs to. -/
inductive Nesting where
  | brace
  | template
  deriving DecidableEq, Repr

/-- The state of cutting a source: what is left, the offset, the open braces, and what was found,
the newest first. -/
structure Lexer where
  rest : List Char
  offset : Nat := 0
  nesting : List Nesting := []
  /-- A line break stands between the last token and here. -/
  line : Bool := true
  /-- A line break stands between the last token and here, comments and separators included. -/
  brokenLine : Bool := true
  /-- A comment to the end of the line leads the next token in any case. -/
  leading : Bool := false
  /-- A comment since the last token says that a call has no effect. -/
  pureCall : Bool := false
  /-- A comment since the last token says that a function has no effect. -/
  pureFunction : Bool := false
  tokens : List Token := []
  pending : List Comment := []
  comments : List Comment := []

namespace Lexer

/-- Words that are no names. -/
def reserved : List String := [
  "break", "case", "catch", "class", "const", "continue", "debugger", "default", "delete", "do",
  "else", "enum", "export", "extends", "false", "finally", "for", "function", "if", "import", "in",
  "instanceof", "new", "null", "return", "super", "switch", "this", "throw", "true", "try",
  "typeof", "var", "void", "while", "with"]

/-- Blanks between tokens that break no line: the white space of all scripts, the space without a
width and the byte order mark. -/
def isSpace (c : Char) : Bool :=
  (Text.isBlank c && !Cooking.isLineEnd c) || c.toNat == 0x200B || c.toNat == 0xFEFF

/-- Moves past the given characters, which `rest` follows. -/
def past (taken rest : List Char) (lexer : Lexer) : Lexer :=
  { lexer with rest := rest, offset := lexer.offset + Text.byteCount taken }

/-- Takes note of a line break: the comments on the line of the last token trail it. -/
def lineBreak (lexer : Lexer) : Lexer :=
  match lexer.pending with
  | [] => { lexer with line := true, brokenLine := true }
  | newest :: older =>
    let pending := { newest with lineAfter := true } :: older
    if lexer.line then { lexer with brokenLine := true, pending := pending }
    else { lexer with
      line := true, brokenLine := true, pending := [], comments := pending ++ lexer.comments }

/-- Adds a token that was read from the given characters; the comments before it lead it. -/
def addToken (kind : Token.Kind) (taken rest : List Char) (lexer : Lexer) : Lexer :=
  let next := lexer.past taken rest
  let led := lexer.pending.map fun c => { c with leads := some lexer.offset }
  { next with
    line := false
    brokenLine := false
    leading := kind == .mark "(" || kind == .mark "="
    pureCall := false
    pureFunction := false
    tokens := {
      kind := kind
      span := ⟨lexer.offset, next.offset⟩
      lineBefore := lexer.brokenLine
      pureCall := lexer.pureCall
      pureFunction := lexer.pureFunction } :: lexer.tokens
    pending := []
    comments := led ++ lexer.comments }

/-- Adds a comment that was read from the given characters. -/
def addComment (isLine : Bool) (taken rest : List Char) (lexer : Lexer) : Lexer :=
  let next := lexer.past taken rest
  let comment : Comment := {
    span := ⟨lexer.offset, next.offset⟩
    raw := String.ofList taken
    isLine := isLine
    lineBefore := lexer.line
    lineAfter := isLine }
  let next := { next with
    line := lexer.line || isLine
    brokenLine := lexer.brokenLine || taken.any Cooking.isLineEnd
    pureCall := lexer.pureCall || comment.isPureCall
    pureFunction := lexer.pureFunction || comment.isPureFunction }
  if isLine && !lexer.line && !lexer.leading then
    { next with pending := [], comments := comment :: lexer.pending ++ lexer.comments }
  else { next with pending := comment :: lexer.pending }

/-- A comment to the end of the line. -/
def lineComment (lexer : Lexer) : Lexer :=
  lexer.addComment true (lexer.rest.takeWhile (fun c => !Cooking.isLineEnd c))
    (lexer.rest.dropWhile (fun c => !Cooking.isLineEnd c))

/-- The characters up to the end of a block comment, after its opening mark. -/
def blockBody : List Char → Option (List Char × List Char)
  | [] => none
  | '*' :: '/' :: rest => some (['*', '/'], rest)
  | c :: rest => (blockBody rest).map fun r => (c :: r.1, r.2)

/-- The character of an escape in a name, after the backslash, and the characters read. -/
def nameEscape? : List Char → Option (Char × List Char × List Char)
  | 'u' :: '\x7b' :: rest => do
    let digits := rest.takeWhile (· != '\x7d')
    let (piece, after) ← Cooking.braced? rest
    match piece with
    | .whole c => return (c, 'u' :: '\x7b' :: digits ++ ['\x7d'], after)
    | .half _ => none
  | 'u' :: a :: b :: c :: d :: rest => do
    let n ← Number.hexValue? [a, b, c, d]
    match Cooking.pieceOf n with
    | .whole ch => return (ch, ['u', a, b, c, d], rest)
    | .half _ => none
  | _ => none

/-- The rest of a name: its value, the characters read, whether an escape stood among them, and what
follows. -/
def nameBody (first : Bool) : Nat → List Char → Option (List Char × List Char × Bool × List Char)
  | 0, cs => some ([], [], false, cs)
  | _ + 1, [] => some ([], [], false, [])
  | fuel + 1, c :: rest =>
    let fits (c : Char) : Bool := if first then Text.isNameStart c else Text.isNamePart c
    if c == '\\' then do
      let (value, taken, rest) ← nameEscape? rest
      if fits value then
        let (values, others, _, rest) ← nameBody false fuel rest
        return (value :: values, c :: taken ++ others, true, rest)
      else none
    else if fits c then do
      let (values, others, escaped, rest) ← nameBody false fuel rest
      return (c :: values, c :: others, escaped, rest)
    else some ([], [], false, c :: rest)

/-- A word. -/
def word? (lexer : Lexer) : Option Lexer := do
  let (value, taken, escaped, rest) ← nameBody true (lexer.rest.length + 1) lexer.rest
  if value.isEmpty then none
  else
    let value := String.ofList value
    return lexer.addToken (if escaped then .escapedWord value else .word value) taken rest

/-- The value of a whole number. A letter after its first zero gives the base, and another digit
there makes it octal, as long as all its digits are. A number in a base other than ten is rounded
while it is read once it has more digits than 64 bits are sure to hold. -/
def wholeNumber? : List Char → Option Nat
  | ['0'] => some 0
  | '0' :: mark :: digits =>
    let inMarked (base places : Nat) : Option Nat :=
      (Number.digits? base digits).map (Number.stepwise base places)
    match mark.toLower with
    | 'x' => inMarked 16 16
    | 'o' => inMarked 8 21
    | 'b' => inMarked 2 64
    | _ =>
      let digits := mark :: digits
      if digits.all (Number.isDigitIn 8) then some (Number.stepwise 8 21 digits)
      else if digits.all Char.isDigit then some (Number.inBase 10 digits)
      else none
  | cs => (Number.digits? 10 cs).map (Number.inBase 10)

/-- The whole number is written in base ten, so a point after it would start a fraction. -/
def isDecimal : List Char → Bool
  | '0' :: mark :: digits => mark.isDigit && !(mark :: digits).all (Number.isDigitIn 8)
  | _ => true

/-- A whole number, with no name or fraction right after it. -/
def number? (lexer : Lexer) : Option Lexer := do
  let isPart (c : Char) : Bool := Text.isNamePart c || c == '\\'
  let taken := lexer.rest.takeWhile isPart
  let rest := lexer.rest.dropWhile isPart
  let value ← wholeNumber? taken
  if rest.head? == some '.' && isDecimal taken then none
  else return lexer.addToken (.number value) taken rest

/-- The characters of a text literal up to its closing mark, which is read too. -/
def textBody (mark : Char) : List Char → Option (List Char × List Char)
  | [] => none
  | '\\' :: '\r' :: '\n' :: rest =>
    (textBody mark rest).map fun r => ('\\' :: '\r' :: '\n' :: r.1, r.2)
  | '\\' :: c :: rest => (textBody mark rest).map fun r => ('\\' :: c :: r.1, r.2)
  | c :: rest =>
    if c == mark then some ([], rest)
    else if c == '\n' || c == '\r' then none
    else (textBody mark rest).map fun r => (c :: r.1, r.2)

/-- A text literal. -/
def text? (mark : Char) (lexer : Lexer) : Option Lexer := do
  let (body, rest) ← textBody mark (lexer.rest.drop 1)
  let (value, lone) ← Cooking.resolve? false body
  return lexer.addToken (.text (String.ofList body) value lone) (mark :: body ++ [mark]) rest

/-- The characters of a stretch of a template, whether it closes the template, and what follows. -/
def templateBody : List Char → Option (List Char × Bool × List Char)
  | [] => none
  | '\\' :: c :: rest => (templateBody rest).map fun r => ('\\' :: c :: r.1, r.2)
  | '\x60' :: rest => some ([], true, rest)
  | '$' :: '\x7b' :: rest => some ([], false, rest)
  | c :: rest => (templateBody rest).map fun r => (c :: r.1, r.2)

/-- A stretch of a template after its opening mark. -/
def template? (opens : Bool) (mark : Char) (lexer : Lexer) : Option Lexer := do
  let (body, closes, rest) ← templateBody (lexer.rest.drop 1)
  let start := lexer.offset + 1
  let quasi := Cooking.quasi body ⟨start, start + Text.byteCount body⟩
  let ending := if closes then ['\x60'] else ['$', '\x7b']
  let next := lexer.addToken (.template quasi opens closes) (mark :: body ++ ending) rest
  return { next with nesting := if closes then next.nesting else .template :: next.nesting }

/-- The marks of a source, a longer one before those that it starts with. -/
def marks : List String := [
  "...", "===", "=>", "?.", "&&", "||", "(", ")", "[", "]", ",", ";", ":", ".", "?", "=", "!", "+"]

/-- Marks of the language that stand for nothing that can be parsed here. -/
def otherMarks : List String := [
  "&&=", "||=", "??", "!=", "++", "+="]

/-- The characters start with a mark. -/
def startsWith (cs : List Char) (mark : String) : Bool := mark.toList.isPrefixOf cs

/-- A mark. -/
def mark? (lexer : Lexer) : Option Lexer :=
  let cs := lexer.rest
  if otherMarks.any (startsWith cs) || (startsWith cs "==" && !startsWith cs "===") ||
      startsWith cs "====" then none
  else
    let fits (mark : String) : Bool :=
      startsWith cs mark &&
        !(mark == "?." && ((cs.drop 2).head?.map Char.isDigit).getD false)
    (marks.find? fits).map fun mark =>
      lexer.addToken (.mark mark) mark.toList (cs.drop mark.length)

/-- Reads one token, comment or blank. -/
def step (kind : SourceKind) (lexer : Lexer) : Option Lexer :=
  match lexer.rest with
  | [] => some lexer
  | '/' :: '/' :: _ => some lexer.lineComment
  | '/' :: '*' :: rest =>
    (blockBody rest).map fun r => lexer.addComment false ('/' :: '*' :: r.1) r.2
  | '<' :: '!' :: '-' :: '-' :: _ =>
    if kind == .script then some lexer.lineComment else none
  | '-' :: '-' :: '>' :: _ =>
    if kind == .script && lexer.brokenLine then some lexer.lineComment else none
  | '\x60' :: _ => lexer.template? true '\x60'
  | '\x7b' :: rest =>
    let next := lexer.addToken (.mark "\x7b") ['\x7b'] rest
    some { next with nesting := .brace :: next.nesting }
  | '\x7d' :: rest =>
    match lexer.nesting with
    | .template :: outer => { lexer with nesting := outer }.template? false '\x7d'
    | .brace :: outer =>
      some ({ lexer with nesting := outer }.addToken (.mark "\x7d") ['\x7d'] rest)
    | [] => none
  | c :: rest =>
    if c == '"' || c == '\'' then lexer.text? c
    else if c == '\n' || c == '\r' then some (lexer.past [c] rest).lineBreak
    else if Cooking.isLineEnd c then some { lexer.past [c] rest with brokenLine := true }
    else if isSpace c then some (lexer.past [c] rest)
    else if c.isDigit then lexer.number?
    else if c == '\\' || Text.isNameStart c then lexer.word?
    else lexer.mark?

/-- Reads on until nothing is left. -/
def steps (kind : SourceKind) : Nat → Lexer → Option Lexer
  | 0, lexer => if lexer.rest.isEmpty then some lexer else none
  | fuel + 1, lexer =>
    if lexer.rest.isEmpty then some lexer
    else (lexer.step kind).bind (steps kind fuel)

/-- Comments at the end of a source lead its end, unless they trail the last token. -/
def finish (lexer : Lexer) : Lexer :=
  { lexer with
    pending := []
    comments :=
      lexer.pending.map (fun c => { c with leads := some lexer.offset }) ++ lexer.comments }

end Lexer

/-- A source cut into tokens and comments. -/
structure TokenStream where
  /-- The first line, if it names an interpreter. -/
  hashbang : Option String
  tokens : List Token
  comments : List Comment

/-- Cuts a source into tokens and comments; nothing when it has a stray character or something in it
is not closed. -/
def TokenStream.read? (kind : SourceKind) (source : String) : Option TokenStream := do
  let cs := source.toList
  let hashbang := match cs with
    | '#' :: '!' :: _ => some (cs.takeWhile (fun c => !Cooking.isLineEnd c))
    | _ => none
  let head := hashbang.getD []
  let start : Lexer := {
    rest := cs.drop head.length
    offset := Text.byteCount head
    line := hashbang.isNone }
  let lexer ← Lexer.steps kind cs.length start
  let lexer := lexer.finish
  return {
    hashbang := hashbang.map String.ofList
    tokens := lexer.tokens.reverse
    comments := lexer.comments.reverse }

end ImageFallback
