import ImageFallback.Syntax.Spelling
import ImageFallback.Syntax.Token

/-!
# Parsing a source

The statements and expressions of a source from its tokens. A node starts where its first token
starts and ends where its last token ends, parentheses included, whether parentheses are kept as
nodes or not. All identities are zero; they are given out once a program is complete.

Every function takes fuel, which each step into a part uses up. A part takes a token at least, or
leads to a stronger binding of which there are few, so a multiple of the number of tokens suffices.
-/

namespace ImageFallback

/-- What parsing depends on. -/
structure ParseContext where
  kind : SourceKind := .module
  keepParens : Bool := true
  inFunction : Bool := false

/-- The tokens that are left, and the end of the last one read. -/
structure Parser where
  tokens : List Token
  last : Nat := 0

/-- A step of parsing, which may fail. -/
abbrev Parse (α : Type) := StateT Parser Option α

namespace Parser

/-- The kind of the next token. -/
def peek : Parse (Option Token.Kind) := do return (← get).tokens.head?.map Token.kind

/-- The start of the next token. -/
def start : Parse Nat := do
  let s ← get
  return (s.tokens.head?.map (·.span.start)).getD s.last

/-- Reads a token. -/
def next : Parse Token := do
  let s ← get
  match s.tokens with
  | token :: rest =>
    set { tokens := rest, last := token.span.stop : Parser }
    return token
  | [] => failure

/-- The next token is this mark. -/
def at? (mark : String) : Parse Bool := do return (← peek) == some (.mark mark)

/-- The next token is this word. -/
def atWord? (word : String) : Parse Bool := do return (← peek) == some (.word word)

/-- Reads this mark if it comes next. -/
def accept (mark : String) : Parse Bool := do
  if ← at? mark then
    let _ ← next
    return true
  else return false

/-- Reads this word if it comes next. -/
def acceptWord (word : String) : Parse Bool := do
  if ← atWord? word then
    let _ ← next
    return true
  else return false

/-- Reads this mark. -/
def expect (mark : String) : Parse Unit := do
  if ← accept mark then return () else failure

/-- A line break stands before the next token, or there is none. -/
def onNewLine : Parse Bool := do return ((← get).tokens.head?.map Token.lineBefore).getD true

/-- The next token has the property. -/
def starts (property : Token → Bool) : Parse Bool := do
  return ((← get).tokens.head?.map property).getD false

/-- The kind of the token after the next one. -/
def peekSecond : Parse (Option Token.Kind) := do return (← get).tokens[1]?.map Token.kind

/-- What the comments behind the next token say counts for what starts with that token, and nothing
else does. -/
def annotateFromBehind : Parse Unit := modify fun s =>
  match s.tokens with
  | first :: second :: rest =>
    let first := { first with
      pureCall := second.pureCall
      pureFunction := second.pureFunction }
    { s with tokens := first :: second :: rest }
  | _ => s

/-- Words that start statements of more than one kind, so that the token behind them has to be
seen. -/
def forks : List String := ["import", "async", "await", "using"]

/-- The span from a start to the last token read. -/
def spanFrom (start : Nat) : Parse Span := do return ⟨start, (← get).last⟩

/-- Here one can wait for a value, so the word for it is no name. -/
def canWait (context : ParseContext) : Bool := context.kind == .module && !context.inFunction

/-- The word may be a name. -/
def isName (context : ParseContext) (word : String) : Bool :=
  !Lexer.reserved.contains word && !(canWait context && word == "await")

/-- Reads a name. -/
def name (context : ParseContext) : Parse String := do
  match (← next).kind.word? with
  | some value => if isName context value then return value else failure
  | none => failure

/-- Reads a name or a reserved word. -/
def anyWord : Parse String := do
  match (← next).kind.word? with
  | some value => return value
  | none => failure

/-- The end of a statement: a semicolon, or a place where it may be left out. -/
def semicolon : Parse Unit := do
  if ← accept ";" then return ()
  else if (← onNewLine) || (← at? "\x7d") then return ()
  else failure

/-- The statement that an expression from a start makes, once its end is read. -/
def endStatement (start : Nat) (value : Node) : Parse Node := do
  semicolon
  return .unary (← spanFrom start) .expressionStatement value

/-- Names between commas up to a closing parenthesis, which is read. -/
def names (context : ParseContext) : Nat → Parse (List String)
  | 0 => failure
  | fuel + 1 => do
    if ← accept ")" then return []
    else
      let first ← name context
      if ← accept "," then return first :: (← names context fuel)
      else
        expect ")"
        return [first]

/-- The parameters of a function written with an arrow, if one starts here; nothing is read
otherwise. -/
def arrowHead? (context : ParseContext) (fuel : Nat) : Parse (Option (List String)) := fun s =>
  let head : Parse (List String) := do
    let parameters ← match ← peek with
      | some (.mark "(") => do
        expect "("
        names context fuel
      | some (.word _) => do pure [← name context]
      | some (.escapedWord _) => do pure [← name context]
      | _ => failure
    if ← onNewLine then failure
    else
      expect "=>"
      return parameters
  match head s with
  | some (parameters, rest) => some (some parameters, rest)
  | none => some (none, s)

/-- The last token that has to be seen to tell that these tokens, which follow an opening
parenthesis, are no parameters; none if they are read up to their end to tell it. -/
def parameterProbe? : List Token → Option Token
  | first :: second :: rest =>
    let isParameter : Bool := match first.kind.word? with
      | some value => !Lexer.reserved.contains value || value == "this"
      | none => false
    match first.kind, second.kind with
    | .mark "[", _ | .mark "\x7b", _ | .mark "...", _ => none
    | _, .mark "?" => if isParameter then rest.head? else some second
    | _, .mark "," | _, .mark "=" | _, .mark ")" => if isParameter then none else some second
    | _, _ => some second
  | _ => none

/-- The last token that has to be seen to tell that these tokens start no form of their own: after a
parenthesis a function with an arrow, after a word one that waits, or a value handed out. -/
def probe? : List Token → Option Token
  | first :: rest =>
    match first.kind with
    | .mark "(" => parameterProbe? rest
    | kind => if kind.word? == some "async" || kind.word? == some "yield" then rest.head? else none
  | [] => none

/-- What the comments before the last token that was probed say about a call counts too. -/
def annotateFromProbe : Parse Unit := modify fun s =>
  match s.tokens with
  | first :: rest =>
    let flag := ((probe? s.tokens).map Token.pureCall).getD false
    { s with tokens := { first with pureCall := first.pureCall || flag } :: rest }
  | [] => s

/-- The node may stand on the left of an assignment. -/
def isTarget : Node → Bool
  | .name .. => true
  | .unary _ (.member ..) _ => true
  | .binary _ (.index _) _ _ => true
  | .paren _ inner => isTarget inner
  | _ => false

/-- The node loads a module, which is no constructor. -/
def isImport : Node → Bool
  | .group _ .importCall _ => true
  | _ => false

/-- The operators from the loosest level to the tightest. -/
def operators : List (String × BinaryForm) :=
  [("||", .or), ("&&", .and), ("===", .strictEqual), ("+", .plus)]

/-- The statement is a text literal without parentheses, which makes a directive at the start of a
body. -/
def directive? (tokens : List Token) (statement : Node) : Option Node :=
  match statement, tokens.head?.map Token.kind with
  | .unary span .expressionStatement (.text ..), some (.text raw _ _) =>
    some (.atom span (.directive raw))
  | _, _ => none

mutual

/-- An expression, with commas. -/
def expression (context : ParseContext) : Nat → Parse Node
  | 0 => failure
  | fuel + 1 => do
    let start ← Parser.start
    let first ← assignment context fuel
    if ← at? "," then
      let rest ← sequenceRest context fuel
      return .group (← spanFrom start) .sequence (first :: rest)
    else return first

/-- The expressions of a sequence, each after a comma. -/
def sequenceRest (context : ParseContext) : Nat → Parse (List Node)
  | 0 => failure
  | fuel + 1 => do
    if ← accept "," then
      let first ← assignment context fuel
      return first :: (← sequenceRest context fuel)
    else return []

/-- An expression without commas. -/
def assignment (context : ParseContext) : Nat → Parse Node
  | 0 => failure
  | fuel + 1 => do
    let isPure ← starts Token.pureFunction
    let value ← assigned context fuel
    return if isPure then value.withFreeFunction else value

/-- A function with an arrow, an assignment or anything tighter. -/
def assigned (context : ParseContext) : Nat → Parse Node
  | 0 => failure
  | fuel + 1 => do
    let start ← Parser.start
    match ← arrowHead? context fuel with
    | some parameters => arrowBody context fuel start parameters
    | none =>
      annotateFromProbe
      let left ← conditional context fuel
      match left with
      | .name _ parameter =>
        if (← at? "=>") && !(← onNewLine) then
          let _ ← next
          arrowBody context fuel start [parameter]
        else assignedTo context fuel start left
      | _ => assignedTo context fuel start left

/-- The value that an arrow with parameters leads to, with the function that they make. -/
def arrowBody (context : ParseContext) : Nat → Nat → List String → Parse Node
  | 0, _, _ => failure
  | fuel + 1, start, parameters => do
    let context := { context with inFunction := true }
    if ← at? "\x7b" then
      let body ← block context fuel
      return .group (← spanFrom start) (.arrowBlock parameters .expression) body
    else
      let body ← assignment context fuel
      return .unary (← spanFrom start) (.arrow parameters .expression) body

/-- The value that is assigned to an expression, if there is one, with the assignment. -/
def assignedTo (context : ParseContext) : Nat → Nat → Node → Parse Node
  | 0, _, _ => failure
  | fuel + 1, start, left => do
    if ← at? "=" then
      if isTarget left then
        let _ ← next
        let right ← assignment context fuel
        return .binary (← spanFrom start) .assign left right
      else failure
    else return left

/-- A conditional or anything tighter. -/
def conditional (context : ParseContext) : Nat → Parse Node
  | 0 => failure
  | fuel + 1 => do
    let start ← Parser.start
    let test ← operation context fuel operators
    if ← accept "?" then
      let yes ← assignment context fuel
      expect ":"
      let no ← assignment context fuel
      return .conditional 0 (← spanFrom start) test yes no
    else return test

/-- An operation of one of the given levels or anything tighter. -/
def operation (context : ParseContext) : Nat → List (String × BinaryForm) → Parse Node
  | 0, _ => failure
  | fuel + 1, [] => do
    let isPure ← starts Token.pureCall
    let operand ← unary context fuel
    return if isPure then operand.withFreeCall else operand
  | fuel + 1, level :: tighter => do
    let start ← Parser.start
    let left ← operation context fuel tighter
    operationRest context fuel level tighter start left

/-- The operations of one level from the left to the right. -/
def operationRest (context : ParseContext) : Nat → String × BinaryForm →
    List (String × BinaryForm) → Nat → Node → Parse Node
  | 0, _, _, _, _ => failure
  | fuel + 1, level, tighter, start, left => do
    if ← accept level.1 then
      let right ← operation context fuel tighter
      operationRest context fuel level tighter start
        (.binary (← spanFrom start) level.2 left right)
    else return left

/-- A negation, a wait, or a chain of accesses. -/
def unary (context : ParseContext) : Nat → Parse Node
  | 0 => failure
  | fuel + 1 => do
    let start ← Parser.start
    if ← accept "!" then
      let inner ← unary context fuel
      return .unary (← spanFrom start) .not inner
    else if canWait context && (← atWord? "await") then
      let _ ← next
      let inner ← unary context fuel
      return .unary (← spanFrom start) .await inner
    else
      let base ← primary context fuel
      let (node, optional) ← accesses context fuel start base false
      if optional then return .unary (← spanFrom start) .chain node else return node

/-- The accesses and calls after a base; the truth value tells whether one of them was optional. -/
def accesses (context : ParseContext) : Nat → Nat → Node → Bool → Parse (Node × Bool)
  | 0, _, _, _ => failure
  | fuel + 1, start, base, optional => do
    match ← peek with
    | some (.mark ".") =>
      let _ ← next
      let property ← anyWord
      accesses context fuel start
        (.unary (← spanFrom start) (.member property false) base) optional
    | some (.mark "?.") =>
      let _ ← next
      match ← peek with
      | some (.mark "(") =>
        let arguments ← arguments context fuel
        accesses context fuel start (.call (← spanFrom start) base arguments true) true
      | some (.mark "[") =>
        let index ← bracketed context fuel
        accesses context fuel start (.binary (← spanFrom start) (.index true) base index) true
      | _ =>
        let property ← anyWord
        accesses context fuel start
          (.unary (← spanFrom start) (.member property true) base) true
    | some (.mark "[") =>
      let index ← bracketed context fuel
      accesses context fuel start
        (.binary (← spanFrom start) (.index false) base index) optional
    | some (.mark "(") =>
      let arguments ← arguments context fuel
      accesses context fuel start (.call (← spanFrom start) base arguments false) optional
    | some (.template _ true _) =>
      if optional then failure
      else
        let template ← template context fuel true
        accesses context fuel start (.binary (← spanFrom start) .tagged base template) optional
    | _ => return (base, optional)

/-- The accesses of a constructor, without calls. -/
def memberAccesses (context : ParseContext) : Nat → Nat → Node → Parse Node
  | 0, _, _ => failure
  | fuel + 1, start, base => do
    match ← peek with
    | some (.mark ".") =>
      let _ ← next
      let property ← anyWord
      memberAccesses context fuel start (.unary (← spanFrom start) (.member property false) base)
    | some (.mark "[") =>
      let index ← bracketed context fuel
      memberAccesses context fuel start (.binary (← spanFrom start) (.index false) base index)
    | some (.template _ true _) =>
      let template ← template context fuel true
      memberAccesses context fuel start (.binary (← spanFrom start) .tagged base template)
    | some (.mark "?.") => failure
    | _ => return base

/-- An expression between brackets. -/
def bracketed (context : ParseContext) : Nat → Parse Node
  | 0 => failure
  | fuel + 1 => do
    expect "["
    let index ← expression context fuel
    expect "]"
    return index

/-- Arguments between parentheses. -/
def arguments (context : ParseContext) : Nat → Parse (List Node)
  | 0 => failure
  | fuel + 1 => do
    expect "("
    elements context fuel ")"

/-- Elements between commas up to a closing mark, which is read; a comma may stand after the last
one. Only an array may leave elements out. -/
def elements (context : ParseContext) : Nat → String → Parse (List Node)
  | 0, _ => failure
  | fuel + 1, close => do
    let start ← Parser.start
    if ← accept close then return []
    else if close == "]" && (← accept ",") then
      return .atom ⟨start, start⟩ .hole :: (← elements context fuel close)
    else
      let first ← if ← accept "..." then do
          let inner ← assignment context fuel
          pure (Node.unary (← spanFrom start) .spread inner)
        else assignment context fuel
      if ← accept "," then return first :: (← elements context fuel close)
      else
        expect close
        return [first]

/-- The properties of an object up to its closing brace, which is read. -/
def properties (context : ParseContext) : Nat → Parse (List Node)
  | 0 => failure
  | fuel + 1 => do
    if ← accept "\x7d" then return []
    else
      let start ← Parser.start
      let first ← if ← accept "..." then do
          let inner ← assignment context fuel
          pure (Node.unary (← spanFrom start) .spread inner)
        else property context fuel
      if ← accept "," then return first :: (← properties context fuel)
      else
        expect "\x7d"
        return [first]

/-- A property of an object; a name may stand for itself and its value. -/
def property (context : ParseContext) : Nat → Parse Node
  | 0 => failure
  | fuel + 1 => do
    let start ← Parser.start
    let key ← next
    let value? ← if ← accept ":" then some <$> assignment context fuel else pure none
    let form : UnaryForm ← match key.kind with
      | .word word => pure (.property word)
      | .escapedWord word => pure (.property word)
      | .text _ text lone => pure (.textProperty text lone)
      | .number n => pure (.property (Spelling.key n))
      | _ => failure
    let value ← match value?, key.kind.word? with
      | some value, _ => pure value
      | none, some word => if isName context word then pure (.name key.span word) else failure
      | none, none => failure
    return .unary (← spanFrom start) form value

/-- A template; only a tagged one may hold escapes without meaning. -/
def template (context : ParseContext) : Nat → Bool → Parse Node
  | 0, _ => failure
  | fuel + 1, tagged => do
    let start ← Parser.start
    let (quasis, parts) ← templateRest context fuel tagged true
    return .template 0 (← spanFrom start) quasis parts

/-- The stretches and expressions of a template from a stretch on. -/
def templateRest (context : ParseContext) : Nat → Bool → Bool → Parse (List Quasi × List Node)
  | 0, _, _ => failure
  | fuel + 1, tagged, first => do
    match (← next).kind with
    | .template quasi opens closes =>
      if opens != first || (!tagged && quasi.cooked.isNone) then failure
      else if closes then return ([quasi], [])
      else
        let part ← expression context fuel
        let (quasis, parts) ← templateRest context fuel tagged false
        return (quasi :: quasis, part :: parts)
    | _ => failure

/-- An expression without accesses behind it. -/
def primary (context : ParseContext) : Nat → Parse Node
  | 0 => failure
  | fuel + 1 => do
    let start ← Parser.start
    match ← peek with
    | some (.word "null") =>
      let _ ← next
      return .atom (← spanFrom start) .null
    | some (.word "true") =>
      let _ ← next
      return .atom (← spanFrom start) (.bool true)
    | some (.word "false") =>
      let _ ← next
      return .atom (← spanFrom start) (.bool false)
    | some (.word "this") =>
      let _ ← next
      return .atom (← spanFrom start) .this
    | some (.word "function") => function context fuel false
    | some (.word "new") =>
      let _ ← next
      let calleeStart ← Parser.start
      let isBare ← atWord? "import"
      let base ← primary context fuel
      let callee ← memberAccesses context fuel calleeStart base
      if isBare && isImport callee then failure
      let argumentsStart ← Parser.start
      let arguments ← if ← at? "(" then arguments context fuel else pure []
      let list := Node.group (← spanFrom argumentsStart) .arguments arguments
      return .binary (← spanFrom start) .construct callee list
    | some (.word "import") =>
      let _ ← next
      expect "("
      let source ← assignment context fuel
      let manner ← if (← accept ",") && !(← at? ")") then do
          let manner ← assignment context fuel
          let _ ← accept ","
          pure [manner]
        else pure []
      expect ")"
      return .group (← spanFrom start) .importCall (source :: manner)
    | some (.word _) =>
      let value ← name context
      return .name (← spanFrom start) value
    | some (.escapedWord _) =>
      let value ← name context
      return .name (← spanFrom start) value
    | some (.number value) =>
      let _ ← next
      return .atom (← spanFrom start) (.number value)
    | some (.text _ value lone) =>
      let _ ← next
      return .text 0 (← spanFrom start) value lone
    | some (.template ..) => template context fuel false
    | some (.mark "(") =>
      let _ ← next
      let inner := (← expression context fuel).inParens
      expect ")"
      if context.keepParens then return .paren (← spanFrom start) inner else return inner
    | some (.mark "[") =>
      let _ ← next
      let items ← elements context fuel "]"
      return .group (← spanFrom start) .array items
    | some (.mark "\x7b") =>
      let _ ← next
      let items ← properties context fuel
      return .group (← spanFrom start) .object items
    | _ => failure

/-- A function with the word for it in front. -/
def function (context : ParseContext) : Nat → Bool → Parse Node
  | 0, _ => failure
  | fuel + 1, declared => do
    let start ← Parser.start
    let _ ← next
    let ownName ← if !declared && (← at? "(") then pure none else some <$> name context
    expect "("
    let context := { context with inFunction := true }
    let parameters ← names context fuel
    let body ← block context fuel
    let place := if declared then FunctionPlace.declaration else .expression
    return .group (← spanFrom start) (.function ownName parameters place) body

/-- The statements of a function between braces, with the directives at their start. -/
def block (context : ParseContext) : Nat → Parse (List Node)
  | 0 => failure
  | fuel + 1 => do
    expect "\x7b"
    statements context fuel true true

/-- Statements up to a closing brace, which is read, or up to the end of the source. At the start of
a body, text literals that stand alone are directives. -/
def statements (context : ParseContext) : Nat → Bool → Bool → Parse (List Node)
  | 0, _, _ => failure
  | fuel + 1, braced, atStart => do
    if braced then
      if ← accept "\x7d" then return []
      else statementList context fuel braced atStart
    else if (← peek).isNone then return []
    else statementList context fuel braced atStart

/-- One statement and those after it. -/
def statementList (context : ParseContext) : Nat → Bool → Bool → Parse (List Node)
  | 0, _, _ => failure
  | fuel + 1, braced, atStart => do
    let tokens := (← get).tokens
    let first ← statement context fuel false
    match if atStart then directive? tokens first else none with
    | some directive => return directive :: (← statements context fuel braced true)
    | none => return first :: (← statements context fuel braced false)

/-- The variables of a declaration. -/
def declaredNames (context : ParseContext) : Nat → Bool → Parse (List Node)
  | 0, _ => failure
  | fuel + 1, constant => do
    let start ← Parser.start
    let variableName ← name context
    let first ← if ← accept "=" then do
        let value ← assignment context fuel
        pure (Node.unary (← spanFrom start) (.bound variableName) value)
      else if constant then failure
      else do pure (Node.atom (← spanFrom start) (.declared variableName))
    if ← accept "," then return first :: (← declaredNames context fuel constant)
    else return [first]

/-- A statement, which may stand alone as a part of another one. Then it declares no constant and no
variable of a block. -/
def statement (context : ParseContext) : Nat → Bool → Parse Node
  | 0, _ => failure
  | fuel + 1, alone => do
    let isPure ← starts Token.pureFunction
    let node ← statementForm context fuel alone
    return if isPure then node.withFreeFunction else node

/-- A statement of any form. -/
def statementForm (context : ParseContext) : Nat → Bool → Parse Node
  | 0, _ => failure
  | fuel + 1, alone => do
    let start ← Parser.start
    match ← peek with
    | some (.mark ";") =>
      let _ ← next
      return .atom (← spanFrom start) .empty
    | some (.mark "\x7b") =>
      let _ ← next
      let body ← statements context fuel true false
      return .group (← spanFrom start) .block body
    | some (.word "var") => declaration context fuel "var"
    | some (.word "const") => if alone then failure else declaration context fuel "const"
    | some (.word "let") => letStatement context fuel alone
    | some (.word "function") => function context fuel true
    | some (.word "return") =>
      if context.inFunction then
        let _ ← next
        if (← onNewLine) || (← at? ";") || (← at? "\x7d") then
          semicolon
          return .atom (← spanFrom start) .returnNothing
        else
          let value ← expression context fuel
          semicolon
          return .unary (← spanFrom start) .returnValue value
      else failure
    | some (.word "if") =>
      let _ ← next
      expect "("
      let test ← expression context fuel
      expect ")"
      let yes ← statement context fuel true
      let guarded := Node.binary (← spanFrom start) .ifThen test yes
      if ← acceptWord "else" then
        let no ← statement context fuel true
        return .binary (← spanFrom start) .orElse guarded no
      else return guarded
    | first =>
      if ((first.bind Token.Kind.word?).map forks.contains).getD false then annotateFromBehind
      let value ← expression context fuel
      match value with
      | .name _ label =>
        if ← accept ":" then
          let inner ← statement context fuel true
          return .unary (← spanFrom start) (.labelled label) inner
        else endStatement start value
      | _ => endStatement start value

/-- A statement that starts with the word for declaring variables of a block, which is a name if an
operator, an access or a call follows it, or if nothing can be declared here. No semicolon ends a
statement that starts with an access to that name or with a call of it. -/
def letStatement (context : ParseContext) : Nat → Bool → Parse Node
  | 0, _ => failure
  | fuel + 1, alone => do
    let start ← Parser.start
    let second ← peekSecond
    let follows (marks : List String) : Bool := marks.any fun mark => second == some (.mark mark)
    if follows ["=", "===", "+"] then
      annotateFromBehind
      endStatement start (← assignment context fuel)
    else if follows [".", "("] then
      annotateFromBehind
      let value ← expression context fuel
      return .unary (← spanFrom start) .expressionStatement value
    else if alone || follows [";"] then
      let own ← name context
      endStatement start (.name (← spanFrom start) own)
    else declaration context fuel "let"

/-- A declaration of variables. -/
def declaration (context : ParseContext) : Nat → String → Parse Node
  | 0, _ => failure
  | fuel + 1, keyword => do
    let start ← Parser.start
    let _ ← next
    let list ← declaredNames context fuel (keyword == "const")
    semicolon
    return .group (← spanFrom start) (.declaration keyword) list

end

end Parser

/-- A parsed source. -/
structure Program where
  source : String
  hashbang : Option String
  comments : List Comment
  body : List Node

/-- Parses a source; nothing when it is no program. -/
def Program.parse? (kind : SourceKind) (keepParens : Bool) (source : String) : Option Program := do
  let stream ← TokenStream.read? kind source
  let context : ParseContext := { kind := kind, keepParens := keepParens }
  let fuel := 16 * (stream.tokens.length + 1)
  let (body, rest) ← (Parser.statements context fuel false true).run { tokens := stream.tokens }
  if rest.tokens.isEmpty then
    return {
      source := source
      hashbang := stream.hashbang
      comments := stream.comments
      body := body }
  else none

end ImageFallback
