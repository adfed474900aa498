import ImageFallback.Syntax.Parser
import ImageFallback.Syntax.Spelling
import ImageFallback.Text.Blank
import ImageFallback.Text.Split

/-!
# Printing a program

The text of a program. Every statement has lines of its own, indented by tabs. Parentheses of the
source vanish, those around a function apart, and those that the reading needs are put in: a node is
wrapped where its surroundings bind at least as tightly as it does itself.

Comments are kept where they lead a statement, an argument, the source of a module that is loaded,
the end of a list of arguments, an object, the end of the body of a function or the end of the
source. Each is printed once, at the
first node that starts where it leads to; the comments that are still to be printed are the state of
printing. The comments that say that a call or a function has no effect are not among them: they are
printed with the call or function that they are about. What follows such a comment starts neither
the statement nor the value any more.
-/

namespace ImageFallback

/-- How tightly the forms of expressions bind, the loosest first. -/
inductive Binding where
  | loosest
  | comma
  | value
  | assignment
  | conditional
  | belowOr
  | or
  | and
  | belowEqual
  | equal
  | belowPlus
  | plus
  | belowUnary
  | unary
  | access
  | construct
  deriving DecidableEq, Repr

namespace Binding

/-- The place of a binding in the order. -/
def rank : Binding → Nat
  | loosest => 0
  | comma => 1
  | value => 3
  | assignment => 4
  | conditional => 5
  | belowOr => 6
  | or => 7
  | and => 8
  | belowEqual => 11
  | equal => 12
  | belowPlus => 14
  | plus => 15
  | belowUnary => 17
  | unary => 18
  | access => 19
  | construct => 20

end Binding

/-- Where a node is printed. -/
structure Place where
  /-- How tightly the surroundings bind. -/
  around : Binding := .loosest
  /-- The number of tabs in front of a line. -/
  indent : Nat := 0
  /-- The node is the first thing of a statement. -/
  startsStatement : Bool := false
  /-- The node is the first thing of the value of a function. -/
  startsValue : Bool := false
  /-- The node belongs to a constructor, which would take the arguments of a call for its own. -/
  inConstructor : Bool := false
  /-- The statement stands on the line of what is before it. -/
  sameLine : Bool := false
  /-- The comments before the statement are left out. -/
  uncommented : Bool := false

namespace Place

/-- A place inside this one that starts nothing. -/
def inside (place : Place) (around : Binding) : Place :=
  { indent := place.indent, around := around }

/-- The place of the first part of a node. -/
def first (place : Place) (around : Binding) : Place :=
  { place with around := around, inConstructor := false }

/-- The place of the first operand, which is a part of a constructor if the operation is. -/
def operand (place : Place) (around : Binding) : Place := { place with around := around }

/-- The place of what follows the first of several parts. -/
def later (place : Place) : Place :=
  { place with startsStatement := false, startsValue := false }

/-- The place of an operand that something stands before. -/
def laterOperand (place : Place) (around : Binding) : Place :=
  { place.inside around with inConstructor := place.inConstructor }

/-- The place of the statements of a block. -/
def body (place : Place) : Place :=
  { indent := place.indent + 1, inConstructor := place.inConstructor }

/-- The place of a statement on the line of what it belongs to. -/
def onLine (place : Place) (uncommented : Bool) : Place := {
  indent := place.indent
  inConstructor := place.inConstructor
  sameLine := true
  uncommented := uncommented }

/-- One tab deeper. -/
def deeper (place : Place) : Place := { place with indent := place.indent + 1 }

/-- The tabs in front of a line. -/
def tabs (place : Place) : String := String.ofList (List.replicate place.indent '\t')

/-- The start of a new line. -/
def newLine (place : Place) : String := "\n" ++ place.tabs

/-- Something that binds like this needs parentheses here. -/
def wraps (place : Place) (own : Binding) : Bool := own.rank ≤ place.around.rank

end Place

/-- Printing, with the comments that are still to be printed. -/
abbrev Print (α : Type) := StateM (List Comment) α

namespace Comment

/-- The lines of a comment, which end at line breaks and separators of every kind. -/
def lines (comment : Comment) : List (List Char) :=
  let ended := (Cooking.unifyLines comment.raw.toList).map fun c =>
    if Cooking.isLineEnd c then '\n' else c
  ended.splitOn '\n'

/-- A line of a comment at a place without the blanks in front of it. It is indented unless it
starts like a comment, and goes on unless it ends like one. -/
def shownLine (place : Place) (line : List Char) : String :=
  (if ['/', '*'].isPrefixOf line then "" else place.tabs) ++
    String.ofList (line.dropWhile Text.isBlank) ++
    (if ['*', '/'].isSuffixOf line then "" else "\n")

/-- The comment at a place, each of its lines indented if it has several. -/
def shown (place : Place) (comment : Comment) : String :=
  Spelling.guard (if comment.isLine then comment.raw
    else "".intercalate (comment.lines.map (shownLine place)))

/-- The comment ends its line. -/
def endsLine (comment : Comment) : Bool := comment.isLine || comment.lineAfter

/-- What stands before a comment that follows another one: a new line where the source has one, and
the start of a line for one that asks to be kept. -/
def separator (place : Place) (comment : Comment) : String :=
  if comment.lineBefore then place.newLine else if comment.isLegal then "\n" else ""

/-- Comments one after the other, on new lines where the source has them so. -/
def joined (place : Place) : List Comment → String
  | [] => ""
  | [last] => last.shown place
  | one :: next :: rest =>
    one.shown place ++ next.separator place ++ joined place (next :: rest)

/-- Each of the comments on a new line. -/
def onNewLines (place : Place) (comments : List Comment) : String :=
  "".intercalate (comments.map fun c => place.newLine ++ c.shown place)

end Comment

namespace Printer

/-- Some comment leads to this offset. -/
def isLed (offset : Nat) : Print Bool := do return (← get).any (·.leads == some offset)

/-- The comments that lead to this offset, which count as printed from here on. -/
def take (offset : Nat) : Print (List Comment) := do
  let pending ← get
  set (pending.filter (·.leads != some offset))
  return pending.filter (·.leads == some offset)

/-- What stands in front of a statement that starts at this offset. -/
def lead (place : Place) (offset : Nat) : Print String := do
  let start := if place.sameLine then " " else place.tabs
  let comments ← if place.uncommented then pure [] else take offset
  match comments.head?, comments.getLast? with
  | some first, some last =>
    return (if place.sameLine && first.lineBefore then "\n" else "") ++ start ++
      Comment.joined place comments ++ (if last.endsLine then place.newLine else " ")
  | _, _ => return start

/-- The text, between parentheses if it needs them. -/
def wrapped (wrap : Bool) (text : String) : String := if wrap then "(" ++ text ++ ")" else text

/-- The place inside parentheses, if there are any. -/
def within (wrap : Bool) (place : Place) : Place := if wrap then place.later else place

/-- Comments right after an opening parenthesis, up to what they lead. -/
def parenthesizedLead (place : Place) (comments : List Comment) : String :=
  match comments.head?, comments.getLast? with
  | some first, some last =>
    (if first.lineBefore then place.newLine else place.tabs) ++ Comment.joined place comments ++
      (if last.endsLine then place.newLine else " ")
  | _, _ => ""

/-- Arguments between parentheses; as soon as a comment stands before one of them or before the
closing parenthesis, each has its own line, and the closing parenthesis stands after `ending`. -/
def argumentList (place : Place) (ending : String) (span : Span) (starts : List Nat)
    (items : Place → Bool → Print (List String)) : Print String := do
  let inner := place.inside .comma
  if ← ((span.stop - 1) :: starts).anyM isLed then
    let inner := inner.deeper
    let texts ← items inner true
    let last ← take (span.stop - 1)
    return "(" ++ ",".intercalate (texts.map (inner.newLine ++ ·)) ++
      Comment.onNewLines inner last ++ ending ++ ")"
  else
    let texts ← items inner false
    return "(" ++ ", ".intercalate texts ++ ")"

/-- The comments before an item on a line of its own. -/
def itemLead (place : Place) (commented : Bool) (offset : Nat) : Print String := do
  if commented then
    let comments ← take offset
    return "".intercalate (comments.map fun c => c.shown place ++ place.newLine)
  else return ""

/-- Items on one line between two marks, or each on its own line if there are more than `limit`. -/
def enclosed (place : Place) (limit : Nat) (start blank stop : String) (texts : List String) :
    String :=
  if limit < texts.length then
    start ++ ",".intercalate (texts.map (place.deeper.newLine ++ ·)) ++ place.newLine ++ stop
  else if texts.isEmpty then start ++ stop
  else start ++ blank ++ ", ".intercalate texts ++ blank ++ stop

/-- Statements between braces. -/
def braced (place : Place) (texts : List String) : String :=
  if texts.isEmpty then "\x7b\x7d"
  else "\x7b\n" ++ "\n".intercalate texts ++ place.newLine ++ "\x7d"

/-- The statements of a function between braces, with the comments before the closing brace. It
stands right after the last comment unless a line ends there. -/
def functionBody (place : Place) (texts : List String) (last : List Comment) : String :=
  match last.getLast? with
  | none => braced place texts
  | some ending =>
    if texts.isEmpty && last.all (fun c => !c.lineBefore && !c.endsLine) then
      "\x7b" ++ place.tabs ++ Comment.joined place last ++ "\x7d"
    else
      let inner := place.deeper
      "\x7b\n" ++ "".intercalate (texts.map (· ++ "\n")) ++ inner.tabs ++
        Comment.joined inner last ++ (if ending.endsLine then place.newLine else place.tabs) ++
        "\x7d"

/-- A text literal, seen through the parentheses around it. -/
def textLiteral? : Node → Option String
  | .text _ _ value lone => some (Spelling.text value lone)
  | .paren _ inner => textLiteral? inner
  | _ => none

/-- The first statements of a body, where a text literal that is no directive has to be kept from
becoming one. -/
def opening : List Node → List String → List String
  | .unary _ .expressionStatement value :: _, first :: rest =>
    match textLiteral? value with
    | some text => ("(" ++ text ++ ");") :: rest
    | none => first :: rest
  | _, texts => texts

/-- The node is this name, seen through the parentheses around it. -/
def isNamed (name : String) : Node → Bool
  | .name _ value => value == name
  | .paren _ inner => isNamed name inner
  | _ => false

/-- The empty statement. -/
def isEmptyStatement : Node → Bool
  | .atom _ .empty => true
  | _ => false

/-- A block of statements. -/
def isBlock : Node → Bool
  | .group _ .block _ => true
  | _ => false

/-- A statement that would take an `else` after it for its own. -/
def isOpenEnded : Node → Bool
  | .binary _ .ifThen _ _ => true
  | .binary _ .orElse _ no => isOpenEnded no
  | .unary _ (.labelled _) inner => isOpenEnded inner
  | _ => false

/-- A guarded statement. -/
def isGuarded : Node → Bool
  | .binary _ .ifThen _ _ => true
  | .binary _ .orElse _ _ => true
  | _ => false

/-- A place of an array that is left out. -/
def isHole : Node → Bool
  | .atom _ .hole => true
  | _ => false

/-- What stands between a guarded statement and the `else` after it. -/
def beforeElse (place : Place) : Node → String
  | .binary _ .ifThen _ yes => if isBlock yes || isOpenEnded yes then " " else place.newLine
  | _ => " "

/-- A call or a construction. -/
def isCall : Node → Bool
  | .call .. => true
  | .binary _ .construct _ _ => true
  | _ => false

/-- A construction. -/
def isConstruction : Node → Bool
  | .binary _ .construct _ _ => true
  | _ => false

/-- A function that is declared by a statement. -/
def isDeclaration : Node → Bool
  | .group _ (.function _ _ .declaration) _ => true
  | _ => false

/-- The comment for a call without an effect. -/
def pureCallMark : String := "/* @__PURE__ */"

/-- The comment for a function without an effect. -/
def pureFunctionMark : String := "/* @__NO_SIDE_EFFECTS__ */"

/-- Names between commas and parentheses. -/
def parameterList (names : List String) : String := "(" ++ ", ".intercalate names ++ ")"

/-- The text of an atom. -/
def atomText : Atom → String
  | .null => "null"
  | .bool value => if value then "true" else "false"
  | .number value => Spelling.number value
  | .this => "this"
  | .hole => ""
  | .empty => ";"
  | .returnNothing => "return;"
  | .declared name => name
  | .directive raw => Spelling.directive raw ++ ";"

/-- The atom is a statement. -/
def isStatementAtom : Atom → Bool
  | .empty | .returnNothing | .directive _ => true
  | _ => false

/-- An operator in front of its operand. -/
def signed (place : Place) (mark : String) (inner : Place → Print String) : Print String := do
  return wrapped (place.wraps .unary) (mark ++ (← inner (place.laterOperand .belowUnary)))

/-- An operator between its operands: how it binds, and how its surroundings bind for each
operand. -/
def operation (place : Place) (mark : String) (own leftSide rightSide : Binding)
    (left right : Place → Print String) : Print String := do
  let wrap := place.wraps own
  let leftText ← left ((within wrap place).operand leftSide)
  let rightText ← right (place.laterOperand rightSide)
  return wrapped wrap (leftText ++ mark ++ rightText)

mutual

/-- The text of a node at a place. -/
def render : Node → Place → Print String
  | .text _ _ value lone, _ => return Spelling.text value lone
  | .template _ _ quasis parts, place => do
    return Spelling.template quasis (← renderAll parts (place.inside .loosest) false)
  | .conditional _ _ test yes no, place => do
    let wrap := place.wraps .conditional
    let test ← render test ((within wrap place).first .conditional)
    let yes ← render yes (place.inside .value)
    let no ← render no (place.inside .value)
    return wrapped wrap (test ++ " ? " ++ yes ++ " : " ++ no)
  | .paren _ inner, place => render inner place
  | .name _ value, _ => return value
  | .call span callee arguments optional, place => do
    let wrap := place.wraps .construct || place.inConstructor
    let callee ← render callee ((within wrap place).first .access)
    let list ← argumentList place place.newLine span (arguments.map (·.span.start))
      (renderAll arguments)
    return wrapped wrap (callee ++ (if optional then "?." else "") ++ list)
  | .atom span value, place => do
    if isStatementAtom value then return (← lead place span.start) ++ atomText value
    else return atomText value
  | .unary span form inner, place =>
    match form with
    | .await => signed place "await " (render inner)
    | .spread => do return "..." ++ (← render inner (place.inside .comma))
    | .not => signed place "!" (render inner)
    | .member property optional => do
      let object ← render inner (place.operand .access)
      let mark := if optional then "?." else if Spelling.takesPoint object then " ." else "."
      return object ++ mark ++ property
    | .chain => do
      let wrap := place.wraps .access
      return wrapped wrap (← render inner (within wrap place))
    | .arrow parameters functionPlace => do
      let value ← render inner { place.laterOperand .comma with startsValue := true }
      let wrap := place.wraps .assignment || functionPlace == .parenthesized
      return wrapped wrap (parameterList parameters ++ " => " ++ value)
    | .property key => do
      let value ← render inner (place.inside .comma)
      if isNamed key inner && (key != "__proto__" || span == inner.span) then return key
      else return key ++ ": " ++ value
    | .textProperty key lone => do
      return Spelling.text key lone ++ ": " ++ (← render inner (place.inside .comma))
    | .effectFree => do
      if isDeclaration inner then
        let before ← lead place span.start
        return before ++ pureFunctionMark ++ "\n" ++
          (← render inner { place with sameLine := false, uncommented := true })
      else if isCall inner then
        let wrap := place.wraps .access || (place.inConstructor && !isConstruction inner)
        let text ← render inner (place.inside .loosest)
        return wrapped wrap (pureCallMark ++ " " ++ text)
      else return pureFunctionMark ++ " " ++ (← render inner place.later)
    | .bound name => do return name ++ " = " ++ (← render inner (place.laterOperand .comma))
    | .labelled label => do
      let before ← lead place span.start
      let labelled := if isEmptyStatement inner then pure ";"
        else render inner (place.onLine (isBlock inner))
      return before ++ label ++ ":" ++ (← labelled)
    | .expressionStatement => do
      let before ← lead place span.start
      return before ++ (← render inner { indent := place.indent, startsStatement := true }) ++ ";"
    | .returnValue => do
      let before ← lead place span.start
      return before ++ "return " ++ (← render inner (place.inside .loosest)) ++ ";"
  | .binary span form left right, place =>
    match form with
    | .index optional => do
      let object ← render left (place.operand .access)
      let index ← render right (place.inside .loosest)
      let object := wrapped (isNamed "let" left) object
      return object ++ (if optional then "?." else "") ++ "[" ++ index ++ "]"
    | .tagged => do
      let tag ← render left (place.first .access)
      return tag ++ (← render right (place.inside .loosest))
    | .construct => do
      let callee ← render left { place.inside .construct with inConstructor := true }
      let list ← render right (place.inside .comma)
      return "new " ++ callee ++ list
    | .ifThen => do
      let before ← lead place span.start
      let test ← render left (place.inside .loosest)
      let head := before ++ "if (" ++ test ++ ")"
      if isEmptyStatement right then return head ++ ";"
      else if isOpenEnded right then
        return head ++ " \x7b\n" ++ (← render right place.body) ++ place.newLine ++ "\x7d"
      else return head ++ (← render right (place.onLine (isBlock right)))
    | .orElse => do
      let guarded ← render left place
      let no ← if isEmptyStatement right then pure ";"
        else render right (place.onLine (isBlock right || isGuarded right))
      return guarded ++ beforeElse place left ++ "else" ++ no
    | .plus => operation place " + " .plus .belowPlus .plus (render left) (render right)
    | .strictEqual => operation place " === " .equal .belowEqual .equal (render left) (render right)
    | .and => operation place " && " .and .or .or (render left) (render right)
    | .or => operation place " || " .or .belowOr .belowOr (render left) (render right)
    | .assign => do
      let wrap := place.wraps .assignment
      let target ← render left ((within wrap place).first .comma)
      let value ← render right (place.laterOperand .comma)
      return wrapped wrap (target ++ " = " ++ value)
  | .group span form items, place =>
    match form with
    | .sequence => do
      let wrap := place.wraps .comma
      let texts ← renderAll items ((within wrap place).first .loosest) false
      return wrapped wrap (", ".intercalate texts)
    | .array => do
      let inner := place.inside .comma
      let texts ← renderAll items (if 2 < items.length then inner.deeper else inner) false
      let texts := if (items.getLast?.map isHole).getD false then texts.dropLast ++ [","] else texts
      return enclosed place 2 "[" "" "]" texts
    | .object => do
      let comments ← take span.start
      let inner := place.inside .comma
      let texts ← renderAll items (if 1 < items.length then inner.deeper else inner) false
      let text := enclosed place 1 "\x7b" " " "\x7d" texts
      return wrapped (place.startsStatement || place.startsValue || !comments.isEmpty)
        (parenthesizedLead place comments ++ text)
    | .arguments =>
      argumentList place place.newLine span (items.map (·.span.start)) (renderAll items)
    | .importCall => do
      let list ← argumentList place "\n" span (items.map (·.span.start)) fun inner commented =>
        match items with
        | [] => return []
        | source :: manner => do
          let before ← itemLead inner commented source.span.start
          let text ← render source inner
          return (before ++ text) :: (← renderAll manner inner false)
      return wrapped (place.wraps .construct || place.inConstructor) ("import" ++ list)
    | .function name parameters functionPlace => do
      let before ← if functionPlace == .declaration then lead place span.start else pure ""
      let texts ← renderAll items { indent := place.indent + 1 } false
      let body := functionBody place (opening items texts) (← take (span.stop - 1))
      let head := match name with
        | some name => "function " ++ name
        | none => "function"
      let wrap := functionPlace == .parenthesized ||
        (functionPlace == .expression && place.startsStatement)
      return before ++ wrapped wrap (head ++ parameterList parameters ++ " " ++ body)
    | .arrowBlock parameters functionPlace => do
      let texts ← renderAll items place.body false
      let body := functionBody place (opening items texts) (← take (span.stop - 1))
      let wrap := place.wraps .assignment || functionPlace == .parenthesized
      return wrapped wrap (parameterList parameters ++ " => " ++ body)
    | .block => do
      let before ← lead place span.start
      return before ++ braced place (← renderAll items place.body false)
    | .declaration keyword => do
      let before ← lead place span.start
      let texts ← renderAll items (place.laterOperand .comma) false
      return before ++ keyword ++ " " ++ ", ".intercalate texts ++ ";"

/-- The texts of nodes one after the other. -/
def renderAll : List Node → Place → Bool → Print (List String)
  | [], _, _ => return []
  | node :: rest, place, commented => do
    let before ← itemLead place commented node.span.start
    let text ← render node place
    return (before ++ text) :: (← renderAll rest place.later commented)

end

end Printer

/-- The text of a program. -/
def Program.print (program : Program) : String :=
  let top : Place := {}
  let body : Print String := do
    let texts := Printer.opening program.body (← Printer.renderAll program.body top false)
    let last ← Printer.take program.source.utf8ByteSize
    let ending := Comment.joined top last ++
      (if (last.getLast?.map Comment.endsLine).getD false then "\n" else "")
    return "".intercalate (texts.map (· ++ "\n")) ++ ending
  let head := match program.hashbang with
    | some line => line ++ "\n"
    | none => ""
  let comments := program.comments.filter fun c => !c.isPureCall && !c.isPureFunction
  head ++ (body.run comments).1

end ImageFallback
