/-!
# Syntax trees

The trees of a JavaScript source. Three kinds of expression are told apart for their own sake: text
literals, templates and conditionals, which a loader argument may consist of. Each of them carries
an identity, a number that no other node of the same program has, because being handled before is a
property of a node and not of its text. Calls, names and parentheses have constructors of their own
too. Everything else, statements included, is an atom or a form with one part, two parts or a list
of parts in the order of the source, so that a walk over a tree need not know the forms.
-/

namespace ImageFallback

/-- A stretch of source text between two byte offsets. -/
structure Span where
  start : Nat := 0
  stop : Nat := 0
  deriving DecidableEq, Repr, Inhabited

/-- The span of nodes that no source text stands for. -/
def Span.none : Span := {}

/-- The identity of a literal, template or conditional. -/
abbrev NodeId := Nat

/-- A stretch of text in a template: as it is written, and with its escapes resolved unless they
have no meaning. `lone` says that the resolved text encodes half surrogate pairs. -/
structure Quasi where
  raw : String
  cooked : Option String
  lone : Bool := false
  span : Span := {}
  deriving DecidableEq, Repr

/-- Nodes without parts. -/
inductive Atom where
  | null
  | bool (value : Bool)
  | number (value : Int)
  | this
  /-- A place of an array that is left out. -/
  | hole
  /-- The empty statement. -/
  | empty
  /-- A return without a value. -/
  | returnNothing
  /-- A declared variable without a value. -/
  | declared (name : String)
  /-- A directive at the start of a body, with its text as written. -/
  | directive (raw : String)
  deriving DecidableEq, Repr

/-- How a function stands in the source. A function between parentheses is likely to be called at
once, so it keeps them. -/
inductive FunctionPlace where
  /-- As a statement that declares its name. -/
  | declaration
  /-- As an expression. -/
  | expression
  /-- As an expression between parentheses. -/
  | parenthesized
  deriving DecidableEq, Repr

/-- Forms with one part. -/
inductive UnaryForm where
  | await
  | spread
  | not
  | member (property : String) (optional : Bool)
  /-- A chain of accesses that ends early at an absent value. -/
  | chain
  /-- A function with a value as its body. -/
  | arrow (parameters : List String) (place : FunctionPlace)
  /-- A property of an object. -/
  | property (key : String)
  /-- A property of an object whose key is written as a text. -/
  | textProperty (key : String) (lone : Bool)
  /-- A declared variable with its value. -/
  | bound (name : String)
  /-- A call, a construction or a function that has no effect besides its value, as a comment in the
  source says. -/
  | effectFree
  /-- A statement with a label. -/
  | labelled (label : String)
  | expressionStatement
  | returnValue
  deriving DecidableEq, Repr

/-- Forms with two parts. -/
inductive BinaryForm where
  | index (optional : Bool)
  | plus
  | strictEqual
  | and
  | or
  | assign
  /-- A template with its tag in front. -/
  | tagged
  /-- A constructor and its arguments. -/
  | construct
  /-- A test and the statement that it guards. -/
  | ifThen
  /-- A guarded statement and the one in its place. -/
  | orElse
  deriving DecidableEq, Repr

/-- Forms with any number of parts. -/
inductive ListForm where
  | sequence
  | array
  | object
  | arguments
  /-- The loading of a module: its name and, if there are two parts, how to load it. -/
  | importCall
  /-- A function with its statements. -/
  | function (name : Option String) (parameters : List String) (place : FunctionPlace)
  /-- A function without a name of its own, written with an arrow, with its statements. -/
  | arrowBlock (parameters : List String) (place : FunctionPlace)
  | block
  | declaration (keyword : String)
  deriving DecidableEq, Repr

/-- A node of a syntax tree. -/
inductive Node where
  | text (id : NodeId) (span : Span) (value : String) (lone : Bool)
  | template (id : NodeId) (span : Span) (quasis : List Quasi) (parts : List Node)
  | conditional (id : NodeId) (span : Span) (test yes no : Node)
  | paren (span : Span) (inner : Node)
  | name (span : Span) (value : String)
  | call (span : Span) (callee : Node) (arguments : List Node) (optional : Bool)
  | atom (span : Span) (value : Atom)
  | unary (span : Span) (form : UnaryForm) (inner : Node)
  | binary (span : Span) (form : BinaryForm) (left right : Node)
  | group (span : Span) (form : ListForm) (items : List Node)
  deriving Inhabited, Repr

namespace Node

/-- Where a node stands in the source. -/
def span : Node → Span
  | text _ span _ _ | template _ span _ _ | conditional _ span _ _ _ | paren span _ | name span _
  | call span _ _ _ | atom span _ | unary span _ _ | binary span _ _ _ | group span _ _ => span

/-- The identity of a node that has one. -/
def id? : Node → Option NodeId
  | text id _ _ _ | template id _ _ _ | conditional id _ _ _ _ => some id
  | _ => none

/-- The node between parentheses, which only a function takes note of, marked or not. -/
def inParens : Node → Node
  | unary span .effectFree inner => unary span .effectFree (inParens inner)
  | unary span (.arrow parameters _) value => unary span (.arrow parameters .parenthesized) value
  | group span (.arrowBlock parameters _) body =>
    group span (.arrowBlock parameters .parenthesized) body
  | group span (.function ownName parameters _) body =>
    group span (.function ownName parameters .parenthesized) body
  | node => node

/-- The node marked as free of effects. -/
def markedFree (node : Node) : Node := unary node.span .effectFree node

/-- The call or construction with which an expression starts is marked as free of effects. -/
def withFreeCall : Node → Node
  | call span callee arguments optional => markedFree (call span callee arguments optional)
  | binary span form left right =>
    match form with
    | .construct => markedFree (binary span form left right)
    | .plus | .strictEqual | .and | .or => binary span form (withFreeCall left) right
    | _ => binary span form left right
  | conditional id span test yes no => conditional id span (withFreeCall test) yes no
  | unary span .chain (call inner callee arguments optional) =>
    unary span .chain (markedFree (call inner callee arguments optional))
  | paren span inner => paren span (withFreeCall inner)
  | node => node

/-- The function is marked as free of effects; a constant stands for the function that it is bound
to. -/
def withFreeFunction : Node → Node
  | unary span (.arrow parameters place) value =>
    markedFree (unary span (.arrow parameters place) value)
  | group span (.arrowBlock parameters place) body =>
    markedFree (group span (.arrowBlock parameters place) body)
  | group span (.function ownName parameters place) body =>
    markedFree (group span (.function ownName parameters place) body)
  | group span (.declaration "const") (unary boundSpan (.bound constant) value :: rest) =>
    group span (.declaration "const")
      (unary boundSpan (.bound constant) (withFreeFunction value) :: rest)
  | node => node

/-- An argument that stands for any number of arguments. -/
def isSpread : Node → Bool
  | unary _ .spread _ => true
  | _ => false

end Node

/-- The kinds of loader argument that may be changed, and all others. -/
inductive Shape where
  | plain
  | templated
  | conditional
  | other
  deriving DecidableEq, Repr

/-- The shape of a node, seen through the parentheses around it. -/
def Node.shape : Node → Shape
  | .text .. => .plain
  | .template .. => .templated
  | .conditional .. => .conditional
  | .paren _ inner => inner.shape
  | _ => .other

namespace Node

mutual

/-- The node with every identity sent through `f`. -/
def mapIds (f : NodeId → NodeId) : Node → Node
  | text id span value lone => text (f id) span value lone
  | template id span quasis parts => template (f id) span quasis (mapIdsAll f parts)
  | conditional id span test yes no =>
    conditional (f id) span (mapIds f test) (mapIds f yes) (mapIds f no)
  | paren span inner => paren span (mapIds f inner)
  | name span value => name span value
  | call span callee arguments optional =>
    call span (mapIds f callee) (mapIdsAll f arguments) optional
  | atom span value => atom span value
  | unary span form inner => unary span form (mapIds f inner)
  | binary span form left right => binary span form (mapIds f left) (mapIds f right)
  | group span form items => group span form (mapIdsAll f items)

/-- The nodes with every identity sent through `f`. -/
def mapIdsAll (f : NodeId → NodeId) : List Node → List Node
  | [] => []
  | node :: rest => mapIds f node :: mapIdsAll f rest

end

mutual

/-- The node with identities that count up from `next`, and the first number after them. -/
def number : Node → NodeId → Node × NodeId
  | text _ span value lone, next => (text next span value lone, next + 1)
  | template _ span quasis parts, next =>
    let parts := numberAll parts (next + 1)
    (template next span quasis parts.1, parts.2)
  | conditional _ span test yes no, next =>
    let test := number test (next + 1)
    let yes := number yes test.2
    let no := number no yes.2
    (conditional next span test.1 yes.1 no.1, no.2)
  | paren span inner, next =>
    let inner := number inner next
    (paren span inner.1, inner.2)
  | name span value, next => (name span value, next)
  | call span callee arguments optional, next =>
    let callee := number callee next
    let arguments := numberAll arguments callee.2
    (call span callee.1 arguments.1 optional, arguments.2)
  | atom span value, next => (atom span value, next)
  | unary span form inner, next =>
    let inner := number inner next
    (unary span form inner.1, inner.2)
  | binary span form left right, next =>
    let left := number left next
    let right := number right left.2
    (binary span form left.1 right.1, right.2)
  | group span form items, next =>
    let items := numberAll items next
    (group span form items.1, items.2)

/-- The nodes with identities that count up from `next`, and the first number after them. -/
def numberAll : List Node → NodeId → List Node × NodeId
  | [], next => ([], next)
  | node :: rest, next =>
    let node := number node next
    let rest := numberAll rest node.2
    (node.1 :: rest.1, rest.2)

end

mutual

/-- How many calls lie inside one another at most. -/
def callDepth : Node → Nat
  | text .. => 0
  | template _ _ _ parts => callDepthAll parts
  | conditional _ _ test yes no => max (callDepth test) (max (callDepth yes) (callDepth no))
  | paren _ inner => callDepth inner
  | name .. => 0
  | call _ callee arguments _ => max (callDepth callee) (callDepthAll arguments) + 1
  | atom .. => 0
  | unary _ _ inner => callDepth inner
  | binary _ _ left right => max (callDepth left) (callDepth right)
  | group _ _ items => callDepthAll items

/-- How many calls lie inside one another at most in any of the nodes. -/
def callDepthAll : List Node → Nat
  | [] => 0
  | node :: rest => max (callDepth node) (callDepthAll rest)

end

mutual

/-- All calls of a node in the order of a walk: a call before the calls inside it, and otherwise in
the order of the source. -/
def calls : Node → List Node
  | text .. => []
  | template _ _ _ parts => callsAll parts
  | conditional _ _ test yes no => calls test ++ calls yes ++ calls no
  | paren _ inner => calls inner
  | name .. => []
  | call span callee arguments optional =>
    call span callee arguments optional :: (calls callee ++ callsAll arguments)
  | atom .. => []
  | unary _ _ inner => calls inner
  | binary _ _ left right => calls left ++ calls right
  | group _ _ items => callsAll items

/-- All calls of the nodes. -/
def callsAll : List Node → List Node
  | [] => []
  | node :: rest => calls node ++ callsAll rest

end

/-- The nodes changed one after the other with a state that goes from one to the next. -/
def thread {σ : Type} (f : Node → σ → Node × σ) : List Node → σ → List Node × σ
  | [], s => ([], s)
  | node :: rest, s =>
    let node := f node s
    let rest := thread f rest node.2
    (node.1 :: rest.1, rest.2)

/-- What becomes of a call, given by its parts, and of a state. -/
abbrev CallStep (σ : Type) := Span → Node → List Node → Bool → σ → Node × σ

mutual

/-- The node with each outermost call changed by `f`, in the order of the source. -/
def onCalls {σ : Type} (f : CallStep σ) : Node → σ → Node × σ
  | text id span value lone, s => (text id span value lone, s)
  | template id span quasis parts, s =>
    let parts := onCallsAll f parts s
    (template id span quasis parts.1, parts.2)
  | conditional id span test yes no, s =>
    let test := onCalls f test s
    let yes := onCalls f yes test.2
    let no := onCalls f no yes.2
    (conditional id span test.1 yes.1 no.1, no.2)
  | paren span inner, s =>
    let inner := onCalls f inner s
    (paren span inner.1, inner.2)
  | name span value, s => (name span value, s)
  | call span callee arguments optional, s => f span callee arguments optional s
  | atom span value, s => (atom span value, s)
  | unary span form inner, s =>
    let inner := onCalls f inner s
    (unary span form inner.1, inner.2)
  | binary span form left right, s =>
    let left := onCalls f left s
    let right := onCalls f right left.2
    (binary span form left.1 right.1, right.2)
  | group span form items, s =>
    let items := onCallsAll f items s
    (group span form items.1, items.2)

/-- The nodes with each outermost call changed by `f`, in the order of the source. -/
def onCallsAll {σ : Type} (f : CallStep σ) : List Node → σ → List Node × σ
  | [], s => ([], s)
  | node :: rest, s =>
    let node := onCalls f node s
    let rest := onCallsAll f rest node.2
    (node.1 :: rest.1, rest.2)

end

end Node

end ImageFallback
