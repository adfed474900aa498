import ImageFallback.Log.Event
import ImageFallback.Log.Pattern
import ImageFallback.Text.Alphabetic
import ImageFallback.Text.Blank
import ImageFallback.Text.Numeric
import ImageFallback.Text.Slice
import ImageFallback.Text.Split

/-!
# Log filters

A filter is a list of rules between commas. A rule gives a level for everything, or for the events
whose origin starts with a given text, or for those that tell a detail of a given name, or both:
`origin[{detail}]=level`. Without a level it shows everything that it is about. A rule may also be
about a named scope, `origin[scope]`, or about the value of a detail, `[{detail=pattern}]`; such
rules look at scopes, of which events have none, so they count as rules and show nothing.

Of the rules that apply to an event the one with the longest origin decides, and an event to which
none applies is dropped. A rule that cannot be understood is left out, and a filter without rules
falls back on one level for everything.
-/

namespace ImageFallback

/-- A level for the events whose origin starts with `target` and that tell the detail, if one is
named. A rule about scopes shows no event. -/
structure FilterRule where
  target : String
  detail : Option String := none
  ofScope : Bool := false
  level : Level
  deriving DecidableEq, Repr

namespace FilterRule

/-- The place of a level in the order, written in decimal. -/
def place? (text : String) : Option Nat :=
  let digits := match text.toList with
    | '+' :: rest => rest
    | cs => cs
  if !digits.isEmpty && digits.all Char.isDigit then
    some (digits.foldl (fun n c => 10 * n + (c.toNat - '0'.toNat)) 0)
  else none

/-- A level by its name in letters of either case or by its place in the order. -/
def level? (text : String) : Option Level :=
  let name := String.ofList (text.toList.map Char.toLower)
  [.silent, .error, .warn, .info, .debug, .trace].find? fun (level : Level) =>
    level.shown == name || place? text == some level.rank

/-- What is being read of a rule, with the place where it starts. -/
inductive Part where
  | nothing
  | word (start : Nat)
  | scope (start : Nat)
  | detail (start : Nat)
  /-- The details are complete. -/
  | details
  /-- The brackets are closed. -/
  | closed
  | level (start : Nat)
  deriving DecidableEq, Repr

/-- What is known of a rule while it is read. -/
structure Reading where
  part : Part := .nothing
  target : String := ""
  detail : Option String := none
  ofScope : Bool := false
  deriving DecidableEq, Repr

namespace Reading

/-- The name of a detail, with whether a pattern for its value follows. -/
def named? (text : String) : Option (String × Bool) :=
  match Text.split '=' text with
  | name :: pattern :: _ => if Pattern.isWellFormed pattern then some (name, true) else none
  | [name] => if name.isEmpty then none else some (name, false)
  | [] => none

/-- Reads the character at a place of the rule. -/
def step (rule : String) (place : Nat) (c : Char) (reading : Reading) : Option Reading := do
  match reading.part with
  | .nothing =>
    if c == '[' then return { reading with part := .scope (place + 1) }
    else if c == '-' || c == ':' || c == '_' || Text.isAlphabetic c || Text.isNumeric c then
      return { reading with part := .word place }
    else none
  | .word start =>
    if c == '=' then
      let target ← Text.slice? rule start place
      return { reading with part := .level (place + 1), target := target }
    else if c == '[' then
      let target ← Text.slice? rule start place
      return { reading with part := .scope (place + 1), target := target }
    else return reading
  | .scope start =>
    if c == ']' then return { reading with part := .closed, ofScope := true }
    else if c == '\x7b' then
      let scope ← Text.slice? rule start place
      return { reading with part := .detail (place + 1), ofScope := !scope.isEmpty }
    else return reading
  | .detail start =>
    if c == '\x7d' then
      let text ← Text.slice? rule start place
      let (name, hasPattern) ← named? text
      return { reading with
        part := .details, detail := some name, ofScope := reading.ofScope || hasPattern }
    else return reading
  | .details => if c == ']' then return { reading with part := .closed } else none
  | .closed => if c == '=' then return { reading with part := .level (place + 1) } else none
  | .level _ => return reading

/-- Reads on from a place of the rule. -/
def steps (rule : String) : Nat → List Char → Reading → Option Reading
  | _, [], reading => some reading
  | place, c :: rest, reading =>
    (reading.step rule place c).bind (steps rule (place + c.utf8Size) rest)

/-- The rule that was read, once its end is reached. A single word is a level or else an origin. -/
def finish? (rule : String) (reading : Reading) : Option FilterRule := do
  match reading.part with
  | .word start =>
    let word ← Text.slice? rule start rule.utf8ByteSize
    match level? word with
    | some level => return { target := "", level := level }
    | none => return { target := word, level := .trace }
  | .level start =>
    let word ← Text.slice? rule start rule.utf8ByteSize
    let level ← if word.isEmpty then some .trace else level? word
    return { reading with level := level }
  | .closed => return { reading with level := .trace }
  | _ => none

end Reading

/-- Reads a rule. The places of its parts are found without the blanks around the rule, but the
parts are cut from the rule with its blanks: those that stand before it shift every part. -/
def read? (rule : String) : Option FilterRule := do
  let reading ← Reading.steps rule 0 (Text.trim rule).toList {}
  reading.finish? rule

/-- The rule is about the event. -/
def applies (rule : FilterRule) (event : Event) : Bool :=
  !rule.ofScope && rule.target.toList.isPrefixOf event.target.toList &&
    rule.detail.all fun name => event.names.contains name

/-- The second rule has precedence: its origin is longer, or as long and it names a detail, of two
details the later one by name. -/
def yields (rule other : FilterRule) : Bool :=
  rule.target.length < other.target.length ||
    (rule.target.length == other.target.length &&
      match rule.detail, other.detail with
      | none, some _ => true
      | some name, some later => name < later
      | _, none => false)

end FilterRule

/-- The rules in force. -/
abbrev Filter := List FilterRule

namespace Filter

/-- The filter that a text describes, or one level for everything if it has no rule. -/
def ofText (fallback : Level) (text : String) : Filter :=
  match (Text.split ',' text).filterMap FilterRule.read? with
  | [] => [{ target := "", level := fallback }]
  | rules => rules

/-- The filter that is in force once logging was asked for the given number of times, each time with
a level or with none: only the first time counts, and rules have precedence over its level. -/
def start? (asked : List (Option Level)) (rules : Option String) : Option Filter :=
  asked.head?.map fun level => ofText (level.getD Level.usual) (rules.getD "")

/-- The rule that decides about an event: of those that apply the one that yields to no other, and
of equal ones the last. -/
def deciding (filter : Filter) (event : Event) : Option FilterRule :=
  filter.foldl (fun best rule =>
    if rule.applies event then
      match best with
      | some old => if rule.yields old then best else some rule
      | none => some rule
    else best) none

/-- Whether an event is shown. -/
def shows (filter : Filter) (event : Event) : Bool :=
  match filter.deciding event with
  | some rule => event.level.rank ≤ rule.level.rank
  | none => false

/-- The lines of the log for the events that are shown; without a filter there are none. -/
def lines (filter : Option Filter) (events : List Event) : List String :=
  match filter with
  | some filter => (events.filter filter.shows).flatMap Event.lines
  | none => []

end Filter

end ImageFallback
