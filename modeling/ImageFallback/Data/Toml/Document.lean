import ImageFallback.Data.Toml.Scalar

/-!
# TOML documents

A document is a sequence of lines that build one table. `Item` is a table under construction: it
remembers how each table came to be, because a table may be opened by a header once, a table that
was only passed through on the way to another one may still be opened, and the parts of a dotted key
make tables that only dotted keys extend. Lists and maps written as values are closed. What breaks
one of these rules, or the grammar, is no document.

The value of a moment is a map with one key of its own. The second edition cannot tell such a map
from one that a document spells out with that key, and reads it as a moment too.
-/

namespace ImageFallback.Toml

/-- How a table came to be. -/
inductive Origin where
  /-- Passed through by the header of another table. -/
  | passed
  /-- Made by the parts of a dotted key. -/
  | dotted
  /-- Opened by its own header. -/
  | opened
  deriving DecidableEq

/-- A part of a document under construction. -/
inductive Item where
  | value (v : Value)
  | table (origin : Origin) (entries : List (String × Item))
  /-- The tables of a list, the newest first. -/
  | tables (elements : List (List (String × Item)))

/-- The entries of a table. -/
abbrev Entries := List (String × Item)

namespace Item

/-- The item under a key. -/
def entry? (key : String) : Entries → Option Item
  | [] => none
  | (k, item) :: rest => if k = key then some item else entry? key rest

/-- The entries with `item` under `key`, in the place of the item that stood there. -/
def set (key : String) (item : Item) : Entries → Entries
  | [] => [(key, item)]
  | (k, old) :: rest => if k = key then (key, item) :: rest else (k, old) :: set key item rest

/-- Changes the table at the end of a path; missing tables on the way are made. Only a header may
pass through a table that a header has opened, and both take the newest table of a list. -/
def change (dotted : Bool) (f : Origin → Entries → Option Entries) :
    List String → Origin → Entries → Option Entries
  | [], origin, entries => f origin entries
  | key :: path, _, entries =>
    match entry? key entries with
    | none => do
      let origin := if dotted then Origin.dotted else Origin.passed
      let inner ← change dotted f path origin []
      return set key (.table origin inner) entries
    | some (.table origin inner) =>
      if dotted && origin == .opened then none
      else do
        let inner ← change dotted f path origin inner
        return set key (.table origin inner) entries
    | some (.tables (newest :: older)) => do
      let newest ← change dotted f path .opened newest
      return set key (.tables (newest :: older)) entries
    | some _ => none

/-- Changes the table that the last header opened. -/
def within (f : Entries → Option Entries) : List String → Entries → Option Entries
  | [], entries => f entries
  | key :: path, entries =>
    match entry? key entries with
    | some (.table origin inner) => do
      let inner ← within f path inner
      return set key (.table origin inner) entries
    | some (.tables (newest :: older)) => do
      let newest ← within f path newest
      return set key (.tables (newest :: older)) entries
    | _ => none

/-- Sets a dotted key of a table. -/
def assign (key : List String) (value : Value) (entries : Entries) : Option Entries :=
  match key.getLast? with
  | none => none
  | some last =>
    let path := key.dropLast
    change true (fun origin inner =>
      if !path.isEmpty && origin != .dotted then none
      else match entry? last inner with
        | some _ => none
        | none => some (set last (.value value) inner)) path .opened entries

/-- Opens the table of a header. -/
def openTable (key : List String) (entries : Entries) : Option Entries :=
  match key.getLast? with
  | none => none
  | some last =>
    change false (fun _ inner =>
      match entry? last inner with
      | none => some (set last (.table .opened []) inner)
      | some (.table .passed old) => some (set last (.table .opened old) inner)
      | some _ => none) key.dropLast .opened entries

/-- Adds a table to the list of a header. -/
def addTable (key : List String) (entries : Entries) : Option Entries :=
  match key.getLast? with
  | none => none
  | some last =>
    change false (fun _ inner =>
      match entry? last inner with
      | none => some (set last (.tables [[]]) inner)
      | some (.tables elements) => some (set last (.tables ([] :: elements)) inner)
      | some _ => none) key.dropLast .opened entries

mutual

/-- The value of a finished item. -/
def toValue : Item → Value
  | .value v => v
  | .table _ entries => Value.ofFields (toFields entries)
  | .tables elements => .list (toMaps elements).reverse

/-- The fields of a finished table. -/
def toFields : Entries → List (String × Value)
  | [] => []
  | (key, item) :: rest => (key, toValue item) :: toFields rest

/-- The finished tables of a list. -/
def toMaps : List Entries → List Value
  | [] => []
  | entries :: rest => Value.ofFields (toFields entries) :: toMaps rest

end

end Item

/-! ## Values -/

/-- What follows a comment; no control character may stand in it. -/
def comment? (cs : List Char) : Option (List Char) :=
  let body := cs.takeWhile (fun c => c != '\n' && c != '\r')
  let rest := cs.dropWhile (fun c => c != '\n' && c != '\r')
  if body.any isControl then none
  else if rest.isEmpty || (lineBreak? rest).isSome then some rest else none

/-- Drops blanks, line breaks and comments. -/
def skipFiller : Nat → List Char → Option (List Char)
  | 0, cs => some cs
  | fuel + 1, cs =>
    match skipLines cs with
    | '#' :: rest => (comment? rest).bind (skipFiller fuel)
    | rest => some rest

/-- Drops what may stand between the parts of a map: blanks, and in the second edition line breaks
and comments too. -/
def Edition.skipInMap? (edition : Edition) (cs : List Char) : Option (List Char) :=
  match edition with
  | .first => some (skipSpace cs)
  | .second => skipFiller cs.length cs

mutual

/-- A value, in which lists and maps lie up to `depth` deep. -/
def value? (edition : Edition) : Nat → Nat → List Char → Option (Value × List Char)
  | _, 0, _ => none
  | depth, fuel + 1, cs =>
    match cs, depth with
    | '[' :: rest, depth + 1 =>
      (items? edition depth fuel rest).map fun r => (Value.list r.1, r.2)
    | '\x7b' :: rest, depth + 1 =>
      (pairs? edition depth fuel [] rest).map fun r => (Value.ofFields (Item.toFields r.1), r.2)
    | c :: rest, _ =>
      if c == '"' || c == '\'' then (text? edition (c :: rest)).map fun r => (Value.text r.1, r.2)
      else
        let (characters, rest) := run (c :: rest)
        (scalarOf? edition characters).map (·, rest)
    | [], _ => none

/-- The items of a list, over several lines and with a comma after the last one or not. -/
def items? (edition : Edition) : Nat → Nat → List Char → Option (List Value × List Char)
  | _, 0, _ => none
  | depth, fuel + 1, cs => do
    match ← skipFiller cs.length cs with
    | ']' :: rest => return ([], rest)
    | cs =>
      let (item, rest) ← value? edition depth fuel cs
      match ← skipFiller rest.length rest with
      | ',' :: rest =>
        let (items, rest) ← items? edition depth fuel rest
        return (item :: items, rest)
      | ']' :: rest => return ([item], rest)
      | _ => none

/-- The pairs of a map written as a value that follow those read so far. The first edition lets no
comma stand after the last pair. -/
def pairs? (edition : Edition) : Nat → Nat → Entries → List Char → Option (Entries × List Char)
  | _, 0, _, _ => none
  | depth, fuel + 1, entries, cs => do
    match ← edition.skipInMap? cs with
    | '\x7d' :: rest =>
      if entries.isEmpty || edition = .second then return (entries, rest) else none
    | cs =>
      let (key, rest) ← key? edition cs
      let rest ← Json.word? "=" (← edition.skipInMap? rest)
      let (value, rest) ← value? edition depth fuel (← edition.skipInMap? rest)
      let entries ← Item.assign key value entries
      match ← edition.skipInMap? rest with
      | ',' :: rest => pairs? edition depth fuel entries rest
      | '\x7d' :: rest => return (entries, rest)
      | _ => none

end

/-! ## Lines -/

/-- The next line after an optional comment, or nothing when something else stands on this one. -/
def lineEnd? (cs : List Char) : Option (List Char) := do
  let rest ← match skipSpace cs with
    | '#' :: rest => comment? rest
    | rest => some rest
  if rest.isEmpty then return [] else lineBreak? rest

/-- The lines of a document from a table under construction and the header that is in force. -/
def lines? (edition : Edition) : Nat → List String → Entries → List Char → Option Entries
  | 0, _, _, _ => none
  | fuel + 1, header, entries, cs =>
    match skipSpace cs with
    | [] => some entries
    | '[' :: '[' :: rest => do
      let (key, rest) ← key? edition rest
      let rest ← Json.word? "]]" rest
      let rest ← lineEnd? rest
      let entries ← Item.addTable key entries
      lines? edition fuel key entries rest
    | '[' :: rest => do
      let (key, rest) ← key? edition rest
      let rest ← Json.word? "]" rest
      let rest ← lineEnd? rest
      let entries ← Item.openTable key entries
      lines? edition fuel key entries rest
    | '#' :: rest => do
      let rest ← lineEnd? ('#' :: rest)
      lines? edition fuel header entries rest
    | cs =>
      match lineBreak? cs with
      | some rest => lines? edition fuel header entries rest
      | none => do
        let (key, rest) ← key? edition cs
        let rest ← Json.word? "=" rest
        let (value, rest) ← value? edition edition.depth (2 * rest.length + 2) (skipSpace rest)
        let rest ← lineEnd? rest
        let entries ← Item.within (Item.assign key value) header entries
        lines? edition fuel header entries rest

/-! ## Maps that stand for moments -/

mutual

/-- The value with each map whose first key is the key of a moment taken for one: the key has to
hold the text of a moment, and the other fields are lost. -/
def settle? : Value → Option Value
  | .map fields =>
    match fields with
    | (key, value) :: rest =>
      if key = momentKey then
        match value with
        | .text text =>
          if isMoment .second text.toList then some (.map [(key, .text text)]) else none
        | _ => none
      else (settleFields? ((key, value) :: rest)).map .map
    | [] => some (.map [])
  | .list items => (settleItems? items).map .list
  | .null => some .null
  | .bool b => some (.bool b)
  | .natural n => some (.natural n)
  | .integer i => some (.integer i)
  | .real x => some (.real x)
  | .text s => some (.text s)

/-- The fields of a map with the maps in them taken for moments. -/
def settleFields? : List (String × Value) → Option (List (String × Value))
  | [] => some []
  | (key, value) :: rest => do
    let value ← settle? value
    return (key, value) :: (← settleFields? rest)

/-- The items of a list with the maps in them taken for moments. -/
def settleItems? : List Value → Option (List Value)
  | [] => some []
  | item :: rest => do
    let item ← settle? item
    return item :: (← settleItems? rest)

end

/-- Reads a document; a byte order mark may stand at its start. In the second edition a map can
stand for a moment. -/
def read? (edition : Edition) (text : String) : Option Value := do
  let cs := match text.toList with
    | c :: rest => if c.toNat == 0xFEFF then rest else c :: rest
    | [] => []
  let entries ← lines? edition (cs.length + 1) [] [] cs
  let value := Value.ofFields (Item.toFields entries)
  if edition = .second then settle? value else return value

end ImageFallback.Toml
