import ImageFallback.Options.Basic
import ImageFallback.Options.Fault

/-!
# Options as values

An option has one canonical name and may have others. `Options.decode` reads options from a map of
such names, in the order of the keys: names of no option are passed over, an option may occur under
one name only, and what is missing has its default. A list gives the fields in the order of their
declaration, and a missing tail has its defaults. `Options.encode` writes all options under their
canonical names.

Whether a list may be longer than there are fields depends on who asks, so it is a parameter.
-/

namespace ImageFallback

/-- The options by name. -/
inductive Field where
  | extensions
  | target
  | ignoreMarker
  | inlineMarker
  | shapes
  | loader
  | predicate
  deriving DecidableEq, Repr

namespace Field

/-- All options in the order of their declaration. -/
def all : List Field :=
  [.extensions, .target, .ignoreMarker, .inlineMarker, .shapes, .loader, .predicate]

/-- The name under which an option is written. -/
def canonical : Field → String
  | .extensions => "recognized_extensions"
  | .target => "target_extension"
  | .ignoreMarker => "ignore_marker"
  | .inlineMarker => "inline_marker"
  | .shapes => "rewritable_shapes"
  | .loader => "loader"
  | .predicate => "support_predicate"

/-- All names under which an option is read. -/
def spellings : Field → List String
  | .extensions => ["recognized_extensions", "recognizedExtensions", "supportExt"]
  | .target => ["target_extension", "targetExtension"]
  | .ignoreMarker => ["ignore_marker", "ignoreMarker", "ignoreComment"]
  | .inlineMarker => ["inline_marker", "inlineMarker"]
  | .shapes => ["rewritable_shapes", "rewritableShapes", "childNodeType"]
  | .loader => ["loader"]
  | .predicate => ["support_predicate", "supportPredicate"]

/-- The option that a key names. -/
def ofKey? (key : String) : Option Field := all.find? (·.spellings.contains key)

end Field

/-- The shapes by name. -/
inductive Switch where
  | string
  | template
  | conditional
  deriving DecidableEq, Repr

namespace Switch

/-- All shapes in the order of their declaration. -/
def all : List Switch := [.string, .template, .conditional]

/-- The name under which a shape is written. -/
def canonical : Switch → String
  | .string => "StringLiteral"
  | .template => "TemplateLiteral"
  | .conditional => "ConditionalExpression"

/-- All names under which a shape is read. -/
def spellings : Switch → List String
  | .string => ["StringLiteral", "string_literal"]
  | .template => ["TemplateLiteral", "template_literal"]
  | .conditional => ["ConditionalExpression", "conditional_expression"]

/-- The shape that a key names. -/
def ofKey? (key : String) : Option Switch := all.find? (·.spellings.contains key)

end Switch

/-- How strict a reader of options is about lists that are too long. -/
inductive Excess where
  | refused
  | ignored
  deriving DecidableEq, Repr

namespace Decode

/-- Reads a text. -/
def text : Value → Except Fault String
  | .text s => .ok s
  | found => .error (.wrongType [] found .text)

/-- Reads a truth value. -/
def truth : Value → Except Fault Bool
  | .bool b => .ok b
  | found => .error (.wrongType [] found .truth)

/-- A result whose fault lies one step further in. -/
def under {α : Type} (step : Value.Step) (result : Except Fault α) : Except Fault α :=
  result.mapError (·.under step)

/-- Reads the texts of a list, of which the first stands at `index`. -/
def textsFrom (index : Nat) : List Value → Except Fault (List String)
  | [] => .ok []
  | item :: rest => do
    let first ← under (.item index) (text item)
    let others ← textsFrom (index + 1) rest
    return first :: others

/-- Reads a list of texts. -/
def texts : Value → Except Fault (List String)
  | .list items => textsFrom 0 items
  | found => .error (.wrongType [] found .sequence)

/-- Reads the fields of a map in their order. `named` finds the field of a key, `seen` holds the
fields met so far, and `store` reads the value of a field. -/
def fields {φ σ : Type} [DecidableEq φ] (named : String → Option φ) (canonical : φ → String)
    (store : φ → Value → σ → Except Fault σ) :
    List φ → σ → List (String × Value) → Except Fault σ
  | _, state, [] => .ok state
  | seen, state, (key, value) :: rest =>
    match named key with
    | none => fields named canonical store seen state rest
    | some field =>
      if field ∈ seen then .error (.duplicate [] (canonical field))
      else do
        let state ← under (.key key) (store field value state)
        fields named canonical store (field :: seen) state rest

/-- Reads the items of a list as the given fields, of which the first stands at `index`. -/
def positions {φ σ : Type} (store : φ → Value → σ → Except Fault σ) :
    Nat → List φ → σ → List Value → Except Fault σ
  | index, field :: others, state, item :: rest => do
    let state ← under (.item index) (store field item state)
    positions store (index + 1) others state rest
  | _, _, state, _ => .ok state

/-- Reads a map or a list of fields. -/
def record {φ σ : Type} [DecidableEq φ] (excess : Excess) (wanted : Wanted) (all : List φ)
    (named : String → Option φ) (canonical : φ → String)
    (store : φ → Value → σ → Except Fault σ) (start : σ) : Value → Except Fault σ
  | .map entries => fields named canonical store [] start entries
  | .list items => do
    let state ← positions store 0 all start items
    if excess = .refused ∧ all.length < items.length then .error (.tooLong items.length)
    else return state
  | found => .error (.wrongType [] found wanted)

/-- Stores the value of one shape. -/
def storeSwitch (switch : Switch) (value : Value) (shapes : Shapes) : Except Fault Shapes := do
  let b ← truth value
  return match switch with
    | .string => { shapes with string := b }
    | .template => { shapes with template := b }
    | .conditional => { shapes with conditional := b }

/-- Reads the shapes. -/
def shapes (excess : Excess) (value : Value) : Except Fault Shapes :=
  record excess .shapes Switch.all Switch.ofKey? Switch.canonical storeSwitch {} value

/-- Stores the value of one option. -/
def storeField (excess : Excess) (field : Field) (value : Value) (options : Options) :
    Except Fault Options :=
  match field with
  | .extensions => (texts value).map fun v => { options with extensions := v }
  | .target => (text value).map fun v => { options with target := v }
  | .ignoreMarker => (text value).map fun v => { options with ignoreMarker := v }
  | .inlineMarker => (text value).map fun v => { options with inlineMarker := v }
  | .shapes => (shapes excess value).map fun v => { options with shapes := v }
  | .loader => (text value).map fun v => { options with loader := v }
  | .predicate => (text value).map fun v => { options with predicate := v }

end Decode

namespace Options

/-- Reads options from a value. -/
def decode (excess : Excess) (value : Value) : Except Fault Options :=
  Decode.record excess .options Field.all Field.ofKey? Field.canonical
    (Decode.storeField excess) {} value

/-- The shapes under their canonical names. -/
def encodeShapes (shapes : Shapes) : Value :=
  .map [
    ("ConditionalExpression", .bool shapes.conditional),
    ("StringLiteral", .bool shapes.string),
    ("TemplateLiteral", .bool shapes.template)]

/-- All options under their canonical names. -/
def encode (options : Options) : Value :=
  .map [
    ("ignore_marker", .text options.ignoreMarker),
    ("inline_marker", .text options.inlineMarker),
    ("loader", .text options.loader),
    ("recognized_extensions", .list (options.extensions.map Value.text)),
    ("rewritable_shapes", encodeShapes options.shapes),
    ("support_predicate", .text options.predicate),
    ("target_extension", .text options.target)]

end Options

end ImageFallback
