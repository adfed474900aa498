import ImageFallback.Text.LowerCase

/-!
# Log levels

How much of what happens is shown. The levels are in order: a level shows everything that the levels
before it show.
-/

namespace ImageFallback

/-- How much is shown. -/
inductive Level where
  | silent
  | error
  | warn
  | info
  | debug
  | trace
  deriving DecidableEq, Repr

namespace Level

/-- The usual level. -/
def usual : Level := info

/-- The name under which a level is shown. -/
def shown : Level → String
  | silent => "off"
  | error => "error"
  | warn => "warn"
  | info => "info"
  | debug => "debug"
  | trace => "trace"

/-- The place of a level in the order. -/
def rank : Level → Nat
  | silent => 0
  | error => 1
  | warn => 2
  | info => 3
  | debug => 4
  | trace => 5

/-- The level that a word in small letters names. -/
def ofWord? : String → Option Level
  | "silent" => some silent
  | "off" => some silent
  | "error" => some error
  | "warn" => some warn
  | "warning" => some warn
  | "info" => some info
  | "debug" => some debug
  | "trace" => some trace
  | _ => none

/-- Reads a level in letters of either case; the message shows what was read in small letters. -/
def read (text : String) : Except String Level :=
  let word := Text.toLower text
  match ofWord? word with
  | some level => .ok level
  | none => .error ("Invalid log level: " ++ word)

end Level

end ImageFallback
