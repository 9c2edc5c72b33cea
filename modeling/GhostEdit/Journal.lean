/-!
# The journal

What the library tells about its work: log records, each with a severity and the channel it
belongs to, and notices meant for the user. Functions that only compute return their records
beside the result; a session collects records and notices in the order in which they arise.

## Main definitions

* `Severity`, `Channel`, `Record`
* `Entry`: a record or a notice
-/

namespace GhostEdit

/-- How serious a record is. -/
inductive Severity where
  | debug
  | info
  | warning
  | error
deriving DecidableEq, Repr, Inhabited

namespace Severity

/-- The number that thresholds compare. -/
def level : Severity → Nat
  | .debug => 10
  | .info => 20
  | .warning => 30
  | .error => 40

/-- The name in a written record. -/
def label : Severity → String
  | .debug => "DEBUG"
  | .info => "INFO"
  | .warning => "WARNING"
  | .error => "ERROR"

end Severity

/-- The part of the library a record comes from. -/
inductive Channel where
  | answers
  | chunks
  | cache
  | debounce
  | overlay
  | edits
  | session
  | provider
  | ignore
  | buffers
  | keys
  | faults
deriving DecidableEq, Repr, Inhabited

/-- The name of a channel in a written record. -/
def Channel.name : Channel → String
  | .answers => "suggest.parser"
  | .chunks => "suggest.chunker"
  | .cache => "suggest.cache"
  | .debounce => "suggest.debounce"
  | .overlay => "suggest.renderer"
  | .edits => "suggest.applier"
  | .session => "suggest.manager"
  | .provider => "ai.client"
  | .ignore => "editor.ignore"
  | .buffers => "editor.buffers"
  | .keys => "editor.keys"
  | .faults => "cli_ai_suggest"

/-- One log record. -/
structure Record where
  severity : Severity
  channel : Channel
  message : String
deriving DecidableEq, Inhabited

/-- One line of the journal. -/
inductive Entry where
  /-- A log record. -/
  | log (record : Record)
  /-- A message shown to the user, with its level. -/
  | notice (message : String) (level : Int)
deriving DecidableEq, Inhabited

namespace Entry

/-- The record, if the entry is one. -/
def record? : Entry → Option Record
  | .log r => some r
  | .notice _ _ => none

/-- The message and level, if the entry is a notice. -/
def notice? : Entry → Option (String × Int)
  | .log _ => none
  | .notice message level => some (message, level)

end Entry

end GhostEdit
