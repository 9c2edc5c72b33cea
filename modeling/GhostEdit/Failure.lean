import GhostEdit.Journal
import GhostEdit.Text.Utf8
import GhostEdit.Value.Display

/-!
# Failures

A *fault* is a failure the library itself names; its kind fixes a code, how seriously it is
logged and whether the user hears of it. Every other failure is a cause of its own: a buffer
that does not exist, an index out of range, something a collaborator raised.

## Main definitions

* `FaultKind`, `Fault`
* `Mismatch`, `Excess`: values of a kind, or of a size, that an operation cannot use
* `Failure`, `Failure.message`: every cause, and how it is told

## Main results

* `bind_eq_ok`, `bind_eq_error`, `map_eq_ok`, `map_eq_error`: where a result comes from
-/

namespace GhostEdit

/-- The kinds of faults. -/
inductive FaultKind where
  | general
  | invalidInput
  | responseDecode
  | processing
  | providerConnection
  | cacheFailure
deriving DecidableEq, Repr, Inhabited

namespace FaultKind

/-- The code shown in front of the message. -/
def code : FaultKind → String
  | .general => "UNKNOWN"
  | .invalidInput => "INVALID_INPUT"
  | .responseDecode => "RESPONSE_DECODE_ERROR"
  | .processing => "PROCESSING_ERROR"
  | .providerConnection => "PROVIDER_CONNECTION_ERROR"
  | .cacheFailure => "CACHE_FAILURE"

/-- How seriously the fault is logged. -/
def severity : FaultKind → Severity
  | .invalidInput => .debug
  | .cacheFailure => .warning
  | _ => .error

/-- Whether the fault reaches the user and not only the log. -/
def surfaced : FaultKind → Bool
  | .invalidInput => false
  | .cacheFailure => false
  | _ => true

end FaultKind

/-- A failure that the library itself names. -/
structure Fault where
  kind : FaultKind
  message : String
  /-- Named details. -/
  details : List (String × Value) := []
  /-- The text that could not be decoded. -/
  text : Text := []
deriving Inhabited

/-- A value of a kind that an operation cannot use. -/
inductive Mismatch where
  /-- Two kinds have no order. -/
  | noOrder (sign left right : String)
  /-- Two kinds have no sum. -/
  | noSum (left right : String)
  /-- A list and a value of the given kind have no sum. -/
  | noListSum (kind : String)
  /-- A value has no negative. -/
  | noNegative (kind : String)
  /-- A bound has to be an integer. -/
  | notInteger
  /-- A place in a list has to be an integer. -/
  | notIndex
  | notIterable (kind : String)
  /-- A value has no elements to look at. -/
  | noElements (kind : String)
  | noLength (kind : String)
  /-- A value cannot serve as a name. -/
  | notName (kind : String)
  /-- A key name has to be a text. -/
  | notKeyName (kind : String)
  /-- A glob has to be a text. -/
  | notGlob (kind : String)
  /-- The start of a text has to be a text. -/
  | notStart (kind : String)
  /-- A level has to be an integer or a name. -/
  | notLevel (shown : String)
  /-- A row to be joined with others is no text. -/
  | notText (index : Nat) (kind : String)
  /-- A value of the given kind cannot be written. -/
  | notWritable (kind : String)
deriving DecidableEq, Inhabited

/-- What is told about a value of a wrong kind. -/
def Mismatch.message : Mismatch → String
  | .noOrder sign left right =>
    s!"'{sign}' not supported between instances of '{left}' and '{right}'"
  | .noSum left right => s!"unsupported operand type(s) for +: '{left}' and '{right}'"
  | .noListSum kind => s!"can only concatenate list (not \"{kind}\") to list"
  | .noNegative kind => s!"bad operand type for unary -: '{kind}'"
  | .notInteger => "an integer is required"
  | .notIndex => "slice indices must be integers or None or have an __index__ method"
  | .notIterable kind => s!"'{kind}' object is not iterable"
  | .noElements kind => s!"'{kind}' object is not subscriptable"
  | .noLength kind => s!"object of type '{kind}' has no len()"
  | .notName kind => s!"unhashable type: '{kind}'"
  | .notKeyName kind => s!"expected string or bytes-like object, got '{kind}'"
  | .notGlob kind => s!"expected str, bytes or os.PathLike object, not {kind}"
  | .notStart kind => s!"startswith first arg must be str or a tuple of str, not {kind}"
  | .notLevel shown => s!"Level not an integer or a valid string: {shown}"
  | .notText index kind => s!"sequence item {index}: expected str instance, {kind} found"
  | .notWritable kind => s!"Object of type '{kind}' is not TOML serializable"

/-- A number that is too large for what it is needed for. -/
inductive Excess where
  /-- An integer has no binary64 number near it. -/
  | conversion
  /-- A quotient of integers has none. -/
  | quotient
  /-- A bound does not fit a machine word. -/
  | bound
  /-- An infinite number has no integer part. -/
  | infinite
deriving DecidableEq, Inhabited

/-- What is told about a number that is too large. -/
def Excess.message : Excess → String
  | .conversion => "int too large to convert to float"
  | .quotient => "integer division result too large for a float"
  | .bound => "Python int too large to convert to C ssize_t"
  | .infinite => "cannot convert float infinity to integer"

/-- Why an operation failed. -/
inductive Failure where
  | fault (f : Fault)
  /-- A value has the wrong kind. -/
  | mismatch (m : Mismatch)
  /-- A number is too large. -/
  | excess (e : Excess)
  /-- What is no number has no integer part. -/
  | notANumber
  /-- No buffer has this name. -/
  | unknownBuffer (id : String)
  /-- The buffer refuses edits. -/
  | readOnly (id : String)
  /-- The buffer belongs to no file. -/
  | noFile (id : String)
  /-- A value of the given kind has no such field. -/
  | noField (kind field : String)
  /-- An index is outside its list, or its tuple. -/
  | outOfRange (tuple : Bool)
  /-- A cursor has the wrong number of coordinates. -/
  | wrongArity (got : Nat)
  /-- A text cannot be encoded. -/
  | notEncodable
  /-- A file is missing. -/
  | fileMissing
  /-- A directory stands where a file should. -/
  | isDirectory
  /-- A file stands where a directory should. -/
  | notDirectory
  /-- A file stands where a directory should be made. -/
  | alreadyExists
  /-- A name is too long for a file. -/
  | nameTooLong
  /-- A path has a null character. -/
  | nullCharacter
  /-- The bytes of a file are no text. -/
  | notDecodable (flaw : Utf8.Flaw)
  /-- An integer has too many digits. -/
  | oversized (digits : Nat)
  /-- An integer has too many digits to be written. -/
  | longInteger
  /-- A glob without a component. -/
  | emptyPattern
  /-- A bounded store cannot have a negative bound. -/
  | negativeBound
  /-- A name that stands for no key. -/
  | unsupportedKey (name : String)
  /-- A key that does not exist. -/
  | invalidKey (key : String)
  /-- A style is missing. -/
  | missingStyle (name : String)
  /-- A key for a service is not set. -/
  | keyNotSet (name : String)
  /-- An address cannot be used. -/
  | badAddress (message : String)
  /-- Something a collaborator raised, with the name of its kind. -/
  | raised (kind message : String)
deriving Inhabited

namespace Failure

/-- A fault as a failure. -/
def ofFault (kind : FaultKind) (message : String) (details : List (String × Value)) : Failure :=
  .fault { kind, message, details }

/-- What is told about a failure. -/
def message : Failure → String
  | .fault f => f.message
  | .unknownBuffer id => s!"Unknown buffer: {id}"
  | .readOnly id => s!"Buffer {id} is not modifiable"
  | .noFile id => s!"Buffer {id} has no file path"
  | .mismatch m => m.message
  | .excess e => e.message
  | .notANumber => "cannot convert float NaN to integer"
  | .noField kind field => s!"'{kind}' object has no attribute '{field}'"
  | .outOfRange false => "list index out of range"
  | .outOfRange true => "tuple index out of range"
  | .wrongArity got =>
    if got < 2 then s!"not enough values to unpack (expected 2, got {got})"
    else "too many values to unpack (expected 2)"
  | .notEncodable => "surrogates not allowed"
  | .fileMissing => "No such file or directory"
  | .isDirectory => "Is a directory"
  | .notDirectory => "Not a directory"
  | .alreadyExists => "File exists"
  | .nameTooLong => "File name too long"
  | .nullCharacter => "embedded null byte"
  | .notDecodable flaw => flaw.message
  | .oversized digits =>
    s!"Exceeds the limit (4300 digits) for integer string conversion: value has {digits} " ++
      "digits; use sys.set_int_max_str_digits() to increase the limit"
  | .longInteger =>
    "Exceeds the limit (4300 digits) for integer string conversion; use " ++
      "sys.set_int_max_str_digits() to increase the limit"
  | .emptyPattern => "empty pattern"
  | .negativeBound => "maxlen must be non-negative"
  | .unsupportedKey name => s!"Unsupported key: {name}"
  | .invalidKey key => s!"Invalid key: {key}"
  | .missingStyle name => name
  | .keyNotSet name => s!"{name} not set"
  | .badAddress message => message
  | .raised _ message => message

/-- The message as other messages quote it: a missing name stands between quotes. -/
def quotedMessage (f : Failure) : String :=
  match f with
  | .unknownBuffer _ | .missingStyle _ | .raised "KeyError" _ =>
    String.ofList (Text.quoted f.message.toList)
  | _ => f.message

end Failure

/-! ## Results that may be failures -/

theorem bind_eq_ok {ε α β : Type} {x : Except ε α} {f : α → Except ε β} {r : β}
    (h : x >>= f = .ok r) : ∃ a, x = .ok a ∧ f a = .ok r := by
  cases x with
  | error e => cases h
  | ok a => exact ⟨a, rfl, h⟩

theorem bind_eq_error {ε α β : Type} {x : Except ε α} {f : α → Except ε β} {e : ε}
    (h : x >>= f = .error e) : x = .error e ∨ ∃ a, x = .ok a ∧ f a = .error e := by
  cases x with
  | error e =>
    cases h
    exact .inl rfl
  | ok a => exact .inr ⟨a, rfl, h⟩

theorem map_eq_ok {ε α β : Type} {x : Except ε α} {f : α → β} {r : β} (h : x.map f = .ok r) :
    ∃ a, x = .ok a ∧ f a = r := by
  cases x with
  | error e => cases h
  | ok a =>
    cases h
    exact ⟨a, rfl, rfl⟩

theorem map_eq_error {ε α β : Type} {x : Except ε α} {f : α → β} {e : ε}
    (h : x.map f = .error e) : x = .error e := by
  cases x with
  | error e =>
    cases h
    rfl
  | ok a => cases h

end GhostEdit
