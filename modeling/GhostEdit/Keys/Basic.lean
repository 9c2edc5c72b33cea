import GhostEdit.Settings.Basic
import GhostEdit.Text.Casing
import GhostEdit.Value.Row

/-!
# Keys

Settings name keys as in `<M-l>`, `<C-]>` or `<Tab>`: modifiers, each a letter and a hyphen, and
then a named key or a character. A terminal sends a key with meta as an escape and then the key.
Keys that a terminal cannot tell apart have one name.

## Main definitions

* `Keys.sequence`: the key sequence of a name
* `Keys.canonical`: the one name of a key, if it exists
* `Action`, `Keys.bindings`: what the configured keys do
-/

namespace GhostEdit

namespace Keys

/-- The keys that go by a name. -/
def namedKeys : List (String × String) :=
  [("tab", "tab"), ("s-tab", "s-tab"), ("cr", "enter"), ("enter", "enter"), ("esc", "escape"),
   ("space", "space"), ("bs", "backspace"), ("up", "up"), ("down", "down"), ("left", "left"),
   ("right", "right")]

/-- The named key, whatever the case of its name. -/
def named? (key : Text) : Option Text :=
  (namedKeys.lookup (String.ofList key.lower)).map String.toList

/-- An ASCII letter. -/
def isLetter (c : Char) : Bool := c.isAlpha

/-- Take modifiers off the front, as long as something is left for the key. -/
def splitModifiers : Text → Text × Text
  | m :: '-' :: c :: rest =>
    if isLetter m then
      let (ms, key) := splitModifiers (c :: rest)
      (m :: ms, key)
    else ([], m :: '-' :: c :: rest)
  | t => ([], t)

/-- The inside of a name in angle brackets. A line feed after the name does not matter. -/
def inside? (name : Text) : Option Text :=
  match name with
  | '<' :: rest =>
    let inner := rest.takeWhile (· ≠ '>')
    if inner.isEmpty then none
    else
      match rest.dropWhile (· ≠ '>') with
      | ['>'] => some inner
      | ['>', '\n'] => some inner
      | _ => none
  | _ => none

/-- A key with its modifiers applied, where `base` is the key without them. -/
def modified (ctrl shift : Bool) (base : Text) : Text :=
  if ctrl then 'c' :: '-' :: base.lower
  else if shift && base = "tab".toList then "s-tab".toList
  else if shift && base.length = 1 then base.upper
  else base

/-- The key sequence of a name. -/
def sequence (name : Text) : Except Failure (List Text) :=
  let unsupported : Except Failure (List Text) :=
    .error (.unsupportedKey (String.ofList name))
  match inside? name with
  | none => if name.length = 1 then .ok [name] else unsupported
  | some inner =>
    let (letters, key) := splitModifiers inner
    let mods := letters.map Char.toLower
    if mods.isEmpty then
      match named? key with
      | some base => .ok [base]
      | none => unsupported
    else
      match (named? key) <|> (if key.length = 1 then some key else none) with
      | none => unsupported
      | some base =>
        let final := modified (mods.contains 'c') (mods.contains 's') base
        if mods.contains 'm' || mods.contains 'a' then .ok ["escape".toList, final]
        else .ok [final]

/-- Keys that a terminal sends alike, with the one name for them. -/
def aliases : List (String × String) :=
  [("tab", "c-i"), ("enter", "c-m"), ("backspace", "c-h"), ("c-space", "c-@"), ("space", " ")]

/-- The keys beyond single characters and control with a letter or a digit. -/
def specialKeys : List String :=
  ["escape", "s-tab", "up", "down", "left", "right", "c-up", "c-down", "c-left", "c-right",
   "c-@", "c-\\", "c-]", "c-^", "c-_"]

/-- Whether a key is control with a small letter or a digit. -/
def isControlKey : Text → Bool
  | ['c', '-', c] => c.isLower || c.isDigit
  | _ => false

/-- The one name of a key, if there is such a key. -/
def canonical (key : Text) : Except Failure Text :=
  let k := ((aliases.lookup (String.ofList key)).map String.toList).getD key
  if k.length = 1 || specialKeys.contains (String.ofList k) || isControlKey k then .ok k
  else .error (.invalidKey (String.ofList k))

end Keys

/-- What a key can do. -/
inductive Action where
  | accept
  | next
  | prev
  | dismiss
  | quit
deriving DecidableEq, Repr, Inhabited

namespace Keys

/-- A key sequence and what it does. -/
abbrev Binding := List Text × Action

/-- The settings of the keys and what they do, in the order of registration. -/
def configured : List (Setting × Action) :=
  [(.acceptKey, .accept), (.nextKey, .next), (.prevKey, .prev), (.dismissKey, .dismiss)]

/-- The key sequence of a setting; anything but a text is refused. -/
def sequenceOf (name : Value) : Except Failure (List Text) :=
  match name.chars? with
  | some name => sequence name
  | none => .error (.mismatch (.notKeyName name.kind))

/-- Bind keys to actions one after the other. A name that stands for no key is skipped, which is
logged; a value that is no name and a key that does not exist are failures. -/
def bind (s : Settings) : List (Setting × Action) → Except Failure (List Binding) × List Record
  | [] => (.ok [], [])
  | (key, action) :: rest =>
    match sequenceOf (s.value key) with
    | .error (.unsupportedKey name) =>
      let told := (Failure.unsupportedKey name).message
      let (bound, more) := bind s rest
      (bound, ⟨.warning, .keys, s!"Skipping key binding: {told}"⟩ :: more)
    | .error e => (.error e, [])
    | .ok keys =>
      match keys.mapM canonical with
      | .error e => (.error e, [])
      | .ok names =>
        let (bound, more) := bind s rest
        (bound.map ((names, action) :: ·), more)

/-- The bindings of the configured keys, with what is logged. -/
def bindings (s : Settings) : Except Failure (List Binding) × List Record := bind s configured

/-- The bindings of a review, which can also be left. -/
def reviewBindings (s : Settings) : Except Failure (List Binding) × List Record :=
  let (bound, records) := bindings s
  (bound.map (· ++ [(["c-c".toList], .quit), (["q".toList], .quit)]), records)

/-- What a key sequence does: the binding registered last counts. -/
def actionOf? (bs : List Binding) (keys : List Text) : Option Action :=
  bs.reverse.findSome? fun (ks, action) => if ks = keys then some action else none

end Keys

end GhostEdit
