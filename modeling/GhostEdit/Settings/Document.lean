import GhostEdit.Files
import GhostEdit.Settings.Basic
import GhostEdit.Toml.Library
import GhostEdit.Value.Arithmetic

/-!
# Settings in a document

A configuration document has the settings in sections. Reading takes what is there and the
standard values for the rest; a section must be a table. Writing puts every setting in its place.
A file that is missing or cannot be read counts as no document at all.

## Main definitions

* `Settings.ofDocument`, `Settings.toDocument`
* `Settings.ofFile`: the settings of a file, if they can be read
* `Settings.agrees`: whether two settings have the same values
-/

namespace GhostEdit

namespace Settings

/-- The members of a table. -/
abbrev Table := Value.Members

/-- The section with a name; a missing one is empty, and one that is no table is refused. -/
def sectionOf (name : String) (t : Table) : Except Failure Table :=
  match t.lookup (.text name.toList) with
  | none => .ok []
  | some (.obj ms) => .ok ms
  | some v => .error (.noField v.kind "get")

/-- The sections of a document. -/
structure Sections where
  top : Table
  ai : Table
  suggestion : Table
  cache : Table
  keys : Table
  network : Table

/-- The table that holds the settings inside the given sections. -/
def Sections.table (s : Sections) : List String → Table
  | ["ai"] => s.ai
  | ["suggestion"] => s.suggestion
  | ["suggestion", "cache"] => s.cache
  | ["keys"] => s.keys
  | ["network"] => s.network
  | _ => s.top

/-- The sections of a document. The first section that is no table, in the order in which they
are needed, is the one that is refused. -/
def sectionsOf (document : Value) : Except Failure Sections :=
  match document with
  | .obj top => do
    let suggestion ← sectionOf "suggestion" top
    let ai ← sectionOf "ai" top
    let cache ← sectionOf "cache" suggestion
    let keys ← sectionOf "keys" top
    let network ← sectionOf "network" top
    pure { top, ai, suggestion, cache, keys, network }
  | v => .error (.noField v.kind "get")

/-- The settings of a document. -/
def ofDocument (document : Value) : Except Failure Settings :=
  (sectionsOf document).map fun sections =>
    ⟨fun key => ((sections.table key.place.1).lookup (.text key.place.2.toList)).getD key.standard⟩

/-- Settings as members under their names in a document. -/
def membersOf (s : Settings) (keys : List Setting) : Table :=
  keys.map fun key => Value.member key.place.2 (s.value key)

/-- The document of settings. -/
def toDocument (s : Settings) : Table :=
  membersOf s [.logLevel, .showMetrics, .metricsWindow] ++
  [Value.member "ai" (.obj (membersOf s [.provider, .model, .temperature, .maxTokens])),
   Value.member "suggestion" (.obj
    (membersOf s
      [.enabled, .debounceMs, .throttleMs, .minChars, .windowSize, .chunkSize, .respectIgnore,
       .ignoredGlobs]
      ++ [Value.member "cache" (.obj (membersOf s [.cacheLifetime, .cacheCapacity]))])),
   Value.member "keys" (.obj
    (membersOf s [.acceptKey, .nextKey, .prevKey, .dismissKey, .completionKey])),
   Value.member "network" (.obj
    (membersOf s [.offline, .requestTimeout, .failThreshold, .cooldown]))]

/-- The settings in the bytes of a configuration file, if they can be read. -/
def ofBytes? (bytes : List UInt8) (toml : Toml.Library := Toml.own) : Option Settings :=
  (toml.load bytes).bind fun members => (ofDocument (.obj members)).toOption

/-- The settings of a file; there are none in one that is missing or cannot be read. A name that is
too long is refused. -/
def ofFile (fs : Files) (cwd : List Text) (p : Path) (toml : Toml.Library := Toml.own) :
    Except Failure (Option Settings) :=
  (fs.holds cwd p).map fun _ => (fs.read cwd p).toOption.bind fun bytes => ofBytes? bytes toml

/-- Whether two settings have the same values. -/
def agrees (s t : Settings) : Bool :=
  Setting.all.all fun key => Value.same (s.value key) (t.value key)

end Settings

end GhostEdit
