import GhostEdit.Command.Setup
import GhostEdit.Proofs.Files.Writing
import GhostEdit.Proofs.Toml.RoundTrip

/-!
# Saved settings are read back

Settings are saved as a document and read from one. Writing puts every setting in its place and
reading looks there; a setting that only one of the two placed elsewhere would silently come back as
the standard one. This file follows the settings all the way: into a document, into the bytes of a
file, and back. Nothing is assumed of the values. Of the TOML library it is assumed that it loads
the document that it dumped, if it dumped it (`Toml.Library.Returns`).

The library here keeps that for settings of the kinds they are declared to have, except where one is
no number: what comes back then is no number either, but the bits of one kind of them.

## Main definitions

* `Value.IsField`: a value of the kinds that settings are declared to have
* `Settings.IsWritable`: every setting has a written form

## Main results

* `Settings.ofDocument_toDocument`: every setting is looked for where it was put
* `Settings.own_returns`: the library here loads the settings that it dumped
* `Setup.settings_save`: saved settings are read back
-/

namespace GhostEdit

/-! ## Values of settings -/

/-- A value of the kinds that settings are declared to have: a text, a number, a switch, or a list
of texts. -/
inductive Value.IsField : Value → Prop
  | text (t : Text) : IsField (.str t)
  | codes (points : List Nat) : IsField (.codes points)
  | int (n : Int) : IsField (.int n)
  | float (x : Binary64) : IsField (.float x)
  | bool (b : Bool) : IsField (.bool b)
  | texts {elements : List Value}
    (h : ∀ v ∈ elements, (∃ t, v = .str t) ∨ ∃ points, v = .codes points) :
    IsField (.arr elements)

namespace Toml

theorem settle_float {x : Binary64} (h : x.isNaN = false) : settle (.float x) = .float x := by
  rw [settle, h]
  rfl

theorem elementsFlaw?_eq_none {elements : List Value} :
    elementsFlaw? elements = none ↔ ∀ v ∈ elements, flaw? v = none := by
  induction elements with
  | nil => exact ⟨fun _ => nofun, fun _ => rfl⟩
  | cons v rest ih => simp [elementsFlaw?, ih]

theorem membersFlaw?_named {entries : List (Text × Value)} :
    membersFlaw? (named entries) = none ↔ ∀ m ∈ entries, flaw? m.2 = none := by
  induction entries with
  | nil => exact ⟨fun _ => nofun, fun _ => rfl⟩
  | cons m rest ih =>
    rw [show named (m :: rest) = (.text m.1, m.2) :: named rest from rfl]
    simp [membersFlaw?, ih]

theorem membersFlaw?_of_render {members : Members} {t : Text} (h : render members = .ok t) :
    membersFlaw? members = none := by
  rw [render] at h
  split at h
  · cases h
  · next hnone => exact hnone

end Toml

/-- A field without a flaw is read back from its line. -/
theorem Value.IsField.isToml {v : Value} (h : v.IsField) (hflaw : Toml.flaw? v = none) :
    v.IsToml := by
  cases h with
  | text t => exact .str t
  | codes points => cases hflaw
  | int n =>
    refine .int (Nat.le_of_not_lt fun hlong => ?_)
    rw [Toml.flaw?, if_pos hlong] at hflaw
    cases hflaw
  | float x => exact .float x
  | bool b => exact .bool b
  | texts h =>
    rw [Toml.flaw?, Toml.elementsFlaw?_eq_none] at hflaw
    refine .arr fun v hv => ?_
    obtain ⟨t, rfl⟩ | ⟨points, rfl⟩ := h v hv
    · exact .str t
    · cases hflaw _ hv

namespace Settings

variable {s : Settings} {t : Text}

/-! ## The document of settings -/

/-- **Every setting is looked for where it was put.** -/
theorem ofDocument_toDocument (s : Settings) : ofDocument (.obj s.toDocument) = .ok s := by
  have hsections : sectionsOf (.obj s.toDocument) = .ok
      { top := s.toDocument
        ai := membersOf s [.provider, .model, .temperature, .maxTokens]
        suggestion := membersOf s
          [.enabled, .debounceMs, .throttleMs, .minChars, .windowSize, .chunkSize, .respectIgnore,
            .ignoredGlobs]
          ++ [Value.member "cache" (.obj (membersOf s [.cacheLifetime, .cacheCapacity]))]
        cache := membersOf s [.cacheLifetime, .cacheCapacity]
        keys := membersOf s [.acceptKey, .nextKey, .prevKey, .dismissKey, .completionKey]
        network := membersOf s [.offline, .requestTimeout, .failThreshold, .cooldown] } := rfl
  rw [ofDocument, hsections]
  refine congrArg Except.ok (congrArg Settings.mk (funext fun key => ?_))
  cases key <;> rfl

/-- Settings as entries under their names in a document. -/
def entriesOf (s : Settings) (keys : List Setting) : List (Text × Value) :=
  keys.map fun key => (key.place.2.toList, s.value key)

/-- The tables of a document of settings. -/
def tables (s : Settings) : List (Text × List (Text × Value)) :=
  [("ai".toList, entriesOf s [.provider, .model, .temperature, .maxTokens]),
   ("suggestion".toList,
    entriesOf s
      [.enabled, .debounceMs, .throttleMs, .minChars, .windowSize, .chunkSize, .respectIgnore,
       .ignoredGlobs]
      ++ [("cache".toList, entriesOf s [.cacheLifetime, .cacheCapacity])].map Toml.tableEntry),
   ("keys".toList, entriesOf s [.acceptKey, .nextKey, .prevKey, .dismissKey, .completionKey]),
   ("network".toList, entriesOf s [.offline, .requestTimeout, .failThreshold, .cooldown])]

/-- The entries of a document of settings. -/
def entries (s : Settings) : List (Text × Value) :=
  entriesOf s [.logLevel, .showMetrics, .metricsWindow] ++ s.tables.map Toml.tableEntry

theorem toDocument_eq (s : Settings) : s.toDocument = Toml.named s.entries := rfl

/-- Every setting has a written form. -/
def IsWritable (s : Settings) : Prop := ∀ key, Toml.flaw? (s.value key) = none

theorem mem_entriesOf {keys : List Setting} {P : Text × Value → Prop} :
    (∀ m ∈ entriesOf s keys, P m) ↔ ∀ key ∈ keys, P (key.place.2.toList, s.value key) :=
  List.forall_mem_map

theorem membersFlaw?_toDocument : Toml.membersFlaw? s.toDocument = none ↔ s.IsWritable := by
  rw [toDocument_eq, Toml.membersFlaw?_named]
  simp only [entries, tables, List.forall_mem_append, List.forall_mem_map, List.forall_mem_cons,
    mem_entriesOf, Toml.tableEntry, Toml.flaw?, Toml.membersFlaw?_named]
  constructor
  · intro h key
    cases key <;> simp [h]
  · intro h
    simp [h _]

theorem names_entriesOf (s : Settings) (keys : List Setting) :
    (entriesOf s keys).map Prod.fst = keys.map fun key => key.place.2.toList := List.map_map

/-- Settings that can be written make a table that can be read back. -/
theorem isTable_entries (h : ∀ key, (s.value key).IsToml) : Toml.IsTable s.entries := by
  have hkeys : ∀ keys, ∀ m ∈ entriesOf s keys, m.2.IsToml := fun keys =>
    mem_entriesOf.mpr fun key _ => h key
  have hplain : ∀ keys : List Setting, (keys.map fun key => key.place.2.toList).Nodup →
      Toml.IsTable (entriesOf s keys) := fun keys hdistinct => by
    have htable : Toml.IsTable (entriesOf s keys ++ [].map Toml.tableEntry) :=
      .mk (hkeys keys) nofun (by rwa [List.map_nil, List.append_nil, names_entriesOf])
    rwa [List.map_nil, List.append_nil] at htable
  have hcache : [("cache".toList, entriesOf s [.cacheLifetime, .cacheCapacity])].map Prod.fst
      = ["cache".toList] := rfl
  have hsuggestion := Toml.IsTable.mk
    (hkeys [.enabled, .debounceMs, .throttleMs, .minChars, .windowSize, .chunkSize, .respectIgnore,
      .ignoredGlobs])
    (List.forall_mem_singleton.mpr (hplain [.cacheLifetime, .cacheCapacity] (by decide)))
    (by rw [names_entriesOf, hcache]; decide)
  have hnames : s.tables.map Prod.fst
      = ["ai".toList, "suggestion".toList, "keys".toList, "network".toList] := rfl
  refine .mk (hkeys _) ?_ (by rw [names_entriesOf, hnames]; decide)
  simp only [tables, List.forall_mem_cons]
  exact ⟨hplain _ (by decide), hsuggestion, hplain _ (by decide), hplain _ (by decide), nofun⟩

/-- The settings with one kind of what is no number. -/
def settled (s : Settings) : Settings := ⟨fun key => Toml.settle (s.value key)⟩

theorem settleMembers_toDocument (s : Settings) :
    Toml.settleMembers s.toDocument = s.settled.toDocument := rfl

/-- **The library here loads the settings that it dumped**, where there is one kind of what is no
number. -/
theorem own_returns (hs : ∀ key, (s.value key).IsField) (hsettled : s.settled = s) :
    Toml.own.Returns s.toDocument := by
  intro bytes h
  obtain ⟨t, ht, rfl⟩ := map_eq_ok h
  have hwritable := membersFlaw?_toDocument.mp (Toml.membersFlaw?_of_render ht)
  have htable := isTable_entries fun key => (hs key).isToml (hwritable key)
  have hread := Toml.read?_render htable ht
  rw [← toDocument_eq, settleMembers_toDocument, hsettled] at hread
  show (Utf8.decode (Utf8.bytes t)).toOption.bind Toml.read? = some s.toDocument
  rw [Utf8.decode_bytes]
  exact hread

/-- Settings that can be written are dumped. -/
theorem IsWritable.exists_dump (h : s.IsWritable) :
    ∃ bytes, Toml.own.dump s.toDocument = .ok bytes := by
  have hrender : ∃ t, Toml.render s.toDocument = .ok t := by
    rw [Toml.render, membersFlaw?_toDocument.mpr h]
    exact ⟨_, rfl⟩
  obtain ⟨t, ht⟩ := hrender
  exact ⟨Utf8.bytes t, congrArg (Except.map Utf8.bytes) ht⟩

end Settings

/-! ## Files of settings -/

namespace Setup

variable {w : World} {files files' : Files} {path : Option Path} {s : Settings} {p : Path}

/-- A file that is loaded as a document of settings has those settings. -/
theorem settings_of_read {bytes : List UInt8}
    (hread : files.read w.directory (path.getD w.configPath) = .ok bytes)
    (h : w.toml.load bytes = some s.toDocument) : settings w files path = .ok s := by
  obtain ⟨body, hbody, -⟩ := bind_eq_ok hread
  have hholds : files.holds w.directory (path.getD w.configPath) = .ok true := by
    rw [Files.holds, hbody]
  have hbytes : Settings.ofBytes? bytes w.toml = some s := by
    rw [Settings.ofBytes?, h, Option.bind_some, Settings.ofDocument_toDocument]
    rfl
  rw [settings, Settings.ofFile, hholds, hread]
  simp only [Except.map, Except.toOption, Option.bind_some, hbytes, Option.getD_some]

/-- What a successful saving did. -/
theorem exists_of_save (h : save w files s p = .ok files') :
    ∃ bytes, w.toml.dump s.toDocument = .ok bytes ∧ files'.read w.directory p = .ok bytes := by
  obtain ⟨dirs, -, h⟩ := bind_eq_ok h
  obtain ⟨bytes, hbytes, h⟩ := bind_eq_ok h
  exact ⟨bytes, hbytes, Files.read_write h⟩

/-- **Saved settings are read back** from the file they were saved to, whether it is named or the
user's own, if the TOML library loads the document that it dumped. Saving itself succeeds if the
library dumps the document and the file can be written. -/
theorem settings_save (hreturns : w.toml.Returns s.toDocument) :
    (∀ files', save w files s (path.getD w.configPath) = .ok files' →
      settings w files' path = .ok s) ∧
    (∀ bytes dirs written, w.toml.dump s.toDocument = .ok bytes →
      files.makeDirectory w.directory (path.getD w.configPath).parent = .ok dirs →
      dirs.write w.directory (path.getD w.configPath) bytes = .ok written →
      save w files s (path.getD w.configPath) = .ok written) := by
  refine ⟨fun files' hsave => ?_, fun bytes dirs written hbytes hdirs hwrite => ?_⟩
  · obtain ⟨bytes, hbytes, hread⟩ := exists_of_save hsave
    exact settings_of_read hread (hreturns bytes hbytes)
  · simp only [save, hdirs, hbytes, bind, Except.bind]
    exact hwrite

/-- Settings other than the standard ones, in every section. -/
def chosen : Settings :=
  (((((Settings.standard.set .provider (.ofString "openai")).set .temperature
    (.float (Binary64.ofRatio true 7 10))).set .ignoredGlobs (.arr [.ofString "a\tb"])).set
    .cacheLifetime (.int (-1))).set .acceptKey (.ofString "\"")).set .offline (.bool true)

theorem isField_chosen (key : Setting) : (chosen.value key).IsField := by
  have htexts : ∀ ts : List String, (Value.arr (ts.map .ofString)).IsField := fun ts =>
    .texts (List.forall_mem_map.mpr fun t _ => .inl ⟨t.toList, rfl⟩)
  cases key
  case ignoredGlobs => exact htexts ["a\tb"]
  all_goals constructor

/-- Settings are saved below a directory that is missing, and read back. -/
theorem settings_save_chosen :
    (default : World).toml.Returns chosen.toDocument ∧ ∃ files',
      save default {} chosen ⟨['/'], ["etc".toList, "c.toml".toList]⟩ = .ok files' ∧
      settings default files' (some ⟨['/'], ["etc".toList, "c.toml".toList]⟩) = .ok chosen := by
  have hsettled : chosen.settled = chosen := by
    refine congrArg Settings.mk (funext fun key => ?_)
    cases key
    case temperature => exact Toml.settle_float (by decide +kernel)
    all_goals rfl
  have hwritable : chosen.IsWritable := by
    intro key
    cases key <;> rfl
  have hreturns := Settings.own_returns isField_chosen hsettled
  obtain ⟨bytes, hbytes⟩ := hwritable.exists_dump
  have hboth := @settings_save default {} (some ⟨['/'], ["etc".toList, "c.toml".toList]⟩) chosen
    hreturns
  have hsave := hboth.2 bytes _ _ hbytes rfl rfl
  exact ⟨hreturns, _, hsave, hboth.1 _ hsave⟩

end Setup

end GhostEdit
