import GhostEdit.Clock

/-!
# The cache of answers

Answers are kept under their fingerprints for a fixed time and within a capacity in bytes. The
entries stand in the order in which they were last used. When a new answer does not fit, the
entries used longest ago go first; an answer larger than the capacity is kept alone.

## Main definitions

* `Cache`, `Cache.Entry`
* `Cache.lookup`: read an entry, which refreshes its place but not its expiry
* `Cache.store`: write an entry, and the keys that had to go
-/

namespace GhostEdit

namespace Cache

/-- A stored answer. -/
structure Entry where
  key : String
  payload : Text
  lastUsed : Seconds
  expires : Seconds
  size : Nat
deriving DecidableEq, Inhabited

end Cache

/-- The stored answers, least recently used first. -/
structure Cache where
  /-- The most bytes to keep; a number, if anything is ever to be removed for it. -/
  capacity : Value
  /-- How many seconds an answer is kept; a number, if anything is ever to be stored. -/
  lifetime : Value
  entries : List Cache.Entry := []
  /-- The bytes of all payloads. -/
  used : Nat := 0
deriving Inhabited

namespace Cache

/-- The capacity unless another is given. -/
def defaultCapacity : Value := .int (50 * 1024 * 1024)

/-- The lifetime in seconds unless another is given. -/
def defaultLifetime : Value := .int 300

/-- The entry under a key. -/
def find? (c : Cache) (key : String) : Option Entry := c.entries.find? (·.key = key)

/-- Whether there is an entry under a key, expired or not. -/
def contains (c : Cache) (key : String) : Bool := c.entries.any (·.key = key)

/-- The cache without the entry under a key. -/
def remove (c : Cache) (key : String) : Cache :=
  match c.find? key with
  | some e =>
    { c with entries := c.entries.filter (·.key ≠ key), used := c.used - e.size }
  | none => c

/-- The beginning of a key, as the log shows it. -/
def shortKey (key : String) : String := String.ofList (key.toList.take 32)

/-- The payload under a key at a given time. An expired entry is removed. -/
def lookup (c : Cache) (key : String) (now : Seconds) : Cache × Option Text :=
  match c.find? key with
  | none => (c, none)
  | some e =>
    if e.expires ≤ now then (c.remove key, none)
    else
      ({ c with
          entries := c.entries.filter (·.key ≠ key) ++ [{ e with lastUsed := now }] },
        some e.payload)

/-- What is logged when a key is looked up. -/
def lookupLog (c : Cache) (key : String) (now : Seconds) : List Record :=
  match c.find? key with
  | some e =>
    if e.expires ≤ now then
      let short := shortKey key
      [⟨.debug, .cache, s!"Cache entry expired: {short}"⟩]
    else []
  | none => []

/-- The entry used longest ago; of several the first. -/
def oldest? : List Entry → Option Entry
  | [] => none
  | e :: rest => some (rest.foldl (fun o e => if e.lastUsed < o.lastUsed then e else o) e)

/-- Remove the entries used longest ago until `size` more bytes fit or none is left; the first
argument bounds their number. The keys removed are given in order, also when the capacity turns
out to be no number. -/
def makeRoomWithin : Nat → Nat → Cache → Cache × Except Failure Unit × List String
  | 0, _, c => (c, .ok (), [])
  | fuel + 1, size, c =>
    match oldest? c.entries with
    | none => (c, .ok (), [])
    | some e =>
      match Value.compare .greater (.int (c.used + size)) c.capacity with
      | .error e => (c, .error e, [])
      | .ok false => (c, .ok (), [])
      | .ok true =>
        let (rest, outcome, keys) := makeRoomWithin fuel size (c.remove e.key)
        (rest, outcome, e.key :: keys)

/-- Remove the entries used longest ago until `size` more bytes fit or none is left. -/
def makeRoom (c : Cache) (size : Nat) : Cache × Except Failure Unit × List String :=
  makeRoomWithin c.entries.length size c

/-- The text of a payload, if it is one that can be encoded. -/
def payloadText (key : String) (payload : Value) : Except Failure Text :=
  match payload with
  | .str t => .ok t
  | .codes points =>
    match Utf8.gapFrom? 0 points with
    | none => .ok (points.map Char.ofNat)
    | some gap =>
      .error (.ofFault .cacheFailure s!"Cannot encode payload: {gap.message}"
        [("key", .ofString key)])
  | v =>
    .error (.ofFault .cacheFailure s!"Cannot cache payload of type {v.kind}"
      [("key", .ofString key)])

/-- Put an entry in a cache that has room for it. -/
def insert (c : Cache) (key : String) (payload : Text) (now : Seconds) :
    Cache × Except Failure Unit :=
  let size := Utf8.size payload
  match now.later c.lifetime with
  | .error e => (c, .error e)
  | .ok expires =>
    ({ c with
        entries := c.entries ++ [{ key, payload, lastUsed := now, expires, size }]
        used := c.used + size }, .ok ())

/-- Store a text under a key, with the keys that had to go. What was stored under the key before
is gone also when that fails. -/
def storeText (c : Cache) (key : String) (payload : Text) (now : Seconds) :
    Cache × Except Failure Unit × List String :=
  match (c.remove key).makeRoom (Utf8.size payload) with
  | (room, .error e, evicted) => (room, .error e, evicted)
  | (room, .ok (), evicted) =>
    let (stored, outcome) := room.insert key payload now
    (stored, outcome, evicted)

/-- Store a payload under a key; one that is no text changes nothing. -/
def store (c : Cache) (key : String) (payload : Value) (now : Seconds) :
    Cache × Except Failure Unit × List String :=
  match payloadText key payload with
  | .error e => (c, .error e, [])
  | .ok t => c.storeText key t now

/-- What is logged about keys that had to go. -/
def evictionLog (keys : List String) : List Record :=
  keys.map fun key =>
    let short := shortKey key
    ⟨.debug, .cache, s!"Evicting cache entry: {short}"⟩

/-- The cache without entries. -/
def clear (c : Cache) : Cache := { c with entries := [], used := 0 }

end Cache

end GhostEdit
