import GhostEdit.Value.Row

/-!
# The window of a document that a request shows

A request shows a window of rows around the cursor, cut into chunks. The window has the wanted
length unless the document is shorter, and slides back near the end of the document to keep it.

## Main definitions

* `Window.bounds`: the first and the last row of the window
* `Window.effective`: tuning values that are no positive integers give way to defaults
* `Window.chunks`: the chunks of the window, up to the first that cannot be joined
* `Window.joinChunks`: the chunks with an empty row between them
-/

namespace GhostEdit

namespace Window

/-- The first and the last row of a window of `size` rows around the cursor, both inclusive and
counted from one. -/
def bounds (count cursor size : Int) : Int × Int :=
  let row := min (max cursor 1) count
  let start := max 1 (row - size / 2)
  let stop := min count (start + size - 1)
  (max 1 (min start (stop - size + 1)), stop)

/-- The default length of a window. -/
def defaultSize : Nat := 1000

/-- The default length of a chunk. -/
def defaultChunk : Nat := 200

/-- A tuning value if it is a positive integer, else the default. -/
def effective (v : Value) (default : Nat) : Nat :=
  match v with
  | .int n => if 0 < n then n.toNat else default
  | _ => default

/-- What is logged when a tuning value gives way to its default. -/
def effectiveLog (v : Value) (default : Nat) (name : String) : List Record :=
  let refused : List Record :=
    let shown := String.ofList v.display
    [⟨.debug, .chunks, s!"Invalid {name}={shown}, using {default}"⟩]
  match v with
  | .int n => if 0 < n then [] else refused
  | _ => refused

/-- A list cut into stretches of `size` elements; the first argument bounds their number. -/
def cutWithin {α : Type} (size : Nat) : Nat → List α → List (List α)
  | 0, _ => []
  | _ + 1, [] => []
  | fuel + 1, x :: xs => (x :: xs).take size :: cutWithin size fuel ((x :: xs).drop size)

/-- A list cut into stretches of `size` elements, the last one possibly shorter. -/
def cut {α : Type} (size : Nat) (xs : List α) : List (List α) := cutWithin size xs.length xs

/-- Rows with their numbers, the first of which is given. -/
def numbered {α : Type} : Nat → List α → List (Nat × α)
  | _, [] => []
  | n, x :: xs => (n, x) :: numbered (n + 1) xs

/-- A row with its number in front. -/
def numberedRow (n : Nat) (line : Text) : Text := s!"L{n}: ".toList ++ line

/-- The text of a chunk of numbered rows. -/
def chunkText (withNumbers : Bool) (rows : List (Nat × Value)) : Except Failure Text :=
  if withNumbers then .ok (Text.unlines (rows.map fun (n, row) => numberedRow n row.displayText))
  else (Value.joinTexts (rows.map (·.2)))

/-- The failure of a chunk that cannot be joined. -/
def chunkFailure (rows : List (Nat × Value)) (cause : Failure) : Failure :=
  let first := (rows.head?.map (·.1)).getD 0
  let last := first + rows.length - 1
  .ofFault .processing "Failed to process file chunks"
    [("start_line", .int first), ("end_line", .int last), ("error", .ofString cause.message)]

/-- The chunks of a window, and what stopped them. -/
structure Chunks where
  texts : List Text
  failure : Option Failure

/-- The texts of chunks up to the first that cannot be joined. -/
def textsOf (withNumbers : Bool) : List (List (Nat × Value)) → Chunks
  | [] => ⟨[], none⟩
  | rows :: rest =>
    match chunkText withNumbers rows with
    | .ok t =>
      let more := textsOf withNumbers rest
      { more with texts := t :: more.texts }
    | .error cause => ⟨[], some (chunkFailure rows cause)⟩

/-- The numbered rows of the window. -/
def rowsOf (rows : List Value) (cursor : Int) (size : Nat) : List (Nat × Value) :=
  let (start, stop) := bounds rows.length cursor size
  let first := start.toNat
  numbered first ((rows.drop (first - 1)).take (stop - start + 1).toNat)

/-- The chunks of the window around the cursor; an empty document has none. -/
def chunks (rows : List Value) (cursor : Int) (size chunk : Value) (withNumbers : Bool) :
    Except Failure Chunks :=
  if rows.isEmpty then .error (.ofFault .invalidInput "Buffer is empty" [])
  else
    .ok (textsOf withNumbers
      (cut (effective chunk defaultChunk) (rowsOf rows cursor (effective size defaultSize))))

/-- What is logged while a window is cut. -/
def chunksLog (rows : List Value) (size chunk : Value) : List Record :=
  if rows.isEmpty then []
  else
    effectiveLog size defaultSize "max_context_lines" ++
      effectiveLog chunk defaultChunk "chunk_size"

/-- Chunks with an empty row between them. -/
def joinChunks (texts : List Text) : Text := Text.join ['\n', '\n'] texts

end Window

end GhostEdit
