import GhostEdit.Json.Print
import GhostEdit.Value.Display

/-!
# The prompt of a request

A request explains the task, shows one worked example and then the numbered rows around the
cursor and where the cursor stands.

## Main definitions

* `Message`, `Prompt.messages`
-/

namespace GhostEdit

/-- One message of a conversation. -/
structure Message where
  role : String
  content : Text
deriving DecidableEq, Inhabited

namespace Prompt

/-- What the model is asked to do. -/
def instructions : String :=
  "You are a code completion engine embedded in an editor. Given a file with " ++
  "numbered lines (\"L<row>: \") and the cursor position, propose edits near the " ++
  "cursor. Answer only with a JSON array wrapped in <suggestions></suggestions>: " ++
  "an array of alternative suggestion sets, each an array of objects with " ++
  "\"start_row\", \"end_row\" (1-based, inclusive, rows to replace) and " ++
  "\"content\" (replacement text without line numbers). Keep edits minimal and " ++
  "never overlap rows within one set."

/-- The file of the worked example. -/
def exampleCode : String :=
  "L1: def fib\nL2:\nL3: if __name__ == \"__main__\":\nL4:     # just pass\nL5:     pass\n"

/-- An item of the worked example. -/
def exampleItem (startRow endRow : Int) (content : String) : Value :=
  .obj [Value.member "start_row" (.int startRow), Value.member "end_row" (.int endRow),
    Value.member "content" (.ofString content)]

/-- The answer of the worked example. -/
def exampleAnswer : Value :=
  .arr [
    .arr [
      exampleItem 1 1
        "def fib(n):\n    if n < 2:\n        return n\n    return fib(n - 1) + fib(n - 2)",
      exampleItem 4 5 "    fib(int(input()))"],
    .arr [
      exampleItem 1 1
        ("def fib(n):\n    a, b = 0, 1\n    for _ in range(n):\n" ++
          "        yield a\n        a, b = b, a + b"),
      exampleItem 4 5 "    list(fib(int(input())))"]]

/-- A text between tags. -/
def tagged (tag : String) (body : Text) : Text :=
  s!"<{tag}>".toList ++ body ++ s!"</{tag}>".toList

/-- The message that shows a file. An empty file type is left out. -/
def codeMessage (filename code filetype : Value) : Message :=
  let kind :=
    if filetype.isTruthy then tagged "filetype" filetype.displayText ++ ['\n'] else []
  { role := "user"
    content := tagged "filepath" filename.displayText ++ '\n' :: kind
      ++ tagged "code" code.displayText }

/-- Where the cursor stands and how rows are indented. -/
def position (row col tabSize insertSpaces : Value) : Value :=
  .obj [Value.member "insertSpaces" insertSpaces, Value.member "tabSize" tabSize,
    Value.member "indentSize" tabSize,
    Value.member "position" (.obj [Value.member "row" row, Value.member "col" col])]

/-- The message that tells where the cursor stands. -/
def positionMessage (row col tabSize insertSpaces : Value) : Message :=
  { role := "user", content := Json.render (position row col tabSize insertSpaces) }

/-- The messages of a request. -/
def messages (filename code filetype row col tabSize insertSpaces : Value) : List Message :=
  [{ role := "system", content := instructions.toList },
   codeMessage (.ofString "example.py") (.ofString exampleCode) (.ofString "python"),
   { role := "assistant", content := "ok".toList },
   positionMessage (.int 1) (.int 7) (.int 4) (.bool true),
   { role := "assistant"
     content := "<suggestions>\n".toList ++ Json.renderIndented 0 exampleAnswer
      ++ "\n</suggestions>".toList },
   codeMessage filename code filetype,
   { role := "assistant", content := "ok".toList },
   positionMessage row col tabSize insertSpaces]

end Prompt

end GhostEdit
