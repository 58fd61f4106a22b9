/-!
# Callback templates

The runtime expression that names a place in a request body.  It is read off
the written path: the root marker and the notes in braces are dropped, and each
part in brackets becomes a segment of a JSON pointer.  A part ends at its first
closing bracket; a note ends where its braces balance.
-/

namespace ApiContract
namespace Pointer

/-- Where a scan of a written path stands. -/
inductive Mode where
  | between
  | segment
  | note (inner : Nat)
  deriving DecidableEq

/-- A character of a pointer segment. -/
def escape (c : Char) : List Char :=
  match c with
  | '~' => ['~', '0']
  | '/' => ['~', '1']
  | c => [c]

/-- The pointer of the rest of a written path. -/
def scan : Mode → List Char → List Char
  | _, [] => []
  | .between, c :: rest =>
    if c = '[' then '/' :: scan .segment rest
    else if c = '{' then scan (.note 0) rest
    else scan .between rest
  | .segment, c :: rest =>
    if c = ']' then scan .between rest else escape c ++ scan .segment rest
  | .note inner, c :: rest =>
    if c = '{' then scan (.note (inner + 1)) rest
    else if c = '}' then
      match inner with
      | 0 => scan .between rest
      | n + 1 => scan (.note n) rest
    else scan (.note inner) rest

/-- The pointer of a written path. -/
def ofWritten (path : List Char) : List Char := scan .between (path.dropWhile (· ≠ '['))

/-- What opens and closes a template. -/
def opening : List Char := "\x7b$request.body#".toList

/-- The template of a written path. -/
def template (path : List Char) : List Char := opening ++ ofWritten path ++ ['}']

end Pointer
end ApiContract
