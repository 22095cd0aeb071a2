/-
  Bodies — what the bytes of a response say.

  The text of a body is its UTF-8, with a replacement for what is none.  The JSON
  of a body may be in units of one, two or four bytes: a mark at the start tells
  them apart, else where the zero bytes are among the first four.
-/
import DocumentClient.Json.Reader
import DocumentClient.Json.Writer
import DocumentClient.Text.Wide

namespace DocumentClient.Http

/-- The bytes of a response. -/
abbrev Body := List UInt8

/-- How bytes stand for characters. -/
inductive Encoding where
  | bytes
  | pairs (highFirst : Bool)
  | quads (highFirst : Bool)
  deriving DecidableEq

namespace Encoding

/-- The encoding a mark at the start tells, and the bytes after the mark. -/
def marked? : Body → Option (Encoding × Body)
  | 0x00 :: 0x00 :: 0xfe :: 0xff :: rest => some (quads true, rest)
  | 0xff :: 0xfe :: 0x00 :: 0x00 :: rest => some (quads false, rest)
  | 0xfe :: 0xff :: rest => some (pairs true, rest)
  | 0xff :: 0xfe :: rest => some (pairs false, rest)
  | 0xef :: 0xbb :: 0xbf :: rest => some (bytes, rest)
  | _ => none

/-- The encoding of JSON without a mark: its first two characters are ASCII. -/
def guess : Body → Encoding
  | a :: b :: c :: d :: _ =>
    if a = 0 then (if b = 0 then quads true else pairs true)
    else if b = 0 then (if c = 0 ∧ d = 0 then quads false else pairs false)
    else bytes
  | [a, b] => if a = 0 then pairs true else if b = 0 then pairs false else bytes
  | _ => bytes

/-- The text of bytes in an encoding. -/
def read : Encoding → Body → Option String
  | bytes, body => Text.Utf8.decodeStrict body
  | pairs highFirst, body => Text.Wide.readPairs highFirst body
  | quads highFirst, body => Text.Wide.readQuads highFirst body

end Encoding

namespace Body

/-- The text of a body. -/
def text (body : Body) : String := Text.Utf8.decodeLossy body

/-- The JSON value of a body. -/
def json? (body : Body) : Option Value := do
  let (encoding, body) := (Encoding.marked? body).getD (Encoding.guess body, body)
  let text ← encoding.read body
  Json.parse text

/-- The body that holds a value. -/
def ofJson (v : Value) : Body := Text.Utf8.encode ((Json.write .spaced v).getD "")

end Body

end DocumentClient.Http
