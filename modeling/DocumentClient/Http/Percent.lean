/-
  Percent encoding — characters that a part of a URL cannot hold as such.

  Each part of a URL has its set of characters that stand for themselves; a
  character outside the set is written as `%XX` for each of its UTF-8 bytes.  The
  percent sign is in every set, so that text encoded before stays as it is.
  `decode` reads the bytes back; `formEncode` writes the names and values of a query.
-/
import DocumentClient.Text.Quoted
import DocumentClient.Text.Utf8

namespace DocumentClient.Http

/-! ## Sets of characters -/

/-- ASCII letters and digits. -/
def isAlphanumeric (c : Char) : Bool := c.isAlpha || c.isDigit

/-- The characters that need no encoding anywhere. -/
def isUnreserved (c : Char) : Bool := isAlphanumeric c || "-._~".toList.contains c

/-- The visible ASCII characters without some of them. -/
def visibleBut (others : String) (c : Char) : Bool :=
  0x20 < c.toNat && c.toNat < 0x7f && !others.toList.contains c

/-- What a fragment can hold. -/
def inFragment : Char → Bool := visibleBut "\"<>\x60"

/-- What a query can hold. -/
def inQuery : Char → Bool := visibleBut "\"#<>"

/-- What a path can hold. -/
def inPath : Char → Bool := visibleBut "\"#<>?\x60\x7b\x7d"

/-- What the part before the host can hold. -/
def inUserInfo : Char → Bool := visibleBut "\"#<>?\x60\x7b\x7d/;=@[\\]^|"

/-- What the name of a host can hold. -/
def inHost (c : Char) : Bool :=
  isUnreserved c || "!$&'()*+,;=\"\x60\x7b\x7d%|\\".toList.contains c

/-! ## Encoding -/

/-- A byte as `%XX`. -/
def percentByte (b : UInt8) : List Char := '%' :: (Text.hex 2 b.toNat).map Char.toUpper

/-- A character as `%XX` for each of its bytes. -/
def percent (c : Char) : List Char := (Text.Utf8.encode c.toString).flatMap percentByte

/-- Writes a text with the characters outside a set encoded. -/
def encode (kept : Char → Bool) (text : List Char) : List Char :=
  text.flatMap fun c => if kept c then [c] else percent c

/-- The bytes of a text in ASCII; a percent sign without two digits stands for itself. -/
def decode : List Char → List UInt8
  | [] => []
  | '%' :: a :: b :: rest =>
    match Text.hexByte? a b with
    | some byte => byte :: decode rest
    | none => UInt8.ofNat '%'.toNat :: decode (a :: b :: rest)
  | c :: rest => UInt8.ofNat c.toNat :: decode rest

/-- A name or a value of a query: only unreserved characters stand for themselves,
    and `+` is a blank. -/
def formEncode (text : String) : List Char :=
  text.toList.flatMap fun c =>
    if c = ' ' then ['+'] else if isUnreserved c then [c] else percent c

end DocumentClient.Http
