/-
  Charsets — how the bytes of a text stand for its characters.

  The header `Content-Type` names the charset of a body after the kind of its content, as
  the parameter `charset`.  A body without charset, or with one that is not known, is in
  UTF-8.  `responseText` is the text of a response.
-/
import DocumentClient.Exchange
import DocumentClient.Http.Body
import DocumentClient.Http.Header
import DocumentClient.Text.SingleByte
import DocumentClient.Text.Space
import DocumentClient.Text.Split

namespace DocumentClient.Http

/-! ## Parameters -/

/-- Splits a text at semicolons, but not between quotes; a backslash before a quote takes
    its meaning. -/
def splitParameters (quoted : Bool) : List Char → List (List Char)
  | [] => [[]]
  | '\\' :: '"' :: rest => onFirst ('\\' :: '"' :: ·) (splitParameters quoted rest)
  | '"' :: rest => onFirst ('"' :: ·) (splitParameters (!quoted) rest)
  | c :: rest =>
    if c = ';' && !quoted then [] :: splitParameters quoted rest
    else onFirst (c :: ·) (splitParameters quoted rest)
where
  /-- Changes the first of several texts. -/
  onFirst (change : List Char → List Char) : List (List Char) → List (List Char)
    | first :: rest => change first :: rest
    | [] => [change []]

/-- A text without the quotes or the brackets around it. -/
def unquoted (text : List Char) : List Char :=
  let inside := (text.drop 1).dropLast
  match text.head?, text.getLast? with
  | some '"', some '"' => if text.length < 2 then text else unescape inside
  | some '<', some '>' => inside
  | _, _ => text
where
  /-- Takes the backslash away from a quote or a backslash. -/
  unescape : List Char → List Char
    | [] => []
    | '\\' :: c :: rest =>
      if c = '"' || c = '\\' then c :: unescape rest else '\\' :: unescape (c :: rest)
    | c :: rest => c :: unescape rest

/-- The value of a parameter, whose name is given in lower case. -/
def parameter? (name : String) (text : String) : Option String :=
  (splitParameters false text.toList).findSome? fun part =>
    match Text.splitFirst '=' part with
    | some (key, value) =>
      if (String.ofList (Text.trimSpace key)).toLower = name then
        some (String.ofList (unquoted (Text.trimSpace value)))
      else none
    | none => none

/-! ## Charsets -/

/-- How bytes stand for characters; the order of the bytes in a unit may be left to a
    mark at the start. -/
inductive Charset where
  | utf8
  /-- The mark at the start is no part of the text. -/
  | utf8Marked
  | utf16 (highFirst : Option Bool)
  | utf32 (highFirst : Option Bool)
  | single (charset : Text.SingleByte)

namespace Charset

/-- A name in the form in which names are compared: words of small letters and digits
    with `_` between them. -/
def normalName (name : String) : String :=
  let inWord (c : Char) : Bool := c.isAlphanum || c == '.'
  let spaced := name.toLower.toList.map fun c => if inWord c then c else '_'
  let words := (Text.splitAll '_' spaced).filter (!·.isEmpty)
  String.ofList (Text.join '_' words)

/-- The charset of a name. -/
def ofName (name : String) : Option Charset :=
  match normalName name with
  | "utf_8" | "utf8" | "utf" | "u8" | "cp65001" => some utf8
  | "utf_8_sig" => some utf8Marked
  | "utf_16" | "utf16" | "u16" => some (utf16 none)
  | "utf_16_le" | "utf_16le" => some (utf16 (some false))
  | "utf_16_be" | "utf_16be" => some (utf16 (some true))
  | "utf_32" | "utf32" | "u32" => some (utf32 none)
  | "utf_32_le" | "utf_32le" => some (utf32 (some false))
  | "utf_32_be" | "utf_32be" => some (utf32 (some true))
  | "ascii" | "us_ascii" | "us" | "646" | "iso646_us" | "iso_ir_6" | "cp367" | "ibm367" =>
    some (single .ascii)
  | "latin_1" | "latin1" | "latin" | "l1" | "iso8859_1" | "iso_8859_1" | "iso8859" | "8859"
  | "cp819" | "ibm819" | "iso_ir_100" => some (single .western)
  | "cp1252" | "windows_1252" | "1252" => some (single .westernWindows)
  | "iso8859_15" | "iso_8859_15" | "latin9" | "l9" => some (single .westernEuro)
  | "cp1250" | "windows_1250" | "1250" => some (single .centralWindows)
  | "iso8859_2" | "iso_8859_2" | "latin2" | "l2" => some (single .central)
  | "cp1251" | "windows_1251" | "1251" => some (single .cyrillicWindows)
  | "iso8859_5" | "iso_8859_5" | "cyrillic" => some (single .cyrillic)
  | "koi8_r" | "cskoi8r" => some (single .russian)
  | _ => none

/-- The charset that headers name. -/
def named (headers : Headers) : Charset :=
  (((headers.value? "content-type").bind (parameter? "charset")).bind ofName).getD utf8

/-- The text of bytes; without a mark that tells the order of the bytes in a unit there
    is none, unless there is not even one unit. -/
def read (charset : Charset) (body : Body) : Outcome String :=
  let pairs (highFirst : Bool) (body : Body) : Outcome String :=
    .ok (String.ofList (Text.Wide.pairsLossy highFirst body))
  let quads (highFirst : Bool) (body : Body) : Outcome String :=
    .ok (String.ofList (Text.Wide.quadsLossy highFirst body))
  match charset, body with
  | utf8, body => .ok (Body.text body)
  | utf8Marked, 0xef :: 0xbb :: 0xbf :: rest => .ok (Body.text rest)
  | utf8Marked, body => .ok (Body.text body)
  | single charset, body => .ok (charset.read body)
  | utf16 (some highFirst), body => pairs highFirst body
  | utf16 none, 0xfe :: 0xff :: rest => pairs true rest
  | utf16 none, 0xff :: 0xfe :: rest => pairs false rest
  | utf16 none, body => if body.length < 2 then pairs false body else .error (.noByteOrder 16)
  | utf32 (some highFirst), body => quads highFirst body
  | utf32 none, 0x00 :: 0x00 :: 0xfe :: 0xff :: rest => quads true rest
  | utf32 none, 0xff :: 0xfe :: 0x00 :: 0x00 :: rest => quads false rest
  | utf32 none, body => if body.length < 4 then quads false body else .error (.noByteOrder 32)

end Charset

/-- The text of a response. -/
def responseText (response : HttpResponse) : Outcome String :=
  if response.body.isEmpty then .ok "" else (Charset.named response.headers).read response.body

end DocumentClient.Http
