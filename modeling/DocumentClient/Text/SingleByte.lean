/-
  Text in single bytes — each byte stands for one character.

  The bytes of ASCII stand for themselves in all of these, and so does every byte
  outside the table of its charset.  U+FFFD marks the bytes that stand for nothing.
-/

namespace DocumentClient.Text

/-- What the bytes from a first one on stand for. -/
structure SingleByte where
  first : Nat
  table : String

namespace SingleByte

/-- The character of a byte. -/
def char (s : SingleByte) (byte : UInt8) : Char :=
  let own := Char.ofNat byte.toNat
  if byte.toNat < s.first then own else s.table.toList[byte.toNat - s.first]?.getD own

/-- The text of bytes. -/
def read (s : SingleByte) (bytes : List UInt8) : String := String.ofList (bytes.map s.char)

/-- Western letters. -/
def western : SingleByte := ⟨0x100, ""⟩

/-- Nothing but ASCII. -/
def ascii : SingleByte := ⟨0x80, String.ofList (List.replicate 128 '\ufffd')⟩

/-- Western letters and typographic marks. -/
def westernWindows : SingleByte :=
  ⟨0x80,
    "€\ufffd‚ƒ„…†‡ˆ‰Š‹Œ\ufffdŽ\ufffd\ufffd‘’“”•–—˜™š›œ\ufffdžŸ"⟩

/-- Western letters and the sign of the euro. -/
def westernEuro : SingleByte :=
  ⟨0xa4,
    "€¥Š§š©ª«¬\u00ad®¯°±²³Žµ¶·ž¹º»ŒœŸ"⟩

/-- Central European letters and typographic marks. -/
def centralWindows : SingleByte :=
  ⟨0x80,
    "€\ufffd‚\ufffd„…†‡\ufffd‰Š‹ŚŤŽŹ\ufffd‘’“”•–—\ufffd™š›śťžź\u00a0ˇ˘Ł¤Ą¦§¨©Ş«¬"
      ++ "\u00ad®Ż°±˛ł´µ¶·¸ąş»Ľ˝ľżŔÁÂĂÄĹĆÇČÉĘËĚÍÎĎĐŃŇÓÔŐÖ×ŘŮÚŰÜÝŢßŕáâăäĺćçčéęëěíîďđńňóôő"
      ++ "ö÷řůúűüýţ˙"⟩

/-- Central European letters. -/
def central : SingleByte :=
  ⟨0xa1,
    "Ą˘Ł¤ĽŚ§¨ŠŞŤŹ\u00adŽŻ°ą˛ł´ľśˇ¸šşťź˝žżŔÁÂĂÄĹĆÇČÉĘËĚÍÎĎĐŃŇÓÔŐÖ×ŘŮÚŰÜÝŢßŕáâăäĺćçčé"
      ++ "ęëěíîďđńňóôőö÷řůúűüýţ˙"⟩

/-- Cyrillic letters and typographic marks. -/
def cyrillicWindows : SingleByte :=
  ⟨0x80,
    "ЂЃ‚ѓ„…†‡€‰Љ‹ЊЌЋЏђ‘’“”•–—\ufffd™љ›њќћџ\u00a0ЎўЈ¤Ґ¦§Ё©Є«¬\u00ad®Ї°±Ііґµ¶·ё№є»јЅѕ"
      ++ "їАБВГДЕЖЗИЙКЛМНОПРСТУФХЦЧШЩЪЫЬЭЮЯабвгдежзийклмнопрстуфхцчшщъыьэюя"⟩

/-- Cyrillic letters. -/
def cyrillic : SingleByte :=
  ⟨0xa1,
    "ЁЂЃЄЅІЇЈЉЊЋЌ\u00adЎЏАБВГДЕЖЗИЙКЛМНОПРСТУФХЦЧШЩЪЫЬЭЮЯабвгдежзийклмнопрстуфхцчшщ"
      ++ "ъыьэюя№ёђѓєѕіїјљњћќ§ўџ"⟩

/-- Russian letters and drawing characters. -/
def russian : SingleByte :=
  ⟨0x80,
    "─│┌┐└┘├┤┬┴┼▀▄█▌▐░▒▓⌠■∙√≈≤≥\u00a0⌡°²·÷═║╒ё╓╔╕╖╗╘╙╚╛╜╝╞╟╠╡Ё╢╣╤╥╦╧╨╩╪╫╬©юабцдефгх"
      ++ "ийклмнопярстужвьызшэщчъЮАБЦДЕФГХИЙКЛМНОПЯРСТУЖВЬЫЗШЭЩЧЪ"⟩

end SingleByte

end DocumentClient.Text
