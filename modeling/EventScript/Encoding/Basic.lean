import EventScript.Encoding.Guobiao
import EventScript.Encoding.Name
import EventScript.Encoding.Page
import EventScript.Encoding.Unicode
import EventScript.Store.Codec

/-!
How the characters of a text file are written in bytes.
-/

namespace EventScript

inductive Encoding where
  | utf8
  /-- As before, with a mark at the start that is no part of the text. -/
  | utf8Signed
  /-- Units of two bytes; without an order it is told by a mark. -/
  | utf16 (order : Option Encoding.ByteOrder)
  /-- Units of four bytes. -/
  | utf32 (order : Option Encoding.ByteOrder)
  | ascii
  | latin1
  | page (page : Encoding.Page)
  | gb2312
  | gbk
  | gb18030
  /-- An encoding in which no text can be written. -/
  | undefined

namespace Encoding

def asciiFamily : List String := [
  "ascii", "big5", "big5hkscs", "cp932", "cp949", "cp950", "euc_jis_2004", "euc_jisx0213",
  "euc_jp", "euc_kr", "hz", "idna", "iso2022_jp", "iso2022_jp_1", "iso2022_jp_2",
  "iso2022_jp_2004", "iso2022_jp_3", "iso2022_jp_ext", "iso2022_kr", "johab", "punycode",
  "shift_jis", "shift_jis_2004", "shift_jisx0213", "utf_7"]

def latinFamily : List String := [
  "charmap", "iso8859_1", "latin_1", "raw_unicode_escape", "unicode_escape"]

def ofFirstName? (name : String) : Option Encoding :=
  if name = "utf_8" then some utf8
  else if name = "utf_8_sig" then some utf8Signed
  else if name = "utf_16" then some (utf16 none)
  else if name = "utf_16_le" then some (utf16 (some .little))
  else if name = "utf_16_be" then some (utf16 (some .big))
  else if name = "utf_32" then some (utf32 none)
  else if name = "utf_32_le" then some (utf32 (some .little))
  else if name = "utf_32_be" then some (utf32 (some .big))
  else if name = "gb2312" then some gb2312
  else if name = "gbk" then some gbk
  else if name = "gb18030" then some gb18030
  else if name = "undefined" then some undefined
  else if asciiFamily.contains name then some ascii
  else if latinFamily.contains name then some latin1
  else (Page.ofName? name).map page

def ofName? (s : String) : Option Encoding :=
  if s = "locale" then some utf8 else ofFirstName? (firstName s)

def ofOption {α : Type} : Option α → Except Fault α
  | some a => .ok a
  | none => .error .undecodable

def signature : List UInt8 := [0xEF, 0xBB, 0xBF]

def utf8Chars (bs : List UInt8) : Except Fault (List Char) :=
  ofOption ((Codec.ofUtf8? bs).map (·.toList))

def decode : Encoding → List UInt8 → Except Fault (List Char)
  | utf8, bs => utf8Chars bs
  | utf8Signed, bs => utf8Chars (if signature.isPrefixOf bs then bs.drop signature.length else bs)
  | utf16 (some order), bs => ofOption (decode16? order bs)
  | utf16 none, bs => decodeMarked16 bs
  | utf32 (some order), bs => ofOption (decode32? order bs)
  | utf32 none, bs => decodeMarked32 bs
  | ascii, bs =>
    if bs.all (· < 0x80) then .ok (bs.map fun b => Char.ofNat b.toNat) else .error .undecodable
  | latin1, bs => .ok (bs.map fun b => Char.ofNat b.toNat)
  | page p, bs => ofOption (p.decode? bs)
  | gb2312, bs => ofOption (decodePairs? narrowCell? bs)
  | gbk, bs => ofOption (decodePairs? middleCell? bs)
  | gb18030, bs => ofOption (decodeWidest? bs)
  | undefined, _ => .error .unmarkedText

end Encoding

end EventScript
