import Dialogue.Text.Utf16
import Dialogue.Text.SingleByte
import Dialogue.Text.Split

/-! # Character sets

The ways in which the bytes of a text may be meant, and the labels by which they are called. A mark
at the beginning of a text tells the way, whatever label it has. -/

namespace Dialogue.Text

/-- A way to read bytes. Some old sets are not read at all: any text in them is one replacement
character. -/
inductive Charset where
  | utf8
  | utf16 (order : ByteOrder)
  | singleByte (name : String)
  | userDefined
  | unread
  deriving DecidableEq, Repr

namespace Charset

/-- The sets of one byte, with their labels other than their names. -/
def singleByteLabels : List (String × List String) := [
  ("ibm866", ["866", "cp866", "csibm866"]),
  ("iso-8859-2", ["csisolatin2", "iso-ir-101", "iso8859-2", "iso88592", "iso_8859-2",
    "iso_8859-2:1987", "l2", "latin2"]),
  ("iso-8859-3", ["csisolatin3", "iso-ir-109", "iso8859-3", "iso88593", "iso_8859-3",
    "iso_8859-3:1988", "l3", "latin3"]),
  ("iso-8859-4", ["csisolatin4", "iso-ir-110", "iso8859-4", "iso88594", "iso_8859-4",
    "iso_8859-4:1988", "l4", "latin4"]),
  ("iso-8859-5", ["csisolatincyrillic", "cyrillic", "iso-ir-144", "iso8859-5", "iso88595",
    "iso_8859-5", "iso_8859-5:1988"]),
  ("iso-8859-6", ["arabic", "asmo-708", "csiso88596e", "csiso88596i", "csisolatinarabic",
    "ecma-114", "iso-8859-6-e", "iso-8859-6-i", "iso-ir-127", "iso8859-6", "iso88596",
    "iso_8859-6", "iso_8859-6:1987"]),
  ("iso-8859-7", ["csisolatingreek", "ecma-118", "elot_928", "greek", "greek8", "iso-ir-126",
    "iso8859-7", "iso88597", "iso_8859-7", "iso_8859-7:1987", "sun_eu_greek"]),
  ("iso-8859-8", ["csiso88598e", "csiso88598i", "csisolatinhebrew", "hebrew", "iso-8859-8-e",
    "iso-8859-8-i", "iso-ir-138", "iso8859-8", "iso88598", "iso_8859-8", "iso_8859-8:1988",
    "logical", "visual"]),
  ("iso-8859-10", ["csisolatin6", "iso-ir-157", "iso8859-10", "iso885910", "l6", "latin6"]),
  ("iso-8859-13", ["iso8859-13", "iso885913"]),
  ("iso-8859-14", ["iso8859-14", "iso885914"]),
  ("iso-8859-15", ["csisolatin9", "iso8859-15", "iso885915", "iso_8859-15", "l9"]),
  ("iso-8859-16", []),
  ("koi8-r", ["cskoi8r", "koi", "koi8", "koi8_r"]),
  ("koi8-u", ["koi8-ru"]),
  ("macintosh", ["csmacintosh", "mac", "x-mac-roman"]),
  ("windows-874", ["dos-874", "iso-8859-11", "iso8859-11", "iso885911", "tis-620"]),
  ("windows-1250", ["cp1250", "x-cp1250"]),
  ("windows-1251", ["cp1251", "x-cp1251"]),
  ("windows-1252", ["ansi_x3.4-1968", "ascii", "cp1252", "cp819", "csisolatin1", "ibm819",
    "iso-8859-1", "iso-ir-100", "iso8859-1", "iso88591", "iso_8859-1", "iso_8859-1:1987", "l1",
    "latin1", "us-ascii", "x-cp1252"]),
  ("windows-1253", ["cp1253", "x-cp1253"]),
  ("windows-1254", ["cp1254", "csisolatin5", "iso-8859-9", "iso-ir-148", "iso8859-9", "iso88599",
    "iso_8859-9", "iso_8859-9:1989", "l5", "latin5", "x-cp1254"]),
  ("windows-1255", ["cp1255", "x-cp1255"]),
  ("windows-1256", ["cp1256", "x-cp1256"]),
  ("windows-1257", ["cp1257", "x-cp1257"]),
  ("windows-1258", ["cp1258", "x-cp1258"]),
  ("x-mac-cyrillic", ["x-mac-ukrainian"])]

/-- The other ways to read bytes, with their labels. -/
def otherLabels : List (Charset × List String) := [
  (.utf8, ["unicode-1-1-utf-8", "unicode11utf8", "unicode20utf8", "utf-8", "utf8",
    "x-unicode20utf8"]),
  (.utf16 .littleEndian, ["csunicode", "iso-10646-ucs-2", "ucs-2", "unicode", "unicodefeff",
    "utf-16", "utf-16le"]),
  (.utf16 .bigEndian, ["unicodefffe", "utf-16be"]),
  (.userDefined, ["x-user-defined"]),
  (.unread, ["csiso2022kr", "hz-gb-2312", "iso-2022-cn", "iso-2022-cn-ext", "iso-2022-kr",
    "replacement"])]

/-- Whether a character is a blank around a label. -/
def isLabelBlank (c : Char) : Bool := ['\t', '\n', '\x0c', '\r', ' '].contains c

/-- The way to read bytes that a label calls. -/
def ofLabel? (label : String) : Option Charset :=
  let s := label.toList.dropWhile isLabelBlank
  let label := String.ofList (lowerCase (s.reverse.dropWhile isLabelBlank).reverse)
  match otherLabels.find? fun (_, labels) => labels.contains label with
  | some (charset, _) => some charset
  | none =>
    (singleByteLabels.find? fun (name, labels) => name = label || labels.contains label).map
      fun (name, _) => .singleByte name

/-- The character of a byte in a set that only its user knows: the upper half of the bytes stands
for characters of private use. -/
def userChar (b : UInt8) : Char :=
  Char.ofNat (if b.toNat < 0x80 then b.toNat else 0xF700 + b.toNat)

/-- Reads bytes that bear no mark. -/
def decode (charset : Charset) (bytes : List UInt8) : List Char :=
  match charset with
  | .utf8 => decodeUtf8 bytes
  | .utf16 order => decodeUtf16 order bytes
  | .singleByte name => decodeSingleByte name bytes
  | .userDefined => bytes.map userChar
  | .unread => if bytes = [] then [] else [replacement]

/-- Reads bytes. A mark of byte order at their beginning is dropped, and tells how they are
meant. -/
def read (charset : Charset) : List UInt8 → List Char
  | 0xEF :: 0xBB :: 0xBF :: rest => utf8.decode rest
  | 0xFF :: 0xFE :: rest => (utf16 .littleEndian).decode rest
  | 0xFE :: 0xFF :: rest => (utf16 .bigEndian).decode rest
  | bytes => charset.decode bytes

end Charset

end Dialogue.Text
