import MailIntake.Charset.Chinese
import MailIntake.Charset.Japanese
import MailIntake.Charset.SingleByte
import MailIntake.Charset.Unicode
import MailIntake.Text.Ascii
import MailIntake.Text.Utf8
/-!
Character sets of header texts: their labels, and the text that bytes denote in each.  Bytes without
a character become U+FFFD.
-/
namespace MailIntake.Charset

open Text

/-- A character set. -/
inductive Encoding
  | utf8
  | utf7
  /-- Units of two bytes; `big` says that the first byte is the high one. -/
  | utf16 (big : Bool)
  /-- The upper half of a set of single bytes. -/
  | singleByte (upper : String)
  | doubleByte (set : DoubleByte)
  | eucJp
  | iso2022Jp
  | gb18030
  /-- The upper half stands at U+F780. -/
  | userDefined

def table : List (String × Encoding) :=
  [("unicode-1-1-utf-8 unicode11utf8 unicode20utf8 utf-8 utf8 x-unicode20utf8", .utf8),
    ("utf-7 csunicode11utf7 unicode-1-1-utf-7 x-unicode-2-0-utf-7", .utf7),
    ("chinese csgb2312 csiso58gb231280 gb2312 gb_2312 gb_2312-80 gbk iso-ir-58 x-gbk " ++
     "euc_cn ms936 gb18030", .gb18030),
    ("big5 big5-hkscs cn-big5 csbig5 x-x-big5 ms950 ms950_hkscs x-windows-950",
     .doubleByte big5),
    ("cseucpkdfmtjapanese euc-jp x-euc-jp euc_jp", .eucJp),
    ("csiso2022jp iso-2022-jp iso2022jp", .iso2022Jp),
    ("csshiftjis ms932 ms_kanji shift-jis shift_jis sjis windows-31j x-sjis",
     .doubleByte shiftJis),
    ("cseuckr csksc56011987 euc-kr iso-ir-149 korean ks_c_5601-1987 ks_c_5601-1989 " ++
     "ksc5601 ksc_5601 windows-949 euc_kr ms949 x-windows-949", .doubleByte eucKr),
    ("unicodefffe utf-16be", .utf16 true),
    ("csunicode iso-10646-ucs-2 ucs-2 unicode unicodefeff utf-16 utf-16le", .utf16 false),
    ("x-user-defined", .userDefined),
    ("866 cp866 csibm866 ibm866", .singleByte ibm866),
    ("csisolatin2 iso-8859-2 iso-ir-101 iso8859-2 iso88592 iso_8859-2 iso_8859-2:1987 l2 " ++
     "latin2 iso8859_2", .singleByte iso88592),
    ("csisolatin3 iso-8859-3 iso-ir-109 iso8859-3 iso88593 iso_8859-3 iso_8859-3:1988 l3 " ++
     "latin3 iso8859_3", .singleByte iso88593),
    ("csisolatin4 iso-8859-4 iso-ir-110 iso8859-4 iso88594 iso_8859-4 iso_8859-4:1988 l4 " ++
     "latin4 iso8859_4", .singleByte iso88594),
    ("csisolatincyrillic cyrillic iso-8859-5 iso-ir-144 iso8859-5 iso88595 iso_8859-5 " ++
     "iso_8859-5:1988 iso8859_5", .singleByte iso88595),
    ("arabic asmo-708 csiso88596e csiso88596i csisolatinarabic ecma-114 iso-8859-6 " ++
     "iso-8859-6-e iso-8859-6-i iso-ir-127 iso8859-6 iso88596 iso_8859-6 iso_8859-6:1987 " ++
     "iso8859_6", .singleByte iso88596),
    ("csisolatingreek ecma-118 elot_928 greek greek8 iso-8859-7 iso-ir-126 iso8859-7 " ++
     "iso88597 iso_8859-7 iso_8859-7:1987 sun_eu_greek iso8859_7", .singleByte iso88597),
    ("csiso88598e csisolatinhebrew hebrew iso-8859-8 iso-8859-8-e iso-ir-138 iso8859-8 " ++
     "iso88598 iso_8859-8 iso_8859-8:1988 visual csiso88598i iso-8859-8-i logical",
     .singleByte iso88598),
    ("csisolatin6 iso-8859-10 iso-ir-157 iso8859-10 iso885910 l6 latin6", .singleByte iso885910),
    ("iso-8859-13 iso8859-13 iso885913 iso8859_13", .singleByte iso885913),
    ("iso-8859-14 iso8859-14 iso885914", .singleByte iso885914),
    ("csisolatin9 iso-8859-15 iso8859-15 iso885915 iso_8859-15 l9 iso8859_15",
     .singleByte iso885915),
    ("iso-8859-16", .singleByte iso885916),
    ("cskoi8r koi koi8 koi8-r koi8_r", .singleByte koi8r),
    ("koi8-ru koi8-u koi8_u", .singleByte koi8u),
    ("csmacintosh mac macintosh x-mac-roman", .singleByte macintosh),
    ("dos-874 iso-8859-11 iso8859-11 iso885911 tis-620 windows-874 tis620 ms874 " ++
     "x-windows-874", .singleByte windows874),
    ("cp1250 windows-1250 x-cp1250", .singleByte windows1250),
    ("cp1251 windows-1251 x-cp1251", .singleByte windows1251),
    ("ansi_x3.4-1968 ascii cp1252 cp819 csisolatin1 ibm819 iso-8859-1 iso-ir-100 " ++
     "iso8859-1 iso88591 iso_8859-1 iso_8859-1:1987 l1 latin1 us-ascii windows-1252 " ++
     "x-cp1252 iso8859_1", .singleByte windows1252),
    ("cp1253 windows-1253 x-cp1253", .singleByte windows1253),
    ("cp1254 csisolatin5 iso-8859-9 iso-ir-148 iso8859-9 iso88599 iso_8859-9 " ++
     "iso_8859-9:1989 l5 latin5 windows-1254 x-cp1254 iso8859_9", .singleByte windows1254),
    ("cp1255 windows-1255 x-cp1255", .singleByte windows1255),
    ("cp1256 windows-1256 x-cp1256", .singleByte windows1256),
    ("cp1257 windows-1257 x-cp1257", .singleByte windows1257),
    ("cp1258 windows-1258 x-cp1258", .singleByte windows1258),
    ("x-mac-cyrillic x-mac-ukrainian", .singleByte macCyrillic)]

/-- The encoding of a label in any case, blanks at either end aside. -/
def ofLabel? (label : String) : Option Encoding :=
  let name := (dropTailWhile Ascii.isBlank (label.toList.dropWhile Ascii.isBlank)).map Char.toLower
  (table.find? fun row => (words (· == ' ') row.1.toList).contains name).map Prod.snd

def Encoding.decode (bytes : List UInt8) : Encoding → String
  | .utf8 => Utf8.decodeLossy bytes
  | .utf7 => String.ofList (decodeUtf7 bytes)
  | .utf16 big => String.ofList (decodeUtf16 big bytes)
  | .singleByte upper =>
      let chars := upper.toList.toArray
      String.ofList (bytes.map fun b =>
        if b < 0x80 then Char.ofNat b.toNat else chars.getD (b.toNat - 0x80) unknown)
  | .doubleByte set => String.ofList (set.decode bytes)
  | .eucJp => String.ofList (decodeEucJp bytes)
  | .iso2022Jp => String.ofList (decodeIso2022Jp bytes)
  | .gb18030 => String.ofList (Gb18030.decode bytes)
  | .userDefined =>
      String.ofList (bytes.map fun b =>
        if b < 0x80 then Char.ofNat b.toNat else Char.ofNat (0xF700 + b.toNat))

end MailIntake.Charset
