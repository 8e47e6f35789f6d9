import JavaAtlas.Encoding.Charset
import JavaAtlas.Encoding.Console
import JavaAtlas.Encoding.Iso
import JavaAtlas.Encoding.Mac
import JavaAtlas.Encoding.Mainframe
import JavaAtlas.Encoding.Regional
import JavaAtlas.Encoding.Utf
import JavaAtlas.Encoding.Windows

/-! Encodings and the names they go by. -/

namespace JavaAtlas

/-- An encoding. Where the byte order is left open, a mark at the start gives it. -/
inductive Encoding where
  | ascii
  | latin1
  | page (p : Encoding.Page)
  | charset (c : Encoding.Charset)
  | utf7
  | utf8
  /-- UTF-8 after an optional mark at the start. -/
  | utf8Marked
  | utf16 (order : Option ByteOrder)
  | utf32 (order : Option ByteOrder)
  /-- The encoding in which nothing can be read. -/
  | undefined
deriving Repr, BEq, DecidableEq

namespace Encoding

/-- Letters, digits and points of ASCII make up a name; all else divides it. -/
def isNameChar (c : Char) : Bool := c.isAlphanum || c == '.'

/-- A name in its plain form: in lower case, with one low line for every run of dividing
characters between others. -/
def plainFrom (started gap : Bool) : List Char → List Char
  | [] => []
  | c :: cs =>
    if isNameChar c then
      (if gap && started then ['_', c.toLower] else [c.toLower]) ++ plainFrom true false cs
    else plainFrom started true cs

def plainName (name : String) : String := String.ofList (plainFrom false false name.toList)

/-- A name with a low line for every point. -/
def withoutPoints (name : String) : String := name.map fun c => if c == '.' then '_' else c

/-- What a name may refer to, with its own name and its other names. -/
structure Entry (α : Type) where
  value : α
  name : String
  aliases : List String := []

/-- The entry of a plain name: by another name, also one with low lines for its points, else by its
own name. -/
def find? {α : Type} (entries : List (Entry α)) (plain : String) : Option α :=
  let byAlias (name : String) := entries.find? fun e => e.aliases.contains name
  let byName := entries.find? fun e => e.name == plain
  ((byAlias plain).or ((byAlias (withoutPoints plain)).or byName)).map Entry.value

/-- All code pages. -/
def pages : List Page :=
  Page.isoPages ++ Page.windowsPages ++ Page.consolePages ++ Page.mainframePages ++
    Page.macPages ++ Page.regionalPages

/-- The encodings of characters in one or more bytes. -/
def charsets : List (Entry Charset) :=
  [⟨.shiftJis, "shift_jis", ["csshiftjis", "s_jis", "shiftjis", "sjis", "x_mac_japanese"]⟩,
   ⟨.windows31j, "cp932", ["932", "ms932", "ms_kanji", "mskanji"]⟩,
   ⟨.eucJp, "euc_jp", ["eucjp", "u_jis", "ujis"]⟩,
   ⟨.gb2312, "gb2312", ["chinese", "csiso58gb231280", "euc_cn", "euccn", "eucgb2312_cn",
      "gb2312_1980", "gb2312_80", "iso_ir_58", "x_mac_simp_chinese"]⟩,
   ⟨.gbk, "gbk", ["936", "cp936", "ms936"]⟩,
   ⟨.gb18030, "gb18030", ["gb18030_2000"]⟩,
   ⟨.big5, "big5", ["big5_tw", "csbig5", "x_mac_trad_chinese"]⟩,
   ⟨.windows950, "cp950", ["950", "ms950"]⟩,
   ⟨.eucKr, "euc_kr", ["euckr", "korean", "ks_c_5601", "ks_c_5601_1987", "ks_x_1001", "ksc5601",
      "ksx1001", "x_mac_korean"]⟩,
   ⟨.windows949, "cp949", ["949", "ms949", "uhc"]⟩]

/-- The encodings that can be read, and their plain names. -/
def known : List (Entry Encoding) :=
  [⟨.utf8, "utf_8", ["cp65001", "u8", "utf", "utf8", "utf8_ucs2", "utf8_ucs4"]⟩,
   ⟨.utf8Marked, "utf_8_sig", []⟩,
   ⟨.ascii, "ascii", ["646", "ansi_x3.4_1968", "ansi_x3.4_1986", "ansi_x3_4_1968", "cp367",
      "csascii", "ibm367", "iso646_us", "iso_646.irv_1991", "iso_ir_6", "us", "us_ascii"]⟩,
   ⟨.latin1, "latin_1", ["8859", "cp819", "csisolatin1", "ibm819", "iso8859", "iso8859_1",
      "iso_8859_1", "iso_8859_1_1987", "iso_ir_100", "l1", "latin", "latin1"]⟩,
   ⟨.latin1, "charmap", []⟩,
   ⟨.utf7, "utf_7", ["u7", "unicode_1_1_utf_7", "utf7"]⟩,
   ⟨.utf16 none, "utf_16", ["u16", "utf16"]⟩,
   ⟨.utf16 (some .little), "utf_16_le", ["unicodelittleunmarked", "utf_16le"]⟩,
   ⟨.utf16 (some .big), "utf_16_be", ["unicodebigunmarked", "utf_16be"]⟩,
   ⟨.utf32 none, "utf_32", ["u32", "utf32"]⟩,
   ⟨.utf32 (some .little), "utf_32_le", ["utf_32le"]⟩,
   ⟨.utf32 (some .big), "utf_32_be", ["utf_32be"]⟩,
   ⟨.undefined, "undefined", []⟩] ++
  charsets.map (fun e => ⟨.charset e.value, e.name, e.aliases⟩) ++
  pages.map fun p => ⟨.page p, p.name, p.aliases⟩

/-- Names of encodings that cannot be read here: those that switch planes by escape sequences (HZ and
ISO 2022), Johab, the planes of JIS X 0213 and that of Hong Kong, Punycode and IDNA, and the escapes
of program texts. -/
def unsupported : List (Entry Unit) :=
  [⟨(), "big5hkscs", ["big5_hkscs", "hkscs"]⟩,
   ⟨(), "euc_jis_2004", ["euc_jis2004", "eucjis2004", "jisx0213"]⟩,
   ⟨(), "euc_jisx0213", ["eucjisx0213"]⟩, ⟨(), "hz", ["hz_gb", "hz_gb_2312", "hzgb"]⟩,
   ⟨(), "idna", []⟩, ⟨(), "iso2022_jp", ["csiso2022jp", "iso2022jp", "iso_2022_jp"]⟩,
   ⟨(), "iso2022_jp_1", ["iso2022jp_1", "iso_2022_jp_1"]⟩,
   ⟨(), "iso2022_jp_2", ["iso2022jp_2", "iso_2022_jp_2"]⟩,
   ⟨(), "iso2022_jp_2004", ["iso2022jp_2004", "iso_2022_jp_2004"]⟩,
   ⟨(), "iso2022_jp_3", ["iso2022jp_3", "iso_2022_jp_3"]⟩,
   ⟨(), "iso2022_jp_ext", ["iso2022jp_ext", "iso_2022_jp_ext"]⟩,
   ⟨(), "iso2022_kr", ["csiso2022kr", "iso2022kr", "iso_2022_kr"]⟩,
   ⟨(), "johab", ["cp1361", "ms1361"]⟩, ⟨(), "punycode", []⟩, ⟨(), "raw_unicode_escape", []⟩,
   ⟨(), "shift_jis_2004", ["s_jis_2004", "shiftjis2004", "sjis_2004"]⟩,
   ⟨(), "shift_jisx0213", ["s_jisx0213", "shiftjisx0213", "sjisx0213"]⟩,
   ⟨(), "unicode_escape", []⟩]

/-- Names of other transformations of bytes, whose result is no text. -/
def transformations : List (Entry Unit) :=
  [⟨(), "base64_codec", ["base64", "base_64"]⟩, ⟨(), "bz2_codec", ["bz2"]⟩,
   ⟨(), "hex_codec", ["hex"]⟩, ⟨(), "uu_codec", ["uu"]⟩, ⟨(), "rot_13", ["rot13"]⟩,
   ⟨(), "quopri_codec", ["quopri", "quoted_printable", "quotedprintable"]⟩,
   ⟨(), "zlib_codec", ["zip", "zlib"]⟩]

/-- The encoding of a name. One name stands for the encoding of the surroundings, which is
UTF-8. -/
def ofName? (name : String) : Option Encoding :=
  if name == "locale" then some .utf8 else find? known (plainName name)

/-- The name is one of an encoding that cannot be read here. -/
def isUnsupported (name : String) : Bool := (find? unsupported (plainName name)).isSome

/-- The name is one of a transformation whose result is no text. -/
def isTransformation (name : String) : Bool := (find? transformations (plainName name)).isSome

end Encoding

end JavaAtlas
