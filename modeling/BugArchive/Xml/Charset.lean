import BugArchive.Xml.Charset.Table
/-!
Named sets of characters beyond those that every reader of documents has. A name is compared
without regard to case, and every run of other characters than letters, digits and points counts
as one underscore.
-/
namespace BugArchive.Xml

/-- What a name stands for. In a `foreign` set the characters of markup have other octets than in
ASCII; a `transform` does not give text at all; the last three cannot give a character for each
octet. -/
inductive Charset where
  | single (table : Charset.Table)
  | foreign
  | multiByte
  | transform
  | withoutReplacement
  | undefined
  | punycode
deriving DecidableEq, Repr

namespace Charset

structure Entry where
  charset : Charset
  names : List String
  aliases : List String

def entries : List Entry := [
  ⟨.single .ascii, ["ascii", "iso2022_jp", "iso2022_jp_1", "iso2022_jp_2", "iso2022_jp_2004",
    "iso2022_jp_3", "iso2022_jp_ext", "utf_8", "utf_8_sig"], ["ansi_x3.4_1968", "ansi_x3.4_1986",
    "ansi_x3_4_1968", "cp367", "cp65001", "csascii", "csiso2022jp", "ibm367", "iso2022jp",
    "iso2022jp_1", "iso2022jp_2", "iso2022jp_2004", "iso2022jp_3", "iso2022jp_ext", "iso646_us",
    "iso_2022_jp", "iso_2022_jp_1", "iso_2022_jp_2", "iso_2022_jp_2004", "iso_2022_jp_3",
    "iso_2022_jp_ext", "iso_646.irv_1991", "iso_ir_6", "u8", "us", "us_ascii", "utf", "utf8",
    "utf8_ucs2", "utf8_ucs4"]⟩,
  ⟨.single .asianCyrillic, ["ptcp154"], ["cp154", "csptcp154", "cyrillic_asian", "pt154"]⟩,
  ⟨.single .codePage437, ["cp437"], ["cspc8codepage437", "ibm437"]⟩,
  ⟨.single .codePage720, ["cp720"], []⟩,
  ⟨.single .codePage737, ["cp737"], []⟩,
  ⟨.single .codePage775, ["cp775"], ["cspc775baltic", "ibm775"]⟩,
  ⟨.single .codePage850, ["cp850"], ["cspc850multilingual", "ibm850"]⟩,
  ⟨.single .codePage852, ["cp852"], ["cspcp852", "ibm852"]⟩,
  ⟨.single .codePage855, ["cp855"], ["csibm855", "ibm855"]⟩,
  ⟨.single .codePage856, ["cp856"], []⟩,
  ⟨.single .codePage857, ["cp857"], ["csibm857", "ibm857"]⟩,
  ⟨.single .codePage858, ["cp858"], ["csibm858", "ibm858"]⟩,
  ⟨.single .codePage860, ["cp860"], ["csibm860", "ibm860"]⟩,
  ⟨.single .codePage861, ["cp861"], ["cp_is", "csibm861", "ibm861"]⟩,
  ⟨.single .codePage862, ["cp862"], ["cspc862latinhebrew", "ibm862"]⟩,
  ⟨.single .codePage863, ["cp863"], ["csibm863", "ibm863"]⟩,
  ⟨.single .codePage865, ["cp865"], ["csibm865", "ibm865"]⟩,
  ⟨.single .codePage866, ["cp866"], ["csibm866", "ibm866"]⟩,
  ⟨.single .codePage869, ["cp869"], ["cp_gr", "csibm869", "ibm869"]⟩,
  ⟨.single .codePage874, ["cp874"], []⟩,
  ⟨.single .codePage1006, ["cp1006"], []⟩,
  ⟨.single .codePage1125, ["cp1125"], ["cp866u", "ibm1125", "ruscii"]⟩,
  ⟨.single .kazakh1048, ["kz1048"], ["kz_1048", "rk1048", "strk1048_2002"]⟩,
  ⟨.single .koi8R, ["koi8_r"], ["cskoi8r"]⟩,
  ⟨.single .koi8T, ["koi8_t"], []⟩,
  ⟨.single .koi8U, ["koi8_u"], []⟩,
  ⟨.single .latin1, ["charmap", "latin_1", "raw_unicode_escape", "unicode_escape"], ["cp819",
    "csisolatin1", "ibm819", "iso8859", "iso8859_1", "iso_8859_1", "iso_8859_1_1987", "iso_ir_100",
    "l1", "latin", "latin1"]⟩,
  ⟨.single .latinPart2, ["iso8859_2"], ["csisolatin2", "iso_8859_2", "iso_8859_2_1987",
    "iso_ir_101", "l2", "latin2"]⟩,
  ⟨.single .latinPart3, ["iso8859_3"], ["csisolatin3", "iso_8859_3", "iso_8859_3_1988",
    "iso_ir_109", "l3", "latin3"]⟩,
  ⟨.single .latinPart4, ["iso8859_4"], ["csisolatin4", "iso_8859_4", "iso_8859_4_1988",
    "iso_ir_110", "l4", "latin4"]⟩,
  ⟨.single .latinPart5, ["iso8859_5"], ["csisolatincyrillic", "cyrillic", "iso_8859_5",
    "iso_8859_5_1988", "iso_ir_144"]⟩,
  ⟨.single .latinPart6, ["iso8859_6"], ["arabic", "asmo_708", "csisolatinarabic", "ecma_114",
    "iso_8859_6", "iso_8859_6_1987", "iso_ir_127"]⟩,
  ⟨.single .latinPart7, ["iso8859_7"], ["csisolatingreek", "ecma_118", "elot_928", "greek",
    "greek8", "iso_8859_7", "iso_8859_7_1987", "iso_ir_126"]⟩,
  ⟨.single .latinPart8, ["iso8859_8"], ["csisolatinhebrew", "hebrew", "iso_8859_8",
    "iso_8859_8_1988", "iso_ir_138"]⟩,
  ⟨.single .latinPart9, ["iso8859_9"], ["csisolatin5", "iso_8859_9", "iso_8859_9_1989",
    "iso_ir_148", "l5", "latin5"]⟩,
  ⟨.single .latinPart10, ["iso8859_10"], ["csisolatin6", "iso_8859_10", "iso_8859_10_1992",
    "iso_ir_157", "l6", "latin6"]⟩,
  ⟨.single .latinPart11, ["iso8859_11"], ["iso_8859_11", "iso_8859_11_2001", "thai"]⟩,
  ⟨.single .latinPart13, ["iso8859_13"], ["iso_8859_13", "l7", "latin7"]⟩,
  ⟨.single .latinPart14, ["iso8859_14"], ["iso_8859_14", "iso_8859_14_1998", "iso_celtic",
    "iso_ir_199", "l8", "latin8"]⟩,
  ⟨.single .latinPart15, ["iso8859_15"], ["iso_8859_15", "l9", "latin9"]⟩,
  ⟨.single .latinPart16, ["iso8859_16"], ["iso_8859_16", "iso_8859_16_2001", "iso_ir_226", "l10",
    "latin10"]⟩,
  ⟨.single .macCroatian, ["mac_croatian"], []⟩,
  ⟨.single .macCyrillic, ["mac_cyrillic"], ["maccyrillic"]⟩,
  ⟨.single .macGreek, ["mac_greek"], ["macgreek"]⟩,
  ⟨.single .macIceland, ["mac_iceland"], ["maciceland"]⟩,
  ⟨.single .macLatin2, ["mac_latin2"], ["mac_centeuro", "maccentraleurope", "maclatin2"]⟩,
  ⟨.single .macRoman, ["mac_roman"], ["macintosh", "macroman"]⟩,
  ⟨.single .macRomanian, ["mac_romanian"], []⟩,
  ⟨.single .macTurkish, ["mac_turkish"], ["macturkish"]⟩,
  ⟨.single .palmOs, ["palmos"], []⟩,
  ⟨.single .roman8, ["hp_roman8"], ["cp1051", "ibm1051", "r8", "roman8"]⟩,
  ⟨.single .shifted, ["hz"], ["hz_gb", "hz_gb_2312", "hzgb"]⟩,
  ⟨.single .thai620, ["tis_620"], ["iso_ir_166", "tis620", "tis_620_0", "tis_620_2529_0",
    "tis_620_2529_1"]⟩,
  ⟨.single .windows1250, ["cp1250"], ["windows_1250"]⟩,
  ⟨.single .windows1251, ["cp1251"], ["windows_1251"]⟩,
  ⟨.single .windows1252, ["cp1252"], ["windows_1252"]⟩,
  ⟨.single .windows1253, ["cp1253"], ["windows_1253"]⟩,
  ⟨.single .windows1254, ["cp1254"], ["windows_1254"]⟩,
  ⟨.single .windows1255, ["cp1255"], ["windows_1255"]⟩,
  ⟨.single .windows1256, ["cp1256"], ["windows_1256"]⟩,
  ⟨.single .windows1257, ["cp1257"], ["windows_1257"]⟩,
  ⟨.single .windows1258, ["cp1258"], ["windows_1258"]⟩,
  ⟨.foreign, ["cp037", "cp1026", "cp1140", "cp273", "cp424", "cp500", "cp864", "cp875",
    "mac_arabic", "mac_farsi"], ["csibm037", "csibm1026", "csibm273", "csibm424", "csibm500",
    "csibm864", "ebcdic_cp_be", "ebcdic_cp_ca", "ebcdic_cp_ch", "ebcdic_cp_he", "ebcdic_cp_nl",
    "ebcdic_cp_us", "ebcdic_cp_wt", "ibm037", "ibm039", "ibm1026", "ibm1140", "ibm273", "ibm424",
    "ibm500", "ibm864"]⟩,
  ⟨.multiByte, ["big5", "big5hkscs", "cp932", "cp949", "cp950", "euc_jis_2004", "euc_jisx0213",
    "euc_jp", "euc_kr", "gb18030", "gb2312", "gbk", "iso2022_kr", "johab", "shift_jis",
    "shift_jis_2004", "shift_jisx0213", "utf_16", "utf_16_be", "utf_16_le", "utf_32", "utf_32_be",
    "utf_32_le", "utf_7"], ["big5_hkscs", "big5_tw", "chinese", "cp1361", "cp936", "csbig5",
    "csiso2022kr", "csiso58gb231280", "csshiftjis", "euc_cn", "euc_jis2004", "euccn",
    "eucgb2312_cn", "eucjis2004", "eucjisx0213", "eucjp", "euckr", "gb18030_2000", "gb2312_1980",
    "gb2312_80", "hkscs", "iso2022kr", "iso_2022_kr", "iso_ir_58", "jisx0213", "korean",
    "ks_c_5601", "ks_c_5601_1987", "ks_x_1001", "ksc5601", "ksx1001", "ms1361", "ms932", "ms936",
    "ms949", "ms950", "ms_kanji", "mskanji", "s_jis", "s_jis_2004", "s_jisx0213", "shiftjis",
    "shiftjis2004", "shiftjisx0213", "sjis", "sjis_2004", "sjisx0213", "u16", "u32", "u7", "u_jis",
    "uhc", "ujis", "unicode_1_1_utf_7", "unicodebigunmarked", "unicodelittleunmarked", "utf16",
    "utf32", "utf7", "utf_16be", "utf_16le", "utf_32be", "utf_32le", "x_mac_japanese",
    "x_mac_korean", "x_mac_simp_chinese", "x_mac_trad_chinese"]⟩,
  ⟨.transform, ["base64_codec", "bz2_codec", "hex_codec", "quopri_codec", "rot_13", "uu_codec",
    "zlib_codec"], ["base64", "base_64", "bz2", "hex", "quopri", "quoted_printable",
    "quotedprintable", "rot13", "uu", "zip", "zlib"]⟩,
  ⟨.withoutReplacement, ["idna"], []⟩,
  ⟨.undefined, ["undefined"], []⟩,
  ⟨.punycode, ["punycode"], []⟩]

def isNamePart (c : Char) : Bool :=
  c.isAlphanum || c == '.'

def normalize (name : String) : String :=
  let parts := (name.toList.map Char.toLower).splitOnP fun c => !isNamePart c
  String.ofList (List.intercalate ['_'] (parts.filter fun p => !p.isEmpty))

def find? (p : Entry → Bool) : Option Charset :=
  (entries.find? p).map Entry.charset

/-- In a name that is not known as it is, a point counts as an underscore if this gives one of the
other names of a set. -/
def ofName? (name : String) : Option Charset :=
  let key := normalize name
  let spaced := key.map fun c => if c = '.' then '_' else c
  (find? fun e => e.names.contains key || e.aliases.contains key).or
    (find? fun e => e.aliases.contains spaced)

end Charset

end BugArchive.Xml
