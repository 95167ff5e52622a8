import TagAudit.Charset.Chinese
import TagAudit.Charset.Escaped
import TagAudit.Charset.Japanese
import TagAudit.Charset.Korean
import TagAudit.Charset.Punycode
import TagAudit.Charset.Switched
import TagAudit.Charset.Table.SingleByte
import TagAudit.Charset.Utf7
import TagAudit.Charset.Wide

/-!
# Names of charsets

The charset of a name. Large and small letters are the same in names, and any run of marks between
letters and digits is the same as any other, but for full stops.

* `Charset.ofName?` looks a name up.
-/

namespace TagAudit.Charset

/-- A charset with its name and the other names that it goes by, in their normal form. -/
structure Registered where
  name : String
  others : List String := []
  charset : Charset

/-- The class of faults that concern charsets. -/
def unicodeError : Fault.Kind := .other "UnicodeError"

/-- What a name stands for that does not make a text of octets. -/
def refused (kind : Fault.Kind) (message : Text) : Charset := fun _ => .error (.worded kind message)

/-- Charsets of all of Unicode. -/
def unicodeNames : List Registered := [
  ⟨"punycode", [], punycode⟩,
  ⟨"raw_unicode_escape", [], numberEscapes⟩,
  ⟨"unicode_escape", [], escapes⟩,
  ⟨"utf_7", ["u7", "unicode_1_1_utf_7", "utf7"], utf7⟩,
  ⟨"utf_8", ["cp65001", "u8", "utf", "utf8", "utf8_ucs2", "utf8_ucs4"], utf8⟩,
  ⟨"utf_8_sig", [], utf8Marked⟩,
  ⟨"utf_16", ["u16", "utf16"], utf16⟩,
  ⟨"utf_16_be", ["unicodebigunmarked", "utf_16be"], utf16In .big⟩,
  ⟨"utf_16_le", ["unicodelittleunmarked", "utf_16le"], utf16In .little⟩,
  ⟨"utf_32", ["u32", "utf32"], utf32⟩,
  ⟨"utf_32_be", ["utf_32be"], utf32In .big⟩,
  ⟨"utf_32_le", ["utf_32le"], utf32In .little⟩]

/-- ASCII and the parts of ISO 8859. -/
def isoNames : List Registered := [
  ⟨"ascii", [
    "646", "ansi_x3.4_1968", "ansi_x3.4_1986", "ansi_x3_4_1968", "cp367", "csascii", "ibm367",
    "iso646_us", "iso_646.irv_1991", "iso_ir_6", "us", "us_ascii"], extended []⟩,
  ⟨"charmap", [], latin1⟩,
  ⟨"iso8859_1", [], latin1⟩,
  ⟨"iso8859_2", [
    "csisolatin2", "iso_8859_2", "iso_8859_2_1987", "iso_ir_101", "l2", "latin2"], extended iso2⟩,
  ⟨"iso8859_3", [
    "csisolatin3", "iso_8859_3", "iso_8859_3_1988", "iso_ir_109", "l3", "latin3"], extended iso3⟩,
  ⟨"iso8859_4", [
    "csisolatin4", "iso_8859_4", "iso_8859_4_1988", "iso_ir_110", "l4", "latin4"], extended iso4⟩,
  ⟨"iso8859_5", [
    "csisolatincyrillic", "cyrillic", "iso_8859_5", "iso_8859_5_1988", "iso_ir_144"],
    extended iso5⟩,
  ⟨"iso8859_6", [
    "arabic", "asmo_708", "csisolatinarabic", "ecma_114", "iso_8859_6", "iso_8859_6_1987",
    "iso_ir_127"], extended iso6⟩,
  ⟨"iso8859_7", [
    "csisolatingreek", "ecma_118", "elot_928", "greek", "greek8", "iso_8859_7",
    "iso_8859_7_1987", "iso_ir_126"], extended iso7⟩,
  ⟨"iso8859_8", [
    "csisolatinhebrew", "hebrew", "iso_8859_8", "iso_8859_8_1988", "iso_ir_138"], extended iso8⟩,
  ⟨"iso8859_9", [
    "csisolatin5", "iso_8859_9", "iso_8859_9_1989", "iso_ir_148", "l5", "latin5"], extended iso9⟩,
  ⟨"iso8859_10", [
    "csisolatin6", "iso_8859_10", "iso_8859_10_1992", "iso_ir_157", "l6", "latin6"],
    extended iso10⟩,
  ⟨"iso8859_11", ["iso_8859_11", "iso_8859_11_2001", "thai"], extended iso11⟩,
  ⟨"iso8859_13", ["iso_8859_13", "l7", "latin7"], extended iso13⟩,
  ⟨"iso8859_14", [
    "iso_8859_14", "iso_8859_14_1998", "iso_celtic", "iso_ir_199", "l8", "latin8"],
    extended iso14⟩,
  ⟨"iso8859_15", ["iso_8859_15", "l9", "latin9"], extended iso15⟩,
  ⟨"iso8859_16", [
    "iso_8859_16", "iso_8859_16_2001", "iso_ir_226", "l10", "latin10"], extended iso16⟩,
  ⟨"latin_1", [
    "8859", "cp819", "csisolatin1", "ibm819", "iso8859", "iso8859_1", "iso_8859_1",
    "iso_8859_1_1987", "iso_ir_100", "l1", "latin", "latin1"], latin1⟩]

/-- Charsets of EBCDIC. -/
def ebcdicNames : List Registered := [
  ⟨"cp037", [
    "037", "csibm037", "ebcdic_cp_ca", "ebcdic_cp_nl", "ebcdic_cp_us", "ebcdic_cp_wt", "ibm037",
    "ibm039"], full cp037⟩,
  ⟨"cp273", ["273", "csibm273", "ibm273"], full cp273⟩,
  ⟨"cp424", ["424", "csibm424", "ebcdic_cp_he", "ibm424"], full cp424⟩,
  ⟨"cp500", ["500", "csibm500", "ebcdic_cp_be", "ebcdic_cp_ch", "ibm500"], full cp500⟩,
  ⟨"cp875", [], full cp875⟩,
  ⟨"cp1026", ["1026", "csibm1026", "ibm1026"], full cp1026⟩,
  ⟨"cp1140", ["1140", "ibm1140"], full cp1140⟩]

/-- Charsets of personal computers and of Windows. -/
def pageNames : List Registered := [
  ⟨"cp437", ["437", "cspc8codepage437", "ibm437"], extended cp437⟩,
  ⟨"cp720", [], extended cp720⟩,
  ⟨"cp737", [], extended cp737⟩,
  ⟨"cp775", ["775", "cspc775baltic", "ibm775"], extended cp775⟩,
  ⟨"cp850", ["850", "cspc850multilingual", "ibm850"], extended cp850⟩,
  ⟨"cp852", ["852", "cspcp852", "ibm852"], extended cp852⟩,
  ⟨"cp855", ["855", "csibm855", "ibm855"], extended cp855⟩,
  ⟨"cp856", [], extended cp856⟩,
  ⟨"cp857", ["857", "csibm857", "ibm857"], extended cp857⟩,
  ⟨"cp858", ["858", "csibm858", "ibm858"], extended cp858⟩,
  ⟨"cp860", ["860", "csibm860", "ibm860"], extended cp860⟩,
  ⟨"cp861", ["861", "cp_is", "csibm861", "ibm861"], extended cp861⟩,
  ⟨"cp862", ["862", "cspc862latinhebrew", "ibm862"], extended cp862⟩,
  ⟨"cp863", ["863", "csibm863", "ibm863"], extended cp863⟩,
  ⟨"cp864", ["864", "csibm864", "ibm864"], full cp864⟩,
  ⟨"cp865", ["865", "csibm865", "ibm865"], extended cp865⟩,
  ⟨"cp866", ["866", "csibm866", "ibm866"], extended cp866⟩,
  ⟨"cp869", ["869", "cp_gr", "csibm869", "ibm869"], extended cp869⟩,
  ⟨"cp874", [], extended cp874⟩,
  ⟨"cp1006", [], extended cp1006⟩,
  ⟨"cp1125", ["1125", "cp866u", "ibm1125", "ruscii"], extended cp1125⟩,
  ⟨"cp1250", ["1250", "windows_1250"], extended cp1250⟩,
  ⟨"cp1251", ["1251", "windows_1251"], extended cp1251⟩,
  ⟨"cp1252", ["1252", "windows_1252"], extended cp1252⟩,
  ⟨"cp1253", ["1253", "windows_1253"], extended cp1253⟩,
  ⟨"cp1254", ["1254", "windows_1254"], extended cp1254⟩,
  ⟨"cp1255", ["1255", "windows_1255"], extended cp1255⟩,
  ⟨"cp1256", ["1256", "windows_1256"], extended cp1256⟩,
  ⟨"cp1257", ["1257", "windows_1257"], extended cp1257⟩,
  ⟨"cp1258", ["1258", "windows_1258"], extended cp1258⟩]

/-- Other charsets with one octet for a code point. -/
def otherNames : List Registered := [
  ⟨"hp_roman8", ["cp1051", "ibm1051", "r8", "roman8"], extended hpRoman8⟩,
  ⟨"hz", ["hz_gb", "hz_gb_2312", "hzgb"], hz⟩,
  ⟨"koi8_r", ["cskoi8r"], extended koi8R⟩,
  ⟨"koi8_t", [], extended koi8T⟩,
  ⟨"koi8_u", [], extended koi8U⟩,
  ⟨"kz1048", ["kz_1048", "rk1048", "strk1048_2002"], extended kz1048⟩,
  ⟨"mac_arabic", [], extended macArabic⟩,
  ⟨"mac_croatian", [], extended macCroatian⟩,
  ⟨"mac_cyrillic", ["maccyrillic"], extended macCyrillic⟩,
  ⟨"mac_farsi", [], extended macFarsi⟩,
  ⟨"mac_greek", ["macgreek"], extended macGreek⟩,
  ⟨"mac_iceland", ["maciceland"], extended macIceland⟩,
  ⟨"mac_latin2", ["mac_centeuro", "maccentraleurope", "maclatin2"], extended macLatin2⟩,
  ⟨"mac_roman", ["macintosh", "macroman"], extended macRoman⟩,
  ⟨"mac_romanian", [], extended macRomanian⟩,
  ⟨"mac_turkish", ["macturkish"], extended macTurkish⟩,
  ⟨"palmos", [], extended palmos⟩,
  ⟨"ptcp154", ["cp154", "csptcp154", "cyrillic_asian", "pt154"], extended ptcp154⟩,
  ⟨"tis_620", [
    "iso_ir_166", "tis620", "tis_620_0", "tis_620_2529_0", "tis_620_2529_1"], extended tis620⟩]

/-- Charsets of East Asia. -/
def eastAsianNames : List Registered := [
  ⟨"big5", ["big5_tw", "csbig5", "x_mac_trad_chinese"], big5Charset⟩,
  ⟨"big5hkscs", ["big5_hkscs", "hkscs"], hongKongCharset⟩,
  ⟨"cp932", ["932", "ms932", "ms_kanji", "mskanji"], shiftJis .windows⟩,
  ⟨"cp949", ["949", "ms949", "uhc"], windowsKorean⟩,
  ⟨"cp950", ["950", "ms950"], windowsTraditional⟩,
  ⟨"euc_jis_2004", ["euc_jis2004", "eucjis2004", "jisx0213"], eucJapanese .wide2004⟩,
  ⟨"euc_jisx0213", ["eucjisx0213"], eucJapanese .wide⟩,
  ⟨"euc_jp", ["eucjp", "u_jis", "ujis"], eucJapanese .basic⟩,
  ⟨"euc_kr", [
    "euckr", "korean", "ks_c_5601", "ks_c_5601_1987", "ks_x_1001", "ksc5601", "ksx1001",
    "x_mac_korean"], eucKorean⟩,
  ⟨"gb2312", [
    "chinese", "csiso58gb231280", "euc_cn", "euccn", "eucgb2312_cn", "gb2312_80", "gb2312_1980",
    "iso_ir_58", "x_mac_simp_chinese"], gb2312⟩,
  ⟨"gb18030", ["gb18030_2000"], gb18030⟩,
  ⟨"gbk", ["936", "cp936", "ms936"], gbkCharset⟩,
  ⟨"iso2022_jp", ["csiso2022jp", "iso2022jp", "iso_2022_jp"], iso2022Japanese⟩,
  ⟨"iso2022_jp_1", ["iso2022jp_1", "iso_2022_jp_1"], iso2022Japanese1⟩,
  ⟨"iso2022_jp_2", ["iso2022jp_2", "iso_2022_jp_2"], iso2022Japanese2⟩,
  ⟨"iso2022_jp_3", ["iso2022jp_3", "iso_2022_jp_3"], iso2022Japanese3⟩,
  ⟨"iso2022_jp_2004", ["iso2022jp_2004", "iso_2022_jp_2004"], iso2022Japanese2004⟩,
  ⟨"iso2022_jp_ext", ["iso2022jp_ext", "iso_2022_jp_ext"], iso2022JapaneseExtended⟩,
  ⟨"iso2022_kr", ["csiso2022kr", "iso2022kr", "iso_2022_kr"], iso2022Korean⟩,
  ⟨"johab", ["cp1361", "ms1361"], johab⟩,
  ⟨"shift_jis", ["csshiftjis", "s_jis", "shiftjis", "sjis", "x_mac_japanese"], shiftJis .basic⟩,
  ⟨"shift_jis_2004", ["s_jis_2004", "shiftjis2004", "sjis_2004"], shiftJis .wide2004⟩,
  ⟨"shift_jisx0213", ["s_jisx0213", "shiftjisx0213", "sjisx0213"], shiftJis .wide⟩]

/-- Names of what does not make a text of octets, or not with octets left out. -/
def transformNames : List Registered := [
  ⟨"base64_codec", ["base64", "base_64"], refused (.other "AssertionError") ""⟩,
  ⟨"bz2_codec", ["bz2"], refused (.other "AssertionError") ""⟩,
  ⟨"hex_codec", ["hex"], refused (.other "AssertionError") ""⟩,
  ⟨"idna", [], refused unicodeError "Unsupported error handling replace"⟩,
  ⟨"quopri_codec", [
    "quopri", "quoted_printable", "quotedprintable"], refused (.other "AssertionError") ""⟩,
  ⟨"rot_13", ["rot13"], refused .type ""⟩,
  ⟨"undefined", [], refused unicodeError "undefined encoding"⟩,
  ⟨"uu_codec", ["uu"], refused (.other "AssertionError") ""⟩,
  ⟨"zlib_codec", ["zip", "zlib"], refused (.other "AssertionError") ""⟩]

/-- All charsets. -/
def registered : List Registered :=
  unicodeNames ++ isoNames ++ ebcdicNames ++ pageNames ++ otherNames ++ eastAsianNames ++
    transformNames

/-! ## Look-up -/

/-- The mark between the parts of a name in its normal form. -/
def nameMark : CodePoint := '_'

/-- The normal form of a name: small letters, digits and full stops, with a low line for every run
of other marks between them. -/
def normalName (name : Text) : Text :=
  let marked : Text := name.map fun (c : CodePoint) =>
    if c.isAsciiLower || c.isAsciiUpper || c.isAsciiDigit || c = '.' then c.lower else nameMark
  Text.join [nameMark] ((Text.splitOn nameMark marked).filter fun part => !part.isEmpty)

/-- The charset of a name, if it is known. A full stop counts as a low line only in the other names
that charsets go by. -/
def ofName? (name : Text) : Except Fault (Option Charset) :=
  if name.contains (CodePoint.ofNat 0) then .error (.worded .value "embedded null character")
  else
    let n := normalName name
    let m : Text := n.map fun (c : CodePoint) => if c = '.' then nameMark else c
    let isOther (t : Text) (r : Registered) : Bool := r.others.any fun other => (other : Text) = t
    let found := (registered.find? (isOther n)).or ((registered.find? (isOther m)).or
      (registered.find? fun r => (r.name : Text) = n))
    .ok (found.map Registered.charset)

end TagAudit.Charset
