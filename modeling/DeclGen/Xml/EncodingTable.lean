/-!
The names of encodings and the upper halves of those with one character per byte. Names are written in
lower case with underscores between their words, several in a line. An alias may also be written with
dots in place of underscores, a proper name may not.
-/
namespace DeclGen.Xml

/-- The names of one or more encodings. -/
structure EncodingNames where
  proper : List String := []
  aliases : List String := []

/-- An encoding with one character per byte and the basic characters in its lower half. A replacement
character in the upper half stands for a byte without meaning. -/
structure Charset where
  names : EncodingNames
  upper : List String

/-- The upper control range, where many encodings have the characters of the same number. -/
def controls : String :=
  "\u0080\u0081\u0082\u0083\u0084\u0085\u0086\u0087"
    ++ "\u0088\u0089\u008a\u008b\u008c\u008d\u008e\u008f"
    ++ "\u0090\u0091\u0092\u0093\u0094\u0095\u0096\u0097"
    ++ "\u0098\u0099\u009a\u009b\u009c\u009d\u009e\u009f"

/-- Encodings of which a document may only use the basic characters. -/
def basicNames : EncodingNames :=
  { proper := ["ascii iso2022_jp iso2022_jp_1 iso2022_jp_2 iso2022_jp_2004 iso2022_jp_3",
               "iso2022_jp_ext utf_8 utf_8_sig"],
    aliases := ["ansi_x3.4_1968 ansi_x3.4_1986 ansi_x3_4_1968 cp367 cp65001 csascii",
                "csiso2022jp ibm367 iso2022jp iso2022jp_1 iso2022jp_2 iso2022jp_2004",
                "iso2022jp_3 iso2022jp_ext iso646_us iso_2022_jp iso_2022_jp_1 iso_2022_jp_2",
                "iso_2022_jp_2004 iso_2022_jp_3 iso_2022_jp_ext iso_646.irv_1991 iso_ir_6 u8",
                "us us_ascii utf utf8 utf8_ucs2 utf8_ucs4"] }

/-- Encodings with the basic characters, except that a tilde starts an escape that is not read. -/
def tildeNames : EncodingNames :=
  { proper := ["hz"],
    aliases := ["hz_gb hz_gb_2312 hzgb"] }

/-- Encodings in which every byte is the number of its character. -/
def latinNames : EncodingNames :=
  { proper := ["charmap latin_1 raw_unicode_escape unicode_escape"],
    aliases := ["cp819 csisolatin1 ibm819 iso8859 iso8859_1 iso_8859_1 iso_8859_1_1987",
                "iso_ir_100 l1 latin latin1"] }

/-- Encodings in which markup cannot be told apart. -/
def unusableNames : EncodingNames :=
  { proper := ["cp037 cp1026 cp1140 cp273 cp424 cp500 cp864 cp875 mac_arabic mac_farsi"],
    aliases := ["csibm037 csibm1026 csibm273 csibm424 csibm500 csibm864 ebcdic_cp_be",
                "ebcdic_cp_ca ebcdic_cp_ch ebcdic_cp_he ebcdic_cp_nl ebcdic_cp_us",
                "ebcdic_cp_wt ibm037 ibm039 ibm1026 ibm1140 ibm273 ibm424 ibm500 ibm864"] }

/-- Encodings with more than one byte for some characters. -/
def multiByteNames : EncodingNames :=
  { proper := ["big5 big5hkscs cp932 cp949 cp950 euc_jis_2004 euc_jisx0213 euc_jp euc_kr",
               "gb18030 gb2312 gbk iso2022_kr johab shift_jis shift_jis_2004 shift_jisx0213",
               "utf_16 utf_16_be utf_16_le utf_32 utf_32_be utf_32_le utf_7"],
    aliases := ["big5_hkscs big5_tw chinese cp1361 cp936 csbig5 csiso2022kr csiso58gb231280",
                "csshiftjis euc_cn euc_jis2004 euccn eucgb2312_cn eucjis2004 eucjisx0213",
                "eucjp euckr gb18030_2000 gb2312_1980 gb2312_80 hkscs iso2022kr iso_2022_kr",
                "iso_ir_58 jisx0213 korean ks_c_5601 ks_c_5601_1987 ks_x_1001 ksc5601 ksx1001",
                "ms1361 ms932 ms936 ms949 ms950 ms_kanji mskanji s_jis s_jis_2004 s_jisx0213",
                "shiftjis shiftjis2004 shiftjisx0213 sjis sjis_2004 sjisx0213 u16 u32 u7",
                "u_jis uhc ujis unicode_1_1_utf_7 unicodebigunmarked unicodelittleunmarked",
                "utf16 utf32 utf7 utf_16be utf_16le utf_32be utf_32le x_mac_japanese",
                "x_mac_korean x_mac_simp_chinese x_mac_trad_chinese"] }

/-- Encodings that turn bytes into bytes or text into text. -/
def nonTextNames : EncodingNames :=
  { proper := ["base64_codec bz2_codec hex_codec quopri_codec rot_13 uu_codec zlib_codec"],
    aliases := ["base64 base_64 bz2 hex quopri quoted_printable quotedprintable rot13 uu zip",
                "zlib"] }

/-- Part of the encodings with one character per byte. -/
def charsetsFirst : List Charset :=
  [{ names := { proper := ["iso8859_6"],
                aliases := ["arabic asmo_708 csisolatinarabic ecma_114 iso_8859_6",
                            "iso_8859_6_1987 iso_ir_127"] }
     upper :=
       [controls,
        "\u00a0���¤�������،\u00ad�������������\u061b���\u061f",
        "�\u0621\u0622\u0623\u0624\u0625\u0626\u0627",
        "\u0628\u0629\u062a\u062b\u062c\u062d\u062e\u062f",
        "\u0630\u0631\u0632\u0633\u0634\u0635\u0636\u0637\u0638\u0639\u063a�����",
        "\u0640\u0641\u0642\u0643\u0644\u0645\u0646\u0647",
        "\u0648\u0649\u064a\u064b\u064c\u064d\u064e\u064f",
        "\u0650\u0651\u0652�������������"] },
   { names := { proper := ["cp1006"] }
     upper :=
       [controls,
        "\u00a0۰۱۲۳۴۵۶۷۸۹،\u061b\u00ad\u061f\ufe81",
        "\ufe8d\ufe8e\ufe8e\ufe8f\ufe91\ufb56\ufb58\ufe93",
        "\ufe95\ufe97\ufb66\ufb68\ufe99\ufe9b\ufe9d\ufe9f",
        "\ufb7a\ufb7c\ufea1\ufea3\ufea5\ufea7\ufea9\ufb84",
        "\ufeab\ufead\ufb8c\ufeaf\ufb8a\ufeb1\ufeb3\ufeb5",
        "\ufeb7\ufeb9\ufebb\ufebd\ufebf\ufec1\ufec5\ufec9",
        "\ufeca\ufecb\ufecc\ufecd\ufece\ufecf\ufed0\ufed1",
        "\ufed3\ufed5\ufed7\ufed9\ufedb\ufb92\ufb94\ufedd",
        "\ufedf\ufee0\ufee1\ufee3\ufb9e\ufee5\ufee7\ufe85",
        "\ufeed\ufba6\ufba8\ufba9\ufbaa\ufe80\ufe89\ufe8a",
        "\ufe8b\ufef1\ufef2\ufef3\ufbb0\ufbae\ufe7c\ufe7d"] },
   { names := { proper := ["hp_roman8"],
                aliases := ["cp1051 ibm1051 r8 roman8"] }
     upper :=
       [controls,
        "\u00a0ÀÂÈÊËÎÏ´\u02cb\u02c6¨˜ÙÛ₤¯Ýý°ÇçÑñ¡¿¤£¥§ƒ¢",
        "âêôûáéóúàèòùäëöüÅîØÆåíøæÄìÖÜÉïßÔ",
        "ÁÃãÐðÍÌÓÒÕõŠšÚŸÿÞþ·µ¶¾—¼½ªº«■»±�"] },
   { names := { proper := ["cp1125"],
                aliases := ["cp866u ibm1125 ruscii"] }
     upper :=
       ["АБВГДЕЖЗИЙКЛМНОПРСТУФХЦЧШЩЪЫЬЭЮЯ",
        "абвгдежзийклмноп░▒▓│┤╡╢╖╕╣║╗╝╜╛┐",
        "└┴┬├─┼╞╟╚╔╩╦╠═╬╧╨╤╥╙╘╒╓╫╪┘┌█▄▌▐▀",
        "рстуфхцчшщъыьэюяЁёҐґЄєІіЇї·√№¤■\u00a0"] },
   { names := { proper := ["cp1250"],
                aliases := ["windows_1250"] }
     upper :=
       ["€�‚�„…†‡�‰Š‹ŚŤŽŹ�‘’“”•–—�™š›śťžź",
        "\u00a0\u02c7˘Ł¤Ą¦§¨©Ş«¬\u00ad®Ż°±˛ł´µ¶·¸ąş»Ľ˝ľż",
        "ŔÁÂĂÄĹĆÇČÉĘËĚÍÎĎĐŃŇÓÔŐÖ×ŘŮÚŰÜÝŢß",
        "ŕáâăäĺćçčéęëěíîďđńňóôőö÷řůúűüýţ˙"] },
   { names := { proper := ["cp1251"],
                aliases := ["windows_1251"] }
     upper :=
       ["ЂЃ‚ѓ„…†‡€‰Љ‹ЊЌЋЏђ‘’“”•–—�™љ›њќћџ",
        "\u00a0ЎўЈ¤Ґ¦§Ё©Є«¬\u00ad®Ї°±Ііґµ¶·ё№є»јЅѕї",
        "АБВГДЕЖЗИЙКЛМНОПРСТУФХЦЧШЩЪЫЬЭЮЯ",
        "абвгдежзийклмнопрстуфхцчшщъыьэюя"] },
   { names := { proper := ["cp1252"],
                aliases := ["windows_1252"] }
     upper :=
       ["€�‚ƒ„…†‡\u02c6‰Š‹Œ�Ž��‘’“”•–—˜™š›œ�žŸ",
        "\u00a0¡¢£¤¥¦§¨©ª«¬\u00ad®¯°±²³´µ¶·¸¹º»¼½¾¿",
        "ÀÁÂÃÄÅÆÇÈÉÊËÌÍÎÏÐÑÒÓÔÕÖ×ØÙÚÛÜÝÞß",
        "àáâãäåæçèéêëìíîïðñòóôõö÷øùúûüýþÿ"] },
   { names := { proper := ["cp1253"],
                aliases := ["windows_1253"] }
     upper :=
       ["€�‚ƒ„…†‡�‰�‹�����‘’“”•–—�™�›����",
        "\u00a0΅Ά£¤¥¦§¨©�«¬\u00ad®―°±²³΄µ¶·ΈΉΊ»Ό½ΎΏ",
        "ΐΑΒΓΔΕΖΗΘΙΚΛΜΝΞΟΠΡ�ΣΤΥΦΧΨΩΪΫάέήί",
        "ΰαβγδεζηθικλμνξοπρςστυφχψωϊϋόύώ�"] },
   { names := { proper := ["cp1254"],
                aliases := ["windows_1254"] }
     upper :=
       ["€�‚ƒ„…†‡\u02c6‰Š‹Œ����‘’“”•–—˜™š›œ��Ÿ",
        "\u00a0¡¢£¤¥¦§¨©ª«¬\u00ad®¯°±²³´µ¶·¸¹º»¼½¾¿",
        "ÀÁÂÃÄÅÆÇÈÉÊËÌÍÎÏĞÑÒÓÔÕÖ×ØÙÚÛÜİŞß",
        "àáâãäåæçèéêëìíîïğñòóôõö÷øùúûüışÿ"] },
   { names := { proper := ["cp1255"],
                aliases := ["windows_1255"] }
     upper :=
       ["€�‚ƒ„…†‡\u02c6‰�‹�����‘’“”•–—˜™�›����",
        "\u00a0¡¢£₪¥¦§¨©×«¬\u00ad®¯°±²³´µ¶·¸¹÷»¼½¾¿",
        "\u05b0\u05b1\u05b2\u05b3\u05b4\u05b5\u05b6\u05b7",
        "\u05b8\u05b9�\u05bb\u05bc\u05bd\u05be\u05bf",
        "\u05c0\u05c1\u05c2\u05c3\u05f0\u05f1\u05f2\u05f3\u05f4�������",
        "\u05d0\u05d1\u05d2\u05d3\u05d4\u05d5\u05d6\u05d7",
        "\u05d8\u05d9\u05da\u05db\u05dc\u05dd\u05de\u05df",
        "\u05e0\u05e1\u05e2\u05e3\u05e4\u05e5\u05e6\u05e7\u05e8\u05e9\u05ea��\u200e\u200f�"] },
   { names := { proper := ["cp1256"],
                aliases := ["windows_1256"] }
     upper :=
       ["€\u067e‚ƒ„…†‡\u02c6‰\u0679‹Œ\u0686\u0698\u0688",
        "\u06af‘’“”•–—\u06a9™\u0691›œ\u200c\u200d\u06ba",
        "\u00a0،¢£¤¥¦§¨©\u06be«¬\u00ad®¯°±²³´µ¶·¸¹\u061b»¼½¾\u061f",
        "\u06c1\u0621\u0622\u0623\u0624\u0625\u0626\u0627",
        "\u0628\u0629\u062a\u062b\u062c\u062d\u062e\u062f",
        "\u0630\u0631\u0632\u0633\u0634\u0635\u0636×",
        "\u0637\u0638\u0639\u063a\u0640\u0641\u0642\u0643",
        "à\u0644â\u0645\u0646\u0647\u0648çèéêë\u0649\u064aîï",
        "\u064b\u064c\u064d\u064eô\u064f\u0650÷\u0651ù\u0652ûü\u200e\u200f\u06d2"] },
   { names := { proper := ["cp1257"],
                aliases := ["windows_1257"] }
     upper :=
       ["€�‚�„…†‡�‰�‹�¨\u02c7¸�‘’“”•–—�™�›�¯˛�",
        "\u00a0�¢£¤�¦§Ø©Ŗ«¬\u00ad®Æ°±²³´µ¶·ø¹ŗ»¼½¾æ",
        "ĄĮĀĆÄÅĘĒČÉŹĖĢĶĪĻŠŃŅÓŌÕÖ×ŲŁŚŪÜŻŽß",
        "ąįāćäåęēčéźėģķīļšńņóōõö÷ųłśūüżž˙"] },
   { names := { proper := ["cp1258"],
                aliases := ["windows_1258"] }
     upper :=
       ["€�‚ƒ„…†‡\u02c6‰�‹Œ����‘’“”•–—˜™�›œ��Ÿ",
        "\u00a0¡¢£¤¥¦§¨©ª«¬\u00ad®¯°±²³´µ¶·¸¹º»¼½¾¿",
        "ÀÁÂĂÄÅÆÇÈÉÊË\u0300ÍÎÏĐÑ\u0309ÓÔƠÖ×ØÙÚÛÜƯ\u0303ß",
        "àáâăäåæçèéêë\u0301íîïđñ\u0323óôơö÷øùúûüư₫ÿ"] },
   { names := { proper := ["ptcp154"],
                aliases := ["cp154 csptcp154 cyrillic_asian pt154"] }
     upper :=
       ["ҖҒӮғ„…ҶҮҲүҠӢҢҚҺҸҗ‘’“”•–—ҳҷҡӣңқһҹ",
        "\u00a0ЎўЈӨҘҰ§Ё©Ә«¬ӯ®Ҝ°ұІіҙө¶·ё№ә»јҪҫҝ",
        "АБВГДЕЖЗИЙКЛМНОПРСТУФХЦЧШЩЪЫЬЭЮЯ",
        "абвгдежзийклмнопрстуфхцчшщъыьэюя"] },
   { names := { proper := ["cp437"],
                aliases := ["cspc8codepage437 ibm437"] }
     upper :=
       ["ÇüéâäàåçêëèïîìÄÅÉæÆôöòûùÿÖÜ¢£¥₧ƒ",
        "áíóúñÑªº¿⌐¬½¼¡«»░▒▓│┤╡╢╖╕╣║╗╝╜╛┐",
        "└┴┬├─┼╞╟╚╔╩╦╠═╬╧╨╤╥╙╘╒╓╫╪┘┌█▄▌▐▀",
        "αßΓπΣσµτΦΘΩδ∞φε∩≡±≥≤⌠⌡÷≈°∙·√\u207f²■\u00a0"] },
   { names := { proper := ["cp720"] }
     upper :=
       ["\u0080\u0081éâ\u0084à\u0086çêëèïî\u008d\u008e\u008f",
        "\u0090\u0651\u0652ô¤\u0640ûù\u0621\u0622\u0623\u0624£\u0625\u0626\u0627",
        "\u0628\u0629\u062a\u062b\u062c\u062d\u062e\u062f\u0630\u0631\u0632\u0633\u0634\u0635«»",
        "░▒▓│┤╡╢╖╕╣║╗╝╜╛┐",
        "└┴┬├─┼╞╟╚╔╩╦╠═╬╧╨╤╥╙╘╒╓╫╪┘┌█▄▌▐▀",
        "\u0636\u0637\u0638\u0639\u063a\u0641µ\u0642",
        "\u0643\u0644\u0645\u0646\u0647\u0648\u0649\u064a",
        "≡\u064b\u064c\u064d\u064e\u064f\u0650≈°∙·√\u207f²■\u00a0"] }]

/-- Part of the encodings with one character per byte. -/
def charsetsSecond : List Charset :=
  [{ names := { proper := ["cp737"] }
     upper :=
       ["ΑΒΓΔΕΖΗΘΙΚΛΜΝΞΟΠΡΣΤΥΦΧΨΩαβγδεζηθ",
        "ικλμνξοπρσςτυφχψ░▒▓│┤╡╢╖╕╣║╗╝╜╛┐",
        "└┴┬├─┼╞╟╚╔╩╦╠═╬╧╨╤╥╙╘╒╓╫╪┘┌█▄▌▐▀",
        "ωάέήϊίόύϋώΆΈΉΊΌΎΏ±≥≤ΪΫ÷≈°∙·√\u207f²■\u00a0"] },
   { names := { proper := ["cp775"],
                aliases := ["cspc775baltic ibm775"] }
     upper :=
       ["ĆüéāäģåćłēŖŗīŹÄÅÉæÆōöĢ¢ŚśÖÜø£Ø×¤",
        "ĀĪóŻżź”¦©®¬½¼Ł«»░▒▓│┤ĄČĘĖ╣║╗╝ĮŠ┐",
        "└┴┬├─┼ŲŪ╚╔╩╦╠═╬Žąčęėįšųūž┘┌█▄▌▐▀",
        "ÓßŌŃõÕµńĶķĻļņĒŅ’\u00ad±“¾¶§÷„°∙·¹³²■\u00a0"] },
   { names := { proper := ["cp850"],
                aliases := ["cspc850multilingual ibm850"] }
     upper :=
       ["ÇüéâäàåçêëèïîìÄÅÉæÆôöòûùÿÖÜø£Ø×ƒ",
        "áíóúñÑªº¿®¬½¼¡«»░▒▓│┤ÁÂÀ©╣║╗╝¢¥┐",
        "└┴┬├─┼ãÃ╚╔╩╦╠═╬¤ðÐÊËÈıÍÎÏ┘┌█▄¦Ì▀",
        "ÓßÔÒõÕµþÞÚÛÙýÝ¯´\u00ad±‗¾¶§÷¸°¨·¹³²■\u00a0"] },
   { names := { proper := ["cp852"],
                aliases := ["cspcp852 ibm852"] }
     upper :=
       ["ÇüéâäůćçłëŐőîŹÄĆÉĹĺôöĽľŚśÖÜŤťŁ×č",
        "áíóúĄąŽžĘę¬źČş«»░▒▓│┤ÁÂĚŞ╣║╗╝Żż┐",
        "└┴┬├─┼Ăă╚╔╩╦╠═╬¤đĐĎËďŇÍÎě┘┌█▄ŢŮ▀",
        "ÓßÔŃńňŠšŔÚŕŰýÝţ´\u00ad˝˛\u02c7˘§÷¸°¨˙űŘř■\u00a0"] },
   { names := { proper := ["cp855"],
                aliases := ["csibm855 ibm855"] }
     upper :=
       ["ђЂѓЃёЁєЄѕЅіІїЇјЈљЉњЊћЋќЌўЎџЏюЮъЪ",
        "аАбБцЦдДеЕфФгГ«»░▒▓│┤хХиИ╣║╗╝йЙ┐",
        "└┴┬├─┼кК╚╔╩╦╠═╬¤лЛмМнНоОп┘┌█▄Пя▀",
        "ЯрРсСтТуУжЖвВьЬ№\u00adыЫзЗшШэЭщЩчЧ§■\u00a0"] },
   { names := { proper := ["cp856"] }
     upper :=
       ["\u05d0\u05d1\u05d2\u05d3\u05d4\u05d5\u05d6\u05d7",
        "\u05d8\u05d9\u05da\u05db\u05dc\u05dd\u05de\u05df",
        "\u05e0\u05e1\u05e2\u05e3\u05e4\u05e5\u05e6\u05e7\u05e8\u05e9\u05ea�£�×�",
        "���������®¬½¼�«»░▒▓│┤���©╣║╗╝¢¥┐",
        "└┴┬├─┼��╚╔╩╦╠═╬¤���������┘┌█▄¦�▀",
        "������µ�������¯´\u00ad±‗¾¶§÷¸°¨·¹³²■\u00a0"] },
   { names := { proper := ["cp857"],
                aliases := ["csibm857 ibm857"] }
     upper :=
       ["ÇüéâäàåçêëèïîıÄÅÉæÆôöòûùİÖÜø£ØŞş",
        "áíóúñÑĞğ¿®¬½¼¡«»░▒▓│┤ÁÂÀ©╣║╗╝¢¥┐",
        "└┴┬├─┼ãÃ╚╔╩╦╠═╬¤ºªÊËÈ�ÍÎÏ┘┌█▄¦Ì▀",
        "ÓßÔÒõÕµ�×ÚÛÙìÿ¯´\u00ad±�¾¶§÷¸°¨·¹³²■\u00a0"] },
   { names := { proper := ["cp858"],
                aliases := ["csibm858 ibm858"] }
     upper :=
       ["ÇüéâäàåçêëèïîìÄÅÉæÆôöòûùÿÖÜø£Ø×ƒ",
        "áíóúñÑªº¿®¬½¼¡«»░▒▓│┤ÁÂÀ©╣║╗╝¢¥┐",
        "└┴┬├─┼ãÃ╚╔╩╦╠═╬¤ðÐÊËÈ€ÍÎÏ┘┌█▄¦Ì▀",
        "ÓßÔÒõÕµþÞÚÛÙýÝ¯´\u00ad±‗¾¶§÷¸°¨·¹³²■\u00a0"] },
   { names := { proper := ["cp860"],
                aliases := ["csibm860 ibm860"] }
     upper :=
       ["ÇüéâãàÁçêÊèÍÔìÃÂÉÀÈôõòÚùÌÕÜ¢£Ù₧Ó",
        "áíóúñÑªº¿Ò¬½¼¡«»░▒▓│┤╡╢╖╕╣║╗╝╜╛┐",
        "└┴┬├─┼╞╟╚╔╩╦╠═╬╧╨╤╥╙╘╒╓╫╪┘┌█▄▌▐▀",
        "αßΓπΣσµτΦΘΩδ∞φε∩≡±≥≤⌠⌡÷≈°∙·√\u207f²■\u00a0"] },
   { names := { proper := ["cp861"],
                aliases := ["cp_is csibm861 ibm861"] }
     upper :=
       ["ÇüéâäàåçêëèÐðÞÄÅÉæÆôöþûÝýÖÜø£Ø₧ƒ",
        "áíóúÁÍÓÚ¿⌐¬½¼¡«»░▒▓│┤╡╢╖╕╣║╗╝╜╛┐",
        "└┴┬├─┼╞╟╚╔╩╦╠═╬╧╨╤╥╙╘╒╓╫╪┘┌█▄▌▐▀",
        "αßΓπΣσµτΦΘΩδ∞φε∩≡±≥≤⌠⌡÷≈°∙·√\u207f²■\u00a0"] },
   { names := { proper := ["cp862"],
                aliases := ["cspc862latinhebrew ibm862"] }
     upper :=
       ["\u05d0\u05d1\u05d2\u05d3\u05d4\u05d5\u05d6\u05d7",
        "\u05d8\u05d9\u05da\u05db\u05dc\u05dd\u05de\u05df",
        "\u05e0\u05e1\u05e2\u05e3\u05e4\u05e5\u05e6\u05e7\u05e8\u05e9\u05ea¢£¥₧ƒ",
        "áíóúñÑªº¿⌐¬½¼¡«»░▒▓│┤╡╢╖╕╣║╗╝╜╛┐",
        "└┴┬├─┼╞╟╚╔╩╦╠═╬╧╨╤╥╙╘╒╓╫╪┘┌█▄▌▐▀",
        "αßΓπΣσµτΦΘΩδ∞φε∩≡±≥≤⌠⌡÷≈°∙·√\u207f²■\u00a0"] },
   { names := { proper := ["cp863"],
                aliases := ["csibm863 ibm863"] }
     upper :=
       ["ÇüéâÂà¶çêëèïî‗À§ÉÈÊôËÏûù¤ÔÜ¢£ÙÛƒ",
        "¦´óú¨¸³¯Î⌐¬½¼¾«»░▒▓│┤╡╢╖╕╣║╗╝╜╛┐",
        "└┴┬├─┼╞╟╚╔╩╦╠═╬╧╨╤╥╙╘╒╓╫╪┘┌█▄▌▐▀",
        "αßΓπΣσµτΦΘΩδ∞φε∩≡±≥≤⌠⌡÷≈°∙·√\u207f²■\u00a0"] },
   { names := { proper := ["cp865"],
                aliases := ["csibm865 ibm865"] }
     upper :=
       ["ÇüéâäàåçêëèïîìÄÅÉæÆôöòûùÿÖÜø£Ø₧ƒ",
        "áíóúñÑªº¿⌐¬½¼¡«¤░▒▓│┤╡╢╖╕╣║╗╝╜╛┐",
        "└┴┬├─┼╞╟╚╔╩╦╠═╬╧╨╤╥╙╘╒╓╫╪┘┌█▄▌▐▀",
        "αßΓπΣσµτΦΘΩδ∞φε∩≡±≥≤⌠⌡÷≈°∙·√\u207f²■\u00a0"] },
   { names := { proper := ["cp866"],
                aliases := ["csibm866 ibm866"] }
     upper :=
       ["АБВГДЕЖЗИЙКЛМНОПРСТУФХЦЧШЩЪЫЬЭЮЯ",
        "абвгдежзийклмноп░▒▓│┤╡╢╖╕╣║╗╝╜╛┐",
        "└┴┬├─┼╞╟╚╔╩╦╠═╬╧╨╤╥╙╘╒╓╫╪┘┌█▄▌▐▀",
        "рстуфхцчшщъыьэюяЁёЄєЇїЎў°∙·√№¤■\u00a0"] },
   { names := { proper := ["cp869"],
                aliases := ["cp_gr csibm869 ibm869"] }
     upper :=
       ["������Ά�·¬¦‘’Έ―ΉΊΪΌ��ΎΫ©Ώ²³ά£έήί",
        "ϊΐόύΑΒΓΔΕΖΗ½ΘΙ«»░▒▓│┤ΚΛΜΝ╣║╗╝ΞΟ┐",
        "└┴┬├─┼ΠΡ╚╔╩╦╠═╬ΣΤΥΦΧΨΩαβγ┘┌█▄δε▀",
        "ζηθικλμνξοπρσςτ΄\u00ad±υφχ§ψ΅°¨ωϋΰώ■\u00a0"] },
   { names := { proper := ["cp874"] }
     upper :=
       ["€����…�����������‘’“”•–—��������",
        "\u00a0กขฃคฅฆงจฉชซฌญฎฏฐฑฒณดตถทธนบปผฝพฟ",
        "ภมยรฤลฦวศษสหฬอฮฯะ\u0e31าำ\u0e34\u0e35\u0e36\u0e37\u0e38\u0e39\u0e3a����฿",
        "เแโใไๅ\u0e46\u0e47\u0e48\u0e49\u0e4a\u0e4b\u0e4c\u0e4d\u0e4e๏๐๑๒๓๔๕๖๗๘๙๚๛����"] }]

/-- Part of the encodings with one character per byte. -/
def charsetsThird : List Charset :=
  [{ names := { proper := ["iso8859_2"],
                aliases := ["csisolatin2 iso_8859_2 iso_8859_2_1987 iso_ir_101 l2 latin2"] }
     upper :=
       [controls,
        "\u00a0Ą˘Ł¤ĽŚ§¨ŠŞŤŹ\u00adŽŻ°ą˛ł´ľś\u02c7¸šşťź˝žż",
        "ŔÁÂĂÄĹĆÇČÉĘËĚÍÎĎĐŃŇÓÔŐÖ×ŘŮÚŰÜÝŢß",
        "ŕáâăäĺćçčéęëěíîďđńňóôőö÷řůúűüýţ˙"] },
   { names := { proper := ["iso8859_3"],
                aliases := ["csisolatin3 iso_8859_3 iso_8859_3_1988 iso_ir_109 l3 latin3"] }
     upper :=
       [controls,
        "\u00a0Ħ˘£¤�Ĥ§¨İŞĞĴ\u00ad�Ż°ħ²³´µĥ·¸ışğĵ½�ż",
        "ÀÁÂ�ÄĊĈÇÈÉÊËÌÍÎÏ�ÑÒÓÔĠÖ×ĜÙÚÛÜŬŜß",
        "àáâ�äċĉçèéêëìíîï�ñòóôġö÷ĝùúûüŭŝ˙"] },
   { names := { proper := ["iso8859_4"],
                aliases := ["csisolatin4 iso_8859_4 iso_8859_4_1988 iso_ir_110 l4 latin4"] }
     upper :=
       [controls,
        "\u00a0ĄĸŖ¤ĨĻ§¨ŠĒĢŦ\u00adŽ¯°ą˛ŗ´ĩļ\u02c7¸šēģŧŊžŋ",
        "ĀÁÂÃÄÅÆĮČÉĘËĖÍÎĪĐŅŌĶÔÕÖ×ØŲÚÛÜŨŪß",
        "āáâãäåæįčéęëėíîīđņōķôõö÷øųúûüũū˙"] },
   { names := { proper := ["iso8859_9"],
                aliases := ["csisolatin5 iso_8859_9 iso_8859_9_1989 iso_ir_148 l5 latin5"] }
     upper :=
       [controls,
        "\u00a0¡¢£¤¥¦§¨©ª«¬\u00ad®¯°±²³´µ¶·¸¹º»¼½¾¿",
        "ÀÁÂÃÄÅÆÇÈÉÊËÌÍÎÏĞÑÒÓÔÕÖ×ØÙÚÛÜİŞß",
        "àáâãäåæçèéêëìíîïğñòóôõö÷øùúûüışÿ"] },
   { names := { proper := ["iso8859_10"],
                aliases := ["csisolatin6 iso_8859_10 iso_8859_10_1992 iso_ir_157 l6 latin6"] }
     upper :=
       [controls,
        "\u00a0ĄĒĢĪĨĶ§ĻĐŠŦŽ\u00adŪŊ°ąēģīĩķ·ļđšŧž―ūŋ",
        "ĀÁÂÃÄÅÆĮČÉĘËĖÍÎÏÐŅŌÓÔÕÖŨØŲÚÛÜÝÞß",
        "āáâãäåæįčéęëėíîïðņōóôõöũøųúûüýþĸ"] },
   { names := { proper := ["iso8859_5"],
                aliases := ["csisolatincyrillic cyrillic iso_8859_5 iso_8859_5_1988",
                            "iso_ir_144"] }
     upper :=
       [controls,
        "\u00a0ЁЂЃЄЅІЇЈЉЊЋЌ\u00adЎЏАБВГДЕЖЗИЙКЛМНОП",
        "РСТУФХЦЧШЩЪЫЬЭЮЯабвгдежзийклмноп",
        "рстуфхцчшщъыьэюя№ёђѓєѕіїјљњћќ§ўџ"] },
   { names := { proper := ["iso8859_7"],
                aliases := ["csisolatingreek ecma_118 elot_928 greek greek8 iso_8859_7",
                            "iso_8859_7_1987 iso_ir_126"] }
     upper :=
       [controls,
        "\u00a0‘’£€₯¦§¨©\u037a«¬\u00ad�―°±²³΄΅Ά·ΈΉΊ»Ό½ΎΏ",
        "ΐΑΒΓΔΕΖΗΘΙΚΛΜΝΞΟΠΡ�ΣΤΥΦΧΨΩΪΫάέήί",
        "ΰαβγδεζηθικλμνξοπρςστυφχψωϊϋόύώ�"] },
   { names := { proper := ["iso8859_8"],
                aliases := ["csisolatinhebrew hebrew iso_8859_8 iso_8859_8_1988 iso_ir_138"] }
     upper :=
       [controls,
        "\u00a0�¢£¤¥¦§¨©×«¬\u00ad®¯°±²³´µ¶·¸¹÷»¼½¾�",
        "�������������������������������‗",
        "\u05d0\u05d1\u05d2\u05d3\u05d4\u05d5\u05d6\u05d7",
        "\u05d8\u05d9\u05da\u05db\u05dc\u05dd\u05de\u05df",
        "\u05e0\u05e1\u05e2\u05e3\u05e4\u05e5\u05e6\u05e7\u05e8\u05e9\u05ea��\u200e\u200f�"] },
   { names := { proper := ["koi8_r"],
                aliases := ["cskoi8r"] }
     upper :=
       ["─│┌┐└┘├┤┬┴┼▀▄█▌▐░▒▓⌠■∙√≈≤≥\u00a0⌡°²·÷",
        "═║╒ё╓╔╕╖╗╘╙╚╛╜╝╞╟╠╡Ё╢╣╤╥╦╧╨╩╪╫╬©",
        "юабцдефгхийклмнопярстужвьызшэщчъ",
        "ЮАБЦДЕФГХИЙКЛМНОПЯРСТУЖВЬЫЗШЭЩЧЪ"] },
   { names := { proper := ["iso8859_11"],
                aliases := ["iso_8859_11 iso_8859_11_2001 thai"] }
     upper :=
       [controls,
        "\u00a0กขฃคฅฆงจฉชซฌญฎฏฐฑฒณดตถทธนบปผฝพฟ",
        "ภมยรฤลฦวศษสหฬอฮฯะ\u0e31าำ\u0e34\u0e35\u0e36\u0e37\u0e38\u0e39\u0e3a����฿",
        "เแโใไๅ\u0e46\u0e47\u0e48\u0e49\u0e4a\u0e4b\u0e4c\u0e4d\u0e4e๏๐๑๒๓๔๕๖๗๘๙๚๛����"] },
   { names := { proper := ["iso8859_13"],
                aliases := ["iso_8859_13 l7 latin7"] }
     upper :=
       [controls,
        "\u00a0”¢£¤„¦§Ø©Ŗ«¬\u00ad®Æ°±²³“µ¶·ø¹ŗ»¼½¾æ",
        "ĄĮĀĆÄÅĘĒČÉŹĖĢĶĪĻŠŃŅÓŌÕÖ×ŲŁŚŪÜŻŽß",
        "ąįāćäåęēčéźėģķīļšńņóōõö÷ųłśūüżž’"] },
   { names := { proper := ["iso8859_14"],
                aliases := ["iso_8859_14 iso_8859_14_1998 iso_celtic iso_ir_199 l8 latin8"] }
     upper :=
       [controls,
        "\u00a0Ḃḃ£ĊċḊ§Ẁ©ẂḋỲ\u00ad®ŸḞḟĠġṀṁ¶ṖẁṗẃṠỳẄẅṡ",
        "ÀÁÂÃÄÅÆÇÈÉÊËÌÍÎÏŴÑÒÓÔÕÖṪØÙÚÛÜÝŶß",
        "àáâãäåæçèéêëìíîïŵñòóôõöṫøùúûüýŷÿ"] },
   { names := { proper := ["iso8859_15"],
                aliases := ["iso_8859_15 l9 latin9"] }
     upper :=
       [controls,
        "\u00a0¡¢£€¥Š§š©ª«¬\u00ad®¯°±²³Žµ¶·ž¹º»ŒœŸ¿",
        "ÀÁÂÃÄÅÆÇÈÉÊËÌÍÎÏÐÑÒÓÔÕÖ×ØÙÚÛÜÝÞß",
        "àáâãäåæçèéêëìíîïðñòóôõö÷øùúûüýþÿ"] },
   { names := { proper := ["iso8859_16"],
                aliases := ["iso_8859_16 iso_8859_16_2001 iso_ir_226 l10 latin10"] }
     upper :=
       [controls,
        "\u00a0ĄąŁ€„Š§š©Ș«Ź\u00adźŻ°±ČłŽ”¶·žčș»ŒœŸż",
        "ÀÁÂĂÄĆÆÇÈÉÊËÌÍÎÏĐŃÒÓÔŐÖŚŰÙÚÛÜĘȚß",
        "àáâăäćæçèéêëìíîïđńòóôőöśűùúûüęțÿ"] },
   { names := { proper := ["tis_620"],
                aliases := ["iso_ir_166 tis620 tis_620_0 tis_620_2529_0 tis_620_2529_1"] }
     upper :=
       [controls,
        "�กขฃคฅฆงจฉชซฌญฎฏฐฑฒณดตถทธนบปผฝพฟ",
        "ภมยรฤลฦวศษสหฬอฮฯะ\u0e31าำ\u0e34\u0e35\u0e36\u0e37\u0e38\u0e39\u0e3a����฿",
        "เแโใไๅ\u0e46\u0e47\u0e48\u0e49\u0e4a\u0e4b\u0e4c\u0e4d\u0e4e๏๐๑๒๓๔๕๖๗๘๙๚๛����"] },
   { names := { proper := ["koi8_t"] }
     upper :=
       ["қғ‚Ғ„…†‡�‰ҳ‹ҲҷҶ�Қ‘’“”•–—�™�›����",
        "�ӯӮё¤ӣ¦§���«¬\u00ad®�°±²Ё�Ӣ¶·�№�»���©",
        "юабцдефгхийклмнопярстужвьызшэщчъ",
        "ЮАБЦДЕФГХИЙКЛМНОПЯРСТУЖВЬЫЗШЭЩЧЪ"] }]

/-- Part of the encodings with one character per byte. -/
def charsetsFourth : List Charset :=
  [{ names := { proper := ["koi8_u"] }
     upper :=
       ["─│┌┐└┘├┤┬┴┼▀▄█▌▐░▒▓⌠■∙√≈≤≥\u00a0⌡°²·÷",
        "═║╒ёє╔ії╗╘╙╚╛ґ╝╞╟╠╡ЁЄ╣ІЇ╦╧╨╩╪Ґ╬©",
        "юабцдефгхийклмнопярстужвьызшэщчъ",
        "ЮАБЦДЕФГХИЙКЛМНОПЯРСТУЖВЬЫЗШЭЩЧЪ"] },
   { names := { proper := ["kz1048"],
                aliases := ["kz_1048 rk1048 strk1048_2002"] }
     upper :=
       ["ЂЃ‚ѓ„…†‡€‰Љ‹ЊҚҺЏђ‘’“”•–—�™љ›њқһџ",
        "\u00a0ҰұӘ¤Ө¦§Ё©Ғ«¬\u00ad®Ү°±Ііөµ¶·ё№ғ»әҢңү",
        "АБВГДЕЖЗИЙКЛМНОПРСТУФХЦЧШЩЪЫЬЭЮЯ",
        "абвгдежзийклмнопрстуфхцчшщъыьэюя"] },
   { names := { proper := ["mac_latin2"],
                aliases := ["mac_centeuro maccentraleurope maclatin2"] }
     upper :=
       ["ÄĀāÉĄÖÜáąČäčĆćéŹźĎíďĒēĖóėôöõúĚěü",
        "†°Ę£§•¶ß®©™ę¨≠ģĮįĪ≤≥īĶ∂∑łĻļĽľĹĺŅ",
        "ņŃ¬√ńŇ∆«»…\u00a0ňŐÕőŌ–—“”‘’÷◊ōŔŕŘ‹›řŖ",
        "ŗŠ‚„šŚśÁŤťÍŽžŪÓÔūŮÚůŰűŲųÝýķŻŁżĢ\u02c7"] },
   { names := { proper := ["mac_croatian"] }
     upper :=
       ["ÄÅÇÉÑÖÜáàâäãåçéèêëíìîïñóòôöõúùûü",
        "†°¢£§•¶ß®Š™´¨≠ŽØ∞±≤≥∆µ∂∑∏š∫ªºΩžø",
        "¿¡¬√ƒ≈Ć«Č…\u00a0ÀÃÕŒœĐ—“”‘’÷◊\uf8ff©⁄€‹›Æ»",
        "–·‚„‰ÂćÁčÈÍÎÏÌÓÔđÒÚÛÙı\u02c6˜¯πË˚¸Êæ\u02c7"] },
   { names := { proper := ["mac_cyrillic"],
                aliases := ["maccyrillic"] }
     upper :=
       ["АБВГДЕЖЗИЙКЛМНОПРСТУФХЦЧШЩЪЫЬЭЮЯ",
        "†°Ґ£§•¶І®©™Ђђ≠Ѓѓ∞±≤≥іµґЈЄєЇїЉљЊњ",
        "јЅ¬√ƒ≈∆«»…\u00a0ЋћЌќѕ–—“”‘’÷„ЎўЏџ№Ёёя",
        "абвгдежзийклмнопрстуфхцчшщъыьэю€"] },
   { names := { proper := ["mac_greek"],
                aliases := ["macgreek"] }
     upper :=
       ["Ä¹²É³ÖÜ΅àâä΄¨çéèêë£™îï•½‰ôö¦€ùûü",
        "†ΓΔΘΛΞΠß®©ΣΪ§≠°·Α±≤≥¥ΒΕΖΗΙΚΜΦΫΨΩ",
        "άΝ¬ΟΡ≈Τ«»…\u00a0ΥΧΆΈœ–―“”‘’÷ΉΊΌΎέήίόΏ",
        "ύαβψδεφγηιξκλμνοπώρστθωςχυζϊϋΐΰ\u00ad"] },
   { names := { proper := ["mac_iceland"],
                aliases := ["maciceland"] }
     upper :=
       ["ÄÅÇÉÑÖÜáàâäãåçéèêëíìîïñóòôöõúùûü",
        "Ý°¢£§•¶ß®©™´¨≠ÆØ∞±≤≥¥µ∂∑∏π∫ªºΩæø",
        "¿¡¬√ƒ≈∆«»…\u00a0ÀÃÕŒœ–—“”‘’÷◊ÿŸ⁄€ÐðÞþ",
        "ý·‚„‰ÂÊÁËÈÍÎÏÌÓÔ\uf8ffÒÚÛÙı\u02c6˜¯˘˙˚¸˝˛\u02c7"] },
   { names := { proper := ["mac_roman"],
                aliases := ["macintosh macroman"] }
     upper :=
       ["ÄÅÇÉÑÖÜáàâäãåçéèêëíìîïñóòôöõúùûü",
        "†°¢£§•¶ß®©™´¨≠ÆØ∞±≤≥¥µ∂∑∏π∫ªºΩæø",
        "¿¡¬√ƒ≈∆«»…\u00a0ÀÃÕŒœ–—“”‘’÷◊ÿŸ⁄€‹›ﬁﬂ",
        "‡·‚„‰ÂÊÁËÈÍÎÏÌÓÔ\uf8ffÒÚÛÙı\u02c6˜¯˘˙˚¸˝˛\u02c7"] },
   { names := { proper := ["mac_romanian"] }
     upper :=
       ["ÄÅÇÉÑÖÜáàâäãåçéèêëíìîïñóòôöõúùûü",
        "†°¢£§•¶ß®©™´¨≠ĂȘ∞±≤≥¥µ∂∑∏π∫ªºΩăș",
        "¿¡¬√ƒ≈∆«»…\u00a0ÀÃÕŒœ–—“”‘’÷◊ÿŸ⁄€‹›Țț",
        "‡·‚„‰ÂÊÁËÈÍÎÏÌÓÔ\uf8ffÒÚÛÙı\u02c6˜¯˘˙˚¸˝˛\u02c7"] },
   { names := { proper := ["mac_turkish"],
                aliases := ["macturkish"] }
     upper :=
       ["ÄÅÇÉÑÖÜáàâäãåçéèêëíìîïñóòôöõúùûü",
        "†°¢£§•¶ß®©™´¨≠ÆØ∞±≤≥¥µ∂∑∏π∫ªºΩæø",
        "¿¡¬√ƒ≈∆«»…\u00a0ÀÃÕŒœ–—“”‘’÷◊ÿŸĞğİıŞş",
        "‡·‚„‰ÂÊÁËÈÍÎÏÌÓÔ\uf8ffÒÚÛÙ\uf8a0\u02c6˜¯˘˙˚¸˝˛\u02c7"] },
   { names := { proper := ["palmos"] }
     upper :=
       ["€\u0081‚ƒ„…†‡\u02c6‰Š‹Œ♦♣♥♠‘’“”•–—˜™š\u009bœ\u009d\u009eŸ",
        "\u00a0¡¢£¤¥¦§¨©ª«¬\u00ad®¯°±²³´µ¶·¸¹º»¼½¾¿",
        "ÀÁÂÃÄÅÆÇÈÉÊËÌÍÎÏÐÑÒÓÔÕÖ×ØÙÚÛÜÝÞß",
        "àáâãäåæçèéêëìíîïðñòóôõö÷øùúûüýþÿ"] }]

/-- All encodings with one character per byte of which a document may use both halves. -/
def charsets : List Charset :=
  charsetsFirst ++ charsetsSecond ++ charsetsThird ++ charsetsFourth

end DeclGen.Xml
