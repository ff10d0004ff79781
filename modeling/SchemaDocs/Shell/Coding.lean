import SchemaDocs.Shell.ByteText
/-!
# Codings of characters

How the numbers of characters are written as bytes: one byte for each by a page of
characters, one to four bytes that tell how many they are, or units of fixed size.
-/

namespace SchemaDocs.Shell

/-- Which of the bytes of a unit comes first. -/
inductive ByteOrder where
  /-- The byte that weighs most. -/
  | big
  /-- The byte that weighs least. -/
  | little
  /-- A mark before the text tells, without which it is the byte that weighs least. -/
  | marked
deriving DecidableEq

/-- A way to write characters as bytes. -/
inductive Coding where
  /-- One to four bytes, the first of which tells how many. -/
  | counted
  /-- Units of so many bytes, of which a character may take two. -/
  | units (size : Nat) (order : ByteOrder) (hasPairs : Bool)
  /-- A byte for each character.  Those from a first byte on stand on a page, and those before it stand
  for themselves. -/
  | page (first : Nat) (characters : String)
deriving DecidableEq

namespace Coding

/-! ## Names -/

/-- Bytes that stand for themselves up to a last one. -/
def plain (count : Nat) : Coding := .page count ""

/-- Names of codings that have no page. -/
def unpagedNames : List (List String × Coding) :=
  [(["ANSI_X3.4-1968", "ANSI_X3.4-1986", "ANSI_X3.4", "ASCII", "US-ASCII", "US", "ISO-IR-6",
     "ISO_646.IRV:1991", "ISO646-US", "ISO646.1991-IRV", "IBM367", "CP367", "CSASCII"],
    plain 128),
   (["ISO-8859-1", "8859_1", "CP819", "IBM819", "ISO-IR-100", "ISO8859-1", "ISO88591",
     "ISO_8859-1", "ISO_8859-1:1987", "L1", "LATIN1", "CSISOLATIN1"],
    plain 256),
   (["UTF-8", "UTF8", "ISO-IR-193"], .counted),
   (["UTF-16", "UTF16"], .units 2 .marked true),
   (["UTF-16BE", "UTF16BE"], .units 2 .big true),
   (["UTF-16LE", "UTF16LE"], .units 2 .little true),
   (["UTF-32", "UTF32"], .units 4 .marked true),
   (["UTF-32BE", "UTF32BE"], .units 4 .big true),
   (["UTF-32LE", "UTF32LE"], .units 4 .little true),
   (["UNICODE", "CSUNICODE"], .units 2 .marked false),
   (["UCS-2", "UCS2", "UCS-2LE", "UCS2LE", "UNICODELITTLE"], .units 2 .little false),
   (["UCS-2BE", "UCS2BE", "UNICODEBIG"], .units 2 .big false),
   (["UCS-4", "UCS4", "UCS-4BE", "CSUCS4", "ISO-10646", "10646-1:1993"], .units 4 .big false),
   (["UCS-4LE", "WCHAR_T"], .units 4 .little false)]

/-- Names of codings with a page, and the characters at its end.  A replacement character stands where
there is none. -/
def pagedNames : List (List String × String) :=
  [(["ISO-8859-2", "8859_2", "CP912", "IBM912", "ISO-IR-101", "ISO8859-2", "ISO88592",
     "ISO_8859-2", "ISO_8859-2:1987", "L2", "LATIN2"],
    "\u00a0Ą˘Ł¤ĽŚ§¨ŠŞŤŹ\u00adŽŻ°ą˛ł´ľśˇ¸šşťź˝žżŔÁÂĂÄĹĆÇČÉĘËĚÍÎĎĐŃŇÓÔŐÖ×ŘŮÚŰÜÝŢßŕáâăäĺćçčé"
      ++ "ęëěíîďđńňóôőö÷řůúűüýţ˙"),
   (["ISO-8859-3", "8859_3", "ISO-IR-109", "ISO8859-3", "ISO88593", "ISO_8859-3",
     "ISO_8859-3:1988", "L3", "LATIN3"],
    "\u00a0Ħ˘£¤�Ĥ§¨İŞĞĴ\u00ad�Ż°ħ²³´µĥ·¸ışğĵ½�żÀÁÂ�ÄĊĈÇÈÉÊËÌÍÎÏ�ÑÒÓÔĠÖ×ĜÙÚÛÜŬŜßàáâ�äċĉçèé"
      ++ "êëìíîï�ñòóôġö÷ĝùúûüŭŝ˙"),
   (["ISO-8859-4", "8859_4", "ISO-IR-110", "ISO8859-4", "ISO88594", "ISO_8859-4",
     "ISO_8859-4:1988", "L4", "LATIN4"],
    "\u00a0ĄĸŖ¤ĨĻ§¨ŠĒĢŦ\u00adŽ¯°ą˛ŗ´ĩļˇ¸šēģŧŊžŋĀÁÂÃÄÅÆĮČÉĘËĖÍÎĪĐŅŌĶÔÕÖ×ØŲÚÛÜŨŪßāáâãäåæįčé"
      ++ "ęëėíîīđņōķôõö÷øųúûüũū˙"),
   (["ISO-8859-5", "8859_5", "CP915", "CYRILLIC", "IBM915", "ISO-IR-144", "ISO8859-5",
     "ISO88595", "ISO_8859-5", "ISO_8859-5:1988"],
    "\u00a0ЁЂЃЄЅІЇЈЉЊЋЌ\u00adЎЏАБВГДЕЖЗИЙКЛМНОПРСТУФХЦЧШЩЪЫЬЭЮЯабвгдежзийклмнопрстуфхцчшщ"
      ++ "ъыьэюя№ёђѓєѕіїјљњћќ§ўџ"),
   (["ISO-8859-6", "8859_6", "ARABIC", "ASMO-708", "CP1089", "ECMA-114", "IBM1089", "ISO-IR-127",
     "ISO8859-6", "ISO88596", "ISO_8859-6", "ISO_8859-6:1987"],
    "\u00a0���¤�������\u060c\u00ad�������������\u061b���\u061f�\u0621\u0622\u0623\u0624"
      ++ "\u0625\u0626\u0627\u0628\u0629\u062a\u062b\u062c\u062d\u062e\u062f\u0630\u0631\u0632"
      ++ "\u0633\u0634\u0635\u0636\u0637\u0638\u0639\u063a�����\u0640\u0641\u0642\u0643\u0644"
      ++ "\u0645\u0646\u0647\u0648\u0649\u064a\u064b\u064c\u064d\u064e\u064f\u0650\u0651\u0652"
      ++ "�������������"),
   (["ISO-8859-7", "8859_7", "CP813", "ECMA-118", "ELOT_928", "GREEK", "GREEK8", "IBM813",
     "ISO-IR-126", "ISO8859-7", "ISO88597", "ISO_8859-7", "ISO_8859-7:1987", "ISO_8859-7:2003"],
    "\u00a0‘’£€₯¦§¨©ͺ«¬\u00ad�―°±²³΄΅Ά·ΈΉΊ»Ό½ΎΏΐΑΒΓΔΕΖΗΘΙΚΛΜΝΞΟΠΡ�ΣΤΥΦΧΨΩΪΫάέήίΰαβγδεζηθι"
      ++ "κλμνξοπρςστυφχψωϊϋόύώ�"),
   (["ISO-8859-8", "8859_8", "CP916", "HEBREW", "IBM916", "ISO-IR-138", "ISO8859-8", "ISO88598",
     "ISO_8859-8", "ISO_8859-8:1988"],
    "\u00a0�¢£¤¥¦§¨©×«¬\u00ad®¯°±²³´µ¶·¸¹÷»¼½¾��������������������������������‗\u05d0"
      ++ "\u05d1\u05d2\u05d3\u05d4\u05d5\u05d6\u05d7\u05d8\u05d9\u05da\u05db\u05dc\u05dd\u05de"
      ++ "\u05df\u05e0\u05e1\u05e2\u05e3\u05e4\u05e5\u05e6\u05e7\u05e8\u05e9\u05ea��\u200e"
      ++ "\u200f�"),
   (["ISO-8859-9", "8859_9", "CP920", "ECMA-128", "IBM920", "ISO-IR-148", "ISO8859-9",
     "ISO88599", "ISO_8859-9", "ISO_8859-9:1989", "L5", "LATIN5", "TS-5881"],
    "\u00a0¡¢£¤¥¦§¨©ª«¬\u00ad®¯°±²³´µ¶·¸¹º»¼½¾¿ÀÁÂÃÄÅÆÇÈÉÊËÌÍÎÏĞÑÒÓÔÕÖ×ØÙÚÛÜİŞßàáâãäåæçèé"
      ++ "êëìíîïğñòóôõö÷øùúûüışÿ"),
   (["ISO-8859-10", "ISO-IR-157", "ISO8859-10", "ISO885910", "ISO_8859-10", "ISO_8859-10:1992",
     "L6", "LATIN6"],
    "\u00a0ĄĒĢĪĨĶ§ĻĐŠŦŽ\u00adŪŊ°ąēģīĩķ·ļđšŧž―ūŋĀÁÂÃÄÅÆĮČÉĘËĖÍÎÏÐŅŌÓÔÕÖŨØŲÚÛÜÝÞßāáâãäåæįčé"
      ++ "ęëėíîïðņōóôõöũøųúûüýþĸ"),
   (["ISO-8859-13", "BALTIC", "ISO-IR-179", "ISO8859-13", "ISO885913", "L7", "LATIN7"],
    "\u00a0”¢£¤„¦§Ø©Ŗ«¬\u00ad®Æ°±²³“µ¶·ø¹ŗ»¼½¾æĄĮĀĆÄÅĘĒČÉŹĖĢĶĪĻŠŃŅÓŌÕÖ×ŲŁŚŪÜŻŽßąįāćäåęēčé"
      ++ "źėģķīļšńņóōõö÷ųłśūüżž’"),
   (["ISO-8859-14", "ISO-CELTIC", "ISO-IR-199", "ISO8859-14", "ISO885914", "ISO_8859-14",
     "ISO_8859-14:1998", "L8", "LATIN8"],
    "\u00a0Ḃḃ£ĊċḊ§Ẁ©ẂḋỲ\u00ad®ŸḞḟĠġṀṁ¶ṖẁṗẃṠỳẄẅṡÀÁÂÃÄÅÆÇÈÉÊËÌÍÎÏŴÑÒÓÔÕÖṪØÙÚÛÜÝŶßàáâãäåæçèé"
      ++ "êëìíîïŵñòóôõöṫøùúûüýŷÿ"),
   (["ISO-8859-15", "ISO-IR-203", "ISO8859-15", "ISO885915", "ISO_8859-15", "ISO_8859-15:1998",
     "LATIN-9", "LATIN9"],
    "\u00a0¡¢£€¥Š§š©ª«¬\u00ad®¯°±²³Žµ¶·ž¹º»ŒœŸ¿ÀÁÂÃÄÅÆÇÈÉÊËÌÍÎÏÐÑÒÓÔÕÖ×ØÙÚÛÜÝÞßàáâãäåæçèé"
      ++ "êëìíîïðñòóôõö÷øùúûüýþÿ"),
   (["ISO-8859-16", "ISO-IR-226", "ISO8859-16", "ISO885916", "ISO_8859-16", "ISO_8859-16:2001",
     "L10", "LATIN10"],
    "\u00a0ĄąŁ€„Š§š©Ș«Ź\u00adźŻ°±ČłŽ”¶·žčș»ŒœŸżÀÁÂĂÄĆÆÇÈÉÊËÌÍÎÏĐŃÒÓÔŐÖŚŰÙÚÛÜĘȚßàáâăäćæçèé"
      ++ "êëìíîïđńòóôőöśűùúûüęțÿ"),
   (["CP1250", "MS-EE", "WINDOWS-1250"],
    "€�‚�„…†‡�‰Š‹ŚŤŽŹ�‘’“”•–—�™š›śťžź\u00a0ˇ˘Ł¤Ą¦§¨©Ş«¬\u00ad®Ż°±˛ł´µ¶·¸ąş»Ľ˝ľżŔÁÂĂÄĹĆÇČÉ"
      ++ "ĘËĚÍÎĎĐŃŇÓÔŐÖ×ŘŮÚŰÜÝŢßŕáâăäĺćçčéęëěíîďđńňóôőö÷řůúűüýţ˙"),
   (["CP1251", "MS-CYRL", "WINDOWS-1251"],
    "ЂЃ‚ѓ„…†‡€‰Љ‹ЊЌЋЏђ‘’“”•–—�™љ›њќћџ\u00a0ЎўЈ¤Ґ¦§Ё©Є«¬\u00ad®Ї°±Ііґµ¶·ё№є»јЅѕїАБВГДЕЖЗИЙ"
      ++ "КЛМНОПРСТУФХЦЧШЩЪЫЬЭЮЯабвгдежзийклмнопрстуфхцчшщъыьэюя"),
   (["CP1252", "MS-ANSI", "WINDOWS-1252"],
    "€�‚ƒ„…†‡ˆ‰Š‹Œ�Ž��‘’“”•–—˜™š›œ�žŸ\u00a0¡¢£¤¥¦§¨©ª«¬\u00ad®¯°±²³´µ¶·¸¹º»¼½¾¿ÀÁÂÃÄÅÆÇÈÉ"
      ++ "ÊËÌÍÎÏÐÑÒÓÔÕÖ×ØÙÚÛÜÝÞßàáâãäåæçèéêëìíîïðñòóôõö÷øùúûüýþÿ"),
   (["CP1253", "MS-GREEK", "WINDOWS-1253"],
    "€�‚ƒ„…†‡�‰�‹�����‘’“”•–—�™�›����\u00a0΅Ά£¤¥¦§¨©�«¬\u00ad®―°±²³΄µ¶·ΈΉΊ»Ό½ΎΏΐΑΒΓΔΕΖΗΘΙ"
      ++ "ΚΛΜΝΞΟΠΡ�ΣΤΥΦΧΨΩΪΫάέήίΰαβγδεζηθικλμνξοπρςστυφχψωϊϋόύώ�"),
   (["CP1254", "MS-TURK", "WINDOWS-1254"],
    "€�‚ƒ„…†‡ˆ‰Š‹Œ����‘’“”•–—˜™š›œ��Ÿ\u00a0¡¢£¤¥¦§¨©ª«¬\u00ad®¯°±²³´µ¶·¸¹º»¼½¾¿ÀÁÂÃÄÅÆÇÈÉ"
      ++ "ÊËÌÍÎÏĞÑÒÓÔÕÖ×ØÙÚÛÜİŞßàáâãäåæçèéêëìíîïğñòóôõö÷øùúûüışÿ"),
   (["CP1256", "MS-ARAB", "WINDOWS-1256"],
    "€\u067e‚ƒ„…†‡ˆ‰\u0679‹Œ\u0686\u0698\u0688\u06af‘’“”•–—\u06a9™\u0691›œ\u200c\u200d"
      ++ "\u06ba\u00a0\u060c¢£¤¥¦§¨©\u06be«¬\u00ad®¯°±²³´µ¶·¸¹\u061b»¼½¾\u061f\u06c1\u0621"
      ++ "\u0622\u0623\u0624\u0625\u0626\u0627\u0628\u0629\u062a\u062b\u062c\u062d\u062e\u062f"
      ++ "\u0630\u0631\u0632\u0633\u0634\u0635\u0636×\u0637\u0638\u0639\u063a\u0640\u0641"
      ++ "\u0642\u0643à\u0644â\u0645\u0646\u0647\u0648çèéêë\u0649\u064aîï\u064b\u064c\u064d"
      ++ "\u064eô\u064f\u0650÷\u0651ù\u0652ûü\u200e\u200f\u06d2"),
   (["CP1257", "WINBALTRIM", "WINDOWS-1257"],
    "€�‚�„…†‡�‰�‹�¨ˇ¸�‘’“”•–—�™�›�¯˛�\u00a0�¢£¤�¦§Ø©Ŗ«¬\u00ad®Æ°±²³´µ¶·ø¹ŗ»¼½¾æĄĮĀĆÄÅĘĒČÉ"
      ++ "ŹĖĢĶĪĻŠŃŅÓŌÕÖ×ŲŁŚŪÜŻŽßąįāćäåęēčéźėģķīļšńņóōõö÷ųłśūüżž˙"),
   (["IBM437", "437", "CP437"],
    "ÇüéâäàåçêëèïîìÄÅÉæÆôöòûùÿÖÜ¢£¥₧ƒáíóúñÑªº¿⌐¬½¼¡«»░▒▓│┤╡╢╖╕╣║╗╝╜╛┐└┴┬├─┼╞╟╚╔╩╦╠═╬╧╨╤╥╙"
      ++ "╘╒╓╫╪┘┌█▄▌▐▀αßΓπΣσµτΦΘΩδ∞φε∩≡±≥≤⌠⌡÷≈°∙·√ⁿ²■\u00a0"),
   (["IBM850", "850", "CP850"],
    "ÇüéâäàåçêëèïîìÄÅÉæÆôöòûùÿÖÜø£Ø×ƒáíóúñÑªº¿®¬½¼¡«»░▒▓│┤ÁÂÀ©╣║╗╝¢¥┐└┴┬├─┼ãÃ╚╔╩╦╠═╬¤ðÐÊË"
      ++ "ÈıÍÎÏ┘┌█▄¦Ì▀ÓßÔÒõÕµþÞÚÛÙýÝ¯´\u00ad±‗¾¶§÷¸°¨·¹³²■\u00a0"),
   (["IBM852", "852", "CP852"],
    "ÇüéâäůćçłëŐőîŹÄĆÉĹĺôöĽľŚśÖÜŤťŁ×čáíóúĄąŽžĘę¬źČş«»░▒▓│┤ÁÂĚŞ╣║╗╝Żż┐└┴┬├─┼Ăă╚╔╩╦╠═╬¤đĐĎË"
      ++ "ďŇÍÎě┘┌█▄ŢŮ▀ÓßÔŃńňŠšŔÚŕŰýÝţ´\u00ad˝˛ˇ˘§÷¸°¨˙űŘř■\u00a0"),
   (["IBM858", "858", "CP858"],
    "ÇüéâäàåçêëèïîìÄÅÉæÆôöòûùÿÖÜø£Ø×ƒáíóúñÑªº¿®¬½¼¡«»░▒▓│┤ÁÂÀ©╣║╗╝¢¥┐└┴┬├─┼ãÃ╚╔╩╦╠═╬¤ðÐÊË"
      ++ "È€ÍÎÏ┘┌█▄¦Ì▀ÓßÔÒõÕµþÞÚÛÙýÝ¯´\u00ad±‗¾¶§÷¸°¨·¹³²■\u00a0"),
   (["IBM866", "866", "CP866"],
    "АБВГДЕЖЗИЙКЛМНОПРСТУФХЦЧШЩЪЫЬЭЮЯабвгдежзийклмноп░▒▓│┤╡╢╖╕╣║╗╝╜╛┐└┴┬├─┼╞╟╚╔╩╦╠═╬╧╨╤╥╙"
      ++ "╘╒╓╫╪┘┌█▄▌▐▀рстуфхцчшщъыьэюяЁёЄєЇїЎў°∙·√№¤■\u00a0"),
   (["KOI8-R", "KOI8R"],
    "─│┌┐└┘├┤┬┴┼▀▄█▌▐░▒▓⌠■∙√≈≤≥\u00a0⌡°²·÷═║╒ё╓╔╕╖╗╘╙╚╛╜╝╞╟╠╡Ё╢╣╤╥╦╧╨╩╪╫╬©юабцдефгхийклмн"
      ++ "опярстужвьызшэщчъЮАБЦДЕФГХИЙКЛМНОПЯРСТУЖВЬЫЗШЭЩЧЪ"),
   (["KOI8-U", "KOI8U"],
    "─│┌┐└┘├┤┬┴┼▀▄█▌▐░▒▓⌠■∙√≈≤≥\u00a0⌡°²·÷═║╒ёє╔ії╗╘╙╚╛ґ╝╞╟╠╡ЁЄ╣ІЇ╦╧╨╩╪Ґ╬©юабцдефгхийклмн"
      ++ "опярстужвьызшэщчъЮАБЦДЕФГХИЙКЛМНОПЯРСТУЖВЬЫЗШЭЩЧЪ"),
   (["MACINTOSH", "MAC"],
    "ÄÅÇÉÑÖÜáàâäãåçéèêëíìîïñóòôöõúùûü†°¢£§•¶ß®©™´¨≠ÆØ∞±≤≥¥µ∂∑∏π∫ªºΩæø¿¡¬√ƒ≈Δ«»…\u00a0ÀÃÕŒ"
      ++ "œ–—“”‘’÷◊ÿŸ⁄€‹›ﬁﬂ‡·‚„‰ÂÊÁËÈÍÎÏÌÓÔ\ue01eÒÚÛÙıˆ˜¯˘˙˚¸˝˛ˇ")]

/-- The coding of a name in capital letters. -/
def ofName? (name : String) : Option Coding :=
  match unpagedNames.find? fun (names, _) => names.contains name with
  | some (_, coding) => some coding
  | none =>
    (pagedNames.find? fun (names, _) => names.contains name).map fun (_, characters) =>
      .page (256 - characters.length) characters

/-! ## Reading -/

/-- What stands at the head of bytes. -/
inductive Taken where
  /-- A character, and the number of its bytes. -/
  | character (code count : Nat)
  /-- Bytes that stand for nothing, and their number. -/
  | wrong (count : Nat)
  /-- The first bytes of a character that is cut off. -/
  | cut

/-- Whether a byte goes on with a character. -/
def goesOn (c : Char) : Bool := 0x80 ≤ c.toNat && c.toNat < 0xc0

/-- Whether a number is half of a pair. -/
def isHalf (code : Nat) : Bool := 0xd800 ≤ code && code < 0xe000

/-- The number that bytes stand for, of which the first weighs most. -/
def number (bytes : ByteText) : Nat := bytes.foldl (fun n c => n * 256 + c.toNat) 0

/-- The character of so many bytes at the head of a text. -/
def takeCounted (count lead : Nat) (rest : ByteText) : Taken :=
  let more := (rest.take (count - 1)).takeWhile goesOn
  if more.length = count - 1 then
    let code := more.foldl (fun code c => code * 64 + c.toNat % 64) lead
    let least := if count = 3 then 0x800 else if count = 4 then 0x10000 else 0
    if code < least then .wrong count else .character code count
  else if more.length = rest.length then .cut
  else .wrong (more.length + 1)

/-- Reads the first character of a text. -/
def take? (coding : Coding) (isBig : Bool) (text : ByteText) : Option Taken :=
  match coding, text with
  | _, [] => none
  | .page first characters, c :: _ =>
    if c.toNat < first then some (.character c.toNat 1)
    else
      match characters.toList[c.toNat - first]? with
      | some '\ufffd' => some (.wrong 1)
      | some c => some (.character c.toNat 1)
      | none => some (.wrong 1)
  | .counted, c :: rest =>
    let n := c.toNat
    if n < 0x80 then some (.character n 1)
    else if 0xc2 ≤ n && n < 0xe0 then some (takeCounted 2 (n - 0xc0) rest)
    else if 0xe0 ≤ n && n < 0xf0 then some (takeCounted 3 (n - 0xe0) rest)
    else if 0xf0 ≤ n && n < 0xf8 then some (takeCounted 4 (n - 0xf0) rest)
    else some (.wrong (1 + ((rest.take 4).takeWhile goesOn).length))
  | .units size _ hasPairs, text =>
    let unit := text.take size
    let value (unit : ByteText) := number (if isBig then unit else unit.reverse)
    let code := value unit
    if unit.length < size then some .cut
    else if size = 4 then
      if hasPairs && (isHalf code || 0x10ffff < code) then some (.wrong 4)
      else if 0x7fffffff < code then some (.wrong 4)
      else some (.character code 4)
    else if !isHalf code then some (.character code 2)
    else if !hasPairs || 0xdc00 ≤ code then some (.wrong 2)
    else
      let next := (text.drop 2).take 2
      let low := value next
      if next.length < 2 then some .cut
      else if 0xdc00 ≤ low && low < 0xe000 then
        some (.character (0x10000 + (code - 0xd800) * 0x400 + (low - 0xdc00)) 4)
      else some (.wrong 2)

/-- Whether the byte that weighs most comes first in a text, and the number of bytes of the mark that
says so. -/
def orderOf (coding : Coding) (text : ByteText) : Bool × Nat :=
  match coding with
  | .units _ .big _ => (true, 0)
  | .units size .marked _ =>
    let mark := text.take size
    if mark.length < size then (false, 0)
    else if number mark = 0xfeff then (true, size)
    else if number mark.reverse = 0xfeff then (false, size)
    else (false, 0)
  | _ => (false, 0)

/-! ## Writing -/

/-- A number as so many bytes, of which the first weighs most. -/
def bytesOf (count code : Nat) : ByteText :=
  (List.range count).reverse.map fun place => Char.ofNat (code / Nat.pow 256 place % 256)

/-- The mark before a text. -/
def mark : Coding → ByteText
  | .units size .marked _ => (bytesOf size 0xfeff).reverse
  | _ => []

/-- The bytes of a character, if it can be written. -/
def write? (coding : Coding) (code : Nat) : Option ByteText :=
  match coding with
  | .page first characters =>
    if code < first then some [Char.ofNat code]
    else if code / 128 = 0xe0000 / 128 then some []
    else
      (characters.toList.findIdx? fun c => c.toNat = code && c != '\ufffd').map fun index =>
        [Char.ofNat (first + index)]
  | .counted =>
    let tail (place : Nat) : Char := Char.ofNat (0x80 + code / Nat.pow 64 place % 64)
    if isHalf code then none
    else if code < 0x80 then some [Char.ofNat code]
    else if code < 0x800 then some [Char.ofNat (0xc0 + code / 64), tail 0]
    else if code < 0x10000 then some [Char.ofNat (0xe0 + code / 4096), tail 1, tail 0]
    else if code < 0x200000 then
      some [Char.ofNat (0xf0 + code / 262144), tail 2, tail 1, tail 0]
    else none
  | .units size order hasPairs =>
    let unit (code : Nat) := if order = .big then bytesOf size code else (bytesOf size code).reverse
    if size = 4 then
      if hasPairs && (isHalf code || 0x10ffff < code) then none else some (unit code)
    else if isHalf code then none
    else if code < 0x10000 then some (unit code)
    else if hasPairs && code ≤ 0x10ffff then
      some (unit (0xd800 + (code - 0x10000) / 0x400) ++ unit (0xdc00 + (code - 0x10000) % 0x400))
    else none

end Coding

end SchemaDocs.Shell
