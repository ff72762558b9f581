import InstallerKit.Text.Charset.CodePage

/-!
# Windows code pages

They add letters and typographical signs to ASCII, at the bytes from 0x80 on.
-/

namespace InstallerKit.Text.Charset

/-- Thai. -/
def cp874 : CodePage :=
  ⟨0x80,
    [(0x80, "€"), (0x85, "…"), (0x91, "‘’“”•–—"),
     (0xa0, "\xa0กขฃคฅฆงจฉชซฌญฎฏฐฑฒณดตถทธนบปผฝพฟภมยรฤลฦวศษสหฬอฮฯะ\u0e31าำ\u0e34\u0e35\u0e36"),
     (0xd7, "\u0e37\u0e38\u0e39\u0e3a"),
     (0xdf, "฿เแโใไๅๆ\u0e47\u0e48\u0e49\u0e4a\u0e4b\u0e4c\u0e4d\u0e4e๏๐๑๒๓๔๕๖๗๘๙๚๛")]⟩

/-- Central European languages. -/
def cp1250 : CodePage :=
  ⟨0x80,
    [(0x80, "€"), (0x82, "‚"), (0x84, "„…†‡"), (0x89, "‰Š‹ŚŤŽŹ"), (0x91, "‘’“”•–—"),
     (0x99, "™š›śťžź\xa0ˇ˘Ł¤Ą¦§¨©Ş«¬\xad®Ż°±˛ł´µ¶·¸ąş»Ľ˝ľżŔÁÂĂÄĹĆÇČÉĘËĚÍÎĎĐŃŇÓÔŐÖ×ŘŮÚŰÜÝŢßŕáâ"),
     (0xe3, "ăäĺćçčéęëěíîďđńňóôőö÷řůúűüýţ˙")]⟩

/-- Cyrillic. -/
def cp1251 : CodePage :=
  ⟨0x80,
    [(0x80, "ЂЃ‚ѓ„…†‡€‰Љ‹ЊЌЋЏђ‘’“”•–—"),
     (0x99, "™љ›њќћџ\xa0ЎўЈ¤Ґ¦§Ё©Є«¬\xad®Ї°±Ііґµ¶·ё№є»јЅѕїАБВГДЕЖЗИЙКЛМНОПРСТУФХЦЧШЩЪЫЬЭЮЯабв"),
     (0xe3, "гдежзийклмнопрстуфхцчшщъыьэюя")]⟩

/-- Western European languages. -/
def cp1252 : CodePage :=
  ⟨0x80,
    [(0x80, "€"), (0x82, "‚ƒ„…†‡ˆ‰Š‹Œ"), (0x8e, "Ž"), (0x91, "‘’“”•–—˜™š›œ"),
     (0x9e, "žŸ\xa0¡¢£¤¥¦§¨©ª«¬\xad®¯°±²³´µ¶·¸¹º»¼½¾¿ÀÁÂÃÄÅÆÇÈÉÊËÌÍÎÏÐÑÒÓÔÕÖ×ØÙÚÛÜÝÞßàáâãäåæç"),
     (0xe8, "èéêëìíîïðñòóôõö÷øùúûüýþÿ")]⟩

/-- Greek. -/
def cp1253 : CodePage :=
  ⟨0x80,
    [(0x80, "€"), (0x82, "‚ƒ„…†‡"), (0x89, "‰"), (0x8b, "‹"), (0x91, "‘’“”•–—"), (0x99, "™"),
     (0x9b, "›"), (0xa0, "\xa0΅Ά£¤¥¦§¨©"), (0xab, "«¬\xad®―°±²³΄µ¶·ΈΉΊ»Ό½ΎΏΐΑΒΓΔΕΖΗΘΙΚΛΜΝΞΟΠΡ"),
     (0xd3, "ΣΤΥΦΧΨΩΪΫάέήίΰαβγδεζηθικλμνξοπρςστυφχψωϊϋόύώ")]⟩

/-- Turkish. -/
def cp1254 : CodePage :=
  ⟨0x80,
    [(0x80, "€"), (0x82, "‚ƒ„…†‡ˆ‰Š‹Œ"), (0x91, "‘’“”•–—˜™š›œ"),
     (0x9f, "Ÿ\xa0¡¢£¤¥¦§¨©ª«¬\xad®¯°±²³´µ¶·¸¹º»¼½¾¿ÀÁÂÃÄÅÆÇÈÉÊËÌÍÎÏĞÑÒÓÔÕÖ×ØÙÚÛÜİŞßàáâãäåæçè"),
     (0xe9, "éêëìíîïğñòóôõö÷øùúûüışÿ")]⟩

/-- Hebrew. -/
def cp1255 : CodePage :=
  ⟨0x80,
    [(0x80, "€"), (0x82, "‚ƒ„…†‡ˆ‰"), (0x8b, "‹"), (0x91, "‘’“”•–—˜™"), (0x9b, "›"),
     (0xa0, "\xa0¡¢£₪¥¦§¨©×«¬\xad®¯°±²³´µ¶·¸¹÷»¼½¾¿\u05b0\u05b1\u05b2\u05b3\u05b4\u05b5\u05b6"),
     (0xc7, "\u05b7\u05b8\u05b9"),
     (0xcb, "\u05bb\u05bc\u05bd\u05be\u05bf\u05c0\u05c1\u05c2\u05c3\u05f0\u05f1\u05f2\u05f3"),
     (0xd8, "\u05f4"),
     (0xe0, "\u05d0\u05d1\u05d2\u05d3\u05d4\u05d5\u05d6\u05d7\u05d8\u05d9\u05da\u05db\u05dc"),
     (0xed, "\u05dd\u05de\u05df\u05e0\u05e1\u05e2\u05e3\u05e4\u05e5\u05e6\u05e7\u05e8\u05e9"),
     (0xfa, "\u05ea"), (0xfd, "\u200e\u200f")]⟩

/-- Arabic. -/
def cp1256 : CodePage :=
  ⟨0x80,
    [(0x80, "€\u067e‚ƒ„…†‡ˆ‰\u0679‹Œ\u0686\u0698\u0688\u06af‘’“”•–—\u06a9™\u0691›œ\u200c"),
     (0x9e, "\u200d\u06ba\xa0،¢£¤¥¦§¨©\u06be«¬\xad®¯°±²³´µ¶·¸¹\u061b»¼½¾\u061f\u06c1\u0621"),
     (0xc2, "\u0622\u0623\u0624\u0625\u0626\u0627\u0628\u0629\u062a\u062b\u062c\u062d\u062e"),
     (0xcf, "\u062f\u0630\u0631\u0632\u0633\u0634\u0635\u0636×\u0637\u0638\u0639\u063a\u0640"),
     (0xdd, "\u0641\u0642\u0643à\u0644â\u0645\u0646\u0647\u0648çèéêë\u0649\u064aîï\u064b"),
     (0xf1, "\u064c\u064d\u064eô\u064f\u0650÷\u0651ù\u0652ûü\u200e\u200f\u06d2")]⟩

/-- Baltic languages. -/
def cp1257 : CodePage :=
  ⟨0x80,
    [(0x80, "€"), (0x82, "‚"), (0x84, "„…†‡"), (0x89, "‰"), (0x8b, "‹"), (0x8d, "¨ˇ¸"),
     (0x91, "‘’“”•–—"), (0x99, "™"), (0x9b, "›"), (0x9d, "¯˛"), (0xa0, "\xa0"), (0xa2, "¢£¤"),
     (0xa6, "¦§Ø©Ŗ«¬\xad®Æ°±²³´µ¶·ø¹ŗ»¼½¾æĄĮĀĆÄÅĘĒČÉŹĖĢĶĪĻŠŃŅÓŌÕÖ×ŲŁŚŪÜŻŽßąįāćäåęēčéźėģķīļšńņ"),
     (0xf3, "óōõö÷ųłśūüżž˙")]⟩

/-- Vietnamese. -/
def cp1258 : CodePage :=
  ⟨0x80,
    [(0x80, "€"), (0x82, "‚ƒ„…†‡ˆ‰"), (0x8b, "‹Œ"), (0x91, "‘’“”•–—˜™"), (0x9b, "›œ"),
     (0x9f, "Ÿ\xa0¡¢£¤¥¦§¨©ª«¬\xad®¯°±²³´µ¶·¸¹º»¼½¾¿ÀÁÂĂÄÅÆÇÈÉÊË\u0300ÍÎÏĐÑ\u0309ÓÔƠÖ×ØÙÚÛÜƯ"),
     (0xde, "\u0303ßàáâăäåæçèéêë\u0301íîïđñ\u0323óôơö÷øùúûüư₫ÿ")]⟩

/-- The Windows code pages by their names. -/
def windowsPages : List (String × CodePage) :=
  [("cp874", cp874), ("cp1250", cp1250), ("cp1251", cp1251), ("cp1252", cp1252), ("cp1253", cp1253),
   ("cp1254", cp1254), ("cp1255", cp1255), ("cp1256", cp1256), ("cp1257", cp1257),
   ("cp1258", cp1258)]

end InstallerKit.Text.Charset
