import InstallerKit.Text.Charset.CodePage

/-!
# The parts of ISO 8859

Each part adds the letters of a group of languages to ASCII, at the bytes from 0xa0
on. The bytes before those are control characters. The first part is not here: its
characters are those of the same number.
-/

namespace InstallerKit.Text.Charset

/-- Central European languages. -/
def iso88592 : CodePage :=
  ⟨0xa0,
    [(0xa0, "\xa0Ą˘Ł¤ĽŚ§¨ŠŞŤŹ\xadŽŻ°ą˛ł´ľśˇ¸šşťź˝žżŔÁÂĂÄĹĆÇČÉĘËĚÍÎĎĐŃŇÓÔŐÖ×ŘŮÚŰÜÝŢßŕáâăäĺćçčé"),
     (0xea, "ęëěíîďđńňóôőö÷řůúűüýţ˙")]⟩

/-- Southern European languages. -/
def iso88593 : CodePage :=
  ⟨0xa0,
    [(0xa0, "\xa0Ħ˘£¤"), (0xa6, "Ĥ§¨İŞĞĴ\xad"), (0xaf, "Ż°ħ²³´µĥ·¸ışğĵ½"), (0xbf, "żÀÁÂ"),
     (0xc4, "ÄĊĈÇÈÉÊËÌÍÎÏ"), (0xd1, "ÑÒÓÔĠÖ×ĜÙÚÛÜŬŜßàáâ"), (0xe4, "äċĉçèéêëìíîï"),
     (0xf1, "ñòóôġö÷ĝùúûüŭŝ˙")]⟩

/-- Northern European languages. -/
def iso88594 : CodePage :=
  ⟨0xa0,
    [(0xa0, "\xa0ĄĸŖ¤ĨĻ§¨ŠĒĢŦ\xadŽ¯°ą˛ŗ´ĩļˇ¸šēģŧŊžŋĀÁÂÃÄÅÆĮČÉĘËĖÍÎĪĐŅŌĶÔÕÖ×ØŲÚÛÜŨŪßāáâãäåæįčé"),
     (0xea, "ęëėíîīđņōķôõö÷øųúûüũū˙")]⟩

/-- Cyrillic. -/
def iso88595 : CodePage :=
  ⟨0xa0,
    [(0xa0, "\xa0ЁЂЃЄЅІЇЈЉЊЋЌ\xadЎЏАБВГДЕЖЗИЙКЛМНОПРСТУФХЦЧШЩЪЫЬЭЮЯабвгдежзийклмнопрстуфхцчшщ"),
     (0xea, "ъыьэюя№ёђѓєѕіїјљњћќ§ўџ")]⟩

/-- Arabic. -/
def iso88596 : CodePage :=
  ⟨0xa0,
    [(0xa0, "\xa0"), (0xa4, "¤"), (0xac, "،\xad"), (0xbb, "\u061b"), (0xbf, "\u061f"),
     (0xc1, "\u0621\u0622\u0623\u0624\u0625\u0626\u0627\u0628\u0629\u062a\u062b\u062c\u062d"),
     (0xce, "\u062e\u062f\u0630\u0631\u0632\u0633\u0634\u0635\u0636\u0637\u0638\u0639\u063a"),
     (0xe0, "\u0640\u0641\u0642\u0643\u0644\u0645\u0646\u0647\u0648\u0649\u064a\u064b\u064c"),
     (0xed, "\u064d\u064e\u064f\u0650\u0651\u0652")]⟩

/-- Greek. -/
def iso88597 : CodePage :=
  ⟨0xa0,
    [(0xa0, "\xa0‘’£€₯¦§¨©ͺ«¬\xad"), (0xaf, "―°±²³΄΅Ά·ΈΉΊ»Ό½ΎΏΐΑΒΓΔΕΖΗΘΙΚΛΜΝΞΟΠΡ"),
     (0xd3, "ΣΤΥΦΧΨΩΪΫάέήίΰαβγδεζηθικλμνξοπρςστυφχψωϊϋόύώ")]⟩

/-- Hebrew. -/
def iso88598 : CodePage :=
  ⟨0xa0,
    [(0xa0, "\xa0"), (0xa2, "¢£¤¥¦§¨©×«¬\xad®¯°±²³´µ¶·¸¹÷»¼½¾"),
     (0xdf, "‗\u05d0\u05d1\u05d2\u05d3\u05d4\u05d5\u05d6\u05d7\u05d8\u05d9\u05da\u05db\u05dc"),
     (0xed, "\u05dd\u05de\u05df\u05e0\u05e1\u05e2\u05e3\u05e4\u05e5\u05e6\u05e7\u05e8\u05e9"),
     (0xfa, "\u05ea"), (0xfd, "\u200e\u200f")]⟩

/-- Turkish. -/
def iso88599 : CodePage :=
  ⟨0xa0,
    [(0xa0, "\xa0¡¢£¤¥¦§¨©ª«¬\xad®¯°±²³´µ¶·¸¹º»¼½¾¿ÀÁÂÃÄÅÆÇÈÉÊËÌÍÎÏĞÑÒÓÔÕÖ×ØÙÚÛÜİŞßàáâãäåæçèé"),
     (0xea, "êëìíîïğñòóôõö÷øùúûüışÿ")]⟩

/-- Nordic languages. -/
def iso885910 : CodePage :=
  ⟨0xa0,
    [(0xa0, "\xa0ĄĒĢĪĨĶ§ĻĐŠŦŽ\xadŪŊ°ąēģīĩķ·ļđšŧž―ūŋĀÁÂÃÄÅÆĮČÉĘËĖÍÎÏÐŅŌÓÔÕÖŨØŲÚÛÜÝÞßāáâãäåæįčé"),
     (0xea, "ęëėíîïðņōóôõöũøųúûüýþĸ")]⟩

/-- Thai. -/
def iso885911 : CodePage :=
  ⟨0xa0,
    [(0xa0, "\xa0กขฃคฅฆงจฉชซฌญฎฏฐฑฒณดตถทธนบปผฝพฟภมยรฤลฦวศษสหฬอฮฯะ\u0e31าำ\u0e34\u0e35\u0e36"),
     (0xd7, "\u0e37\u0e38\u0e39\u0e3a"),
     (0xdf, "฿เแโใไๅๆ\u0e47\u0e48\u0e49\u0e4a\u0e4b\u0e4c\u0e4d\u0e4e๏๐๑๒๓๔๕๖๗๘๙๚๛")]⟩

/-- Baltic languages. -/
def iso885913 : CodePage :=
  ⟨0xa0,
    [(0xa0, "\xa0”¢£¤„¦§Ø©Ŗ«¬\xad®Æ°±²³“µ¶·ø¹ŗ»¼½¾æĄĮĀĆÄÅĘĒČÉŹĖĢĶĪĻŠŃŅÓŌÕÖ×ŲŁŚŪÜŻŽßąįāćäåęēčé"),
     (0xea, "źėģķīļšńņóōõö÷ųłśūüżž’")]⟩

/-- Celtic languages. -/
def iso885914 : CodePage :=
  ⟨0xa0,
    [(0xa0, "\xa0Ḃḃ£ĊċḊ§Ẁ©ẂḋỲ\xad®ŸḞḟĠġṀṁ¶ṖẁṗẃṠỳẄẅṡÀÁÂÃÄÅÆÇÈÉÊËÌÍÎÏŴÑÒÓÔÕÖṪØÙÚÛÜÝŶßàáâãäåæçèé"),
     (0xea, "êëìíîïŵñòóôõöṫøùúûüýŷÿ")]⟩

/-- Western European languages, with the euro sign. -/
def iso885915 : CodePage :=
  ⟨0xa0,
    [(0xa0, "\xa0¡¢£€¥Š§š©ª«¬\xad®¯°±²³Žµ¶·ž¹º»ŒœŸ¿ÀÁÂÃÄÅÆÇÈÉÊËÌÍÎÏÐÑÒÓÔÕÖ×ØÙÚÛÜÝÞßàáâãäåæçèé"),
     (0xea, "êëìíîïðñòóôõö÷øùúûüýþÿ")]⟩

/-- South-eastern European languages. -/
def iso885916 : CodePage :=
  ⟨0xa0,
    [(0xa0, "\xa0ĄąŁ€„Š§š©Ș«Ź\xadźŻ°±ČłŽ”¶·žčș»ŒœŸżÀÁÂĂÄĆÆÇÈÉÊËÌÍÎÏĐŃÒÓÔŐÖŚŰÙÚÛÜĘȚßàáâăäćæçèé"),
     (0xea, "êëìíîïđńòóôőöśűùúûüęțÿ")]⟩

/-- The parts of ISO 8859 by their names. -/
def isoPages : List (String × CodePage) :=
  [("iso8859_2", iso88592), ("iso8859_3", iso88593), ("iso8859_4", iso88594),
   ("iso8859_5", iso88595), ("iso8859_6", iso88596), ("iso8859_7", iso88597),
   ("iso8859_8", iso88598), ("iso8859_9", iso88599), ("iso8859_10", iso885910),
   ("iso8859_11", iso885911), ("iso8859_13", iso885913), ("iso8859_14", iso885914),
   ("iso8859_15", iso885915), ("iso8859_16", iso885916)]

end InstallerKit.Text.Charset
