import InstallerKit.Text.Charset.CodePage

/-!
# Macintosh code pages

They add letters and typographical signs to ASCII. Two of them have the signs of ASCII
once more, for writing from right to left; what is written are the bytes below.
-/

namespace InstallerKit.Text.Charset

/-- Arabic. -/
def macarabic : CodePage :=
  ⟨0x20,
    [(0x25, "%"), (0x2c, ","), (0x30, "0123456789"), (0x3b, ";"),
     (0x3f, "?@ABCDEFGHIJKLMNOPQRSTUVWXYZ"), (0x60, "`abcdefghijklmnopqrstuvwxyz"),
     (0x7e, "~\x7fÄ\xa0ÇÉÑÖÜáàâä\u06ba«çéèêëí…îïñó»ôö÷úùûü !\x22#$٪&'()*+،-./\u0660\u0661"),
     (0xb2, "\u0662\u0663\u0664\u0665\u0666\u0667\u0668\u0669:\u061b<=>\u061f❊\u0621\u0622"),
     (0xc3, "\u0623\u0624\u0625\u0626\u0627\u0628\u0629\u062a\u062b\u062c\u062d\u062e\u062f"),
     (0xd0, "\u0630\u0631\u0632\u0633\u0634\u0635\u0636\u0637\u0638\u0639\u063a[\x5c]^_\u0640"),
     (0xe1, "\u0641\u0642\u0643\u0644\u0645\u0646\u0647\u0648\u0649\u064a\u064b\u064c\u064d"),
     (0xee, "\u064e\u064f\u0650\u0651\u0652\u067e\u0679\u0686\u06d5\u06a4\u06af\u0688\u0691"),
     (0xfb, "\x7b|\x7d\u0698\u06d2")]⟩

/-- Croatian. -/
def maccroatian : CodePage :=
  ⟨0x80,
    [(0x80, "ÄÅÇÉÑÖÜáàâäãåçéèêëíìîïñóòôöõúùûü†°¢£§•¶ß®Š™´¨≠ŽØ∞±≤≥∆µ∂∑∏š∫ªºΩžø¿¡¬√ƒ≈Ć«Č…\xa0ÀÃ"),
     (0xcd, "ÕŒœĐ—“”‘’÷◊\uf8ff©⁄€‹›Æ»–·‚„‰ÂćÁčÈÍÎÏÌÓÔđÒÚÛÙıˆ˜¯πË˚¸Êæˇ")]⟩

/-- Cyrillic. -/
def maccyrillic : CodePage :=
  ⟨0x80,
    [(0x80, "АБВГДЕЖЗИЙКЛМНОПРСТУФХЦЧШЩЪЫЬЭЮЯ†°Ґ£§•¶І®©™Ђђ≠Ѓѓ∞±≤≥іµґЈЄєЇїЉљЊњјЅ¬√ƒ≈∆«»…\xa0Ћћ"),
     (0xcd, "Ќќѕ–—“”‘’÷„ЎўЏџ№Ёёяабвгдежзийклмнопрстуфхцчшщъыьэю€")]⟩

/-- Persian. -/
def macfarsi : CodePage :=
  ⟨0x20,
    [(0x25, "%"), (0x2c, ","), (0x30, "0123456789"), (0x3b, ";"),
     (0x3f, "?@ABCDEFGHIJKLMNOPQRSTUVWXYZ"), (0x60, "`abcdefghijklmnopqrstuvwxyz"),
     (0x7e, "~\x7fÄ\xa0ÇÉÑÖÜáàâä\u06ba«çéèêëí…îïñó»ôö÷úùûü !\x22#$٪&'()*+،-./۰۱۲۳۴۵۶۷۸۹:"),
     (0xbb, "\u061b<=>\u061f❊\u0621\u0622\u0623\u0624\u0625\u0626\u0627\u0628\u0629\u062a"),
     (0xcb, "\u062b\u062c\u062d\u062e\u062f\u0630\u0631\u0632\u0633\u0634\u0635\u0636\u0637"),
     (0xd8, "\u0638\u0639\u063a[\x5c]^_\u0640\u0641\u0642\u0643\u0644\u0645\u0646\u0647\u0648"),
     (0xe9, "\u0649\u064a\u064b\u064c\u064d\u064e\u064f\u0650\u0651\u0652\u067e\u0679\u0686"),
     (0xf6, "\u06d5\u06a4\u06af\u0688\u0691\x7b|\x7d\u0698\u06d2")]⟩

/-- Greek. -/
def macgreek : CodePage :=
  ⟨0x80,
    [(0x80, "Ä¹²É³ÖÜ΅àâä΄¨çéèêë£™îï•½‰ôö¦€ùûü†ΓΔΘΛΞΠß®©ΣΪ§≠°·Α±≤≥¥ΒΕΖΗΙΚΜΦΫΨΩάΝ¬ΟΡ≈Τ«»…\xa0ΥΧ"),
     (0xcd, "ΆΈœ–―“”‘’÷ΉΊΌΎέήίόΏύαβψδεφγηιξκλμνοπώρστθωςχυζϊϋΐΰ\xad")]⟩

/-- Icelandic. -/
def maciceland : CodePage :=
  ⟨0x80,
    [(0x80, "ÄÅÇÉÑÖÜáàâäãåçéèêëíìîïñóòôöõúùûüÝ°¢£§•¶ß®©™´¨≠ÆØ∞±≤≥¥µ∂∑∏π∫ªºΩæø¿¡¬√ƒ≈∆«»…\xa0ÀÃ"),
     (0xcd, "ÕŒœ–—“”‘’÷◊ÿŸ⁄€ÐðÞþý·‚„‰ÂÊÁËÈÍÎÏÌÓÔ\uf8ffÒÚÛÙıˆ˜¯˘˙˚¸˝˛ˇ")]⟩

/-- Central European languages. -/
def maclatin2 : CodePage :=
  ⟨0x80,
    [(0x80, "ÄĀāÉĄÖÜáąČäčĆćéŹźĎíďĒēĖóėôöõúĚěü†°Ę£§•¶ß®©™ę¨≠ģĮįĪ≤≥īĶ∂∑łĻļĽľĹĺŅņŃ¬√ńŇ∆«»…\xa0ňŐ"),
     (0xcd, "ÕőŌ–—“”‘’÷◊ōŔŕŘ‹›řŖŗŠ‚„šŚśÁŤťÍŽžŪÓÔūŮÚůŰűŲųÝýķŻŁżĢˇ")]⟩

/-- Western European languages. -/
def macroman : CodePage :=
  ⟨0x80,
    [(0x80, "ÄÅÇÉÑÖÜáàâäãåçéèêëíìîïñóòôöõúùûü†°¢£§•¶ß®©™´¨≠ÆØ∞±≤≥¥µ∂∑∏π∫ªºΩæø¿¡¬√ƒ≈∆«»…\xa0ÀÃ"),
     (0xcd, "ÕŒœ–—“”‘’÷◊ÿŸ⁄€‹›ﬁﬂ‡·‚„‰ÂÊÁËÈÍÎÏÌÓÔ\uf8ffÒÚÛÙıˆ˜¯˘˙˚¸˝˛ˇ")]⟩

/-- Romanian. -/
def macromanian : CodePage :=
  ⟨0x80,
    [(0x80, "ÄÅÇÉÑÖÜáàâäãåçéèêëíìîïñóòôöõúùûü†°¢£§•¶ß®©™´¨≠ĂȘ∞±≤≥¥µ∂∑∏π∫ªºΩăș¿¡¬√ƒ≈∆«»…\xa0ÀÃ"),
     (0xcd, "ÕŒœ–—“”‘’÷◊ÿŸ⁄€‹›Țț‡·‚„‰ÂÊÁËÈÍÎÏÌÓÔ\uf8ffÒÚÛÙıˆ˜¯˘˙˚¸˝˛ˇ")]⟩

/-- Turkish. -/
def macturkish : CodePage :=
  ⟨0x80,
    [(0x80, "ÄÅÇÉÑÖÜáàâäãåçéèêëíìîïñóòôöõúùûü†°¢£§•¶ß®©™´¨≠ÆØ∞±≤≥¥µ∂∑∏π∫ªºΩæø¿¡¬√ƒ≈∆«»…\xa0ÀÃ"),
     (0xcd, "ÕŒœ–—“”‘’÷◊ÿŸĞğİıŞş‡·‚„‰ÂÊÁËÈÍÎÏÌÓÔ\uf8ffÒÚÛÙ\uf8a0ˆ˜¯˘˙˚¸˝˛ˇ")]⟩

/-- The Macintosh code pages by their names. -/
def macintoshPages : List (String × CodePage) :=
  [("mac_arabic", macarabic), ("mac_croatian", maccroatian), ("mac_cyrillic", maccyrillic),
   ("mac_farsi", macfarsi), ("mac_greek", macgreek), ("mac_iceland", maciceland),
   ("mac_latin2", maclatin2), ("mac_roman", macroman), ("mac_romanian", macromanian),
   ("mac_turkish", macturkish)]

end InstallerKit.Text.Charset
