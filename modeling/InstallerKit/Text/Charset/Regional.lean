import InstallerKit.Text.Charset.CodePage

/-!
# Other code pages

Code pages for Cyrillic, Thai and Western European languages that belong to none of the
families.
-/

namespace InstallerKit.Text.Charset

/-- Western European languages, on terminals. -/
def hproman8 : CodePage :=
  ⟨0xa0,
    [(0xa0, "\xa0ÀÂÈÊËÎÏ´ˋˆ¨˜ÙÛ₤¯Ýý°ÇçÑñ¡¿¤£¥§ƒ¢âêôûáéóúàèòùäëöüÅîØÆåíøæÄìÖÜÉïßÔÁÃãÐðÍÌÓÒÕõŠš"),
     (0xed, "ÚŸÿÞþ·µ¶¾—¼½ªº«■»±")]⟩

/-- Russian, with the letters at the places of their Latin counterparts. -/
def koi8r : CodePage :=
  ⟨0x80,
    [(0x80, "─│┌┐└┘├┤┬┴┼▀▄█▌▐░▒▓⌠■∙√≈≤≥\xa0⌡°²·÷═║╒ё╓╔╕╖╗╘╙╚╛╜╝╞╟╠╡Ё╢╣╤╥╦╧╨╩╪╫╬©юабцдефгхийкл"),
     (0xcd, "мнопярстужвьызшэщчъЮАБЦДЕФГХИЙКЛМНОПЯРСТУЖВЬЫЗШЭЩЧЪ")]⟩

/-- Tajik, in the same order. -/
def koi8t : CodePage :=
  ⟨0x80,
    [(0x80, "қғ‚Ғ„…†‡"), (0x89, "‰ҳ‹ҲҷҶ"), (0x90, "Қ‘’“”•–—"), (0x99, "™"), (0x9b, "›"),
     (0xa1, "ӯӮё¤ӣ¦§"), (0xab, "«¬\xad®"), (0xb0, "°±²Ё"), (0xb5, "Ӣ¶·"), (0xb9, "№"), (0xbb, "»"),
     (0xbf, "©юабцдефгхийклмнопярстужвьызшэщчъЮАБЦДЕФГХИЙКЛМНОПЯРСТУЖВЬЫЗШЭЩЧЪ")]⟩

/-- Ukrainian, in the same order. -/
def koi8u : CodePage :=
  ⟨0x80,
    [(0x80, "─│┌┐└┘├┤┬┴┼▀▄█▌▐░▒▓⌠■∙√≈≤≥\xa0⌡°²·÷═║╒ёє╔ії╗╘╙╚╛ґ╝╞╟╠╡ЁЄ╣ІЇ╦╧╨╩╪Ґ╬©юабцдефгхийкл"),
     (0xcd, "мнопярстужвьызшэщчъЮАБЦДЕФГХИЙКЛМНОПЯРСТУЖВЬЫЗШЭЩЧЪ")]⟩

/-- Kazakh. -/
def kz1048 : CodePage :=
  ⟨0x80,
    [(0x80, "ЂЃ‚ѓ„…†‡€‰Љ‹ЊҚҺЏђ‘’“”•–—"),
     (0x99, "™љ›њқһџ\xa0ҰұӘ¤Ө¦§Ё©Ғ«¬\xad®Ү°±Ііөµ¶·ё№ғ»әҢңүАБВГДЕЖЗИЙКЛМНОПРСТУФХЦЧШЩЪЫЬЭЮЯабв"),
     (0xe3, "гдежзийклмнопрстуфхцчшщъыьэюя")]⟩

/-- Western European languages, on handhelds. -/
def palmos : CodePage :=
  ⟨0x80,
    [(0x80, "€\x81‚ƒ„…†‡ˆ‰Š‹Œ♦♣♥♠‘’“”•–—˜™š\x9bœ\x9d\x9eŸ\xa0¡¢£¤¥¦§¨©ª«¬\xad®¯°±²³´µ¶·¸¹º»¼½"),
     (0xbe, "¾¿ÀÁÂÃÄÅÆÇÈÉÊËÌÍÎÏÐÑÒÓÔÕÖ×ØÙÚÛÜÝÞßàáâãäåæçèéêëìíîïðñòóôõö÷øùúûüýþÿ")]⟩

/-- Cyrillic languages of Asia. -/
def ptcp154 : CodePage :=
  ⟨0x80,
    [(0x80, "ҖҒӮғ„…ҶҮҲүҠӢҢҚҺҸҗ‘’“”•–—ҳҷҡӣңқһҹ\xa0ЎўЈӨҘҰ§Ё©Ә«¬ӯ®Ҝ°ұІіҙө¶·ё№ә»јҪҫҝАБВГДЕЖЗИЙКЛМ"),
     (0xcd, "НОПРСТУФХЦЧШЩЪЫЬЭЮЯабвгдежзийклмнопрстуфхцчшщъыьэюя")]⟩

/-- Thai. -/
def tis620 : CodePage :=
  ⟨0xa0,
    [(0xa1, "กขฃคฅฆงจฉชซฌญฎฏฐฑฒณดตถทธนบปผฝพฟภมยรฤลฦวศษสหฬอฮฯะ\u0e31าำ\u0e34\u0e35\u0e36\u0e37"),
     (0xd8, "\u0e38\u0e39\u0e3a"),
     (0xdf, "฿เแโใไๅๆ\u0e47\u0e48\u0e49\u0e4a\u0e4b\u0e4c\u0e4d\u0e4e๏๐๑๒๓๔๕๖๗๘๙๚๛")]⟩

/-- The other code pages by their names. -/
def regionalPages : List (String × CodePage) :=
  [("hp_roman8", hproman8), ("koi8_r", koi8r), ("koi8_t", koi8t), ("koi8_u", koi8u),
   ("kz1048", kz1048), ("palmos", palmos), ("ptcp154", ptcp154), ("tis_620", tis620)]

end InstallerKit.Text.Charset
