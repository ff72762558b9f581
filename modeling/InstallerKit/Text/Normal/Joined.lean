/-!
# Joined letters

Many letters with a mark have a number of their own, and equal the plain letter followed
by the mark. The table is that of Unicode 14.0, without the syllables of Hangul, which
are counted, and without the letters that fall apart for good.
-/

namespace InstallerKit.Text.Normal

/-- The letters that can take a mark, each before the letter that comes of it. -/
def joinedLetters : List (Char × String) :=
  [('\u0300', "AÀEÈIÌNǸOÒUÙWẀYỲaàeèiìnǹoòuùwẁyỳ¨῭ÂẦÊỀÔỒÜǛâầêềôồüǜĂẰăằĒḔēḕŌṐōṑƠỜơờƯỪưừΑᾺΕῈΗῊΙῚ"),
   ('\u0300', "ΟῸΥῪΩῺαὰεὲηὴιὶοὸυὺωὼϊῒϋῢЕЀИЍеѐиѝἀἂἁἃἈἊἉἋἐἒἑἓἘἚἙἛἠἢἡἣἨἪἩἫἰἲἱἳἸἺἹἻὀὂὁὃὈὊὉὋὐὒὑὓὙὛ"),
   ('\u0300', "ὠὢὡὣὨὪὩὫ᾿῍῾῝"),
   ('\u0301', "AÁCĆEÉGǴIÍKḰLĹMḾNŃOÓPṔRŔSŚUÚWẂYÝZŹaácćeégǵiíkḱlĺmḿnńoópṕrŕsśuúwẃyýzź¨΅ÂẤÅǺÆǼÇḈ"),
   ('\u0301', "ÊẾÏḮÔỐÕṌØǾÜǗâấåǻæǽçḉêếïḯôốõṍøǿüǘĂẮăắĒḖēḗŌṒōṓŨṸũṹƠỚơớƯỨưứΑΆΕΈΗΉΙΊΟΌΥΎΩΏαάεέηήιί"),
   ('\u0301', "οόυύωώϊΐϋΰϒϓГЃКЌгѓкќἀἄἁἅἈἌἉἍἐἔἑἕἘἜἙἝἠἤἡἥἨἬἩἭἰἴἱἵἸἼἹἽὀὄὁὅὈὌὉὍὐὔὑὕὙὝὠὤὡὥὨὬὩὭ᾿῎῾῞"),
   ('\u0302', "AÂCĈEÊGĜHĤIÎJĴOÔSŜUÛWŴYŶZẐaâcĉeêgĝhĥiîjĵoôsŝuûwŵyŷzẑẠẬạậẸỆẹệỌỘọộ"),
   ('\u0303', "AÃEẼIĨNÑOÕUŨVṼYỸaãeẽiĩnñoõuũvṽyỹÂẪÊỄÔỖâẫêễôỗĂẴăẵƠỠơỡƯỮưữ"),
   ('\u0304', "AĀEĒGḠIĪOŌUŪYȲaāeēgḡiīoōuūyȳÄǞÆǢÕȬÖȪÜǕäǟæǣõȭöȫüǖǪǬǫǭȦǠȧǡȮȰȯȱΑᾹΙῙΥῩαᾱιῑυῡИӢУӮиӣ"),
   ('\u0304', "уӯḶḸḷḹṚṜṛṝ"),
   ('\u0306', "AĂEĔGĞIĬOŎUŬaăeĕgğiĭoŏuŭȨḜȩḝΑᾸΙῘΥῨαᾰιῐυῠАӐЕӖЖӁИЙУЎаӑеӗжӂийуўẠẶạặ"),
   ('\u0307', "AȦBḂCĊDḊEĖFḞGĠHḢIİMṀNṄOȮPṖRṘSṠTṪWẆXẊYẎZŻaȧbḃcċdḋeėfḟgġhḣmṁnṅoȯpṗrṙsṡtṫwẇxẋyẏzż"),
   ('\u0307', "ŚṤśṥŠṦšṧſẛṢṨṣṩ"),
   ('\u0308', "AÄEËHḦIÏOÖUÜWẄXẌYŸaäeëhḧiïoötẗuüwẅxẍyÿÕṎõṏŪṺūṻΙΪΥΫιϊυϋϒϔІЇАӒЕЁЖӜЗӞИӤОӦУӰЧӴЫӸЭӬ"),
   ('\u0308', "аӓеёжӝзӟиӥоӧуӱчӵыӹэӭіїӘӚәӛӨӪөӫ"),
   ('\u0309', "AẢEẺIỈOỎUỦYỶaảeẻiỉoỏuủyỷÂẨÊỂÔỔâẩêểôổĂẲăẳƠỞơởƯỬưử"), ('\u030a', "AÅUŮaåuůwẘyẙ"),
   ('\u030b', "OŐUŰoőuűУӲуӳ"),
   ('\u030c', "AǍCČDĎEĚGǦHȞIǏKǨLĽNŇOǑRŘSŠTŤUǓZŽaǎcčdďeěgǧhȟiǐjǰkǩlľnňoǒrřsštťuǔzžÜǙüǚƷǮʒǯ"),
   ('\u030f', "AȀEȄIȈOȌRȐUȔaȁeȅiȉoȍrȑuȕѴѶѵѷ"), ('\u0311', "AȂEȆIȊOȎRȒUȖaȃeȇiȋoȏrȓuȗ"),
   ('\u0313', "ΑἈΕἘΗἨΙἸΟὈΩὨαἀεἐηἠιἰοὀρῤυὐωὠ"), ('\u0314', "ΑἉΕἙΗἩΙἹΟὉΡῬΥὙΩὩαἁεἑηἡιἱοὁρῥυὑωὡ"),
   ('\u031b', "OƠUƯoơuư"),
   ('\u0323', "AẠBḄDḌEẸHḤIỊKḲLḶMṂNṆOỌRṚSṢTṬUỤVṾWẈYỴZẒaạbḅdḍeẹhḥiịkḳlḷmṃnṇoọrṛsṣtṭuụvṿwẉyỵzẓƠỢ"),
   ('\u0323', "ơợƯỰưự"), ('\u0324', "UṲuṳ"), ('\u0325', "AḀaḁ"), ('\u0326', "SȘTȚsștț"),
   ('\u0327', "CÇDḐEȨGĢHḨKĶLĻNŅRŖSŞTŢcçdḑeȩgģhḩkķlļnņrŗsştţ"), ('\u0328', "AĄEĘIĮOǪUŲaąeęiįoǫuų"),
   ('\u032d', "DḒEḘLḼNṊTṰUṶdḓeḙlḽnṋtṱuṷ"), ('\u032e', "HḪhḫ"), ('\u0330', "EḚIḬUṴeḛiḭuṵ"),
   ('\u0331', "BḆDḎKḴLḺNṈRṞTṮZẔbḇdḏhẖkḵlḻnṉrṟtṯzẕ"),
   ('\u0338', "<≮=≠>≯←↚→↛↔↮⇐⇍⇒⇏⇔⇎∃∄∈∉∋∌∣∤∥∦∼≁≃≄≅≇≈≉≍≭≡≢≤≰≥≱≲≴≳≵≶≸≷≹≺⊀≻⊁≼⋠≽⋡⊂⊄⊃⊅⊆⊈⊇⊉⊑⋢⊒⋣⊢⊬⊨⊭⊩⊮"),
   ('\u0338', "⊫⊯⊲⋪⊳⋫⊴⋬⊵⋭"),
   ('\u0342', "¨῁αᾶηῆιῖυῦωῶϊῗϋῧἀἆἁἇἈἎἉἏἠἦἡἧἨἮἩἯἰἶἱἷἸἾἹἿὐὖὑὗὙὟὠὦὡὧὨὮὩὯ᾿῏῾῟"),
   ('\u0345', "ΑᾼΗῌΩῼάᾴήῄαᾳηῃωῳώῴἀᾀἁᾁἂᾂἃᾃἄᾄἅᾅἆᾆἇᾇἈᾈἉᾉἊᾊἋᾋἌᾌἍᾍἎᾎἏᾏἠᾐἡᾑἢᾒἣᾓἤᾔἥᾕἦᾖἧᾗἨᾘἩᾙἪᾚἫᾛἬᾜἭᾝ"),
   ('\u0345', "ἮᾞἯᾟὠᾠὡᾡὢᾢὣᾣὤᾤὥᾥὦᾦὧᾧὨᾨὩᾩὪᾪὫᾫὬᾬὭᾭὮᾮὯᾯὰᾲὴῂὼῲᾶᾷῆῇῶῷ"), ('\u0653', "\u0627\u0622"),
   ('\u0654', "\u0627\u0623\u0648\u0624\u064a\u0626\u06c1\u06c2\u06d2\u06d3\u06d5\u06c0"),
   ('\u0655', "\u0627\u0625"), ('\u093c', "नऩरऱळऴ"), ('\u09be', "\u09c7\u09cb"),
   ('\u09d7', "\u09c7\u09cc"), ('\u0b3e', "\u0b47\u0b4b"), ('\u0b56', "\u0b47\u0b48"),
   ('\u0b57', "\u0b47\u0b4c"), ('\u0bbe', "\u0bc6\u0bca\u0bc7\u0bcb"),
   ('\u0bd7', "ஒஔ\u0bc6\u0bcc"), ('\u0c56', "\u0c46\u0c48"), ('\u0cc2', "\u0cc6\u0cca"),
   ('\u0cd5', "\u0cbf\u0cc0\u0cc6\u0cc7\u0cca\u0ccb"), ('\u0cd6', "\u0cc6\u0cc8"),
   ('\u0d3e', "\u0d46\u0d4a\u0d47\u0d4b"), ('\u0d57', "\u0d46\u0d4c"),
   ('\u0dca', "\u0dd9\u0dda\u0ddc\u0ddd"), ('\u0dcf', "\u0dd9\u0ddc"), ('\u0ddf', "\u0dd9\u0dde"),
   ('\u102e', "ဥဦ"),
   ('\u1b35', "ᬅᬆᬇᬈᬉᬊᬋᬌᬍᬎᬑᬒ\u1b3a\u1b3b\u1b3c\u1b3d\u1b3e\u1b40\u1b3f\u1b41\u1b42\u1b43"),
   ('\u3099', "うゔかがきぎくぐけげこごさざしじすずせぜそぞただちぢつづてでとどはばひびふぶへべほぼゝゞウヴカガキギクグケゲコゴサザシジスズセゼソゾタダチヂツヅテデトドハバ"),
   ('\u3099', "ヒビフブヘベホボワヷヰヸヱヹヲヺヽヾ"), ('\u309a', "はぱひぴふぷへぺほぽハパヒピフプヘペホポ"), ('𑂺', "𑂙𑂚𑂛𑂜𑂥𑂫"),
   ('𑄧', "𑄱𑄮𑄲𑄯"), ('𑌾', "𑍇𑍋"), ('𑍗', "𑍇𑍌"), ('𑒰', "𑒹𑒼"), ('𑒺', "𑒹𑒻"), ('𑒽', "𑒹𑒾"), ('𑖯', "𑖸𑖺𑖹𑖻"),
   ('𑤰', "𑤵𑤸")]

/-- The pairs in a row of characters. -/
def pairUp : List Char → List (Char × Char)
  | a :: b :: cs => (a, b) :: pairUp cs
  | _ => []

/-- The letter that comes of a letter and a mark after it. -/
def joined? (c mark : Char) : Option Char :=
  joinedLetters.findSome? fun (m, letters) =>
    if m = mark then (pairUp letters.toList).lookup c else none

/-- The letter and the mark that a letter comes of. -/
def parted? (c : Char) : Option (Char × Char) :=
  joinedLetters.findSome? fun (mark, letters) =>
    ((pairUp letters.toList).find? fun (_, made) => made = c).map fun (letter, _) => (letter, mark)

end InstallerKit.Text.Normal
