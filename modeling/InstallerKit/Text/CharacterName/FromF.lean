/-!
# Names of characters: F to H

The names of characters in Unicode 14.0 whose first letter is one from F to H, word by
word: the words that may follow a word are in parentheses after it. A word at the end of a
name is there by itself as well.
-/

namespace InstallerKit.Text.CharacterName

/-- The names from F on. -/
def namesFromF : List String :=
  ["FACE(HOLDING(BACK(TEARS)) MASSAGE PALM SAVOURING(DELICIOUS(FOOD)) SCREAMING(IN(FEAR))",
   "THROWING(A(KISS)) WITH(COLD(SWEAT) COWBOY(HAT) DIAGONAL(MOUTH)",
   "FINGER(COVERING(CLOSED(LIPS))) HEAD-BANDAGE LOOK(OF(TRIUMPH)) MEDICAL(MASK) MONOCLE",
   "NO(GOOD(GESTURE)) OK(GESTURE) ONE(EYEBROW(RAISED)) OPEN(EYES(AND(HAND(OVER(MOUTH))))",
   "MOUTH MOUTH(AND(COLD(SWEAT)) VOMITING)) PARTY(HORN(AND(PARTY(HAT)))) PEEKING(EYE)",
   "PLEADING(EYES) ROLLING(EYES) STUCK-OUT(TONGUE TONGUE(AND(TIGHTLY-CLOSED(EYES)",
   "WINKING(EYE)))) TEARS(OF(JOY)) THERMOMETER UNEVEN(EYES(AND(WAVY(MOUTH)))))",
   "WITHOUT(MOUTH)) FACSIMILE(SIGN) FACTORY FAIRY FALAFEL FALLEN(LEAF)",
   "FALLING(DIAGONAL(CROSSING(NORTH(EAST(ARROW)) RISING(DIAGONAL))",
   "IN(WHITE(CIRCLE(IN(BLACK(SQUARE))))))) FAMILY FARSI(SYMBOL) FATHER(CHRISTMAS) FAX(ICON",
   "MACHINE) FEARFUL(FACE) FEATHER FEMALE(SIGN) FEMININE(ORDINAL(INDICATOR)) FENCER",
   "FERRIS(WHEEL) FERRY FF FIELD(HOCKEY(STICK(AND(BALL)))) FIGURE(DASH SPACE) FILE(CABINET",
   "FOLDER SEPARATOR) FILM(FRAMES PROJECTOR) FINITE(PART(INTEGRAL)) FIRE FIRE(ENGINE",
   "EXTINGUISHER) FIRECRACKER FIREWORK(SPARKLER) FIREWORKS FIRST(PLACE(MEDAL) QUARTER(MOON",
   "MOON(SYMBOL WITH(FACE))) STRONG(ISOLATE)) FISH FISH(CAKE(WITH(SWIRL(DESIGN)))) FISHEYE",
   "FISHING(POLE(AND(FISH))) FISTED(HAND(SIGN)) FIVE(DOT(MARK PUNCTUATION)) FLAG(IN(HOLE))",
   "FLAMINGO FLAT(SHOE) FLATBREAD FLATNESS FLEUR-DE-LIS FLEXED(BICEPS) FLOPPY(DISK)",
   "FLORAL(HEART) FLOWER FLOWER(PLAYING(CARDS) PUNCTUATION(MARK)) FLUSHED(FACE) FLY",
   "FLYING(DISC ENVELOPE SAUCER) FOG FOGGY FOLDER FONDUE FOOT FOOTPRINTS FOR(ALL) FORCES",
   "FORK(AND(KNIFE KNIFE(WITH(PLATE)))) FORKED(PARAGRAPHOS) FORKING FORM(FEED)",
   "FORTUNE(COOKIE) FOUNTAIN FOUR(BALLOON-SPOKED(ASTERISK) CLUB-SPOKED(ASTERISK)",
   "CORNER(ARROWS(CIRCLING(ANTICLOCKWISE))) DOT(MARK PUNCTUATION) LEAF(CLOVER)",
   "POINTED(BLACK(STAR)) TEARDROP-SPOKED(ASTERISK)) FOUR-PER-EM(SPACE) FOURTH(ROOT)",
   "FOX(FACE) FRACTION(NUMERATOR(ONE) SLASH) FRAME(WITH(AN(X) PICTURE TILES)) FREEZING(FACE)",
   "FRENCH(FRANC(SIGN) FRIES) FRIED(SHRIMP) FROG(FACE) FRONT-FACING(BABY(CHICK))",
   "FRONT-TILTED(SHADOWED(WHITE(RIGHTWARDS(ARROW)))) FROWN FROWNING(FACE(WITH(OPEN(MOUTH))))",
   "FS FSI FUEL(PUMP) FULL(BLOCK MOON(SYMBOL WITH(FACE)) OUTER(JOIN) STOP)",
   "FULLWIDTH(AMPERSAND APOSTROPHE ASTERISK BROKEN(BAR) CENT(SIGN) CIRCUMFLEX(ACCENT) COLON",
   "COMMA COMMERCIAL(AT) DIGIT(EIGHT FIVE FOUR NINE ONE SEVEN SIX THREE TWO ZERO)",
   "DOLLAR(SIGN) EQUALS(SIGN) EXCLAMATION(MARK) FULL(STOP) GRAVE(ACCENT) GREATER-THAN(SIGN)",
   "HYPHEN-MINUS LATIN(CAPITAL(LETTER(A B C D E F G H I J K L M N O P Q R S T U V W X Y Z))",
   "SMALL(LETTER(A B C D E F G H I J K L M N O P Q R S T U V W X Y Z))) LEFT(CURLY(BRACKET)",
   "PARENTHESIS SQUARE(BRACKET) WHITE(PARENTHESIS)) LESS-THAN(SIGN) LOW(LINE) MACRON",
   "NOT(SIGN) NUMBER(SIGN) PERCENT(SIGN) PLUS(SIGN) POUND(SIGN) QUESTION(MARK)",
   "QUOTATION(MARK) REVERSE(SOLIDUS) RIGHT(CURLY(BRACKET) PARENTHESIS SQUARE(BRACKET)",
   "WHITE(PARENTHESIS)) SEMICOLON SOLIDUS TILDE VERTICAL(LINE) WON(SIGN) YEN(SIGN))",
   "FUNCTION(APPLICATION) FUNERAL(URN) FUSE FVS1 FVS2 FVS3 FVS4"]

/-- The names from G on. -/
def namesFromG : List String :=
  ["GAME(DIE) GARLIC GEAR GEAR(WITH(HANDLES) WITHOUT(HUB)) GEM(STONE) GEMINI GENIE",
   "GEOMETRIC(PROPORTION) GEOMETRICALLY(EQUAL(TO) EQUIVALENT(TO))",
   "GEORGIAN(CAPITAL(LETTER(AEN AN BAN CAN CHAR CHIN CIL DON EN GAN GHAN HAE HAR HE HIE HOE",
   "IN JHAN JIL KAN KHAR LAS MAN NAR ON PAR PHAR QAR RAE SAN SHIN TAN TAR UN VIN WE XAN YN",
   "ZEN ZHAR)) LETTER(AEN AIN AN BAN CAN CHAR CHIN CIL DON ELIFI EN FI GAN GHAN HAE HAR",
   "HARD(SIGN) HE HIE HOE IN JHAN JIL KAN KHAR LABIAL(SIGN) LAS MAN NAR ON PAR PHAR QAR RAE",
   "SAN SHIN TAN TAR TURNED(GAN) UN VIN WE XAN YN ZEN ZHAR) MTAVRULI(CAPITAL(LETTER(AEN AIN",
   "AN BAN CAN CHAR CHIN CIL DON ELIFI EN FI GAN GHAN HAE HAR HARD(SIGN) HE HIE HOE IN JHAN",
   "JIL KAN KHAR LABIAL(SIGN) LAS MAN NAR ON PAR PHAR QAR RAE SAN SHIN TAN TAR TURNED(GAN)",
   "UN VIN WE XAN YN ZEN ZHAR))) PARAGRAPH(SEPARATOR) SMALL(LETTER(AEN AN BAN CAN CHAR CHIN",
   "CIL DON EN GAN GHAN HAE HAR HE HIE HOE IN JHAN JIL KAN KHAR LAS MAN NAR ON PAR PHAR QAR",
   "RAE SAN SHIN TAN TAR UN VIN WE XAN YN ZEN ZHAR))) GERMAN(PENNY(SIGN)) GETA(MARK) GHOST",
   "GIMEL(SYMBOL) GIRAFFE(FACE) GIRL GIRLS(SYMBOL) GLAGOLITIC(CAPITAL(LETTER(AZU BIG(YUS)",
   "BUKY CAUDATE(CHRIVI) CHRIVI DJERVI DOBRO DZELO FITA FRITU GLAGOLI HERU I INITIAL(IZHE)",
   "IOTATED(BIG(YUS) SMALL(YUS)) IZHE IZHITSA KAKO LATINATE(MYSLITE) LJUDIJE MYSLITE NASHI",
   "ONU OTU PE POKOJI RITSI SHA SHTA SHTAPIC SLOVO SMALL(YUS YUS(WITH(TAIL))) SPIDERY(HA)",
   "TROKUTASTI(A) TSI TVRIDO UKU VEDE YATI YERI YERU YESTU YO YU ZEMLJA ZHIVETE))",
   "SMALL(LETTER(AZU BIG(YUS) BUKY CAUDATE(CHRIVI) CHRIVI DJERVI DOBRO DZELO FITA FRITU",
   "GLAGOLI HERU I INITIAL(IZHE) IOTATED(BIG(YUS) SMALL(YUS)) IZHE IZHITSA KAKO",
   "LATINATE(MYSLITE) LJUDIJE MYSLITE NASHI ONU OTU PE POKOJI RITSI SHA SHTA SHTAPIC SLOVO",
   "SMALL(YUS YUS(WITH(TAIL))) SPIDERY(HA) TROKUTASTI(A) TSI TVRIDO UKU VEDE YATI YERI YERU",
   "YESTU YO YU ZEMLJA ZHIVETE))) GLASS(OF(MILK)) GLEICH(STARK) GLOBE(WITH(MERIDIANS))",
   "GLOVES GLOWING(STAR) GOAL(NET) GOAT GOGGLES GOLFER GORILLA GOTHIC(LETTER(AHSA AIHVUS",
   "BAIRKAN DAGS EIS FAIHU GIBA HAGL HWAIR IGGWS IUJA JER KUSMA LAGUS MANNA NAUTHS",
   "NINE(HUNDRED) NINETY OTHAL PAIRTHRA QAIRTHRA RAIDA SAUIL TEIWS THIUTH URUS WINJA))",
   "GRADUATION(CAP) GRANTHA(AU(LENGTH(MARK)) LETTER(A AA AI AU BA BHA CA CHA DA DDA DDHA DHA",
   "EE GA GHA HA I II JA JHA KA KHA LA LLA MA NA NGA NNA NYA OO PA PHA RA SA SHA SSA TA THA",
   "TTA TTHA U UU VA VEDIC(ANUSVARA DOUBLE(ANUSVARA)) VOCALIC(L LL R RR) YA) OM",
   "SIGN(ANUSVARA AVAGRAHA CANDRABINDU COMBINING(ANUSVARA(ABOVE)) NUKTA PLUTA VIRAMA",
   "VISARGA) VOWEL(SIGN(AA AI AU EE I II OO U UU VOCALIC(L LL R RR)))) GRAPES GRAVE(ACCENT)",
   "GREATER-THAN(ABOVE(DOUBLE-LINE(EQUAL(ABOVE(LESS-THAN)))",
   "LESS-THAN(ABOVE(DOUBLE-LINE(EQUAL))) RIGHTWARDS(ARROW) SIMILAR(ABOVE(LESS-THAN)",
   "OR(EQUAL)) SLANTED(EQUAL(ABOVE(LESS-THAN(ABOVE(SLANTED(EQUAL))))))) AND(NOT(APPROXIMATE)",
   "SINGLE-LINE(NOT(EQUAL(TO)))) BESIDE(LESS-THAN) BUT(NOT(EQUAL(TO) EQUIVALENT(TO)))",
   "CLOSED(BY(CURVE CURVE(ABOVE(SLANTED(EQUAL))))) EQUAL(TO(OR(LESS-THAN))) OR(APPROXIMATE",
   "EQUAL(TO) EQUIVALENT(TO) LESS-THAN SLANTED(EQUAL(TO TO(WITH(DOT(ABOVE ABOVE(LEFT)",
   "INSIDE)))))) OVER(EQUAL(TO)) OVERLAPPING(LESS-THAN) SIGN WITH(CIRCLE(INSIDE) DOT",
   "QUESTION(MARK(ABOVE)))) GREEK(ACROPHONIC(ATTIC(FIFTY FIFTY(STATERS TALENTS THOUSAND",
   "THOUSAND(STATERS)) FIVE FIVE(HUNDRED HUNDRED(STATERS TALENTS) STATERS TALENTS THOUSAND",
   "THOUSAND(TALENTS)) ONE(DRACHMA HALF HUNDRED(STATERS TALENTS) QUARTER THOUSAND(STATERS",
   "TALENTS)) TEN(MNAS STATERS TALENTS THOUSAND(STATERS))) CARYSTIAN(FIVE(HUNDRED))",
   "CYRENAIC(TWO(DRACHMAS)) DELPHIC(FIVE(MNAS)) EPIDAUREAN(FIVE(HUNDRED) TWO TWO(DRACHMAS))",
   "HERAEUM(ONE(PLETHRON)) HERMIONIAN(FIFTY ONE TEN) MESSENIAN(TEN) NAXIAN(FIVE(HUNDRED))",
   "STRATIAN(FIFTY(MNAS)) THESPIAN(FIFTY FIVE(HUNDRED THOUSAND) ONE ONE(HUNDRED THOUSAND)",
   "TEN THIRTY THREE(HUNDRED) TWO) TROEZENIAN(FIFTY FIFTY(ALTERNATE(FORM)) FIVE",
   "FIVE(HUNDRED) TEN TEN(ALTERNATE(FORM)))) ANO(TELEIA) AROURA(SIGN) ARTABE(SIGN)",
   "BETA(SYMBOL) CAPITAL(DOTTED(LUNATE(SIGMA(SYMBOL))) KAI(SYMBOL) LETTER(ALPHA",
   "ALPHA(WITH(DASIA DASIA(AND(OXIA OXIA(AND(PROSGEGRAMMENI)) PERISPOMENI",
   "PERISPOMENI(AND(PROSGEGRAMMENI)) PROSGEGRAMMENI VARIA VARIA(AND(PROSGEGRAMMENI))))",
   "MACRON OXIA PROSGEGRAMMENI PSILI PSILI(AND(OXIA OXIA(AND(PROSGEGRAMMENI)) PERISPOMENI",
   "PERISPOMENI(AND(PROSGEGRAMMENI)) PROSGEGRAMMENI VARIA VARIA(AND(PROSGEGRAMMENI)))) TONOS",
   "VARIA VRACHY)) ARCHAIC(SAMPI) BETA CHI DELTA EPSILON EPSILON(WITH(DASIA DASIA(AND(OXIA",
   "VARIA)) OXIA PSILI PSILI(AND(OXIA VARIA)) TONOS VARIA)) ETA ETA(WITH(DASIA",
   "DASIA(AND(OXIA OXIA(AND(PROSGEGRAMMENI)) PERISPOMENI PERISPOMENI(AND(PROSGEGRAMMENI))",
   "PROSGEGRAMMENI VARIA VARIA(AND(PROSGEGRAMMENI)))) OXIA PROSGEGRAMMENI PSILI",
   "PSILI(AND(OXIA OXIA(AND(PROSGEGRAMMENI)) PERISPOMENI PERISPOMENI(AND(PROSGEGRAMMENI))",
   "PROSGEGRAMMENI VARIA VARIA(AND(PROSGEGRAMMENI)))) TONOS VARIA)) GAMMA HETA IOTA",
   "IOTA(WITH(DASIA DASIA(AND(OXIA PERISPOMENI VARIA)) DIALYTIKA MACRON OXIA PSILI",
   "PSILI(AND(OXIA PERISPOMENI VARIA)) TONOS VARIA VRACHY)) KAPPA LAMDA MU NU OMEGA",
   "OMEGA(WITH(DASIA DASIA(AND(OXIA OXIA(AND(PROSGEGRAMMENI)) PERISPOMENI",
   "PERISPOMENI(AND(PROSGEGRAMMENI)) PROSGEGRAMMENI VARIA VARIA(AND(PROSGEGRAMMENI)))) OXIA",
   "PROSGEGRAMMENI PSILI PSILI(AND(OXIA OXIA(AND(PROSGEGRAMMENI)) PERISPOMENI",
   "PERISPOMENI(AND(PROSGEGRAMMENI)) PROSGEGRAMMENI VARIA VARIA(AND(PROSGEGRAMMENI)))) TONOS",
   "VARIA)) OMICRON OMICRON(WITH(DASIA DASIA(AND(OXIA VARIA)) OXIA PSILI PSILI(AND(OXIA",
   "VARIA)) TONOS VARIA)) PAMPHYLIAN(DIGAMMA) PHI PI PSI RHO RHO(WITH(DASIA)) SAN SHO SIGMA",
   "TAU THETA UPSILON UPSILON(WITH(DASIA DASIA(AND(OXIA PERISPOMENI VARIA)) DIALYTIKA MACRON",
   "OXIA TONOS VARIA VRACHY)) XI YOT ZETA) LUNATE(SIGMA(SYMBOL))",
   "REVERSED(DOTTED(LUNATE(SIGMA(SYMBOL))) LUNATE(SIGMA(SYMBOL))) THETA(SYMBOL)) DASIA",
   "DASIA(AND(OXIA PERISPOMENI VARIA)) DIALYTIKA(AND(OXIA PERISPOMENI VARIA) TONOS)",
   "DRACHMA(SIGN) FIVE(OBOLS(SIGN)) FOUR(OBOLS(SIGN)) GRAMMA(SIGN) INDICTION(SIGN)",
   "INSTRUMENTAL(NOTATION(SYMBOL-1 SYMBOL-11 SYMBOL-12 SYMBOL-13 SYMBOL-14 SYMBOL-17",
   "SYMBOL-18 SYMBOL-19 SYMBOL-2 SYMBOL-23 SYMBOL-24 SYMBOL-25 SYMBOL-26 SYMBOL-27 SYMBOL-29",
   "SYMBOL-30 SYMBOL-32 SYMBOL-36 SYMBOL-37 SYMBOL-38 SYMBOL-39 SYMBOL-4 SYMBOL-40 SYMBOL-42",
   "SYMBOL-43 SYMBOL-45 SYMBOL-47 SYMBOL-48 SYMBOL-49 SYMBOL-5 SYMBOL-50 SYMBOL-51 SYMBOL-52",
   "SYMBOL-53 SYMBOL-54 SYMBOL-7 SYMBOL-8)) KAI(SYMBOL) KAPPA(SYMBOL) KORONIS",
   "KYATHOS(BASE(SIGN)) LETTER(ARCHAIC(KOPPA) DIGAMMA KOPPA SAMPI SMALL(CAPITAL(GAMMA LAMDA",
   "OMEGA PI PSI RHO)) STIGMA YOT) LITRA(SIGN) LOWER(NUMERAL(SIGN)) LUNATE(EPSILON(SYMBOL)",
   "SIGMA(SYMBOL)) METRETES(SIGN) MUSICAL(LEIMMA) NUMERAL(SIGN) OBOL(SIGN) ONE(HALF(SIGN",
   "SIGN(ALTERNATE(FORM))) QUARTER(SIGN)) OUNKIA(SIGN) OXIA PERISPOMENI PHI(SYMBOL)",
   "PI(SYMBOL) PROSGEGRAMMENI PSILI PSILI(AND(OXIA PERISPOMENI VARIA)) QUESTION(MARK)",
   "REVERSED(LUNATE(EPSILON(SYMBOL))) RHO(SYMBOL WITH(STROKE(SYMBOL))) SINUSOID(SIGN)",
   "SMALL(DOTTED(LUNATE(SIGMA(SYMBOL))) LETTER(ALPHA ALPHA(WITH(DASIA DASIA(AND(OXIA",
   "OXIA(AND(YPOGEGRAMMENI)) PERISPOMENI PERISPOMENI(AND(YPOGEGRAMMENI)) VARIA",
   "VARIA(AND(YPOGEGRAMMENI)) YPOGEGRAMMENI)) MACRON OXIA OXIA(AND(YPOGEGRAMMENI))",
   "PERISPOMENI PERISPOMENI(AND(YPOGEGRAMMENI)) PSILI PSILI(AND(OXIA",
   "OXIA(AND(YPOGEGRAMMENI)) PERISPOMENI PERISPOMENI(AND(YPOGEGRAMMENI)) VARIA",
   "VARIA(AND(YPOGEGRAMMENI)) YPOGEGRAMMENI)) TONOS VARIA VARIA(AND(YPOGEGRAMMENI)) VRACHY",
   "YPOGEGRAMMENI)) ARCHAIC(KOPPA SAMPI) BETA CHI DELTA DIGAMMA EPSILON EPSILON(WITH(DASIA",
   "DASIA(AND(OXIA VARIA)) OXIA PSILI PSILI(AND(OXIA VARIA)) TONOS VARIA)) ETA",
   "ETA(WITH(DASIA DASIA(AND(OXIA OXIA(AND(YPOGEGRAMMENI)) PERISPOMENI",
   "PERISPOMENI(AND(YPOGEGRAMMENI)) VARIA VARIA(AND(YPOGEGRAMMENI)) YPOGEGRAMMENI)) OXIA",
   "OXIA(AND(YPOGEGRAMMENI)) PERISPOMENI PERISPOMENI(AND(YPOGEGRAMMENI)) PSILI",
   "PSILI(AND(OXIA OXIA(AND(YPOGEGRAMMENI)) PERISPOMENI PERISPOMENI(AND(YPOGEGRAMMENI))",
   "VARIA VARIA(AND(YPOGEGRAMMENI)) YPOGEGRAMMENI)) TONOS VARIA VARIA(AND(YPOGEGRAMMENI))",
   "YPOGEGRAMMENI)) FINAL(SIGMA) GAMMA HETA IOTA IOTA(WITH(DASIA DASIA(AND(OXIA PERISPOMENI",
   "VARIA)) DIALYTIKA DIALYTIKA(AND(OXIA PERISPOMENI TONOS VARIA)) MACRON OXIA PERISPOMENI",
   "PSILI PSILI(AND(OXIA PERISPOMENI VARIA)) TONOS VARIA VRACHY)) KAPPA KOPPA LAMDA MU NU",
   "OMEGA OMEGA(WITH(DASIA DASIA(AND(OXIA OXIA(AND(YPOGEGRAMMENI)) PERISPOMENI",
   "PERISPOMENI(AND(YPOGEGRAMMENI)) VARIA VARIA(AND(YPOGEGRAMMENI)) YPOGEGRAMMENI)) OXIA",
   "OXIA(AND(YPOGEGRAMMENI)) PERISPOMENI PERISPOMENI(AND(YPOGEGRAMMENI)) PSILI",
   "PSILI(AND(OXIA OXIA(AND(YPOGEGRAMMENI)) PERISPOMENI PERISPOMENI(AND(YPOGEGRAMMENI))",
   "VARIA VARIA(AND(YPOGEGRAMMENI)) YPOGEGRAMMENI)) TONOS VARIA VARIA(AND(YPOGEGRAMMENI))",
   "YPOGEGRAMMENI)) OMICRON OMICRON(WITH(DASIA DASIA(AND(OXIA VARIA)) OXIA PSILI",
   "PSILI(AND(OXIA VARIA)) TONOS VARIA)) PAMPHYLIAN(DIGAMMA) PHI PI PSI RHO RHO(WITH(DASIA",
   "PSILI)) SAMPI SAN SHO SIGMA STIGMA TAU THETA UPSILON UPSILON(WITH(DASIA DASIA(AND(OXIA",
   "PERISPOMENI VARIA)) DIALYTIKA DIALYTIKA(AND(OXIA PERISPOMENI TONOS VARIA)) MACRON OXIA",
   "PERISPOMENI PSILI PSILI(AND(OXIA PERISPOMENI VARIA)) TONOS VARIA VRACHY)) XI ZETA)",
   "REVERSED(DOTTED(LUNATE(SIGMA(SYMBOL))) LUNATE(SIGMA(SYMBOL))))",
   "SUBSCRIPT(SMALL(LETTER(BETA CHI GAMMA PHI RHO))) SYMBOL(TAU(RHO)) TALENT(SIGN)",
   "THETA(SYMBOL) THREE(OBOLS(SIGN) QUARTERS(SIGN)) TONOS TRYBLION(BASE(SIGN))",
   "TWO(OBOLS(SIGN) THIRDS(SIGN)) UPSILON(WITH(ACUTE(AND(HOOK(SYMBOL)))",
   "DIAERESIS(AND(HOOK(SYMBOL))) HOOK(SYMBOL))) VARIA VOCAL(NOTATION(SYMBOL-1 SYMBOL-10",
   "SYMBOL-11 SYMBOL-12 SYMBOL-13 SYMBOL-14 SYMBOL-15 SYMBOL-16 SYMBOL-17 SYMBOL-18",
   "SYMBOL-19 SYMBOL-2 SYMBOL-20 SYMBOL-21 SYMBOL-22 SYMBOL-23 SYMBOL-24 SYMBOL-3 SYMBOL-4",
   "SYMBOL-5 SYMBOL-50 SYMBOL-51 SYMBOL-52 SYMBOL-53 SYMBOL-54 SYMBOL-6 SYMBOL-7 SYMBOL-8",
   "SYMBOL-9)) XESTES(SIGN) YEAR(SIGN) YPOGEGRAMMENI ZERO(SIGN)) GREEN(APPLE BOOK HEART",
   "SALAD) GRIMACING(FACE) GRINNING(CAT(FACE(WITH(SMILING(EYES)))) FACE",
   "FACE(WITH(ONE(LARGE(AND(ONE(SMALL(EYE))))) SMILING(EYES) STAR(EYES)))) GROUP(MARK",
   "SEPARATOR) GROWING(HEART) GS GUARANI(SIGN) GUARDSMAN GUIDE(DOG) GUITAR",
   "GUJARATI(ABBREVIATION(SIGN) DIGIT(EIGHT FIVE FOUR NINE ONE SEVEN SIX THREE TWO ZERO)",
   "LETTER(A AA AI AU BA BHA CA CHA DA DDA DDHA DHA E GA GHA HA I II JA JHA KA KHA LA LLA MA",
   "NA NGA NNA NYA O PA PHA RA SA SHA SSA TA THA TTA TTHA U UU VA VOCALIC(L LL R RR) YA ZHA)",
   "OM RUPEE(SIGN) SIGN(ANUSVARA AVAGRAHA CANDRABINDU CIRCLE(NUKTA(ABOVE)) MADDAH NUKTA",
   "SHADDA SUKUN THREE-DOT(NUKTA(ABOVE)) TWO-CIRCLE(NUKTA(ABOVE)) VIRAMA VISARGA)",
   "VOWEL(CANDRA(E O) SIGN(AA AI AU CANDRA(E O) E I II O U UU VOCALIC(L LL R RR))))",
   "GUNJALA(GONDI(DIGIT(EIGHT FIVE FOUR NINE ONE SEVEN SIX THREE TWO ZERO) LETTER(A AA AI AU",
   "BA BHA CA CHA DA DDA DDHA DHA EE GA GHA HA I II JA JHA KA KHA LA LLA MA NA NGA OO PA PHA",
   "RA SA TA THA TTA TTHA U UU VA YA) OM SIGN(ANUSVARA VISARGA) VIRAMA VOWEL(SIGN(AA AI AU",
   "EE I II OO U UU)))) GURMUKHI(ABBREVIATION(SIGN) ADDAK DIGIT(EIGHT FIVE FOUR NINE ONE",
   "SEVEN SIX THREE TWO ZERO) EK(ONKAR) IRI LETTER(A AA AI AU BA BHA CA CHA DA DDA DDHA DHA",
   "EE FA GA GHA GHHA HA I II JA JHA KA KHA KHHA LA LLA MA NA NGA NNA NYA OO PA PHA RA RRA",
   "SA SHA TA THA TTA TTHA U UU VA YA ZA) SIGN(ADAK(BINDI) BINDI NUKTA UDAAT VIRAMA VISARGA",
   "YAKASH) TIPPI URA VOWEL(SIGN(AA AI AU EE I II OO U UU)))"]

/-- The names from H on. -/
def namesFromH : List String :=
  ["HADES HAIR(SPACE) HAIRCUT HALFWIDTH(BLACK(SQUARE) DOWNWARDS(ARROW)",
   "FORMS(LIGHT(VERTICAL)) HANGUL(FILLER LETTER(A AE CHIEUCH CIEUC E EO EU HIEUH I IEUNG",
   "KHIEUKH KIYEOK KIYEOK-SIOS MIEUM NIEUN NIEUN-CIEUC NIEUN-HIEUH O OE PHIEUPH PIEUP",
   "PIEUP-SIOS RIEUL RIEUL-HIEUH RIEUL-KIYEOK RIEUL-MIEUM RIEUL-PHIEUPH RIEUL-PIEUP",
   "RIEUL-SIOS RIEUL-THIEUTH SIOS SSANGCIEUC SSANGKIYEOK SSANGPIEUP SSANGSIOS SSANGTIKEUT",
   "THIEUTH TIKEUT U WA WAE WE WEO WI YA YAE YE YEO YI YO YU)) IDEOGRAPHIC(COMMA FULL(STOP))",
   "KATAKANA(LETTER(A E HA HE HI HO HU I KA KE KI KO KU MA ME MI MO MU N NA NE NI NO NU O RA",
   "RE RI RO RU SA SE SI SMALL(A E I O TU U YA YO YU) SO SU TA TE TI TO TU U WA WO YA YO YU)",
   "MIDDLE(DOT) SEMI-VOICED(SOUND(MARK)) VOICED(SOUND(MARK)))",
   "KATAKANA-HIRAGANA(PROLONGED(SOUND(MARK))) LEFT(CORNER(BRACKET)) LEFTWARDS(ARROW)",
   "RIGHT(CORNER(BRACKET)) RIGHTWARDS(ARROW) UPWARDS(ARROW) WHITE(CIRCLE)) HAMBURGER HAMMER",
   "HAMMER(AND(PICK SICKLE WRENCH)) HAMSA HAMSTER(FACE)",
   "HAND(WITH(INDEX(AND(MIDDLE(FINGERS(CROSSED))) FINGER(AND(THUMB(CROSSED)))))) HANDBAG",
   "HANDBALL HANDSHAKE HANGUL(CHOSEONG(CEONGCHIEUMCHIEUCH CEONGCHIEUMCIEUC CEONGCHIEUMSIOS",
   "CEONGCHIEUMSSANGCIEUC CEONGCHIEUMSSANGSIOS CHIEUCH CHIEUCH-HIEUH CHIEUCH-KHIEUKH",
   "CHITUEUMCHIEUCH CHITUEUMCIEUC CHITUEUMSIOS CHITUEUMSSANGCIEUC CHITUEUMSSANGSIOS CIEUC",
   "CIEUC-IEUNG FILLER HIEUH HIEUH-SIOS IEUNG IEUNG-CHIEUCH IEUNG-CIEUC IEUNG-HIEUH",
   "IEUNG-KIYEOK IEUNG-MIEUM IEUNG-PANSIOS IEUNG-PHIEUPH IEUNG-PIEUP IEUNG-RIEUL IEUNG-SIOS",
   "IEUNG-THIEUTH IEUNG-TIKEUT KAPYEOUNMIEUM KAPYEOUNPHIEUPH KAPYEOUNPIEUP KAPYEOUNRIEUL",
   "KAPYEOUNSSANGPIEUP KHIEUKH KIYEOK KIYEOK-TIKEUT MIEUM MIEUM-KIYEOK MIEUM-PIEUP",
   "MIEUM-SIOS MIEUM-TIKEUT NIEUN NIEUN-CIEUC NIEUN-HIEUH NIEUN-KIYEOK NIEUN-PIEUP",
   "NIEUN-SIOS NIEUN-TIKEUT PANSIOS PHIEUPH PHIEUPH-HIEUH PHIEUPH-PIEUP PIEUP PIEUP-CHIEUCH",
   "PIEUP-CIEUC PIEUP-HIEUH PIEUP-KHIEUKH PIEUP-KIYEOK PIEUP-NIEUN PIEUP-PHIEUPH PIEUP-SIOS",
   "PIEUP-SIOS-CIEUC PIEUP-SIOS-KIYEOK PIEUP-SIOS-PIEUP PIEUP-SIOS-THIEUTH PIEUP-SIOS-TIKEUT",
   "PIEUP-SSANGSIOS PIEUP-THIEUTH PIEUP-TIKEUT RIEUL RIEUL-CIEUC RIEUL-HIEUH",
   "RIEUL-KAPYEOUNPIEUP RIEUL-KHIEUKH RIEUL-KIYEOK RIEUL-MIEUM RIEUL-NIEUN RIEUL-PIEUP",
   "RIEUL-SIOS RIEUL-SSANGKIYEOK RIEUL-SSANGPIEUP RIEUL-SSANGTIKEUT RIEUL-TIKEUT SIOS",
   "SIOS-CHIEUCH SIOS-CIEUC SIOS-HIEUH SIOS-IEUNG SIOS-KHIEUKH SIOS-KIYEOK SIOS-MIEUM",
   "SIOS-NIEUN SIOS-PHIEUPH SIOS-PIEUP SIOS-PIEUP-KIYEOK SIOS-RIEUL SIOS-SSANGSIOS",
   "SIOS-THIEUTH SIOS-TIKEUT SSANGCIEUC SSANGCIEUC-HIEUH SSANGHIEUH SSANGIEUNG SSANGKIYEOK",
   "SSANGNIEUN SSANGPIEUP SSANGRIEUL SSANGSIOS SSANGSIOS-PIEUP SSANGTHIEUTH SSANGTIKEUT",
   "SSANGYEORINHIEUH THIEUTH TIKEUT TIKEUT-CIEUC TIKEUT-KIYEOK TIKEUT-MIEUM TIKEUT-PIEUP",
   "TIKEUT-RIEUL TIKEUT-SIOS YEORINHIEUH YESIEUNG) DOUBLE(DOT(TONE(MARK))) FILLER",
   "JONGSEONG(CHIEUCH CIEUC CIEUC-PIEUP CIEUC-SSANGPIEUP HIEUH HIEUH-MIEUM HIEUH-NIEUN",
   "HIEUH-PIEUP HIEUH-RIEUL IEUNG IEUNG-KHIEUKH IEUNG-KIYEOK IEUNG-SSANGKIYEOK KAPYEOUNMIEUM",
   "KAPYEOUNPHIEUPH KAPYEOUNPIEUP KAPYEOUNRIEUL KHIEUKH KIYEOK KIYEOK-CHIEUCH KIYEOK-HIEUH",
   "KIYEOK-KHIEUKH KIYEOK-NIEUN KIYEOK-PIEUP KIYEOK-RIEUL KIYEOK-SIOS KIYEOK-SIOS-KIYEOK",
   "MIEUM MIEUM-CHIEUCH MIEUM-CIEUC MIEUM-HIEUH MIEUM-KIYEOK MIEUM-NIEUN MIEUM-PANSIOS",
   "MIEUM-PIEUP MIEUM-PIEUP-SIOS MIEUM-RIEUL MIEUM-SIOS MIEUM-SSANGNIEUN MIEUM-SSANGSIOS",
   "NIEUN NIEUN-CHIEUCH NIEUN-CIEUC NIEUN-HIEUH NIEUN-KIYEOK NIEUN-PANSIOS NIEUN-RIEUL",
   "NIEUN-SIOS NIEUN-THIEUTH NIEUN-TIKEUT PANSIOS PANSIOS-KAPYEOUNPIEUP PANSIOS-PIEUP",
   "PHIEUPH PHIEUPH-PIEUP PHIEUPH-SIOS PHIEUPH-THIEUTH PIEUP PIEUP-CHIEUCH PIEUP-CIEUC",
   "PIEUP-HIEUH PIEUP-MIEUM PIEUP-PHIEUPH PIEUP-RIEUL PIEUP-RIEUL-PHIEUPH PIEUP-SIOS",
   "PIEUP-SIOS-TIKEUT PIEUP-TIKEUT RIEUL RIEUL-HIEUH RIEUL-KAPYEOUNPIEUP RIEUL-KHIEUKH",
   "RIEUL-KIYEOK RIEUL-KIYEOK-HIEUH RIEUL-KIYEOK-SIOS RIEUL-MIEUM RIEUL-MIEUM-HIEUH",
   "RIEUL-MIEUM-KIYEOK RIEUL-MIEUM-SIOS RIEUL-NIEUN RIEUL-PANSIOS RIEUL-PHIEUPH RIEUL-PIEUP",
   "RIEUL-PIEUP-HIEUH RIEUL-PIEUP-PHIEUPH RIEUL-PIEUP-SIOS RIEUL-PIEUP-TIKEUT RIEUL-SIOS",
   "RIEUL-SSANGKIYEOK RIEUL-SSANGSIOS RIEUL-THIEUTH RIEUL-TIKEUT RIEUL-TIKEUT-HIEUH",
   "RIEUL-YEORINHIEUH RIEUL-YEORINHIEUH-HIEUH RIEUL-YESIEUNG SIOS SIOS-CHIEUCH SIOS-CIEUC",
   "SIOS-HIEUH SIOS-KAPYEOUNPIEUP SIOS-KIYEOK SIOS-MIEUM SIOS-PANSIOS SIOS-PIEUP SIOS-RIEUL",
   "SIOS-THIEUTH SIOS-TIKEUT SSANGCIEUC SSANGIEUNG SSANGKIYEOK SSANGMIEUM SSANGNIEUN",
   "SSANGPIEUP SSANGRIEUL SSANGRIEUL-KHIEUKH SSANGSIOS SSANGSIOS-KIYEOK SSANGSIOS-TIKEUT",
   "SSANGTIKEUT SSANGTIKEUT-PIEUP SSANGYESIEUNG THIEUTH TIKEUT TIKEUT-CHIEUCH TIKEUT-CIEUC",
   "TIKEUT-KIYEOK TIKEUT-PIEUP TIKEUT-RIEUL TIKEUT-SIOS TIKEUT-SIOS-KIYEOK TIKEUT-THIEUTH",
   "YEORINHIEUH YESIEUNG YESIEUNG-HIEUH YESIEUNG-KHIEUKH YESIEUNG-KIYEOK YESIEUNG-MIEUM",
   "YESIEUNG-PANSIOS YESIEUNG-SIOS YESIEUNG-SSANGKIYEOK) JUNGSEONG(A A-EU A-O A-U AE ARAEA",
   "ARAEA-A ARAEA-E ARAEA-EO ARAEA-I ARAEA-U E EO EO-EU EO-O EO-U EU EU-A EU-E EU-EO EU-EU",
   "EU-O EU-U FILLER I I-A I-ARAEA I-EU I-I I-O I-O-I I-U I-YA I-YA-O I-YAE I-YE I-YEO I-YO",
   "I-YU O O-E O-EO O-O O-O-I O-U O-YA O-YAE O-YE O-YEO OE SSANGARAEA U U-A U-AE U-EO-EU",
   "U-I-I U-U U-YE U-YEO WA WAE WE WEO WI YA YA-O YA-U YA-YO YAE YE YEO YEO-O YEO-U YEO-YA",
   "YI YI-U YO YO-A YO-AE YO-EO YO-I YO-O YO-YA YO-YAE YO-YEO YU YU-A YU-AE YU-E YU-EO YU-I",
   "YU-O YU-U YU-YE YU-YEO) LETTER(A AE ARAEA ARAEAE CHIEUCH CIEUC E EO EU HIEUH I IEUNG",
   "KAPYEOUNMIEUM KAPYEOUNPHIEUPH KAPYEOUNPIEUP KAPYEOUNSSANGPIEUP KHIEUKH KIYEOK",
   "KIYEOK-SIOS MIEUM MIEUM-PANSIOS MIEUM-PIEUP MIEUM-SIOS NIEUN NIEUN-CIEUC NIEUN-HIEUH",
   "NIEUN-PANSIOS NIEUN-SIOS NIEUN-TIKEUT O OE PANSIOS PHIEUPH PIEUP PIEUP-CIEUC",
   "PIEUP-KIYEOK PIEUP-SIOS PIEUP-SIOS-KIYEOK PIEUP-SIOS-TIKEUT PIEUP-THIEUTH PIEUP-TIKEUT",
   "RIEUL RIEUL-HIEUH RIEUL-KIYEOK RIEUL-KIYEOK-SIOS RIEUL-MIEUM RIEUL-PANSIOS RIEUL-PHIEUPH",
   "RIEUL-PIEUP RIEUL-PIEUP-SIOS RIEUL-SIOS RIEUL-THIEUTH RIEUL-TIKEUT RIEUL-YEORINHIEUH",
   "SIOS SIOS-CIEUC SIOS-KIYEOK SIOS-NIEUN SIOS-PIEUP SIOS-TIKEUT SSANGCIEUC SSANGHIEUH",
   "SSANGIEUNG SSANGKIYEOK SSANGNIEUN SSANGPIEUP SSANGSIOS SSANGTIKEUT THIEUTH TIKEUT U WA",
   "WAE WE WEO WI YA YAE YE YEO YEORINHIEUH YESIEUNG YESIEUNG-PANSIOS YESIEUNG-SIOS YI YO",
   "YO-I YO-YA YO-YAE YU YU-I YU-YE YU-YEO) SINGLE(DOT(TONE(MARK)))) HANGZHOU(NUMERAL(EIGHT",
   "FIVE FOUR NINE ONE SEVEN SIX TEN THIRTY THREE TWENTY TWO)) HANIFI(ROHINGYA(DIGIT(EIGHT",
   "FIVE FOUR NINE ONE SEVEN SIX THREE TWO ZERO) LETTER(A BA CA DA DDA FA GA HA JA KA KHA",
   "KINNA(WA YA) LA MA NA NGA NYA PA RA RRA SA SHA TA TTA VA WA YA ZA) MARK(NA(KHONNA)",
   "SAKIN) SIGN(HARBAHAY TAHALA TANA TASSI) VOWEL(A E I O U))) HANUNOO(LETTER(A BA DA GA HA",
   "I KA LA MA NA NGA PA RA SA TA U WA YA) SIGN(PAMUDPOD) VOWEL(SIGN(I U)))",
   "HAPPY(PERSON(RAISING(ONE(HAND)))) HARD(DISK) HATCHING(CHICK) HATRAN(LETTER(ALEPH AYN",
   "BETH DALETH-RESH GIMEL HE HETH KAPH LAMEDH MEM NUN PE QOPH SADHE SAMEKH SHIN TAW TETH",
   "WAW YODH ZAYN) NUMBER(FIVE ONE ONE(HUNDRED) TEN TWENTY)) HEADPHONE HEADSTONE",
   "HEADSTONE(GRAVEYARD(SYMBOL)) HEAR-NO-EVIL(MONKEY) HEART(DECORATION HANDS WITH(ARROW",
   "RIBBON TIP(ON(THE(LEFT))))) HEAVY(AMPERSAND(ORNAMENT) ARROW(SHAFT(WIDTH(ONE ONE(HALF",
   "THIRD) TWO(THIRDS)))) ASTERISK BALLOT(X) BLACK(CURVED(DOWNWARDS(AND(RIGHTWARDS(ARROW)))",
   "UPWARDS(AND(RIGHTWARDS(ARROW)))) HEART) BLACK-FEATHERED(NORTH(EAST(ARROW))",
   "RIGHTWARDS(ARROW) SOUTH(EAST(ARROW))) CHECK(MARK) CHEVRON(SNOWFLAKE) CIRCLE",
   "CIRCLE(WITH(CIRCLE(INSIDE) STROKE(AND(TWO(DOTS(ABOVE)))))) CIRCLED(SALTIRE)",
   "CONCAVE-POINTED(BLACK(RIGHTWARDS(ARROW))) DASHED(TRIANGLE-HEADED(RIGHTWARDS(ARROW)))",
   "DIVISION(SIGN) DOLLAR(SIGN) DOUBLE(COMMA(QUOTATION(MARK(ORNAMENT)))",
   "TURNED(COMMA(QUOTATION(MARK(ORNAMENT))))) DOWNWARDS(ARROW(WITH(EQUILATERAL(ARROWHEAD)",
   "LARGE(EQUILATERAL(ARROWHEAD))))) EIGHT(POINTED(BLACK(STAR) PINWHEEL(STAR)",
   "RECTILINEAR(BLACK(STAR))) SPOKED(ASTERISK) TEARDROP-SPOKED(PROPELLER(ASTERISK)))",
   "EQUALS(SIGN) EXCLAMATION(MARK(ORNAMENT SYMBOL)) FIVE(POINTED(BLACK(STAR))",
   "SPOKED(ASTERISK)) FOUR(BALLOON-SPOKED(ASTERISK)) GREEK(CROSS)",
   "HEART(EXCLAMATION(MARK(ORNAMENT))) HORIZONTAL(FILL) INTERROBANG(ORNAMENT) LARGE(CIRCLE)",
   "LATIN(CROSS) LEFT-POINTING(ANGLE(BRACKET(ORNAMENT) QUOTATION(MARK(ORNAMENT))))",
   "LEFTWARDS(ARROW(WITH(EQUILATERAL(ARROWHEAD) LARGE(EQUILATERAL(ARROWHEAD)))))",
   "LIGATURE(OPEN(ET(ORNAMENT))) LOW(DOUBLE(COMMA(QUOTATION(MARK(ORNAMENT))))",
   "SINGLE(COMMA(QUOTATION(MARK(ORNAMENT)))))",
   "LOWER(RIGHT-SHADOWED(WHITE(RIGHTWARDS(ARROW)))) MINUS(SIGN) MULTIPLICATION(X)",
   "NORTH(EAST(ARROW POINTING(BUD VINE(LEAF))) WEST(POINTING(BUD VINE(LEAF))))",
   "OPEN(CENTRE(CROSS)) OUTLINED(BLACK(STAR)) OVAL(WITH(OVAL(INSIDE))) PLUS(SIGN)",
   "RIGHT-POINTING(ANGLE(BRACKET(ORNAMENT) QUOTATION(MARK(ORNAMENT)))) RIGHTWARDS(ARROW",
   "ARROW(WITH(EQUILATERAL(ARROWHEAD) LARGE(EQUILATERAL(ARROWHEAD)))))",
   "ROUND-TIPPED(RIGHTWARDS(ARROW)) SALTIRE SANS-SERIF(INTERROBANG(ORNAMENT))",
   "SCRIPT(LIGATURE(ET(ORNAMENT))) SINGLE(COMMA(QUOTATION(MARK(ORNAMENT)))",
   "TURNED(COMMA(QUOTATION(MARK(ORNAMENT))))) SIX(POINTED(BLACK(STAR)) SPOKED(ASTERISK))",
   "SOUTH(EAST(ARROW POINTING(BUD VINE(LEAF))) WEST(POINTING(BUD VINE(LEAF)))) SPARKLE",
   "TEARDROP-SHANKED(RIGHTWARDS(ARROW)) TEARDROP-SPOKED(ASTERISK PINWHEEL(ASTERISK))",
   "TRIANGLE-HEADED(RIGHTWARDS(ARROW)) TWELVE(POINTED(BLACK(STAR) PINWHEEL(STAR)))",
   "UPPER(RIGHT-SHADOWED(WHITE(RIGHTWARDS(ARROW))))",
   "UPWARDS(ARROW(WITH(EQUILATERAL(ARROWHEAD) LARGE(EQUILATERAL(ARROWHEAD))))) VERTICAL(BAR)",
   "WEDGE-TAILED(RIGHTWARDS(ARROW)) WHITE(CIRCLE DOWN-POINTING(TRIANGLE) SQUARE)",
   "WIDE-HEADED(RIGHTWARDS(ARROW))) HEBREW(ACCENT(ATNAH(HAFUKH) DARGA DEHI ETNAHTA GERESH",
   "GERESH(MUQDAM) GERSHAYIM ILUY MAHAPAKH MERKHA MERKHA(KEFULA) MUNAH OLE PASHTA PAZER",
   "QADMA QARNEY(PARA) REVIA SEGOL SHALSHELET TELISHA(GEDOLA QETANA) TEVIR TIPEHA",
   "YERAH(BEN(YOMO)) YETIV ZAQEF(GADOL QATAN) ZARQA ZINOR) LETTER(ALEF ALEF(WITH(MAPIQ PATAH",
   "QAMATS)) ALTERNATIVE(AYIN PLUS(SIGN)) AYIN BET BET(WITH(DAGESH RAFE)) DALET",
   "DALET(WITH(DAGESH)) FINAL(KAF KAF(WITH(DAGESH)) MEM NUN PE PE(WITH(DAGESH)) TSADI) GIMEL",
   "GIMEL(WITH(DAGESH)) HE HE(WITH(MAPIQ)) HET KAF KAF(WITH(DAGESH RAFE)) LAMED",
   "LAMED(WITH(DAGESH)) MEM MEM(WITH(DAGESH)) NUN NUN(WITH(DAGESH)) PE PE(WITH(DAGESH RAFE))",
   "QOF QOF(WITH(DAGESH)) RESH RESH(WITH(DAGESH)) SAMEKH SAMEKH(WITH(DAGESH)) SHIN",
   "SHIN(WITH(DAGESH DAGESH(AND(SHIN(DOT) SIN(DOT))) SHIN(DOT) SIN(DOT))) TAV",
   "TAV(WITH(DAGESH)) TET TET(WITH(DAGESH)) TSADI TSADI(WITH(DAGESH)) VAV VAV(WITH(DAGESH",
   "HOLAM)) WIDE(ALEF DALET FINAL(MEM) HE KAF LAMED RESH TAV) YOD YOD(WITH(DAGESH HIRIQ))",
   "ZAYIN ZAYIN(WITH(DAGESH))) LIGATURE(ALEF(LAMED) YIDDISH(DOUBLE(VAV YOD) VAV(YOD)",
   "YOD(YOD(PATAH)))) MARK(LOWER(DOT) MASORA(CIRCLE) UPPER(DOT)) POINT(DAGESH(OR(MAPIQ))",
   "HATAF(PATAH QAMATS SEGOL) HIRIQ HOLAM HOLAM(HASER(FOR(VAV))) JUDEO-SPANISH(VARIKA) METEG",
   "PATAH QAMATS QAMATS(QATAN) QUBUTS RAFE SEGOL SHEVA SHIN(DOT) SIN(DOT) TSERE)",
   "PUNCTUATION(GERESH GERSHAYIM MAQAF NUN(HAFUKHA) PASEQ SOF(PASUQ)) YOD(TRIANGLE))",
   "HEDGEHOG HELICOPTER HELLSCHREIBER(PAUSE(SYMBOL)) HELM(SYMBOL) HELMET(WITH(WHITE(CROSS)))",
   "HENTAIGANA(LETTER(A-1 A-2 A-3 A-WO E-1 E-2 E-3 E-4 E-5 E-6 HA-1 HA-10 HA-11 HA-2 HA-3",
   "HA-4 HA-5 HA-6 HA-7 HA-8 HA-9 HE-1 HE-2 HE-3 HE-4 HE-5 HE-6 HE-7 HI-1 HI-2 HI-3 HI-4",
   "HI-5 HI-6 HI-7 HO-1 HO-2 HO-3 HO-4 HO-5 HO-6 HO-7 HO-8 HU-1 HU-2 HU-3 I-1 I-2 I-3 I-4",
   "KA-1 KA-10 KA-11 KA-2 KA-3 KA-4 KA-5 KA-6 KA-7 KA-8 KA-9 KA-KE KE-1 KE-2 KE-3 KE-4 KE-5",
   "KE-6 KI-1 KI-2 KI-3 KI-4 KI-5 KI-6 KI-7 KI-8 KO-1 KO-2 KO-3 KO-KI KU-1 KU-2 KU-3 KU-4",
   "KU-5 KU-6 KU-7 MA-1 MA-2 MA-3 MA-4 MA-5 MA-6 MA-7 ME-1 ME-2 ME-MA MI-1 MI-2 MI-3 MI-4",
   "MI-5 MI-6 MI-7 MO-1 MO-2 MO-3 MO-4 MO-5 MO-6 MU-1 MU-2 MU-3 MU-4 N-MU-MO-1 N-MU-MO-2",
   "NA-1 NA-2 NA-3 NA-4 NA-5 NA-6 NA-7 NA-8 NA-9 NE-1 NE-2 NE-3 NE-4 NE-5 NE-6 NE-KO NI-1",
   "NI-2 NI-3 NI-4 NI-5 NI-6 NI-7 NI-TE NO-1 NO-2 NO-3 NO-4 NO-5 NU-1 NU-2 NU-3 O-1 O-2 O-3",
   "RA-1 RA-2 RA-3 RA-4 RE-1 RE-2 RE-3 RE-4 RI-1 RI-2 RI-3 RI-4 RI-5 RI-6 RI-7 RO-1 RO-2",
   "RO-3 RO-4 RO-5 RO-6 RU-1 RU-2 RU-3 RU-4 RU-5 RU-6 SA-1 SA-2 SA-3 SA-4 SA-5 SA-6 SA-7",
   "SA-8 SE-1 SE-2 SE-3 SE-4 SE-5 SI-1 SI-2 SI-3 SI-4 SI-5 SI-6 SO-1 SO-2 SO-3 SO-4 SO-5",
   "SO-6 SO-7 SU-1 SU-2 SU-3 SU-4 SU-5 SU-6 SU-7 SU-8 TA-1 TA-2 TA-3 TA-4 TE-1 TE-2 TE-3",
   "TE-4 TE-5 TE-6 TE-7 TE-8 TE-9 TI-1 TI-2 TI-3 TI-4 TI-5 TI-6 TI-7 TO-1 TO-2 TO-3 TO-4",
   "TO-5 TO-6 TO-RA TU-1 TU-2 TU-3 TU-4 TU-TO U-1 U-2 U-3 U-4 U-5 WA-1 WA-2 WA-3 WA-4 WA-5",
   "WE-1 WE-2 WE-3 WE-4 WI-1 WI-2 WI-3 WI-4 WI-5 WO-1 WO-2 WO-3 WO-4 WO-5 WO-6 WO-7 YA-1",
   "YA-2 YA-3 YA-4 YA-5 YA-YO YO-1 YO-2 YO-3 YO-4 YO-5 YO-6 YU-1 YU-2 YU-3 YU-4)) HERB",
   "HERMITIAN(CONJUGATE(MATRIX)) HEXAGRAM(FOR(ABUNDANCE AFTER(COMPLETION) APPROACH",
   "BEFORE(COMPLETION) BITING(THROUGH) BREAKTHROUGH COMING(TO(MEET)) CONFLICT CONTEMPLATION",
   "DARKENING(OF(THE(LIGHT))) DECREASE DELIVERANCE DEVELOPMENT",
   "DIFFICULTY(AT(THE(BEGINNING))) DISPERSION DURATION ENTHUSIASM FELLOWSHIP FOLLOWING",
   "GATHERING(TOGETHER) GRACE GREAT(POSSESSION POWER PREPONDERANCE TAMING) HOLDING(TOGETHER)",
   "INCREASE INFLUENCE INNER(TRUTH) INNOCENCE LIMITATION MODESTY MOUTH(CORNERS) OBSTRUCTION",
   "OPPOSITION OPPRESSION PEACE PROGRESS PUSHING(UPWARD) RETREAT RETURN REVOLUTION",
   "SMALL(PREPONDERANCE TAMING) SPLITTING(APART) STANDSTILL THE(ABYSMAL(WATER) ARMY",
   "AROUSING(THUNDER) CAULDRON CLINGING(FIRE) CREATIVE(HEAVEN) FAMILY GENTLE(WIND)",
   "JOYOUS(LAKE) KEEPING(STILL(MOUNTAIN)) MARRYING(MAIDEN) RECEPTIVE(EARTH) WANDERER WELL)",
   "TREADING WAITING WORK(ON(THE(DECAYED))) YOUTHFUL(FOLLY))) HIBISCUS",
   "HIGH(BRIGHTNESS(SYMBOL) OCTET(PRESET) VOLTAGE(SIGN)) HIGH-HEELED(SHOE) HIGH-SPEED(TRAIN",
   "TRAIN(WITH(BULLET(NOSE)))) HIKING(BOOT) HINDU(TEMPLE) HIPPOPOTAMUS",
   "HIRAGANA(DIGRAPH(YORI) ITERATION(MARK) LETTER(A ARCHAIC(WU YE) BA BE BI BO BU DA DE DI",
   "DO DU E GA GE GI GO GU HA HE HI HO HU I KA KE KI KO KU MA ME MI MO MU N NA NE NI NO NU O",
   "PA PE PI PO PU RA RE RI RO RU SA SE SI SMALL(A E I KA KE O TU U WA WE WI WO YA YO YU) SO",
   "SU TA TE TI TO TU U VU WA WE WI WO YA YO YU ZA ZE ZI ZO ZU) VOICED(ITERATION(MARK)))",
   "HISTORIC(SITE) HOCHO HOLE HOLLOW(QUILT(SQUARE(ORNAMENT ORNAMENT(IN(BLACK(SQUARE))))))",
   "HOMOTHETIC HONEY(POT) HONEYBEE HOOK HOP HORIZONTAL(BAR BLACK(HEXAGON OCTAGON) ELLIPSIS",
   "LINE(EXTENSION) MALE(WITH(STROKE(SIGN))) ONE(EIGHTH(BLOCK-1358 BLOCK-2 BLOCK-3 BLOCK-4",
   "BLOCK-5 BLOCK-6 BLOCK-7)) SCAN(LINE-1 LINE-3 LINE-7 LINE-9) TAB(KEY) TABULATION",
   "TABULATION(SET WITH(JUSTIFICATION)) TRAFFIC(LIGHT)) HORSE HORSE(FACE RACING) HOSPITAL",
   "HOT(BEVERAGE DOG PEPPER SPRINGS) HOTEL HOURGLASS HOURGLASS(WITH(FLOWING(SAND))) HOUSE",
   "HOUSE(BUILDING BUILDINGS WITH(GARDEN)) HRYVNIA(SIGN) HT HTJ HTS HUGGING(FACE)",
   "HUNDRED(POINTS(SYMBOL)) HUSHED(FACE) HUT HYGIEA HYPHEN HYPHEN(BULLET WITH(DIAERESIS))",
   "HYPHEN-MINUS HYPHENATION(POINT) HYPODIASTOLE HYSTERESIS(SYMBOL)"]

end InstallerKit.Text.CharacterName
