/-!
# Names of characters: I to L

The names of characters in Unicode 14.0 whose first letter is one from I to L, word by
word: the words that may follow a word are in parentheses after it. A word at the end of a
name is there by itself as well.
-/

namespace InstallerKit.Text.CharacterName

/-- The names from I on. -/
def namesFromI : List String :=
  ["I(LOVE(YOU(HAND(SIGN)))) ICE(CREAM CUBE HOCKEY(STICK(AND(PUCK))) SKATE) IDENTICAL(TO",
   "TO(AND(SLANTED(PARALLEL))) WITH(DOT(ABOVE))) IDENTIFICATION(CARD)",
   "IDEOGRAPHIC(ANNOTATION(BOTTOM(MARK) EARTH(MARK) FIRST(MARK) FOUR(MARK) FOURTH(MARK)",
   "HEAVEN(MARK) LINKING(MARK) MAN(MARK) MIDDLE(MARK) ONE(MARK) REVERSE(MARK) SECOND(MARK)",
   "THIRD(MARK) THREE(MARK) TOP(MARK) TWO(MARK)) CLOSING(MARK) COMMA DEPARTING(TONE(MARK))",
   "DESCRIPTION(CHARACTER(ABOVE(TO(BELOW MIDDLE(AND(BELOW)))) FULL(SURROUND)",
   "LEFT(TO(MIDDLE(AND(RIGHT)) RIGHT)) OVERLAID SURROUND(FROM(ABOVE BELOW LEFT LOWER(LEFT)",
   "UPPER(LEFT RIGHT))))) ENTERING(TONE(MARK)) FULL(STOP) HALF(FILL(SPACE)) ITERATION(MARK)",
   "LEVEL(TONE(MARK)) NUMBER(ZERO) RISING(TONE(MARK)) SPACE TALLY(MARK(FIVE FOUR ONE THREE",
   "TWO)) TELEGRAPH(LINE(FEED(SEPARATOR(SYMBOL))) SYMBOL(FOR(APRIL AUGUST DAY(EIGHT EIGHTEEN",
   "ELEVEN FIFTEEN FIVE FOUR FOURTEEN NINE NINETEEN ONE SEVEN SEVENTEEN SIX SIXTEEN TEN",
   "THIRTEEN THIRTY THIRTY-ONE THREE TWELVE TWENTY TWENTY-EIGHT TWENTY-FIVE TWENTY-FOUR",
   "TWENTY-NINE TWENTY-ONE TWENTY-SEVEN TWENTY-SIX TWENTY-THREE TWENTY-TWO TWO) DECEMBER",
   "FEBRUARY HOUR(EIGHT EIGHTEEN ELEVEN FIFTEEN FIVE FOUR FOURTEEN NINE NINETEEN ONE SEVEN",
   "SEVENTEEN SIX SIXTEEN TEN THIRTEEN THREE TWELVE TWENTY TWENTY-FOUR TWENTY-ONE",
   "TWENTY-THREE TWENTY-TWO TWO ZERO) JANUARY JULY JUNE MARCH MAY NOVEMBER OCTOBER",
   "SEPTEMBER))) VARIATION(INDICATOR)) IMAGE(OF OF(OR(APPROXIMATELY(EQUAL(TO))))) IMP",
   "IMPERIAL(ARAMAIC(LETTER(ALEPH AYIN BETH DALETH GIMEL HE HETH KAPH LAMEDH MEM NUN PE QOPH",
   "RESH SADHE SAMEKH SHIN TAW TETH WAW YODH ZAYIN) NUMBER(ONE ONE(HUNDRED THOUSAND) TEN",
   "TEN(THOUSAND) THREE TWENTY TWO) SECTION(SIGN))) INBOX(TRAY) INCOMING(ENVELOPE)",
   "INCOMPLETE(INFINITY) INCREASE(FONT(SIZE(SYMBOL))) INCREASES(AS) INCREMENT IND INDEX",
   "INDEX(POINTING(AT(THE(VIEWER)))) INDIAN(RUPEE(SIGN)) INDIC(SIYAQ(ALTERNATE(LAKH(MARK))",
   "FRACTION(ONE(HALF QUARTER) THREE(QUARTERS)) LAKH(MARK) NUMBER(ALTERNATE(ONE",
   "TEN(THOUSAND) TWO) EIGHT EIGHT(HUNDRED THOUSAND) EIGHTY EIGHTY(THOUSAND) FIFTY",
   "FIFTY(THOUSAND) FIVE FIVE(HUNDRED THOUSAND) FORTY FORTY(THOUSAND) FOUR FOUR(HUNDRED",
   "THOUSAND) KAROR KARORAN LAKH LAKHAN NINE NINE(HUNDRED THOUSAND) NINETY NINETY(THOUSAND)",
   "ONE ONE(HUNDRED THOUSAND) PREFIXED(EIGHT FIVE FOUR NINE ONE SEVEN SIX THREE TWO) SEVEN",
   "SEVEN(HUNDRED THOUSAND) SEVENTY SEVENTY(THOUSAND) SIX SIX(HUNDRED THOUSAND) SIXTY",
   "SIXTY(THOUSAND) TEN TEN(THOUSAND) THIRTY THIRTY(THOUSAND) THREE THREE(HUNDRED THOUSAND)",
   "TWENTY TWENTY(THOUSAND) TWO TWO(HUNDRED THOUSAND)) PLACEHOLDER RUPEE(MARK))) INFINITY",
   "INFINITY(NEGATED(WITH(VERTICAL(BAR)))) INFORMATION(DESK(PERSON) SEPARATOR(FOUR ONE THREE",
   "TWO) SOURCE) INHIBIT(ARABIC(FORM(SHAPING)) SYMMETRIC(SWAPPING))",
   "INPUT(SYMBOL(FOR(LATIN(CAPITAL(LETTERS) LETTERS SMALL(LETTERS)) NUMBERS SYMBOLS)))",
   "INSCRIPTIONAL(PAHLAVI(LETTER(ALEPH BETH DALETH GIMEL HE HETH KAPH LAMEDH MEM-QOPH NUN PE",
   "SADHE SAMEKH SHIN TAW TETH WAW-AYIN-RESH YODH ZAYIN) NUMBER(FOUR ONE ONE(HUNDRED",
   "THOUSAND) TEN THREE TWENTY TWO)) PARTHIAN(LETTER(ALEPH AYIN BETH DALETH GIMEL HE HETH",
   "KAPH LAMEDH MEM NUN PE QOPH RESH SADHE SAMEKH SHIN TAW TETH WAW YODH ZAYIN) NUMBER(FOUR",
   "ONE ONE(HUNDRED THOUSAND) TEN THREE TWENTY TWO))) INSERTION(SYMBOL) INTEGRAL",
   "INTEGRAL(AROUND(A(POINT(OPERATOR))) AVERAGE(WITH(SLASH)) EXTENSION WITH(DOUBLE(STROKE)",
   "INTERSECTION LEFTWARDS(ARROW(WITH(HOOK))) OVERBAR TIMES(SIGN) UNDERBAR UNION))",
   "INTERCALATE INTERIOR(PRODUCT) INTERLINEAR(ANNOTATION(ANCHOR SEPARATOR TERMINATOR))",
   "INTERLOCKED(FEMALE(AND(MALE(SIGN)))) INTERROBANG INTERSECTION",
   "INTERSECTION(ABOVE(BAR(ABOVE(UNION)) UNION) BESIDE(AND(JOINED(WITH(INTERSECTION))))",
   "WITH(DOT LOGICAL(AND) OVERBAR)) INVERSE(BULLET CHECK(MARK) CHECKER(BOARD(FILL))",
   "DOWNWARDS(ARROW(WITH(TIP(LEFTWARDS)))) MEDIUM(SHADE) WHITE(CIRCLE))",
   "INVERTED(EXCLAMATION(MARK) INTERROBANG LAZY(S) LOW(KAVYKA KAVYKA(WITH(KAVYKA(ABOVE))))",
   "OHM(SIGN) PENTAGRAM QUESTION(MARK) UNDERTIE) INVISIBLE(PLUS SEPARATOR TIMES)",
   "IZAKAYA(LANTERN)"]

/-- The names from J on. -/
def namesFromJ : List String :=
  ["JACK-O-LANTERN JAPANESE(BANK(SYMBOL) CASTLE DOLLS GOBLIN INDUSTRIAL(STANDARD(SYMBOL))",
   "OGRE POST(OFFICE) SYMBOL(FOR(BEGINNER))) JAR JAVANESE(CONSONANT(SIGN(CAKRA KERET",
   "PENGKAL)) DIGIT(EIGHT FIVE FOUR NINE ONE SEVEN SIX THREE TWO ZERO) LEFT(RERENGGAN)",
   "LETTER(A AI BA BA(MURDA) CA CA(MURDA) DA DA(MAHAPRANA) DDA DDA(MAHAPRANA) E GA GA(MURDA)",
   "HA I I(KAWI) II JA JA(MAHAPRANA) KA KA(MURDA SASAK) LA MA NA NA(MURDA) NGA NGA(LELET",
   "LELET(RASWADI)) NYA NYA(MURDA) O PA PA(CEREK MURDA) RA RA(AGUNG) SA SA(MAHAPRANA MURDA)",
   "TA TA(MURDA) TTA TTA(MAHAPRANA) U WA YA) PADA(ADEG ADEG(ADEG) ANDAP ISEN-ISEN LINGSA",
   "LUHUR LUNGSI MADYA PANGKAT PISELEH TIRTA(TUMETES) WINDU) PANGKON PANGRANGKEP",
   "RIGHT(RERENGGAN) SIGN(CECAK CECAK(TELU) LAYAR PANYANGGA WIGNYAN) TURNED(PADA(PISELEH))",
   "VOWEL(SIGN(DIRGA(MURE) PEPET SUKU SUKU(MENDUT) TALING TARUNG TOLONG WULU WULU(MELIK))))",
   "JEANS JIGSAW(PUZZLE(PIECE)) JOIN JOYSTICK JUGGLING JUNO JUPITER"]

/-- The names from K on. -/
def namesFromK : List String :=
  ["KAABA KAITHI(ABBREVIATION(SIGN) DANDA DOUBLE(DANDA SECTION(MARK)) ENUMERATION(SIGN)",
   "LETTER(A AA AI AU BA BHA CA CHA DA DDA DDDHA DDHA DHA E GA GHA HA I II JA JHA KA KHA LA",
   "MA NA NGA NNA NYA O PA PHA RA RHA SA SHA SSA TA THA TTA TTHA U UU VA YA) NUMBER(SIGN",
   "SIGN(ABOVE)) SECTION(MARK) SIGN(ANUSVARA CANDRABINDU NUKTA VIRAMA VISARGA) VOWEL(SIGN(AA",
   "AI AU E I II O U UU VOCALIC(R)))) KANGAROO KANGXI(RADICAL(AGAIN AND ARRIVE ARROW AXE",
   "BADGER BAMBOO BEAN BIG BIRD BITTER BLACK BLOOD BLUE BOAT BODY BOLT(OF(CLOTH)) BONE BOW",
   "BRANCH BRISTLE BRUSH CART CAULDRON CAVE CHILD CITY CLAN CLAW CLIFF CLOTHES COLOR COMPARE",
   "CORPSE COVER COW DEATH DEER DIPPER DISH DISTINGUISH DIVINATION DO(NOT) DOG DOOR DOT",
   "DOTTED(CLIFF TENT) DOUBLE(X) DOWN(BOX) DRAGON DRUM DRY EAR EARTH EAT EIGHT EMBROIDERY",
   "ENCLOSURE ENTER EVEN EVENING EYE FACE FANG FATHER FEATHER FIELD FIGHT FIRE FISH FLUTE",
   "FLY FOOT FRAGRANT FROG FUR GATE GHOST GO GO(SLOWLY) GOLD GRAIN GRASS HAIR HALBERD",
   "HALF(TREE(TRUNK)) HAND HEAD HEART HEMP HIDING(ENCLOSURE) HOOK HORN HORSE ICE INCH INSECT",
   "JADE JAR KNIFE LACK LAME LEAF LEATHER LEEK LEGS LID LIFE LINE LONG LONG(STRIDE) MAN MEAT",
   "MELON MILLET MINISTER MOON MORNING MORTAR MOUND MOUNTAIN MOUTH NET NOSE NOT OLD ONE",
   "ONESELF OPEN(BOX) OPPOSE PIG PLOW POWER PRIVATE PROFOUND RAIN RAP RAT RED RICE",
   "RIGHT(OPEN(BOX)) RIVER ROOF RUN SACRIFICIAL(WINE) SALT SAY SCHOLAR SCRIPT SEAL SECOND",
   "SEE SELF SHEEP SHELL SHOOT SHORT(TAILED(BIRD) THREAD) SICKNESS SILK SKIN SLASH SLAVE",
   "SLICE SMALL SNOUT SOUND SPEAR SPEECH SPIRIT SPOON SPROUT SQUARE STAND STEAM STEP STONE",
   "STOP STOPPING SUN SWEET TABLE TALL TANNED(LEATHER) TEN TIGER TILE TONGUE TOOTH TRACK",
   "TREE TRIPOD TURBAN TURTLE TWO TWO(HANDS) USE VALLEY VILLAGE WALK WALK(ENCLOSURE) WATER",
   "WEAPON WEST WHEAT WHITE WIND WINE WOMAN WORK WRAP WRONG YELLOW))",
   "KANNADA(AI(LENGTH(MARK)) DIGIT(EIGHT FIVE FOUR NINE ONE SEVEN SIX THREE TWO ZERO)",
   "LENGTH(MARK) LETTER(A AA AI AU BA BHA CA CHA DA DDA DDHA DHA E EE FA GA GHA HA I II JA",
   "JHA KA KHA LA LLA LLLA MA NA NAKAARA(POLLU) NGA NNA NYA O OO PA PHA RA RRA SA SHA SSA TA",
   "THA TTA TTHA U UU VA VOCALIC(L LL R RR) YA) SIGN(ANUSVARA AVAGRAHA CANDRABINDU",
   "JIHVAMULIYA NUKTA SIDDHAM SPACING(CANDRABINDU) UPADHMANIYA VIRAMA VISARGA) VOWEL(SIGN(AA",
   "AI AU E EE I II O OO U UU VOCALIC(L LL R RR)))) KATAKANA(DIGRAPH(KOTO) ITERATION(MARK)",
   "LETTER(A ARCHAIC(E WU YE YI) BA BE BI BO BU DA DE DI DO DU E GA GE GI GO GU HA HE HI HO",
   "HU I KA KE KI KO KU MA ME MI MINNAN(NASALIZED(TONE-1 TONE-2 TONE-3 TONE-4 TONE-5 TONE-7",
   "TONE-8) TONE-2 TONE-3 TONE-4 TONE-5 TONE-7 TONE-8) MO MU N NA NE NI NO NU O PA PE PI PO",
   "PU RA RE RI RO RU SA SE SI SMALL(A E HA HE HI HO HU I KA KE KU MU N NU O RA RE RI RO RU",
   "SI SU TO TU U WA WE WI WO YA YO YU) SO SU TA TE TI TO TU U VA VE VI VO VU WA WE WI WO YA",
   "YO YU ZA ZE ZI ZO ZU) MIDDLE(DOT) VOICED(ITERATION(MARK)))",
   "KATAKANA-HIRAGANA(DOUBLE(HYPHEN) PROLONGED(SOUND(MARK)) SEMI-VOICED(SOUND(MARK))",
   "VOICED(SOUND(MARK))) KAYAH(LI(DIGIT(EIGHT FIVE FOUR NINE ONE SEVEN SIX THREE TWO ZERO)",
   "LETTER(A BA CA DA GA HA HTA I KA KHA LA MA NA NGA NYA OE OO PA PHA RA SA SHA TA THA VA",
   "WA YA ZA) SIGN(CWI SHYA) TONE(CALYA CALYA(PLOPHU) PLOPHU) VOWEL(E EE O U UE)))",
   "KELVIN(SIGN) KEY KEYBOARD KEYBOARD(AND(MOUSE)) KEYCAP(TEN) KHAROSHTHI(DIGIT(FOUR ONE",
   "THREE TWO) FRACTION(ONE(HALF)) LETTER(A BA BHA CA CHA DA DDA DDHA DHA GA GHA HA JA KA",
   "KHA KKA LA MA NA NNA NYA PA PHA RA SA SHA SSA TA THA TTA TTHA TTTA TTTHA VA VHA YA ZA)",
   "NUMBER(ONE(HUNDRED THOUSAND) TEN TWENTY) PUNCTUATION(CIRCLE CRESCENT(BAR) DANDA DOT",
   "DOUBLE(DANDA) LINES LOTUS MANGALAM SMALL(CIRCLE)) SIGN(ANUSVARA BAR(ABOVE) CAUDA",
   "DOT(BELOW) DOUBLE(RING(BELOW)) VISARGA) VIRAMA VOWEL(LENGTH(MARK) SIGN(E I O U",
   "VOCALIC(R)))) KHITAN(SMALL(SCRIPT(FILLER))) KHMER(CURRENCY(SYMBOL(RIEL)) DIGIT(EIGHT",
   "FIVE FOUR NINE ONE SEVEN SIX THREE TWO ZERO) INDEPENDENT(VOWEL(LY LYY QAA QAI QAQ QAU QE",
   "QI QII QOO(TYPE(ONE TWO)) QU QUK QUU QUUV RY RYY)) LETTER(BA CA CHA CHO CO DA DO HA KA",
   "KHA KHO KO LA LO MO NGO NNO NO NYO PHA PHO PO QA RO SA SHA SSO TA THA THO TO TTHA TTHO",
   "VO YO) SIGN(AHSDA ATTHACAN AVAKRAHASANYA BANTOC BARIYOOSAN BATHAMASAT BEYYAL",
   "CAMNUC(PII(KUUH)) COENG KAKABAT KHAN KOOMUUT LEK(TOO) MUUSIKATOAN NIKAHIT PHNAEK(MUAN)",
   "REAHMUK ROBAT SAMYOK(SANNYA) TOANDAKHIAT TRIISAP VIRIAM YUUKALEAPINTU) SYMBOL(BEI(KOET",
   "ROC) BUON(KOET ROC) DAP(KOET ROC) DAP-BEI(KOET ROC) DAP-BUON(KOET ROC) DAP-MUOY(KOET",
   "ROC) DAP-PII(KOET ROC) DAP-PRAM(KOET ROC) LEK(ATTAK(BEI BUON MUOY PII PRAM PRAM-BEI",
   "PRAM-BUON PRAM-MUOY PRAM-PII SON)) MUOY(KOET ROC) PATHAMASAT PII(KOET ROC) PRAM(KOET",
   "ROC) PRAM-BEI(KOET ROC) PRAM-BUON(KOET ROC) PRAM-MUOY(KOET ROC) PRAM-PII(KOET ROC)",
   "TUTEYASAT) VOWEL(INHERENT(AA AQ) SIGN(AA AE AI AU E I IE II OE OO U UA UU Y YA YY)))",
   "KHOJKI(ABBREVIATION(SIGN) DANDA DOUBLE(DANDA SECTION(MARK)) LETTER(A AA AI AU BA BBA BHA",
   "CA CHA DA DDA DDDA DDHA DHA E GA GGA GHA HA I JA JJA KA KHA LA LLA MA NA NGA NNA NYA O",
   "PA PHA RA SA TA THA TTA TTHA U VA YA) SECTION(MARK) SIGN(ANUSVARA NUKTA SHADDA SUKUN",
   "VIRAMA) VOWEL(SIGN(AA AI AU E I II O U)) WORD(SEPARATOR)) KHUDAWADI(DIGIT(EIGHT FIVE",
   "FOUR NINE ONE SEVEN SIX THREE TWO ZERO) LETTER(A AA AI AU BA BBA BHA CA CHA DA DDA DDDA",
   "DDHA DHA E GA GGA GHA HA I II JA JHA JJA KA KHA LA MA NA NGA NNA NYA O PA PHA RA RRA SA",
   "SHA TA THA TTA TTHA U UU VA YA) SIGN(ANUSVARA NUKTA VIRAMA) VOWEL(SIGN(AA AI AU E I II O",
   "U UU))) KIMONO KIP(SIGN) KISS KISS(MARK) KISSING(CAT(FACE(WITH(CLOSED(EYES)))) FACE",
   "FACE(WITH(CLOSED(EYES) SMILING(EYES)))) KITE KIWIFRUIT KNEELING(PERSON) KNOT KOALA",
   "KOREAN(STANDARD(SYMBOL)) KRONOS"]

/-- The names from L on. -/
def namesFromL : List String :=
  ["L(B(BAR(SYMBOL))) LAB(COAT) LABEL LACROSSE(STICK(AND(BALL))) LADDER LADY(BEETLE)",
   "LANGUAGE(TAG) LAO(CANCELLATION(MARK) DIGIT(EIGHT FIVE FOUR NINE ONE SEVEN SIX THREE TWO",
   "ZERO) ELLIPSIS HO(MO NO) KO(LA) LETTER(BO CO DO FO(FAY FON SUNG TAM) HO(SUNG TAM)",
   "KHMU(GO NYO) KHO(SUNG TAM) KO LO LO(LING LOOT) MO NGO NO NYO O PALI(BHA CHA DDA DDHA DHA",
   "GHA JHA LLA NNA NYA TTA TTHA) PHO(SUNG TAM) PO RO SANSKRIT(SHA SSA) SO(SUNG TAM)",
   "THO(SUNG TAM) TO WO YO) NIGGAHITA SEMIVOWEL(SIGN(LO NYO)) SIGN(PALI(VIRAMA))",
   "TONE(MAI(CATAWA EK THO TI)) VOWEL(SIGN(A AA AI AM AY E EI I II MAI(KAN KON) O U UU Y",
   "YY))) LARGE(BLUE(CIRCLE DIAMOND SQUARE) BROWN(CIRCLE SQUARE) CIRCLE DOWN(TACK)",
   "GREEN(CIRCLE SQUARE) LEFT(TRIANGLE(OPERATOR)) ONE(DOT(OVER(TWO(DOTS(PUNCTUATION))))",
   "RING(OVER(TWO(RINGS(PUNCTUATION))))) ORANGE(CIRCLE DIAMOND SQUARE) PURPLE(CIRCLE SQUARE)",
   "RED(CIRCLE SQUARE) TRIPLE(VERTICAL(BAR(OPERATOR))) TWO(DOTS(OVER(ONE(DOT(PUNCTUATION))))",
   "RINGS(OVER(ONE(RING(PUNCTUATION))))) UP(TACK) YELLOW(CIRCLE SQUARE)) LARGER(THAN",
   "THAN(OR(EQUAL(TO)))) LARI(SIGN) LAST(QUARTER(MOON MOON(SYMBOL WITH(FACE))))",
   "LATIN(CAPITAL(LETTER(A A(WITH(ACUTE BREVE BREVE(AND(ACUTE DOT(BELOW) GRAVE HOOK(ABOVE)",
   "TILDE)) CARON CIRCUMFLEX CIRCUMFLEX(AND(ACUTE DOT(BELOW) GRAVE HOOK(ABOVE) TILDE))",
   "DIAERESIS DIAERESIS(AND(MACRON)) DOT(ABOVE ABOVE(AND(MACRON)) BELOW) DOUBLE(GRAVE) GRAVE",
   "HOOK(ABOVE) INVERTED(BREVE) MACRON OGONEK RING(ABOVE ABOVE(AND(ACUTE)) BELOW) STROKE",
   "TILDE)) AA AE AE(WITH(ACUTE MACRON)) AFRICAN(D) ALPHA ANGLICANA(W) AO AU AV",
   "AV(WITH(HORIZONTAL(BAR))) AY B B(WITH(DOT(ABOVE BELOW) FLOURISH HOOK LINE(BELOW) STROKE",
   "TOPBAR)) BETA BROKEN(L) C C(WITH(ACUTE BAR CARON CEDILLA CEDILLA(AND(ACUTE)) CIRCUMFLEX",
   "DOT(ABOVE) HOOK PALATAL(HOOK) STROKE)) CHI CLOSED(INSULAR(G)) CON CUATRILLO",
   "CUATRILLO(WITH(COMMA)) D D(WITH(CARON CEDILLA CIRCUMFLEX(BELOW) DOT(ABOVE BELOW) HOOK",
   "LINE(BELOW) SHORT(STROKE(OVERLAY)) SMALL(LETTER(Z Z(WITH(CARON)))) STROKE TOPBAR)) DZ",
   "DZ(WITH(CARON)) E E(WITH(ACUTE BREVE CARON CEDILLA CEDILLA(AND(BREVE)) CIRCUMFLEX",
   "CIRCUMFLEX(AND(ACUTE DOT(BELOW) GRAVE HOOK(ABOVE) TILDE) BELOW) DIAERESIS DOT(ABOVE",
   "BELOW) DOUBLE(GRAVE) GRAVE HOOK(ABOVE) INVERTED(BREVE) MACRON MACRON(AND(ACUTE GRAVE))",
   "OGONEK STROKE TILDE TILDE(BELOW))) EGYPTOLOGICAL(AIN ALEF) ENG ESH ET ETH EZH",
   "EZH(REVERSED WITH(CARON)) F F(WITH(DOT(ABOVE) HOOK STROKE)) G G(WITH(ACUTE BREVE CARON",
   "CEDILLA CIRCUMFLEX DOT(ABOVE) HOOK MACRON OBLIQUE(STROKE) STROKE)) GAMMA GHA GLOTTAL(A I",
   "STOP U) H H(WITH(BREVE(BELOW) CARON CEDILLA CIRCUMFLEX DESCENDER DIAERESIS DOT(ABOVE",
   "BELOW) HOOK STROKE)) HALF(H) HENG HWAIR I I(WITH(ACUTE BREVE CARON CIRCUMFLEX DIAERESIS",
   "DIAERESIS(AND(ACUTE)) DOT(ABOVE BELOW) DOUBLE(GRAVE) GRAVE HOOK(ABOVE) INVERTED(BREVE)",
   "MACRON OGONEK STROKE TILDE TILDE(BELOW))) INSULAR(D F G R S T) IOTA IS J",
   "J(WITH(CIRCUMFLEX CROSSED-TAIL STROKE)) K K(WITH(ACUTE CARON CEDILLA DESCENDER",
   "DIAGONAL(STROKE) DOT(BELOW) HOOK LINE(BELOW) OBLIQUE(STROKE) STROKE",
   "STROKE(AND(DIAGONAL(STROKE))))) L L(WITH(ACUTE BAR BELT CARON CEDILLA CIRCUMFLEX(BELOW)",
   "DOT(BELOW BELOW(AND(MACRON))) DOUBLE(BAR) HIGH(STROKE) LINE(BELOW) MIDDLE(DOT TILDE)",
   "SMALL(LETTER(J)) STROKE)) LJ M M(WITH(ACUTE DOT(ABOVE BELOW) HOOK)) MIDDLE(SCOTS(S))",
   "MIDDLE-WELSH(LL V) N N(WITH(ACUTE CARON CEDILLA CIRCUMFLEX(BELOW) DESCENDER DOT(ABOVE",
   "BELOW) GRAVE LEFT(HOOK) LINE(BELOW) LONG(RIGHT(LEG)) OBLIQUE(STROKE) SMALL(LETTER(J))",
   "TILDE)) NJ O O(WITH(ACUTE BREVE CARON CIRCUMFLEX CIRCUMFLEX(AND(ACUTE DOT(BELOW) GRAVE",
   "HOOK(ABOVE) TILDE)) DIAERESIS DIAERESIS(AND(MACRON)) DOT(ABOVE ABOVE(AND(MACRON)) BELOW)",
   "DOUBLE(ACUTE GRAVE) GRAVE HOOK(ABOVE) HORN HORN(AND(ACUTE DOT(BELOW) GRAVE HOOK(ABOVE)",
   "TILDE)) INVERTED(BREVE) LONG(STROKE(OVERLAY)) LOOP MACRON MACRON(AND(ACUTE GRAVE))",
   "MIDDLE(TILDE) OGONEK OGONEK(AND(MACRON)) STROKE STROKE(AND(ACUTE)) TILDE TILDE(AND(ACUTE",
   "DIAERESIS MACRON)))) OI OLD(POLISH(O)) OMEGA OO OPEN(E O) OU P P(WITH(ACUTE DOT(ABOVE)",
   "FLOURISH HOOK SQUIRREL(TAIL) STROKE STROKE(THROUGH(DESCENDER)))) Q",
   "Q(WITH(DIAGONAL(STROKE) STROKE(THROUGH(DESCENDER)))) R R(ROTUNDA WITH(ACUTE CARON",
   "CEDILLA DOT(ABOVE BELOW BELOW(AND(MACRON))) DOUBLE(GRAVE) INVERTED(BREVE) LINE(BELOW)",
   "OBLIQUE(STROKE) STROKE TAIL)) REVERSED(C(WITH(DOT)) E HALF(H) OPEN(E)) RUM(ROTUNDA) S",
   "S(WITH(ACUTE ACUTE(AND(DOT(ABOVE))) CARON CARON(AND(DOT(ABOVE))) CEDILLA CIRCUMFLEX",
   "COMMA(BELOW) DOT(ABOVE BELOW BELOW(AND(DOT(ABOVE)))) HOOK OBLIQUE(STROKE)",
   "SHORT(STROKE(OVERLAY)) SWASH(TAIL))) SALTILLO SCHWA SCRIPT(G) SHARP(S) SIGMOID(S)",
   "SMALL(CAPITAL(I) Q(WITH(HOOK(TAIL)))) T T(WITH(CARON CEDILLA CIRCUMFLEX(BELOW)",
   "COMMA(BELOW) DIAGONAL(STROKE) DOT(ABOVE BELOW) HOOK LINE(BELOW) RETROFLEX(HOOK) STROKE))",
   "THORN THORN(WITH(STROKE STROKE(THROUGH(DESCENDER)))) TONE(FIVE SIX TWO) TRESILLO",
   "TURNED(A ALPHA H INSULAR(G) K L M T V) TZ U U(BAR WITH(ACUTE BREVE CARON CIRCUMFLEX",
   "CIRCUMFLEX(BELOW) DIAERESIS DIAERESIS(AND(ACUTE CARON GRAVE MACRON) BELOW) DOT(BELOW)",
   "DOUBLE(ACUTE GRAVE) GRAVE HOOK(ABOVE) HORN HORN(AND(ACUTE DOT(BELOW) GRAVE HOOK(ABOVE)",
   "TILDE)) INVERTED(BREVE) MACRON MACRON(AND(DIAERESIS)) OGONEK RING(ABOVE) STROKE TILDE",
   "TILDE(AND(ACUTE) BELOW))) UPSILON V V(WITH(DIAGONAL(STROKE) DOT(BELOW) HOOK TILDE)) VEND",
   "VISIGOTHIC(Z) VOLAPUK(AE OE UE) VY W W(WITH(ACUTE CIRCUMFLEX DIAERESIS DOT(ABOVE BELOW)",
   "GRAVE HOOK)) WYNN X X(WITH(DIAERESIS DOT(ABOVE))) Y Y(WITH(ACUTE CIRCUMFLEX DIAERESIS",
   "DOT(ABOVE BELOW) GRAVE HOOK HOOK(ABOVE) LOOP MACRON STROKE TILDE)) YOGH Z Z(WITH(ACUTE",
   "CARON CIRCUMFLEX DESCENDER DOT(ABOVE BELOW) HOOK LINE(BELOW) PALATAL(HOOK) STROKE",
   "SWASH(TAIL)))) LIGATURE(IJ OE)) CROSS EPIGRAPHIC(LETTER(ARCHAIC(M) I(LONGA) INVERTED(M)",
   "REVERSED(F P) SIDEWAYS(I))) LETTER(AIN ALVEOLAR(CLICK) BIDENTAL(PERCUSSIVE)",
   "BILABIAL(CLICK PERCUSSIVE) DENTAL(CLICK) GLOTTAL(STOP STOP(WITH(STROKE)))",
   "INVERTED(GLOTTAL(STOP STOP(WITH(CURL STROKE)))) LATERAL(CLICK)",
   "PHARYNGEAL(VOICED(FRICATIVE)) RETROFLEX(CLICK CLICK(WITH(RETROFLEX(HOOK))))",
   "REVERSED(ESH(LOOP) GLOTTAL(STOP(WITH(STROKE)))) SINOLOGICAL(DOT) SMALL(CAPITAL(A AE B",
   "BARRED(B) C D E ETH EZH F G G(WITH(HOOK)) H I INVERTED(R) J K L L(WITH(BELT STROKE)) M N",
   "O OE OPEN(O) OU P Q R R(WITH(RIGHT(LEG))) REVERSED(N R) RUM S T TURNED(E G K M R) U V W",
   "Y Z)) STRETCHED(C C(WITH(CURL))) TWO(WITH(STROKE)) VOICED(LARYNGEAL(SPIRANT)) WYNN YR)",
   "SMALL(CAPITAL(LETTER(I(WITH(STROKE)) U(WITH(STROKE)))) LETTER(A A(REVERSED-SCHWA",
   "WITH(ACUTE BREVE BREVE(AND(ACUTE DOT(BELOW) GRAVE HOOK(ABOVE) TILDE)) CARON CIRCUMFLEX",
   "CIRCUMFLEX(AND(ACUTE DOT(BELOW) GRAVE HOOK(ABOVE) TILDE)) DIAERESIS",
   "DIAERESIS(AND(MACRON)) DOT(ABOVE ABOVE(AND(MACRON)) BELOW) DOUBLE(GRAVE) GRAVE",
   "HOOK(ABOVE) INVERTED(BREVE) MACRON OGONEK RETROFLEX(HOOK) RIGHT(HALF(RING)) RING(ABOVE",
   "ABOVE(AND(ACUTE)) BELOW) STROKE TILDE)) AA AE AE(WITH(ACUTE MACRON)) ALPHA",
   "ALPHA(WITH(RETROFLEX(HOOK))) ANGLICANA(W) AO AU AV AV(WITH(HORIZONTAL(BAR))) AY B",
   "B(WITH(DOT(ABOVE BELOW) FLOURISH HOOK LINE(BELOW) MIDDLE(TILDE) PALATAL(HOOK) STROKE",
   "TOPBAR)) BARRED(ALPHA E O) BASELINE(ESH) BETA BLACKLETTER(E O O(WITH(STROKE)))",
   "BOTTOM(HALF(O)) BROKEN(L) C C(WITH(ACUTE BAR CARON CEDILLA CEDILLA(AND(ACUTE))",
   "CIRCUMFLEX CURL DOT(ABOVE) HOOK PALATAL(HOOK) RETROFLEX(HOOK) STROKE)) CHI",
   "CHI(WITH(LOW(LEFT(SERIF) RIGHT(RING)))) CLOSED(INSULAR(G) OMEGA OPEN(E)",
   "REVERSED(OPEN(E))) CON CUATRILLO CUATRILLO(WITH(COMMA)) D D(WITH(CARON CEDILLA",
   "CIRCUMFLEX(BELOW) CURL DOT(ABOVE BELOW) HOOK HOOK(AND(TAIL)) LINE(BELOW) MIDDLE(TILDE)",
   "PALATAL(HOOK) SHORT(STROKE(OVERLAY)) STROKE TAIL TOPBAR)) DB(DIGRAPH) DELTA DEZH(DIGRAPH",
   "DIGRAPH(WITH(PALATAL(HOOK) RETROFLEX(HOOK)))) DOTLESS(I J J(WITH(STROKE",
   "STROKE(AND(HOOK))))) DOUBLE(R R(WITH(CROSSED-TAIL)) THORN WYNN) DUM DZ DZ(DIGRAPH",
   "DIGRAPH(WITH(CURL RETROFLEX(HOOK))) WITH(CARON)) E E(WITH(ACUTE BREVE CARON CEDILLA",
   "CEDILLA(AND(BREVE)) CIRCUMFLEX CIRCUMFLEX(AND(ACUTE DOT(BELOW) GRAVE HOOK(ABOVE) TILDE)",
   "BELOW) DIAERESIS DOT(ABOVE BELOW) DOUBLE(GRAVE) FLOURISH GRAVE HOOK(ABOVE)",
   "INVERTED(BREVE) MACRON MACRON(AND(ACUTE GRAVE)) NOTCH OGONEK RETROFLEX(HOOK) STROKE",
   "TILDE TILDE(BELOW))) EGYPTOLOGICAL(AIN ALEF) ENG ENG(WITH(CROSSED-TAIL PALATAL(HOOK)))",
   "ESH ESH(WITH(CURL DOUBLE(BAR BAR(AND(CURL))) PALATAL(HOOK) RETROFLEX(HOOK))) ET ETH EZH",
   "EZH(REVERSED WITH(CARON CURL PALATAL(HOOK) RETROFLEX(HOOK) TAIL)) F F(WITH(DOT(ABOVE)",
   "HOOK MIDDLE(TILDE) PALATAL(HOOK) STROKE)) FENG(DIGRAPH DIGRAPH(WITH(TRILL))) G",
   "G(WITH(ACUTE BREVE CARON CEDILLA CIRCUMFLEX DOT(ABOVE) HOOK MACRON OBLIQUE(STROKE)",
   "PALATAL(HOOK) STROKE)) GAMMA GHA GLOTTAL(A I STOP U) H H(WITH(BREVE(BELOW) CARON CEDILLA",
   "CIRCUMFLEX DESCENDER DIAERESIS DOT(ABOVE BELOW) HOOK LINE(BELOW) PALATAL(HOOK) STROKE))",
   "HALF(H) HENG HENG(WITH(HOOK)) HV I I(WITH(ACUTE BREVE CARON CIRCUMFLEX DIAERESIS",
   "DIAERESIS(AND(ACUTE)) DOT(BELOW) DOUBLE(GRAVE) GRAVE HOOK(ABOVE) INVERTED(BREVE) MACRON",
   "OGONEK RETROFLEX(HOOK) STROKE STROKE(AND(RETROFLEX(HOOK))) TILDE TILDE(BELOW)))",
   "INSULAR(D F G R S T) INVERTED(ALPHA OE) IOTA IOTA(WITH(STROKE)) IOTIFIED(E) IS J",
   "J(WITH(CARON CIRCUMFLEX CROSSED-TAIL STROKE)) K K(WITH(ACUTE CARON CEDILLA DESCENDER",
   "DIAGONAL(STROKE) DOT(BELOW) HOOK LINE(BELOW) OBLIQUE(STROKE) PALATAL(HOOK) STROKE",
   "STROKE(AND(DIAGONAL(STROKE))))) KRA L L(WITH(ACUTE BAR BELT BELT(AND(PALATAL(HOOK)))",
   "CARON CEDILLA CIRCUMFLEX(BELOW) CURL DOT(BELOW BELOW(AND(MACRON))) DOUBLE(BAR",
   "MIDDLE(TILDE)) FISHHOOK HIGH(STROKE) INVERTED(LAZY(S)) LINE(BELOW) MIDDLE(DOT RING",
   "TILDE) PALATAL(HOOK) RETROFLEX(HOOK HOOK(AND(BELT))) STROKE)) LAMBDA(WITH(STROKE))",
   "LENIS(F) LEZH LEZH(WITH(RETROFLEX(HOOK))) LJ LONG(S S(WITH(DIAGONAL(STROKE) DOT(ABOVE)",
   "HIGH(STROKE)))) LS(DIGRAPH) LUM LZ(DIGRAPH) M M(WITH(ACUTE CROSSED-TAIL DOT(ABOVE BELOW)",
   "HOOK MIDDLE(TILDE) PALATAL(HOOK))) MIDDLE(SCOTS(S)) MIDDLE-WELSH(LL V) MUM N",
   "N(PRECEDED(BY(APOSTROPHE)) WITH(ACUTE CARON CEDILLA CIRCUMFLEX(BELOW) CROSSED-TAIL CURL",
   "DESCENDER DOT(ABOVE BELOW) GRAVE LEFT(HOOK) LINE(BELOW) LONG(RIGHT(LEG)) MIDDLE(TILDE)",
   "OBLIQUE(STROKE) PALATAL(HOOK) RETROFLEX(HOOK) TILDE)) NJ NUM O O(WITH(ACUTE BREVE CARON",
   "CIRCUMFLEX CIRCUMFLEX(AND(ACUTE DOT(BELOW) GRAVE HOOK(ABOVE) TILDE)) DIAERESIS",
   "DIAERESIS(AND(MACRON)) DOT(ABOVE ABOVE(AND(MACRON)) BELOW) DOUBLE(ACUTE GRAVE) GRAVE",
   "HOOK(ABOVE) HORN HORN(AND(ACUTE DOT(BELOW) GRAVE HOOK(ABOVE) TILDE)) INVERTED(BREVE)",
   "LONG(STROKE(OVERLAY)) LOOP LOW(RING(INSIDE)) MACRON MACRON(AND(ACUTE GRAVE)) OGONEK",
   "OGONEK(AND(MACRON)) RETROFLEX(HOOK) STROKE STROKE(AND(ACUTE)) TILDE TILDE(AND(ACUTE",
   "DIAERESIS MACRON)))) OI OLD(POLISH(O)) OMEGA OO OPEN(E E(WITH(RETROFLEX(HOOK))) O",
   "O(WITH(RETROFLEX(HOOK) STROKE)) OE) OU P P(WITH(ACUTE DOT(ABOVE) FLOURISH HOOK",
   "MIDDLE(TILDE) PALATAL(HOOK) SQUIRREL(TAIL) STROKE STROKE(THROUGH(DESCENDER)))) PHI Q",
   "Q(WITH(DIAGONAL(STROKE) HOOK HOOK(TAIL) STROKE(THROUGH(DESCENDER)))) QP(DIGRAPH) R",
   "R(ROTUNDA WITH(ACUTE CARON CEDILLA CROSSED-TAIL DOT(ABOVE BELOW BELOW(AND(MACRON)))",
   "DOUBLE(GRAVE) FISHHOOK FISHHOOK(AND(MIDDLE(TILDE) PALATAL(HOOK))) INVERTED(BREVE)",
   "LINE(BELOW) LONG(LEG) MIDDLE(TILDE) OBLIQUE(STROKE) PALATAL(HOOK) STROKE TAIL)",
   "WITHOUT(HANDLE)) RAMS(HORN) REVERSED(C C(WITH(DOT)) E ENG HALF(H) K OPEN(E E(WITH(HOOK",
   "RETROFLEX(HOOK)))) R(WITH(FISHHOOK)) SCRIPT(G)) RUM RUM(ROTUNDA) S S(WITH(ACUTE",
   "ACUTE(AND(DOT(ABOVE))) CARON CARON(AND(DOT(ABOVE))) CEDILLA CIRCUMFLEX COMMA(BELOW) CURL",
   "DOT(ABOVE BELOW BELOW(AND(DOT(ABOVE)))) HOOK MIDDLE(TILDE) OBLIQUE(STROKE) PALATAL(HOOK)",
   "SHORT(STROKE(OVERLAY)) SWASH(TAIL))) SAKHA(YAT) SALTILLO SCHWA SCHWA(WITH(HOOK",
   "RETROFLEX(HOOK))) SCRIPT(G G(WITH(CROSSED-TAIL)) R R(WITH(RING))) SHARP(S)",
   "SIDEWAYS(DIAERESIZED(U) O O(WITH(STROKE)) OPEN(O) TURNED(M) U) SIGMOID(S)",
   "SQUAT(REVERSED(ESH)) STIRRUP(R) T T(WITH(CARON CEDILLA CIRCUMFLEX(BELOW) COMMA(BELOW)",
   "CURL DIAERESIS DIAGONAL(STROKE) DOT(ABOVE BELOW) HOOK HOOK(AND(RETROFLEX(HOOK)))",
   "LINE(BELOW) MIDDLE(TILDE) PALATAL(HOOK) RETROFLEX(HOOK) STROKE)) TAILLESS(PHI)",
   "TC(DIGRAPH(WITH(CURL))) TESH(DIGRAPH DIGRAPH(WITH(PALATAL(HOOK) RETROFLEX(HOOK))))",
   "TH(WITH(STRIKETHROUGH)) THORN THORN(WITH(STROKE STROKE(THROUGH(DESCENDER)))) TONE(FIVE",
   "SIX TWO) TOP(HALF(O)) TRESILLO TS(DIGRAPH DIGRAPH(WITH(RETROFLEX(HOOK)))) TUM TURNED(A",
   "AE ALPHA DELTA E G H H(WITH(FISHHOOK FISHHOOK(AND(TAIL)))) I INSULAR(G) K L M",
   "M(WITH(LONG(LEG))) O(OPEN-O OPEN-O(WITH(STROKE))) OE OE(WITH(HORIZONTAL(STROKE) STROKE))",
   "OPEN(E) R R(WITH(HOOK LONG(LEG LEG(AND(RETROFLEX(HOOK)))) MIDDLE(TILDE) PALATAL(HOOK)",
   "TAIL)) T T(WITH(CURL)) UI V W Y Y(WITH(BELT))) TZ U U(BAR BAR(WITH(SHORT(RIGHT(LEG))))",
   "WITH(ACUTE BREVE CARON CIRCUMFLEX CIRCUMFLEX(BELOW) DIAERESIS DIAERESIS(AND(ACUTE CARON",
   "GRAVE MACRON) BELOW) DOT(BELOW) DOUBLE(ACUTE GRAVE) GRAVE HOOK(ABOVE) HORN",
   "HORN(AND(ACUTE DOT(BELOW) GRAVE HOOK(ABOVE) TILDE)) INVERTED(BREVE) LEFT(HOOK) MACRON",
   "MACRON(AND(DIAERESIS)) OGONEK RETROFLEX(HOOK) RING(ABOVE) SHORT(RIGHT(LEG)) STROKE TILDE",
   "TILDE(AND(ACUTE) BELOW))) UE UI UM UO UPSILON UPSILON(WITH(STROKE)) V V(WITH(CURL",
   "DIAGONAL(STROKE) DOT(BELOW) HOOK PALATAL(HOOK) RIGHT(HOOK) TILDE)) VEND VISIGOTHIC(Z)",
   "VOLAPUK(AE OE UE) VY W W(WITH(ACUTE CIRCUMFLEX DIAERESIS DOT(ABOVE BELOW) GRAVE HOOK",
   "RING(ABOVE))) X X(WITH(DIAERESIS DOT(ABOVE) LONG(LEFT(LEG LEG(AND(LOW(RIGHT(RING)))",
   "WITH(SERIF)))) LOW(RIGHT(RING)) PALATAL(HOOK))) Y Y(WITH(ACUTE CIRCUMFLEX DIAERESIS",
   "DOT(ABOVE BELOW) GRAVE HOOK HOOK(ABOVE) LOOP MACRON RING(ABOVE) SHORT(RIGHT(LEG)) STROKE",
   "TILDE)) YOGH Z Z(WITH(ACUTE CARON CIRCUMFLEX CURL DESCENDER DOT(ABOVE BELOW) HOOK",
   "LINE(BELOW) MIDDLE(TILDE) PALATAL(HOOK) RETROFLEX(HOOK) STROKE SWASH(TAIL))))",
   "LIGATURE(FF FFI FFL FI FL IJ LONG(S(T)) OE ST)) SUBSCRIPT(SMALL(LETTER(A E H I J K L M N",
   "O P R S SCHWA T U V X)))) LEAF(FLUTTERING(IN(WIND))) LEAFY(GREEN) LEDGER",
   "LEFT(AND(LOWER(AND(RIGHT(TRIANGULAR(THREE(QUARTERS(BLOCK))))) ONE(EIGHTH(BLOCK)))",
   "RIGHT(DOUBLE(TURNSTILE) TACK TRIANGULAR(HALF(BLOCK)))",
   "UPPER(AND(RIGHT(TRIANGULAR(THREE(QUARTERS(BLOCK))))) ONE(EIGHTH(BLOCK)))) ANGER(BUBBLE)",
   "ANGLE(BRACKET BRACKET(WITH(DOT))) ARC(LESS-THAN(BRACKET)) ARROW(WITH(CIRCLED(PLUS)",
   "SMALL(CIRCLE))) BARB(DOWN(RIGHT(BARB(DOWN(HARPOON) UP(HARPOON))))",
   "UP(RIGHT(BARB(DOWN(HARPOON) UP(HARPOON))))) BLACK(LENTICULAR(BRACKET)",
   "TORTOISE(SHELL(BRACKET))) CEILING CLOSED(ENTRY) CORNER(BRACKET) CURLY(BRACKET",
   "BRACKET(LOWER(HOOK) MIDDLE(PIECE) UPPER(HOOK))) DOTTED(SUBSTITUTION(BRACKET))",
   "DOUBLE(ANGLE(BRACKET) PARENTHESIS QUOTATION(MARK) WIGGLY(FENCE)) FISH(TAIL)",
   "FIVE(EIGHTHS(BLOCK)) FLOOR HALF(BLACK(CIRCLE STAR) BLOCK CIRCLE CIRCLE(WITH(DOT",
   "FOUR(DOTS) THREE(DOTS) TWO(DOTS))) FOLDER",
   "INVERSE(MEDIUM(SHADE(AND(RIGHT(HALF(BLOCK)))))) MEDIUM(SHADE) RUNNING(MAN))",
   "HAND(TELEPHONE(RECEIVER)) LOW(PARAPHRASE(BRACKET)) LUGGAGE MULTIMAP",
   "NORMAL(FACTOR(SEMIDIRECT(PRODUCT))) ONE(EIGHTH(BLOCK) QUARTER(BLOCK)) OUTER(JOIN)",
   "PARENTHESIS PARENTHESIS(EXTENSION LOWER(HOOK) UPPER(HOOK)) RAISED(OMISSION(BRACKET))",
   "RIGHT(ARROW ARROW(THROUGH(SMALL(CIRCLE)) WITH(DOUBLE(VERTICAL(STROKE)) STROKE",
   "VERTICAL(STROKE))) BLACK(ARROW) DOUBLE(ARROW ARROW(WITH(STROKE VERTICAL(STROKE))))",
   "OPEN-HEADED(ARROW) SANS-SERIF(ARROW) TRIANGLE-HEADED(ARROW) WAVE(ARROW) WHITE(ARROW))",
   "S-SHAPED(BAG(DELIMITER)) SEMIDIRECT(PRODUCT) SEVEN(EIGHTHS(BLOCK)) SIDEWAYS(U(BRACKET))",
   "SINGLE(QUOTATION(MARK)) SPEECH(BUBBLE) SQUARE(BRACKET BRACKET(EXTENSION LOWER(CORNER)",
   "UPPER(CORNER) WITH(DOUBLE(STROKE) QUILL STROKE TICK(IN(BOTTOM(CORNER) TOP(CORNER)))",
   "UNDERBAR))) SUBSTITUTION(BRACKET) TACK THIRD(WHITE(RIGHT(POINTING(INDEX))))",
   "THOUGHT(BUBBLE) THREE(EIGHTHS(BLOCK) QUARTERS(BLOCK)) TORTOISE(SHELL(BRACKET))",
   "TRANSPOSITION(BRACKET) TRIANGLE(BESIDE(VERTICAL(BAR))) TRIANGULAR(ONE(QUARTER(BLOCK)))",
   "VERTICAL(BAR(WITH(QUILL)) BOX(LINE)) WHITE(CORNER(BRACKET) CURLY(BRACKET)",
   "LENTICULAR(BRACKET) PARENTHESIS SQUARE(BRACKET) TORTOISE(SHELL(BRACKET))) WIGGLY(FENCE)",
   "WRITING(HAND)) LEFT-FACING(ARMENIAN(ETERNITY(SIGN)) FIST SVASTI(SIGN SIGN(WITH(DOTS))))",
   "LEFT-HANDED(INTERLACED(PENTAGRAM)) LEFT-POINTING(ANGLE(BRACKET) CURVED(ANGLE(BRACKET))",
   "DOUBLE(ANGLE(QUOTATION(MARK))) MAGNIFYING(GLASS)) LEFT-SHADED(WHITE(RIGHTWARDS(ARROW)))",
   "LEFT-SIDE(ARC(ANTICLOCKWISE(ARROW))) LEFT-TO-RIGHT(EMBEDDING ISOLATE MARK OVERRIDE)",
   "LEFTWARDS(ARROW ARROW(ABOVE(ALMOST(EQUAL(TO)) REVERSE(ALMOST(EQUAL(TO)) TILDE(OPERATOR))",
   "SHORT(RIGHTWARDS(ARROW)) TILDE(OPERATOR)) AND(UPPER(AND(LOWER(ONE(EIGHTH(BLOCK))))))",
   "FROM(BAR BAR(TO(BLACK(DIAMOND)))) OVER(RIGHTWARDS(ARROW)) THROUGH(LESS-THAN SUBSET X)",
   "TO(BAR BAR(OVER(RIGHTWARDS(ARROW(TO(BAR))))) BLACK(DIAMOND)) WITH(DOTTED(STEM)",
   "DOUBLE(VERTICAL(STROKE)) EQUILATERAL(ARROWHEAD) HOOK LARGE(TRIANGLE(ARROWHEAD)) LOOP",
   "MEDIUM(TRIANGLE(ARROWHEAD)) NOTCHED(TAIL) PLUS(BELOW) SMALL(EQUILATERAL(ARROWHEAD)",
   "TRIANGLE(ARROWHEAD)) STROKE TAIL TAIL(WITH(DOUBLE(VERTICAL(STROKE)) VERTICAL(STROKE)))",
   "TIP(DOWNWARDS UPWARDS) VERTICAL(STROKE))) ARROW-TAIL BACK-TILTED(SHADOWED(WHITE(ARROW)))",
   "BLACK(ARROW CIRCLED(WHITE(ARROW))) BOTTOM-SHADED(WHITE(ARROW)) COMPRESSED(ARROW)",
   "DASHED(ARROW) DOUBLE(ARROW ARROW(FROM(BAR) WITH(STROKE VERTICAL(STROKE))) ARROW-TAIL",
   "DASH(ARROW)) FINGER-POST(ARROW) FRONT-TILTED(SHADOWED(WHITE(ARROW))) HAND",
   "HARPOON(OVER(RIGHTWARDS(HARPOON))",
   "WITH(BARB(DOWN(ABOVE(RIGHTWARDS(HARPOON(WITH(BARB(DOWN))))) BELOW(LONG(DASH)) FROM(BAR)",
   "TO(BAR)) DOWNWARDS UP(ABOVE(LEFTWARDS(HARPOON(WITH(BARB(DOWN)))) LONG(DASH)",
   "RIGHTWARDS(HARPOON(WITH(BARB(UP))))) FROM(BAR) TO(BAR)) UPWARDS))) HEAVY(ARROW",
   "COMPRESSED(ARROW)) LEFT-SHADED(WHITE(ARROW)) OPEN-HEADED(ARROW) PAIRED(ARROWS)",
   "QUADRUPLE(ARROW) RIGHT-SHADED(WHITE(ARROW)) ROCKET SANS-SERIF(ARROW) SQUARED(ARROW)",
   "SQUIGGLE(ARROW) TOP(SHADED(WHITE(ARROW))) TRIANGLE(ARROWHEAD) TRIANGLE-HEADED(ARROW",
   "ARROW(OVER(RIGHTWARDS(TRIANGLE-HEADED(ARROW))) TO(BAR) WITH(BOLD(SHAFT)",
   "DOUBLE(HORIZONTAL(STROKE) VERTICAL(STROKE)) HEAVY(SHAFT) LONG(TIP(DOWNWARDS UPWARDS))",
   "MEDIUM(SHAFT) NARROW(SHAFT) VERY(HEAVY(SHAFT)))) DASHED(ARROW) PAIRED(ARROWS))",
   "TRIPLE(ARROW DASH(ARROW)) TWO(HEADED(ARROW)) TWO-HEADED(ARROW(FROM(BAR)",
   "WITH(DOUBLE(VERTICAL(STROKE)) TAIL TAIL(WITH(DOUBLE(VERTICAL(STROKE)) VERTICAL(STROKE)))",
   "TRIANGLE(ARROWHEADS) VERTICAL(STROKE))) TRIPLE(DASH(ARROW))) WAVE(ARROW) WHITE(ARROW",
   "ARROW(WITHIN(TRIANGLE(ARROWHEAD))))) LEG LEMON LEO LEOPARD LEPCHA(CONSONANT(SIGN(K KANG",
   "L M N NYIN-DO P R T)) DIGIT(EIGHT FIVE FOUR NINE ONE SEVEN SIX THREE TWO ZERO) LETTER(A",
   "BA BLA CA CHA DA DDA DZA FA FLA GA GLA HA HLA JA KA KHA KLA LA MA MLA NA NGA NYA PA PHA",
   "PLA RA SA SHA TA THA TSA TSHA TTA TTHA VA WA YA) PUNCTUATION(CER-WA NYET(THYOOM(TA-ROL))",
   "TA-ROL TSHOOK TSHOOK(CER-WA)) SIGN(NUKTA RAN) SUBJOINED(LETTER(RA YA)) VOWEL(SIGN(AA E I",
   "O OO U UU))) LESS-THAN(ABOVE(DOUBLE-LINE(EQUAL(ABOVE(GREATER-THAN)))",
   "GREATER-THAN(ABOVE(DOUBLE-LINE(EQUAL))) LEFTWARDS(ARROW) SIMILAR(ABOVE(GREATER-THAN)",
   "OR(EQUAL)) SLANTED(EQUAL(ABOVE(GREATER-THAN(ABOVE(SLANTED(EQUAL)))))))",
   "AND(NOT(APPROXIMATE) SINGLE-LINE(NOT(EQUAL(TO)))) BUT(NOT(EQUAL(TO) EQUIVALENT(TO)))",
   "CLOSED(BY(CURVE CURVE(ABOVE(SLANTED(EQUAL))))) EQUAL(TO(OR(GREATER-THAN)))",
   "OR(APPROXIMATE EQUAL(TO) EQUIVALENT(TO) GREATER-THAN SLANTED(EQUAL(TO TO(WITH(DOT(ABOVE",
   "ABOVE(RIGHT) INSIDE)))))) OVER(EQUAL(TO)) SIGN WITH(CIRCLE(INSIDE) DOT",
   "QUESTION(MARK(ABOVE)))) LEVEL(SLIDER) LF LIBRA LIGATURE(OPEN(ET(ORNAMENT)))",
   "LIGHT(CHECK(MARK) EIGHT(SPOKED(ASTERISK)) FIVE(POINTED(BLACK(STAR)) SPOKED(ASTERISK))",
   "FOUR(POINTED(BLACK(CUSP STAR))) GREEK(CROSS) LEFT(TORTOISE(SHELL(BRACKET(ORNAMENT))))",
   "RAIL RIGHT(TORTOISE(SHELL(BRACKET(ORNAMENT)))) SALTIRE SHADE SIX(SPOKED(ASTERISK))",
   "THREE(POINTED(BLACK(STAR))) TWELVE(POINTED(BLACK(STAR))) VERTICAL(BAR) WHITE(SQUARE))",
   "LIGHTNING LIGHTNING(MOOD MOOD(BUBBLE)) LIMBU(DIGIT(EIGHT FIVE FOUR NINE ONE SEVEN SIX",
   "THREE TWO ZERO) EXCLAMATION(MARK) LETTER(BA BHA CA CHA DA DHA GA GHA GYAN HA JA JHA KA",
   "KHA LA MA NA NGA PA PHA RA SA SHA SSA TA THA TRA WA YA YAN) QUESTION(MARK)",
   "SIGN(KEMPHRENG LOO MUKPHRENG SA-I) SMALL(LETTER(ANUSVARA KA LA MA NA NGA PA RA TA))",
   "SUBJOINED(LETTER(RA WA YA)) VOWEL(SIGN(A AI AU E EE I O OO U)) VOWEL-CARRIER(LETTER))",
   "LIMITED(LIABILITY(SIGN)) LINE(FEED INTEGRATION(NOT(INCLUDING(THE(POLE)))",
   "WITH(RECTANGULAR(PATH(AROUND(POLE))) SEMICIRCULAR(PATH(AROUND(POLE))))) SEPARATOR",
   "TABULATION TABULATION(SET)) LINEAR(A(SIGN(A028B A100-102 A120B A131C A301 A302 A303 A304",
   "A305 A306 A307 A308 A309A A309B A309C A310 A311 A312 A313A A313B A313C A314 A315 A316",
   "A317 A318 A319 A320 A321 A322 A323 A324 A325 A326 A327 A328 A329 A330 A331 A332 A333",
   "A334 A335 A336 A337 A338 A339 A340 A341 A342 A343 A344 A345 A346 A347 A348 A349 A350",
   "A351 A352 A353 A354 A355 A356 A357 A358 A359 A360 A361 A362 A363 A364 A365 A366 A367",
   "A368 A369 A370 A371 A400-VAS A401-VAS A402-VAS A403-VAS A404-VAS A405-VAS A406-VAS",
   "A407-VAS A408-VAS A409-VAS A410-VAS A411-VAS A412-VAS A413-VAS A414-VAS A415-VAS",
   "A416-VAS A417-VAS A418-VAS A501 A502 A503 A504 A505 A506 A508 A509 A510 A511 A512 A513",
   "A515 A516 A520 A521 A523 A524 A525 A526 A527 A528 A529 A530 A531 A532 A534 A535 A536",
   "A537 A538 A539 A540 A541 A542 A545 A547 A548 A549 A550 A551 A552 A553 A554 A555 A556",
   "A557 A559 A563 A564 A565 A566 A568 A569 A570 A571 A572 A573 A574 A575 A576 A577 A578",
   "A579 A580 A581 A582 A583 A584 A585 A586 A587 A588 A589 A591 A592 A594 A595 A596 A598",
   "A600 A601 A602 A603 A604 A606 A608 A609 A610 A611 A612 A613 A614 A615 A616 A617 A618",
   "A619 A620 A621 A622 A623 A624 A626 A627 A628 A629 A634 A637 A638 A640 A642 A643 A644",
   "A645 A646 A648 A649 A651 A652 A653 A654 A655 A656 A657 A658 A659 A660 A661 A662 A663",
   "A664 A701(A) A702(B) A703(D) A704(E) A705(F) A706(H) A707(J) A708(K) A709(L) A709-2(L2)",
   "A709-3(L3) A709-4(L4) A709-6(L6) A710(W) A711(X) A712(Y) A713(OMEGA) A714(ABB) A715(BB)",
   "A717(DD) A726(EYYY) A732(JE) A800 A801 A802 A803 A804 A805 A806 A807 AB001 AB002 AB003",
   "AB004 AB005 AB006 AB007 AB008 AB009 AB010 AB011 AB013 AB016 AB017 AB020 AB021 AB021F",
   "AB021M AB022 AB022F AB022M AB023 AB023M AB024 AB026 AB027 AB028 AB029 AB030 AB031 AB034",
   "AB037 AB038 AB039 AB040 AB041 AB044 AB045 AB046 AB047 AB048 AB049 AB050 AB051 AB053",
   "AB054 AB055 AB056 AB057 AB058 AB059 AB060 AB061 AB065 AB066 AB067 AB069 AB070 AB073",
   "AB074 AB076 AB077 AB078 AB079 AB080 AB081 AB082 AB085 AB086 AB087 AB118 AB120 AB122",
   "AB123 AB131A AB131B AB164 AB171 AB180 AB188 AB191)) B(IDEOGRAM(B100(MAN) B102(WOMAN)",
   "B104(DEER) B105(EQUID) B105F(MARE) B105M(STALLION) B106F(EWE) B106M(RAM) B107F(SHE-GOAT)",
   "B107M(HE-GOAT) B108F(SOW) B108M(BOAR) B109F(COW) B109M(BULL) B120(WHEAT) B121(BARLEY)",
   "B122(OLIVE) B123(SPICE) B125(CYPERUS) B130(OIL) B131(WINE) B132 B140(BRONZE) B141(GOLD)",
   "B142 B145(WOOL) B146 B150 B151(HORN) B152 B153 B154 B157 B158 B159(CLOTH) B160 B161",
   "B162(GARMENT) B163(ARMOUR) B164 B165 B166 B167 B168 B169 B170 B171 B172 B173(MONTH) B174",
   "B176(TREE) B177 B178 B179 B180 B181 B182 B183 B184 B185 B189 B190 B191(HELMET)",
   "B220(FOOTSTOOL) B225(BATHTUB) B230(SPEAR) B231(ARROW) B232 B233(SWORD) B234 B236",
   "B240(WHEELED(CHARIOT)) B241(CHARIOT) B242(CHARIOT(FRAME)) B243(WHEEL) B245 B246 B248",
   "B249 B251 B252 B253 B254(DART) B255 B256 B257 B258 B259 VESSEL(B155 B200 B201 B202 B203",
   "B204 B205 B206 B207 B208 B209 B210 B211 B212 B213 B214 B215 B216 B217 B218 B219 B221",
   "B222 B226 B227 B228 B229 B250 B305)) MONOGRAM(B127(KAPO) B128(KANAKO) B133(AREPA)",
   "B135(MERI) B156(TURO2) B247(DIPTE)) SYLLABLE(B001(DA) B002(RO) B003(PA) B004(TE)",
   "B005(TO) B006(NA) B007(DI) B008(A) B009(SE) B010(U) B011(PO) B012(SO) B013(ME) B014(DO)",
   "B015(MO) B016(QA) B017(ZA) B020(ZO) B021(QI) B023(MU) B024(NE) B025(A2) B026(RU)",
   "B027(RE) B028(I) B029(PU2) B030(NI) B031(SA) B032(QO) B033(RA3) B036(JO) B037(TI)",
   "B038(E) B039(PI) B040(WI) B041(SI) B042(WO) B043(A3) B044(KE) B045(DE) B046(JE)",
   "B048(NWA) B050(PU) B051(DU) B052(NO) B053(RI) B054(WA) B055(NU) B057(JA) B058(SU)",
   "B059(TA) B060(RA) B061(O) B062(PTE) B065(JU) B066(TA2) B067(KI) B068(RO2) B069(TU)",
   "B070(KO) B071(DWE) B072(PE) B073(MI) B074(ZE) B075(WE) B076(RA2) B077(KA) B078(QE)",
   "B080(MA) B081(KU) B085(AU) B087(TWE) B090(DWO) B091(TWO)) SYMBOL(B018 B019 B022 B034",
   "B047 B049 B056 B063 B064 B079 B082 B083 B086 B089))) LINK(SYMBOL) LINKED(PAPERCLIPS)",
   "LION(FACE) LIPS LIPSTICK LIRA(SIGN) LISU(LETTER(A AE BA CA CHA DA DZA E EU FA GA GHA HA",
   "HHA I JA KA KHA LA MA NA NGA O OE PA PHA SA SHA TA THA TONE(MYA(BO CYA JEU NA TI)",
   "NA(PO)) TSA TSHA U UE UH WA XA YA YHA ZA ZHA) PUNCTUATION(COMMA FULL(STOP)))",
   "LIVRE(TOURNOIS(SIGN)) LIZARD LLAMA LOBSTER LOCK LOCK(WITH(INK(PEN))) LOCKING-SHIFT(ONE",
   "ZERO) LOGICAL(AND AND(WITH(DOT(ABOVE) DOUBLE(OVERBAR UNDERBAR) HORIZONTAL(DASH)",
   "MIDDLE(STEM) UNDERBAR)) OR OR(OVERLAPPING(LOGICAL(AND)) WITH(DOT(ABOVE) DOUBLE(OVERBAR",
   "UNDERBAR) HORIZONTAL(DASH) MIDDLE(STEM)))) LOLLIPOP",
   "LONG(DASH(FROM(LEFT(MEMBER(OF(DOUBLE(VERTICAL)))))) DIVISION DRUM LEFT(RIGHT(ARROW",
   "DOUBLE(ARROW)) TACK) LEFTWARDS(ARROW ARROW(FROM(BAR)) DOUBLE(ARROW ARROW(FROM(BAR)))",
   "SQUIGGLE(ARROW)) RIGHT(TACK) RIGHTWARDS(ARROW ARROW(FROM(BAR)) DOUBLE(ARROW",
   "ARROW(FROM(BAR))) SQUIGGLE(ARROW))) LOTION(BOTTLE) LOTUS LOUDLY(CRYING(FACE)) LOVE(HOTEL",
   "LETTER) LOW(ASTERISK BATTERY BRIGHTNESS(SYMBOL) DOUBLE(PRIME(QUOTATION(MARK))) KAVYKA",
   "KAVYKA(WITH(DOT)) LINE) LOWER(BLADE(SCISSORS) FIVE(EIGHTHS(BLOCK)) HALF(BLOCK CIRCLE",
   "INVERSE(WHITE(CIRCLE)) MEDIUM(SHADE)) LEFT(BALLPOINT(PEN)",
   "BLOCK(DIAGONAL(LOWER(MIDDLE(LEFT(TO(LOWER(CENTRE RIGHT)))))",
   "UPPER(CENTRE(TO(LOWER(MIDDLE(RIGHT) RIGHT) UPPER(MIDDLE(RIGHT)))) LEFT(TO(LOWER(CENTRE",
   "MIDDLE(RIGHT)) UPPER(MIDDLE(RIGHT)))) MIDDLE(LEFT(TO(LOWER(CENTRE MIDDLE(RIGHT)",
   "RIGHT))))))) CRAYON FOUNTAIN(PEN) PAINTBRUSH PENCIL QUADRANT(CIRCULAR(ARC))",
   "SEMICIRCULAR(ANTICLOCKWISE(ARROW)) TRIANGLE TRIANGULAR(MEDIUM(SHADE))) ONE(EIGHTH(BLOCK)",
   "QUARTER(BLOCK)) RIGHT(BLOCK(DIAGONAL(LOWER(CENTRE(TO(LOWER(MIDDLE(RIGHT))",
   "UPPER(MIDDLE(RIGHT) RIGHT))) LEFT(TO(LOWER(MIDDLE(RIGHT)) UPPER(CENTRE MIDDLE(RIGHT))))",
   "MIDDLE(LEFT(TO(UPPER(CENTRE MIDDLE(RIGHT) RIGHT))))) UPPER(MIDDLE(LEFT(TO(UPPER(CENTRE",
   "RIGHT))))))) CORNER(WITH(DOT)) DROP-SHADOWED(WHITE(SQUARE)) PENCIL",
   "QUADRANT(CIRCULAR(ARC)) SEMICIRCULAR(CLOCKWISE(ARROW)) SHADOWED(WHITE(CIRCLE SQUARE))",
   "TRIANGLE TRIANGULAR(MEDIUM(SHADE))) SEVEN(EIGHTHS(BLOCK)) THREE(EIGHTHS(BLOCK)",
   "QUARTERS(BLOCK)) TRIANGULAR(ONE(QUARTER(BLOCK)))) LOZENGE",
   "LOZENGE(DIVIDED(BY(HORIZONTAL(RULE)))) LRE LRI LRM LRO LUGGAGE LUNGS LYCIAN(LETTER(A AN",
   "B BH D E EN G H I J K KK L M MM N NN P Q R S T TH TT U W X Z)) LYDIAN(LETTER(A AN B C D",
   "E EN F G I K L LY M N NN O Q R S SS T TT U V Y) TRIANGULAR(MARK)) LYING(FACE)"]

end InstallerKit.Text.CharacterName
