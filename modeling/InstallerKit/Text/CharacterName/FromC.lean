/-!
# Names of characters: C

The names of characters in Unicode 14.0 whose first letter is C, word by
word: the words that may follow a word are in parentheses after it. A word at the end of a
name is there by itself as well.
-/

namespace InstallerKit.Text.CharacterName

/-- The names from C on. -/
def namesFromC : List String :=
  ["CACTUS CADA(UNA) CADUCEUS CALENDAR CALL(ME(HAND)) CAMERA CAMERA(WITH(FLASH)) CAMPING CAN",
   "CANADIAN(SYLLABICS(A AA AAI AAY AI AIVILIK(B) AN ATHAPASCAN(M S) AY BEAVER(DENE(L R))",
   "BIBLE-CREE(Y) BLACKFOOT(A E I KA KE KI KO NA NE NI NO O S W WA WE WI WO) C CA CAA CAAI",
   "CARRIER(CHA CHE CHEE CHI CHO CHU DEE DENE(GEE) DENTAL(S) DI DLA DLE DLEE DLI DLO DLU DZA",
   "DZE DZEE DZI DZO DZU EE GA GAA GE GEE GHA GHE GHEE GHI GHO GHU GI GO GU GWA GWU H HEE HI",
   "HWA HWE HWEE HWI HWO HWU I INITIAL(Z) JA JE JEE JI JJA JJE JJEE JJI JJO JJU JO JU JWA",
   "KHA KHE KHEE KHI KHO KHU KK KKA KKE KKEE KKI KKO KKU LA LE LEE LHA LHE LHEE LHI LHO LHU",
   "LI LO LU MA ME MEE MI MO MU NA NE NEE NG NI NO NU P PA PE PEE PI PO PU RA RE REE RI RO",
   "RU SA SE SEE SH SHA SHE SHEE SHI SHO SHU SI SO SU THA THE THEE THI THO THU TLA TLE TLEE",
   "TLHA TLHE TLHEE TLHI TLHO TLHU TLI TLO TLU TSA TSE TSEE TSI TSO TSU TTA TTE TTEE TTI TTO",
   "TTSA TTSE TTSEE TTSI TTSO TTSU TTU WA WE WEE WI WO WU YA YE YEE YI YO YU Z ZA ZE ZEE ZI",
   "ZO ZU) CE CHI(SIGN) CI CII CO COO CWA CWAA CWE CWI CWII CWO CWOO E EASTERN(W) EN F FA",
   "FAA FAAI FE FI FII FINAL(ACUTE BOTTOM(HALF(RING)) DOUBLE(ACUTE SHORT(VERTICAL(STROKES)))",
   "DOWN(TACK) GRAVE MIDDLE(DOT) PLUS RAISED(DOT) RIGHT(HALF(RING)) RING",
   "SHORT(HORIZONTAL(STROKE)) SMALL(RING) TOP(HALF(RING))) FO FOO FULL(STOP) FWAA",
   "GLOTTAL(STOP) HK HYPHEN I II IN K KA KAA KAAI KAY KE KI KII KO KOO KW KWA KWAA KWAY KWE",
   "KWI KWII KWO KWOO L LA LAA LAAI LAY LE LH LHA LHAA LHI LHII LHO LHOO LI LII LO LOO LWA",
   "LWAA LWE LWI LWII LWO LWOO M MA MAA MAAI MAY ME MEDIAL(L R) MH MI MII MO MOO",
   "MOOSE-CREE(SK) MWA MWAA MWE MWI MWII MWO MWOO N N-CREE(THE THI THII) NA NAA NAAI",
   "NASKAPI(CWAA KWAA MWAA NWAA S-W SCWA SKW SKWA SPWA STWA SWAA TWAA WAA WOO YWAA)",
   "NATTILIK(HA HAA HI HII HO HOO SHRA SHRAA SHRI SHRII SHRO SHROO) NAY NE NG NGA NGAA NGAAI",
   "NGAI NGI NGII NGO NGOO NH NI NII NNG NNGA NNGAA NNGI NNGII NNGO NNGOO NO NOO NOY",
   "NUNAVIK(H HA HAA HE HI HII HO HOO) NUNAVUT(H) NWA NWAA NWE NWI NWII NWO NWOO O OJIBWAY(C",
   "K M N NWI NWII NWO NWOO P S SH T) ON OO OY P PA PAA PAAI PAY PE PI PII PO POO POY PWA",
   "PWAA PWE PWI PWII PWO PWOO PWOY Q QA QAA QAAI QAI QI QII QO QOO R R-CREE(RE RWE) RA RAA",
   "RAAI RAY RE RI RII RO ROO RWA RWAA RWEE RWI RWII RWO RWOO S SA SAA SAAI SAY SAYISI(HA HE",
   "HI HO HOO JI JU JUU M SHA SHE SHI SHO SHOO SHWE TH YI) SE SH SHA SHAA SHAY SHE SHI SHII",
   "SHO SHOO SHOY SHWA SHWAA SHWE SHWI SHWII SHWO SHWOO SHWOY SI SII SO SOO SOUTH-SLAVEY(KAH",
   "KEH KIH KOH) SOY SPA SPE SPI SPO SW SWA SWAA SWE SWI SWII SWO SWOO T TA TAA TAAI TAY TE",
   "TH TH-CREE(TH THA THAA THE THI THII THO THOO) THA THAA THE THI THII THO THOO THWA THWAA",
   "THWE TI TII TLHA TLHE TLHI TLHO TLHOO TLHWE TO TOO TTA TTE TTH TTHA TTHAA TTHE TTHI TTHO",
   "TTHOO TTHWE TTI TTO TWA TWAA TWE TWI TWII TWO TWOO TYA TYE TYI TYO WA WAA WAY WE",
   "WEST-CREE(CWA CWAA CWE CWI CWII CWO CWOO FWAA KWA KWAA KWE KWI KWII KWO KWOO L LA LAA LE",
   "LO LOO LWA LWAA LWE LWI LWII LWO LWOO M MWA MWAA MWE MWI MWII MWO MWOO NWA NWAA NWE P",
   "PWA PWAA PWE PWI PWII PWO PWOO R RA RE RI RO RWAA SHWA SHWAA SHWE SHWI SHWII SHWO SHWOO",
   "SWA SWAA SWE SWI SWII SWO SWOO THWAA TWA TWAA TWE TWI TWII TWO TWOO WA WAA WE WI WII WO",
   "WOO Y YWA YWAA YWE YWI YWII YWO YWOO) WESTERN(W) WI WII WO WOO WOODS-CREE(FINAL(TH) TH",
   "THA THE THI THO THWA THWAA THWEE THWI THWII THWO THWOO) Y Y-CREE(COO KOO LOO MOO NOO OO",
   "POO PWAA SOO TOO W YOO) YA YAA YAAI YAY YE YI YII YO YOO YOY YWA YWAA YWE YWI YWII YWO",
   "YWOO)) CANCEL CANCEL(CHARACTER TAG) CANCELLATION(X) CANCER CANDLE CANDY CANNED(FOOD)",
   "CANOE CAPITULUM CAPRICORN CAR(SLIDING) CARD(FILE(BOX) INDEX INDEX(DIVIDERS)) CARE(OF)",
   "CARET CARET(INSERTION(POINT)) CARIAN(LETTER(A A2 B C-18 C-39 D D2 E E2 G G2 I II K K2 L",
   "LD LD2 M MB MB2 MB3 MB4 N ND NG NN O P P2 Q R RR S SH SH2 SS ST ST2 T TT TT2 U UU UUU",
   "UUU2 UUU3 UUUU X)) CARON CAROUSEL(HORSE) CARP(STREAMER) CARPENTRY(SAW) CARRIAGE(RETURN)",
   "CARROT CASTLE CAT CAT(FACE FACE(WITH(TEARS(OF(JOY)) WRY(SMILE))))",
   "CAUCASIAN(ALBANIAN(CITATION(MARK) LETTER(ALT AOR BET CAR CAYN CHA CHAT CHI CHOY CYAW",
   "CYAY DAT DYAN DZAY DZYAY EB EYN FAM GHEYS GIM HEYT INYA IRB IWN JAYN JHOX KAR KIW LAN",
   "LYIT MAQ NOWC ON PEN PIWR QAR QAY RAT SEYK SHA SHAK SHOY TAS TIWR TYAY VEYZ XEYN YAYD",
   "YOWD ZARL ZHA ZHIL))) CAUTION(SIGN) CCH CEDI(SIGN) CEDILLA CELTIC(CROSS) CENT(SIGN)",
   "CENTRE(LINE(SYMBOL)) CENTRELINE(LOW(LINE) OVERLINE) CERES CGJ CHAINS CHAIR",
   "CHAKMA(AU(MARK) DANDA DIGIT(EIGHT FIVE FOUR NINE ONE SEVEN SIX THREE TWO ZERO)",
   "DOUBLE(DANDA) LETTER(AA BAA BHAA CAA CHAA DAA DDAA DDHAA DHAA E GAA GHAA HAA I JAA JHAA",
   "KAA KHAA LAA LHAA MAA NAA NGAA NNAA NYAA PAA PHAA RAA SAA TAA THAA TTAA TTHAA U VAA WAA",
   "YAA YYAA) MAAYYAA O(MARK) QUESTION(MARK) SECTION(MARK) SIGN(ANUSVARA CANDRABINDU",
   "VISARGA) VIRAMA VOWEL(SIGN(A AA AI AU E EI I II O OI U UU))) CHAM(CONSONANT(SIGN(FINAL(H",
   "M NG) LA RA WA YA)) DIGIT(EIGHT FIVE FOUR NINE ONE SEVEN SIX THREE TWO ZERO) LETTER(A AI",
   "BA BBA BHA CHA CHHA DA DDA DHA E FINAL(CH G K L N NG P R SS T Y) GA GHA HA I JA JHA KA",
   "KHA LA MA MUE NA NGA NGUE NHA NHJA NHUE NUE O PA PHA PPA RA SA SSA TA THA U VA YA)",
   "PUNCTUATION(DANDA DOUBLE(DANDA) SPIRAL TRIPLE(DANDA)) VOWEL(SIGN(AA AI AU EI I II O OE U",
   "UE))) CHARACTER(TABULATION TABULATION(SET WITH(JUSTIFICATION)) TIE)",
   "CHART(WITH(DOWNWARDS(TREND) UPWARDS(TREND TREND(AND(YEN(SIGN)))))) CHECK(MARK)",
   "CHECKER(BOARD BOARD(FILL)) CHEERING(MEGAPHONE) CHEESE(WEDGE) CHEQUERED(FLAG)",
   "CHEROKEE(LETTER(A DA DE DI DLA DO DU DV E GA GE GI GO GU GV HA HE HI HNA HO HU HV I KA",
   "LA LE LI LO LU LV MA ME MI MO MU MV NA NAH NE NI NO NU NV O QUA QUE QUI QUO QUU QUV S SA",
   "SE SI SO SU SV TA TE TI TLA TLE TLI TLO TLU TLV TSA TSE TSI TSO TSU TSV U V WA WE WI WO",
   "WU WV YA YE YI YO YU YV) SMALL(LETTER(A DA DE DI DLA DO DU DV E GA GE GI GO GU GV HA HE",
   "HI HNA HO HU HV I KA LA LE LI LO LU LV MA ME MI MO MU MV NA NAH NE NI NO NU NV O QUA QUE",
   "QUI QUO QUU QUV S SA SE SI SO SU SV TA TE TI TLA TLE TLI TLO TLU TLV TSA TSE TSI TSO TSU",
   "TSV U V WA WE WI WO WU WV YA YE YI YO YU YV))) CHERRIES CHERRY(BLOSSOM) CHESTNUT",
   "CHI(RHO) CHICKEN CHILD CHILDREN(CROSSING) CHIPMUNK CHIRON CHOCOLATE(BAR) CHOPSTICKS",
   "CHORASMIAN(LETTER(ALEPH AYIN BETH CURLED(WAW) DALETH GIMEL HE HETH KAPH LAMEDH MEM NUN",
   "PE RESH SAMEKH SHIN SMALL(ALEPH) TAW WAW YODH ZAYIN) NUMBER(FOUR ONE ONE(HUNDRED) TEN",
   "THREE TWENTY TWO)) CHRISTMAS(TREE) CHURCH CINEMA",
   "CIRCLE(DIVIDED(BY(HORIZONTAL(BAR(AND(TOP(HALF(DIVIDED(BY(VERTICAL(BAR))))))))))",
   "WITH(ALL(BUT(UPPER(LEFT(QUADRANT(BLACK))))) HORIZONTAL(BAR) LEFT(HALF(BLACK))",
   "LOWER(HALF(BLACK)) RIGHT(HALF(BLACK)) SMALL(CIRCLE(TO(THE(RIGHT)))) SUPERIMPOSED(X)",
   "TWO(HORIZONTAL(STROKES(TO(THE(RIGHT))))) UPPER(HALF(BLACK) RIGHT(QUADRANT(BLACK)))",
   "VERTICAL(FILL))) CIRCLED(ANTICLOCKWISE(ARROW) ANTICLOCKWISE-ROTATED(DIVISION(SIGN))",
   "ASTERISK(OPERATOR) BOLD(X) BULLET C(WITH(OVERLAID(BACKSLASH))) CC CD CROSS(FORMEE",
   "FORMEE(WITH(FOUR(DOTS) TWO(DOTS))) POMMEE) CROSSING(LANES) DASH DIGIT(EIGHT FIVE FOUR",
   "NINE ONE SEVEN SIX THREE TWO ZERO) DIVISION(SIGN SLASH)",
   "DOLLAR(SIGN(WITH(OVERLAID(BACKSLASH)))) DOT(OPERATOR) EQUALS GREATER-THAN HANGUL(CHIEUCH",
   "CHIEUCH(A) CIEUC CIEUC(A) HIEUH HIEUH(A) IEUNG IEUNG(A U) KHIEUKH KHIEUKH(A) KIYEOK",
   "KIYEOK(A) MIEUM MIEUM(A) NIEUN NIEUN(A) PHIEUPH PHIEUPH(A) PIEUP PIEUP(A) RIEUL RIEUL(A)",
   "SIOS SIOS(A) THIEUTH THIEUTH(A) TIKEUT TIKEUT(A)) HEAVY(WHITE(RIGHTWARDS(ARROW)))",
   "HORIZONTAL(BAR(WITH(NOTCH))) HUMAN(FIGURE) IDEOGRAPH(ACCEPT ADVANTAGE ALLIANCE ATTENTION",
   "CENTRE CONGRATULATION COPY CORRECT EARTH EIGHT ENTERPRISE EXCELLENT FEMALE FINANCIAL",
   "FIRE FIVE FOUR HAVE HIGH ITEM KINDERGARTEN KOTO LABOR LEFT LOW MALE MEDICINE METAL MOON",
   "NAME NIGHT NINE ONE PRINT QUESTION RELIGION RESOURCE REST RIGHT SCHOOL SECRET SEVEN SIX",
   "SOCIETY SPECIAL STOCK STUDY SUITABLE SUN SUPERVISE TEN THREE TWO WATER WOOD)",
   "INFORMATION(SOURCE) ITALIC(LATIN(CAPITAL(LETTER(C R)))) KATAKANA(A E HA HE HI HO HU I KA",
   "KE KI KO KU MA ME MI MO MU NA NE NI NO NU O RA RE RI RO RU SA SE SI SO SU TA TE TI TO TU",
   "U WA WE WI WO YA YO YU) KOREAN(CHARACTER(CHAMKO JUEUI)) LATIN(CAPITAL(LETTER(A B C D E F",
   "G H I J K L M N O P Q R S T U V W X Y Z)) SMALL(LETTER(A B C D E F G H I J K L M N O P Q",
   "R S T U V W X Y Z))) LESS-THAN MINUS MULTIPLICATION(SIGN(WITH(CIRCUMFLEX(ACCENT))))",
   "NUMBER(EIGHTEEN EIGHTY(ON(BLACK(SQUARE))) ELEVEN FIFTEEN FIFTY FIFTY(ON(BLACK(SQUARE)))",
   "FORTY FORTY(EIGHT FIVE FOUR NINE ON(BLACK(SQUARE)) ONE SEVEN SIX THREE TWO) FOURTEEN",
   "NINETEEN SEVENTEEN SEVENTY(ON(BLACK(SQUARE))) SIXTEEN SIXTY(ON(BLACK(SQUARE))) TEN",
   "TEN(ON(BLACK(SQUARE))) THIRTEEN THIRTY THIRTY(EIGHT FIVE FOUR NINE ON(BLACK(SQUARE)) ONE",
   "SEVEN SIX THREE TWO) TWELVE TWENTY TWENTY(EIGHT FIVE FOUR NINE ON(BLACK(SQUARE)) ONE",
   "SEVEN SIX THREE TWO)) OPEN(CENTRE(EIGHT(POINTED(STAR)))) PARALLEL PERPENDICULAR PLUS",
   "POSTAL(MARK) REVERSE(SOLIDUS) RING(OPERATOR) SQUARE TIMES TRIANGLE TRIANGLE(DOWN)",
   "VERTICAL(BAR) WHITE(BULLET STAR) WZ X ZERO(WITH(SLASH))) CIRCULATION(FUNCTION)",
   "CIRCUMFLEX(ACCENT) CIRCUS(TENT) CITYSCAPE CITYSCAPE(AT(DUSK)) CJK(RADICAL(BAMBOO BLUE",
   "BOLT(OF(CLOTH)) BONE BOX BRUSH(ONE TWO) C-SIMPLIFIED(BIRD CART DRAGON EAT EVEN FISH FLY",
   "FROG GATE GOLD HORSE LEAF LONG SALT SEE SHELL SILK SPEECH TANNED(LEATHER) TOOTH TURTLE",
   "WIND) CHOKE CITY CIVILIAN CLIFF CLOTHES COW DEATH DIVINATION DOG EAT(ONE THREE TWO) EWE",
   "EYE FIRE FOOT GHOST GRASS(ONE THREE TWO) HAND HEAD HEART(ONE TWO) HORN",
   "J-SIMPLIFIED(DRAGON EVEN TOOTH TURTLE) JADE KNIFE(ONE TWO) LAME(FOUR ONE THREE TWO)",
   "LONG(ONE TWO) MEAT MESH MOON MORTAR MOTHER MOUND(ONE TWO) NET(FOUR ONE THREE TWO) OLD",
   "PAW(ONE TWO) PERSON RAIN RAM RAP REPEAT SEAL SECOND(ONE THREE TWO) SHEEP SILK",
   "SIMPLIFIED(HALF(TREE(TRUNK)) HORN WALK WHEAT YELLOW) SMALL(ONE TWO) SNAKE SNOUT(ONE TWO)",
   "SPIRIT(ONE TWO) SUN TABLE THREAD TIGER TURTLE WALK(ONE TWO) WATER(ONE TWO) WEST(ONE",
   "TWO)) STROKE(BXG D H HG HP HPWG HXWG HZ HZG HZT HZW HZWG HZZ HZZP HZZZ HZZZG N P PD PG",
   "PZ Q S SG SP ST SW SWG SWZ SZ SZWG SZZ T TN WG XG)) CLAMSHELL(MOBILE(PHONE))",
   "CLAPPER(BOARD) CLAPPING(HANDS(SIGN)) CLASSICAL(BUILDING) CLEAR(SCREEN(SYMBOL))",
   "CLINKING(BEER(MUGS) GLASSES) CLIPBOARD CLOCK(FACE(EIGHT(OCLOCK) EIGHT-THIRTY",
   "ELEVEN(OCLOCK) ELEVEN-THIRTY FIVE(OCLOCK) FIVE-THIRTY FOUR(OCLOCK) FOUR-THIRTY",
   "NINE(OCLOCK) NINE-THIRTY ONE(OCLOCK) ONE-THIRTY SEVEN(OCLOCK) SEVEN-THIRTY SIX(OCLOCK)",
   "SIX-THIRTY TEN(OCLOCK) TEN-THIRTY THREE(OCLOCK) THREE-THIRTY TWELVE(OCLOCK)",
   "TWELVE-THIRTY TWO(OCLOCK) TWO-THIRTY)) CLOCKWISE(CLOSED(CIRCLE(ARROW)) CONTOUR(INTEGRAL)",
   "DOWNWARDS(AND(UPWARDS(OPEN(CIRCLE(ARROWS))))) GAPPED(CIRCLE(ARROW)) INTEGRAL",
   "OPEN(CIRCLE(ARROW)) RIGHT(AND(LEFT(SEMICIRCLE(ARROWS))))",
   "RIGHTWARDS(AND(LEFTWARDS(OPEN(CIRCLE(ARROWS ARROWS(WITH(CIRCLED(ONE(OVERLAY)))))))))",
   "TOP(SEMICIRCLE(ARROW)) TRIANGLE-HEADED(OPEN(CIRCLE(ARROW)))) CLOSE(UP) CLOSED(BOOK",
   "INTERSECTION(WITH(SERIFS)) LOCK(WITH(KEY)) MAILBOX(WITH(LOWERED(FLAG) RAISED(FLAG)))",
   "SUBSET SUBSET(OR(EQUAL(TO))) SUPERSET SUPERSET(OR(EQUAL(TO))) UMBRELLA UNION(WITH(SERIFS",
   "SERIFS(AND(SMASH(PRODUCT)))))) CLOUD CLOUD(WITH(LIGHTNING RAIN SNOW TORNADO))",
   "CLOWN(FACE) COAT COCKROACH COCKTAIL(GLASS) COCONUT COFFIN COIN COLLISION(SYMBOL) COLON",
   "COLON(EQUALS SIGN) COMBINING(ACUTE(ACCENT ACCENT(BELOW) TONE(MARK)) ACUTE-GRAVE-ACUTE",
   "ACUTE-MACRON ALMOST(EQUAL(TO(ABOVE BELOW))) ANNUITY(SYMBOL) ANTICLOCKWISE(ARROW(ABOVE)",
   "RING(OVERLAY)) ASTERISK(ABOVE BELOW) BINDU(BELOW) BREVE BREVE(BELOW) BREVE-MACRON",
   "BRIDGE(ABOVE BELOW) CANDRABINDU CARON CARON(BELOW) CEDILLA CIRCUMFLEX(ACCENT",
   "ACCENT(BELOW)) CLOCKWISE(ARROW(ABOVE) RING(OVERLAY)) COMMA(ABOVE ABOVE(RIGHT) BELOW)",
   "CONJOINING(MACRON MACRON(BELOW)) CYRILLIC(DASIA(PNEUMATA) HUNDRED(MILLIONS(SIGN)",
   "THOUSANDS(SIGN)) KAVYKA LETTER(A BE BIG(YUS) CHE DE DJERV EF EL EM EN ER ES ES-TE FITA",
   "GHE HA HARD(SIGN) I IE IOTIFIED(A BIG(YUS) E) KA LITTLE(YUS) MONOGRAPH(UK) O OMEGA PE",
   "SHA SHCHA SOFT(SIGN) TE TSE U UKRAINIAN(IE) VE YAT YERU YI YU ZE ZHE) MILLIONS(SIGN)",
   "PALATALIZATION PAYEROK POKRYTIE PSILI(PNEUMATA) TEN(MILLIONS(SIGN))",
   "THOUSAND(MILLIONS(SIGN)) TITLO TITLO(LEFT(HALF) RIGHT(HALF)) VZMET) DELETION(MARK)",
   "DEVANAGARI(DIGIT(EIGHT FIVE FOUR NINE ONE SEVEN SIX THREE TWO ZERO) LETTER(A KA NA PA RA",
   "U VI) SIGN(AVAGRAHA)) DIAERESIS DIAERESIS(BELOW) DIAERESIS-RING DOT(ABOVE ABOVE(LEFT",
   "RIGHT) BELOW BELOW(LEFT)) DOTTED(ACUTE(ACCENT) GRAVE(ACCENT)) DOUBLE(ACUTE(ACCENT) BREVE",
   "BREVE(BELOW) CIRCUMFLEX(ABOVE) GRAVE(ACCENT) INVERTED(BREVE BREVE(BELOW)) LOW(LINE)",
   "MACRON MACRON(BELOW) OPEN(MARK(BELOW)) OVERLINE PARENTHESES(ABOVE) PLUS(SIGN(ABOVE",
   "BELOW)) RIGHTWARDS(ARROW(BELOW)) RING(BELOW) TILDE TILDE(LEFT(HALF) RIGHT(HALF))",
   "VERTICAL(LINE(ABOVE BELOW) STROKE(OVERLAY))) DOUBLED(CIRCUMFLEX(ACCENT))",
   "DOWN(TACK(BELOW)) DOWNWARDS(ARROW) ENCLOSING(CIRCLE CIRCLE(BACKSLASH) DIAMOND KEYCAP",
   "SCREEN SQUARE UPWARD(POINTING(TRIANGLE))) EQUALS(SIGN(BELOW)) FERMATA FOUR(DOTS(ABOVE))",
   "GLAGOLITIC(LETTER(AZU BIG(YUS) BUKY CHRIVI DJERVI DOBRO FITA FRITU GLAGOLI HERU I",
   "INITIAL(IZHE) IOTATED(BIG(YUS) SMALL(YUS)) IZHE KAKO LJUDIJE MYSLITE NASHI ONU POKOJI",
   "RITSI SHA SHTA SLOVO SMALL(YUS) TSI TVRIDO UKU VEDE YATI YERI YERU YESTU YO YU ZEMLJA",
   "ZHIVETE)) GRANTHA(DIGIT(FIVE FOUR ONE SIX THREE TWO ZERO) LETTER(A KA NA PA VI))",
   "GRAPHEME(JOINER) GRAVE(ACCENT ACCENT(BELOW) TONE(MARK)) GRAVE-ACUTE-GRAVE GRAVE-MACRON",
   "GREEK(DIALYTIKA(TONOS) KORONIS MUSICAL(PENTASEME TETRASEME TRISEME) PERISPOMENI",
   "YPOGEGRAMMENI) HOMOTHETIC(ABOVE) HOOK(ABOVE) HORN INFINITY INVERTED(BREVE BREVE(BELOW)",
   "BRIDGE(BELOW) DOUBLE(ARCH(ABOVE BELOW))) IS(BELOW)",
   "KATAKANA-HIRAGANA(SEMI-VOICED(SOUND(MARK)) VOICED(SOUND(MARK))) KAVYKA(ABOVE(LEFT",
   "RIGHT)) LATIN(LETTER(SMALL(CAPITAL(G L M N R))) SMALL(LETTER(A A(WITH(DIAERESIS)) AE",
   "ALPHA AO AV B BETA C C(CEDILLA) D E ESH ETH F FLATTENED(OPEN(A(ABOVE))) G H I INSULAR(D",
   "G R T) K L L(WITH(DOUBLE(MIDDLE(TILDE)))) LONG(S) M N O O(WITH(DIAERESIS",
   "LIGHT(CENTRALIZATION(STROKE)))) P R R(BELOW ROTUNDA) S SCHWA T TURNED(W(BELOW)) U",
   "U(WITH(DIAERESIS LIGHT(CENTRALIZATION(STROKE)))) V W W(BELOW) X Z))) LEFT(ANGLE(ABOVE",
   "BELOW) ARROW(ABOVE BELOW) ARROWHEAD(ABOVE BELOW) HALF(RING(ABOVE BELOW)) HARPOON(ABOVE)",
   "PARENTHESIS(ABOVE(LEFT) BELOW(LEFT)) RIGHT(ARROW(ABOVE BELOW)) TACK(BELOW))",
   "LEFTWARDS(ARROW(OVERLAY) HARPOON(WITH(BARB(DOWNWARDS)))) LIGATURE(LEFT(HALF HALF(BELOW))",
   "RIGHT(HALF HALF(BELOW))) LIGHT(CENTRALIZATION(STROKE(BELOW)))",
   "LONG(DOUBLE(SOLIDUS(OVERLAY)) SOLIDUS(OVERLAY) STROKE(OVERLAY) VERTICAL(LINE(OVERLAY)))",
   "LOW(LINE) MACRON MACRON(BELOW LEFT(HALF HALF(BELOW)) RIGHT(HALF HALF(BELOW)))",
   "MACRON-ACUTE MACRON-BREVE MACRON-GRAVE MINUS(SIGN(BELOW)) NOT(TILDE(ABOVE))",
   "NUMBER(SIGN(ABOVE)) OGONEK OGONEK(ABOVE) OLD(PERMIC(LETTER(AN DOI NENOE SII ZATA)))",
   "OPEN(MARK(BELOW)) OVERLINE PALATALIZED(HOOK(BELOW)) PARENTHESES(ABOVE BELOW OVERLAY)",
   "PLUS(SIGN(ABOVE BELOW)) RETROFLEX(HOOK(BELOW)) REVERSE(SOLIDUS(OVERLAY))",
   "REVERSED(COMMA(ABOVE)) RIGHT(ARROW(ABOVE BELOW) ARROWHEAD(ABOVE",
   "AND(DOWN(ARROWHEAD(BELOW)) UP(ARROWHEAD(BELOW))) BELOW) HALF(RING(ABOVE BELOW))",
   "HARPOON(ABOVE) PARENTHESIS(ABOVE(RIGHT) BELOW(RIGHT)) TACK(BELOW))",
   "RIGHTWARDS(HARPOON(WITH(BARB(DOWNWARDS)))) RING(ABOVE BELOW OVERLAY) SEAGULL(BELOW)",
   "SHORT(SOLIDUS(OVERLAY) STROKE(OVERLAY) VERTICAL(LINE(OVERLAY))) SNAKE(BELOW)",
   "SQUARE(BELOW BRACKETS(ABOVE)) STRONG(CENTRALIZATION(STROKE(BELOW))) SUSPENSION(MARK)",
   "THREE(DOTS(ABOVE)) TILDE TILDE(BELOW LEFT(HALF(BELOW)) OVERLAY RIGHT(HALF(BELOW)))",
   "TRIPLE(ACUTE(ACCENT) DOT UNDERDOT) TURNED(COMMA(ABOVE)) UP(TACK(ABOVE BELOW))",
   "UPWARDS(ARROW(BELOW)) UR(ABOVE) US(ABOVE) VERTICAL(LINE(ABOVE BELOW) TILDE)",
   "WIDE(BRIDGE(ABOVE) INVERTED(BRIDGE(BELOW))) WIGGLY(LINE(BELOW)) X(ABOVE BELOW)",
   "X-X(BELOW) ZIGZAG(ABOVE BELOW)) COMET COMMA COMMERCIAL(AT MINUS(SIGN)) COMPASS",
   "COMPLEMENT COMPOSITION(SYMBOL) COMPRESSION CONFETTI(BALL) CONFOUNDED(FACE)",
   "CONFUSED(FACE) CONGRUENT(WITH(DOT(ABOVE))) CONICAL(TAPER) CONJUNCTION CONSTRUCTION(SIGN",
   "WORKER) CONTAINS(AS(MEMBER NORMAL(SUBGROUP SUBGROUP(OR(EQUAL(TO)))))",
   "WITH(LONG(HORIZONTAL(STROKE)) OVERBAR VERTICAL(BAR(AT(END(OF(HORIZONTAL(STROKE))))))))",
   "CONTINUOUS(UNDERLINE(SYMBOL)) CONTOUR(INTEGRAL) CONTROL(KNOBS SEQUENCE(INTRODUCER))",
   "CONVENIENCE(STORE) COOKED(RICE) COOKIE COOKING COPTIC(CAPITAL(LETTER(AKHMIMIC(KHEI) ALFA",
   "BOHAIRIC(KHEI) CROSSED(SHEI) CRYPTOGRAMMIC(EIE GANGIA NI SHEI) DALDA DEI DIALECT-P(ALEF",
   "HORI KAPA NI) EIE FEI FI GAMMA GANGIA HATE HORI IAUDA KAPA KHEI KHI KSI L-SHAPED(HA)",
   "LAULA MI NI O OLD(COPTIC(AIN DJA ESH GANGIA HA HAT HEI HORI OOU SHEI SHIMA) NUBIAN(NGI",
   "NYI SHIMA WAU)) OOU PI PSI RO SAMPI SHEI SHIMA SIMA SOU TAU THETHE UA VIDA ZATA))",
   "COMBINING(NI(ABOVE) SPIRITUS(ASPER LENIS)) EPACT(DIGIT(EIGHT FIVE FOUR NINE ONE SEVEN",
   "SIX THREE TWO) NUMBER(EIGHT(HUNDRED) EIGHTY FIFTY FIVE(HUNDRED) FORTY FOUR(HUNDRED)",
   "NINE(HUNDRED) NINETY ONE(HUNDRED) SEVEN(HUNDRED) SEVENTY SIX(HUNDRED) SIXTY TEN THIRTY",
   "THREE(HUNDRED) TWENTY TWO(HUNDRED)) THOUSANDS(MARK)) FRACTION(ONE(HALF)) FULL(STOP)",
   "MORPHOLOGICAL(DIVIDER) OLD(NUBIAN(DIRECT(QUESTION(MARK)) FULL(STOP)",
   "INDIRECT(QUESTION(MARK)) VERSE(DIVIDER))) SMALL(LETTER(AKHMIMIC(KHEI) ALFA",
   "BOHAIRIC(KHEI) CROSSED(SHEI) CRYPTOGRAMMIC(EIE GANGIA NI SHEI) DALDA DEI DIALECT-P(ALEF",
   "HORI KAPA NI) EIE FEI FI GAMMA GANGIA HATE HORI IAUDA KAPA KHEI KHI KSI L-SHAPED(HA)",
   "LAULA MI NI O OLD(COPTIC(AIN DJA ESH GANGIA HA HAT HEI HORI OOU SHEI SHIMA) NUBIAN(NGI",
   "NYI SHIMA WAU)) OOU PI PSI RO SAMPI SHEI SHIMA SIMA SOU TAU THETHE UA VIDA ZATA))",
   "SYMBOL(KAI KHI(RO) MI(RO) PI(RO) SHIMA(SIMA) STAUROS TAU(RO))) COPYLEFT(SYMBOL)",
   "COPYRIGHT(SIGN) CORAL CORNISH(VERSE(DIVIDER)) CORRESPONDS(TO) COUCH(AND(LAMP))",
   "COUNTERBORE COUNTERSINK COUNTING(ROD(TENS(DIGIT(EIGHT FIVE FOUR NINE ONE SEVEN SIX THREE",
   "TWO)) UNIT(DIGIT(EIGHT FIVE FOUR NINE ONE SEVEN SIX THREE TWO)))) COUPLE(WITH(HEART))",
   "COW COW(FACE) CR CRAB CREDIT(CARD) CRESCENT(MOON) CRICKET CRICKET(BAT(AND(BALL)))",
   "CROCODILE CROISSANT CROSS(MARK OF(JERUSALEM LORRAINE) PATTY(WITH(LEFT(CROSSBAR)",
   "RIGHT(CROSSBAR))) POMMEE POMMEE(WITH(HALF-CIRCLE(BELOW)))) CROSSED(FLAGS",
   "NEGATIVE(SQUARED(LATIN(CAPITAL(LETTER(P))))) SWORDS) CROSSING(LANES) CROWN CRUTCH",
   "CRUZEIRO(SIGN) CRYING(CAT(FACE) FACE) CRYSTAL(BALL) CSI CUBE(ROOT) CUCUMBER",
   "CUNEIFORM(NUMERIC(SIGN(EIGHT(ASH DISH GESH2 SHAR2 U U(VARIANT(FORM)) VARIANT(FORM(USSU",
   "USSU3))) ELAMITE(FIFTY FORTY ONE(THIRD) TWO(THIRDS)) FIVE(ASH ASH(TENU) BAN2",
   "BAN2(VARIANT(FORM)) BURU DISH GESH2 GESHU SHAR2 SHARU SIXTHS(DISH) U U(VARIANT(FORM)))",
   "FOUR(ASH ASH(TENU) BAN2 BAN2(VARIANT(FORM)) BURU DISH GESH2 GESHU SHAR2 SHARU U",
   "U(VARIANT(FORM)) VARIANT(FORM(LIMMU LIMMU(A B) LIMMU4))) NIGIDAESH NIGIDAMIN NINE(ASH",
   "DISH GESH2 SHAR2 U U(VARIANT(FORM)) VARIANT(FORM(ILIMMU ILIMMU(A) ILIMMU3 ILIMMU4)))",
   "OLD(ASSYRIAN(ONE(QUARTER SIXTH))) ONE(BAN2 BURU EIGHTH(ASH) ESHE3 GESH2 GESHU HALF(GUR)",
   "QUARTER(ASH GUR) SHARU THIRD(DISH VARIANT(FORM(A)))) SEVEN(ASH DISH GESH2 SHAR2 U",
   "U(VARIANT(FORM)) VARIANT(FORM(IMIN(A B) IMIN3))) SHAR2(TIMES(GAL(PLUS(DISH MIN))))",
   "SIX(ASH ASH(TENU) DISH GESH2 SHAR2 U U(VARIANT(FORM)) VARIANT(FORM(ASH9))) THREE(ASH",
   "ASH(TENU) BAN2 BURU BURU(VARIANT(FORM)) DISH GESH2 GESHU SHAR2 SHAR2(VARIANT(FORM))",
   "SHARU SHARU(VARIANT(FORM)) VARIANT(FORM(ESH16 ESH21))) TWO(ASH ASH(TENU) BAN2 BURU ESHE3",
   "GESH2 GESHU SHAR2 SHARU THIRDS(DISH VARIANT(FORM(A)))))) PUNCTUATION(SIGN(DIAGONAL(COLON",
   "QUADCOLON TRICOLON) OLD(ASSYRIAN(WORD(DIVIDER))) VERTICAL(COLON))) SIGN(A A(TIMES(A BAD",
   "GAN2(TENU) HA IGI LAGAR(GUNU) MUSH SAG)) A2 AB AB(GUNU TIMES(ASH2 DUN3(GUNU) GAL",
   "GAN2(TENU) HA IGI(GUNU) IMIN LAGAB NUN NUN(TENU) SHESH SHU2 U(PLUS(U(PLUS(U)))))) AB2",
   "AB2(TIMES(A BALAG GAN2(TENU) ME(PLUS(EN)) SHA3 TAK4)) AD AD(TIMES(ESH2)) AK",
   "AK(TIMES(ERIN2 SHITA(PLUS(GISH)))) AL AL(TIMES(AL DIM2 GISH HA KAD3 KI SHE USH)) ALAN",
   "ALEPH AMAR AMAR(TIMES(KUG SHE)) AN AN(OVER(AN) PLUS(NAGA(OPPOSING(AN(PLUS(NAGA)))",
   "SQUARED)) THREE(TIMES)) ANSHE APIN ARAD ARAD(TIMES(KUR)) ARKAB ASAL2 ASH ASH(KABA(TENU)",
   "OVER(ASH(OVER(ASH ASH(CROSSING(ASH(OVER(ASH(OVER(ASH)))))))",
   "TUG2(OVER(TUG2(TUG2(OVER(TUG2(PAP)))))))) ZIDA(TENU)) ASH2 ASHGAB BA BAD",
   "BAD(TIMES(DISH(TENU))) BAG3 BAHAR2 BAHAR2(TIMES(AB2 NI ZA)) BAL BAL(OVER(BAL)) BALAG BAR",
   "BARA2 BI BI(TIMES(A GAR IGI(GUNU))) BU BU(CROSSING(BU) OVER(BU(AB TIMES(NA2) UN))) BULUG",
   "BULUG(OVER(BULUG)) BUR BUR2 DA DA(TIMES(TAK4)) DAG DAG(KISIM5(TIMES(A(PLUS(MASH)) AMAR",
   "BALAG BI GA GA(PLUS(MASH)) GI GIR2 GUD HA IR IR(PLUS(LU)) KAK LA LU LU(PLUS(MASH2)) LUM",
   "NE PAP(PLUS(PAP)) SI TAK4 U2(PLUS(GIR2 MASH)) USH)) TIMES(KUR)) DAG3 DAM DAR DARA3 DARA4",
   "DI DIB DIM DIM(TIMES(IGI SHE U(U(U)))) DIM2 DIM2(TIMES(UD)) DIN",
   "DIN(KASKAL(U(GUNU(DISH)))) DISH DISH(PLUS(SHU)) DU DU(GUNU OVER(DU) SHESHIG) DUB",
   "DUB(TIMES(ESH2 SHE)) DUB2 DUG DUG(TIMES(ANSHE ASH ASH(AT(LEFT)) DIN DUN ERIN2 GA GI",
   "GIR2(GUNU) GISH HA HI IGI(GUNU) KASKAL KUR KUSHU2 KUSHU2(PLUS(KASKAL)) LAK-020 LAM",
   "LAM(TIMES(KUR)) LUH(PLUS(GISH)) MASH MES MI NI PI SHE SI(GUNU))) DUGUD DUH DUN DUN3",
   "DUN3(GUNU GUNU(GUNU)) DUN4 DUR2 E E(OVER(E(NUN(OVER(NUN)))) TIMES(PAP)) E2",
   "E2(TIMES(A(PLUS(HA(PLUS(DA)))) GAR KUR MI PAP SAL SHE U)) EDIN EGIR EL EN",
   "EN(CROSSING(EN) OPPOSING(EN) SQUARED TIMES(GAN2 GAN2(TENU) ME)) EREN ERIN2 ERIN2(X) ESH2",
   "ESH2(CROSSING(ESH2)) EZEN EZEN(SHESHIG(TIMES(ASH HI IGI(GUNU) LA LAL ME MES SU)) TIMES(A",
   "A(PLUS(LAL LAL(TIMES(LAL)))) AN BAD DUN3(GUNU GUNU(GUNU)) GUD HA HA(GUNU) IGI(GUNU)",
   "KASKAL KASKAL(SQUARED) KU3 LA LAL(TIMES(LAL)) LI LU SHE SU U2 UD)) GA GA(GUNU) GA2",
   "GA2(OVER(GA2) TIMES(A(PLUS(DA(PLUS(HA)) HA IGI)) AB2(TENU(PLUS(TAB))) AN",
   "AN(PLUS(KAK(PLUS(A)))) ASH ASH2 ASH2(PLUS(GAL)) BAD BAHAR2 BAR(PLUS(RA)) BUR",
   "BUR(PLUS(RA)) DA DI DIM(GUNU TIMES(SHE)) DUB DUG(TIMES(IGI(GUNU) KASKAL)) EL",
   "EL(PLUS(LA)) EN EN(TIMES(GAN2(TENU))) EREN GA GAN2(TENU) GAR GAR(PLUS(DI NE)) GI GI4",
   "GI4(PLUS(A)) GIR2(PLUS(SU)) HA(PLUS(A LU(PLUS(ESH2)))) HAL HAL(PLUS(LA)) HI(PLUS(LI))",
   "HUB2 IGI(GUNU) ISH(PLUS(HU(PLUS(ASH)))) KAK KASKAL KID KID(PLUS(LAL)) KU3(PLUS(AN))",
   "KUSHU2(PLUS(KASKAL)) LA LAM LAM(TIMES(KUR)) LUH ME(PLUS(EN)) MI MUSH NE NE(PLUS(E2 GI))",
   "NUN NUN(OVER(NUN)) PA SAL SAR SHE SHE(PLUS(TUR)) SHID SHIM SUM TAK4 U UD UD(PLUS(DU))",
   "ZIZ2)) GABA GABA(CROSSING(GABA) ROTATED(NINETY(DEGREES))) GAD",
   "GAD(OVER(GAD(GAR(OVER(GAR))))) GAL GAL(GAD(OVER(GAD(GAR(OVER(GAR)))))) GALAM GAM GAN",
   "GAN2 GAN2(CROSSING(GAN2) OVER(GAN2) TENU) GAR GAR3 GASHAN GE22 GESHTIN GESHTIN(TIMES(KUR",
   "U)) GI GI(CROSSING(GI) TIMES(E U)) GI4 GI4(CROSSING(GI4) OVER(GI4)) GIDIM GIG GIR2",
   "GIR2(GUNU) GIR3 GIR3(TIMES(A(PLUS(IGI)) GAN2(TENU) IGI LU(PLUS(IGI)) PA)) GISAL GISH",
   "GISH(CROSSING(GISH) TENU TIMES(BAD GISH(CROSSING(GISH)) TAK4)) GU GU(CROSSING(GU)) GU2",
   "GU2(GUNU TIMES(IGI(GUNU) KAK KAK(TIMES(IGI(GUNU))) NUN SAL(PLUS(TUG2)))) GUD",
   "GUD(OVER(GUD(LUGAL)) PLUS(GISH(TIMES(TAK4))) TIMES(A(PLUS(KUR)) KUR)) GUL GUM",
   "GUM(TIMES(SHE)) GUR GUR7 GURUN GURUSH HA HA(GUNU TENU TENU(GUNU)) HAL HI HI(TIMES(ASH",
   "ASH(OVER(HI(TIMES(ASH)))) ASH2 BAD DISH GAD KIN NUN SHE U)) HU HUB2 HUB2(TIMES(AN HAL",
   "KASKAL LISH UD)) HUL2 HUSH I I(A) IB IDIM IDIM(OVER(IDIM(BUR SQUARED))) IG IGI IGI(DIB",
   "GUNU OVER(IGI(SHIR(OVER(SHIR(UD(OVER(UD))))))) RI) IL IL(TIMES(GAN2(TENU))) IL2 IM",
   "IM(CROSSING(IM) OPPOSING(IM) SQUARED TIMES(TAK4)) IMIN IN IR ISH KA KA(TIMES(A AD",
   "AD(PLUS(KU3)) ANSHE ASH2 ASH3 BAD BALAG BAR BI BU ERIN2 ESH2 GA GAL GAN2(TENU) GAR",
   "GAR(PLUS(SHA3(PLUS(A)))) GI GIR2 GISH GISH(CROSSING(GISH) PLUS(SAR)) GU GUD GUR7",
   "HI(TIMES(ASH2)) IGI IM KA KAK KI KID LI LU LUM ME ME(PLUS(DU GI TE)) MI MI(PLUS(NUNUZ))",
   "NE NUN PA PI RU SA SAR SHA SHE SHID SHU SHUL SIG SUHUR TAR TU U U(U(U)) U2 UD",
   "UMUM(TIMES(PA)) UR UR2 USH ZI)) KA2 KA2(CROSSING(KA2)) KAB KAD2 KAD3 KAD4 KAD5",
   "KAD5(OVER(KAD5)) KAK KAK(TIMES(IGI(GUNU))) KAL KAL(CROSSING(KAL) TIMES(BAD)) KAM2 KAM4",
   "KAP(ELAMITE) KASKAL KASKAL(LAGAB(TIMES(U(OVER(LAGAB(TIMES(U))))))",
   "OVER(KASKAL(LAGAB(TIMES(U(OVER(LAGAB(TIMES(U))))))))) KESH2 KI KI(TIMES(BAD U UD)) KID",
   "KIN KISAL KISH KISIM5 KISIM5(OVER(KISIM5)) KU",
   "KU(OVER(HI(TIMES(ASH2(KU(OVER(HI(TIMES(ASH2))))))))) KU3 KU4 KU4(VARIANT(FORM)) KU7 KUL",
   "KUL(GUNU) KUN KUR KUR(OPPOSING(KUR)) KUSHU2 KWU318 LA LAGAB LAGAB(SQUARED TIMES(A",
   "A(PLUS(DA(PLUS(HA)) GAR LAL)) AL AN ASH(ZIDA(TENU)) BAD BI DAR EN GA GAR GI GUD",
   "GUD(PLUS(GUD)) HA HAL HI(TIMES(NUN)) IGI(GUNU) IM IM(PLUS(HA LU)) KI KIN KU3 KUL",
   "KUL(PLUS(HI(PLUS(A)))) LAGAB LISH LU LUL ME ME(PLUS(EN)) MUSH NE SHE(PLUS(SUM))",
   "SHITA(PLUS(GISH(PLUS(ERIN2) TENU))) SHU2 SHU2(PLUS(SHU2)) SUM TAG TAK4",
   "TE(PLUS(A(PLUS(SU(PLUS(NA)))))) U U(PLUS(A U(PLUS(U)))) U2(PLUS(ASH)) UD USH",
   "ZU(OVER(ZU)))) LAGAR LAGAR(GUNU GUNU(OVER(LAGAR(GUNU(SHE)))) TIMES(SHE SHE(PLUS(SUM))))",
   "LAHSHU LAK-003 LAK-021 LAK-025 LAK-030 LAK-050 LAK-051 LAK-062",
   "LAK-079(OVER(LAK-079(GUNU))) LAK-080 LAK-081(OVER(LAK-081)) LAK-092 LAK-130 LAK-142",
   "LAK-210 LAK-219 LAK-220 LAK-225 LAK-228 LAK-238 LAK-265 LAK-266 LAK-343 LAK-347 LAK-348",
   "LAK-383 LAK-384 LAK-390 LAK-441 LAK-449 LAK-449(TIMES(GU IGI PAP(PLUS(LU3",
   "PAP(PLUS(LU3)))) U2(PLUS(BA)))) LAK-450 LAK-457 LAK-470 LAK-483 LAK-490 LAK-492 LAK-493",
   "LAK-495 LAK-550 LAK-608 LAK-617 LAK-617(TIMES(ASH BAD DUN3(GUNU(GUNU)) KU3 LA TAR TE U2",
   "UD URUDA)) LAK-636 LAK-648 LAK-648(TIMES(DUB GA IGI IGI(GUNU) NI",
   "PAP(PLUS(PAP(PLUS(LU3)))) SHESH(PLUS(KI)) UD URUDA)) LAK-724 LAK-749 LAL LAL(TIMES(LAL))",
   "LAM LAM(TIMES(KUR KUR(PLUS(RU)))) LI LIL LIMMU2 LISH LU LU(TIMES(BAD)) LU2",
   "LU2(CROSSING(LU2) GUNU(TIMES(ASH)) OPPOSING(LU2) SHESHIG SHESHIG(TIMES(BAD)) SQUARED",
   "TENU TIMES(AL BAD DISH ESH2 ESH2(PLUS(LAL) TENU) GAN2(TENU) HAL HI(TIMES(BAD)) IM KAD2",
   "KAD3 KAD3(PLUS(ASH)) KI LA(PLUS(ASH)) LAGAB ME(PLUS(EN)) NE NU PAP",
   "PAP(PLUS(PAP(PLUS(LU3)))) SHU SI(PLUS(ASH)) SIK2(PLUS(BU)) TAK4 TUG2)) LU3 LUGAL",
   "LUGAL(OPPOSING(LUGAL) OVER(LUGAL) SHESHIG) LUH LUL LUM LUM(OVER(LUM",
   "LUM(GAR(OVER(GAR))))) MA MA(GUNU TIMES(TAK4)) MA2 MAH MAR MASH MASH2 ME MES MESH MI",
   "MI(PLUS(ZA7)) MIN MU MU(OVER(MU)) MUG MUG(GUNU) MUNSUB MURGU2 MUSH MUSH(CROSSING(MUSH)",
   "OVER(MUSH MUSH(TIMES(A(PLUS(NA)) GA KAK))) TIMES(A KUR ZA)) MUSH3 MUSH3(GUNU TIMES(A",
   "A(PLUS(DI)) DI ZA)) NA NA2 NA4 NAGA NAGA(INVERTED OPPOSING(NAGA) TIMES(SHU(TENU))) NAGAR",
   "NAM NAM(NUTILLU) NAM2 NE NE(SHESHIG TIMES(A UD)) NI NI(TIMES(E)) NI2 NIM",
   "NIM(TIMES(GAN2(TENU) GAR(PLUS(GAN2(TENU))))) NIN NIN9 NINDA2 NINDA2(TIMES(AN ASH",
   "ASH(PLUS(ASH)) BAL DIM(GUNU) GI GISH GUD GUL HI KESH2 LAK-050 MASH ME(PLUS(GAN2(TENU)))",
   "NE NUN PAP(PLUS(PAP)) SHE SHE(PLUS(A(AN) ASH ASH(PLUS(ASH)))) U U(PLUS(U)) U2(PLUS(ASH))",
   "URUDA USH)) NISAG NU NU11 NU11(OVER(NU11(BUR(OVER(BUR)))) ROTATED(NINETY(DEGREES)) TENU)",
   "NUN NUN(CROSSING(NUN NUN(LAGAR(OVER(LAGAR)))) LAGAR(TIMES(GAR MASH SAL",
   "SAL(OVER(NUN(LAGAR(TIMES(SAL))))) USH)) OVER(NUN) TENU) NUNUZ NUNUZ(AB2(TIMES(ASHGAB BI",
   "DUG GUD IGI(GUNU) KAD3 LA NE SILA3 U2)) KISIM5(TIMES(BI BI(U)))) PA PAD PAN PAP PESH2",
   "PESH2(ASTERISK) PI PI(CROSSING(PI) TIMES(A AB BI BU E I IB U U2)) PIR2 PIRIG",
   "PIRIG(OPPOSING(PIRIG) TIMES(KAL UD ZA)) RA RAB RI RU SA SAG SAG(GUNU GUNU(TIMES(HA))",
   "NUTILLU OVER(SAG) TIMES(A DU DUB EN HA IGI(GUNU) KAK KUR LUM MI NUN SAL SHE(AT(LEFT))",
   "SHID TAB TAK4 U2 UB UM UR USH)) SAL SAL(LAGAB(TIMES(ASH2))) SANGA2 SAR SHA SHA3",
   "SHA3(TIMES(A BAD GISH NE SHU2 TUR U U(PLUS(A)))) SHA6 SHA6(TENU) SHAB6 SHAR2 SHE SHE(HU",
   "OVER(SHE SHE(GAD(OVER(GAD(GAR(OVER(GAR))))) TAB(OVER(TAB(GAR(OVER(GAR))))))) PLUS(HUB2",
   "NAM2 SAR)) SHEG9 SHEN SHESH SHESH2 SHESHLAM SHID SHID(TIMES(A IM)) SHIM SHIM(TIMES(A BAL",
   "BULUG DIN GAR IGI IGI(GUNU) KUSHU2 LUL MUG SAL)) SHINIG SHIR",
   "SHIR(OVER(SHIR(BUR(OVER(BUR)))) TENU) SHITA SHU SHU(OVER(INVERTED(SHU))) SHU2",
   "SHU2(PLUS(DUG(TIMES(NI)) E2(TIMES(AN)))) SHUBUR SI SI(GUNU TIMES(TAK4)) SIG SIG4",
   "SIG4(OVER(SIG4(SHU2))) SIK2 SILA3 SU SU(OVER(SU)) SUD SUD2 SUHUR SUM SUMASH SUR SUR9 TA",
   "TA(ASTERISK GUNU TIMES(HI MI)) TAB TAB(OVER(TAB(NI(OVER(NI(DISH(OVER(DISH)))))))",
   "SQUARED) TAG TAG(TIMES(BI GUD SHE SHU TUG2 UD)) TAK4 TAK4(PLUS(SAG)) TAR TE TE(GUNU) TI",
   "TI(TENU) TI2 TIL TIR TIR(OVER(TIR TIR(GAD(OVER(GAD(GAR(OVER(GAR))))))) TIMES(TAK4)) TU",
   "TUG2 TUK TUM TUM(TIMES(GAN2(TENU) THREE(DISH))) TUR TUR(OVER(TUR(ZA(OVER(ZA))))) U U(GUD",
   "OVER(U(PA(OVER(PA(GAR(OVER(GAR))))) SUR(OVER(SUR)) U(REVERSED(OVER(U(REVERSED)))))) U",
   "U(U)) U2 UB UD UD(GUNU KUSHU2 SHESHIG SHESHIG(TIMES(BAD)) TIMES(BAD MI U(PLUS(U(PLUS(U",
   "U(GUNU))))))) UDUG UM UM(TIMES(LAGAB ME ME(PLUS(DA)) SHA3 U)) UMBIN UMUM",
   "UMUM(TIMES(KASKAL PA)) UN UN(GUNU) UR UR(CROSSING(UR) SHESHIG) UR2 UR2(INVERTED",
   "TIMES(A(PLUS(HA NA)) AL HA NUN U2 U2(PLUS(ASH BI)) UD)) UR4 URI URI3 URU URU(TIMES(A",
   "ASHGAB BAR DARA3 DUN GA GAL GAN2(TENU) GAR GU HA IGI IM ISH KI LAK-668 LU3 LUM MIN PA",
   "SHE SIG4 TU U(PLUS(GUD)) UD URUDA)) URUDA URUDA(TIMES(U)) USH USH(TIMES(A KU KUR TAK4))",
   "USH2 USHUMX USHX UTUKI UZ3 UZ3(TIMES(KASKAL)) UZU ZA ZA(SQUARED(TIMES(KUR)) TENU) ZA7",
   "ZAG ZAMX ZE2 ZI ZI(OVER(ZI)) ZI3 ZIB ZIB(KABA(TENU)) ZIG ZIZ2 ZU ZU(OVER(ZU(PLUS(SAR))))",
   "ZU5 ZU5(TIMES(A THREE(DISH(TENU)))) ZUBUR ZUM)) CUP(ON(BLACK(SQUARE)) WITH(STRAW))",
   "CUPCAKE CUPIDO CURLING(STONE) CURLY(BRACKET(EXTENSION) LOGICAL(AND OR) LOOP)",
   "CURRENCY(EXCHANGE SIGN) CURRY(AND(RICE)) CURVED(STEM(PARAGRAPH(SIGN(ORNAMENT)))) CUSTARD",
   "CUSTOMS CUT(OF(MEAT)) CYCLONE CYLINDRICITY CYPRIOT(SYLLABLE(A E I JA JO KA KE KI KO KU",
   "LA LE LI LO LU MA ME MI MO MU NA NE NI NO NU O PA PE PI PO PU RA RE RI RO RU SA SE SI SO",
   "SU TA TE TI TO TU U WA WE WI WO XA XE ZA ZO)) CYPRO-MINOAN(SIGN(CM001 CM002 CM004 CM005",
   "CM006 CM007 CM008 CM009 CM010 CM011 CM012 CM012B CM013 CM015 CM017 CM019 CM021 CM023",
   "CM024 CM025 CM026 CM027 CM028 CM029 CM030 CM033 CM034 CM035 CM036 CM037 CM038 CM039",
   "CM040 CM041 CM044 CM046 CM047 CM049 CM050 CM051 CM052 CM053 CM054 CM055 CM056 CM058",
   "CM059 CM060 CM061 CM062 CM063 CM064 CM066 CM067 CM068 CM069 CM070 CM071 CM072 CM073",
   "CM074 CM075 CM075B CM076 CM078 CM079 CM080 CM081 CM082 CM083 CM084 CM085 CM086 CM087",
   "CM088 CM089 CM090 CM091 CM092 CM094 CM095 CM096 CM097 CM098 CM099 CM100 CM101 CM102",
   "CM103 CM104 CM105 CM107 CM108 CM109 CM110 CM112 CM114 CM301 CM302))",
   "CYRILLIC(CAPITAL(LETTER(A A(WITH(BREVE DIAERESIS)) ABKHASIAN(CHE CHE(WITH(DESCENDER))",
   "DZE HA) ALEUT(KA) BARRED(O O(WITH(DIAERESIS))) BASHKIR(KA) BE BIG(YUS) BINOCULAR(O)",
   "BLENDED(YUS) BROAD(OMEGA) BYELORUSSIAN-UKRAINIAN(I) CCHE CHE CHE(WITH(DESCENDER",
   "DIAERESIS VERTICAL(STROKE))) CLOSED(LITTLE(YUS)) CROSSED(O) DCHE DE DJE DJERV",
   "DOUBLE(MONOCULAR(O) O) DWE DZE DZELO DZHE DZWE DZZE DZZHE E E(WITH(DIAERESIS)) EF EL",
   "EL(WITH(DESCENDER HOOK MIDDLE(HOOK) TAIL)) EM EM(WITH(TAIL)) EN EN(WITH(DESCENDER HOOK",
   "LEFT(HOOK) MIDDLE(HOOK) TAIL)) ER ER(WITH(TICK)) ES ES(WITH(DESCENDER)) FITA GHE",
   "GHE(WITH(DESCENDER MIDDLE(HOOK) STROKE STROKE(AND(HOOK)) UPTURN)) GJE HA",
   "HA(WITH(DESCENDER HOOK STROKE)) HARD(SIGN) HWE I I(WITH(DIAERESIS GRAVE MACRON)) IE",
   "IE(WITH(BREVE GRAVE)) IO IOTA IOTIFIED(A BIG(YUS) CLOSED(LITTLE(YUS)) E LITTLE(YUS) YAT)",
   "IZHITSA IZHITSA(WITH(DOUBLE(GRAVE(ACCENT)))) JE KA KA(WITH(DESCENDER HOOK STROKE",
   "VERTICAL(STROKE))) KHAKASSIAN(CHE) KJE KOMI(DE DJE DZJE LJE NJE SJE TJE ZJE) KOPPA KSI",
   "LHA LITTLE(YUS) LJE MONOCULAR(O) MONOGRAPH(UK) NEUTRAL(YER) NJE O O(WITH(DIAERESIS))",
   "OMEGA OMEGA(WITH(TITLO)) OT PE PE(WITH(DESCENDER MIDDLE(HOOK))) PSI QA REVERSED(DZE TSE",
   "YU ZE) RHA ROUND(OMEGA) SCHWA SCHWA(WITH(DIAERESIS)) SEMISOFT(SIGN) SHA SHCHA SHHA",
   "SHHA(WITH(DESCENDER)) SHORT(I I(WITH(TAIL)) U) SHWE SOFT(DE EL EM SIGN) STRAIGHT(U",
   "U(WITH(STROKE))) TCHE TE TE(WITH(DESCENDER MIDDLE(HOOK))) TSE TSHE TSSE TSWE TWE U",
   "U(WITH(DIAERESIS DOUBLE(ACUTE) MACRON)) UK UKRAINIAN(IE) VE WE YA YAE YAT YERU",
   "YERU(WITH(BACK(YER) DIAERESIS)) YI YN YU ZE ZE(WITH(DESCENDER DIAERESIS)) ZEMLYA ZHE",
   "ZHE(WITH(BREVE DESCENDER DIAERESIS)) ZHWE) LIGATURE(A(IE) EN(GHE) TE(TSE))) KAVYKA",
   "LETTER(MULTIOCULAR(O) PALOCHKA SMALL(CAPITAL(EL))) PAYEROK SMALL(LETTER(A A(WITH(BREVE",
   "DIAERESIS)) ABKHASIAN(CHE CHE(WITH(DESCENDER)) DZE HA) ALEUT(KA) BARRED(O",
   "O(WITH(DIAERESIS))) BASHKIR(KA) BE BIG(YUS) BINOCULAR(O) BLENDED(YUS) BROAD(OMEGA)",
   "BYELORUSSIAN-UKRAINIAN(I) CCHE CHE CHE(WITH(DESCENDER DIAERESIS VERTICAL(STROKE)))",
   "CLOSED(LITTLE(YUS)) CROSSED(O) DCHE DE DJE DJERV DOUBLE(MONOCULAR(O) O) DWE DZE DZELO",
   "DZHE DZWE DZZE DZZHE E E(WITH(DIAERESIS)) EF EL EL(WITH(DESCENDER HOOK MIDDLE(HOOK)",
   "TAIL)) EM EM(WITH(TAIL)) EN EN(WITH(DESCENDER HOOK LEFT(HOOK) MIDDLE(HOOK) TAIL)) ER",
   "ER(WITH(TICK)) ES ES(WITH(DESCENDER)) FITA GHE GHE(WITH(DESCENDER MIDDLE(HOOK) STROKE",
   "STROKE(AND(HOOK)) UPTURN)) GJE HA HA(WITH(DESCENDER HOOK STROKE)) HARD(SIGN) HWE I",
   "I(WITH(DIAERESIS GRAVE MACRON)) IE IE(WITH(BREVE GRAVE)) IO IOTA IOTIFIED(A BIG(YUS)",
   "CLOSED(LITTLE(YUS)) E LITTLE(YUS) YAT) IZHITSA IZHITSA(WITH(DOUBLE(GRAVE(ACCENT)))) JE",
   "KA KA(WITH(DESCENDER HOOK STROKE VERTICAL(STROKE))) KHAKASSIAN(CHE) KJE KOMI(DE DJE DZJE",
   "LJE NJE SJE TJE ZJE) KOPPA KSI LHA LITTLE(YUS) LJE LONG-LEGGED(DE) MONOCULAR(O)",
   "MONOGRAPH(UK) NARROW(O) NEUTRAL(YER) NJE O O(WITH(DIAERESIS)) OMEGA OMEGA(WITH(TITLO))",
   "OT PALOCHKA PE PE(WITH(DESCENDER MIDDLE(HOOK))) PSI QA REVERSED(DZE TSE YU ZE) RHA",
   "ROUND(OMEGA) ROUNDED(VE) SCHWA SCHWA(WITH(DIAERESIS)) SEMISOFT(SIGN) SHA SHCHA SHHA",
   "SHHA(WITH(DESCENDER)) SHORT(I I(WITH(TAIL)) U) SHWE SOFT(DE EL EM SIGN) STRAIGHT(U",
   "U(WITH(STROKE))) TALL(HARD(SIGN) TE YAT) TCHE TE TE(WITH(DESCENDER MIDDLE(HOOK)))",
   "THREE-LEGGED(TE) TSE TSHE TSSE TSWE TWE U U(WITH(DIAERESIS DOUBLE(ACUTE) MACRON)) UK",
   "UKRAINIAN(IE) UNBLENDED(UK) VE WE WIDE(ES) YA YAE YAT YERU YERU(WITH(BACK(YER)",
   "DIAERESIS)) YI YN YU ZE ZE(WITH(DESCENDER DIAERESIS)) ZEMLYA ZHE ZHE(WITH(BREVE",
   "DESCENDER DIAERESIS)) ZHWE) LIGATURE(A(IE) EN(GHE) TE(TSE))) THOUSANDS(SIGN))"]

end InstallerKit.Text.CharacterName
