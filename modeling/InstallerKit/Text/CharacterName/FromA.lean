/-!
# Names of characters: A to B

The names of characters in Unicode 14.0 whose first letter is one from A to B, word by
word: the words that may follow a word are in parentheses after it. A word at the end of a
name is there by itself as well.
-/

namespace InstallerKit.Text.CharacterName

/-- The names from A on. -/
def namesFromA : List String :=
  ["ABACUS AC(CURRENT) ACCORDION ACCOUNT(OF) ACK ACKNOWLEDGE ACTIVATE(ARABIC(FORM(SHAPING))",
   "SYMMETRIC(SWAPPING)) ACUTE(ACCENT ANGLE) ADDRESSED(TO(THE(SUBJECT))) ADHESIVE(BANDAGE)",
   "ADI(SHAKTI) ADLAM(ALIF(LENGTHENER) CAPITAL(LETTER(ALIF BA BHE CHI DAALI DHA E FA GA GBE",
   "HA I JIIM KAF KHA KPO LAAM MIIM NHA NUN NYA O PE QAAF RA SHA SINNYIIYHE TU U VA WAW YA",
   "YHE ZAL)) CONSONANT(MODIFIER) DIGIT(EIGHT FIVE FOUR NINE ONE SEVEN SIX THREE TWO ZERO)",
   "GEMINATE(CONSONANT(MODIFIER)) GEMINATION(MARK) HAMZA INITIAL(EXCLAMATION(MARK)",
   "QUESTION(MARK)) NASALIZATION(MARK) NUKTA SMALL(LETTER(ALIF BA BHE CHI DAALI DHA E FA GA",
   "GBE HA I JIIM KAF KHA KPO LAAM MIIM NHA NUN NYA O PE QAAF RA SHA SINNYIIYHE TU U VA WAW",
   "YA YHE ZAL)) VOWEL(LENGTHENER)) ADMETOS ADMISSION(TICKETS) ADULT AEGEAN(CHECK(MARK)",
   "DRY(MEASURE(FIRST(SUBUNIT))) LIQUID(MEASURE(FIRST(SUBUNIT))) MEASURE(SECOND(SUBUNIT)",
   "THIRD(SUBUNIT)) NUMBER(EIGHT EIGHT(HUNDRED THOUSAND) EIGHTY EIGHTY(THOUSAND) FIFTY",
   "FIFTY(THOUSAND) FIVE FIVE(HUNDRED THOUSAND) FORTY FORTY(THOUSAND) FOUR FOUR(HUNDRED",
   "THOUSAND) NINE NINE(HUNDRED THOUSAND) NINETY NINETY(THOUSAND) ONE ONE(HUNDRED THOUSAND)",
   "SEVEN SEVEN(HUNDRED THOUSAND) SEVENTY SEVENTY(THOUSAND) SIX SIX(HUNDRED THOUSAND) SIXTY",
   "SIXTY(THOUSAND) TEN TEN(THOUSAND) THIRTY THIRTY(THOUSAND) THREE THREE(HUNDRED THOUSAND)",
   "TWENTY TWENTY(THOUSAND) TWO TWO(HUNDRED THOUSAND)) WEIGHT(BASE(UNIT) FIRST(SUBUNIT)",
   "FOURTH(SUBUNIT) SECOND(SUBUNIT) THIRD(SUBUNIT)) WORD(SEPARATOR(DOT LINE)))",
   "AERIAL(TRAMWAY) AFGHANI(SIGN) AHOM(CONSONANT(SIGN(MEDIAL(LA LIGATING(RA) RA)))",
   "DIGIT(EIGHT FIVE FOUR NINE ONE SEVEN SIX THREE TWO ZERO) LETTER(A ALTERNATE(BA GA TA) BA",
   "BHA CA CHA DA DDA DDHA DHA GA GHA HA JA JHA KA KHA LA LLA MA NA NGA NNA NYA PA PHA RA SA",
   "TA THA TTA TTHA) NUMBER(TEN TWENTY) SIGN(KILLER RULAI SECTION SMALL(SECTION)) SYMBOL(VI)",
   "VOWEL(SIGN(A AA AI AM AW E I II O U UU))) AIRPLANE AIRPLANE(ARRIVING DEPARTURE)",
   "AKTIESELSKAB ALARM(CLOCK) ALCHEMICAL(SYMBOL(FOR(AIR ALEMBIC ALKALI ALKALI-2 ALUM AMALGAM",
   "ANTIMONY(ORE) AQUA(REGIA REGIA-2 VITAE VITAE-2) AQUAFORTIS ARSENIC ASHES AURIPIGMENT",
   "BATH(OF(MARY VAPOURS)) BISMUTH(ORE) BLACK(SULFUR) BORAX BORAX-2 BORAX-3 BRICK CADUCEUS",
   "CALX CAPUT(MORTUUM) CINNABAR COPPER(ANTIMONIATE ORE) CROCUS(OF(COPPER COPPER-2 IRON))",
   "CRUCIBLE CRUCIBLE-2 CRUCIBLE-3 CRUCIBLE-4 CRUCIBLE-5 DAY-NIGHT DISSOLVE DISSOLVE-2",
   "DISTILL EARTH FIRE GOLD GUM HALF(DRAM OUNCE) HORSE(DUNG) HOUR IRON(ORE ORE-2)",
   "IRON-COPPER(ORE) LEAD(ORE) LODESTONE MARCASITE MERCURY(SUBLIMATE SUBLIMATE-2",
   "SUBLIMATE-3) MONTH NIGHT NITRE OIL PHILOSOPHERS(SULFUR) POT(ASHES) POWDER",
   "POWDERED(BRICK) PRECIPITATE PURIFY PUTREFACTION QUICK(LIME) QUINTESSENCE REALGAR",
   "REALGAR-2 REGULUS REGULUS(OF(ANTIMONY ANTIMONY-2 IRON)) REGULUS-2 REGULUS-3 REGULUS-4",
   "RETORT ROCK(SALT SALT-2) SAL-AMMONIAC SALT SALT(OF(ANTIMONY COPPER(ANTIMONIATE)))",
   "SCEPTER(OF(JOVE)) SILVER SOAP SPIRIT STARRED(TRIDENT) STRATUM(SUPER(STRATUM STRATUM-2))",
   "SUBLIMATE(OF(ANTIMONY COPPER SALT(OF(ANTIMONY COPPER)))) SUBLIMATION SULFUR TARTAR",
   "TARTAR-2 TIN(ORE) TINCTURE TRIDENT TUTTY URINE VERDIGRIS VINEGAR VINEGAR(OF(ANTIMONY))",
   "VINEGAR-2 VINEGAR-3 VITRIOL VITRIOL-2 WATER WAX))) ALEF(SYMBOL) ALEMBIC ALERT",
   "ALIEN(MONSTER) ALL(AROUND-PROFILE EQUAL(TO)) ALM ALMOST(EQUAL(OR(EQUAL(TO)) TO",
   "TO(WITH(CIRCUMFLEX(ACCENT))))) ALTERNATE(ONE-WAY(LEFT(WAY(TRAFFIC))))",
   "ALTERNATIVE(KEY(SYMBOL)) AMALGAMATION(OR(COPRODUCT)) AMBULANCE AMERICAN(FOOTBALL)",
   "AMPERSAND AMPHORA ANATOLIAN(HIEROGLYPH(A001 A002 A003 A004 A005 A006 A007 A008 A009 A010",
   "A010A A011 A012 A013 A014 A015 A016 A017 A018 A019 A020 A021 A022 A023 A024 A025 A026",
   "A026A A027 A028 A029 A030 A031 A032 A033 A034 A035 A036 A037 A038 A039 A039A A040 A041",
   "A041A A042 A043 A044 A045 A045A A046 A046A A046B A047 A048 A049 A050 A051 A052 A053 A054",
   "A055 A056 A057 A058 A059 A060 A061 A062 A063 A064 A065 A066 A066A A066B A066C A067 A068",
   "A069 A070 A071 A072 A073 A074 A075 A076 A077 A078 A079 A080 A081 A082 A083 A084 A085",
   "A086 A087 A088 A089 A090 A091 A092 A093 A094 A095 A096 A097 A097A A098 A098A A099 A100",
   "A100A A101 A101A A102 A102A A103 A104 A104A A104B A104C A105 A105A A105B A106 A107 A107A",
   "A107B A107C A108 A109 A110 A110A A110B A111 A112 A113 A114 A115 A115A A116 A117 A118",
   "A119 A120 A121 A122 A123 A124 A125 A125A A126 A127 A128 A129 A130 A131 A132 A133 A134",
   "A135 A135A A136 A137 A138 A139 A140 A141 A142 A143 A144 A145 A146 A147 A148 A149 A150",
   "A151 A152 A153 A154 A155 A156 A157 A158 A159 A160 A161 A162 A163 A164 A165 A166 A167",
   "A168 A169 A170 A171 A172 A173 A174 A175 A176 A177 A178 A179 A180 A181 A182 A183 A184",
   "A185 A186 A187 A188 A189 A190 A191 A192 A193 A194 A195 A196 A197 A198 A199 A200 A201",
   "A202 A202A A202B A203 A204 A205 A206 A207 A207A A208 A209 A209A A210 A211 A212 A213 A214",
   "A215 A215A A216 A216A A217 A218 A219 A220 A221 A222 A223 A224 A225 A226 A227 A227A A228",
   "A229 A230 A231 A232 A233 A234 A235 A236 A237 A238 A239 A240 A241 A242 A243 A244 A245",
   "A246 A247 A248 A249 A250 A251 A252 A253 A254 A255 A256 A257 A258 A259 A260 A261 A262",
   "A263 A264 A265 A266 A267 A267A A268 A269 A270 A271 A272 A273 A274 A275 A276 A277 A278",
   "A279 A280 A281 A282 A283 A284 A285 A286 A287 A288 A289 A289A A290 A291 A292 A293 A294",
   "A294A A295 A296 A297 A298 A299 A299A A300 A301 A302 A303 A304 A305 A306 A307 A308 A309",
   "A309A A310 A311 A312 A313 A314 A315 A316 A317 A318 A319 A320 A321 A322 A323 A324 A325",
   "A326 A327 A328 A329 A329A A330 A331 A332A A332B A332C A333 A334 A335 A336 A336A A336B",
   "A336C A337 A338 A339 A340 A341 A342 A343 A344 A345 A346 A347 A348 A349 A350 A351 A352",
   "A353 A354 A355 A356 A357 A358 A359 A359A A360 A361 A362 A363 A364 A364A A365 A366 A367",
   "A368 A368A A369 A370 A371 A371A A372 A373 A374 A375 A376 A377 A378 A379 A380 A381 A381A",
   "A382 A383(RA(OR(RI))) A383A A384 A385 A386 A386A A387 A388 A389 A390 A391 A392",
   "A393(EIGHT) A394 A395 A396 A397 A398 A399 A400 A401 A402 A403 A404 A405 A406 A407 A408",
   "A409 A410(BEGIN(LOGOGRAM(MARK))) A410A(END(LOGOGRAM(MARK))) A411 A412 A413 A414 A415",
   "A416 A417 A418 A419 A420 A421 A422 A423 A424 A425 A426 A427 A428 A429 A430 A431 A432",
   "A433 A434 A435 A436 A437 A438 A439 A440 A441 A442 A443 A444 A445 A446 A447 A448 A449",
   "A450 A450A A451 A452 A453 A454 A455 A456 A457 A457A A458 A459 A460 A461 A462 A463 A464",
   "A465 A466 A467 A468 A469 A470 A471 A472 A473 A474 A475 A476 A477 A478 A479 A480 A481",
   "A482 A483 A484 A485 A486 A487 A488 A489 A490 A491 A492 A493 A494 A495 A496 A497 A501",
   "A502 A503 A504 A505 A506 A507 A508 A509 A510 A511 A512 A513 A514 A515 A516 A517 A518",
   "A519 A520 A521 A522 A523 A524 A525 A526 A527 A528 A529 A530)) ANATOMICAL(HEART) ANCHOR",
   "AND(WITH(DOT)) ANGER(SYMBOL) ANGLE ANGLE(WITH(S(INSIDE) UNDERBAR)) ANGRY(FACE)",
   "ANGSTROM(SIGN) ANGUISHED(FACE) ANKH ANT ANTENNA(WITH(BARS))",
   "ANTICLOCKWISE(CLOSED(CIRCLE(ARROW)) CONTOUR(INTEGRAL)",
   "DOWNWARDS(AND(UPWARDS(OPEN(CIRCLE(ARROWS))))) GAPPED(CIRCLE(ARROW)) INTEGRATION",
   "OPEN(CIRCLE(ARROW)) TOP(SEMICIRCLE(ARROW)) TRIANGLE-HEADED(BOTTOM(U-SHAPED(ARROW))",
   "LEFT(U-SHAPED(ARROW)) OPEN(CIRCLE(ARROW)) RIGHT(U-SHAPED(ARROW)) TOP(U-SHAPED(ARROW))))",
   "APC APL(FUNCTIONAL(SYMBOL(ALPHA ALPHA(UNDERBAR) BACKSLASH(BAR) CIRCLE(BACKSLASH",
   "DIAERESIS JOT STAR STILE UNDERBAR) COMMA(BAR) DEL(DIAERESIS STILE TILDE) DELTA(STILE",
   "UNDERBAR) DIAMOND(UNDERBAR) DOWN(CARET(TILDE) SHOE(STILE) TACK(JOT UNDERBAR))",
   "DOWNWARDS(VANE) EPSILON(UNDERBAR) GREATER-THAN(DIAERESIS) I-BEAM IOTA IOTA(UNDERBAR)",
   "JOT(DIAERESIS UNDERBAR) LEFT(SHOE(STILE)) LEFTWARDS(VANE) OMEGA OMEGA(UNDERBAR) QUAD",
   "QUAD(BACKSLASH CIRCLE COLON DEL DELTA DIAMOND DIVIDE DOWN(CARET) DOWNWARDS(ARROW) EQUAL",
   "GREATER-THAN JOT LEFTWARDS(ARROW) LESS-THAN NOT(EQUAL) QUESTION RIGHTWARDS(ARROW) SLASH",
   "UP(CARET) UPWARDS(ARROW)) QUOTE(QUAD UNDERBAR) RHO RIGHTWARDS(VANE) SEMICOLON(UNDERBAR)",
   "SLASH(BAR) SQUISH(QUAD) STAR(DIAERESIS) STILE(TILDE) TILDE(DIAERESIS) UP(CARET(TILDE)",
   "SHOE(JOT) TACK(DIAERESIS JOT OVERBAR)) UPWARDS(VANE) ZILDE))) APOLLON APOSTROPHE",
   "APPLICATION(PROGRAM(COMMAND)) APPROACHES(THE(LIMIT))",
   "APPROXIMATELY(BUT(NOT(ACTUALLY(EQUAL(TO)))) EQUAL(OR(EQUAL(TO)) TO",
   "TO(OR(THE(IMAGE(OF)))))) AQUARIUS ARABIC(BASELINE(ROUND(DOT)) COMMA CURLY(DAMMA DAMMATAN",
   "FATHA FATHATAN KASRA KASRATAN) DAMMA DAMMA(ISOLATED(FORM) MEDIAL(FORM) WITH(DOT))",
   "DAMMATAN DAMMATAN(ISOLATED(FORM)) DATE(SEPARATOR) DECIMAL(SEPARATOR)",
   "DISPUTED(END(OF(AYAH))) DOUBLE(RIGHT(ARROWHEAD(ABOVE ABOVE(WITH(DOT))))) DOUBLED(MADDA)",
   "EMPTY(CENTRE(HIGH(STOP) LOW(STOP))) END(OF(AYAH TEXT(MARK))) FATHA FATHA(ISOLATED(FORM)",
   "MEDIAL(FORM) WITH(DOT(ABOVE) RING TWO(DOTS))) FATHATAN FATHATAN(ISOLATED(FORM))",
   "FIVE(POINTED(STAR)) FOOTNOTE(MARKER) FULL(STOP) HALF(MADDA(OVER(MADDA))) HAMZA(ABOVE",
   "BELOW) INVERTED(DAMMA) KASRA KASRA(ISOLATED(FORM) MEDIAL(FORM) WITH(DOT(BELOW)))",
   "KASRATAN KASRATAN(ISOLATED(FORM)) LARGE(CIRCLE(BELOW) ROUND(DOT(ABOVE BELOW",
   "INSIDE(CIRCLE(BELOW))))) LEFT(ARROWHEAD(ABOVE BELOW)) LETTER(AE AFRICAN(FEH NOON QAF",
   "QAF(WITH(THREE(DOTS(ABOVE))))) AIN AIN(FINAL(FORM) INITIAL(FORM) ISOLATED(FORM)",
   "MEDIAL(FORM) WITH(THREE(DOTS(ABOVE BELOW POINTING(DOWNWARDS(ABOVE)))) TWO(DOTS(ABOVE",
   "VERTICALLY(ABOVE))))) ALEF ALEF(FINAL(FORM) ISOLATED(FORM) MAKSURA MAKSURA(FINAL(FORM)",
   "ISOLATED(FORM)) WASLA WASLA(FINAL(FORM) ISOLATED(FORM)) WITH(ATTACHED(BOTTOM(RIGHT(KASRA",
   "KASRA(AND(DOT(ABOVE) LEFT(RING))))) FATHA KASRA LEFT(HAMZA ROUND(DOT)) RIGHT(HAMZA",
   "ROUND(DOT)) ROUND(DOT(ABOVE BELOW)) TOP(RIGHT(FATHA FATHA(AND(DOT(ABOVE) LEFT(RING))))))",
   "DOT(ABOVE) EXTENDED(ARABIC-INDIC(DIGIT(THREE(ABOVE) TWO(ABOVE)))) HAMZA(ABOVE",
   "ABOVE(FINAL(FORM) ISOLATED(FORM)) BELOW BELOW(FINAL(FORM) ISOLATED(FORM)))",
   "LEFT(MIDDLE(STROKE)) MADDA(ABOVE ABOVE(FINAL(FORM) ISOLATED(FORM))) RIGHT(MIDDLE(STROKE",
   "STROKE(AND(DOT(ABOVE) LEFT(RING))))) WAVY(HAMZA(ABOVE BELOW)))) BEEH BEEH(FINAL(FORM)",
   "INITIAL(FORM) ISOLATED(FORM) MEDIAL(FORM)) BEH BEH(FINAL(FORM) INITIAL(FORM)",
   "ISOLATED(FORM) MEDIAL(FORM) WITH(DOT(BELOW(AND(THREE(DOTS(ABOVE))))) HAMZA(ABOVE)",
   "INVERTED(SMALL(V(BELOW))) SMALL(MEEM(ABOVE) V V(BELOW)) THREE(DOTS(HORIZONTALLY(BELOW)",
   "POINTING(UPWARDS(BELOW BELOW(AND(TWO(DOTS(ABOVE))))))))",
   "TWO(DOTS(BELOW(AND(DOT(ABOVE))))))) BEHEH BEHEH(FINAL(FORM) INITIAL(FORM) ISOLATED(FORM)",
   "MEDIAL(FORM)) DAD DAD(FINAL(FORM) INITIAL(FORM) ISOLATED(FORM) MEDIAL(FORM)",
   "WITH(DOT(BELOW))) DAHAL DAHAL(FINAL(FORM) ISOLATED(FORM)) DAL DAL(FINAL(FORM)",
   "ISOLATED(FORM) WITH(DOT(BELOW BELOW(AND(SMALL(TAH)))) FOUR(DOTS(ABOVE))",
   "INVERTED(SMALL(V(BELOW)) V) RING THREE(DOTS(ABOVE(DOWNWARDS) BELOW))",
   "TWO(DOTS(VERTICALLY(BELOW(AND(SMALL(TAH)))))))) DDAHAL DDAHAL(FINAL(FORM)",
   "ISOLATED(FORM)) DDAL DDAL(FINAL(FORM) ISOLATED(FORM)) DOTLESS(BEH FEH QAF) DUL",
   "DUL(FINAL(FORM) ISOLATED(FORM)) DYEH DYEH(FINAL(FORM) INITIAL(FORM) ISOLATED(FORM)",
   "MEDIAL(FORM)) E E(FINAL(FORM) INITIAL(FORM) ISOLATED(FORM) MEDIAL(FORM)) FARSI(YEH",
   "YEH(FINAL(FORM) INITIAL(FORM) ISOLATED(FORM) MEDIAL(FORM)",
   "WITH(EXTENDED(ARABIC-INDIC(DIGIT(FOUR(BELOW) THREE(ABOVE) TWO(ABOVE)))) INVERTED(V)",
   "THREE(DOTS(ABOVE)) TWO(DOTS(ABOVE))))) FEH FEH(FINAL(FORM) INITIAL(FORM) ISOLATED(FORM)",
   "MEDIAL(FORM) WITH(DOT(BELOW BELOW(AND(THREE(DOTS(ABOVE)))) MOVED(BELOW))",
   "THREE(DOTS(BELOW POINTING(UPWARDS(BELOW)))) TWO(DOTS(BELOW)))) GAF GAF(FINAL(FORM)",
   "INITIAL(FORM) ISOLATED(FORM) MEDIAL(FORM) WITH(INVERTED(STROKE) RING THREE(DOTS(ABOVE))",
   "TWO(DOTS(BELOW)))) GHAIN GHAIN(FINAL(FORM) INITIAL(FORM) ISOLATED(FORM) MEDIAL(FORM)",
   "WITH(DOT(BELOW) THREE(DOTS(ABOVE)))) GRAF GUEH GUEH(FINAL(FORM) INITIAL(FORM)",
   "ISOLATED(FORM) MEDIAL(FORM)) HAH HAH(FINAL(FORM) INITIAL(FORM) ISOLATED(FORM)",
   "MEDIAL(FORM) WITH(EXTENDED(ARABIC-INDIC(DIGIT(FOUR(BELOW)))) HAMZA(ABOVE)",
   "INVERTED(SMALL(V(BELOW))) SMALL(ARABIC(LETTER(TAH(ABOVE AND(TWO(DOTS)) BELOW))))",
   "THREE(DOTS(ABOVE POINTING(UPWARDS(BELOW)))) TWO(DOTS(ABOVE VERTICAL(ABOVE))))) HAMZA",
   "HAMZA(ISOLATED(FORM)) HEH HEH(DOACHASHMEE DOACHASHMEE(FINAL(FORM) INITIAL(FORM)",
   "ISOLATED(FORM) MEDIAL(FORM)) FINAL(FORM) GOAL GOAL(FINAL(FORM) INITIAL(FORM)",
   "ISOLATED(FORM) MEDIAL(FORM) WITH(HAMZA(ABOVE))) INITIAL(FORM) ISOLATED(FORM)",
   "MEDIAL(FORM) WITH(INVERTED(V) YEH(ABOVE ABOVE(FINAL(FORM) ISOLATED(FORM))))) HIGH(HAMZA",
   "HAMZA(ALEF WAW YEH)) JEEM JEEM(FINAL(FORM) INITIAL(FORM) ISOLATED(FORM) MEDIAL(FORM)",
   "WITH(THREE(DOTS(ABOVE BELOW)) TWO(DOTS(ABOVE)))) JEH JEH(FINAL(FORM) ISOLATED(FORM)) KAF",
   "KAF(FINAL(FORM) INITIAL(FORM) ISOLATED(FORM) MEDIAL(FORM) WITH(DOT(ABOVE BELOW) RING",
   "THREE(DOTS(BELOW)) TWO(DOTS(ABOVE)))) KASHMIRI(YEH) KEHEH KEHEH(FINAL(FORM)",
   "INITIAL(FORM) ISOLATED(FORM) MEDIAL(FORM) WITH(DOT(ABOVE) SMALL(V) THREE(DOTS(ABOVE",
   "BELOW POINTING(UPWARDS(BELOW)))) TWO(DOTS(ABOVE VERTICALLY(BELOW))))) KHAH",
   "KHAH(FINAL(FORM) INITIAL(FORM) ISOLATED(FORM) MEDIAL(FORM)) KIRGHIZ(OE OE(FINAL(FORM)",
   "ISOLATED(FORM)) YU YU(FINAL(FORM) ISOLATED(FORM))) LAM LAM(FINAL(FORM) INITIAL(FORM)",
   "ISOLATED(FORM) MEDIAL(FORM) WITH(BAR DOT(ABOVE) DOUBLE(BAR)",
   "SMALL(ARABIC(LETTER(TAH(ABOVE))) V) THREE(DOTS(ABOVE BELOW)))) LOW(ALEF) MARK MEEM",
   "MEEM(FINAL(FORM) INITIAL(FORM) ISOLATED(FORM) MEDIAL(FORM) WITH(DOT(ABOVE BELOW)",
   "THREE(DOTS(ABOVE)))) NG NG(FINAL(FORM) INITIAL(FORM) ISOLATED(FORM) MEDIAL(FORM)) NGOEH",
   "NGOEH(FINAL(FORM) INITIAL(FORM) ISOLATED(FORM) MEDIAL(FORM)) NOON NOON(FINAL(FORM)",
   "GHUNNA GHUNNA(FINAL(FORM) ISOLATED(FORM)) INITIAL(FORM) ISOLATED(FORM) MEDIAL(FORM)",
   "WITH(DOT(BELOW) INVERTED(SMALL(V)) RING SMALL(TAH V) THREE(DOTS(ABOVE))",
   "TWO(DOTS(BELOW)))) NYEH NYEH(FINAL(FORM) INITIAL(FORM) ISOLATED(FORM) MEDIAL(FORM)) OE",
   "OE(FINAL(FORM) ISOLATED(FORM)) PEH PEH(FINAL(FORM) INITIAL(FORM) ISOLATED(FORM)",
   "MEDIAL(FORM) WITH(SMALL(MEEM(ABOVE) V))) PEHEH PEHEH(FINAL(FORM) INITIAL(FORM)",
   "ISOLATED(FORM) MEDIAL(FORM)) QAF QAF(FINAL(FORM) INITIAL(FORM) ISOLATED(FORM)",
   "MEDIAL(FORM) WITH(DOT(ABOVE BELOW BELOW(AND(NO(DOTS(ABOVE))))) THREE(DOTS(ABOVE)))) REH",
   "REH(FINAL(FORM) ISOLATED(FORM) WITH(DOT(BELOW BELOW(AND(DOT(ABOVE)))) FOUR(DOTS(ABOVE))",
   "HAMZA(ABOVE) INVERTED(V) LOOP RING SMALL(ARABIC(LETTER(TAH(AND(TWO(DOTS))))) NOON(ABOVE)",
   "V V(BELOW)) STROKE TWO(DOTS(ABOVE VERTICALLY(ABOVE))))) RNOON RNOON(FINAL(FORM)",
   "INITIAL(FORM) ISOLATED(FORM) MEDIAL(FORM)) ROHINGYA(YEH) RREH RREH(FINAL(FORM)",
   "ISOLATED(FORM)) SAD SAD(FINAL(FORM) INITIAL(FORM) ISOLATED(FORM) MEDIAL(FORM)",
   "WITH(THREE(DOTS(ABOVE BELOW)) TWO(DOTS(BELOW)))) SEEN SEEN(FINAL(FORM) INITIAL(FORM)",
   "ISOLATED(FORM) MEDIAL(FORM) WITH(DOT(BELOW(AND(DOT(ABOVE))))",
   "EXTENDED(ARABIC-INDIC(DIGIT(FOUR(ABOVE)))) FOUR(DOTS(ABOVE)) INVERTED(V)",
   "SMALL(ARABIC(LETTER(TAH(AND(TWO(DOTS)))))) THREE(DOTS(BELOW",
   "BELOW(AND(THREE(DOTS(ABOVE)))))) TWO(DOTS(VERTICALLY(ABOVE))))) SHEEN SHEEN(FINAL(FORM)",
   "INITIAL(FORM) ISOLATED(FORM) MEDIAL(FORM) WITH(DOT(BELOW))) STRAIGHT(WAW)",
   "SUPERSCRIPT(ALEF) SWASH(KAF) TAH TAH(FINAL(FORM) INITIAL(FORM) ISOLATED(FORM)",
   "MEDIAL(FORM) WITH(DOT(BELOW) THREE(DOTS(ABOVE BELOW)) TWO(DOTS(ABOVE)))) TCHEH",
   "TCHEH(FINAL(FORM) INITIAL(FORM) ISOLATED(FORM) MEDIAL(FORM) WITH(DOT(ABOVE) SMALL(V)))",
   "TCHEHEH TCHEHEH(FINAL(FORM) INITIAL(FORM) ISOLATED(FORM) MEDIAL(FORM)) TEH",
   "TEH(FINAL(FORM) INITIAL(FORM) ISOLATED(FORM) MARBUTA MARBUTA(FINAL(FORM) GOAL",
   "ISOLATED(FORM)) MEDIAL(FORM) WITH(RING SMALL(TEH(ABOVE) V)",
   "THREE(DOTS(ABOVE(DOWNWARDS))))) TEHEH TEHEH(FINAL(FORM) INITIAL(FORM) ISOLATED(FORM)",
   "MEDIAL(FORM)) THAL THAL(FINAL(FORM) ISOLATED(FORM)) THEH THEH(FINAL(FORM) INITIAL(FORM)",
   "ISOLATED(FORM) MEDIAL(FORM)) THIN(YEH) TTEH TTEH(FINAL(FORM) INITIAL(FORM)",
   "ISOLATED(FORM) MEDIAL(FORM) WITH(SMALL(V))) TTEHEH TTEHEH(FINAL(FORM) INITIAL(FORM)",
   "ISOLATED(FORM) MEDIAL(FORM)) U U(FINAL(FORM) ISOLATED(FORM) WITH(HAMZA(ABOVE",
   "ABOVE(ISOLATED(FORM))))) UIGHUR(KAZAKH(KIRGHIZ(ALEF(MAKSURA(INITIAL(FORM)",
   "MEDIAL(FORM)))))) VE VE(FINAL(FORM) ISOLATED(FORM)) VEH VEH(FINAL(FORM) INITIAL(FORM)",
   "ISOLATED(FORM) MEDIAL(FORM)) WAW WAW(FINAL(FORM) ISOLATED(FORM) WITH(DOT(ABOVE WITHIN)",
   "EXTENDED(ARABIC-INDIC(DIGIT(THREE(ABOVE) TWO(ABOVE)))) HAMZA(ABOVE ABOVE(FINAL(FORM)",
   "ISOLATED(FORM))) RING TWO(DOTS(ABOVE)))) YEH YEH(BARREE BARREE(FINAL(FORM)",
   "ISOLATED(FORM) WITH(EXTENDED(ARABIC-INDIC(DIGIT(THREE(ABOVE) TWO(ABOVE)))) HAMZA(ABOVE",
   "ABOVE(FINAL(FORM) ISOLATED(FORM))))) FINAL(FORM) INITIAL(FORM) ISOLATED(FORM)",
   "MEDIAL(FORM) WITH(HAMZA(ABOVE ABOVE(FINAL(FORM) INITIAL(FORM) ISOLATED(FORM)",
   "MEDIAL(FORM))) SMALL(V) TAIL THREE(DOTS(BELOW)) TWO(DOTS(BELOW(AND(DOT(ABOVE)",
   "HAMZA(ABOVE) SMALL(NOON(ABOVE)))))))) YU YU(FINAL(FORM) ISOLATED(FORM)) ZAH",
   "ZAH(FINAL(FORM) INITIAL(FORM) ISOLATED(FORM) MEDIAL(FORM)) ZAIN ZAIN(FINAL(FORM)",
   "ISOLATED(FORM) WITH(INVERTED(V(ABOVE))))) LIGATURE(AIN(WITH(ALEF(MAKSURA(FINAL(FORM)",
   "ISOLATED(FORM))) JEEM(INITIAL(FORM) ISOLATED(FORM) WITH(MEEM(FINAL(FORM)",
   "INITIAL(FORM)))) MEEM(INITIAL(FORM) ISOLATED(FORM) WITH(ALEF(MAKSURA(FINAL(FORM)))",
   "MEEM(FINAL(FORM) INITIAL(FORM)) YEH(FINAL(FORM)))) YEH(FINAL(FORM) ISOLATED(FORM))))",
   "AKBAR(ISOLATED(FORM)) ALAYHAA(AS-SALAAM) ALAYHE(ISOLATED(FORM)) ALAYHI(AS-SALAAM",
   "AS-SALAATU(WAS-SALAAM)) ALAYHIM(AS-SALAAM) ALAYHIMAA(AS-SALAAM)",
   "ALEF(MAKSURA(WITH(SUPERSCRIPT(ALEF(FINAL(FORM) ISOLATED(FORM)))))",
   "WITH(FATHATAN(FINAL(FORM) ISOLATED(FORM)))) ALLAH(ISOLATED(FORM)) AZZA(WA(JALL))",
   "BEH(WITH(ALEF(MAKSURA(FINAL(FORM) ISOLATED(FORM))) HAH(INITIAL(FORM) ISOLATED(FORM)",
   "WITH(YEH(FINAL(FORM)))) HEH(INITIAL(FORM) MEDIAL(FORM)) JEEM(INITIAL(FORM)",
   "ISOLATED(FORM)) KHAH(INITIAL(FORM) ISOLATED(FORM) WITH(YEH(FINAL(FORM))))",
   "MEEM(FINAL(FORM) INITIAL(FORM) ISOLATED(FORM) MEDIAL(FORM)) NOON(FINAL(FORM))",
   "REH(FINAL(FORM)) YEH(FINAL(FORM) ISOLATED(FORM)) ZAIN(FINAL(FORM))))",
   "BISMILLAH(AR-RAHMAN(AR-RAHEEM)) DAD(WITH(ALEF(MAKSURA(FINAL(FORM) ISOLATED(FORM)))",
   "HAH(INITIAL(FORM) ISOLATED(FORM) WITH(ALEF(MAKSURA(FINAL(FORM))) YEH(FINAL(FORM))))",
   "JEEM(INITIAL(FORM) ISOLATED(FORM)) KHAH(INITIAL(FORM) ISOLATED(FORM)",
   "WITH(MEEM(FINAL(FORM) INITIAL(FORM)))) MEEM(INITIAL(FORM) ISOLATED(FORM))",
   "REH(FINAL(FORM) ISOLATED(FORM)) YEH(FINAL(FORM) ISOLATED(FORM))))",
   "FEH(WITH(ALEF(MAKSURA(FINAL(FORM) ISOLATED(FORM))) HAH(INITIAL(FORM) ISOLATED(FORM))",
   "JEEM(INITIAL(FORM) ISOLATED(FORM)) KHAH(INITIAL(FORM) ISOLATED(FORM)",
   "WITH(MEEM(FINAL(FORM) INITIAL(FORM)))) MEEM(INITIAL(FORM) ISOLATED(FORM)",
   "WITH(YEH(FINAL(FORM)))) YEH(FINAL(FORM) ISOLATED(FORM))))",
   "GHAIN(WITH(ALEF(MAKSURA(FINAL(FORM) ISOLATED(FORM))) JEEM(INITIAL(FORM) ISOLATED(FORM))",
   "MEEM(INITIAL(FORM) ISOLATED(FORM) WITH(ALEF(MAKSURA(FINAL(FORM))) MEEM(FINAL(FORM))",
   "YEH(FINAL(FORM)))) YEH(FINAL(FORM) ISOLATED(FORM)))) HAH(WITH(ALEF(MAKSURA(FINAL(FORM)",
   "ISOLATED(FORM))) JEEM(INITIAL(FORM) ISOLATED(FORM) WITH(YEH(FINAL(FORM))))",
   "MEEM(INITIAL(FORM) ISOLATED(FORM) WITH(ALEF(MAKSURA(FINAL(FORM))) YEH(FINAL(FORM))))",
   "YEH(FINAL(FORM) ISOLATED(FORM)))) HEH(WITH(ALEF(MAKSURA(ISOLATED(FORM)))",
   "JEEM(INITIAL(FORM) ISOLATED(FORM)) MEEM(INITIAL(FORM) ISOLATED(FORM)",
   "WITH(JEEM(INITIAL(FORM)) MEEM(INITIAL(FORM)))) SUPERSCRIPT(ALEF(INITIAL(FORM)))",
   "YEH(ISOLATED(FORM)))) JALLAJALALOUHOU JEEM(WITH(ALEF(MAKSURA(FINAL(FORM)",
   "ISOLATED(FORM))) HAH(INITIAL(FORM) ISOLATED(FORM) WITH(ALEF(MAKSURA(FINAL(FORM)))",
   "YEH(FINAL(FORM)))) MEEM(INITIAL(FORM) ISOLATED(FORM) WITH(ALEF(MAKSURA(FINAL(FORM)))",
   "HAH(FINAL(FORM) INITIAL(FORM)) YEH(FINAL(FORM)))) YEH(FINAL(FORM) ISOLATED(FORM))))",
   "KAF(WITH(ALEF(FINAL(FORM) ISOLATED(FORM) MAKSURA(FINAL(FORM) ISOLATED(FORM)))",
   "HAH(INITIAL(FORM) ISOLATED(FORM)) JEEM(INITIAL(FORM) ISOLATED(FORM)) KHAH(INITIAL(FORM)",
   "ISOLATED(FORM)) LAM(FINAL(FORM) INITIAL(FORM) ISOLATED(FORM) MEDIAL(FORM))",
   "MEEM(FINAL(FORM) INITIAL(FORM) ISOLATED(FORM) MEDIAL(FORM) WITH(MEEM(FINAL(FORM)",
   "INITIAL(FORM)) YEH(FINAL(FORM)))) YEH(FINAL(FORM) ISOLATED(FORM))))",
   "KHAH(WITH(ALEF(MAKSURA(FINAL(FORM) ISOLATED(FORM))) HAH(ISOLATED(FORM))",
   "JEEM(INITIAL(FORM) ISOLATED(FORM)) MEEM(INITIAL(FORM) ISOLATED(FORM)) YEH(FINAL(FORM)",
   "ISOLATED(FORM)))) LAM(WITH(ALEF(FINAL(FORM) ISOLATED(FORM) MAKSURA(FINAL(FORM)",
   "ISOLATED(FORM)) WITH(HAMZA(ABOVE(FINAL(FORM) ISOLATED(FORM)) BELOW(FINAL(FORM)",
   "ISOLATED(FORM))) MADDA(ABOVE(FINAL(FORM) ISOLATED(FORM))))) HAH(INITIAL(FORM)",
   "ISOLATED(FORM) WITH(ALEF(MAKSURA(FINAL(FORM))) MEEM(FINAL(FORM) INITIAL(FORM))",
   "YEH(FINAL(FORM)))) HEH(INITIAL(FORM)) JEEM(INITIAL(FORM) ISOLATED(FORM)",
   "WITH(JEEM(FINAL(FORM) INITIAL(FORM)) MEEM(FINAL(FORM) INITIAL(FORM)) YEH(FINAL(FORM))))",
   "KHAH(INITIAL(FORM) ISOLATED(FORM) WITH(MEEM(FINAL(FORM) INITIAL(FORM))))",
   "MEEM(FINAL(FORM) INITIAL(FORM) ISOLATED(FORM) MEDIAL(FORM) WITH(HAH(FINAL(FORM)",
   "INITIAL(FORM)) YEH(FINAL(FORM)))) YEH(FINAL(FORM) ISOLATED(FORM))))",
   "MEEM(WITH(ALEF(FINAL(FORM) MAKSURA(ISOLATED(FORM))) HAH(INITIAL(FORM) ISOLATED(FORM)",
   "WITH(JEEM(INITIAL(FORM)) MEEM(INITIAL(FORM)) YEH(FINAL(FORM)))) JEEM(INITIAL(FORM)",
   "ISOLATED(FORM) WITH(HAH(INITIAL(FORM)) KHAH(INITIAL(FORM)) MEEM(INITIAL(FORM))",
   "YEH(FINAL(FORM)))) KHAH(INITIAL(FORM) ISOLATED(FORM) WITH(JEEM(INITIAL(FORM))",
   "MEEM(INITIAL(FORM)) YEH(FINAL(FORM)))) MEEM(FINAL(FORM) INITIAL(FORM) ISOLATED(FORM)",
   "WITH(YEH(FINAL(FORM)))) YEH(ISOLATED(FORM)))) MOHAMMAD(ISOLATED(FORM))",
   "NOON(WITH(ALEF(MAKSURA(FINAL(FORM) ISOLATED(FORM))) HAH(INITIAL(FORM) ISOLATED(FORM)",
   "WITH(ALEF(MAKSURA(FINAL(FORM))) MEEM(INITIAL(FORM)) YEH(FINAL(FORM)))) HEH(INITIAL(FORM)",
   "MEDIAL(FORM)) JEEM(INITIAL(FORM) ISOLATED(FORM) WITH(ALEF(MAKSURA(FINAL(FORM)))",
   "HAH(FINAL(FORM) INITIAL(FORM)) MEEM(FINAL(FORM) INITIAL(FORM)) YEH(FINAL(FORM))))",
   "KHAH(INITIAL(FORM) ISOLATED(FORM)) MEEM(FINAL(FORM) INITIAL(FORM) ISOLATED(FORM)",
   "MEDIAL(FORM) WITH(ALEF(MAKSURA(FINAL(FORM))) YEH(FINAL(FORM)))) NOON(FINAL(FORM))",
   "REH(FINAL(FORM)) YEH(FINAL(FORM) ISOLATED(FORM)) ZAIN(FINAL(FORM))))",
   "QAF(WITH(ALEF(MAKSURA(FINAL(FORM) ISOLATED(FORM))) HAH(INITIAL(FORM) ISOLATED(FORM))",
   "MEEM(INITIAL(FORM) ISOLATED(FORM) WITH(HAH(FINAL(FORM) INITIAL(FORM)) MEEM(FINAL(FORM))",
   "YEH(FINAL(FORM)))) YEH(FINAL(FORM) ISOLATED(FORM))))",
   "QALA(USED(AS(KORANIC(STOP(SIGN(ISOLATED(FORM))))))) QUDDISA(SIRRAH) RADI(ALLAAHU(ANH",
   "ANHAA ANHUM ANHUMAA ANHUNNA)) RAHIMAHU(ALLAAH) RAHIMAHUM(ALLAAH) RASOUL(ISOLATED(FORM))",
   "REH(WITH(SUPERSCRIPT(ALEF(ISOLATED(FORM))))) SAD(WITH(ALEF(MAKSURA(FINAL(FORM)",
   "ISOLATED(FORM))) HAH(INITIAL(FORM) ISOLATED(FORM) WITH(HAH(FINAL(FORM) INITIAL(FORM))",
   "YEH(FINAL(FORM)))) KHAH(INITIAL(FORM)) MEEM(INITIAL(FORM) ISOLATED(FORM)",
   "WITH(MEEM(FINAL(FORM) INITIAL(FORM)))) REH(FINAL(FORM) ISOLATED(FORM)) YEH(FINAL(FORM)",
   "ISOLATED(FORM)))) SALAAMUHU(ALAYNAA) SALAM(ISOLATED(FORM)) SALLA(ISOLATED(FORM)",
   "USED(AS(KORANIC(STOP(SIGN(ISOLATED(FORM))))))) SALLALLAAHU(ALAYHI(WA-AALIH))",
   "SALLALLAHOU(ALAYHE(WASALLAM)) SALLALLAHU(ALAYHI(WAAALIHEE(WA-SALLAM)))",
   "SEEN(WITH(ALEF(MAKSURA(FINAL(FORM) ISOLATED(FORM))) HAH(INITIAL(FORM) ISOLATED(FORM)",
   "MEDIAL(FORM) WITH(JEEM(INITIAL(FORM)))) HEH(INITIAL(FORM) MEDIAL(FORM))",
   "JEEM(INITIAL(FORM) ISOLATED(FORM) MEDIAL(FORM) WITH(ALEF(MAKSURA(FINAL(FORM)))",
   "HAH(INITIAL(FORM)))) KHAH(INITIAL(FORM) ISOLATED(FORM) MEDIAL(FORM)",
   "WITH(ALEF(MAKSURA(FINAL(FORM))) YEH(FINAL(FORM)))) MEEM(INITIAL(FORM) ISOLATED(FORM)",
   "MEDIAL(FORM) WITH(HAH(FINAL(FORM) INITIAL(FORM)) JEEM(INITIAL(FORM)) MEEM(FINAL(FORM)",
   "INITIAL(FORM)))) REH(FINAL(FORM) ISOLATED(FORM)) YEH(FINAL(FORM) ISOLATED(FORM))))",
   "SHADDA(WITH(DAMMA(ISOLATED(FORM) MEDIAL(FORM)) DAMMATAN(ISOLATED(FORM))",
   "FATHA(ISOLATED(FORM) MEDIAL(FORM)) KASRA(ISOLATED(FORM) MEDIAL(FORM))",
   "KASRATAN(ISOLATED(FORM)) SUPERSCRIPT(ALEF(ISOLATED(FORM)))))",
   "SHEEN(WITH(ALEF(MAKSURA(FINAL(FORM) ISOLATED(FORM))) HAH(FINAL(FORM) INITIAL(FORM)",
   "ISOLATED(FORM) MEDIAL(FORM) WITH(MEEM(FINAL(FORM) INITIAL(FORM)) YEH(FINAL(FORM))))",
   "HEH(INITIAL(FORM) MEDIAL(FORM)) JEEM(FINAL(FORM) INITIAL(FORM) ISOLATED(FORM)",
   "MEDIAL(FORM) WITH(YEH(FINAL(FORM)))) KHAH(FINAL(FORM) INITIAL(FORM) ISOLATED(FORM)",
   "MEDIAL(FORM)) MEEM(FINAL(FORM) INITIAL(FORM) ISOLATED(FORM) MEDIAL(FORM)",
   "WITH(KHAH(FINAL(FORM) INITIAL(FORM)) MEEM(FINAL(FORM) INITIAL(FORM)))) REH(FINAL(FORM)",
   "ISOLATED(FORM)) YEH(FINAL(FORM) ISOLATED(FORM)))) SUBHAANAHU(WA(TAAALAA))",
   "TABAARAKA(WA-TAAALAA) TAH(WITH(ALEF(MAKSURA(FINAL(FORM) ISOLATED(FORM)))",
   "HAH(INITIAL(FORM) ISOLATED(FORM)) MEEM(INITIAL(FORM) ISOLATED(FORM) MEDIAL(FORM)",
   "WITH(HAH(FINAL(FORM) INITIAL(FORM)) MEEM(INITIAL(FORM)) YEH(FINAL(FORM))))",
   "YEH(FINAL(FORM) ISOLATED(FORM)))) TEH(WITH(ALEF(MAKSURA(FINAL(FORM) ISOLATED(FORM)))",
   "HAH(INITIAL(FORM) ISOLATED(FORM) WITH(JEEM(FINAL(FORM) INITIAL(FORM))",
   "MEEM(INITIAL(FORM)))) HEH(INITIAL(FORM) MEDIAL(FORM)) JEEM(INITIAL(FORM) ISOLATED(FORM)",
   "WITH(ALEF(MAKSURA(FINAL(FORM))) MEEM(INITIAL(FORM)) YEH(FINAL(FORM))))",
   "KHAH(INITIAL(FORM) ISOLATED(FORM) WITH(ALEF(MAKSURA(FINAL(FORM))) MEEM(INITIAL(FORM))",
   "YEH(FINAL(FORM)))) MEEM(FINAL(FORM) INITIAL(FORM) ISOLATED(FORM) MEDIAL(FORM)",
   "WITH(ALEF(MAKSURA(FINAL(FORM))) HAH(INITIAL(FORM)) JEEM(INITIAL(FORM))",
   "KHAH(INITIAL(FORM)) YEH(FINAL(FORM)))) NOON(FINAL(FORM)) REH(FINAL(FORM))",
   "YEH(FINAL(FORM) ISOLATED(FORM)) ZAIN(FINAL(FORM))))",
   "THAL(WITH(SUPERSCRIPT(ALEF(ISOLATED(FORM))))) THEH(WITH(ALEF(MAKSURA(FINAL(FORM)",
   "ISOLATED(FORM))) HEH(MEDIAL(FORM)) JEEM(ISOLATED(FORM)) MEEM(FINAL(FORM) INITIAL(FORM)",
   "ISOLATED(FORM) MEDIAL(FORM)) NOON(FINAL(FORM)) REH(FINAL(FORM)) YEH(FINAL(FORM)",
   "ISOLATED(FORM)) ZAIN(FINAL(FORM))))",
   "UIGHUR(KIRGHIZ(YEH(WITH(HAMZA(ABOVE(WITH(ALEF(MAKSURA(FINAL(FORM) INITIAL(FORM)",
   "ISOLATED(FORM)))))))))) WASALLAM(ISOLATED(FORM)) YEH(WITH(ALEF(MAKSURA(FINAL(FORM)",
   "ISOLATED(FORM))) HAH(INITIAL(FORM) ISOLATED(FORM) WITH(YEH(FINAL(FORM))))",
   "HAMZA(ABOVE(WITH(AE(FINAL(FORM) ISOLATED(FORM)) ALEF(FINAL(FORM) ISOLATED(FORM)",
   "MAKSURA(FINAL(FORM) ISOLATED(FORM))) E(FINAL(FORM) INITIAL(FORM) ISOLATED(FORM))",
   "HAH(INITIAL(FORM) ISOLATED(FORM)) HEH(INITIAL(FORM) MEDIAL(FORM)) JEEM(INITIAL(FORM)",
   "ISOLATED(FORM)) KHAH(INITIAL(FORM)) MEEM(FINAL(FORM) INITIAL(FORM) ISOLATED(FORM)",
   "MEDIAL(FORM)) NOON(FINAL(FORM)) OE(FINAL(FORM) ISOLATED(FORM)) REH(FINAL(FORM))",
   "U(FINAL(FORM) ISOLATED(FORM)) WAW(FINAL(FORM) ISOLATED(FORM)) YEH(FINAL(FORM)",
   "ISOLATED(FORM)) YU(FINAL(FORM) ISOLATED(FORM)) ZAIN(FINAL(FORM))))) HEH(INITIAL(FORM)",
   "MEDIAL(FORM)) JEEM(INITIAL(FORM) ISOLATED(FORM) WITH(YEH(FINAL(FORM))))",
   "KHAH(INITIAL(FORM) ISOLATED(FORM)) MEEM(FINAL(FORM) INITIAL(FORM) ISOLATED(FORM)",
   "MEDIAL(FORM) WITH(MEEM(FINAL(FORM) INITIAL(FORM)) YEH(FINAL(FORM)))) NOON(FINAL(FORM))",
   "REH(FINAL(FORM)) YEH(FINAL(FORM) ISOLATED(FORM)) ZAIN(FINAL(FORM))))",
   "ZAH(WITH(MEEM(INITIAL(FORM) ISOLATED(FORM) MEDIAL(FORM))))) MADDA(WAAJIB) MADDAH(ABOVE)",
   "MARK(NOON(GHUNNA) SIDEWAYS(NOON(GHUNNA))) MATHEMATICAL(AIN ALEF BEH DAD DAL DOTLESS(BEH",
   "FEH NOON QAF) DOUBLE-STRUCK(AIN BEH DAD DAL FEH GHAIN HAH JEEM KHAH LAM MEEM NOON QAF",
   "REH SAD SEEN SHEEN TAH TEH THAL THEH WAW YEH ZAH ZAIN) FEH GHAIN HAH INITIAL(AIN BEH DAD",
   "FEH GHAIN HAH HEH JEEM KAF KHAH LAM MEEM NOON QAF SAD SEEN SHEEN TEH THEH YEH) JEEM KAF",
   "KHAH LAM LOOPED(AIN ALEF BEH DAD DAL FEH GHAIN HAH HEH JEEM KHAH LAM MEEM NOON QAF REH",
   "SAD SEEN SHEEN TAH TEH THAL THEH WAW YEH ZAH ZAIN) MEEM NOON OPERATOR(HAH(WITH(DAL))",
   "MEEM(WITH(HAH(WITH(TATWEEL))))) QAF REH SAD SEEN SHEEN STRETCHED(AIN BEH DAD DOTLESS(BEH",
   "FEH) FEH GHAIN HAH HEH JEEM KAF KHAH MEEM NOON QAF SAD SEEN SHEEN TAH TEH THEH YEH ZAH)",
   "TAH TAILED(AIN DAD DOTLESS(NOON QAF) GHAIN HAH JEEM KHAH LAM NOON QAF SAD SEEN SHEEN",
   "YEH) TEH THAL THEH WAW YEH ZAH ZAIN) NUMBER(MARK(ABOVE) SIGN) OPEN(DAMMATAN FATHATAN",
   "KASRATAN) PERCENT(SIGN) PIASTRE(MARK(ABOVE)) PLACE(OF(SAJDAH)) POETIC(VERSE(SIGN))",
   "POUND(MARK(ABOVE)) QUESTION(MARK) RAISED(ROUND(DOT)) RAY REVERSED(DAMMA)",
   "RIGHT(ARROWHEAD(ABOVE ABOVE(WITH(DOT)) BELOW)) ROUNDED(HIGH(STOP(WITH(FILLED(CENTRE)))))",
   "SEMICOLON SHADDA SHADDA(ISOLATED(FORM) MEDIAL(FORM)) SIGN(ALAYHE(ASSALLAM) MISRA",
   "RADI(ALLAHOU(ANHU)) RAHMATULLAH(ALAYHE) SAFHA SALLALLAHOU(ALAYHE(WASSALLAM)) SAMVAT",
   "SANAH SINDHI(AMPERSAND POSTPOSITION(MEN)) TAKHALLUS) SMALL(DAMMA FARSI(YEH) FATHA",
   "HIGH(AIN DOTLESS(HEAD(OF(KHAH))) FARSI(YEH) FOOTNOTE(MARKER) JEEM LAM(ALEF)",
   "LIGATURE(ALEF(WITH(LAM(WITH(YEH)))) QAF(WITH(LAM(WITH(ALEF(MAKSURA)))))",
   "SAD(WITH(LAM(WITH(ALEF(MAKSURA)))))) MADDA MEEM(INITIAL(FORM) ISOLATED(FORM)) NOON",
   "NOON(WITH(KASRA)) QAF ROUNDED(ZERO) SAD SEEN SIGN(SAFHA) TAH THREE(DOTS)",
   "UPRIGHT(RECTANGULAR(ZERO)) WAW WORD(AL-JUZ AN-NISF AR-RUB AS-SAJDA ATH-THALATHA QIF SAH",
   "SAKTA WAQFA) YEH YEH(BARREE(WITH(TWO(DOTS(BELOW))))) ZAH ZAIN) KASRA LOW(MEEM",
   "NOON(WITH(KASRA)) SEEN WAW WORD(IMAALA ISHMAAM TASHEEL)) WAW YEH)",
   "START(OF(RUB(EL(HIZB)))) SUBSCRIPT(ALEF) SUKUN SUKUN(BELOW ISOLATED(FORM) MEDIAL(FORM))",
   "SUPERSCRIPT(ALEF(MOKHASSAS)) SYMBOL(DOT(ABOVE BELOW) DOUBLE(VERTICAL(BAR(BELOW)))",
   "FOUR(DOTS(ABOVE BELOW)) RING SMALL(TAH(ABOVE BELOW)) THREE(DOTS(ABOVE BELOW",
   "POINTING(DOWNWARDS(ABOVE BELOW)))) TWO(DOTS(ABOVE BELOW VERTICALLY(ABOVE BELOW)))",
   "WASLA(ABOVE)) TAIL(FRAGMENT) TATWEEL TATWEEL(WITH(FATHATAN(ABOVE) OVERSTRUCK(HAMZA WAW)",
   "TWO(DOTS(BELOW)))) THOUSANDS(SEPARATOR) TONE(LOOP(ABOVE BELOW) ONE(DOT(ABOVE BELOW))",
   "TWO(DOTS(ABOVE BELOW))) TRIPLE(DOT(PUNCTUATION(MARK))) TURNED(DAMMA(BELOW))",
   "VERTICAL(TAIL) VOWEL(SIGN(DOT(BELOW) INVERTED(SMALL(V(ABOVE))) SMALL(V(ABOVE))))",
   "WAVY(HAMZA(BELOW)) ZWARAKAY) ARABIC-INDIC(CUBE(ROOT) DIGIT(EIGHT FIVE FOUR NINE ONE",
   "SEVEN SIX THREE TWO ZERO) FOURTH(ROOT) PER(MILLE(SIGN) TEN(THOUSAND(SIGN)))) ARC ARIES",
   "ARMENIAN(ABBREVIATION(MARK) APOSTROPHE CAPITAL(LETTER(AYB BEN CA CHA CHEH CO DA ECH EH",
   "ET FEH GHAD GIM HO INI JA JHEH KEH KEN LIWN MEN NOW OH PEH PIWR RA REH SEH SHA TIWN TO",
   "VEW VO XEH YI YIWN ZA ZHE)) COMMA DRAM(SIGN) EMPHASIS(MARK) EXCLAMATION(MARK) FULL(STOP)",
   "HYPHEN MODIFIER(LETTER(LEFT(HALF(RING)))) QUESTION(MARK) SMALL(LETTER(AYB BEN CA CHA",
   "CHEH CO DA ECH EH ET FEH GHAD GIM HO INI JA JHEH KEH KEN LIWN MEN NOW OH PEH PIWR RA REH",
   "SEH SHA TIWN TO TURNED(AYB) VEW VO XEH YI YI(WITH(STROKE)) YIWN ZA ZHE)",
   "LIGATURE(ECH(YIWN) MEN(ECH INI NOW XEH) VEW(NOW))))",
   "ARROW(POINTING(DOWNWARDS(THEN(CURVING(LEFTWARDS RIGHTWARDS)))",
   "RIGHTWARDS(THEN(CURVING(DOWNWARDS SOUTH(WEST) UPWARDS))) UPWARDS(THEN(NORTH(WEST)))))",
   "ARROWHEAD-SHAPED(POINTER) ARTICULATED(LORRY) ARTIST(PALETTE) ASCENDING(NODE)",
   "ASCIA(SYMBOL) ASSERTION ASTERISK ASTERISK(OPERATOR) ASTERISM ASTONISHED(FACE) ASTRAEA",
   "ASTRONOMICAL(SYMBOL(FOR(URANUS))) ASYMPTOTICALLY(EQUAL(TO)) ATHLETIC(SHOE) ATOM(SYMBOL)",
   "AUBERGINE AUSTRAL(SIGN) AUTO(RICKSHAW) AUTOMATED(TELLER(MACHINE)) AUTOMOBILE",
   "AVESTAN(ABBREVIATION(MARK) LETTER(A AA AAN AAO AE AEE AN AO BE BHE CE DE DHE E EE FE GE",
   "GGE GHE HE HME I II JE KE LE ME NE NGE NGVE NGYE NNE NYE O OO PE RE SE SHE SHYE SSHE TE",
   "THE TTE U UU VE XE XVE XYE YE YYE ZE ZHE)) AVOCADO AXE"]

/-- The names from B on. -/
def namesFromB : List String :=
  ["BABY BABY(ANGEL BOTTLE CHICK SYMBOL) BACK(OF(ENVELOPE) WITH(LEFTWARDS(ARROW(ABOVE))))",
   "BACK-TILTED(SHADOWED(WHITE(RIGHTWARDS(ARROW))))",
   "BACKSLANTED(SOUTH(ARROW(WITH(HOOKED(TAIL) HORIZONTAL(TAIL))))) BACKSPACE BACON",
   "BACTRIAN(CAMEL) BADGER BADMINTON(RACQUET(AND(SHUTTLECOCK))) BAGEL BAGGAGE(CLAIM)",
   "BAGUETTE(BREAD) BALINESE(ADEG(ADEG) CARIK(PAMUNGKAH PAREREN SIKI) DIGIT(EIGHT FIVE FOUR",
   "NINE ONE SEVEN SIX THREE TWO ZERO) LETTER(AIKARA AKARA AKARA(TEDUNG) ARCHAIC(JNYA)",
   "ASYURA(SASAK) BA BA(KEMBANG) CA CA(LACA) DA DA(MADU MURDA(ALPAPRANA MAHAPRANA))",
   "EF(SASAK) EKARA GA GA(GORA) HA IKARA IKARA(TEDUNG) JA JA(JERA) KA KA(MAHAPRANA)",
   "KAF(SASAK) KHOT(SASAK) LA LA(LENGA LENGA(TEDUNG)) MA NA NA(RAMBAT) NGA NYA OKARA",
   "OKARA(TEDUNG) PA PA(KAPAL) RA RA(REPA REPA(TEDUNG)) SA SA(SAGA SAPA) TA TA(LATIK",
   "MURDA(MAHAPRANA) TAWA) TZIR(SASAK) UKARA UKARA(TEDUNG) VE(SASAK) WA YA ZAL(SASAK))",
   "MUSICAL(SYMBOL(COMBINING(BENDE ENDEP GONG JEGOGAN KEMPLI KEMPLI(WITH(JEGOGAN)) KEMPUL",
   "KEMPUL(WITH(JEGOGAN)) TEGEH) DAENG DAING DANG DANG(GEDE SURANG) DENG DEUNG DING DONG",
   "DUNG LEFT-HAND(CLOSED(PLAK PLUK) OPEN(PANG PING PUNG)) RIGHT-HAND(CLOSED(TAK TUK)",
   "OPEN(DAG DUG)))) PAMADA PAMADA(LANTANG) PAMENENG PANTI PANTI(LANTANG) SIGN(BISAH CECEK",
   "REREKAN SURANG ULU(CANDRA RICEM)) VOWEL(SIGN(LA(LENGA LENGA(TEDUNG)) PEPET PEPET(TEDUNG)",
   "RA(REPA REPA(TEDUNG)) SUKU SUKU(ILUT) TALING TALING(REPA REPA(TEDUNG) TEDUNG) TEDUNG ULU",
   "ULU(SARI))) WINDU) BALL(OF(YARN)) BALLET(SHOES) BALLOON BALLOON-SPOKED(ASTERISK)",
   "BALLOT(BOLD(SCRIPT(X)) BOX BOX(WITH(BALLOT BOLD(CHECK SCRIPT(X)) CHECK LIGHT(X)",
   "SCRIPT(X) X)) SCRIPT(X) X) BAMUM(COLON COMBINING(MARK(KOQNDON TUKWENTIS)) COMMA",
   "FULL(STOP) LETTER(A EE FAAMAE FEE FOM FU I KA KEN KET KEUX KI KO KOGHOM KOVUU KPA KU",
   "KYEE LA LEEEE LI LOQ LU M MA MBAA MBEN MEEEE MEN MI MO MU NA NDAA NGA NGGA NGKWAEN NI",
   "NJAEM NJEE NJUAE NSHA NTEE NTUU NU NUAE NYI O PA PEE PEUX PHASE-A(FIRI GBIEE(FON)",
   "GHEUAEGHEUAE GHEUAERAE KAFA KAQ KET KEUKEUTNDA KPOQ KUOQ LAPAQ LET(KUT) LOMMAE LU LUAEP",
   "MAEKEUP MAEM MAEMBGBIEE MAEMKPEN MAEMVEUX MAENYI MAESI MANSUAE MAP(PIEET) MBANYI MBAQ",
   "MEUNJOMNDEUQ MGBASA MON(NGGEUAET) MOOMEUT MOOMPUQ MVEUAENGAM NAA(MFON) NAQ NDA(LEERAEWA)",
   "NDAANGGEUAET NEN NGANGU NGGEN NGKUE(MFON) NGKUENZEUM NIKA NJAM NKAARAE NKINDI NSHA",
   "NSHIEE NTAP NTAP(MFAA NTAA) NTOQPEN NYET NYI NYIT(MONGKEUAEQ) NZA(MFON) NZUN(MEUT)",
   "PA(LEERAEWA) PAAM PAARAE PAMSHAE PASHAE PET PON(MFON(PIPAEMBA PIPAEMGBIEE)",
   "PA(NJI(PIPAEMBA PIPAEMGBIEE))) PUP ROM SEUNYAM SHINDA(PA(NJI)) SHIRAE SHOQ(NSHUT(YUM))",
   "SHUENSHUET SHUM SISA SONJAM SOQ SOT SUU TEUAEN TEUTEUWEN TITA(MFON) TU(MAEMBA) TUAEP",
   "U(YUQ(NAE)) UNKNOWN VEE) PHASE-B(FEE FEUX GHEUGHEN GHEUGHEUAEM KAM KEUAEM KEUPUQ KEUYEUX",
   "KIEEM KIQ LAANAE LAM(NSHUT(NYAM)) LET LOM(NTEUM) MA MA(NJEUAENA NJUQA) MBA(MAELEE)",
   "MBAARAE MBEURI MBIT(MBAAKET) MBUOQ MEUQ MEUT(NGGEET) MFIYAQ MFON(TEUAEQ) MONTIEEN",
   "NDU(NJAA) NGGAAM NGGEU(MBU) NGGUOQ NGGUOQ(LARGE) NGKINDI(MVOP) NGOM NSEN NSHUET",
   "NTIEE(SHEUOQ) NYAEMAE NYI(NTEUM) PARUM PEESHI PIT PUNGAAM SAKEUAE SET(TU) SHET(NJAQ)",
   "SHEUAEQTU SIEE SUE TAAM TU(MAEMGBIEE NSIEE) VEUM WUAET YAFU(LEERAEWA) YEURAE)",
   "PHASE-C(BUNG FUE GBAYI GHAP GHARAE KAA KEN(FATIGUE LAW) KET KEUKAQ KEUM KEUSEUX",
   "KEUSHEUAEP KPARAQ KUOP(NKAARAE) KUT LAM LAP LIQ LU MA(KEUAERI NSIEE) MAEMBA MAESI",
   "MBAA(CABBAGE-TREE PICKET) MBANYI MBEEKEET MBERAE MBEUM MBEUX MBI MBIRIEEN MBIT MBUAEM",
   "MBUE MGBASAQ MIEE MUAE NANSANAQ NAQ NDAM NDAP NDEUAEREE NDEUT NDIDA NDOMBU NGAQ NGGEN",
   "NGGU NGGUAEN(NYAM) NGGUEET NGGUM NGGUON NGKAQ NGKUE(MAEMBA) NGOM NJAEM NJAM NJEEEE NJEUX",
   "NJUEQ NSA NSEUAEN NSHAQ NSOM NSUN NSUOT(NGOM) NTAA NTEN NTEUNGBA NTU(MBIT)",
   "NYIR(MKPARAQ(MEUN)) NZA NZEUM PEN PIN PIRIEEN RU SETFON SEUX SHIQ SHUEQ SUAET TAASHAE",
   "TET TEUTEUX TITA(YUE) TITUAEP VEUAEPEN VEUX WANGKUOQ WUP YAA YEUQ YU(MUOMAE) YUM YUWOQ)",
   "PHASE-D(FAA FEUFEUAET GHAA GHEUAE KET KEUAETMEUN KEUM KEUOT(MBUAE) KEUP KU KUN KUOM KUQ",
   "KWAET KYEE LEEEE LET LEUAEP LEUM LIEE LOQ LUM M MAENJET MALEERI MBAA MBAA(SEVEN) MBUO",
   "MEEEE MEUN MEUT MFEUAE MFEUT MFIEE MFO MFON MGBEUN MGBIEE MGBOFUM MONI MU MVOP NDAM NDEE",
   "NDEUX NDON NGGAAM NGGAAMAE NGGAP NGGEUX NGGUOM NGGWAEN NGKAP NGKEUAEQ NGKEURI NGKIEE",
   "NGKUN NGKYEE NI NJAP NJEUAEM NJEUT NJI NJIEE NJUEQ NSHEE NSHUT NSIEEP NSIEET NSUM NTEE",
   "NTEUM NTUU NU NYAM NYET NYI NYUE PAP PEE PEUTAE PIP PUQ PUUT RAEM REN(MUCH OLD) RII SAP",
   "SAQ SEUAEQ SHEE SHEUAE SHEUX SHII SHOQ SHU SOT SUAE SUE SUU TAE TEEEE TEUAEN TEUN TEUT",
   "TI TOQ TU TUOT WAP WUAEN YAEMMAE YEN YUOM YUOP YUWOQ) PHASE-E(A FA FAQ FEE FOM FU(CALL I",
   "REMEDY) FUE FUET GBET GBEUX GHAAMAE GHET GHEUAE GHEUN GHEUX GHOM I KET KEUAE KEUX KI KO",
   "KPEUX KUET KUOP KUT LAAM LAP LAQ LEUAEM LOM LOON LOOT LOQ LU MA MAE MAEM MAP MAQ MBEE",
   "MBEUM MEN MFEUQ MGBA MGBEN MI MIEE MON MUAE MVI NA NAE NDAA(MY(HOUSE) SOFTNESS) NDAP",
   "NDIAQ NDIQ NDUN NGA NGEUREUT NGGEEEE NGGEUAE NGGEUAET NGGUAESHAE(NYAM) NGGUP NGGURAE",
   "NGKA NGKAAMI NGKEUAEM NGKEUX NGKUM NGKUP NGOP NGOQ NGUAE NGUAET NJAEMLI NJEE NJEE(EPOCH)",
   "NJEUX NKOM NSHIEE NSHUE NSHUOP NTAP NTUM NYI(BETWEEN CLEAVER) NZAQ NZUQ O PA(PEOPLE",
   "PLURAL) PAA PAAM PEEM PEUT PEUX PI PIEEQ PIET PO POON PU PUAE PUAQ PUE PUM RAE RAQ REUX",
   "RIMGBA SAA SEE SET SHEUAEQ SHIQ SHO SHOQ SOM SUAEN TAA TAAQ TAEN(NTEUM) TAM TAQ TEN TEU",
   "TEUAEQ TOO TOON TOQ TUAE TUM TUMAE VEE VEUAE VOM WEUX WUE WUO YAP YEUAE YEUAET YEUM YEUX",
   "YIEE YIT YOQ(COVER SWIMMING) YUAEN YUEQ YUN YUQ) PHASE-F(EE FOM KA KEN KET KO KPA KU",
   "KYEE LA LI LOQ M MA MBAA MBEN MEEEE MO NDAA NGGA NGKWAEN NI NJAEM NJUAE NSHA NTEE NU",
   "NUAE NYI PEE PEUX PUAE REE REN REUX RIEE RII RU SAMBA SEUX SHII SHO SHU SI SUU TAA TAE",
   "TET U VUEQ WA WUE YA YOQ) PI PUAE PUE RAE REE REN REUX RIEE RII RU SAMBA SEUX SHEUX SHII",
   "SHO SHU SI SUU TAA TAE TEN TET TI U WA WUE YA YOQ YUQ) NJAEMLI QUESTION(MARK) SEMICOLON)",
   "BANANA BANJO BANK BANKNOTE(WITH(DOLLAR(SIGN) EURO(SIGN) POUND(SIGN) YEN(SIGN)))",
   "BAR(CHART OF(SOAP)) BARBER(POLE) BASEBALL BASKET BASKETBALL(AND(HOOP))",
   "BASSA(VAH(COMBINING(HIGH(TONE) HIGH-LOW(TONE) LOW(TONE) LOW-MID(TONE) MID(TONE))",
   "FULL(STOP) LETTER(A BA CE DHII DO E EE ENNI FA GAH GBU HWAH I JO KA KPAH MBE O OO PA SE",
   "TO U UWU VU WA WADDA YEIN YIE ZO))) BAT BATAK(CONSONANT(SIGN(H NG)) LETTER(A BA CA DA GA",
   "HA I JA KARO(BA) LA MA MANDAILING(HA NA SA) MBA NA NDA NGA NORTHERN(TA) NYA PA",
   "PAKPAK(WA) RA SA SIMALUNGUN(A GA HA LA MA PA RA SA WA YA) SOUTHERN(TA) U WA YA) PANGOLAT",
   "PANONGONAN SIGN(TOMPI) SYMBOL(BINDU(JUDUL NA(METEK) PANGOLAT PINARBORAS)) VOWEL(SIGN(E",
   "EE I KARO(I O) O PAKPAK(E) U U(FOR(SIMALUNGUN(SA)))))) BATH BATHTUB BATTERY",
   "BEACH(WITH(UMBRELLA)) BEAMED(ASCENDING(MUSICAL(NOTES)) DESCENDING(MUSICAL(NOTES))",
   "EIGHTH(NOTES) SIXTEENTH(NOTES)) BEANS BEAR(FACE) BEARDED(PERSON) BEATING(HEART) BEAVER",
   "BECAUSE BED BEER(MUG) BEETLE BEL BELL BELL(PEPPER SYMBOL WITH(CANCELLATION(STROKE)))",
   "BELLHOP(BELL) BENGALI(ABBREVIATION(SIGN) ANJI AU(LENGTH(MARK))",
   "CURRENCY(DENOMINATOR(SIXTEEN) NUMERATOR(FOUR ONE ONE(LESS(THAN(THE(DENOMINATOR)))) THREE",
   "TWO)) DIGIT(EIGHT FIVE FOUR NINE ONE SEVEN SIX THREE TWO ZERO) GANDA(MARK) ISSHAR",
   "LETTER(A AA AI AU BA BHA CA CHA DA DDA DDHA DHA E GA GHA HA I II JA JHA KA KHA",
   "KHANDA(TA) LA MA NA NGA NNA NYA O PA PHA RA RA(WITH(LOWER(DIAGONAL) MIDDLE(DIAGONAL)))",
   "RHA RRA SA SHA SSA TA THA TTA TTHA U UU VEDIC(ANUSVARA) VOCALIC(L LL R RR) YA YYA)",
   "RUPEE(MARK SIGN) SANDHI(MARK) SIGN(ANUSVARA AVAGRAHA CANDRABINDU NUKTA VIRAMA VISARGA)",
   "VOWEL(SIGN(AA AI AU E I II O U UU VOCALIC(L LL R RR))))",
   "BENT(ARROW(POINTING(DOWNWARDS(THEN(NORTH(EAST)))))) BENTO(BOX) BENZENE(RING",
   "RING(WITH(CIRCLE))) BET(SYMBOL) BETWEEN BEVERAGE(BOX) BHAIKSUKI(DANDA DIGIT(EIGHT FIVE",
   "FOUR NINE ONE SEVEN SIX THREE TWO ZERO) DOUBLE(DANDA) GAP(FILLER-1 FILLER-2)",
   "HUNDREDS(UNIT(MARK)) LETTER(A AA AI AU BA BHA CA CHA DA DDA DDHA DHA E GA GHA HA I II JA",
   "JHA KA KHA LA MA NA NGA NNA NYA O PA PHA RA SA SHA SSA TA THA TTA TTHA U UU VA VOCALIC(L",
   "R RR) YA) NUMBER(EIGHT EIGHTY FIFTY FIVE FORTY FOUR NINE NINETY ONE SEVEN SEVENTY SIX",
   "SIXTY TEN THIRTY THREE TWENTY TWO) SIGN(ANUSVARA AVAGRAHA CANDRABINDU VIRAMA VISARGA)",
   "VOWEL(SIGN(AA AI AU E I II O U UU VOCALIC(L R RR))) WORD(SEPARATOR)) BICYCLE BICYCLIST",
   "BIG(REVERSE(SOLIDUS) SOLIDUS) BIKINI BILLED(CAP) BILLIARDS BIOHAZARD(SIGN) BIRD",
   "BIRTHDAY(CAKE) BISON BITCOIN(SIGN) BITING(LIP) BLACK(BOWTIE CENTRE(WHITE(STAR))",
   "CHESS(BISHOP BISHOP(ROTATED(NINETY(DEGREES) TWO(HUNDRED(SEVENTY(DEGREES))))) EQUIHOPPER",
   "EQUIHOPPER(ROTATED(NINETY(DEGREES))) KING KING(ROTATED(NINETY(DEGREES)",
   "TWO(HUNDRED(SEVENTY(DEGREES))))) KNIGHT KNIGHT(ROTATED(FORTY-FIVE(DEGREES)",
   "NINETY(DEGREES) ONE(HUNDRED(THIRTY-FIVE(DEGREES))) THREE(HUNDRED(FIFTEEN(DEGREES)))",
   "TWO(HUNDRED(SEVENTY(DEGREES) TWENTY-FIVE(DEGREES))))) KNIGHT-BISHOP KNIGHT-QUEEN",
   "KNIGHT-ROOK PAWN PAWN(ROTATED(NINETY(DEGREES) TWO(HUNDRED(SEVENTY(DEGREES))))) QUEEN",
   "QUEEN(ROTATED(NINETY(DEGREES) TWO(HUNDRED(SEVENTY(DEGREES))))) ROOK",
   "ROOK(ROTATED(NINETY(DEGREES) TWO(HUNDRED(SEVENTY(DEGREES))))) TURNED(BISHOP KING KNIGHT",
   "PAWN QUEEN ROOK)) CIRCLE CIRCLE(FOR(RECORD) WITH(DOWN(ARROW) TWO(WHITE(DOTS))",
   "WHITE(DOT(RIGHT)))) CLUB(SUIT) CROSS(ON(SHIELD)) CURVED(DOWNWARDS(AND(LEFTWARDS(ARROW)",
   "RIGHTWARDS(ARROW))) LEFTWARDS(AND(DOWNWARDS(ARROW) UPWARDS(ARROW)))",
   "RIGHTWARDS(AND(DOWNWARDS(ARROW) UPWARDS(ARROW))) UPWARDS(AND(LEFTWARDS(ARROW)",
   "RIGHTWARDS(ARROW)))) DIAMOND DIAMOND(CENTRED MINUS(WHITE(X)) ON(CROSS) SUIT",
   "WITH(DOWN(ARROW))) DOWN(POINTING(BACKHAND(INDEX))) DOWN-POINTING(DOUBLE(TRIANGLE)",
   "ISOSCELES(RIGHT(TRIANGLE)) SMALL(TRIANGLE) TRIANGLE) DOWNWARDS(EQUILATERAL(ARROWHEAD))",
   "DRAUGHTS(KING MAN) DROPLET FLAG FLORETTE FOLDER FOUR(POINTED(STAR))",
   "HARD(SHELL(FLOPPY(DISK))) HEART HEART(SUIT) HEXAGON HORIZONTAL(ELLIPSE) HOURGLASS",
   "LARGE(CIRCLE SQUARE) LEFT(LANE(MERGE) POINTING(BACKHAND(INDEX) INDEX))",
   "LEFT-POINTING(DOUBLE(TRIANGLE TRIANGLE(WITH(VERTICAL(BAR)))) ISOSCELES(RIGHT(TRIANGLE))",
   "POINTER SMALL(TRIANGLE) TRIANGLE) LEFTWARDS(BULLET EQUILATERAL(ARROWHEAD))",
   "LOWER(LEFT(TRIANGLE) RIGHT(TRIANGLE)) LOZENGE MEDIUM(DIAMOND DOWN-POINTING(TRIANGLE",
   "TRIANGLE(CENTRED)) LEFT-POINTING(TRIANGLE TRIANGLE(CENTRED)) LOZENGE",
   "RIGHT-POINTING(TRIANGLE TRIANGLE(CENTRED)) SMALL(DIAMOND LOZENGE SQUARE) SQUARE",
   "UP-POINTING(TRIANGLE TRIANGLE(CENTRED))) MOON(LILITH) NIB OCTAGON PARALLELOGRAM PENNANT",
   "PENTAGON PUSHPIN QUESTION(MARK(ORNAMENT)) RECTANGLE RIGHT(POINTING(BACKHAND(INDEX)",
   "INDEX)) RIGHT-POINTING(DOUBLE(TRIANGLE TRIANGLE(WITH(VERTICAL(BAR))))",
   "ISOSCELES(RIGHT(TRIANGLE)) PENTAGON POINTER SMALL(TRIANGLE) TRIANGLE",
   "TRIANGLE(WITH(DOUBLE(VERTICAL(BAR))))) RIGHTWARDS(ARROW ARROWHEAD BULLET",
   "EQUILATERAL(ARROWHEAD)) ROSETTE SAFETY(SCISSORS) SCISSORS SHOGI(PIECE)",
   "SKULL(AND(CROSSBONES)) SLIGHTLY(SMALL(CIRCLE SQUARE)) SMALL(DIAMOND LOZENGE SQUARE STAR)",
   "SMILING(FACE) SNOWMAN SPADE(SUIT) SQUARE SQUARE(BUTTON CENTRED FOR(STOP)) STAR",
   "SUN(WITH(RAYS)) TELEPHONE TINY(DIAMOND LOZENGE SQUARE) TOUCHTONE(TELEPHONE) TRUCK",
   "TWO-WAY(LEFT(WAY(TRAFFIC))) UNIVERSAL(RECYCLING(SYMBOL)) UP(POINTING(BACKHAND(INDEX)))",
   "UP-POINTING(DOUBLE(TRIANGLE) ISOSCELES(RIGHT(TRIANGLE)) SMALL(TRIANGLE) TRIANGLE)",
   "UPPER(LEFT(TRIANGLE) RIGHT(TRIANGLE)) UPWARDS(EQUILATERAL(ARROWHEAD)) VERTICAL(ELLIPSE",
   "RECTANGLE) VERY(SMALL(DIAMOND LOZENGE SQUARE))) BLACK-FEATHERED(NORTH(EAST(ARROW))",
   "RIGHTWARDS(ARROW) SOUTH(EAST(ARROW))) BLACK-LETTER(CAPITAL(C H I R Z)) BLANK(SYMBOL)",
   "BLOCK(SEXTANT-1 SEXTANT-12 SEXTANT-123 SEXTANT-1234 SEXTANT-12345 SEXTANT-12346",
   "SEXTANT-1235 SEXTANT-12356 SEXTANT-1236 SEXTANT-124 SEXTANT-1245 SEXTANT-12456",
   "SEXTANT-1246 SEXTANT-125 SEXTANT-1256 SEXTANT-126 SEXTANT-13 SEXTANT-134 SEXTANT-1345",
   "SEXTANT-13456 SEXTANT-1346 SEXTANT-1356 SEXTANT-136 SEXTANT-14 SEXTANT-145 SEXTANT-1456",
   "SEXTANT-146 SEXTANT-15 SEXTANT-156 SEXTANT-16 SEXTANT-2 SEXTANT-23 SEXTANT-234",
   "SEXTANT-2345 SEXTANT-23456 SEXTANT-2346 SEXTANT-235 SEXTANT-2356 SEXTANT-236 SEXTANT-24",
   "SEXTANT-245 SEXTANT-2456 SEXTANT-25 SEXTANT-256 SEXTANT-26 SEXTANT-3 SEXTANT-34",
   "SEXTANT-345 SEXTANT-3456 SEXTANT-346 SEXTANT-35 SEXTANT-356 SEXTANT-36 SEXTANT-4",
   "SEXTANT-45 SEXTANT-456 SEXTANT-46 SEXTANT-5 SEXTANT-56 SEXTANT-6) BLOSSOM BLOWFISH",
   "BLUE(BOOK HEART) BLUEBERRIES BOAR BOLD(EIGHT(SPOKED(ASTERISK)) FIVE(SPOKED(ASTERISK))",
   "GREEK(CROSS) SALTIRE SIX(SPOKED(ASTERISK)) WHITE(CIRCLE SQUARE)) BOM BOMB BONE BOOK",
   "BOOKMARK BOOKMARK(TABS) BOOKS BOOMERANG BOPOMOFO(FINAL(LETTER(G H K P T)) LETTER(A AH AI",
   "AINN AM AN ANG ANN AU AUNN B BU C CH D E EE EH EI EN ENG ENN ER F G GH GN GU GW H I IH",
   "IM INN INNN IR IU J JI K KW L LH M N NG NGG NN O O(WITH(DOT(ABOVE))) OE OM ONG ONN OO OU",
   "P Q R S SH T U UNN V X Z ZH ZI ZY)) BOTTLE(WITH(POPPING(CORK)))",
   "BOTTOM(ARC(ANTICLOCKWISE(ARROW)) CURLY(BRACKET) HALF(BLACK(CIRCLE) INTEGRAL",
   "LEFT(PARENTHESIS) RIGHT(PARENTHESIS)) LEFT(CORNER CROP HALF(BRACKET)) PARENTHESIS",
   "RIGHT(CORNER CROP HALF(BRACKET)) SQUARE(BRACKET BRACKET(OVER(TOP(SQUARE(BRACKET)))))",
   "TORTOISE(SHELL(BRACKET))) BOUQUET BOUQUET(OF(FLOWERS)) BOW(AND(ARROW)) BOWL(OF(HYGIEIA)",
   "WITH(SPOON)) BOWLING BOWTIE BOWTIE(WITH(LEFT(HALF(BLACK)) RIGHT(HALF(BLACK))))",
   "BOX(DRAWINGS(DOUBLE(DOWN(AND(HORIZONTAL LEFT RIGHT)) HORIZONTAL UP(AND(HORIZONTAL LEFT",
   "RIGHT)) VERTICAL VERTICAL(AND(HORIZONTAL LEFT RIGHT)))",
   "DOWN(DOUBLE(AND(HORIZONTAL(SINGLE) LEFT(SINGLE) RIGHT(SINGLE)))",
   "HEAVY(AND(HORIZONTAL(LIGHT) LEFT(LIGHT UP(LIGHT)) RIGHT(LIGHT UP(LIGHT))",
   "UP(HORIZONTAL(LIGHT)))) LIGHT(AND(HORIZONTAL(HEAVY) LEFT(HEAVY UP(HEAVY)) RIGHT(HEAVY",
   "UP(HEAVY)) UP(HORIZONTAL(HEAVY)))) SINGLE(AND(HORIZONTAL(DOUBLE) LEFT(DOUBLE)",
   "RIGHT(DOUBLE)))) HEAVY(DOUBLE(DASH(HORIZONTAL VERTICAL)) DOWN DOWN(AND(HORIZONTAL LEFT",
   "RIGHT)) HORIZONTAL LEFT LEFT(AND(LIGHT(RIGHT))) QUADRUPLE(DASH(HORIZONTAL VERTICAL))",
   "RIGHT TRIPLE(DASH(HORIZONTAL VERTICAL)) UP UP(AND(HORIZONTAL LEFT LIGHT(DOWN) RIGHT))",
   "VERTICAL VERTICAL(AND(HORIZONTAL LEFT RIGHT))) LEFT(DOWN(HEAVY(AND(RIGHT(UP(LIGHT)))))",
   "HEAVY(AND(RIGHT(DOWN(LIGHT) UP(LIGHT) VERTICAL(LIGHT)))) LIGHT(AND(RIGHT(DOWN(HEAVY)",
   "UP(HEAVY) VERTICAL(HEAVY)))) UP(HEAVY(AND(RIGHT(DOWN(LIGHT)))))) LIGHT(ARC(DOWN(AND(LEFT",
   "RIGHT)) UP(AND(LEFT RIGHT))) DIAGONAL(CROSS DIAMOND MIDDLE(LEFT(TO(LOWER(CENTRE",
   "CENTRE(TO(MIDDLE(RIGHT)))) UPPER(CENTRE(TO(MIDDLE(RIGHT RIGHT(TO(LOWER(CENTRE)))))))))",
   "RIGHT(TO(LOWER(CENTRE) UPPER(CENTRE(TO(MIDDLE(LEFT(TO(LOWER(CENTRE))))))))))",
   "UPPER(CENTRE(TO(MIDDLE(LEFT LEFT(AND(MIDDLE(RIGHT(TO(LOWER(CENTRE))))) TO(LOWER(CENTRE",
   "CENTRE(TO(MIDDLE(RIGHT)))))) RIGHT RIGHT(AND(MIDDLE(LEFT(TO(LOWER(CENTRE)))))",
   "TO(LOWER(CENTRE CENTRE(TO(MIDDLE(LEFT))))))))) LEFT(TO(LOWER(RIGHT)))",
   "RIGHT(TO(LOWER(LEFT))))) DOUBLE(DASH(HORIZONTAL VERTICAL)) DOWN DOWN(AND(HORIZONTAL LEFT",
   "RIGHT)) HORIZONTAL HORIZONTAL(WITH(VERTICAL(STROKE))) LEFT LEFT(AND(HEAVY(RIGHT)))",
   "QUADRUPLE(DASH(HORIZONTAL VERTICAL)) RIGHT TRIPLE(DASH(HORIZONTAL VERTICAL)) UP",
   "UP(AND(HEAVY(DOWN) HORIZONTAL LEFT RIGHT)) VERTICAL VERTICAL(AND(HORIZONTAL LEFT",
   "RIGHT))) RIGHT(DOWN(HEAVY(AND(LEFT(UP(LIGHT))))) HEAVY(AND(LEFT(DOWN(LIGHT) UP(LIGHT)",
   "VERTICAL(LIGHT)))) LIGHT(AND(LEFT(DOWN(HEAVY) UP(HEAVY) VERTICAL(HEAVY))))",
   "UP(HEAVY(AND(LEFT(DOWN(LIGHT)))))) UP(DOUBLE(AND(HORIZONTAL(SINGLE) LEFT(SINGLE)",
   "RIGHT(SINGLE))) HEAVY(AND(DOWN(HORIZONTAL(LIGHT)) HORIZONTAL(LIGHT) LEFT(DOWN(LIGHT)",
   "LIGHT) RIGHT(DOWN(LIGHT) LIGHT))) LIGHT(AND(DOWN(HORIZONTAL(HEAVY)) HORIZONTAL(HEAVY)",
   "LEFT(DOWN(HEAVY) HEAVY) RIGHT(DOWN(HEAVY) HEAVY))) SINGLE(AND(HORIZONTAL(DOUBLE)",
   "LEFT(DOUBLE) RIGHT(DOUBLE)))) VERTICAL(DOUBLE(AND(HORIZONTAL(SINGLE) LEFT(SINGLE)",
   "RIGHT(SINGLE))) HEAVY(AND(HORIZONTAL(LIGHT) LEFT(LIGHT) RIGHT(LIGHT)))",
   "LIGHT(AND(HORIZONTAL(HEAVY) LEFT(HEAVY) RIGHT(HEAVY))) SINGLE(AND(HORIZONTAL(DOUBLE)",
   "LEFT(DOUBLE) RIGHT(DOUBLE)))))) BOXING(GLOVE) BOY BOYS(SYMBOL) BPH BRAHMI(DANDA",
   "DIGIT(EIGHT FIVE FOUR NINE ONE SEVEN SIX THREE TWO ZERO) DOUBLE(DANDA) LETTER(A AA AI AU",
   "BA BHA CA CHA DA DDA DDHA DHA E GA GHA HA I II JA JHA KA KHA LA LLA MA NA NGA NNA NYA O",
   "OLD(TAMIL(LLA LLLA NNNA RRA SHORT(E O))) PA PHA RA SA SHA SSA TA THA TTA TTHA U UU VA",
   "VOCALIC(L LL R RR) YA) NUMBER(EIGHT EIGHTY FIFTY FIVE FORTY FOUR JOINER NINE NINETY ONE",
   "ONE(HUNDRED THOUSAND) SEVEN SEVENTY SIX SIXTY TEN THIRTY THREE TWENTY TWO)",
   "PUNCTUATION(CRESCENT(BAR) DOT DOUBLE(DOT) LINE LOTUS) SIGN(ANUSVARA CANDRABINDU",
   "JIHVAMULIYA OLD(TAMIL(VIRAMA)) UPADHMANIYA VISARGA) VIRAMA VOWEL(SIGN(AA AI AU",
   "BHATTIPROLU(AA) E I II O OLD(TAMIL(SHORT(E O))) U UU VOCALIC(L LL R RR))))",
   "BRAILLE(PATTERN(BLANK)) BRAIN BREAD BREAK(PERMITTED(HERE)) BREAST-FEEDING BREVE BRICK",
   "BRIDE(WITH(VEIL)) BRIDGE(AT(NIGHT)) BRIEFCASE BRIEFS BROCCOLI BROKEN(BAR",
   "CIRCLE(WITH(NORTHWEST(ARROW))) HEART) BROOM BROWN(HEART) BS BUBBLE(TEA) BUBBLES BUCKET",
   "BUG BUGINESE(END(OF(SECTION)) LETTER(A BA CA DA GA HA JA KA LA MA MPA NA NGA NGKA NRA",
   "NYA NYCA PA RA SA TA VA YA) PALLAWA VOWEL(SIGN(AE E I O U))) BUHID(LETTER(A BA DA GA HA",
   "I KA LA MA NA NGA PA RA SA TA U WA YA) VOWEL(SIGN(I U))) BUILDING(CONSTRUCTION) BULLET",
   "BULLET(OPERATOR) BULLHORN BULLHORN(WITH(SOUND(WAVES))) BULLSEYE BURRITO BUS BUS(STOP)",
   "BUST(IN(SILHOUETTE)) BUSTS(IN(SILHOUETTE)) BUTTER BUTTERFLY BYTE(ORDER(MARK))",
   "BYZANTINE(MUSICAL(SYMBOL(AGOGI(ARGI ARGOTERI GORGI GORGOTERI MESI METRIA POLI(ARGI",
   "GORGI)) ANATRICHISMA ANTIKENOKYLISMA ANTIKENOMA APESO(EKFONITIKON EXO(NEO)) APLI",
   "APODERMA(ARCHAION NEO) APOSTROFOI(SYNDESMOS(NEO) TELOUS(ICHIMATOS)) APOSTROFOS",
   "APOSTROFOS(DIPLI NEO) APOTHEMA ARGON ARGOSYNTHETON ARKTIKO(DI GA KE NI PA VOU ZO)",
   "CHAMILI CHAMILON CHOREVMA(ARCHAION NEO) CHROA(KLITON SPATHI ZYGOS) DASEIA DIARGON",
   "DIASTOLI(APLI(MEGALI MIKRI) DIPLI THESEOS) DIESIS(APLI(DYO(DODEKATA))",
   "DIGRAMMOS(EX(DODEKATA)) MONOGRAMMOS(TESSERA(DODEKATA)) TETARTIMORION",
   "TRIGRAMMOS(OKTO(DODEKATA)) TRITIMORION) DIFTOGGOS(OU) DIGORGON",
   "DIGORGON(PARESTIGMENON(ARISTERA(ANO KATO) DEXIA)) DIGRAMMA(GG) DIPLI DIPLI(ARCHAION) DYO",
   "EKSTREPTON ELAFRON ENARXIS(KAI(FTHORA(VOU))) ENDOFONON EPEGERMA ETERON(ARGOSYNTHETON",
   "PARAKALESMA) EXO(EKFONITIKON) FANEROSIS(DIFONIAS MONOFONIAS TETRAFONIAS)",
   "FHTORA(SKLIRON(CHROMA(VASIS))) FTHORA(ARCHAION ARCHAION(DEYTEROU(ICHOU)) DIATONIKI(DI KE",
   "NANA NI(ANO KATO) PA ZO) ENARMONIOS(ANTIFONIA) I(YFESIS(TETARTIMORION))",
   "MALAKON(CHROMA(DIFONIAS MONOFONIAS)) NAOS(ICHOS) NENANO SKLIRON(CHROMA(SYNAFI VASIS)",
   "DIATONON(DI))) GENIKI(DIESIS YFESIS) GORGON(ARCHAION NEO(ANO KATO)",
   "PARESTIGMENON(ARISTERA DEXIA)) GORGOSYNTHETON GORTHMIKON(N(APLOUN DIPLOUN)) GRONTHISMATA",
   "ICHADIN IMIDIARGON IMIFONON IMIFTHORA IMIFTHORON ISAKIA(TELOUS(ICHIMATOS)) ISON(ARCHAION",
   "NEO) KATAVA(TROMIKON) KATAVASMA KATHISTI KENTIMA(ARCHAION NEO(ANO KATO MESO)) KENTIMATA",
   "KENTIMATA(ARCHAION NEO(ANO KATO MESO)) KLASMA KLASMA(ANO KATO) KONTEVMA KONTEVMA(ALLO)",
   "KORONIS KOUFISMA KRATIMA(ALLO ARCHAION NEO) KRATIMATA KRATIMOKOUFISMA KRATIMOYPORROON",
   "KREMASTI KYLISMA LEIMMA(DYO(CHRONON) ENOS(CHRONOU) IMISEOS(CHRONOU) TESSARON(CHRONON)",
   "TRION(CHRONON)) LEMOI LYGISMA MARTYRIA(ALLI(DEYTEROS(ICHOS) PROTOS(ICHOS))",
   "DEYTEROS(ICHOS) LEGETOS(ICHOS) PLAGIOS(ICHOS TETARTOS(ICHOS)) PROTOS(ICHOS)",
   "PROTOVARYS(ICHOS) TETARTOS(ICHOS LEGETOS(ICHOS)) TRIFONIAS TRITOS(ICHOS) VARYS(ICHOS))",
   "MIKRON(ISON) NANA OLIGON(ARCHAION NEO) OMALON OXEIA(DIPLI EKFONITIKON NEO)",
   "OXEIAI(ARCHAION) OYRANISMA(ARCHAION NEO) PARAKALESMA(ARCHAION NEO) PARAKLITIKI",
   "PARAKLITIKI(ARCHAION NEO) PARICHON PELASTON PELASTON(NEO) PERISPOMENI PETASMA PETASTI",
   "PETASTOKOUFISMA PIASMA(ARCHAION NEO) PSIFISTOLYGISMA PSIFISTON PSIFISTON(NEO)",
   "PSIFISTOPARAKALESMA PSIFISTOSYNAGMA PSILI PSILON RAPISMA REVMA SAXIMATA SEISMA",
   "SEISMA(NEO) SIMANSIS(ARSEOS ARSEOS(DISIMOU TETRASIMOU TRISIMOU) THESEOS THESEOS(DISIMOU",
   "TETRASIMOU TRISIMOU)) STAVROS STAVROS(APODEXIA) STIGMA STRAGGISMATA SYNAGMA(ARCHAION",
   "META(STAVROU) NEO) SYNEVMA SYRMA SYRMATIKI TELEIA TESSERA TETRAPLI THEMA THEMA(APLOUN)",
   "THEMATISMOS(ESO EXO) THES(KAI(APOTHES)) THITA TINAGMA TRIA TRIGORGON TRIPLI",
   "TROMIKOLYGISMA TROMIKON(ALLO ARCHAION NEO) TROMIKOPARAKALESMA TROMIKOPSIFISTON",
   "TROMIKOSYNAGMA VAREIA(DIPLI EKFONITIKON NEO) VAREIAI(ARCHAION) VATHY XIRON(KLASMA)",
   "YFEN(ANO KATO) YFESIS(APLI(DYO(DODEKATA)) DIGRAMMOS(EX(DODEKATA))",
   "MONOGRAMMOS(TESSERA(DODEKATA)) TRIGRAMMOS(OKTO(DODEKATA)) TRITIMORION) YPOKRISIS",
   "YPOKRISIS(DIPLI) YPORROI YPSILI)))"]

end InstallerKit.Text.CharacterName
