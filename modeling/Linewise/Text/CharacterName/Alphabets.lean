/-
Names of characters below 1400: the alphabets of Europe, the Near East, Africa and southern Asia.

The rows are written as `CharacterName.Row.ofText` reads them.
-/
namespace Linewise.CharacterName

/-- the rows for these characters -/
def alphabetNames : List String := [
  "20||SPACE,EXCLAMATION MARK,QUOTATION MARK,NUMBER SIGN,DOLLAR SIGN,PERCENT SIGN",
  "||AMPERSAND,APOSTROPHE,LEFT PARENTHESIS,RIGHT PARENTHESIS,ASTERISK,PLUS SIGN,COMMA,HYPHEN-MINUS,FULL STOP,SOLIDUS",
  "|DIGIT |ZERO,ONE,TWO,THREE,FOUR,FIVE,SIX,SEVEN,EIGHT,NINE",
  "||COLON,SEMICOLON,LESS-THAN SIGN,EQUALS SIGN,GREATER-THAN SIGN,QUESTION MARK,COMMERCIAL AT",
  "|LATIN CAPITAL LETTER |A,B,C,D,E,F,G,H,I,J,K,L,M,N,O,P,Q,R,S,T,U,V,W,X,Y,Z",
  "||LEFT SQUARE BRACKET,REVERSE SOLIDUS,RIGHT SQUARE BRACKET,CIRCUMFLEX ACCENT,LOW LINE,GRAVE ACCENT",
  "|LATIN SMALL LETTER |A,B,C,D,E,F,G,H,I,J,K,L,M,N,O,P,Q,R,S,T,U,V,W,X,Y,Z",
  "||LEFT CURLY BRACKET,VERTICAL LINE,RIGHT CURLY BRACKET,TILDE",
  "A0||NO-BREAK SPACE,INVERTED EXCLAMATION MARK,CENT SIGN",
  "||POUND SIGN,CURRENCY SIGN,YEN SIGN,BROKEN BAR,SECTION SIGN,DIAERESIS,COPYRIGHT SIGN,FEMININE ORDINAL INDICATOR",
  "||LEFT-POINTING DOUBLE ANGLE QUOTATION MARK,NOT SIGN,SOFT HYPHEN,REGISTERED SIGN,MACRON,DEGREE SIGN,PLUS-MINUS SIGN",
  "|SUPERSCRIPT |TWO,THREE",
  "||ACUTE ACCENT,MICRO SIGN,PILCROW SIGN",
  "||MIDDLE DOT,CEDILLA,SUPERSCRIPT ONE,MASCULINE ORDINAL INDICATOR,RIGHT-POINTING DOUBLE ANGLE QUOTATION MARK",
  "|VULGAR FRACTION |ONE QUARTER,ONE HALF,THREE QUARTERS",
  "||INVERTED QUESTION MARK",
  "|LATIN CAPITAL LETTER A WITH |GRAVE,ACUTE,CIRCUMFLEX,TILDE,DIAERESIS,RING ABOVE",
  "|LATIN CAPITAL LETTER |AE,C WITH CEDILLA,E WITH GRAVE,E WITH ACUTE,E WITH CIRCUMFLEX,E WITH DIAERESIS",
  "|LATIN CAPITAL LETTER |I WITH GRAVE,I WITH ACUTE,I WITH CIRCUMFLEX,I WITH DIAERESIS,ETH,N WITH TILDE",
  "|LATIN CAPITAL LETTER O WITH |GRAVE,ACUTE,CIRCUMFLEX,TILDE,DIAERESIS",
  "||MULTIPLICATION SIGN",
  "|LATIN CAPITAL LETTER |O WITH STROKE,U WITH GRAVE,U WITH ACUTE,U WITH CIRCUMFLEX,U WITH DIAERESIS,Y WITH ACUTE",
  "|LATIN |CAPITAL LETTER THORN,SMALL LETTER SHARP S",
  "|LATIN SMALL LETTER A WITH |GRAVE,ACUTE,CIRCUMFLEX,TILDE,DIAERESIS,RING ABOVE",
  "|LATIN SMALL LETTER |AE,C WITH CEDILLA,E WITH GRAVE,E WITH ACUTE,E WITH CIRCUMFLEX",
  "|LATIN SMALL LETTER |E WITH DIAERESIS,I WITH GRAVE,I WITH ACUTE,I WITH CIRCUMFLEX,I WITH DIAERESIS,ETH,N WITH TILDE",
  "|LATIN SMALL LETTER O WITH |GRAVE,ACUTE,CIRCUMFLEX,TILDE,DIAERESIS",
  "||DIVISION SIGN,LATIN SMALL LETTER O WITH STROKE",
  "|LATIN SMALL LETTER U WITH |GRAVE,ACUTE,CIRCUMFLEX,DIAERESIS",
  "|LATIN SMALL LETTER |Y WITH ACUTE,THORN,Y WITH DIAERESIS",
  "|LATIN CAPITAL/SMALL LETTER A WITH |MACRON,BREVE,OGONEK",
  "|LATIN CAPITAL/SMALL LETTER C WITH |ACUTE,CIRCUMFLEX,DOT ABOVE,CARON",
  "|LATIN CAPITAL/SMALL LETTER D WITH |CARON,STROKE",
  "|LATIN CAPITAL/SMALL LETTER E WITH |MACRON,BREVE,DOT ABOVE,OGONEK,CARON",
  "|LATIN CAPITAL/SMALL LETTER G WITH |CIRCUMFLEX,BREVE,DOT ABOVE,CEDILLA",
  "|LATIN CAPITAL/SMALL LETTER |H WITH CIRCUMFLEX,H WITH STROKE,I WITH TILDE,I WITH MACRON,I WITH BREVE,I WITH OGONEK",
  "|LATIN |CAPITAL LETTER I WITH DOT ABOVE,SMALL LETTER DOTLESS I",
  "|LATIN CAPITAL/SMALL |LIGATURE IJ,LETTER J WITH CIRCUMFLEX,LETTER K WITH CEDILLA",
  "||LATIN SMALL LETTER KRA",
  "|LATIN CAPITAL/SMALL LETTER L WITH |ACUTE,CEDILLA,CARON,MIDDLE DOT,STROKE",
  "|LATIN CAPITAL/SMALL LETTER N WITH |ACUTE,CEDILLA,CARON",
  "||LATIN SMALL LETTER N PRECEDED BY APOSTROPHE",
  "|LATIN CAPITAL/SMALL |LETTER ENG,LETTER O WITH MACRON,LETTER O WITH BREVE,LETTER O WITH DOUBLE ACUTE,LIGATURE OE",
  "|LATIN CAPITAL/SMALL LETTER R WITH |ACUTE,CEDILLA,CARON",
  "|LATIN CAPITAL/SMALL LETTER S WITH |ACUTE,CIRCUMFLEX,CEDILLA,CARON",
  "|LATIN CAPITAL/SMALL LETTER T WITH |CEDILLA,CARON,STROKE",
  "|LATIN CAPITAL/SMALL LETTER U WITH |TILDE,MACRON,BREVE,RING ABOVE,DOUBLE ACUTE,OGONEK",
  "|LATIN CAPITAL/SMALL LETTER |W WITH CIRCUMFLEX,Y WITH CIRCUMFLEX",
  "||LATIN CAPITAL LETTER Y WITH DIAERESIS",
  "|LATIN CAPITAL/SMALL LETTER Z WITH |ACUTE,DOT ABOVE,CARON",
  "|LATIN |SMALL LETTER LONG S,SMALL LETTER B WITH STROKE,CAPITAL LETTER B WITH HOOK",
  "|LATIN CAPITAL/SMALL LETTER |B WITH TOPBAR,TONE SIX",
  "||LATIN CAPITAL LETTER OPEN O",
  "|LATIN CAPITAL/SMALL |LETTER C WITH HOOK",
  "|LATIN CAPITAL LETTER |AFRICAN D,D WITH HOOK,D WITH TOPBAR",
  "|LATIN SMALL LETTER |D WITH TOPBAR,TURNED DELTA",
  "|LATIN CAPITAL LETTER |REVERSED E,SCHWA,OPEN E,F WITH HOOK",
  "|LATIN |SMALL LETTER F WITH HOOK,CAPITAL LETTER G WITH HOOK,CAPITAL LETTER GAMMA,SMALL LETTER HV",
  "|LATIN CAPITAL LETTER |IOTA,I WITH STROKE,K WITH HOOK",
  "|LATIN SMALL LETTER |K WITH HOOK,L WITH BAR,LAMBDA WITH STROKE",
  "|LATIN CAPITAL LETTER |TURNED M,N WITH LEFT HOOK",
  "|LATIN |SMALL LETTER N WITH LONG RIGHT LEG,CAPITAL LETTER O WITH MIDDLE TILDE",
  "|LATIN CAPITAL/SMALL LETTER |O WITH HORN,OI,P WITH HOOK",
  "||LATIN LETTER YR",
  "|LATIN CAPITAL/SMALL |LETTER TONE TWO",
  "|LATIN |CAPITAL LETTER ESH,LETTER REVERSED ESH LOOP,SMALL LETTER T WITH PALATAL HOOK",
  "|LATIN CAPITAL/SMALL |LETTER T WITH HOOK",
  "||LATIN CAPITAL LETTER T WITH RETROFLEX HOOK",
  "|LATIN CAPITAL/SMALL |LETTER U WITH HORN",
  "|LATIN CAPITAL LETTER |UPSILON,V WITH HOOK",
  "|LATIN CAPITAL/SMALL LETTER |Y WITH HOOK,Z WITH STROKE",
  "|LATIN CAPITAL LETTER |EZH,EZH REVERSED",
  "|LATIN SMALL LETTER EZH |REVERSED,WITH TAIL",
  "||LATIN LETTER TWO WITH STROKE",
  "|LATIN CAPITAL/SMALL |LETTER TONE FIVE",
  "|LATIN LETTER |INVERTED GLOTTAL STOP WITH STROKE,WYNN,DENTAL CLICK,LATERAL CLICK,ALVEOLAR CLICK,RETROFLEX CLICK",
  "|LATIN CAPITAL LETTER |DZ WITH CARON,D WITH SMALL LETTER Z WITH CARON",
  "||LATIN SMALL LETTER DZ WITH CARON",
  "|LATIN CAPITAL LETTER |LJ,L WITH SMALL LETTER J",
  "|LATIN |SMALL LETTER LJ,CAPITAL LETTER NJ,CAPITAL LETTER N WITH SMALL LETTER J,SMALL LETTER NJ",
  "|LATIN CAPITAL/SMALL LETTER |A WITH CARON,I WITH CARON,O WITH CARON,U WITH CARON",
  "|LATIN CAPITAL/SMALL LETTER U WITH DIAERESIS AND |MACRON,ACUTE,CARON,GRAVE",
  "||LATIN SMALL LETTER TURNED E",
  "|LATIN CAPITAL/SMALL LETTER |A WITH DIAERESIS AND MACRON,A WITH DOT ABOVE AND MACRON,AE WITH MACRON,G WITH STROKE",
  "|LATIN CAPITAL/SMALL LETTER |G WITH CARON,K WITH CARON,O WITH OGONEK,O WITH OGONEK AND MACRON,EZH WITH CARON",
  "|LATIN |SMALL LETTER J WITH CARON,CAPITAL LETTER DZ,CAPITAL LETTER D WITH SMALL LETTER Z,SMALL LETTER DZ",
  "|LATIN CAPITAL/SMALL |LETTER G WITH ACUTE",
  "|LATIN CAPITAL LETTER |HWAIR,WYNN",
  "|LATIN CAPITAL/SMALL LETTER |N WITH GRAVE,A WITH RING ABOVE AND ACUTE,AE WITH ACUTE",
  "|LATIN CAPITAL/SMALL LETTER |O WITH STROKE AND ACUTE,A WITH DOUBLE GRAVE,A WITH INVERTED BREVE,E WITH DOUBLE GRAVE",
  "|LATIN CAPITAL/SMALL LETTER |E WITH INVERTED BREVE,I WITH DOUBLE GRAVE,I WITH INVERTED BREVE,O WITH DOUBLE GRAVE",
  "|LATIN CAPITAL/SMALL LETTER |O WITH INVERTED BREVE,R WITH DOUBLE GRAVE,R WITH INVERTED BREVE,U WITH DOUBLE GRAVE",
  "|LATIN CAPITAL/SMALL LETTER |U WITH INVERTED BREVE,S WITH COMMA BELOW,T WITH COMMA BELOW,YOGH,H WITH CARON",
  "|LATIN |CAPITAL LETTER N WITH LONG RIGHT LEG,SMALL LETTER D WITH CURL",
  "|LATIN CAPITAL/SMALL LETTER |OU,Z WITH HOOK,A WITH DOT ABOVE,E WITH CEDILLA,O WITH DIAERESIS AND MACRON",
  "|LATIN CAPITAL/SMALL LETTER |O WITH TILDE AND MACRON,O WITH DOT ABOVE,O WITH DOT ABOVE AND MACRON,Y WITH MACRON",
  "|LATIN SMALL LETTER |L WITH CURL,N WITH CURL,T WITH CURL,DOTLESS J,DB DIGRAPH,QP DIGRAPH",
  "||LATIN CAPITAL LETTER A WITH STROKE",
  "|LATIN CAPITAL/SMALL |LETTER C WITH STROKE",
  "|LATIN CAPITAL LETTER |L WITH BAR,T WITH DIAGONAL STROKE",
  "|LATIN SMALL LETTER |S WITH SWASH TAIL,Z WITH SWASH TAIL",
  "|LATIN CAPITAL/SMALL |LETTER GLOTTAL STOP",
  "|LATIN CAPITAL LETTER |B WITH STROKE,U BAR,TURNED V",
  "|LATIN CAPITAL/SMALL LETTER |E WITH STROKE,J WITH STROKE",
  "|LATIN |CAPITAL LETTER SMALL Q WITH HOOK TAIL,SMALL LETTER Q WITH HOOK TAIL",
  "|LATIN CAPITAL/SMALL LETTER |R WITH STROKE,Y WITH STROKE",
  "|LATIN SMALL LETTER |TURNED A,ALPHA,TURNED ALPHA,B WITH HOOK,OPEN O",
  "|LATIN SMALL LETTER |C WITH CURL,D WITH TAIL,D WITH HOOK,REVERSED E,SCHWA,SCHWA WITH HOOK,OPEN E,REVERSED OPEN E",
  "|LATIN SMALL LETTER |REVERSED OPEN E WITH HOOK,CLOSED REVERSED OPEN E,DOTLESS J WITH STROKE,G WITH HOOK,SCRIPT G",
  "||LATIN LETTER SMALL CAPITAL G",
  "|LATIN SMALL LETTER |GAMMA,RAMS HORN,TURNED H,H WITH HOOK,HENG WITH HOOK,I WITH STROKE,IOTA",
  "||LATIN LETTER SMALL CAPITAL I",
  "|LATIN SMALL LETTER L WITH |MIDDLE TILDE,BELT,RETROFLEX HOOK",
  "|LATIN SMALL LETTER |LEZH,TURNED M,TURNED M WITH LONG LEG,M WITH HOOK,N WITH LEFT HOOK,N WITH RETROFLEX HOOK",
  "|LATIN |LETTER SMALL CAPITAL N,SMALL LETTER BARRED O,LETTER SMALL CAPITAL OE",
  "|LATIN SMALL LETTER |CLOSED OMEGA,PHI,TURNED R,TURNED R WITH LONG LEG",
  "|LATIN SMALL LETTER |TURNED R WITH HOOK,R WITH LONG LEG,R WITH TAIL,R WITH FISHHOOK,REVERSED R WITH FISHHOOK",
  "|LATIN LETTER SMALL CAPITAL |R,INVERTED R",
  "|LATIN SMALL LETTER |S WITH HOOK,ESH,DOTLESS J WITH STROKE AND HOOK,SQUAT REVERSED ESH,ESH WITH CURL",
  "|LATIN SMALL LETTER |TURNED T,T WITH RETROFLEX HOOK,U BAR,UPSILON,V WITH HOOK,TURNED V,TURNED W,TURNED Y",
  "||LATIN LETTER SMALL CAPITAL Y",
  "|LATIN SMALL LETTER |Z WITH RETROFLEX HOOK,Z WITH CURL,EZH,EZH WITH CURL",
  "|LATIN LETTER |GLOTTAL STOP,PHARYNGEAL VOICED FRICATIVE,INVERTED GLOTTAL STOP,STRETCHED C,BILABIAL CLICK",
  "|LATIN |LETTER SMALL CAPITAL B,SMALL LETTER CLOSED OPEN E",
  "|LATIN LETTER SMALL CAPITAL |G WITH HOOK,H",
  "|LATIN |SMALL LETTER J WITH CROSSED-TAIL,SMALL LETTER TURNED K,LETTER SMALL CAPITAL L,SMALL LETTER Q WITH HOOK",
  "|LATIN LETTER |GLOTTAL STOP WITH STROKE,REVERSED GLOTTAL STOP WITH STROKE",
  "|LATIN SMALL LETTER |DZ DIGRAPH,DEZH DIGRAPH,DZ DIGRAPH WITH CURL",
  "|LATIN SMALL LETTER |TS DIGRAPH,TESH DIGRAPH,TC DIGRAPH WITH CURL,FENG DIGRAPH,LS DIGRAPH,LZ DIGRAPH",
  "|LATIN LETTER |BILABIAL PERCUSSIVE,BIDENTAL PERCUSSIVE",
  "|LATIN SMALL LETTER TURNED H WITH |FISHHOOK,FISHHOOK AND TAIL",
  "|MODIFIER LETTER SMALL |H,H WITH HOOK,J,R,TURNED R,TURNED R WITH HOOK,CAPITAL INVERTED R,W,Y",
  "|MODIFIER LETTER |PRIME,DOUBLE PRIME,TURNED COMMA,APOSTROPHE,REVERSED COMMA,RIGHT HALF RING,LEFT HALF RING",
  "|MODIFIER LETTER |GLOTTAL STOP,REVERSED GLOTTAL STOP,LEFT ARROWHEAD,RIGHT ARROWHEAD,UP ARROWHEAD,DOWN ARROWHEAD",
  "||MODIFIER LETTER CIRCUMFLEX ACCENT,CARON",
  "|MODIFIER LETTER |VERTICAL LINE,MACRON,ACUTE ACCENT,GRAVE ACCENT,LOW VERTICAL LINE",
  "|MODIFIER LETTER |LOW MACRON,LOW GRAVE ACCENT,LOW ACUTE ACCENT,TRIANGULAR COLON,HALF TRIANGULAR COLON",
  "|MODIFIER LETTER |CENTRED RIGHT HALF RING,CENTRED LEFT HALF RING,UP TACK,DOWN TACK,PLUS SIGN,MINUS SIGN",
  "||BREVE,DOT ABOVE,RING ABOVE,OGONEK,SMALL TILDE,DOUBLE ACUTE ACCENT",
  "|MODIFIER LETTER |RHOTIC HOOK,CROSS ACCENT",
  "|MODIFIER LETTER SMALL |GAMMA,L,S,X,REVERSED GLOTTAL STOP",
  "|MODIFIER LETTER |EXTRA-HIGH TONE BAR,HIGH TONE BAR,MID TONE BAR,LOW TONE BAR,EXTRA-LOW TONE BAR",
  "|MODIFIER LETTER |YIN DEPARTING TONE MARK,YANG DEPARTING TONE MARK,VOICING,UNASPIRATED,DOUBLE APOSTROPHE",
  "|MODIFIER LETTER LOW |DOWN ARROWHEAD,UP ARROWHEAD,LEFT ARROWHEAD,RIGHT ARROWHEAD,RING",
  "|MODIFIER LETTER |MIDDLE GRAVE ACCENT,MIDDLE DOUBLE GRAVE ACCENT,MIDDLE DOUBLE ACUTE ACCENT,LOW TILDE,RAISED COLON",
  "|MODIFIER LETTER |BEGIN HIGH TONE,END HIGH TONE,BEGIN LOW TONE,END LOW TONE,SHELF,OPEN SHELF,LOW LEFT ARROW",
  "|COMBINING |GRAVE ACCENT,ACUTE ACCENT,CIRCUMFLEX ACCENT,TILDE,MACRON,OVERLINE,BREVE,DOT ABOVE,DIAERESIS",
  "|COMBINING |HOOK ABOVE,RING ABOVE,DOUBLE ACUTE ACCENT,CARON,VERTICAL LINE ABOVE,DOUBLE VERTICAL LINE ABOVE",
  "|COMBINING |DOUBLE GRAVE ACCENT,CANDRABINDU,INVERTED BREVE,TURNED COMMA ABOVE,COMMA ABOVE",
  "|COMBINING |REVERSED COMMA ABOVE,COMMA ABOVE RIGHT,GRAVE ACCENT BELOW,ACUTE ACCENT BELOW,LEFT TACK BELOW",
  "|COMBINING |RIGHT TACK BELOW,LEFT ANGLE ABOVE,HORN,LEFT HALF RING BELOW,UP TACK BELOW,DOWN TACK BELOW",
  "|COMBINING |PLUS SIGN BELOW,MINUS SIGN BELOW,PALATALIZED HOOK BELOW,RETROFLEX HOOK BELOW,DOT BELOW,DIAERESIS BELOW",
  "|COMBINING |RING BELOW,COMMA BELOW,CEDILLA,OGONEK,VERTICAL LINE BELOW,BRIDGE BELOW,INVERTED DOUBLE ARCH BELOW",
  "|COMBINING |CARON BELOW,CIRCUMFLEX ACCENT BELOW,BREVE BELOW,INVERTED BREVE BELOW,TILDE BELOW",
  "|COMBINING |MACRON BELOW,LOW LINE,DOUBLE LOW LINE,TILDE OVERLAY,SHORT STROKE OVERLAY,LONG STROKE OVERLAY",
  "|COMBINING |SHORT SOLIDUS OVERLAY,LONG SOLIDUS OVERLAY,RIGHT HALF RING BELOW,INVERTED BRIDGE BELOW",
  "|COMBINING |SQUARE BELOW,SEAGULL BELOW,X ABOVE,VERTICAL TILDE,DOUBLE OVERLINE,GRAVE TONE MARK,ACUTE TONE MARK",
  "|COMBINING GREEK |PERISPOMENI,KORONIS,DIALYTIKA TONOS,YPOGEGRAMMENI",
  "|COMBINING |BRIDGE ABOVE,EQUALS SIGN BELOW,DOUBLE VERTICAL LINE BELOW,LEFT ANGLE BELOW",
  "|COMBINING |NOT TILDE ABOVE,HOMOTHETIC ABOVE,ALMOST EQUAL TO ABOVE,LEFT RIGHT ARROW BELOW,UPWARDS ARROW BELOW",
  "|COMBINING |GRAPHEME JOINER,RIGHT ARROWHEAD ABOVE,LEFT HALF RING ABOVE,FERMATA,X BELOW,LEFT ARROWHEAD BELOW",
  "|COMBINING RIGHT ARROWHEAD |BELOW,AND UP ARROWHEAD BELOW",
  "|COMBINING |RIGHT HALF RING ABOVE,DOT ABOVE RIGHT,ASTERISK BELOW,DOUBLE RING BELOW,ZIGZAG ABOVE",
  "|COMBINING DOUBLE |BREVE BELOW,BREVE,MACRON,MACRON BELOW,TILDE,INVERTED BREVE,RIGHTWARDS ARROW BELOW",
  "|COMBINING LATIN SMALL LETTER |A,E,I,O,U,C,D,H,M,R,T,V,X",
  "|GREEK CAPITAL/SMALL LETTER |HETA,ARCHAIC SAMPI",
  "|GREEK |NUMERAL SIGN,LOWER NUMERAL SIGN",
  "|GREEK CAPITAL/SMALL |LETTER PAMPHYLIAN DIGAMMA",
  "37A|GREEK |YPOGEGRAMMENI,SMALL REVERSED LUNATE SIGMA SYMBOL",
  "|GREEK |SMALL DOTTED LUNATE SIGMA SYMBOL,SMALL REVERSED DOTTED LUNATE SIGMA SYMBOL,QUESTION MARK,CAPITAL LETTER YOT",
  "384|GREEK |TONOS,DIALYTIKA TONOS,CAPITAL LETTER ALPHA WITH TONOS,ANO TELEIA",
  "|GREEK CAPITAL LETTER |EPSILON WITH TONOS,ETA WITH TONOS,IOTA WITH TONOS,,OMICRON WITH TONOS,,UPSILON WITH TONOS",
  "|GREEK |CAPITAL LETTER OMEGA WITH TONOS,SMALL LETTER IOTA WITH DIALYTIKA AND TONOS",
  "|GREEK CAPITAL LETTER |ALPHA,BETA,GAMMA,DELTA,EPSILON,ZETA,ETA,THETA,IOTA,KAPPA,LAMDA,MU,NU,XI,OMICRON",
  "|GREEK CAPITAL LETTER |PI,RHO,,SIGMA,TAU,UPSILON,PHI,CHI,PSI,OMEGA,IOTA WITH DIALYTIKA,UPSILON WITH DIALYTIKA",
  "|GREEK SMALL LETTER |ALPHA WITH TONOS,EPSILON WITH TONOS",
  "|GREEK SMALL LETTER |ETA WITH TONOS,IOTA WITH TONOS,UPSILON WITH DIALYTIKA AND TONOS,ALPHA,BETA,GAMMA,DELTA,EPSILON",
  "|GREEK SMALL LETTER |ZETA,ETA,THETA,IOTA,KAPPA,LAMDA,MU,NU,XI,OMICRON,PI,RHO,FINAL SIGMA,SIGMA,TAU,UPSILON,PHI",
  "|GREEK SMALL LETTER |CHI,PSI,OMEGA,IOTA WITH DIALYTIKA,UPSILON WITH DIALYTIKA,OMICRON WITH TONOS,UPSILON WITH TONOS",
  "|GREEK |SMALL LETTER OMEGA WITH TONOS,CAPITAL KAI SYMBOL,BETA SYMBOL,THETA SYMBOL",
  "|GREEK UPSILON WITH |HOOK SYMBOL,ACUTE AND HOOK SYMBOL,DIAERESIS AND HOOK SYMBOL",
  "||GREEK PHI SYMBOL",
  "|GREEK |PI SYMBOL,KAI SYMBOL,LETTER ARCHAIC KOPPA,SMALL LETTER ARCHAIC KOPPA,LETTER STIGMA,SMALL LETTER STIGMA",
  "|GREEK |LETTER DIGAMMA,SMALL LETTER DIGAMMA,LETTER KOPPA,SMALL LETTER KOPPA,LETTER SAMPI,SMALL LETTER SAMPI",
  "|COPTIC CAPITAL/SMALL LETTER |SHEI,FEI,KHEI,HORI,GANGIA,SHIMA,DEI",
  "|GREEK |KAPPA SYMBOL,RHO SYMBOL,LUNATE SIGMA SYMBOL",
  "|GREEK |LETTER YOT,CAPITAL THETA SYMBOL,LUNATE EPSILON SYMBOL,REVERSED LUNATE EPSILON SYMBOL,CAPITAL LETTER SHO",
  "|GREEK |SMALL LETTER SHO,CAPITAL LUNATE SIGMA SYMBOL,CAPITAL LETTER SAN,SMALL LETTER SAN,RHO WITH STROKE SYMBOL",
  "|GREEK CAPITAL |REVERSED LUNATE SIGMA SYMBOL,DOTTED LUNATE SIGMA SYMBOL,REVERSED DOTTED LUNATE SIGMA SYMBOL",
  "|CYRILLIC CAPITAL LETTER |IE WITH GRAVE,IO,DJE,GJE,UKRAINIAN IE,DZE,BYELORUSSIAN-UKRAINIAN I",
  "|CYRILLIC CAPITAL LETTER |YI,JE,LJE,NJE,TSHE,KJE,I WITH GRAVE,SHORT U,DZHE,A,BE,VE,GHE,DE,IE,ZHE,ZE,I,SHORT I",
  "|CYRILLIC CAPITAL LETTER |KA,EL,EM,EN,O,PE,ER,ES,TE,U,EF,HA,TSE,CHE,SHA,SHCHA,HARD SIGN,YERU,SOFT SIGN,E,YU,YA",
  "|CYRILLIC SMALL LETTER |A,BE,VE,GHE,DE,IE,ZHE,ZE,I,SHORT I,KA,EL,EM,EN,O,PE,ER",
  "|CYRILLIC SMALL LETTER |ES,TE,U,EF,HA,TSE,CHE,SHA,SHCHA,HARD SIGN,YERU,SOFT SIGN,E,YU,YA,IE WITH GRAVE,IO,DJE,GJE",
  "|CYRILLIC SMALL LETTER |UKRAINIAN IE,DZE,BYELORUSSIAN-UKRAINIAN I,YI,JE,LJE,NJE,TSHE,KJE,I WITH GRAVE,SHORT U,DZHE",
  "|CYRILLIC CAPITAL/SMALL |LETTER OMEGA",
  "|CYRILLIC CAPITAL/SMALL LETTER |YAT,IOTIFIED E,LITTLE YUS,IOTIFIED LITTLE YUS,BIG YUS,IOTIFIED BIG YUS,KSI,PSI,FITA",
  "|CYRILLIC CAPITAL/SMALL LETTER |IZHITSA,IZHITSA WITH DOUBLE GRAVE ACCENT,UK,ROUND OMEGA,OMEGA WITH TITLO,OT,KOPPA",
  "||CYRILLIC THOUSANDS SIGN,COMBINING CYRILLIC TITLO",
  "|COMBINING CYRILLIC |PALATALIZATION,DASIA PNEUMATA,PSILI PNEUMATA,POKRYTIE,HUNDRED THOUSANDS SIGN,MILLIONS SIGN",
  "|CYRILLIC CAPITAL/SMALL LETTER |SHORT I WITH TAIL,SEMISOFT SIGN,ER WITH TICK,GHE WITH UPTURN",
  "|CYRILLIC CAPITAL/SMALL LETTER |GHE WITH STROKE,GHE WITH MIDDLE HOOK,ZHE WITH DESCENDER,ZE WITH DESCENDER",
  "|CYRILLIC CAPITAL/SMALL LETTER KA WITH |DESCENDER,VERTICAL STROKE,STROKE",
  "|CYRILLIC CAPITAL/SMALL |LETTER BASHKIR KA,LETTER EN WITH DESCENDER,LIGATURE EN GHE,LETTER PE WITH MIDDLE HOOK",
  "|CYRILLIC CAPITAL/SMALL LETTER |ABKHASIAN HA,ES WITH DESCENDER,TE WITH DESCENDER,STRAIGHT U,STRAIGHT U WITH STROKE",
  "|CYRILLIC CAPITAL/SMALL |LETTER HA WITH DESCENDER,LIGATURE TE TSE,LETTER CHE WITH DESCENDER",
  "|CYRILLIC CAPITAL/SMALL LETTER |CHE WITH VERTICAL STROKE,SHHA,ABKHASIAN CHE,ABKHASIAN CHE WITH DESCENDER",
  "||CYRILLIC LETTER PALOCHKA",
  "|CYRILLIC CAPITAL/SMALL |LETTER ZHE WITH BREVE",
  "|CYRILLIC CAPITAL/SMALL LETTER |KA WITH HOOK,EL WITH TAIL,EN WITH HOOK,EN WITH TAIL,KHAKASSIAN CHE,EM WITH TAIL",
  "||CYRILLIC SMALL LETTER PALOCHKA",
  "|CYRILLIC CAPITAL/SMALL |LETTER A WITH BREVE,LETTER A WITH DIAERESIS,LIGATURE A IE",
  "|CYRILLIC CAPITAL/SMALL LETTER |IE WITH BREVE,SCHWA,SCHWA WITH DIAERESIS,ZHE WITH DIAERESIS",
  "|CYRILLIC CAPITAL/SMALL LETTER |ZE WITH DIAERESIS,ABKHASIAN DZE,I WITH MACRON,I WITH DIAERESIS,O WITH DIAERESIS",
  "|CYRILLIC CAPITAL/SMALL LETTER |BARRED O,BARRED O WITH DIAERESIS,E WITH DIAERESIS,U WITH MACRON,U WITH DIAERESIS",
  "|CYRILLIC CAPITAL/SMALL LETTER |U WITH DOUBLE ACUTE,CHE WITH DIAERESIS,GHE WITH DESCENDER,YERU WITH DIAERESIS",
  "|CYRILLIC CAPITAL/SMALL LETTER |GHE WITH STROKE AND HOOK,HA WITH HOOK,HA WITH STROKE,KOMI DE,KOMI DJE",
  "|CYRILLIC CAPITAL/SMALL LETTER |KOMI ZJE,KOMI DZJE,KOMI LJE,KOMI NJE,KOMI SJE,KOMI TJE,REVERSED ZE,EL WITH HOOK,LHA",
  "|CYRILLIC CAPITAL/SMALL LETTER |RHA,YAE,QA,WE,ALEUT KA,EL WITH MIDDLE HOOK,EN WITH MIDDLE HOOK,PE WITH DESCENDER",
  "|CYRILLIC CAPITAL/SMALL LETTER |SHHA WITH DESCENDER,EN WITH LEFT HOOK,DZZHE,DCHE,EL WITH DESCENDER",
  "531|ARMENIAN CAPITAL LETTER |AYB,BEN,GIM,DA,ECH,ZA,EH,ET,TO,ZHE,INI,LIWN,XEH,CA,KEN,HO",
  "|ARMENIAN CAPITAL LETTER |JA,GHAD,CHEH,MEN,YI,NOW,SHA,VO,CHA,PEH,JHEH,RA,SEH,VEW,TIWN,REH,CO,YIWN,PIWR,KEH,OH,FEH",
  "559||ARMENIAN MODIFIER LETTER LEFT HALF RING",
  "|ARMENIAN |APOSTROPHE,EMPHASIS MARK,EXCLAMATION MARK,COMMA,QUESTION MARK,ABBREVIATION MARK",
  "|ARMENIAN SMALL LETTER |TURNED AYB,AYB,BEN,GIM,DA,ECH,ZA,EH,ET,TO,ZHE,INI,LIWN,XEH,CA,KEN",
  "|ARMENIAN SMALL LETTER |HO,JA,GHAD,CHEH,MEN,YI,NOW,SHA,VO,CHA,PEH,JHEH,RA,SEH,VEW,TIWN,REH,CO,YIWN,PIWR,KEH,OH,FEH",
  "|ARMENIAN |SMALL LIGATURE ECH YIWN,SMALL LETTER YI WITH STROKE,FULL STOP,HYPHEN",
  "58D||RIGHT-FACING ARMENIAN ETERNITY SIGN,LEFT-FACING ARMENIAN ETERNITY SIGN,ARMENIAN DRAM SIGN",
  "591|HEBREW ACCENT |ETNAHTA,SEGOL,SHALSHELET,ZAQEF QATAN,ZAQEF GADOL,TIPEHA,REVIA,ZARQA",
  "|HEBREW ACCENT |PASHTA,YETIV,TEVIR,GERESH,GERESH MUQDAM,GERSHAYIM,QARNEY PARA,TELISHA GEDOLA,PAZER,ATNAH HAFUKH",
  "|HEBREW ACCENT |MUNAH,MAHAPAKH,MERKHA,MERKHA KEFULA,DARGA,QADMA,TELISHA QETANA,YERAH BEN YOMO,OLE,ILUY,DEHI,ZINOR",
  "|HEBREW |MARK MASORA CIRCLE,POINT SHEVA",
  "|HEBREW POINT HATAF |SEGOL,PATAH,QAMATS",
  "|HEBREW POINT |HIRIQ,TSERE,SEGOL,PATAH,QAMATS,HOLAM,HOLAM HASER FOR VAV,QUBUTS,DAGESH OR MAPIQ,METEG",
  "|HEBREW |PUNCTUATION MAQAF,POINT RAFE,PUNCTUATION PASEQ,POINT SHIN DOT,POINT SIN DOT",
  "|HEBREW |PUNCTUATION SOF PASUQ,MARK UPPER DOT,MARK LOWER DOT,PUNCTUATION NUN HAFUKHA,POINT QAMATS QATAN",
  "5D0|HEBREW LETTER |ALEF,BET,GIMEL,DALET,HE,VAV,ZAYIN,HET,TET,YOD,FINAL KAF",
  "|HEBREW LETTER |KAF,LAMED,FINAL MEM,MEM,FINAL NUN,NUN,SAMEKH,AYIN,FINAL PE,PE,FINAL TSADI,TSADI,QOF,RESH,SHIN,TAV",
  "5EF||HEBREW YOD TRIANGLE",
  "|HEBREW LIGATURE YIDDISH |DOUBLE VAV,VAV YOD,DOUBLE YOD",
  "|HEBREW PUNCTUATION |GERESH,GERSHAYIM",
  "600|ARABIC |NUMBER SIGN,SIGN SANAH,FOOTNOTE MARKER,SIGN SAFHA,SIGN SAMVAT,NUMBER MARK ABOVE",
  "|ARABIC-INDIC |CUBE ROOT,FOURTH ROOT",
  "||ARABIC RAY",
  "|ARABIC-INDIC PER |MILLE SIGN,TEN THOUSAND SIGN",
  "||AFGHANI SIGN",
  "|ARABIC |COMMA,DATE SEPARATOR,POETIC VERSE SIGN",
  "|ARABIC SIGN |MISRA,SALLALLAHOU ALAYHE WASSALLAM,ALAYHE ASSALLAM,RAHMATULLAH ALAYHE,RADI ALLAHOU ANHU,TAKHALLUS",
  "|ARABIC SMALL |HIGH TAH,HIGH LIGATURE ALEF WITH LAM WITH YEH,HIGH ZAIN,FATHA,DAMMA,KASRA",
  "|ARABIC |SEMICOLON,LETTER MARK,END OF TEXT MARK,TRIPLE DOT PUNCTUATION MARK,QUESTION MARK",
  "|ARABIC LETTER |KASHMIRI YEH,HAMZA,ALEF WITH MADDA ABOVE,ALEF WITH HAMZA ABOVE,WAW WITH HAMZA ABOVE",
  "|ARABIC LETTER |ALEF WITH HAMZA BELOW,YEH WITH HAMZA ABOVE,ALEF,BEH,TEH MARBUTA,TEH,THEH,JEEM,HAH,KHAH,DAL,THAL",
  "|ARABIC LETTER |REH,ZAIN,SEEN,SHEEN,SAD,DAD,TAH,ZAH,AIN,GHAIN,KEHEH WITH TWO DOTS ABOVE,KEHEH WITH THREE DOTS BELOW",
  "|ARABIC LETTER FARSI YEH WITH |INVERTED V,TWO DOTS ABOVE,THREE DOTS ABOVE",
  "||ARABIC TATWEEL",
  "|ARABIC LETTER |FEH,QAF,KAF,LAM,MEEM,NOON,HEH,WAW,ALEF MAKSURA,YEH",
  "|ARABIC |FATHATAN,DAMMATAN,KASRATAN,FATHA,DAMMA,KASRA",
  "|ARABIC |SHADDA,SUKUN,MADDAH ABOVE,HAMZA ABOVE,HAMZA BELOW,SUBSCRIPT ALEF,INVERTED DAMMA,MARK NOON GHUNNA,ZWARAKAY",
  "|ARABIC VOWEL SIGN |SMALL V ABOVE,INVERTED SMALL V ABOVE,DOT BELOW",
  "|ARABIC |REVERSED DAMMA,FATHA WITH TWO DOTS,WAVY HAMZA BELOW",
  "|ARABIC-INDIC DIGIT |ZERO,ONE,TWO,THREE,FOUR,FIVE,SIX,SEVEN,EIGHT,NINE",
  "|ARABIC |PERCENT SIGN,DECIMAL SEPARATOR,THOUSANDS SEPARATOR,FIVE POINTED STAR",
  "|ARABIC LETTER |DOTLESS BEH,DOTLESS QAF,SUPERSCRIPT ALEF,ALEF WASLA",
  "|ARABIC LETTER ALEF WITH WAVY HAMZA |ABOVE,BELOW",
  "|ARABIC LETTER |HIGH HAMZA,HIGH HAMZA ALEF,HIGH HAMZA WAW,U WITH HAMZA ABOVE,HIGH HAMZA YEH,TTEH",
  "|ARABIC LETTER |TTEHEH,BEEH,TEH WITH RING,TEH WITH THREE DOTS ABOVE DOWNWARDS,PEH,TEHEH,BEHEH,HAH WITH HAMZA ABOVE",
  "|ARABIC LETTER |HAH WITH TWO DOTS VERTICAL ABOVE,NYEH,DYEH,HAH WITH THREE DOTS ABOVE,TCHEH,TCHEHEH,DDAL",
  "|ARABIC LETTER DAL WITH |RING,DOT BELOW,DOT BELOW AND SMALL TAH",
  "|ARABIC LETTER |DAHAL,DDAHAL,DUL,DAL WITH THREE DOTS ABOVE DOWNWARDS,DAL WITH FOUR DOTS ABOVE,RREH",
  "|ARABIC LETTER REH WITH |SMALL V,RING,DOT BELOW,SMALL V BELOW,DOT BELOW AND DOT ABOVE,TWO DOTS ABOVE",
  "|ARABIC LETTER |JEH,REH WITH FOUR DOTS ABOVE,SEEN WITH DOT BELOW AND DOT ABOVE",
  "|ARABIC LETTER SEEN WITH THREE DOTS |BELOW,BELOW AND THREE DOTS ABOVE",
  "|ARABIC LETTER SAD WITH |TWO DOTS BELOW,THREE DOTS ABOVE",
  "|ARABIC LETTER |TAH WITH THREE DOTS ABOVE,AIN WITH THREE DOTS ABOVE,DOTLESS FEH,FEH WITH DOT MOVED BELOW",
  "|ARABIC LETTER |FEH WITH DOT BELOW,VEH,FEH WITH THREE DOTS BELOW,PEHEH,QAF WITH DOT ABOVE,QAF WITH THREE DOTS ABOVE",
  "|ARABIC LETTER |KEHEH,SWASH KAF,KAF WITH RING,KAF WITH DOT ABOVE,NG,KAF WITH THREE DOTS BELOW",
  "|ARABIC LETTER |GAF,GAF WITH RING,NGOEH,GAF WITH TWO DOTS BELOW,GUEH,GAF WITH THREE DOTS ABOVE",
  "|ARABIC LETTER LAM WITH |SMALL V,DOT ABOVE,THREE DOTS ABOVE,THREE DOTS BELOW",
  "|ARABIC LETTER |NOON WITH DOT BELOW,NOON GHUNNA,RNOON,NOON WITH RING,NOON WITH THREE DOTS ABOVE",
  "|ARABIC LETTER |HEH DOACHASHMEE,TCHEH WITH DOT ABOVE,HEH WITH YEH ABOVE,HEH GOAL,HEH GOAL WITH HAMZA ABOVE",
  "|ARABIC LETTER |TEH MARBUTA GOAL,WAW WITH RING,KIRGHIZ OE,OE,U,YU,KIRGHIZ YU,WAW WITH TWO DOTS ABOVE,VE",
  "|ARABIC LETTER |FARSI YEH,YEH WITH TAIL,YEH WITH SMALL V,WAW WITH DOT ABOVE,E,YEH WITH THREE DOTS BELOW,YEH BARREE",
  "|ARABIC |LETTER YEH BARREE WITH HAMZA ABOVE,FULL STOP,LETTER AE,SMALL HIGH LIGATURE SAD WITH LAM WITH ALEF MAKSURA",
  "|ARABIC SMALL HIGH |LIGATURE QAF WITH LAM WITH ALEF MAKSURA,MEEM INITIAL FORM,LAM ALEF,JEEM,THREE DOTS,SEEN",
  "|ARABIC |END OF AYAH,START OF RUB EL HIZB",
  "|ARABIC SMALL HIGH |ROUNDED ZERO,UPRIGHT RECTANGULAR ZERO,DOTLESS HEAD OF KHAH,MEEM ISOLATED FORM",
  "|ARABIC SMALL |LOW SEEN,HIGH MADDA,WAW,YEH,HIGH YEH,HIGH NOON",
  "|ARABIC |PLACE OF SAJDAH,EMPTY CENTRE LOW STOP,EMPTY CENTRE HIGH STOP",
  "|ARABIC |ROUNDED HIGH STOP WITH FILLED CENTRE,SMALL LOW MEEM,LETTER DAL WITH INVERTED V,LETTER REH WITH INVERTED V",
  "|EXTENDED ARABIC-INDIC DIGIT |ZERO,ONE,TWO,THREE,FOUR,FIVE,SIX,SEVEN,EIGHT,NINE",
  "|ARABIC LETTER |SHEEN WITH DOT BELOW,DAD WITH DOT BELOW,GHAIN WITH DOT BELOW",
  "|ARABIC SIGN SINDHI |AMPERSAND,POSTPOSITION MEN",
  "||ARABIC LETTER HEH WITH INVERTED V,SYRIAC END OF PARAGRAPH",
  "|SYRIAC |SUPRALINEAR FULL STOP,SUBLINEAR FULL STOP,SUPRALINEAR COLON,SUBLINEAR COLON,HORIZONTAL COLON",
  "|SYRIAC COLON SKEWED |LEFT,RIGHT",
  "|SYRIAC |SUPRALINEAR COLON SKEWED LEFT,SUBLINEAR COLON SKEWED RIGHT,CONTRACTION",
  "|SYRIAC HARKLEAN |OBELUS,METOBELUS,ASTERISCUS",
  "70F|SYRIAC |ABBREVIATION MARK,LETTER ALAPH,LETTER SUPERSCRIPT ALAPH",
  "|SYRIAC LETTER |BETH,GAMAL,GAMAL GARSHUNI,DALATH,DOTLESS DALATH RISH,HE,WAW,ZAIN,HETH,TETH,TETH GARSHUNI",
  "|SYRIAC LETTER |YUDH,YUDH HE,KAPH,LAMADH,MIM,NUN,SEMKATH,FINAL SEMKATH,E,PE,REVERSED PE,SADHE,QAPH,RISH,SHIN,TAW",
  "|SYRIAC LETTER PERSIAN |BHETH,GHAMAL,DHALATH",
  "|SYRIAC PTHAHA |ABOVE,BELOW,DOTTED",
  "|SYRIAC ZQAPHA |ABOVE,BELOW,DOTTED",
  "|SYRIAC RBASA |ABOVE,BELOW",
  "|SYRIAC DOTTED ZLAMA |HORIZONTAL,ANGULAR",
  "|SYRIAC |HBASA ABOVE,HBASA BELOW,HBASA-ESASA DOTTED,ESASA ABOVE,ESASA BELOW,RWAHA,FEMININE DOT,QUSHSHAYA,RUKKAKHA",
  "|SYRIAC TWO VERTICAL DOTS |ABOVE,BELOW",
  "|SYRIAC |THREE DOTS ABOVE,THREE DOTS BELOW,OBLIQUE LINE ABOVE,OBLIQUE LINE BELOW,MUSIC,BARREKH",
  "74D|SYRIAC LETTER SOGDIAN |ZHAIN,KHAPH,FE",
  "|ARABIC LETTER BEH WITH |THREE DOTS HORIZONTALLY BELOW,DOT BELOW AND THREE DOTS ABOVE",
  "|ARABIC LETTER BEH WITH THREE DOTS POINTING UPWARDS |BELOW,BELOW AND TWO DOTS ABOVE",
  "|ARABIC LETTER BEH WITH |TWO DOTS BELOW AND DOT ABOVE,INVERTED SMALL V BELOW,SMALL V",
  "|ARABIC LETTER HAH WITH |TWO DOTS ABOVE,THREE DOTS POINTING UPWARDS BELOW",
  "|ARABIC LETTER DAL WITH |TWO DOTS VERTICALLY BELOW AND SMALL TAH,INVERTED SMALL V BELOW",
  "|ARABIC LETTER |REH WITH STROKE,SEEN WITH FOUR DOTS ABOVE",
  "|ARABIC LETTER AIN WITH |TWO DOTS ABOVE,THREE DOTS POINTING DOWNWARDS ABOVE,TWO DOTS VERTICALLY ABOVE",
  "|ARABIC LETTER FEH WITH |TWO DOTS BELOW,THREE DOTS POINTING UPWARDS BELOW",
  "|ARABIC LETTER KEHEH WITH |DOT ABOVE,THREE DOTS ABOVE,THREE DOTS POINTING UPWARDS BELOW",
  "|ARABIC LETTER MEEM WITH DOT |ABOVE,BELOW",
  "|ARABIC LETTER |NOON WITH TWO DOTS BELOW,NOON WITH SMALL TAH,NOON WITH SMALL V,LAM WITH BAR",
  "|ARABIC LETTER |REH WITH TWO DOTS VERTICALLY ABOVE,REH WITH HAMZA ABOVE,SEEN WITH TWO DOTS VERTICALLY ABOVE",
  "|ARABIC LETTER HAH WITH SMALL ARABIC LETTER TAH |BELOW,AND TWO DOTS",
  "||ARABIC LETTER SEEN WITH SMALL ARABIC LETTER TAH AND TWO DOTS",
  "|ARABIC LETTER |REH WITH SMALL ARABIC LETTER TAH AND TWO DOTS,HAH WITH SMALL ARABIC LETTER TAH ABOVE",
  "|ARABIC LETTER ALEF WITH EXTENDED ARABIC-INDIC DIGIT |TWO ABOVE,THREE ABOVE",
  "|ARABIC LETTER FARSI YEH WITH EXTENDED ARABIC-INDIC DIGIT |TWO ABOVE,THREE ABOVE,FOUR BELOW",
  "|ARABIC LETTER WAW WITH EXTENDED ARABIC-INDIC DIGIT |TWO ABOVE,THREE ABOVE",
  "|ARABIC LETTER YEH BARREE WITH EXTENDED ARABIC-INDIC DIGIT |TWO ABOVE,THREE ABOVE",
  "||ARABIC LETTER HAH WITH EXTENDED ARABIC-INDIC DIGIT FOUR BELOW",
  "|ARABIC LETTER |SEEN WITH EXTENDED ARABIC-INDIC DIGIT FOUR ABOVE,SEEN WITH INVERTED V,KAF WITH TWO DOTS ABOVE",
  "|THAANA LETTER |HAA,SHAVIYANI,NOONU,RAA,BAA,LHAVIYANI,KAAFU,ALIFU",
  "|THAANA LETTER |VAAVU,MEEMU,FAAFU,DHAALU,THAA,LAAMU,GAAFU,GNAVIYANI,SEENU,DAVIYANI,ZAVIYANI,TAVIYANI,YAA,PAVIYANI",
  "|THAANA LETTER |JAVIYANI,CHAVIYANI,TTAA,HHAA,KHAA,THAALU,ZAA,SHEENU,SAADHU,DAADHU,TO,ZO,AINU,GHAINU,QAAFU,WAAVU",
  "|THAANA |ABAFILI,AABAAFILI,IBIFILI,EEBEEFILI,UBUFILI,OOBOOFILI,EBEFILI,EYBEYFILI,OBOFILI,OABOAFILI,SUKUN,LETTER NAA",
  "7C0|NKO DIGIT |ZERO,ONE,TWO,THREE,FOUR,FIVE,SIX,SEVEN,EIGHT,NINE",
  "|NKO LETTER |A,EE,I,E,U,OO,O,DAGBASINNA,N,BA,PA",
  "|NKO LETTER |TA,JA,CHA,DA,RA,RRA,SA,GBA,FA,KA,LA,NA WOLOSO,MA,NYA,NA,HA,WA,YA,NYA WOLOSO,JONA JA,JONA CHA,JONA RA",
  "|NKO COMBINING SHORT |HIGH TONE,LOW TONE,RISING TONE",
  "|NKO COMBINING LONG |DESCENDING TONE,HIGH TONE,LOW TONE,RISING TONE",
  "|NKO |COMBINING NASALIZATION MARK,COMBINING DOUBLE DOT ABOVE,HIGH TONE APOSTROPHE,LOW TONE APOSTROPHE",
  "|NKO |SYMBOL OO DENNEN,SYMBOL GBAKURUNEN,COMMA,EXCLAMATION MARK,LAJANYALAN,,,DANTAYALAN,DOROME SIGN,TAMAN SIGN",
  "|SAMARITAN LETTER |ALAF,BIT",
  "|SAMARITAN LETTER |GAMAN,DALAT,IY,BAA,ZEN,IT,TIT,YUT,KAAF,LABAT,MIM,NUN,SINGAAT,IN,FI,TSAADIY,QUF,RISH,SHAN,TAAF",
  "|SAMARITAN |MARK IN,MARK IN-ALAF,MARK OCCLUSION,MARK DAGESH,MODIFIER LETTER EPENTHETIC YUT,MARK EPENTHETIC YUT",
  "|SAMARITAN VOWEL SIGN |LONG E,E,OVERLONG AA,LONG AA,AA,OVERLONG A,LONG A,A",
  "|SAMARITAN |MODIFIER LETTER SHORT A,VOWEL SIGN SHORT A,VOWEL SIGN LONG U,VOWEL SIGN U,MODIFIER LETTER I",
  "|SAMARITAN VOWEL SIGN |LONG I,I,O,SUKUN",
  "||SAMARITAN MARK NEQUDAA",
  "830|SAMARITAN PUNCTUATION |NEQUDAA,AFSAAQ,ANGED,BAU,ATMAAU,SHIYYAALAA",
  "||SAMARITAN ABBREVIATION MARK",
  "|SAMARITAN PUNCTUATION |MELODIC QITSA,ZIQAA,QITSA,ZAEF,TURU,ARKAANU,SOF MASHFAAT,ANNAAU",
  "840|MANDAIC LETTER |HALQA,AB,AG,AD,AH,USHENNA,AZ,IT,ATT,AKSA,AK,AL,AM,AN,AS,IN,AP,ASZ,AQ,AR,ASH,AT,DUSHENNA,KAD,AIN",
  "|MANDAIC |AFFRICATION MARK,VOCALIZATION MARK,GEMINATION MARK,,,PUNCTUATION",
  "860|SYRIAC LETTER MALAYALAM |NGA,JA,NYA,TTA,NNA,NNNA,BHA,RA,LLA,LLLA,SSA",
  "870|ARABIC LETTER ALEF WITH |ATTACHED FATHA,ATTACHED TOP RIGHT FATHA,RIGHT MIDDLE STROKE,LEFT MIDDLE STROKE",
  "|ARABIC LETTER ALEF WITH ATTACHED |KASRA,BOTTOM RIGHT KASRA,ROUND DOT ABOVE,RIGHT ROUND DOT,LEFT ROUND DOT",
  "|ARABIC LETTER ALEF WITH |ATTACHED ROUND DOT BELOW,DOT ABOVE,ATTACHED TOP RIGHT FATHA AND DOT ABOVE",
  "|ARABIC LETTER ALEF WITH |RIGHT MIDDLE STROKE AND DOT ABOVE,ATTACHED BOTTOM RIGHT KASRA AND DOT ABOVE",
  "|ARABIC LETTER ALEF WITH |ATTACHED TOP RIGHT FATHA AND LEFT RING,RIGHT MIDDLE STROKE AND LEFT RING",
  "|ARABIC LETTER ALEF WITH ATTACHED |BOTTOM RIGHT KASRA AND LEFT RING,RIGHT HAMZA,LEFT HAMZA",
  "|ARABIC TATWEEL WITH |OVERSTRUCK HAMZA,OVERSTRUCK WAW,TWO DOTS BELOW",
  "|ARABIC |LETTER THIN YEH,BASELINE ROUND DOT,RAISED ROUND DOT,LETTER NOON WITH INVERTED SMALL V",
  "|ARABIC LETTER |HAH WITH INVERTED SMALL V BELOW,TAH WITH DOT BELOW,TAH WITH THREE DOTS BELOW",
  "|ARABIC |LETTER KEHEH WITH TWO DOTS VERTICALLY BELOW,VERTICAL TAIL,,POUND MARK ABOVE,PIASTRE MARK ABOVE",
  "898|ARABIC SMALL |HIGH WORD AL-JUZ,LOW WORD ISHMAAM,LOW WORD IMAALA,LOW WORD TASHEEL",
  "|ARABIC |MADDA WAAJIB,SUPERSCRIPT ALEF MOKHASSAS,DOUBLED MADDA,HALF MADDA OVER MADDA",
  "|ARABIC LETTER BEH WITH |SMALL V BELOW,HAMZA ABOVE",
  "|ARABIC LETTER |JEEM WITH TWO DOTS ABOVE,TAH WITH TWO DOTS ABOVE,FEH WITH DOT BELOW AND THREE DOTS ABOVE",
  "|ARABIC LETTER |QAF WITH DOT BELOW,LAM WITH DOUBLE BAR,MEEM WITH THREE DOTS ABOVE",
  "|ARABIC LETTER YEH WITH TWO DOTS BELOW AND |HAMZA ABOVE,DOT ABOVE",
  "|ARABIC LETTER |REH WITH LOOP,WAW WITH DOT WITHIN",
  "|ARABIC LETTER |ROHINGYA YEH,LOW ALEF,DAL WITH THREE DOTS BELOW,SAD WITH THREE DOTS BELOW,GAF WITH INVERTED STROKE",
  "|ARABIC LETTER |STRAIGHT WAW,ZAIN WITH INVERTED V ABOVE,AIN WITH THREE DOTS BELOW,KAF WITH DOT BELOW",
  "|ARABIC LETTER |QAF WITH DOT BELOW AND NO DOTS ABOVE,BEH WITH SMALL MEEM ABOVE,PEH WITH SMALL MEEM ABOVE",
  "|ARABIC LETTER |TEH WITH SMALL TEH ABOVE,REH WITH SMALL NOON ABOVE,YEH WITH TWO DOTS BELOW AND SMALL NOON ABOVE",
  "|ARABIC LETTER |AFRICAN FEH,AFRICAN QAF,AFRICAN NOON,PEH WITH SMALL V,TEH WITH SMALL V,TTEH WITH SMALL V",
  "|ARABIC LETTER |TCHEH WITH SMALL V,KEHEH WITH SMALL V,GHAIN WITH THREE DOTS ABOVE,AFRICAN QAF WITH THREE DOTS ABOVE",
  "|ARABIC LETTER JEEM WITH THREE DOTS |ABOVE,BELOW",
  "|ARABIC |LETTER LAM WITH SMALL ARABIC LETTER TAH ABOVE,LETTER GRAF,SMALL FARSI YEH",
  "|ARABIC SMALL HIGH |FARSI YEH,YEH BARREE WITH TWO DOTS BELOW,WORD SAH,ZAH",
  "|ARABIC LARGE ROUND DOT |ABOVE,BELOW",
  "|ARABIC |SUKUN BELOW,LARGE CIRCLE BELOW,LARGE ROUND DOT INSIDE CIRCLE BELOW",
  "|ARABIC SMALL |LOW WAW,HIGH WORD AR-RUB,HIGH SAD,HIGH AIN,HIGH QAF,HIGH NOON WITH KASRA,LOW NOON WITH KASRA",
  "|ARABIC SMALL HIGH WORD |ATH-THALATHA,AS-SAJDA,AN-NISF,SAKTA,QIF,WAQFA",
  "|ARABIC |SMALL HIGH FOOTNOTE MARKER,SMALL HIGH SIGN SAFHA,DISPUTED END OF AYAH,TURNED DAMMA BELOW",
  "|ARABIC CURLY |FATHA,DAMMA,KASRA,FATHATAN,DAMMATAN,KASRATAN",
  "|ARABIC TONE |ONE DOT ABOVE,TWO DOTS ABOVE,LOOP ABOVE,ONE DOT BELOW,TWO DOTS BELOW,LOOP BELOW",
  "|ARABIC |OPEN FATHATAN,OPEN DAMMATAN,OPEN KASRATAN,SMALL HIGH WAW,FATHA WITH RING,FATHA WITH DOT ABOVE",
  "|ARABIC |KASRA WITH DOT BELOW,LEFT ARROWHEAD ABOVE,RIGHT ARROWHEAD ABOVE,LEFT ARROWHEAD BELOW,RIGHT ARROWHEAD BELOW",
  "|ARABIC DOUBLE RIGHT ARROWHEAD |ABOVE,ABOVE WITH DOT",
  "|ARABIC |RIGHT ARROWHEAD ABOVE WITH DOT,DAMMA WITH DOT,MARK SIDEWAYS NOON GHUNNA",
  "|DEVANAGARI SIGN |INVERTED CANDRABINDU,CANDRABINDU,ANUSVARA,VISARGA",
  "|DEVANAGARI LETTER |SHORT A,A,AA,I,II,U,UU,VOCALIC R",
  "|DEVANAGARI LETTER |VOCALIC L,CANDRA E,SHORT E,E,AI,CANDRA O,SHORT O,O,AU,KA,KHA,GA,GHA,NGA,CA,CHA,JA,JHA,NYA,TTA",
  "|DEVANAGARI LETTER |TTHA,DDA,DDHA,NNA,TA,THA,DA,DHA,NA,NNNA,PA,PHA,BA,BHA,MA,YA,RA,RRA,LA,LLA,LLLA,VA,SHA,SSA,SA,HA",
  "|DEVANAGARI |VOWEL SIGN OE,VOWEL SIGN OOE,SIGN NUKTA,SIGN AVAGRAHA",
  "|DEVANAGARI VOWEL SIGN |AA,I,II,U,UU,VOCALIC R,VOCALIC RR,CANDRA E,SHORT E,E,AI,CANDRA O,SHORT O,O,AU",
  "|DEVANAGARI |SIGN VIRAMA,VOWEL SIGN PRISHTHAMATRA E",
  "|DEVANAGARI |VOWEL SIGN AW,OM,STRESS SIGN UDATTA,STRESS SIGN ANUDATTA,GRAVE ACCENT,ACUTE ACCENT",
  "|DEVANAGARI VOWEL SIGN |CANDRA LONG E,UE,UUE",
  "|DEVANAGARI LETTER |QA,KHHA,GHHA,ZA,DDDHA,RHA,FA,YYA,VOCALIC RR,VOCALIC LL",
  "|DEVANAGARI VOWEL SIGN VOCALIC |L,LL",
  "|DEVANAGARI |DANDA,DOUBLE DANDA",
  "|DEVANAGARI DIGIT |ZERO,ONE,TWO,THREE,FOUR,FIVE,SIX,SEVEN,EIGHT,NINE",
  "|DEVANAGARI |ABBREVIATION SIGN,SIGN HIGH SPACING DOT",
  "|DEVANAGARI LETTER |CANDRA A,OE,OOE,AW,UE,UUE,MARWARI DDA,ZHA,HEAVY YA,GGA,JJA,GLOTTAL STOP,DDDA,BBA",
  "|BENGALI |ANJI,SIGN CANDRABINDU,SIGN ANUSVARA,SIGN VISARGA",
  "985|BENGALI LETTER |A,AA,I,II,U,UU,VOCALIC R,VOCALIC L,,,E,AI,,,O,AU,KA,KHA,GA,GHA,NGA,CA",
  "|BENGALI LETTER |CHA,JA,JHA,NYA,TTA,TTHA,DDA,DDHA,NNA,TA,THA,DA,DHA,NA,,PA,PHA,BA,BHA,MA,YA,RA,,LA,,,,SHA,SSA,SA,HA",
  "9BC|BENGALI SIGN |NUKTA,AVAGRAHA",
  "|BENGALI VOWEL SIGN |AA,I,II,U,UU,VOCALIC R,VOCALIC RR,,,E,AI,,,O,AU",
  "|BENGALI |SIGN VIRAMA,LETTER KHANDA TA",
  "9D7||BENGALI AU LENGTH MARK",
  "9DC|BENGALI LETTER |RRA,RHA,,YYA,VOCALIC RR,VOCALIC LL",
  "|BENGALI VOWEL SIGN VOCALIC |L,LL",
  "9E6|BENGALI DIGIT |ZERO,ONE,TWO,THREE,FOUR,FIVE,SIX,SEVEN,EIGHT,NINE",
  "|BENGALI LETTER RA WITH |MIDDLE DIAGONAL,LOWER DIAGONAL",
  "|BENGALI RUPEE |MARK,SIGN",
  "|BENGALI CURRENCY NUMERATOR |ONE,TWO,THREE,FOUR,ONE LESS THAN THE DENOMINATOR",
  "|BENGALI |CURRENCY DENOMINATOR SIXTEEN,ISSHAR,GANDA MARK,LETTER VEDIC ANUSVARA,ABBREVIATION SIGN,SANDHI MARK",
  "A01|GURMUKHI SIGN |ADAK BINDI,BINDI,VISARGA",
  "A05|GURMUKHI LETTER |A,AA,I,II,U,UU",
  "A0F|GURMUKHI LETTER |EE,AI,,,OO,AU,KA,KHA,GA,GHA,NGA,CA,CHA",
  "|GURMUKHI LETTER |JA,JHA,NYA,TTA,TTHA,DDA,DDHA,NNA,TA,THA,DA,DHA,NA,,PA,PHA,BA,BHA,MA,YA,RA,,LA,LLA,,VA,SHA,,SA,HA",
  "A3C||GURMUKHI SIGN NUKTA",
  "A3E|GURMUKHI VOWEL SIGN |AA,I,II,U,UU",
  "A47|GURMUKHI VOWEL SIGN |EE,AI,,,OO,AU",
  "|GURMUKHI SIGN |VIRAMA,,,,UDAAT",
  "A59|GURMUKHI LETTER |KHHA,GHHA,ZA,RRA,,FA",
  "A66|GURMUKHI DIGIT |ZERO,ONE,TWO,THREE,FOUR,FIVE,SIX,SEVEN,EIGHT,NINE",
  "|GURMUKHI |TIPPI,ADDAK,IRI,URA,EK ONKAR,SIGN YAKASH,ABBREVIATION SIGN",
  "A81|GUJARATI SIGN |CANDRABINDU,ANUSVARA,VISARGA",
  "A85|GUJARATI LETTER |A,AA,I,II,U,UU,VOCALIC R,VOCALIC L",
  "|GUJARATI |VOWEL CANDRA E,,LETTER E,LETTER AI,VOWEL CANDRA O",
  "A93|GUJARATI LETTER |O,AU,KA,KHA,GA,GHA,NGA,CA,CHA,JA",
  "|GUJARATI LETTER |JHA,NYA,TTA,TTHA,DDA,DDHA,NNA,TA,THA,DA,DHA,NA,,PA,PHA,BA,BHA,MA,YA,RA,,LA,LLA,,VA,SHA,SSA,SA,HA",
  "ABC|GUJARATI SIGN |NUKTA,AVAGRAHA",
  "|GUJARATI VOWEL SIGN |AA,I,II,U,UU,VOCALIC R,VOCALIC RR,CANDRA E,,E,AI,CANDRA O,,O,AU",
  "|GUJARATI |SIGN VIRAMA,,,OM",
  "AE0|GUJARATI LETTER VOCALIC |RR,LL",
  "|GUJARATI VOWEL SIGN VOCALIC |L,LL",
  "AE6|GUJARATI DIGIT |ZERO,ONE,TWO,THREE,FOUR,FIVE,SIX,SEVEN,EIGHT,NINE",
  "|GUJARATI |ABBREVIATION SIGN,RUPEE SIGN",
  "AF9||GUJARATI LETTER ZHA",
  "|GUJARATI SIGN |SUKUN,SHADDA,MADDAH,THREE-DOT NUKTA ABOVE,CIRCLE NUKTA ABOVE,TWO-CIRCLE NUKTA ABOVE",
  "B01|ORIYA SIGN |CANDRABINDU,ANUSVARA,VISARGA",
  "B05|ORIYA LETTER |A,AA,I,II,U,UU,VOCALIC R,VOCALIC L,,,E,AI,,,O,AU,KA,KHA,GA,GHA,NGA,CA,CHA",
  "|ORIYA LETTER |JA,JHA,NYA,TTA,TTHA,DDA,DDHA,NNA,TA,THA,DA,DHA,NA,,PA,PHA,BA,BHA,MA,YA,RA,,LA,LLA,,VA,SHA,SSA,SA,HA",
  "B3C|ORIYA SIGN |NUKTA,AVAGRAHA",
  "|ORIYA VOWEL SIGN |AA,I,II,U,UU,VOCALIC R,VOCALIC RR,,,E,AI,,,O,AU",
  "||ORIYA SIGN VIRAMA",
  "B55|ORIYA |SIGN OVERLINE,AI LENGTH MARK,AU LENGTH MARK",
  "B5C|ORIYA LETTER |RRA,RHA,,YYA,VOCALIC RR,VOCALIC LL",
  "|ORIYA VOWEL SIGN VOCALIC |L,LL",
  "B66|ORIYA DIGIT |ZERO,ONE,TWO,THREE,FOUR,FIVE,SIX,SEVEN,EIGHT,NINE",
  "|ORIYA |ISSHAR,LETTER WA",
  "|ORIYA FRACTION |ONE QUARTER,ONE HALF,THREE QUARTERS,ONE SIXTEENTH,ONE EIGHTH,THREE SIXTEENTHS",
  "B82|TAMIL SIGN |ANUSVARA,VISARGA",
  "B85|TAMIL LETTER |A,AA,I,II,U,UU,,,,E,EE,AI,,O",
  "|TAMIL LETTER |OO,AU,KA,,,,NGA,CA,,JA,,NYA,TTA,,,,NNA,TA,,,,NA,NNNA,PA,,,,MA,YA,RA,RRA,LA,LLA,LLLA,VA,SHA,SSA,SA,HA",
  "BBE|TAMIL VOWEL SIGN |AA,I,II,U,UU,,,,E,EE,AI,,O,OO,AU",
  "|TAMIL |SIGN VIRAMA,,,OM",
  "BD7||TAMIL AU LENGTH MARK",
  "BE6|TAMIL DIGIT |ZERO,ONE,TWO,THREE,FOUR,FIVE,SIX,SEVEN,EIGHT,NINE",
  "|TAMIL NUMBER |TEN,ONE HUNDRED,ONE THOUSAND",
  "|TAMIL |DAY SIGN,MONTH SIGN,YEAR SIGN,DEBIT SIGN,CREDIT SIGN,AS ABOVE SIGN,RUPEE SIGN,NUMBER SIGN",
  "C00|TELUGU SIGN |COMBINING CANDRABINDU ABOVE,CANDRABINDU,ANUSVARA,VISARGA,COMBINING ANUSVARA ABOVE",
  "|TELUGU LETTER |A,AA,I,II,U,UU,VOCALIC R,VOCALIC L,,E,EE,AI,,O,OO,AU,KA,KHA,GA,GHA,NGA,CA,CHA,JA,JHA",
  "|TELUGU LETTER |NYA,TTA,TTHA,DDA,DDHA,NNA,TA,THA,DA,DHA,NA,,PA,PHA,BA,BHA,MA,YA,RA,RRA,LA,LLA,LLLA,VA,SHA,SSA,SA,HA",
  "C3C|TELUGU SIGN |NUKTA,AVAGRAHA",
  "|TELUGU VOWEL SIGN |AA,I,II,U,UU,VOCALIC R,VOCALIC RR,,E,EE,AI,,O,OO,AU",
  "||TELUGU SIGN VIRAMA",
  "C55|TELUGU |LENGTH MARK,AI LENGTH MARK",
  "C58|TELUGU LETTER |TSA,DZA,RRRA,,,NAKAARA POLLU,,,VOCALIC RR,VOCALIC LL",
  "|TELUGU VOWEL SIGN VOCALIC |L,LL",
  "C66|TELUGU DIGIT |ZERO,ONE,TWO,THREE,FOUR,FIVE,SIX,SEVEN,EIGHT,NINE",
  "C77||TELUGU SIGN SIDDHAM",
  "|TELUGU FRACTION DIGIT |ZERO FOR ODD POWERS OF FOUR,ONE FOR ODD POWERS OF FOUR,TWO FOR ODD POWERS OF FOUR",
  "|TELUGU FRACTION DIGIT |THREE FOR ODD POWERS OF FOUR,ONE FOR EVEN POWERS OF FOUR,TWO FOR EVEN POWERS OF FOUR",
  "|TELUGU |FRACTION DIGIT THREE FOR EVEN POWERS OF FOUR,SIGN TUUMU",
  "|KANNADA SIGN |SPACING CANDRABINDU,CANDRABINDU,ANUSVARA,VISARGA,SIDDHAM",
  "|KANNADA LETTER |A,AA,I,II,U,UU,VOCALIC R,VOCALIC L,,E,EE,AI,,O,OO,AU,KA,KHA,GA,GHA,NGA,CA,CHA,JA,JHA",
  "|KANNADA LETTER |NYA,TTA,TTHA,DDA,DDHA,NNA,TA,THA,DA,DHA,NA,,PA,PHA,BA,BHA,MA,YA,RA,RRA,LA,LLA,,VA,SHA,SSA,SA,HA",
  "CBC|KANNADA SIGN |NUKTA,AVAGRAHA",
  "|KANNADA VOWEL SIGN |AA,I,II,U,UU,VOCALIC R,VOCALIC RR,,E,EE,AI,,O,OO,AU",
  "||KANNADA SIGN VIRAMA",
  "CD5|KANNADA |LENGTH MARK,AI LENGTH MARK",
  "CDD|KANNADA LETTER |NAKAARA POLLU,FA,,VOCALIC RR,VOCALIC LL",
  "|KANNADA VOWEL SIGN VOCALIC |L,LL",
  "CE6|KANNADA DIGIT |ZERO,ONE,TWO,THREE,FOUR,FIVE,SIX,SEVEN,EIGHT,NINE",
  "CF1|KANNADA SIGN |JIHVAMULIYA,UPADHMANIYA",
  "D00|MALAYALAM SIGN |COMBINING ANUSVARA ABOVE,CANDRABINDU,ANUSVARA,VISARGA",
  "|MALAYALAM LETTER |VEDIC ANUSVARA,A",
  "|MALAYALAM LETTER |AA,I,II,U,UU,VOCALIC R,VOCALIC L,,E,EE,AI,,O,OO,AU,KA,KHA,GA,GHA,NGA,CA,CHA,JA,JHA,NYA,TTA,TTHA",
  "|MALAYALAM LETTER |DDA,DDHA,NNA,TA,THA,DA,DHA,NA,NNNA,PA,PHA,BA,BHA,MA,YA,RA,RRA,LA,LLA,LLLA,VA,SHA,SSA,SA,HA,TTTA",
  "|MALAYALAM SIGN |VERTICAL BAR VIRAMA,CIRCULAR VIRAMA,AVAGRAHA",
  "|MALAYALAM VOWEL SIGN |AA,I,II,U,UU,VOCALIC R,VOCALIC RR,,E,EE,AI,,O,OO,AU",
  "|MALAYALAM |SIGN VIRAMA,LETTER DOT REPH,SIGN PARA",
  "D54|MALAYALAM LETTER CHILLU |M,Y,LLL",
  "|MALAYALAM |AU LENGTH MARK,FRACTION ONE ONE-HUNDRED-AND-SIXTIETH",
  "|MALAYALAM FRACTION |ONE FORTIETH,THREE EIGHTIETHS,ONE TWENTIETH,ONE TENTH,THREE TWENTIETHS,ONE FIFTH",
  "|MALAYALAM LETTER |ARCHAIC II,VOCALIC RR,VOCALIC LL",
  "|MALAYALAM VOWEL SIGN VOCALIC |L,LL",
  "D66|MALAYALAM DIGIT |ZERO,ONE,TWO,THREE,FOUR,FIVE,SIX,SEVEN,EIGHT,NINE",
  "|MALAYALAM NUMBER |TEN,ONE HUNDRED,ONE THOUSAND",
  "|MALAYALAM FRACTION |ONE QUARTER,ONE HALF,THREE QUARTERS,ONE SIXTEENTH,ONE EIGHTH,THREE SIXTEENTHS",
  "||MALAYALAM DATE MARK",
  "|MALAYALAM LETTER CHILLU |NN,N,RR,L,LL,K",
  "D81|SINHALA SIGN |CANDRABINDU,ANUSVARAYA,VISARGAYA",
  "D85|SINHALA LETTER |AYANNA,AAYANNA,AEYANNA,AEEYANNA,IYANNA,IIYANNA,UYANNA,UUYANNA,IRUYANNA",
  "|SINHALA LETTER |IRUUYANNA,ILUYANNA,ILUUYANNA,EYANNA,EEYANNA,AIYANNA,OYANNA,OOYANNA,AUYANNA,,,,ALPAPRAANA KAYANNA",
  "|SINHALA LETTER |MAHAAPRAANA KAYANNA,ALPAPRAANA GAYANNA,MAHAAPRAANA GAYANNA,KANTAJA NAASIKYAYA",
  "|SINHALA LETTER |SANYAKA GAYANNA,ALPAPRAANA CAYANNA,MAHAAPRAANA CAYANNA,ALPAPRAANA JAYANNA,MAHAAPRAANA JAYANNA",
  "|SINHALA LETTER TAALUJA |NAASIKYAYA,SANYOOGA NAAKSIKYAYA",
  "|SINHALA LETTER |SANYAKA JAYANNA,ALPAPRAANA TTAYANNA,MAHAAPRAANA TTAYANNA,ALPAPRAANA DDAYANNA,MAHAAPRAANA DDAYANNA",
  "|SINHALA LETTER |MUURDHAJA NAYANNA,SANYAKA DDAYANNA,ALPAPRAANA TAYANNA,MAHAAPRAANA TAYANNA,ALPAPRAANA DAYANNA",
  "|SINHALA LETTER |MAHAAPRAANA DAYANNA,DANTAJA NAYANNA,,SANYAKA DAYANNA,ALPAPRAANA PAYANNA,MAHAAPRAANA PAYANNA",
  "|SINHALA LETTER |ALPAPRAANA BAYANNA,MAHAAPRAANA BAYANNA,MAYANNA,AMBA BAYANNA,YAYANNA,RAYANNA,,DANTAJA LAYANNA",
  "DC0|SINHALA LETTER |VAYANNA,TAALUJA SAYANNA,MUURDHAJA SAYANNA,DANTAJA SAYANNA,HAYANNA,MUURDHAJA LAYANNA,FAYANNA",
  "DCA||SINHALA SIGN AL-LAKUNA",
  "DCF|SINHALA VOWEL SIGN |AELA-PILLA,KETTI AEDA-PILLA,DIGA AEDA-PILLA,KETTI IS-PILLA",
  "|SINHALA VOWEL SIGN |DIGA IS-PILLA,KETTI PAA-PILLA,,DIGA PAA-PILLA,,GAETTA-PILLA,KOMBUVA,DIGA KOMBUVA,KOMBU DEKA",
  "|SINHALA VOWEL SIGN |KOMBUVA HAA AELA-PILLA,KOMBUVA HAA DIGA AELA-PILLA,KOMBUVA HAA GAYANUKITTA,GAYANUKITTA",
  "DE6|SINHALA LITH DIGIT |ZERO,ONE,TWO,THREE,FOUR,FIVE,SIX,SEVEN,EIGHT,NINE",
  "DF2|SINHALA VOWEL SIGN DIGA |GAETTA-PILLA,GAYANUKITTA",
  "||SINHALA PUNCTUATION KUNDDALIYA",
  "E01|THAI CHARACTER |KO KAI,KHO KHAI,KHO KHUAT,KHO KHWAI,KHO KHON,KHO RAKHANG,NGO NGU,CHO CHAN,CHO CHING,CHO CHANG",
  "|THAI CHARACTER |SO SO,CHO CHOE,YO YING,DO CHADA,TO PATAK,THO THAN,THO NANGMONTHO,THO PHUTHAO,NO NEN,DO DEK,TO TAO",
  "|THAI CHARACTER THO |THUNG,THAHAN,THONG",
  "|THAI CHARACTER |NO NU,BO BAIMAI,PO PLA,PHO PHUNG,FO FA,PHO PHAN,FO FAN,PHO SAMPHAO,MO MA,YO YAK,RO RUA,RU,LO LING",
  "|THAI CHARACTER |LU,WO WAEN,SO SALA,SO RUSI,SO SUA,HO HIP,LO CHULA,O ANG,HO NOKHUK,PAIYANNOI,SARA A,MAI HAN-AKAT",
  "|THAI CHARACTER SARA |AA,AM,I,II,UE,UEE,U,UU",
  "||THAI CHARACTER PHINTHU",
  "E3F||THAI CURRENCY SYMBOL BAHT",
  "|THAI CHARACTER |SARA E,SARA AE,SARA O,SARA AI MAIMUAN,SARA AI MAIMALAI,LAKKHANGYAO",
  "|THAI CHARACTER |MAIYAMOK,MAITAIKHU,MAI EK,MAI THO,MAI TRI,MAI CHATTAWA,THANTHAKHAT,NIKHAHIT,YAMAKKAN,FONGMAN",
  "|THAI DIGIT |ZERO,ONE,TWO,THREE,FOUR,FIVE,SIX,SEVEN,EIGHT,NINE",
  "|THAI CHARACTER |ANGKHANKHU,KHOMUT",
  "E81|LAO LETTER |KO,KHO SUNG,,KHO TAM,,PALI GHA,NGO,CO,PALI CHA,SO TAM,,PALI JHA,NYO",
  "|LAO LETTER PALI |NYA,TTA,TTHA,DDA,DDHA,NNA",
  "|LAO LETTER |DO,TO,THO SUNG,THO TAM,PALI DHA,NO,BO,PO,PHO SUNG,FO TAM,PHO TAM,FO SUNG",
  "|LAO LETTER |PALI BHA,MO,YO,LO LING,,LO LOOT,,WO,SANSKRIT SHA,SANSKRIT SSA,SO SUNG,HO SUNG,PALI LLA,O,HO TAM",
  "||LAO ELLIPSIS",
  "|LAO VOWEL SIGN |A,MAI KAN,AA,AM,I,II,Y,YY,U,UU",
  "|LAO |SIGN PALI VIRAMA,VOWEL SIGN MAI KON",
  "|LAO SEMIVOWEL SIGN |LO,NYO",
  "EC0|LAO VOWEL SIGN |E,EI,O,AY,AI",
  "EC6||LAO KO LA",
  "EC8|LAO TONE MAI |EK,THO,TI,CATAWA",
  "|LAO |CANCELLATION MARK,NIGGAHITA",
  "ED0|LAO DIGIT |ZERO,ONE,TWO,THREE,FOUR,FIVE,SIX,SEVEN,EIGHT,NINE",
  "EDC|LAO HO |NO,MO",
  "|LAO LETTER KHMU |GO,NYO",
  "F00||TIBETAN SYLLABLE OM",
  "|TIBETAN MARK GTER YIG MGO |TRUNCATED A,-UM RNAM BCAD MA,-UM GTER TSHEG MA",
  "|TIBETAN MARK |INITIAL YIG MGO MDUN MA,CLOSING YIG MGO SGAB MA,CARET YIG MGO PHUR SHAD MA,YIG MGO TSHEG SHAD MA",
  "|TIBETAN MARK |SBRUL SHAD,BSKUR YIG MGO,BKA- SHOG YIG MGO,INTERSYLLABIC TSHEG,DELIMITER TSHEG BSTAR,SHAD,NYIS SHAD",
  "|TIBETAN MARK |TSHEG SHAD,NYIS TSHEG SHAD,RIN CHEN SPUNGS SHAD,RGYA GRAM SHAD,CARET -DZUD RTAGS ME LONG CAN",
  "|TIBETAN |MARK GTER TSHEG,LOGOTYPE SIGN CHAD RTAGS,LOGOTYPE SIGN LHAG RTAGS",
  "|TIBETAN ASTROLOGICAL SIGN |SGRA GCAN -CHAR RTAGS,-KHYUD PA,SDONG TSHUGS",
  "|TIBETAN SIGN RDEL |DKAR GCIG,DKAR GNYIS,DKAR GSUM,NAG GCIG,NAG GNYIS,DKAR RDEL NAG",
  "|TIBETAN DIGIT |ZERO,ONE,TWO,THREE,FOUR,FIVE,SIX,SEVEN,EIGHT,NINE",
  "|TIBETAN DIGIT HALF |ONE,TWO,THREE,FOUR,FIVE,SIX,SEVEN,EIGHT,NINE,ZERO",
  "|TIBETAN MARK |BSDUS RTAGS,NGAS BZUNG NYI ZLA,CARET -DZUD RTAGS BZHI MIG CAN",
  "|TIBETAN MARK |NGAS BZUNG SGOR RTAGS,CHE MGO,TSA -PHRU,GUG RTAGS GYON,GUG RTAGS GYAS,ANG KHANG GYON,ANG KHANG GYAS",
  "|TIBETAN SIGN |YAR TSHES,MAR TSHES",
  "|TIBETAN LETTER |KA,KHA,GA,GHA,NGA,CA,CHA,JA,,NYA,TTA,TTHA,DDA,DDHA,NNA,TA,THA,DA,DHA,NA,PA",
  "|TIBETAN LETTER |PHA,BA,BHA,MA,TSA,TSHA,DZA,DZHA,WA,ZHA,ZA,-A,YA,RA,LA,SHA,SSA,SA,HA,A,KSSA,FIXED-FORM RA,KKA,RRA",
  "F71|TIBETAN VOWEL SIGN |AA,I,II,U,UU,VOCALIC R,VOCALIC RR,VOCALIC L,VOCALIC LL,E,EE,O,OO",
  "|TIBETAN SIGN |RJES SU NGA RO,RNAM BCAD",
  "|TIBETAN VOWEL SIGN REVERSED |I,II",
  "|TIBETAN |SIGN NYI ZLA NAA DA,SIGN SNA LDAN,MARK HALANTA,MARK PALUTA",
  "|TIBETAN SIGN |LCI RTAGS,YANG RTAGS,LCE TSA CAN,MCHU CAN,GRU CAN RGYINGS,GRU MED RGYINGS,INVERTED MCHU CAN",
  "|TIBETAN SUBJOINED SIGN |LCE TSA CAN,MCHU CAN,INVERTED MCHU CAN",
  "|TIBETAN SUBJOINED LETTER |KA,KHA,GA,GHA,NGA,CA,CHA,JA,,NYA,TTA,TTHA,DDA,DDHA,NNA,TA,THA",
  "|TIBETAN SUBJOINED LETTER |DA,DHA,NA,PA,PHA,BA,BHA,MA,TSA,TSHA,DZA,DZHA,WA,ZHA,ZA,-A,YA,RA,LA,SHA,SSA,SA,HA,A,KSSA",
  "|TIBETAN SUBJOINED LETTER FIXED-FORM |WA,YA,RA",
  "FBE|TIBETAN KU RU |KHA,KHA BZHI MIG CAN",
  "|TIBETAN CANTILLATION SIGN |HEAVY BEAT,LIGHT BEAT,CANG TE-U,SBUB -CHAL",
  "|TIBETAN SYMBOL |DRIL BU,RDO RJE,PADMA GDAN,RDO RJE RGYA GRAM,PHUR PA,NOR BU",
  "|TIBETAN SYMBOL NOR BU |NYIS -KHYIL,GSUM -KHYIL,BZHI -KHYIL",
  "FCE|TIBETAN SIGN RDEL NAG |RDEL DKAR,GSUM",
  "|TIBETAN MARK |BSKA- SHOG GI MGO RGYAN,MNYAM YIG GI MGO RGYAN,NYIS TSHEG,INITIAL BRDA RNYING YIG MGO MDUN MA",
  "||TIBETAN MARK CLOSING BRDA RNYING YIG MGO SGAB MA,RIGHT-FACING SVASTI SIGN",
  "||LEFT-FACING SVASTI SIGN,RIGHT-FACING SVASTI SIGN WITH DOTS,LEFT-FACING SVASTI SIGN WITH DOTS",
  "|TIBETAN MARK |LEADING MCHAN RTAGS,TRAILING MCHAN RTAGS",
  "1000|MYANMAR LETTER |KA,KHA,GA,GHA,NGA,CA,CHA,JA,JHA,NYA,NNYA,TTA,TTHA,DDA",
  "|MYANMAR LETTER |DDHA,NNA,TA,THA,DA,DHA,NA,PA,PHA,BA,BHA,MA,YA,RA,LA,WA,SA,HA,LLA,A,SHAN A,I,II,U,UU,E,MON E,O,AU",
  "|MYANMAR VOWEL SIGN |TALL AA,AA,I,II,U,UU,E,AI,MON II,MON O,E ABOVE",
  "|MYANMAR SIGN |ANUSVARA,DOT BELOW,VISARGA,VIRAMA,ASAT",
  "|MYANMAR CONSONANT SIGN MEDIAL |YA,RA,WA,HA",
  "||MYANMAR LETTER GREAT SA",
  "|MYANMAR DIGIT |ZERO,ONE,TWO,THREE,FOUR,FIVE,SIX,SEVEN,EIGHT,NINE",
  "|MYANMAR SIGN |LITTLE SECTION,SECTION",
  "|MYANMAR SYMBOL |LOCATIVE,COMPLETED,AFOREMENTIONED,GENITIVE",
  "|MYANMAR LETTER |SHA,SSA",
  "|MYANMAR LETTER VOCALIC |R,RR,L,LL",
  "|MYANMAR VOWEL SIGN VOCALIC |R,RR,L,LL",
  "|MYANMAR LETTER MON |NGA,JHA,BBA,BBE",
  "|MYANMAR CONSONANT SIGN MON MEDIAL |NA,MA,LA",
  "|MYANMAR |LETTER SGAW KAREN SHA,VOWEL SIGN SGAW KAREN EU",
  "|MYANMAR TONE MARK SGAW KAREN |HATHI,KE PHO",
  "|MYANMAR LETTER WESTERN PWO KAREN |THA,PWA",
  "|MYANMAR VOWEL SIGN WESTERN PWO KAREN |EU,UE",
  "|MYANMAR SIGN WESTERN PWO KAREN TONE-|1,2,3,4,5",
  "|MYANMAR LETTER EASTERN PWO KAREN |NNA,YWA,GHWA",
  "|MYANMAR VOWEL SIGN |GEBA KAREN I,KAYAH OE,KAYAH U,KAYAH EE",
  "|MYANMAR LETTER SHAN |KA,KHA,GA,CA,ZA,NYA,DA,NA,PHA,FA,BA,THA,HA",
  "||MYANMAR CONSONANT SIGN SHAN MEDIAL WA",
  "|MYANMAR VOWEL SIGN SHAN |AA,E,E ABOVE,FINAL Y",
  "|MYANMAR SIGN SHAN TONE-|2,3,5,6",
  "|MYANMAR SIGN SHAN COUNCIL |TONE-2,TONE-3,EMPHATIC TONE",
  "|MYANMAR |LETTER RUMAI PALAUNG FA,SIGN RUMAI PALAUNG TONE-5",
  "|MYANMAR SHAN DIGIT |ZERO,ONE,TWO,THREE,FOUR,FIVE,SIX,SEVEN,EIGHT,NINE",
  "|MYANMAR SIGN KHAMTI TONE-|1,3",
  "|MYANMAR VOWEL SIGN AITON |A,AI",
  "|MYANMAR SYMBOL SHAN |ONE,EXCLAMATION",
  "|GEORGIAN CAPITAL LETTER |AN,BAN,GAN,DON,EN,VIN,ZEN,TAN,IN,KAN,LAS,MAN,NAR,ON,PAR,ZHAR,RAE,SAN",
  "|GEORGIAN CAPITAL LETTER |TAR,UN,PHAR,KHAR,GHAN,QAR,SHIN,CHIN,CAN,JIL,CIL,CHAR,XAN,JHAN,HAE,HE,HIE,WE,HAR,HOE,,YN",
  "10CD||GEORGIAN CAPITAL LETTER AEN",
  "10D0|GEORGIAN LETTER |AN,BAN,GAN,DON,EN,VIN,ZEN,TAN,IN,KAN,LAS,MAN,NAR,ON,PAR,ZHAR,RAE,SAN,TAR,UN,PHAR,KHAR",
  "|GEORGIAN LETTER |GHAN,QAR,SHIN,CHIN,CAN,JIL,CIL,CHAR,XAN,JHAN,HAE,HE,HIE,WE,HAR,HOE,FI,YN,ELIFI,TURNED GAN,AIN",
  "||GEORGIAN PARAGRAPH SEPARATOR,MODIFIER LETTER GEORGIAN NAR",
  "|GEORGIAN LETTER |AEN,HARD SIGN,LABIAL SIGN",
  "|HANGUL CHOSEONG |KIYEOK,SSANGKIYEOK,NIEUN,TIKEUT,SSANGTIKEUT,RIEUL,MIEUM,PIEUP,SSANGPIEUP,SIOS",
  "|HANGUL CHOSEONG |SSANGSIOS,IEUNG,CIEUC,SSANGCIEUC,CHIEUCH,KHIEUKH,THIEUTH,PHIEUPH,HIEUH,NIEUN-KIYEOK,SSANGNIEUN",
  "|HANGUL CHOSEONG NIEUN-|TIKEUT,PIEUP",
  "|HANGUL CHOSEONG |TIKEUT-KIYEOK,RIEUL-NIEUN,SSANGRIEUL,RIEUL-HIEUH,KAPYEOUNRIEUL,MIEUM-PIEUP,KAPYEOUNMIEUM",
  "|HANGUL CHOSEONG PIEUP-|KIYEOK,NIEUN,TIKEUT,SIOS,SIOS-KIYEOK,SIOS-TIKEUT,SIOS-PIEUP,SSANGSIOS,SIOS-CIEUC,CIEUC",
  "|HANGUL CHOSEONG |PIEUP-CHIEUCH,PIEUP-THIEUTH,PIEUP-PHIEUPH,KAPYEOUNPIEUP,KAPYEOUNSSANGPIEUP,SIOS-KIYEOK,SIOS-NIEUN",
  "|HANGUL CHOSEONG SIOS-|TIKEUT,RIEUL,MIEUM,PIEUP,PIEUP-KIYEOK,SSANGSIOS,IEUNG,CIEUC,CHIEUCH,KHIEUKH,THIEUTH,PHIEUPH",
  "|HANGUL CHOSEONG |SIOS-HIEUH,CHITUEUMSIOS,CHITUEUMSSANGSIOS,CEONGCHIEUMSIOS,CEONGCHIEUMSSANGSIOS,PANSIOS",
  "|HANGUL CHOSEONG IEUNG-|KIYEOK,TIKEUT,MIEUM,PIEUP,SIOS,PANSIOS",
  "|HANGUL CHOSEONG |SSANGIEUNG,IEUNG-CIEUC,IEUNG-CHIEUCH,IEUNG-THIEUTH,IEUNG-PHIEUPH",
  "|HANGUL CHOSEONG |YESIEUNG,CIEUC-IEUNG,CHITUEUMCIEUC,CHITUEUMSSANGCIEUC,CEONGCHIEUMCIEUC,CEONGCHIEUMSSANGCIEUC",
  "|HANGUL CHOSEONG |CHIEUCH-KHIEUKH,CHIEUCH-HIEUH,CHITUEUMCHIEUCH,CEONGCHIEUMCHIEUCH,PHIEUPH-PIEUP,KAPYEOUNPHIEUPH",
  "|HANGUL CHOSEONG |SSANGHIEUH,YEORINHIEUH,KIYEOK-TIKEUT,NIEUN-SIOS,NIEUN-CIEUC,NIEUN-HIEUH,TIKEUT-RIEUL,FILLER",
  "|HANGUL JUNGSEONG |FILLER,A,AE,YA,YAE,EO,E,YEO,YE,O,WA,WAE,OE,YO,U,WEO,WE,WI,YU",
  "|HANGUL JUNGSEONG |EU,YI,I,A-O,A-U,YA-O,YA-YO,EO-O,EO-U,EO-EU,YEO-O,YEO-U,O-EO,O-E,O-YE,O-O,O-U,YO-YA,YO-YAE,YO-YEO",
  "|HANGUL JUNGSEONG |YO-O,YO-I,U-A,U-AE,U-EO-EU,U-YE,U-U,YU-A,YU-EO,YU-E,YU-YEO,YU-YE,YU-U,YU-I,EU-U,EU-EU,YI-U,I-A",
  "|HANGUL JUNGSEONG |I-YA,I-O,I-U,I-EU,I-ARAEA,ARAEA,ARAEA-EO,ARAEA-U,ARAEA-I,SSANGARAEA,A-EU,YA-U,YEO-YA,O-YA,O-YAE",
  "|HANGUL JONGSEONG |KIYEOK,SSANGKIYEOK,KIYEOK-SIOS,NIEUN,NIEUN-CIEUC,NIEUN-HIEUH,TIKEUT,RIEUL",
  "|HANGUL JONGSEONG RIEUL-|KIYEOK,MIEUM,PIEUP,SIOS,THIEUTH,PHIEUPH,HIEUH",
  "|HANGUL JONGSEONG |MIEUM,PIEUP,PIEUP-SIOS,SIOS,SSANGSIOS,IEUNG,CIEUC,CHIEUCH,KHIEUKH,THIEUTH,PHIEUPH,HIEUH",
  "|HANGUL JONGSEONG KIYEOK-|RIEUL,SIOS-KIYEOK",
  "|HANGUL JONGSEONG NIEUN-|KIYEOK,TIKEUT,SIOS,PANSIOS,THIEUTH",
  "|HANGUL JONGSEONG TIKEUT-|KIYEOK,RIEUL",
  "|HANGUL JONGSEONG |RIEUL-KIYEOK-SIOS,RIEUL-NIEUN,RIEUL-TIKEUT,RIEUL-TIKEUT-HIEUH,SSANGRIEUL,RIEUL-MIEUM-KIYEOK",
  "|HANGUL JONGSEONG RIEUL-|MIEUM-SIOS,PIEUP-SIOS,PIEUP-HIEUH,KAPYEOUNPIEUP,SSANGSIOS,PANSIOS,KHIEUKH,YEORINHIEUH",
  "|HANGUL JONGSEONG MIEUM-|KIYEOK,RIEUL,PIEUP,SIOS,SSANGSIOS,PANSIOS,CHIEUCH,HIEUH",
  "|HANGUL JONGSEONG |KAPYEOUNMIEUM,PIEUP-RIEUL,PIEUP-PHIEUPH,PIEUP-HIEUH,KAPYEOUNPIEUP",
  "|HANGUL JONGSEONG |SIOS-KIYEOK,SIOS-TIKEUT,SIOS-RIEUL,SIOS-PIEUP,PANSIOS,IEUNG-KIYEOK,IEUNG-SSANGKIYEOK",
  "|HANGUL JONGSEONG |SSANGIEUNG,IEUNG-KHIEUKH,YESIEUNG,YESIEUNG-SIOS,YESIEUNG-PANSIOS,PHIEUPH-PIEUP,KAPYEOUNPHIEUPH",
  "|HANGUL JONGSEONG HIEUH-|NIEUN,RIEUL,MIEUM,PIEUP",
  "|HANGUL JONGSEONG |YEORINHIEUH,KIYEOK-NIEUN,KIYEOK-PIEUP,KIYEOK-CHIEUCH,KIYEOK-KHIEUKH,KIYEOK-HIEUH,SSANGNIEUN",
  "|ETHIOPIC SYLLABLE |HA,HU,HI,HAA",
  "|ETHIOPIC SYLLABLE |HEE,HE,HO,HOA,LA,LU,LI,LAA,LEE,LE,LO,LWA,HHA,HHU,HHI,HHAA,HHEE,HHE,HHO,HHWA,MA,MU,MI,MAA,MEE",
  "|ETHIOPIC SYLLABLE |ME,MO,MWA,SZA,SZU,SZI,SZAA,SZEE,SZE,SZO,SZWA,RA,RU,RI,RAA,REE,RE,RO,RWA,SA,SU,SI,SAA,SEE,SE,SO",
  "|ETHIOPIC SYLLABLE |SWA,SHA,SHU,SHI,SHAA,SHEE,SHE,SHO,SHWA,QA,QU,QI,QAA,QEE,QE,QO,QOA,QWA,,QWI,QWAA,QWEE,QWE,,,QHA",
  "|ETHIOPIC SYLLABLE |QHU,QHI,QHAA,QHEE,QHE,QHO,,QHWA,,QHWI,QHWAA,QHWEE,QHWE,,,BA,BU,BI,BAA,BEE,BE,BO,BWA,VA,VU",
  "|ETHIOPIC SYLLABLE |VI,VAA,VEE,VE,VO,VWA,TA,TU,TI,TAA,TEE,TE,TO,TWA,CA,CU,CI,CAA,CEE,CE,CO,CWA,XA,XU,XI,XAA,XEE,XE",
  "|ETHIOPIC SYLLABLE |XO,XOA,XWA,,XWI,XWAA,XWEE,XWE,,,NA,NU,NI,NAA,NEE,NE,NO,NWA,NYA,NYU,NYI,NYAA,NYEE,NYE,NYO,NYWA",
  "|ETHIOPIC SYLLABLE GLOTTAL |A,U,I,AA,EE,E,O,WA",
  "|ETHIOPIC SYLLABLE |KA,KU,KI,KAA,KEE,KE,KO,KOA,KWA,,KWI,KWAA,KWEE",
  "|ETHIOPIC SYLLABLE |KWE,,,KXA,KXU,KXI,KXAA,KXEE,KXE,KXO,,KXWA,,KXWI,KXWAA,KXWEE,KXWE,,,WA,WU,WI,WAA,WEE,WE,WO,WOA",
  "|ETHIOPIC SYLLABLE PHARYNGEAL |A,U,I,AA,EE,E,O",
  "12D8|ETHIOPIC SYLLABLE |ZA,ZU,ZI,ZAA,ZEE,ZE,ZO,ZWA,ZHA,ZHU",
  "|ETHIOPIC SYLLABLE |ZHI,ZHAA,ZHEE,ZHE,ZHO,ZHWA,YA,YU,YI,YAA,YEE,YE,YO,YOA,DA,DU,DI,DAA,DEE,DE,DO,DWA,DDA,DDU,DDI",
  "|ETHIOPIC SYLLABLE |DDAA,DDEE,DDE,DDO,DDWA,JA,JU,JI,JAA,JEE,JE,JO,JWA,GA,GU,GI,GAA,GEE,GE,GO,GOA,GWA,,GWI,GWAA,GWEE",
  "|ETHIOPIC SYLLABLE |GWE,,,GGA,GGU,GGI,GGAA,GGEE,GGE,GGO,GGWAA,THA,THU,THI,THAA,THEE,THE,THO,THWA,CHA,CHU,CHI,CHAA",
  "|ETHIOPIC SYLLABLE |CHEE,CHE,CHO,CHWA,PHA,PHU,PHI,PHAA,PHEE,PHE,PHO,PHWA,TSA,TSU,TSI,TSAA,TSEE,TSE,TSO,TSWA,TZA,TZU",
  "|ETHIOPIC SYLLABLE |TZI,TZAA,TZEE,TZE,TZO,TZOA,FA,FU,FI,FAA,FEE,FE,FO,FWA,PA,PU,PI,PAA,PEE,PE,PO,PWA,RYA,MYA,FYA",
  "135D|ETHIOPIC COMBINING |GEMINATION AND VOWEL LENGTH MARK,VOWEL LENGTH MARK,GEMINATION MARK",
  "|ETHIOPIC |SECTION MARK,WORDSPACE,FULL STOP,COMMA,SEMICOLON,COLON,PREFACE COLON,QUESTION MARK,PARAGRAPH SEPARATOR",
  "|ETHIOPIC DIGIT |ONE,TWO,THREE,FOUR,FIVE,SIX,SEVEN,EIGHT,NINE",
  "|ETHIOPIC NUMBER |TEN,TWENTY,THIRTY,FORTY,FIFTY,SIXTY,SEVENTY,EIGHTY,NINETY,HUNDRED,TEN THOUSAND",
  "1380||ETHIOPIC SYLLABLE SEBATBEIT MWA",
  "|ETHIOPIC SYLLABLE |MWI,MWEE,MWE,SEBATBEIT BWA,BWI,BWEE,BWE,SEBATBEIT FWA,FWI,FWEE,FWE,SEBATBEIT PWA,PWI,PWEE,PWE",
  "|ETHIOPIC TONAL MARK |YIZET,DERET,RIKRIK,SHORT RIKRIK,DIFAT,KENAT,CHIRET,HIDET,DERET-HIDET,KURT",
  "13A0|CHEROKEE LETTER |A,E,I,O,U,V,GA,KA,GE,GI,GO,GU,GV,HA,HE,HI,HO,HU,HV,LA,LE,LI,LO,LU,LV,MA,ME,MI",
  "|CHEROKEE LETTER |MO,MU,NA,HNA,NAH,NE,NI,NO,NU,NV,QUA,QUE,QUI,QUO,QUU,QUV,SA,S,SE,SI,SO,SU,SV,DA,TA,DE,TE,DI,TI,DO",
  "|CHEROKEE LETTER |DU,DV,DLA,TLA,TLE,TLI,TLO,TLU,TLV,TSA,TSE,TSI,TSO,TSU,TSV,WA,WE,WI,WO,WU,WV,YA,YE,YI,YO,YU,YV,MV",
  "13F8|CHEROKEE SMALL LETTER |YE,YI,YO,YU,YV,MV"]

end Linewise.CharacterName
