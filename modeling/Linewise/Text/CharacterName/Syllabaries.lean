/-
Names of characters from 1400 to 1fff: syllabics, runes, more scripts of Asia, phonetic and extended letters.

The rows are written as `CharacterName.Row.ofText` reads them.
-/
namespace Linewise.CharacterName

/-- the rows for these characters -/
def syllabaryNames : List String := [
  "1400|CANADIAN SYLLABICS |HYPHEN,E,AAI,I,II,O,OO,Y-CREE OO,CARRIER EE,CARRIER I",
  "|CANADIAN SYLLABICS |A,AA,WE,WEST-CREE WE,WI,WEST-CREE WI,WII,WEST-CREE WII,WO,WEST-CREE WO,WOO,WEST-CREE WOO",
  "|CANADIAN SYLLABICS |NASKAPI WOO,WA,WEST-CREE WA,WAA,WEST-CREE WAA,NASKAPI WAA,AI,Y-CREE W,GLOTTAL STOP",
  "|CANADIAN SYLLABICS FINAL |ACUTE,GRAVE,BOTTOM HALF RING,TOP HALF RING,RIGHT HALF RING,RING,DOUBLE ACUTE",
  "|CANADIAN SYLLABICS FINAL |DOUBLE SHORT VERTICAL STROKES,MIDDLE DOT,SHORT HORIZONTAL STROKE,PLUS,DOWN TACK",
  "|CANADIAN SYLLABICS |EN,IN,ON,AN,PE,PAAI,PI,PII,PO,POO,Y-CREE POO,CARRIER HEE,CARRIER HI,PA,PAA,PWE,WEST-CREE PWE",
  "|CANADIAN SYLLABICS |PWI,WEST-CREE PWI,PWII,WEST-CREE PWII,PWO,WEST-CREE PWO,PWOO,WEST-CREE PWOO,PWA,WEST-CREE PWA",
  "|CANADIAN SYLLABICS |PWAA,WEST-CREE PWAA,Y-CREE PWAA,P,WEST-CREE P,CARRIER H,TE,TAAI,TI,TII,TO,TOO,Y-CREE TOO",
  "|CANADIAN SYLLABICS CARRIER |DEE,DI",
  "|CANADIAN SYLLABICS |TA,TAA,TWE,WEST-CREE TWE,TWI,WEST-CREE TWI,TWII,WEST-CREE TWII,TWO,WEST-CREE TWO",
  "|CANADIAN SYLLABICS |TWOO,WEST-CREE TWOO,TWA,WEST-CREE TWA,TWAA,WEST-CREE TWAA,NASKAPI TWAA,T,TTE,TTI,TTO,TTA,KE",
  "|CANADIAN SYLLABICS |KAAI,KI,KII,KO,KOO,Y-CREE KOO,KA,KAA,KWE,WEST-CREE KWE,KWI,WEST-CREE KWI,KWII,WEST-CREE KWII",
  "|CANADIAN SYLLABICS |KWO,WEST-CREE KWO,KWOO,WEST-CREE KWOO,KWA,WEST-CREE KWA,KWAA,WEST-CREE KWAA,NASKAPI KWAA,K,KW",
  "|CANADIAN SYLLABICS SOUTH-SLAVEY |KEH,KIH,KOH,KAH",
  "|CANADIAN SYLLABICS |CE,CAAI,CI,CII,CO,COO,Y-CREE COO,CA,CAA,CWE,WEST-CREE CWE",
  "|CANADIAN SYLLABICS |CWI,WEST-CREE CWI,CWII,WEST-CREE CWII,CWO,WEST-CREE CWO,CWOO,WEST-CREE CWOO,CWA,WEST-CREE CWA",
  "|CANADIAN SYLLABICS |CWAA,WEST-CREE CWAA,NASKAPI CWAA,C,SAYISI TH,ME,MAAI,MI,MII,MO,MOO,Y-CREE MOO,MA,MAA",
  "|CANADIAN SYLLABICS |MWE,WEST-CREE MWE,MWI,WEST-CREE MWI,MWII,WEST-CREE MWII,MWO,WEST-CREE MWO,MWOO,WEST-CREE MWOO",
  "|CANADIAN SYLLABICS |MWA,WEST-CREE MWA,MWAA,WEST-CREE MWAA,NASKAPI MWAA,M,WEST-CREE M,MH,ATHAPASCAN M,SAYISI M,NE",
  "|CANADIAN SYLLABICS |NAAI,NI,NII,NO,NOO,Y-CREE NOO,NA,NAA,NWE,WEST-CREE NWE,NWA,WEST-CREE NWA,NWAA,WEST-CREE NWAA",
  "|CANADIAN SYLLABICS |NASKAPI NWAA,N,CARRIER NG,NH,LE,LAAI,LI,LII,LO,LOO,Y-CREE LOO,LA,LAA,LWE,WEST-CREE LWE",
  "|CANADIAN SYLLABICS |LWI,WEST-CREE LWI,LWII,WEST-CREE LWII,LWO,WEST-CREE LWO,LWOO,WEST-CREE LWOO,LWA,WEST-CREE LWA",
  "|CANADIAN SYLLABICS |LWAA,WEST-CREE LWAA,L,WEST-CREE L,MEDIAL L,SE,SAAI,SI,SII,SO,SOO,Y-CREE SOO,SA,SAA",
  "|CANADIAN SYLLABICS |SWE,WEST-CREE SWE,SWI,WEST-CREE SWI,SWII,WEST-CREE SWII,SWO,WEST-CREE SWO,SWOO,WEST-CREE SWOO",
  "|CANADIAN SYLLABICS |SWA,WEST-CREE SWA,SWAA,WEST-CREE SWAA,NASKAPI SWAA,S,ATHAPASCAN S,SW,BLACKFOOT S,MOOSE-CREE SK",
  "|CANADIAN SYLLABICS NASKAPI |SKW,S-W,SPWA,STWA,SKWA,SCWA",
  "|CANADIAN SYLLABICS |SHE,SHI,SHII,SHO,SHOO,SHA,SHAA,SHWE,WEST-CREE SHWE,SHWI,WEST-CREE SHWI",
  "|CANADIAN SYLLABICS |SHWII,WEST-CREE SHWII,SHWO,WEST-CREE SHWO,SHWOO,WEST-CREE SHWOO,SHWA,WEST-CREE SHWA",
  "|CANADIAN SYLLABICS |SHWAA,WEST-CREE SHWAA,SH,YE,YAAI,YI,YII,YO,YOO,Y-CREE YOO,YA,YAA,YWE,WEST-CREE YWE,YWI",
  "|CANADIAN SYLLABICS |WEST-CREE YWI,YWII,WEST-CREE YWII,YWO,WEST-CREE YWO,YWOO,WEST-CREE YWOO,YWA,WEST-CREE YWA,YWAA",
  "|CANADIAN SYLLABICS |WEST-CREE YWAA,NASKAPI YWAA,Y,BIBLE-CREE Y,WEST-CREE Y,SAYISI YI,RE,R-CREE RE,WEST-CREE LE",
  "|CANADIAN SYLLABICS |RAAI,RI,RII,RO,ROO,WEST-CREE LO,RA,RAA,WEST-CREE LA,RWAA,WEST-CREE RWAA,R,WEST-CREE R",
  "|CANADIAN SYLLABICS |MEDIAL R,FE,FAAI,FI,FII,FO,FOO,FA,FAA,FWAA,WEST-CREE FWAA,F,THE,N-CREE THE,THI,N-CREE THI,THII",
  "|CANADIAN SYLLABICS |N-CREE THII,THO,THOO,THA,THAA,THWAA,WEST-CREE THWAA,TH,TTHE,TTHI,TTHO,TTHA,TTH,TYE,TYI,TYO,TYA",
  "|CANADIAN SYLLABICS NUNAVIK |HE,HI,HII,HO,HOO,HA,HAA,H",
  "|CANADIAN SYLLABICS |NUNAVUT H,HK,QAAI,QI,QII,QO,QOO,QA,QAA,Q,TLHE,TLHI,TLHO,TLHA",
  "|CANADIAN SYLLABICS WEST-CREE |RE,RI,RO,RA",
  "|CANADIAN SYLLABICS |NGAAI,NGI,NGII,NGO,NGOO,NGA,NGAA,NG,NNG,SAYISI SHE,SAYISI SHI,SAYISI SHO,SAYISI SHA",
  "|CANADIAN SYLLABICS WOODS-CREE |THE,THI,THO,THA,TH",
  "|CANADIAN SYLLABICS |LHI,LHII,LHO,LHOO,LHA,LHAA,LH",
  "|CANADIAN SYLLABICS TH-CREE |THE,THI,THII,THO,THOO,THA,THAA,TH",
  "||CANADIAN SYLLABICS AIVILIK B",
  "|CANADIAN SYLLABICS BLACKFOOT |E,I,O,A,WE,WI,WO,WA,NE,NI,NO,NA,KE,KI,KO,KA",
  "|CANADIAN SYLLABICS SAYISI |HE,HI,HO,HA",
  "|CANADIAN SYLLABICS CARRIER |GHU,GHO,GHE,GHEE,GHI,GHA,RU,RO,RE",
  "|CANADIAN SYLLABICS CARRIER |REE,RI,RA,WU,WO,WE,WEE,WI,WA,HWU,HWO,HWE,HWEE,HWI,HWA,THU,THO,THE,THEE,THI,THA,TTU,TTO",
  "|CANADIAN SYLLABICS CARRIER |TTE,TTEE,TTI,TTA,PU,PO,PE,PEE,PI,PA,P,GU,GO,GE,GEE,GI,GA,KHU,KHO,KHE,KHEE,KHI,KHA,KKU",
  "|CANADIAN SYLLABICS CARRIER |KKO,KKE,KKEE,KKI,KKA,KK,NU,NO,NE,NEE,NI,NA,MU,MO,ME,MEE,MI,MA,YU,YO,YE,YEE,YI,YA,JU",
  "|CANADIAN SYLLABICS |SAYISI JU,CARRIER JO,CARRIER JE,CARRIER JEE,CARRIER JI,SAYISI JI",
  "|CANADIAN SYLLABICS CARRIER |JA,JJU,JJO,JJE,JJEE,JJI,JJA,LU,LO,LE,LEE,LI,LA,DLU,DLO,DLE,DLEE,DLI,DLA,LHU,LHO",
  "|CANADIAN SYLLABICS CARRIER |LHE,LHEE,LHI,LHA,TLHU,TLHO,TLHE,TLHEE,TLHI,TLHA,TLU,TLO,TLE,TLEE,TLI,TLA,ZU,ZO,ZE,ZEE",
  "|CANADIAN SYLLABICS CARRIER |ZI,ZA,Z,INITIAL Z,DZU,DZO,DZE,DZEE,DZI,DZA,SU,SO,SE,SEE,SI,SA,SHU,SHO,SHE,SHEE,SHI,SHA",
  "|CANADIAN SYLLABICS CARRIER |SH,TSU,TSO,TSE,TSEE,TSI,TSA,CHU,CHO,CHE,CHEE,CHI,CHA,TTSU,TTSO,TTSE,TTSEE,TTSI,TTSA",
  "|CANADIAN SYLLABICS |CHI SIGN,FULL STOP,QAI,NGAI,NNGI,NNGII,NNGO,NNGOO,NNGA,NNGAA",
  "|CANADIAN SYLLABICS WOODS-CREE |THWEE,THWI,THWII,THWO,THWOO,THWA,THWAA,FINAL TH",
  "||CANADIAN SYLLABICS BLACKFOOT W,OGHAM SPACE MARK",
  "|OGHAM LETTER |BEITH,LUIS,FEARN,SAIL,NION,UATH,DAIR,TINNE,COLL,CEIRT",
  "|OGHAM LETTER |MUIN,GORT,NGEADAL,STRAIF,RUIS,AILM,ONN,UR,EADHADH,IODHADH,EABHADH,OR,UILLEANN,IFIN,EAMHANCHOLL,PEITH",
  "||OGHAM FEATHER MARK,OGHAM REVERSED FEATHER MARK,,,,RUNIC LETTER FEHU FEOH FE F",
  "|RUNIC LETTER |V,URUZ UR U,YR,Y,W,THURISAZ THURS THORN,ETH,ANSUZ A,OS O,AC A,AESC,LONG-BRANCH-OSS O",
  "|RUNIC LETTER |SHORT-TWIG-OSS O,O,OE,ON,RAIDO RAD REID R,KAUNA,CEN,KAUN K,G,ENG,GEBO GYFU G,GAR,WUNJO WYNN W",
  "|RUNIC LETTER |HAGLAZ H,HAEGL H,LONG-BRANCH-HAGALL H,SHORT-TWIG-HAGALL H,NAUDIZ NYD NAUD N,SHORT-TWIG-NAUD N",
  "|RUNIC LETTER |DOTTED-N,ISAZ IS ISS I,E,JERAN J,GER,LONG-BRANCH-AR AE,SHORT-TWIG-AR A,IWAZ EOH,PERTHO PEORTH P",
  "|RUNIC LETTER |ALGIZ EOLHX,SOWILO S,SIGEL LONG-BRANCH-SOL S,SHORT-TWIG-SOL S,C,Z,TIWAZ TIR TYR T,SHORT-TWIG-TYR T",
  "|RUNIC LETTER |D,BERKANAN BEORC BJARKAN B,SHORT-TWIG-BJARKAN B,DOTTED-P,OPEN-P,EHWAZ EH E,MANNAZ MAN M",
  "|RUNIC LETTER |LONG-BRANCH-MADR M,SHORT-TWIG-MADR M,LAUKAZ LAGU LOGR L,DOTTED-L,INGWAZ,ING,DAGAZ DAEG D",
  "|RUNIC LETTER |OTHALAN ETHEL O,EAR,IOR,CWEORTH,CALC,CEALC,STAN,LONG-BRANCH-YR,SHORT-TWIG-YR,ICELANDIC-YR,Q,X",
  "|RUNIC |SINGLE PUNCTUATION,MULTIPLE PUNCTUATION,CROSS PUNCTUATION,ARLAUG SYMBOL,TVIMADUR SYMBOL,BELGTHOR SYMBOL",
  "|RUNIC LETTER |K,SH,OO",
  "|RUNIC LETTER FRANKS CASKET |OS,IS,EH,AC,AESC",
  "1700|TAGALOG LETTER |A,I,U,KA,GA,NGA,TA,DA,NA,PA,BA,MA,YA,RA,LA,WA,SA,HA",
  "|TAGALOG VOWEL SIGN |I,U",
  "|TAGALOG SIGN |VIRAMA,PAMUDPOD",
  "171F||TAGALOG LETTER ARCHAIC RA",
  "|HANUNOO LETTER |A,I,U,KA,GA,NGA,TA,DA,NA,PA,BA,MA,YA,RA,LA,WA,SA,HA",
  "|HANUNOO |VOWEL SIGN I,VOWEL SIGN U,SIGN PAMUDPOD",
  "|PHILIPPINE |SINGLE PUNCTUATION,DOUBLE PUNCTUATION",
  "1740|BUHID LETTER |A,I,U,KA,GA,NGA,TA,DA,NA,PA,BA,MA,YA,RA,LA,WA,SA,HA",
  "|BUHID VOWEL SIGN |I,U",
  "1760|TAGBANWA LETTER |A,I,U,KA,GA,NGA,TA,DA,NA,PA,BA,MA,YA,,LA,WA,SA",
  "1772|TAGBANWA VOWEL SIGN |I,U",
  "1780|KHMER LETTER |KA,KHA,KO,KHO,NGO,CA",
  "|KHMER LETTER |CHA,CO,CHO,NYO,DA,TTHA,DO,TTHO,NNO,TA,THA,TO,THO,NO,BA,PHA,PO,PHO,MO,YO,RO,LO,VO,SHA,SSO,SA,HA,LA,QA",
  "|KHMER INDEPENDENT VOWEL |QAQ,QAA,QI,QII,QU,QUK,QUU,QUUV,RY,RYY,LY,LYY,QE,QAI,QOO TYPE ONE,QOO TYPE TWO,QAU",
  "|KHMER VOWEL INHERENT |AQ,AA",
  "|KHMER VOWEL SIGN |AA,I,II,Y,YY,U,UU,UA,OE,YA,IE,E,AE,AI,OO,AU",
  "|KHMER SIGN |NIKAHIT,REAHMUK,YUUKALEAPINTU,MUUSIKATOAN,TRIISAP,BANTOC,ROBAT,TOANDAKHIAT,KAKABAT,AHSDA,SAMYOK SANNYA",
  "|KHMER SIGN |VIRIAM,COENG,BATHAMASAT,KHAN,BARIYOOSAN,CAMNUC PII KUUH,LEK TOO,BEYYAL,PHNAEK MUAN,KOOMUUT",
  "|KHMER |CURRENCY SYMBOL RIEL,SIGN AVAKRAHASANYA,SIGN ATTHACAN",
  "17E0|KHMER DIGIT |ZERO,ONE,TWO,THREE,FOUR,FIVE,SIX,SEVEN,EIGHT,NINE",
  "17F0|KHMER SYMBOL LEK ATTAK |SON,MUOY,PII,BEI,BUON,PRAM,PRAM-MUOY,PRAM-PII,PRAM-BEI,PRAM-BUON",
  "1800|MONGOLIAN |BIRGA,ELLIPSIS,COMMA,FULL STOP",
  "|MONGOLIAN |COLON,FOUR DOTS,TODO SOFT HYPHEN,SIBE SYLLABLE BOUNDARY MARKER,MANCHU COMMA,MANCHU FULL STOP,NIRUGU",
  "|MONGOLIAN FREE VARIATION SELECTOR |ONE,TWO,THREE",
  "|MONGOLIAN |VOWEL SEPARATOR,FREE VARIATION SELECTOR FOUR",
  "|MONGOLIAN DIGIT |ZERO,ONE,TWO,THREE,FOUR,FIVE,SIX,SEVEN,EIGHT,NINE",
  "1820|MONGOLIAN LETTER |A,E,I,O,U,OE,UE,EE,NA,ANG,BA,PA,QA",
  "|MONGOLIAN LETTER |GA,MA,LA,SA,SHA,TA,DA,CHA,JA,YA,RA,WA,FA,KA,KHA,TSA,ZA,HAA,ZRA,LHA,ZHI,CHI,TODO LONG VOWEL SIGN",
  "|MONGOLIAN LETTER TODO |E,I,O,U,OE,UE,ANG,BA,PA,QA,GA,MA,TA,DA,CHA,JA,TSA,YA,WA,KA,GAA,HAA,JIA,NIA,DZA",
  "|MONGOLIAN LETTER SIBE |E,I,IY,UE,U,ANG,KA,GA,HA,PA,SHA,TA,DA,JA,FA,GAA,HAA,TSA,ZA,RAA,CHA,ZHA",
  "|MONGOLIAN LETTER MANCHU |I,KA,RA,FA,ZHA",
  "||MONGOLIAN LETTER CHA WITH TWO DOTS",
  "1880|MONGOLIAN LETTER ALI GALI |ANUSVARA ONE,VISARGA ONE,DAMARU,UBADAMA,INVERTED UBADAMA",
  "|MONGOLIAN LETTER ALI GALI |BALUDA,THREE BALUDA,A,I,KA,NGA,CA,TTA,TTHA,DDA,NNA,TA,DA,PA,PHA,SSA,ZHA,ZA,AH",
  "|MONGOLIAN LETTER TODO ALI GALI |TA,ZHA",
  "|MONGOLIAN LETTER MANCHU ALI GALI |GHA,NGA,CA,JHA,TTA,DDHA,TA,DHA,SSA,CYA,ZHA,ZA",
  "|MONGOLIAN LETTER |ALI GALI HALF U,ALI GALI HALF YA,MANCHU ALI GALI BHA,ALI GALI DAGALGA,MANCHU ALI GALI LHA",
  "18B0||CANADIAN SYLLABICS OY",
  "|CANADIAN SYLLABICS |AY,AAY,WAY,POY,PAY,PWOY,TAY,KAY,KWAY,MAY,NOY,NAY,LAY,SOY,SAY,SHOY,SHAY,SHWOY,YOY,YAY,RAY",
  "|CANADIAN SYLLABICS |NWI,OJIBWAY NWI,NWII,OJIBWAY NWII,NWO,OJIBWAY NWO,NWOO,OJIBWAY NWOO,RWEE,RWI,RWII,RWO,RWOO,RWA",
  "|CANADIAN SYLLABICS OJIBWAY |P,T,K,C,M,N,S,SH",
  "|CANADIAN SYLLABICS |EASTERN W,WESTERN W,FINAL SMALL RING,FINAL RAISED DOT,R-CREE RWE,WEST-CREE LOO",
  "|CANADIAN SYLLABICS |WEST-CREE LAA,THWE,THWA,TTHWE,TTHOO,TTHAA,TLHWE,TLHOO,SAYISI SHWE,SAYISI SHOO,SAYISI HOO",
  "|CANADIAN SYLLABICS CARRIER |GWU,DENE GEE,GAA,GWA",
  "|CANADIAN SYLLABICS |SAYISI JUU,CARRIER JWA,BEAVER DENE L,BEAVER DENE R,CARRIER DENTAL S",
  "1900|LIMBU |VOWEL-CARRIER LETTER,LETTER KA,LETTER KHA",
  "|LIMBU LETTER |GA,GHA,NGA,CA,CHA,JA,JHA,YAN,TA,THA,DA,DHA,NA,PA,PHA,BA,BHA,MA,YA,RA,LA,WA,SHA,SSA,SA,HA,GYAN,TRA",
  "1920|LIMBU VOWEL SIGN |A,I,U,EE,AI,OO,AU,E,O",
  "|LIMBU SUBJOINED LETTER |YA,RA,WA",
  "1930|LIMBU SMALL LETTER |KA,NGA,ANUSVARA,TA,NA,PA,MA,RA,LA",
  "|LIMBU SIGN |MUKPHRENG,KEMPHRENG,SA-I",
  "1940|LIMBU |SIGN LOO,,,,EXCLAMATION MARK,QUESTION MARK",
  "|LIMBU DIGIT |ZERO,ONE,TWO,THREE,FOUR,FIVE,SIX,SEVEN,EIGHT,NINE",
  "|TAI LE LETTER |KA,XA,NGA,TSA,SA,YA,TA,THA,LA,PA,PHA,MA,FA,VA,HA,QA,KHA,TSHA,NA,A,I,EE,EH,U,OO,O,UE,E,AUE,AI",
  "1970|TAI LE LETTER TONE-|2,3,4,5,6",
  "1980|NEW TAI LUE LETTER |HIGH QA,LOW QA,HIGH KA,HIGH XA,HIGH NGA,LOW KA,LOW XA,LOW NGA,HIGH TSA",
  "|NEW TAI LUE LETTER |HIGH SA,HIGH YA,LOW TSA,LOW SA,LOW YA,HIGH TA,HIGH THA,HIGH NA,LOW TA,LOW THA,LOW NA,HIGH PA",
  "|NEW TAI LUE LETTER |HIGH PHA,HIGH MA,LOW PA,LOW PHA,LOW MA,HIGH FA,HIGH VA,HIGH LA,LOW FA,LOW VA,LOW LA,HIGH HA",
  "|NEW TAI LUE LETTER |HIGH DA,HIGH BA,LOW HA,LOW DA,LOW BA,HIGH KVA,HIGH XVA,LOW KVA,LOW XVA,HIGH SUA,LOW SUA",
  "19B0|NEW TAI LUE VOWEL SIGN |VOWEL SHORTENER,AA,II,U,UU,E,AE,O,OA,UE,AY,AAY,UY,OY,OAY,UEY,IY",
  "|NEW TAI LUE LETTER FINAL |V,NG,N,M,K,D,B",
  "|NEW TAI LUE TONE MARK-|1,2",
  "19D0|NEW TAI LUE DIGIT |ZERO,ONE,TWO,THREE,FOUR,FIVE,SIX,SEVEN,EIGHT,NINE",
  "|NEW TAI LUE |THAM DIGIT ONE,,,,SIGN LAE,SIGN LAEV",
  "|KHMER SYMBOL |PATHAMASAT,MUOY KOET,PII KOET,BEI KOET,BUON KOET,PRAM KOET",
  "|KHMER SYMBOL PRAM-|MUOY KOET,PII KOET,BEI KOET,BUON KOET",
  "|KHMER SYMBOL |DAP KOET,DAP-MUOY KOET,DAP-PII KOET,DAP-BEI KOET,DAP-BUON KOET,DAP-PRAM KOET,TUTEYASAT,MUOY ROC",
  "|KHMER SYMBOL |PII ROC,BEI ROC,BUON ROC,PRAM ROC,PRAM-MUOY ROC,PRAM-PII ROC,PRAM-BEI ROC,PRAM-BUON ROC,DAP ROC",
  "|KHMER SYMBOL DAP-|MUOY ROC,PII ROC,BEI ROC,BUON ROC,PRAM ROC",
  "|BUGINESE LETTER |KA,GA,NGA,NGKA,PA,BA,MA,MPA,TA,DA,NA,NRA,CA,JA,NYA,NYCA,YA,RA,LA,VA,SA,A,HA",
  "|BUGINESE VOWEL SIGN |I,U,E,O,AE",
  "1A1E|BUGINESE |PALLAWA,END OF SECTION",
  "|TAI THAM LETTER |HIGH KA,HIGH KHA,HIGH KXA,LOW KA,LOW KXA",
  "|TAI THAM LETTER |LOW KHA,NGA,HIGH CA,HIGH CHA,LOW CA,LOW SA,LOW CHA,NYA,RATA,HIGH RATHA,DA,LOW RATHA,RANA,HIGH TA",
  "|TAI THAM LETTER |HIGH THA,LOW TA,LOW THA,NA,BA,HIGH PA,HIGH PHA,HIGH FA,LOW PA,LOW FA,LOW PHA,MA,LOW YA,HIGH YA",
  "|TAI THAM LETTER |RA,RUE,LA,LUE,WA,HIGH SHA,HIGH SSA,HIGH SA,HIGH HA,LLA,A,LOW HA,I,II,U,UU,EE,OO,LAE,GREAT SA",
  "|TAI THAM CONSONANT SIGN |MEDIAL RA,MEDIAL LA,LA TANG LAI",
  "||TAI THAM SIGN MAI KANG LAI",
  "|TAI THAM CONSONANT SIGN |FINAL NGA,LOW PA,HIGH RATHA OR LOW PA,MA,BA,SA",
  "1A60||TAI THAM SIGN SAKOT",
  "|TAI THAM VOWEL SIGN |A,MAI SAT,AA,TALL AA,I,II,UE,UUE,U,UU,O,OA BELOW,OY,E,AE,OO,AI,THAM AI,OA ABOVE",
  "|TAI THAM SIGN |MAI KANG,TONE-1,TONE-2,KHUEN TONE-3,KHUEN TONE-4,KHUEN TONE-5,RA HAAM,MAI SAM,KHUEN-LUE KARAN",
  "1A7F||TAI THAM COMBINING CRYPTOGRAMMIC DOT",
  "|TAI THAM HORA DIGIT |ZERO,ONE,TWO,THREE,FOUR,FIVE,SIX,SEVEN,EIGHT,NINE",
  "1A90|TAI THAM THAM DIGIT |ZERO,ONE,TWO,THREE,FOUR,FIVE,SIX,SEVEN,EIGHT,NINE",
  "1AA0|TAI THAM SIGN |WIANG,WIANGWAAK",
  "|TAI THAM SIGN |SAWAN,KEOW,HOY,DOKMAI,REVERSED ROTATED RANA,MAI YAMOK,KAAN,KAANKUU,SATKAAN,SATKAANKUU,HANG,CAANG",
  "1AB0|COMBINING |DOUBLED CIRCUMFLEX ACCENT,DIAERESIS-RING,INFINITY,DOWNWARDS ARROW,TRIPLE DOT",
  "|COMBINING |X-X BELOW,WIGGLY LINE BELOW,OPEN MARK BELOW,DOUBLE OPEN MARK BELOW,LIGHT CENTRALIZATION STROKE BELOW",
  "|COMBINING |STRONG CENTRALIZATION STROKE BELOW,PARENTHESES ABOVE,DOUBLE PARENTHESES ABOVE",
  "|COMBINING PARENTHESES |BELOW,OVERLAY",
  "|COMBINING LATIN SMALL LETTER |W BELOW,TURNED W BELOW",
  "|COMBINING |LEFT PARENTHESIS ABOVE LEFT,RIGHT PARENTHESIS ABOVE RIGHT,LEFT PARENTHESIS BELOW LEFT",
  "|COMBINING |RIGHT PARENTHESIS BELOW RIGHT,SQUARE BRACKETS ABOVE,NUMBER SIGN ABOVE,INVERTED DOUBLE ARCH ABOVE",
  "|COMBINING |PLUS SIGN ABOVE,DOUBLE PLUS SIGN ABOVE,DOUBLE PLUS SIGN BELOW,TRIPLE ACUTE ACCENT",
  "|COMBINING LATIN SMALL LETTER INSULAR |G,R,T",
  "1B00|BALINESE SIGN |ULU RICEM,ULU CANDRA,CECEK,SURANG,BISAH",
  "|BALINESE LETTER |AKARA,AKARA TEDUNG,IKARA,IKARA TEDUNG,UKARA,UKARA TEDUNG,RA REPA,RA REPA TEDUNG",
  "|BALINESE LETTER |LA LENGA,LA LENGA TEDUNG,EKARA,AIKARA,OKARA,OKARA TEDUNG,KA,KA MAHAPRANA,GA,GA GORA",
  "|BALINESE LETTER |NGA,CA,CA LACA,JA,JA JERA,NYA,TA LATIK,TA MURDA MAHAPRANA,DA MURDA ALPAPRANA,DA MURDA MAHAPRANA",
  "|BALINESE LETTER |NA RAMBAT,TA,TA TAWA,DA,DA MADU,NA,PA,PA KAPAL,BA,BA KEMBANG,MA,YA,RA,LA,WA,SA SAGA,SA SAPA,SA,HA",
  "||BALINESE SIGN REREKAN",
  "|BALINESE VOWEL SIGN |TEDUNG,ULU,ULU SARI,SUKU,SUKU ILUT,RA REPA,RA REPA TEDUNG,LA LENGA",
  "|BALINESE VOWEL SIGN |LA LENGA TEDUNG,TALING,TALING REPA,TALING TEDUNG,TALING REPA TEDUNG,PEPET,PEPET TEDUNG",
  "||BALINESE ADEG ADEG",
  "|BALINESE LETTER |KAF SASAK,KHOT SASAK,TZIR SASAK,EF SASAK,VE SASAK,ZAL SASAK,ASYURA SASAK,ARCHAIC JNYA",
  "1B50|BALINESE DIGIT |ZERO,ONE,TWO,THREE,FOUR,FIVE,SIX,SEVEN,EIGHT,NINE",
  "|BALINESE |PANTI,PAMADA,WINDU,CARIK PAMUNGKAH,CARIK SIKI,CARIK PAREREN,PAMENENG",
  "|BALINESE MUSICAL SYMBOL |DONG,DENG,DUNG,DANG,DANG SURANG,DING,DAENG,DEUNG,DAING,DANG GEDE,COMBINING TEGEH",
  "|BALINESE MUSICAL SYMBOL COMBINING |ENDEP,KEMPUL,KEMPLI,JEGOGAN,KEMPUL WITH JEGOGAN,KEMPLI WITH JEGOGAN,BENDE,GONG",
  "|BALINESE MUSICAL SYMBOL RIGHT-HAND |OPEN DUG,OPEN DAG,CLOSED TUK,CLOSED TAK",
  "|BALINESE MUSICAL SYMBOL LEFT-HAND |OPEN PANG,OPEN PUNG,CLOSED PLAK,CLOSED PLUK,OPEN PING",
  "|BALINESE |PANTI LANTANG,PAMADA LANTANG",
  "1B80|SUNDANESE SIGN |PANYECEK,PANGLAYAR,PANGWISAD",
  "|SUNDANESE LETTER |A,I,U,AE,O,E,EU,KA,QA,GA,NGA,CA,JA,ZA,NYA,TA,DA,NA,PA,FA,VA,BA,MA,YA,RA,LA,WA,SA,XA,HA",
  "|SUNDANESE CONSONANT SIGN |PAMINGKAL,PANYAKRA,PANYIKU",
  "|SUNDANESE VOWEL SIGN |PANGHULU,PANYUKU,PANAELAENG,PANOLONG,PAMEPET,PANEULEUNG",
  "|SUNDANESE SIGN |PAMAAEH,VIRAMA",
  "|SUNDANESE CONSONANT SIGN PASANGAN |MA,WA",
  "|SUNDANESE LETTER |KHA,SYA",
  "|SUNDANESE DIGIT |ZERO,ONE,TWO,THREE,FOUR,FIVE,SIX,SEVEN,EIGHT,NINE",
  "||SUNDANESE AVAGRAHA",
  "|SUNDANESE LETTER |REU,LEU,BHA,FINAL K,FINAL M",
  "|BATAK LETTER |A,SIMALUNGUN A,HA,SIMALUNGUN HA,MANDAILING HA,BA,KARO BA,PA,SIMALUNGUN PA,NA,MANDAILING NA",
  "|BATAK LETTER |WA,SIMALUNGUN WA,PAKPAK WA,GA,SIMALUNGUN GA,JA,DA,RA,SIMALUNGUN RA,MA,SIMALUNGUN MA,SOUTHERN TA",
  "|BATAK LETTER |NORTHERN TA,SA,SIMALUNGUN SA,MANDAILING SA,YA,SIMALUNGUN YA,NGA,LA,SIMALUNGUN LA,NYA,CA,NDA,MBA,I,U",
  "||BATAK SIGN TOMPI",
  "|BATAK VOWEL SIGN |E,PAKPAK E,EE,I,KARO I,O,KARO O,U,U FOR SIMALUNGUN SA",
  "|BATAK CONSONANT SIGN |NG,H",
  "|BATAK |PANGOLAT,PANONGONAN",
  "1BFC|BATAK SYMBOL BINDU |NA METEK,PINARBORAS,JUDUL,PANGOLAT",
  "|LEPCHA LETTER |KA,KLA,KHA,GA,GLA,NGA,CA",
  "|LEPCHA LETTER |CHA,JA,NYA,TA,THA,DA,NA,PA,PLA,PHA,FA,FLA,BA,BLA,MA,MLA,TSA,TSHA,DZA,YA,RA,LA,HA,HLA,VA,SA,SHA,WA,A",
  "|LEPCHA SUBJOINED LETTER |YA,RA",
  "|LEPCHA VOWEL SIGN |AA,I,O,OO,U,UU,E",
  "|LEPCHA CONSONANT SIGN |K,M,L,N,P,R,T,NYIN-DO,KANG",
  "|LEPCHA SIGN |RAN,NUKTA",
  "1C3B|LEPCHA PUNCTUATION |TA-ROL,NYET THYOOM TA-ROL,CER-WA,TSHOOK CER-WA,TSHOOK",
  "|LEPCHA DIGIT |ZERO,ONE,TWO,THREE,FOUR,FIVE,SIX,SEVEN,EIGHT,NINE",
  "1C4D|LEPCHA LETTER |TTA,TTHA,DDA",
  "|OL CHIKI DIGIT |ZERO,ONE,TWO,THREE,FOUR,FIVE,SIX,SEVEN,EIGHT,NINE",
  "|OL CHIKI LETTER |LA,AT,AG,ANG,AL,LAA,AAK,AAJ,AAM,AAW,LI,IS,IH,INY,IR,LU,UC,UD,UNN,UY,LE,EP,EDD,EN,ERR,LO,OTT,OB,OV",
  "|OL CHIKI |LETTER OH,MU TTUDDAG,GAAHLAA TTUDDAAG,MU-GAAHLAA TTUDDAAG,RELAA,PHAARKAA,AHAD",
  "|OL CHIKI PUNCTUATION |MUCAAD,DOUBLE MUCAAD",
  "|CYRILLIC SMALL LETTER |ROUNDED VE,LONG-LEGGED DE",
  "|CYRILLIC SMALL LETTER |NARROW O,WIDE ES,TALL TE,THREE-LEGGED TE,TALL HARD SIGN,TALL YAT,UNBLENDED UK",
  "1C90|GEORGIAN MTAVRULI CAPITAL LETTER |AN,BAN,GAN,DON,EN,VIN,ZEN,TAN,IN,KAN,LAS,MAN,NAR,ON",
  "|GEORGIAN MTAVRULI CAPITAL LETTER |PAR,ZHAR,RAE,SAN,TAR,UN,PHAR,KHAR,GHAN,QAR,SHIN,CHIN,CAN,JIL,CIL,CHAR,XAN,JHAN",
  "|GEORGIAN MTAVRULI CAPITAL LETTER |HAE,HE,HIE,WE,HAR,HOE,FI,YN,ELIFI,TURNED GAN,AIN,,,AEN,HARD SIGN,LABIAL SIGN",
  "|SUNDANESE PUNCTUATION BINDU |SURYA,PANGLONG,PURNAMA,CAKRA,LEU SATANGA,KA SATANGA,DA SATANGA,BA SATANGA",
  "1CD0|VEDIC TONE |KARSHANA,SHARA,PRENKHA",
  "|VEDIC SIGN |NIHSHVASA,YAJURVEDIC MIDLINE SVARITA",
  "|VEDIC TONE YAJURVEDIC |AGGRAVATED INDEPENDENT SVARITA,INDEPENDENT SVARITA,KATHAKA INDEPENDENT SVARITA",
  "|VEDIC TONE |CANDRA BELOW,YAJURVEDIC KATHAKA INDEPENDENT SVARITA SCHROEDER",
  "|VEDIC TONE |DOUBLE SVARITA,TRIPLE SVARITA,KATHAKA ANUDATTA,DOT BELOW",
  "|VEDIC TONE |TWO DOTS BELOW,THREE DOTS BELOW,RIGVEDIC KASHMIRI INDEPENDENT SVARITA,ATHARVAVEDIC INDEPENDENT SVARITA",
  "|VEDIC SIGN |VISARGA SVARITA,VISARGA UDATTA,REVERSED VISARGA UDATTA,VISARGA ANUDATTA,REVERSED VISARGA ANUDATTA",
  "|VEDIC SIGN VISARGA |UDATTA WITH TAIL,ANUDATTA WITH TAIL",
  "|VEDIC SIGN ANUSVARA |ANTARGOMUKHA,BAHIRGOMUKHA,VAMAGOMUKHA,VAMAGOMUKHA WITH TAIL",
  "|VEDIC SIGN |TIRYAK,HEXIFORM LONG ANUSVARA,LONG ANUSVARA,RTHANG LONG ANUSVARA,ANUSVARA UBHAYATO MUKHA,ARDHAVISARGA",
  "|VEDIC |SIGN ROTATED ARDHAVISARGA,TONE CANDRA ABOVE,SIGN JIHVAMULIYA",
  "|VEDIC |SIGN UPADHMANIYA,SIGN ATIKRAMA,TONE RING ABOVE,TONE DOUBLE RING ABOVE,SIGN DOUBLE ANUSVARA ANTARGOMUKHA",
  "1D00|LATIN LETTER SMALL CAPITAL |A,AE",
  "||LATIN SMALL LETTER TURNED AE",
  "|LATIN LETTER SMALL CAPITAL |BARRED B,C,D,ETH,E",
  "|LATIN SMALL LETTER TURNED |OPEN E,I",
  "|LATIN LETTER SMALL CAPITAL |J,K,L WITH STROKE,M,REVERSED N,O,OPEN O",
  "|LATIN SMALL LETTER SIDEWAYS |O,OPEN O,O WITH STROKE",
  "|LATIN |SMALL LETTER TURNED OE,LETTER SMALL CAPITAL OU,SMALL LETTER TOP HALF O,SMALL LETTER BOTTOM HALF O",
  "|LATIN LETTER SMALL CAPITAL |P,REVERSED R,TURNED R,T,U",
  "|LATIN SMALL LETTER SIDEWAYS |U,DIAERESIZED U,TURNED M",
  "|LATIN LETTER SMALL CAPITAL |V,W,Z,EZH",
  "|LATIN LETTER |VOICED LARYNGEAL SPIRANT,AIN",
  "|GREEK LETTER SMALL CAPITAL |GAMMA,LAMDA,PI,RHO,PSI",
  "||CYRILLIC LETTER SMALL CAPITAL EL",
  "|MODIFIER LETTER CAPITAL |A,AE,B,BARRED B,D,E,REVERSED E,G,H,I,J,K,L,M,N,REVERSED N,O,OU,P,R,T,U,W",
  "|MODIFIER LETTER SMALL |A,TURNED A",
  "|MODIFIER LETTER SMALL |ALPHA,TURNED AE,B,D,E,SCHWA,OPEN E,TURNED OPEN E,G,TURNED I,K,M,ENG,O,OPEN O,TOP HALF O",
  "|MODIFIER LETTER SMALL |BOTTOM HALF O,P,T,U,SIDEWAYS U,TURNED M,V,AIN,BETA,GREEK GAMMA,DELTA,GREEK PHI,CHI",
  "|LATIN SUBSCRIPT SMALL LETTER |I,R,U,V",
  "|GREEK SUBSCRIPT SMALL LETTER |BETA,GAMMA,RHO,PHI,CHI",
  "|LATIN SMALL LETTER |UE,B WITH MIDDLE TILDE,D WITH MIDDLE TILDE,F WITH MIDDLE TILDE,M WITH MIDDLE TILDE",
  "|LATIN SMALL LETTER |N WITH MIDDLE TILDE,P WITH MIDDLE TILDE,R WITH MIDDLE TILDE,R WITH FISHHOOK AND MIDDLE TILDE",
  "|LATIN SMALL LETTER |S WITH MIDDLE TILDE,T WITH MIDDLE TILDE,Z WITH MIDDLE TILDE,TURNED G",
  "||MODIFIER LETTER CYRILLIC EN",
  "|LATIN SMALL |LETTER INSULAR G,LETTER TH WITH STRIKETHROUGH,CAPITAL LETTER I WITH STROKE",
  "|LATIN SMALL |LETTER IOTA WITH STROKE,LETTER P WITH STROKE,CAPITAL LETTER U WITH STROKE",
  "|LATIN SMALL LETTER |UPSILON WITH STROKE,B WITH PALATAL HOOK,D WITH PALATAL HOOK,F WITH PALATAL HOOK",
  "|LATIN SMALL LETTER |G WITH PALATAL HOOK,K WITH PALATAL HOOK,L WITH PALATAL HOOK,M WITH PALATAL HOOK",
  "|LATIN SMALL LETTER |N WITH PALATAL HOOK,P WITH PALATAL HOOK,R WITH PALATAL HOOK,S WITH PALATAL HOOK",
  "|LATIN SMALL LETTER |ESH WITH PALATAL HOOK,V WITH PALATAL HOOK,X WITH PALATAL HOOK,Z WITH PALATAL HOOK",
  "|LATIN SMALL LETTER |A WITH RETROFLEX HOOK,ALPHA WITH RETROFLEX HOOK,D WITH HOOK AND TAIL,E WITH RETROFLEX HOOK",
  "|LATIN SMALL LETTER |OPEN E WITH RETROFLEX HOOK,REVERSED OPEN E WITH RETROFLEX HOOK,SCHWA WITH RETROFLEX HOOK",
  "|LATIN SMALL LETTER |I WITH RETROFLEX HOOK,OPEN O WITH RETROFLEX HOOK,ESH WITH RETROFLEX HOOK,U WITH RETROFLEX HOOK",
  "||LATIN SMALL LETTER EZH WITH RETROFLEX HOOK,MODIFIER LETTER SMALL TURNED ALPHA",
  "|MODIFIER LETTER SMALL |C,C WITH CURL,ETH,REVERSED OPEN E,F,DOTLESS J WITH STROKE,SCRIPT G,TURNED H,I WITH STROKE",
  "|MODIFIER LETTER SMALL |IOTA,CAPITAL I,CAPITAL I WITH STROKE,J WITH CROSSED-TAIL,L WITH RETROFLEX HOOK",
  "|MODIFIER LETTER SMALL |L WITH PALATAL HOOK,CAPITAL L,M WITH HOOK,TURNED M WITH LONG LEG,N WITH LEFT HOOK",
  "|MODIFIER LETTER SMALL |N WITH RETROFLEX HOOK,CAPITAL N,BARRED O,PHI,S WITH HOOK,ESH,T WITH PALATAL HOOK",
  "|MODIFIER LETTER SMALL |U BAR,UPSILON,CAPITAL U,V WITH HOOK,TURNED V,Z,Z WITH RETROFLEX HOOK,Z WITH CURL,EZH,THETA",
  "|COMBINING |DOTTED GRAVE ACCENT,DOTTED ACUTE ACCENT,SNAKE BELOW,SUSPENSION MARK,MACRON-ACUTE",
  "|COMBINING |GRAVE-MACRON,MACRON-GRAVE,ACUTE-MACRON,GRAVE-ACUTE-GRAVE,ACUTE-GRAVE-ACUTE,LATIN SMALL LETTER R BELOW",
  "|COMBINING |BREVE-MACRON,MACRON-BREVE,DOUBLE CIRCUMFLEX ABOVE,OGONEK ABOVE,ZIGZAG BELOW,IS BELOW,UR ABOVE,US ABOVE",
  "|COMBINING LATIN SMALL LETTER |FLATTENED OPEN A ABOVE,AE,AO,AV,C CEDILLA,INSULAR D,ETH,G",
  "|COMBINING LATIN |LETTER SMALL CAPITAL G,SMALL LETTER K,SMALL LETTER L,LETTER SMALL CAPITAL L",
  "|COMBINING LATIN |LETTER SMALL CAPITAL M,SMALL LETTER N,LETTER SMALL CAPITAL N,LETTER SMALL CAPITAL R",
  "|COMBINING LATIN SMALL LETTER |R ROTUNDA,S,LONG S,Z,ALPHA,B,BETA,SCHWA,F,L WITH DOUBLE MIDDLE TILDE",
  "|COMBINING LATIN SMALL LETTER |O WITH LIGHT CENTRALIZATION STROKE,P,ESH,U WITH LIGHT CENTRALIZATION STROKE",
  "|COMBINING LATIN SMALL LETTER |W,A WITH DIAERESIS,O WITH DIAERESIS,U WITH DIAERESIS",
  "|COMBINING |UP TACK ABOVE,KAVYKA ABOVE RIGHT,KAVYKA ABOVE LEFT",
  "|COMBINING |DOT ABOVE LEFT,WIDE INVERTED BRIDGE BELOW,DOT BELOW LEFT,DELETION MARK,DOUBLE INVERTED BREVE BELOW",
  "|COMBINING |ALMOST EQUAL TO BELOW,LEFT ARROWHEAD ABOVE,RIGHT ARROWHEAD AND DOWN ARROWHEAD BELOW",
  "|LATIN CAPITAL/SMALL |LETTER A WITH RING BELOW",
  "|LATIN CAPITAL/SMALL LETTER |B WITH DOT ABOVE,B WITH DOT BELOW,B WITH LINE BELOW,C WITH CEDILLA AND ACUTE",
  "|LATIN CAPITAL/SMALL LETTER D WITH |DOT ABOVE,DOT BELOW,LINE BELOW,CEDILLA,CIRCUMFLEX BELOW",
  "|LATIN CAPITAL/SMALL LETTER E WITH |MACRON AND GRAVE,MACRON AND ACUTE,CIRCUMFLEX BELOW,TILDE BELOW",
  "|LATIN CAPITAL/SMALL LETTER |E WITH CEDILLA AND BREVE,F WITH DOT ABOVE,G WITH MACRON",
  "|LATIN CAPITAL/SMALL LETTER H WITH |DOT ABOVE,DOT BELOW,DIAERESIS,CEDILLA,BREVE BELOW",
  "|LATIN CAPITAL/SMALL LETTER I WITH |TILDE BELOW,DIAERESIS AND ACUTE",
  "|LATIN CAPITAL/SMALL LETTER K WITH |ACUTE,DOT BELOW,LINE BELOW",
  "|LATIN CAPITAL/SMALL LETTER L WITH |DOT BELOW,DOT BELOW AND MACRON,LINE BELOW,CIRCUMFLEX BELOW",
  "|LATIN CAPITAL/SMALL LETTER M WITH |ACUTE,DOT ABOVE,DOT BELOW",
  "|LATIN CAPITAL/SMALL LETTER N WITH |DOT ABOVE,DOT BELOW,LINE BELOW,CIRCUMFLEX BELOW",
  "|LATIN CAPITAL/SMALL LETTER O WITH |TILDE AND ACUTE,TILDE AND DIAERESIS,MACRON AND GRAVE,MACRON AND ACUTE",
  "|LATIN CAPITAL/SMALL LETTER |P WITH ACUTE,P WITH DOT ABOVE,R WITH DOT ABOVE",
  "|LATIN CAPITAL/SMALL LETTER |R WITH DOT BELOW,R WITH DOT BELOW AND MACRON,R WITH LINE BELOW,S WITH DOT ABOVE",
  "|LATIN CAPITAL/SMALL LETTER S WITH |DOT BELOW,ACUTE AND DOT ABOVE,CARON AND DOT ABOVE,DOT BELOW AND DOT ABOVE",
  "|LATIN CAPITAL/SMALL LETTER T WITH |DOT ABOVE,DOT BELOW,LINE BELOW,CIRCUMFLEX BELOW",
  "|LATIN CAPITAL/SMALL LETTER U WITH |DIAERESIS BELOW,TILDE BELOW,CIRCUMFLEX BELOW,TILDE AND ACUTE",
  "|LATIN CAPITAL/SMALL LETTER |U WITH MACRON AND DIAERESIS,V WITH TILDE,V WITH DOT BELOW",
  "|LATIN CAPITAL/SMALL LETTER W WITH |GRAVE,ACUTE,DIAERESIS,DOT ABOVE,DOT BELOW",
  "|LATIN CAPITAL/SMALL LETTER |X WITH DOT ABOVE,X WITH DIAERESIS,Y WITH DOT ABOVE",
  "|LATIN CAPITAL/SMALL LETTER Z WITH |CIRCUMFLEX,DOT BELOW,LINE BELOW",
  "|LATIN SMALL LETTER |H WITH LINE BELOW,T WITH DIAERESIS,W WITH RING ABOVE,Y WITH RING ABOVE,A WITH RIGHT HALF RING",
  "|LATIN SMALL LETTER LONG S WITH |DOT ABOVE,DIAGONAL STROKE,HIGH STROKE",
  "|LATIN |CAPITAL LETTER SHARP S,SMALL LETTER DELTA",
  "|LATIN CAPITAL/SMALL LETTER A WITH |DOT BELOW,HOOK ABOVE",
  "|LATIN CAPITAL/SMALL LETTER A WITH CIRCUMFLEX AND |ACUTE,GRAVE,HOOK ABOVE,TILDE,DOT BELOW",
  "|LATIN CAPITAL/SMALL LETTER A WITH BREVE AND |ACUTE,GRAVE,HOOK ABOVE,TILDE,DOT BELOW",
  "|LATIN CAPITAL/SMALL LETTER E WITH |DOT BELOW,HOOK ABOVE,TILDE",
  "|LATIN CAPITAL/SMALL LETTER E WITH CIRCUMFLEX AND |ACUTE,GRAVE,HOOK ABOVE,TILDE,DOT BELOW",
  "|LATIN CAPITAL/SMALL LETTER |I WITH HOOK ABOVE,I WITH DOT BELOW,O WITH DOT BELOW,O WITH HOOK ABOVE",
  "|LATIN CAPITAL/SMALL LETTER O WITH CIRCUMFLEX AND |ACUTE,GRAVE,HOOK ABOVE,TILDE,DOT BELOW",
  "|LATIN CAPITAL/SMALL LETTER O WITH HORN AND |ACUTE,GRAVE,HOOK ABOVE,TILDE,DOT BELOW",
  "|LATIN CAPITAL/SMALL LETTER U WITH |DOT BELOW,HOOK ABOVE",
  "|LATIN CAPITAL/SMALL LETTER U WITH HORN AND |ACUTE,GRAVE,HOOK ABOVE,TILDE,DOT BELOW",
  "|LATIN CAPITAL/SMALL LETTER Y WITH |GRAVE,DOT BELOW,HOOK ABOVE,TILDE",
  "|LATIN CAPITAL/SMALL LETTER |MIDDLE-WELSH LL,MIDDLE-WELSH V,Y WITH LOOP",
  "|GREEK SMALL LETTER ALPHA WITH |PSILI,DASIA,PSILI AND VARIA,DASIA AND VARIA",
  "|GREEK SMALL LETTER ALPHA WITH |PSILI AND OXIA,DASIA AND OXIA,PSILI AND PERISPOMENI,DASIA AND PERISPOMENI",
  "|GREEK CAPITAL LETTER ALPHA WITH |PSILI,DASIA,PSILI AND VARIA,DASIA AND VARIA",
  "|GREEK CAPITAL LETTER ALPHA WITH |PSILI AND OXIA,DASIA AND OXIA,PSILI AND PERISPOMENI,DASIA AND PERISPOMENI",
  "|GREEK SMALL LETTER EPSILON WITH |PSILI,DASIA,PSILI AND VARIA,DASIA AND VARIA,PSILI AND OXIA,DASIA AND OXIA",
  "1F18|GREEK CAPITAL LETTER EPSILON WITH |PSILI,DASIA,PSILI AND VARIA,DASIA AND VARIA,PSILI AND OXIA,DASIA AND OXIA",
  "1F20|GREEK SMALL LETTER ETA WITH |PSILI,DASIA,PSILI AND VARIA,DASIA AND VARIA",
  "|GREEK SMALL LETTER ETA WITH |PSILI AND OXIA,DASIA AND OXIA,PSILI AND PERISPOMENI,DASIA AND PERISPOMENI",
  "|GREEK CAPITAL LETTER ETA WITH |PSILI,DASIA,PSILI AND VARIA,DASIA AND VARIA",
  "|GREEK CAPITAL LETTER ETA WITH |PSILI AND OXIA,DASIA AND OXIA,PSILI AND PERISPOMENI,DASIA AND PERISPOMENI",
  "|GREEK SMALL LETTER IOTA WITH |PSILI,DASIA,PSILI AND VARIA,DASIA AND VARIA",
  "|GREEK SMALL LETTER IOTA WITH |PSILI AND OXIA,DASIA AND OXIA,PSILI AND PERISPOMENI,DASIA AND PERISPOMENI",
  "|GREEK CAPITAL LETTER IOTA WITH |PSILI,DASIA,PSILI AND VARIA,DASIA AND VARIA",
  "|GREEK CAPITAL LETTER IOTA WITH |PSILI AND OXIA,DASIA AND OXIA,PSILI AND PERISPOMENI,DASIA AND PERISPOMENI",
  "|GREEK SMALL LETTER OMICRON WITH |PSILI,DASIA,PSILI AND VARIA,DASIA AND VARIA,PSILI AND OXIA,DASIA AND OXIA",
  "1F48|GREEK CAPITAL LETTER OMICRON WITH |PSILI,DASIA,PSILI AND VARIA,DASIA AND VARIA,PSILI AND OXIA,DASIA AND OXIA",
  "1F50|GREEK SMALL LETTER UPSILON WITH |PSILI,DASIA,PSILI AND VARIA,DASIA AND VARIA",
  "|GREEK SMALL LETTER UPSILON WITH |PSILI AND OXIA,DASIA AND OXIA,PSILI AND PERISPOMENI,DASIA AND PERISPOMENI",
  "1F59|GREEK CAPITAL LETTER UPSILON WITH |DASIA,,DASIA AND VARIA,,DASIA AND OXIA,,DASIA AND PERISPOMENI",
  "|GREEK SMALL LETTER OMEGA WITH |PSILI,DASIA,PSILI AND VARIA,DASIA AND VARIA",
  "|GREEK SMALL LETTER OMEGA WITH |PSILI AND OXIA,DASIA AND OXIA,PSILI AND PERISPOMENI,DASIA AND PERISPOMENI",
  "|GREEK CAPITAL LETTER OMEGA WITH |PSILI,DASIA,PSILI AND VARIA,DASIA AND VARIA",
  "|GREEK CAPITAL LETTER OMEGA WITH |PSILI AND OXIA,DASIA AND OXIA,PSILI AND PERISPOMENI,DASIA AND PERISPOMENI",
  "|GREEK SMALL LETTER |ALPHA WITH VARIA,ALPHA WITH OXIA,EPSILON WITH VARIA,EPSILON WITH OXIA",
  "|GREEK SMALL LETTER |ETA WITH VARIA,ETA WITH OXIA,IOTA WITH VARIA,IOTA WITH OXIA,OMICRON WITH VARIA",
  "|GREEK SMALL LETTER |OMICRON WITH OXIA,UPSILON WITH VARIA,UPSILON WITH OXIA,OMEGA WITH VARIA,OMEGA WITH OXIA",
  "1F80|GREEK SMALL LETTER ALPHA WITH |PSILI AND YPOGEGRAMMENI,DASIA AND YPOGEGRAMMENI",
  "|GREEK SMALL LETTER ALPHA WITH |PSILI AND VARIA AND YPOGEGRAMMENI,DASIA AND VARIA AND YPOGEGRAMMENI",
  "|GREEK SMALL LETTER ALPHA WITH |PSILI AND OXIA AND YPOGEGRAMMENI,DASIA AND OXIA AND YPOGEGRAMMENI",
  "|GREEK SMALL LETTER ALPHA WITH |PSILI AND PERISPOMENI AND YPOGEGRAMMENI,DASIA AND PERISPOMENI AND YPOGEGRAMMENI",
  "|GREEK CAPITAL LETTER ALPHA WITH |PSILI AND PROSGEGRAMMENI,DASIA AND PROSGEGRAMMENI",
  "|GREEK CAPITAL LETTER ALPHA WITH |PSILI AND VARIA AND PROSGEGRAMMENI,DASIA AND VARIA AND PROSGEGRAMMENI",
  "|GREEK CAPITAL LETTER ALPHA WITH |PSILI AND OXIA AND PROSGEGRAMMENI,DASIA AND OXIA AND PROSGEGRAMMENI",
  "|GREEK CAPITAL LETTER ALPHA WITH |PSILI AND PERISPOMENI AND PROSGEGRAMMENI,DASIA AND PERISPOMENI AND PROSGEGRAMMENI",
  "|GREEK SMALL LETTER ETA WITH |PSILI AND YPOGEGRAMMENI,DASIA AND YPOGEGRAMMENI",
  "|GREEK SMALL LETTER ETA WITH |PSILI AND VARIA AND YPOGEGRAMMENI,DASIA AND VARIA AND YPOGEGRAMMENI",
  "|GREEK SMALL LETTER ETA WITH |PSILI AND OXIA AND YPOGEGRAMMENI,DASIA AND OXIA AND YPOGEGRAMMENI",
  "|GREEK SMALL LETTER ETA WITH |PSILI AND PERISPOMENI AND YPOGEGRAMMENI,DASIA AND PERISPOMENI AND YPOGEGRAMMENI",
  "|GREEK CAPITAL LETTER ETA WITH |PSILI AND PROSGEGRAMMENI,DASIA AND PROSGEGRAMMENI",
  "|GREEK CAPITAL LETTER ETA WITH |PSILI AND VARIA AND PROSGEGRAMMENI,DASIA AND VARIA AND PROSGEGRAMMENI",
  "|GREEK CAPITAL LETTER ETA WITH |PSILI AND OXIA AND PROSGEGRAMMENI,DASIA AND OXIA AND PROSGEGRAMMENI",
  "|GREEK CAPITAL LETTER ETA WITH |PSILI AND PERISPOMENI AND PROSGEGRAMMENI,DASIA AND PERISPOMENI AND PROSGEGRAMMENI",
  "|GREEK SMALL LETTER OMEGA WITH |PSILI AND YPOGEGRAMMENI,DASIA AND YPOGEGRAMMENI",
  "|GREEK SMALL LETTER OMEGA WITH |PSILI AND VARIA AND YPOGEGRAMMENI,DASIA AND VARIA AND YPOGEGRAMMENI",
  "|GREEK SMALL LETTER OMEGA WITH |PSILI AND OXIA AND YPOGEGRAMMENI,DASIA AND OXIA AND YPOGEGRAMMENI",
  "|GREEK SMALL LETTER OMEGA WITH |PSILI AND PERISPOMENI AND YPOGEGRAMMENI,DASIA AND PERISPOMENI AND YPOGEGRAMMENI",
  "|GREEK CAPITAL LETTER OMEGA WITH |PSILI AND PROSGEGRAMMENI,DASIA AND PROSGEGRAMMENI",
  "|GREEK CAPITAL LETTER OMEGA WITH |PSILI AND VARIA AND PROSGEGRAMMENI,DASIA AND VARIA AND PROSGEGRAMMENI",
  "|GREEK CAPITAL LETTER OMEGA WITH |PSILI AND OXIA AND PROSGEGRAMMENI,DASIA AND OXIA AND PROSGEGRAMMENI",
  "|GREEK CAPITAL LETTER OMEGA WITH |PSILI AND PERISPOMENI AND PROSGEGRAMMENI,DASIA AND PERISPOMENI AND PROSGEGRAMMENI",
  "|GREEK SMALL LETTER ALPHA WITH |VRACHY,MACRON,VARIA AND YPOGEGRAMMENI",
  "|GREEK SMALL LETTER ALPHA WITH |YPOGEGRAMMENI,OXIA AND YPOGEGRAMMENI,,PERISPOMENI,PERISPOMENI AND YPOGEGRAMMENI",
  "|GREEK CAPITAL LETTER ALPHA WITH |VRACHY,MACRON,VARIA,OXIA,PROSGEGRAMMENI",
  "||GREEK KORONIS",
  "|GREEK |PROSGEGRAMMENI,PSILI,PERISPOMENI,DIALYTIKA AND PERISPOMENI,SMALL LETTER ETA WITH VARIA AND YPOGEGRAMMENI",
  "|GREEK SMALL LETTER ETA WITH |YPOGEGRAMMENI,OXIA AND YPOGEGRAMMENI,,PERISPOMENI,PERISPOMENI AND YPOGEGRAMMENI",
  "|GREEK CAPITAL LETTER EPSILON WITH |VARIA,OXIA",
  "|GREEK CAPITAL LETTER ETA WITH |VARIA,OXIA,PROSGEGRAMMENI",
  "|GREEK PSILI AND |VARIA,OXIA,PERISPOMENI",
  "|GREEK SMALL LETTER IOTA WITH |VRACHY,MACRON",
  "|GREEK SMALL LETTER IOTA WITH |DIALYTIKA AND VARIA,DIALYTIKA AND OXIA,,,PERISPOMENI,DIALYTIKA AND PERISPOMENI",
  "|GREEK CAPITAL LETTER IOTA WITH |VRACHY,MACRON,VARIA,OXIA",
  "1FDD|GREEK DASIA AND |VARIA,OXIA,PERISPOMENI",
  "|GREEK SMALL LETTER UPSILON WITH |VRACHY,MACRON,DIALYTIKA AND VARIA,DIALYTIKA AND OXIA",
  "|GREEK SMALL LETTER |RHO WITH PSILI,RHO WITH DASIA,UPSILON WITH PERISPOMENI,UPSILON WITH DIALYTIKA AND PERISPOMENI",
  "|GREEK CAPITAL LETTER UPSILON WITH |VRACHY,MACRON,VARIA,OXIA",
  "||GREEK CAPITAL LETTER RHO WITH DASIA",
  "|GREEK DIALYTIKA AND |VARIA,OXIA",
  "|GREEK |VARIA,,,SMALL LETTER OMEGA WITH VARIA AND YPOGEGRAMMENI",
  "|GREEK SMALL LETTER OMEGA WITH |YPOGEGRAMMENI,OXIA AND YPOGEGRAMMENI,,PERISPOMENI,PERISPOMENI AND YPOGEGRAMMENI",
  "|GREEK CAPITAL LETTER OMICRON WITH |VARIA,OXIA",
  "|GREEK CAPITAL LETTER OMEGA WITH |VARIA,OXIA,PROSGEGRAMMENI",
  "||GREEK OXIA,GREEK DASIA,,EN QUAD,EM QUAD,EN SPACE,EM SPACE"]

end Linewise.CharacterName
