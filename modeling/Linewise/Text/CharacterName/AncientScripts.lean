/-
Names of characters from 10000 to 1cfff: ancient and minority scripts, cuneiform, hieroglyphs.

The rows are written as `CharacterName.Row.ofText` reads them.
-/
namespace Linewise.CharacterName

/-- the rows for these characters -/
def ancientNames : List String := [
  "10000|LINEAR B SYLLABLE |B008 A,B038 E,B028 I,B061 O,B010 U,B001 DA,B045 DE",
  "|LINEAR B SYLLABLE |B007 DI,B014 DO,B051 DU,B057 JA,B046 JE,,B036 JO,B065 JU,B077 KA,B044 KE,B067 KI,B070 KO",
  "|LINEAR B SYLLABLE |B081 KU,B080 MA,B013 ME,B073 MI,B015 MO,B023 MU,B006 NA,B024 NE,B030 NI,B052 NO,B055 NU,B003 PA",
  "|LINEAR B SYLLABLE |B072 PE,B039 PI,B011 PO,B050 PU,B016 QA,B078 QE,B021 QI,B032 QO,,B060 RA,B027 RE,B053 RI",
  "|LINEAR B SYLLABLE |B002 RO,B026 RU,B031 SA,B009 SE,B041 SI,B012 SO,B058 SU,B059 TA,B004 TE,B037 TI,B005 TO,B069 TU",
  "|LINEAR B SYLLABLE |B054 WA,B075 WE,B040 WI,B042 WO,,B017 ZA,B074 ZE,,B020 ZO,B025 A2,B043 A3,B085 AU,B071 DWE",
  "|LINEAR B SYLLABLE |B090 DWO,B048 NWA,B029 PU2,B062 PTE,B076 RA2,B033 RA3,B068 RO2,B066 TA2,B087 TWE,B091 TWO",
  "10050|LINEAR B SYMBOL |B018,B019,B022,B034,B047,B049,B056,B063,B064,B079,B082,B083,B086,B089",
  "10080|LINEAR B IDEOGRAM |B100 MAN,B102 WOMAN,B104 DEER",
  "|LINEAR B IDEOGRAM |B105 EQUID,B105F MARE,B105M STALLION,B106F EWE,B106M RAM,B107F SHE-GOAT,B107M HE-GOAT,B108F SOW",
  "|LINEAR B IDEOGRAM |B108M BOAR,B109F COW,B109M BULL,B120 WHEAT,B121 BARLEY,B122 OLIVE,B123 SPICE,B125 CYPERUS",
  "|LINEAR B MONOGRAM |B127 KAPO,B128 KANAKO",
  "|LINEAR B IDEOGRAM |B130 OIL,B131 WINE,B132",
  "|LINEAR B MONOGRAM |B133 AREPA,B135 MERI",
  "|LINEAR B IDEOGRAM |B140 BRONZE,B141 GOLD,B142,B145 WOOL,B146,B150,B151 HORN,B152,B153,B154",
  "||LINEAR B MONOGRAM B156 TURO2",
  "|LINEAR B IDEOGRAM |B157,B158,B159 CLOTH,B160,B161,B162 GARMENT,B163 ARMOUR,B164",
  "|LINEAR B IDEOGRAM |B165,B166,B167,B168,B169,B170,B171,B172,B173 MONTH,B174,B176 TREE,B177,B178,B179,B180,B181,B182",
  "|LINEAR B IDEOGRAM |B183,B184,B185,B189,B190,B191 HELMET,B220 FOOTSTOOL,B225 BATHTUB,B230 SPEAR,B231 ARROW,B232",
  "|LINEAR B IDEOGRAM |B233 SWORD,B234,B236,B240 WHEELED CHARIOT,B241 CHARIOT,B242 CHARIOT FRAME,B243 WHEEL,B245,B246",
  "||LINEAR B MONOGRAM B247 DIPTE",
  "|LINEAR B IDEOGRAM |B248,B249,B251,B252,B253,B254 DART,B255,B256,B257,B258,B259",
  "|LINEAR B IDEOGRAM VESSEL |B155,B200,B201,B202,B203,B204,B205,B206,B207,B208,B209,B210",
  "|LINEAR B IDEOGRAM VESSEL |B211,B212,B213,B214,B215,B216,B217,B218,B219,B221,B222,B226,B227,B228,B229,B250,B305",
  "10100|AEGEAN WORD SEPARATOR |LINE,DOT",
  "||AEGEAN CHECK MARK",
  "10107|AEGEAN NUMBER |ONE,TWO,THREE,FOUR",
  "|AEGEAN NUMBER |FIVE,SIX,SEVEN,EIGHT,NINE,TEN,TWENTY,THIRTY,FORTY,FIFTY,SIXTY,SEVENTY,EIGHTY,NINETY,ONE HUNDRED",
  "|AEGEAN NUMBER |TWO HUNDRED,THREE HUNDRED,FOUR HUNDRED,FIVE HUNDRED,SIX HUNDRED,SEVEN HUNDRED,EIGHT HUNDRED",
  "|AEGEAN NUMBER |NINE HUNDRED,ONE THOUSAND,TWO THOUSAND,THREE THOUSAND,FOUR THOUSAND,FIVE THOUSAND,SIX THOUSAND",
  "|AEGEAN NUMBER |SEVEN THOUSAND,EIGHT THOUSAND,NINE THOUSAND,TEN THOUSAND,TWENTY THOUSAND,THIRTY THOUSAND",
  "|AEGEAN NUMBER |FORTY THOUSAND,FIFTY THOUSAND,SIXTY THOUSAND,SEVENTY THOUSAND,EIGHTY THOUSAND,NINETY THOUSAND",
  "10137|AEGEAN WEIGHT |BASE UNIT,FIRST SUBUNIT,SECOND SUBUNIT,THIRD SUBUNIT,FOURTH SUBUNIT",
  "|AEGEAN |DRY MEASURE FIRST SUBUNIT,LIQUID MEASURE FIRST SUBUNIT,MEASURE SECOND SUBUNIT,MEASURE THIRD SUBUNIT",
  "|GREEK ACROPHONIC ATTIC |ONE QUARTER,ONE HALF,ONE DRACHMA,FIVE,FIFTY,FIVE HUNDRED,FIVE THOUSAND,FIFTY THOUSAND",
  "|GREEK ACROPHONIC ATTIC |FIVE TALENTS,TEN TALENTS,FIFTY TALENTS,ONE HUNDRED TALENTS,FIVE HUNDRED TALENTS",
  "|GREEK ACROPHONIC ATTIC |ONE THOUSAND TALENTS,FIVE THOUSAND TALENTS,FIVE STATERS,TEN STATERS,FIFTY STATERS",
  "|GREEK ACROPHONIC ATTIC |ONE HUNDRED STATERS,FIVE HUNDRED STATERS,ONE THOUSAND STATERS,TEN THOUSAND STATERS",
  "|GREEK ACROPHONIC |ATTIC FIFTY THOUSAND STATERS,ATTIC TEN MNAS,HERAEUM ONE PLETHRON,THESPIAN ONE",
  "|GREEK ACROPHONIC |HERMIONIAN ONE,EPIDAUREAN TWO,THESPIAN TWO,CYRENAIC TWO DRACHMAS,EPIDAUREAN TWO DRACHMAS",
  "|GREEK ACROPHONIC |TROEZENIAN FIVE,TROEZENIAN TEN,TROEZENIAN TEN ALTERNATE FORM,HERMIONIAN TEN,MESSENIAN TEN",
  "|GREEK ACROPHONIC |THESPIAN TEN,THESPIAN THIRTY,TROEZENIAN FIFTY,TROEZENIAN FIFTY ALTERNATE FORM,HERMIONIAN FIFTY",
  "|GREEK ACROPHONIC |THESPIAN FIFTY,THESPIAN ONE HUNDRED,THESPIAN THREE HUNDRED,EPIDAUREAN FIVE HUNDRED",
  "|GREEK ACROPHONIC |TROEZENIAN FIVE HUNDRED,THESPIAN FIVE HUNDRED,CARYSTIAN FIVE HUNDRED,NAXIAN FIVE HUNDRED",
  "|GREEK ACROPHONIC |THESPIAN ONE THOUSAND,THESPIAN FIVE THOUSAND,DELPHIC FIVE MNAS,STRATIAN FIFTY MNAS",
  "|GREEK ONE HALF |SIGN,SIGN ALTERNATE FORM",
  "|GREEK |TWO THIRDS SIGN,THREE QUARTERS SIGN,YEAR SIGN,TALENT SIGN,DRACHMA SIGN,OBOL SIGN,TWO OBOLS SIGN",
  "|GREEK |THREE OBOLS SIGN,FOUR OBOLS SIGN,FIVE OBOLS SIGN,METRETES SIGN,KYATHOS BASE SIGN,LITRA SIGN,OUNKIA SIGN",
  "|GREEK |XESTES SIGN,ARTABE SIGN,AROURA SIGN,GRAMMA SIGN,TRYBLION BASE SIGN,ZERO SIGN,ONE QUARTER SIGN,SINUSOID SIGN",
  "||GREEK INDICTION SIGN,NOMISMA SIGN",
  "10190|ROMAN |SEXTANS SIGN,UNCIA SIGN,SEMUNCIA SIGN,SEXTULA SIGN,DIMIDIA SEXTULA SIGN",
  "|ROMAN |SILIQUA SIGN,DENARIUS SIGN,QUINARIUS SIGN,SESTERTIUS SIGN,DUPONDIUS SIGN,AS SIGN,CENTURIAL SIGN",
  "||ASCIA SYMBOL,,,,GREEK SYMBOL TAU RHO",
  "101D0|PHAISTOS DISC SIGN |PEDESTRIAN,PLUMED HEAD,TATTOOED HEAD,CAPTIVE,CHILD,WOMAN,HELMET,GAUNTLET,TIARA",
  "|PHAISTOS DISC SIGN |ARROW,BOW,SHIELD,CLUB,MANACLES,MATTOCK,SAW,LID,BOOMERANG,CARPENTRY PLANE,DOLIUM,COMB,SLING",
  "|PHAISTOS DISC SIGN |COLUMN,BEEHIVE,SHIP,HORN,HIDE,BULLS LEG,CAT,RAM,EAGLE,DOVE,TUNNY,BEE,PLANE TREE,VINE,PAPYRUS",
  "|PHAISTOS DISC SIGN |ROSETTE,LILY,OX BACK,FLUTE,GRATER,STRAINER,SMALL AXE,WAVY BAND,COMBINING OBLIQUE STROKE",
  "10280|LYCIAN LETTER |A,E,B,BH,G,D,I,W,Z,TH,J,K,Q,L,M,N,MM,NN,U,P,KK,R,S,T,TT,AN,EN,H,X",
  "102A0|CARIAN LETTER |A,P2,D,L,UUU,R,LD,A2,Q,B,M,O,D2,T,SH,SH2,S,C-18",
  "|CARIAN LETTER |U,NN,X,N,TT2,P,SS,I,E,UUUU,K,K2,ND,UU,G,G2,ST,ST2,NG,II,C-39,TT,UUU2,RR,MB,MB2,MB3,MB4,LD2,E2,UUU3",
  "102E0||COPTIC EPACT THOUSANDS MARK",
  "|COPTIC EPACT DIGIT |ONE,TWO,THREE,FOUR,FIVE,SIX,SEVEN,EIGHT,NINE",
  "|COPTIC EPACT NUMBER |TEN,TWENTY,THIRTY,FORTY,FIFTY,SIXTY,SEVENTY,EIGHTY,NINETY,ONE HUNDRED,TWO HUNDRED",
  "|COPTIC EPACT NUMBER |THREE HUNDRED,FOUR HUNDRED,FIVE HUNDRED,SIX HUNDRED,SEVEN HUNDRED,EIGHT HUNDRED,NINE HUNDRED",
  "10300|OLD ITALIC LETTER |A,BE",
  "|OLD ITALIC LETTER |KE,DE,E,VE,ZE,HE,THE,I,KA,EL,EM,EN,ESH,O,PE,SHE,KU,ER,ES,TE,U,EKS,PHE,KHE,EF,ERS,CHE,II,UU,ESS",
  "|OLD ITALIC NUMERAL |ONE,FIVE,TEN,FIFTY",
  "1032D|OLD ITALIC LETTER |YE,NORTHERN TSE,SOUTHERN TSE",
  "|GOTHIC LETTER |AHSA,BAIRKAN,GIBA,DAGS,AIHVUS,QAIRTHRA,IUJA,HAGL,THIUTH,EIS,KUSMA,LAGUS",
  "|GOTHIC LETTER |MANNA,NAUTHS,JER,URUS,PAIRTHRA,NINETY,RAIDA,SAUIL,TEIWS,WINJA,FAIHU,IGGWS,HWAIR,OTHAL,NINE HUNDRED",
  "10350|OLD PERMIC LETTER |AN,BUR,GAI,DOI,E,ZHOI,DZHOI,ZATA,DZITA,I,KOKE,LEI,MENOE,NENOE,VOOI",
  "|OLD PERMIC LETTER |PEEI,REI,SII,TAI,U,CHERY,SHOOI,SHCHOOI,YRY,YERU,O,OO,EF,HA,TSIU,VER,YER,YERI,YAT,IE,YU,YA,IA",
  "|COMBINING OLD PERMIC LETTER |AN,DOI,ZATA,NENOE,SII",
  "10380|UGARITIC LETTER |ALPA,BETA,GAMLA,KHA,DELTA,HO,WO,ZETA",
  "|UGARITIC LETTER |HOTA,TET,YOD,KAF,SHIN,LAMDA,MEM,DHAL,NUN,ZU,SAMKA,AIN,PU,SADE,QOPA,RASHA,THANNA,GHAIN,TO,I,U,SSU",
  "1039F||UGARITIC WORD DIVIDER",
  "|OLD PERSIAN SIGN |A,I,U,KA,KU",
  "|OLD PERSIAN SIGN |GA,GU,XA,CA,JA,JI,TA,TU,DA,DI,DU,THA,PA,BA,FA,NA,NU,MA,MI,MU,YA,VA,VI,RA,RU,LA,SA,ZA,SHA,SSA,HA",
  "103C8|OLD PERSIAN SIGN |AURAMAZDAA,AURAMAZDAA-2,AURAMAZDAAHA,XSHAAYATHIYA,DAHYAAUSH,DAHYAAUSH-2,BAGA,BUUMISH",
  "||OLD PERSIAN WORD DIVIDER",
  "|OLD PERSIAN NUMBER |ONE,TWO,TEN,TWENTY,HUNDRED",
  "10400|DESERET CAPITAL LETTER LONG |I,E,A,AH,O,OO",
  "|DESERET CAPITAL LETTER |SHORT I,SHORT E,SHORT A,SHORT AH,SHORT O,SHORT OO,AY,OW,WU,YEE",
  "|DESERET CAPITAL LETTER |H,PEE,BEE,TEE,DEE,CHEE,JEE,KAY,GAY,EF,VEE,ETH,THEE,ES,ZEE,ESH,ZHEE,ER,EL,EM,EN,ENG,OI,EW",
  "|DESERET SMALL LETTER LONG |I,E,A,AH,O,OO",
  "|DESERET SMALL LETTER SHORT |I,E,A,AH,O,OO",
  "|DESERET SMALL LETTER |AY,OW,WU",
  "|DESERET SMALL LETTER |YEE,H,PEE,BEE,TEE,DEE,CHEE,JEE,KAY,GAY,EF,VEE,ETH,THEE,ES,ZEE,ESH,ZHEE,ER,EL,EM,EN,ENG,OI,EW",
  "|SHAVIAN LETTER |PEEP,TOT,KICK,FEE",
  "|SHAVIAN LETTER |THIGH,SO,SURE,CHURCH,YEA,HUNG,BIB,DEAD,GAG,VOW,THEY,ZOO,MEASURE,JUDGE,WOE,HA-HA,LOLL,MIME,IF,EGG",
  "|SHAVIAN LETTER |ASH,ADO,ON,WOOL,OUT,AH,ROAR,NUN,EAT,AGE,ICE,UP,OAK,OOZE,OIL,AWE,ARE,OR,AIR,ERR,ARRAY,EAR,IAN,YEW",
  "|OSMANYA LETTER |ALEF,BA",
  "|OSMANYA LETTER |TA,JA,XA,KHA,DEEL,RA,SA,SHIIN,DHA,CAYN,GA,FA,QAAF,KAAF,LAAN,MIIN,NUUN,WAW,HA,YA,A,E,I,O,U,AA,EE,OO",
  "104A0|OSMANYA DIGIT |ZERO,ONE,TWO,THREE,FOUR,FIVE,SIX,SEVEN,EIGHT,NINE",
  "104B0|OSAGE CAPITAL LETTER |A,AI,AIN,AH,BRA,CHA,EHCHA,E,EIN,HA,HYA",
  "|OSAGE CAPITAL LETTER |I,KA,EHKA,KYA,LA,MA,NA,O,OIN,PA,EHPA,SA,SHA,TA,EHTA,TSA,EHTSA,TSHA,DHA,U,WA,KHA,GHA,ZA,ZHA",
  "104D8|OSAGE SMALL LETTER |A,AI,AIN,AH,BRA,CHA,EHCHA,E,EIN,HA",
  "|OSAGE SMALL LETTER |HYA,I,KA,EHKA,KYA,LA,MA,NA,O,OIN,PA,EHPA,SA,SHA,TA,EHTA,TSA,EHTSA,TSHA,DHA,U,WA,KHA,GHA,ZA,ZHA",
  "10500|ELBASAN LETTER |A,BE,CE,CHE,DE,NDE,DHE,EI,E,FE",
  "|ELBASAN LETTER |GE,GJE,HE,I,JE,KE,LE,LLE,ME,NE,NA,NJE,O,PE,QE,RE,RRE,SE,SHE,TE,THE,U,VE,XE,Y,ZE,ZHE,GHE,GHAMMA,KHE",
  "10530|CAUCASIAN ALBANIAN LETTER |ALT,BET,GIM,DAT,EB,ZARL,EYN,ZHIL,TAS,CHA,YOWD,ZHA,IRB,SHA,LAN,INYA",
  "|CAUCASIAN ALBANIAN LETTER |XEYN,DYAN,CAR,JHOX,KAR,LYIT,HEYT,QAY,AOR,CHOY,CHI,CYAY,MAQ,QAR,NOWC,DZYAY,SHAK,JAYN",
  "|CAUCASIAN ALBANIAN LETTER |ON,TYAY,FAM,DZAY,CHAT,PEN,GHEYS,RAT,SEYK,VEYZ,TIWR,SHOY,IWN,CYAW,CAYN,YAYD,PIWR,KIW",
  "1056F||CAUCASIAN ALBANIAN CITATION MARK",
  "|VITHKUQI CAPITAL LETTER |A,BBE,BE,CE,CHE,DE,DHE",
  "|VITHKUQI CAPITAL LETTER |EI,E,FE,GA,,HA,HHA,I,IJE,JE,KA,LA,LLA,ME,NE,NJE,O,PE,QA,RE,,SE,SHE,TE,THE,U,VE,XE,,Y,ZE",
  "10597|VITHKUQI SMALL LETTER |A,BBE,BE,CE,CHE,DE",
  "|VITHKUQI SMALL LETTER |DHE,EI,E,FE,GA,,HA,HHA,I,IJE,JE,KA,LA,LLA,ME,NE,NJE,O,PE,QA,RE,,SE,SHE,TE,THE,U,VE,XE,,Y,ZE",
  "10600|LINEAR A SIGN |AB001,AB002,AB003,AB004,AB005,AB006,AB007,AB008,AB009,AB010",
  "|LINEAR A SIGN |AB011,AB013,AB016,AB017,AB020,AB021,AB021F,AB021M,AB022,AB022F,AB022M,AB023,AB023M,AB024,AB026",
  "|LINEAR A SIGN |AB027,AB028,A028B,AB029,AB030,AB031,AB034,AB037,AB038,AB039,AB040,AB041,AB044,AB045,AB046,AB047",
  "|LINEAR A SIGN |AB048,AB049,AB050,AB051,AB053,AB054,AB055,AB056,AB057,AB058,AB059,AB060,AB061,AB065,AB066,AB067",
  "|LINEAR A SIGN |AB069,AB070,AB073,AB074,AB076,AB077,AB078,AB079,AB080,AB081,AB082,AB085,AB086,AB087,A100-102,AB118",
  "|LINEAR A SIGN |AB120,A120B,AB122,AB123,AB131A,AB131B,A131C,AB164,AB171,AB180,AB188,AB191,A301,A302,A303,A304,A305",
  "|LINEAR A SIGN |A306,A307,A308,A309A,A309B,A309C,A310,A311,A312,A313A,A313B,A313C,A314,A315,A316,A317,A318,A319",
  "|LINEAR A SIGN |A320,A321,A322,A323,A324,A325,A326,A327,A328,A329,A330,A331,A332,A333,A334,A335,A336,A337,A338,A339",
  "|LINEAR A SIGN |A340,A341,A342,A343,A344,A345,A346,A347,A348,A349,A350,A351,A352,A353,A354,A355,A356,A357,A358,A359",
  "|LINEAR A SIGN |A360,A361,A362,A363,A364,A365,A366,A367,A368,A369,A370,A371,A400-VAS,A401-VAS,A402-VAS,A403-VAS",
  "|LINEAR A SIGN |A404-VAS,A405-VAS,A406-VAS,A407-VAS,A408-VAS,A409-VAS,A410-VAS,A411-VAS,A412-VAS,A413-VAS,A414-VAS",
  "|LINEAR A SIGN |A415-VAS,A416-VAS,A417-VAS,A418-VAS,A501,A502,A503,A504,A505,A506,A508,A509,A510,A511,A512,A513",
  "|LINEAR A SIGN |A515,A516,A520,A521,A523,A524,A525,A526,A527,A528,A529,A530,A531,A532,A534,A535,A536,A537,A538,A539",
  "|LINEAR A SIGN |A540,A541,A542,A545,A547,A548,A549,A550,A551,A552,A553,A554,A555,A556,A557,A559,A563,A564,A565,A566",
  "|LINEAR A SIGN |A568,A569,A570,A571,A572,A573,A574,A575,A576,A577,A578,A579,A580,A581,A582,A583,A584,A585,A586,A587",
  "|LINEAR A SIGN |A588,A589,A591,A592,A594,A595,A596,A598,A600,A601,A602,A603,A604,A606,A608,A609,A610,A611,A612,A613",
  "|LINEAR A SIGN |A614,A615,A616,A617,A618,A619,A620,A621,A622,A623,A624,A626,A627,A628,A629,A634,A637,A638,A640,A642",
  "|LINEAR A SIGN |A643,A644,A645,A646,A648,A649,A651,A652,A653,A654,A655,A656,A657,A658,A659,A660,A661,A662,A663,A664",
  "10740|LINEAR A SIGN |A701 A,A702 B,A703 D,A704 E,A705 F,A706 H,A707 J,A708 K,A709 L,A709-2 L2,A709-3 L3",
  "|LINEAR A SIGN |A709-4 L4,A709-6 L6,A710 W,A711 X,A712 Y,A713 OMEGA,A714 ABB,A715 BB,A717 DD,A726 EYYY,A732 JE",
  "10760|LINEAR A SIGN |A800,A801,A802,A803,A804,A805,A806,A807",
  "10780|MODIFIER LETTER |SMALL CAPITAL AA,SUPERSCRIPT TRIANGULAR COLON,SUPERSCRIPT HALF TRIANGULAR COLON",
  "|MODIFIER LETTER SMALL |AE,CAPITAL B,B WITH HOOK,,DZ DIGRAPH,DZ DIGRAPH WITH RETROFLEX HOOK,DZ DIGRAPH WITH CURL",
  "|MODIFIER LETTER SMALL |DEZH DIGRAPH,D WITH TAIL,D WITH HOOK,D WITH HOOK AND TAIL,REVERSED E,CLOSED REVERSED OPEN E",
  "|MODIFIER LETTER SMALL |FENG DIGRAPH,RAMS HORN,CAPITAL G,G WITH HOOK,CAPITAL G WITH HOOK,H WITH STROKE",
  "|MODIFIER LETTER SMALL |CAPITAL H,HENG WITH HOOK,DOTLESS J WITH STROKE AND HOOK,LS DIGRAPH,LZ DIGRAPH,L WITH BELT",
  "|MODIFIER LETTER SMALL |CAPITAL L WITH BELT,L WITH RETROFLEX HOOK AND BELT,LEZH,LEZH WITH RETROFLEX HOOK",
  "|MODIFIER LETTER SMALL |TURNED Y,TURNED Y WITH BELT,O WITH STROKE,CAPITAL OE,CLOSED OMEGA,Q",
  "|MODIFIER LETTER SMALL TURNED R WITH LONG |LEG,LEG AND RETROFLEX HOOK",
  "|MODIFIER LETTER SMALL |R WITH TAIL,R WITH FISHHOOK,CAPITAL R,TC DIGRAPH WITH CURL,TS DIGRAPH",
  "|MODIFIER LETTER SMALL |TS DIGRAPH WITH RETROFLEX HOOK,TESH DIGRAPH,T WITH RETROFLEX HOOK,V WITH RIGHT HOOK",
  "107B2|MODIFIER LETTER |SMALL CAPITAL Y,GLOTTAL STOP WITH STROKE,REVERSED GLOTTAL STOP WITH STROKE,BILABIAL CLICK",
  "|MODIFIER LETTER |DENTAL CLICK,LATERAL CLICK,ALVEOLAR CLICK,RETROFLEX CLICK WITH RETROFLEX HOOK,SMALL S WITH CURL",
  "10800|CYPRIOT SYLLABLE |A,E,I,O,U,JA,,,JO,,KA,KE,KI,KO,KU,LA,LE,LI,LO,LU,MA,ME,MI,MO,MU,NA,NE,NI",
  "|CYPRIOT SYLLABLE |NO,NU,PA,PE,PI,PO,PU,RA,RE,RI,RO,RU,SA,SE,SI,SO,SU,TA,TE,TI,TO,TU,WA,WE,WI,WO,,XA,XE,,,,ZA,,,ZO",
  "|IMPERIAL ARAMAIC LETTER |ALEPH,BETH,GIMEL,DALETH,HE,WAW,ZAYIN,HETH,TETH,YODH,KAPH,LAMEDH,MEM,NUN,SAMEKH,AYIN,PE",
  "|IMPERIAL ARAMAIC |LETTER SADHE,LETTER QOPH,LETTER RESH,LETTER SHIN,LETTER TAW,,SECTION SIGN",
  "|IMPERIAL ARAMAIC NUMBER |ONE,TWO,THREE,TEN,TWENTY,ONE HUNDRED,ONE THOUSAND,TEN THOUSAND",
  "|PALMYRENE LETTER |ALEPH,BETH,GIMEL,DALETH,HE",
  "|PALMYRENE LETTER |WAW,ZAYIN,HETH,TETH,YODH,KAPH,LAMEDH,MEM,FINAL NUN,NUN,SAMEKH,AYIN,PE,SADHE,QOPH,RESH,SHIN,TAW",
  "|PALMYRENE |LEFT-POINTING FLEURON,RIGHT-POINTING FLEURON",
  "|PALMYRENE NUMBER |ONE,TWO,THREE,FOUR,FIVE,TEN,TWENTY",
  "|NABATAEAN LETTER |FINAL ALEPH,ALEPH,FINAL BETH",
  "|NABATAEAN LETTER |BETH,GIMEL,DALETH,FINAL HE,HE,WAW,ZAYIN,HETH,TETH,FINAL YODH,YODH,FINAL KAPH,KAPH,FINAL LAMEDH",
  "|NABATAEAN LETTER |LAMEDH,FINAL MEM,MEM,FINAL NUN,NUN,SAMEKH,AYIN,PE,SADHE,QOPH,RESH,FINAL SHIN,SHIN,TAW",
  "108A7|NABATAEAN NUMBER |ONE,TWO,THREE,FOUR",
  "||NABATAEAN CRUCIFORM NUMBER FOUR",
  "|NABATAEAN NUMBER |FIVE,TEN,TWENTY,ONE HUNDRED",
  "108E0|HATRAN LETTER |ALEPH,BETH",
  "|HATRAN LETTER |GIMEL,DALETH-RESH,HE,WAW,ZAYN,HETH,TETH,YODH,KAPH,LAMEDH,MEM,NUN,SAMEKH,AYN,PE,SADHE,QOPH,,SHIN,TAW",
  "108FB|HATRAN NUMBER |ONE,FIVE,TEN,TWENTY,ONE HUNDRED",
  "|PHOENICIAN LETTER |ALF,BET,GAML,DELT,HE,WAU,ZAI,HET,TET,YOD,KAF,LAMD,MEM,NUN,SEMK,AIN,PE,SADE,QOF,ROSH,SHIN,TAU",
  "|PHOENICIAN NUMBER |ONE,TEN,TWENTY,ONE HUNDRED,TWO,THREE",
  "1091F||PHOENICIAN WORD SEPARATOR",
  "|LYDIAN LETTER |A,B,G,D,E,V,I,Y,K,L,M,N,O,R,SS,T,U,F,Q,S,TT,AN,EN,LY,NN,C",
  "1093F||LYDIAN TRIANGULAR MARK",
  "10980|MEROITIC HIEROGLYPHIC LETTER |A,E,I,O,YA,WA,BA",
  "|MEROITIC HIEROGLYPHIC LETTER |BA-2,PA,MA,NA,NA-2,NE,NE-2,RA,RA-2,LA,KHA,HHA,SA,SA-2,SE,KA,QA,TA,TA-2,TE,TE-2,TO,DA",
  "|MEROITIC HIEROGLYPHIC SYMBOL |VIDJ,VIDJ-2",
  "|MEROITIC CURSIVE LETTER |A,E,I,O,YA,WA,BA,PA,MA,NA,NE,RA,LA,KHA,HHA,SA,ARCHAIC SA,SE,KA,QA,TA,TE,TO,DA",
  "109BC|MEROITIC CURSIVE |FRACTION ELEVEN TWELFTHS,FRACTION ONE HALF,LOGOGRAM RMT,LOGOGRAM IMN",
  "|MEROITIC CURSIVE NUMBER |ONE,TWO,THREE,FOUR,FIVE,SIX,SEVEN,EIGHT,NINE,TEN,TWENTY,THIRTY,FORTY",
  "|MEROITIC CURSIVE NUMBER |FIFTY,SIXTY,SEVENTY,,,ONE HUNDRED,TWO HUNDRED,THREE HUNDRED,FOUR HUNDRED,FIVE HUNDRED",
  "|MEROITIC CURSIVE NUMBER |SIX HUNDRED,SEVEN HUNDRED,EIGHT HUNDRED,NINE HUNDRED,ONE THOUSAND,TWO THOUSAND",
  "|MEROITIC CURSIVE NUMBER |THREE THOUSAND,FOUR THOUSAND,FIVE THOUSAND,SIX THOUSAND,SEVEN THOUSAND,EIGHT THOUSAND",
  "|MEROITIC CURSIVE NUMBER |NINE THOUSAND,TEN THOUSAND,TWENTY THOUSAND,THIRTY THOUSAND,FORTY THOUSAND,FIFTY THOUSAND",
  "|MEROITIC CURSIVE NUMBER |SIXTY THOUSAND,SEVENTY THOUSAND,EIGHTY THOUSAND,NINETY THOUSAND,ONE HUNDRED THOUSAND",
  "|MEROITIC CURSIVE NUMBER |TWO HUNDRED THOUSAND,THREE HUNDRED THOUSAND,FOUR HUNDRED THOUSAND,FIVE HUNDRED THOUSAND",
  "|MEROITIC CURSIVE NUMBER |SIX HUNDRED THOUSAND,SEVEN HUNDRED THOUSAND,EIGHT HUNDRED THOUSAND,NINE HUNDRED THOUSAND",
  "|MEROITIC CURSIVE FRACTION |ONE TWELFTH,TWO TWELFTHS,THREE TWELFTHS,FOUR TWELFTHS",
  "|MEROITIC CURSIVE FRACTION |FIVE TWELFTHS,SIX TWELFTHS,SEVEN TWELFTHS,EIGHT TWELFTHS,NINE TWELFTHS,TEN TWELFTHS",
  "||KHAROSHTHI LETTER A",
  "|KHAROSHTHI VOWEL SIGN |I,U,VOCALIC R,,E,O",
  "10A0C|KHAROSHTHI |VOWEL LENGTH MARK,SIGN DOUBLE RING BELOW,SIGN ANUSVARA,SIGN VISARGA",
  "|KHAROSHTHI LETTER |KA,KHA,GA,GHA,,CA,CHA,JA,,NYA,TTA,TTHA",
  "|KHAROSHTHI LETTER |DDA,DDHA,NNA,TA,THA,DA,DHA,NA,PA,PHA,BA,BHA,MA,YA,RA,LA,VA,SHA,SSA,SA,ZA,HA,KKA,TTTHA,TTTA,VHA",
  "10A38|KHAROSHTHI SIGN |BAR ABOVE,CAUDA,DOT BELOW",
  "10A3F|KHAROSHTHI |VIRAMA,DIGIT ONE,DIGIT TWO,DIGIT THREE,DIGIT FOUR",
  "|KHAROSHTHI NUMBER |TEN,TWENTY,ONE HUNDRED,ONE THOUSAND",
  "||KHAROSHTHI FRACTION ONE HALF",
  "10A50|KHAROSHTHI PUNCTUATION |DOT,SMALL CIRCLE,CIRCLE,CRESCENT BAR,MANGALAM,LOTUS,DANDA,DOUBLE DANDA,LINES",
  "10A60|OLD SOUTH ARABIAN LETTER |HE,LAMEDH,HETH,MEM,QOPH,WAW,SHIN,RESH,BETH,TAW,SAT,KAPH,NUN,KHETH",
  "|OLD SOUTH ARABIAN LETTER |SADHE,SAMEKH,FE,ALEF,AYN,DHADHE,GIMEL,DALETH,GHAYN,TETH,ZAYN,DHALETH,YODH,THAW,THETH",
  "|OLD SOUTH ARABIAN |NUMBER ONE,NUMBER FIFTY,NUMERIC INDICATOR",
  "|OLD NORTH ARABIAN LETTER |HEH,LAM,HAH,MEEM,QAF,WAW,ES-2,REH,BEH,TEH",
  "|OLD NORTH ARABIAN LETTER |ES-1,KAF,NOON,KHAH,SAD,ES-3,FEH,ALEF,AIN,DAD,GEEM,DAL,GHAIN,TAH,ZAIN,THAL,YEH,THEH,ZAH",
  "|OLD NORTH ARABIAN NUMBER |ONE,TEN,TWENTY",
  "10AC0|MANICHAEAN LETTER |ALEPH,BETH,BHETH,GIMEL,GHIMEL,DALETH,HE,WAW",
  "||MANICHAEAN SIGN UD",
  "|MANICHAEAN LETTER |ZAYIN,ZHAYIN,JAYIN,JHAYIN,HETH,TETH,YODH,KAPH,XAPH,KHAPH,LAMEDH",
  "|MANICHAEAN LETTER |DHAMEDH,THAMEDH,MEM,NUN,SAMEKH,AYIN,AAYIN,PE,FE,SADHE,QOPH,XOPH,QHOPH,RESH,SHIN,SSHIN,TAW",
  "|MANICHAEAN ABBREVIATION MARK |ABOVE,BELOW",
  "10AEB|MANICHAEAN NUMBER |ONE,FIVE,TEN,TWENTY,ONE HUNDRED",
  "|MANICHAEAN PUNCTUATION |STAR,FLEURON,DOUBLE DOT WITHIN DOT,DOT WITHIN DOT,DOT,TWO DOTS,LINE FILLER",
  "10B00|AVESTAN LETTER |A,AA,AO,AAO,AN,AAN,AE,AEE,E,EE,O,OO,I,II,U,UU,KE,XE,XYE,XVE,GE,GGE,GHE,CE,JE,TE,THE",
  "|AVESTAN LETTER |DE,DHE,TTE,PE,FE,BE,BHE,NGE,NGYE,NGVE,NE,NYE,NNE,ME,HME,YYE,YE,VE,RE,LE,SE,ZE,SHE,ZHE,SHYE,SSHE,HE",
  "10B39||AVESTAN ABBREVIATION MARK,TINY TWO DOTS OVER ONE DOT PUNCTUATION",
  "||SMALL TWO DOTS OVER ONE DOT PUNCTUATION,LARGE TWO DOTS OVER ONE DOT PUNCTUATION",
  "|LARGE |ONE DOT OVER TWO DOTS PUNCTUATION,TWO RINGS OVER ONE RING PUNCTUATION,ONE RING OVER TWO RINGS PUNCTUATION",
  "|INSCRIPTIONAL PARTHIAN LETTER |ALEPH,BETH,GIMEL,DALETH,HE,WAW",
  "|INSCRIPTIONAL PARTHIAN LETTER |ZAYIN,HETH,TETH,YODH,KAPH,LAMEDH,MEM,NUN,SAMEKH,AYIN,PE,SADHE,QOPH,RESH,SHIN,TAW",
  "10B58|INSCRIPTIONAL PARTHIAN NUMBER |ONE,TWO,THREE,FOUR,TEN,TWENTY,ONE HUNDRED,ONE THOUSAND",
  "|INSCRIPTIONAL PAHLAVI LETTER |ALEPH,BETH,GIMEL,DALETH,HE",
  "|INSCRIPTIONAL PAHLAVI LETTER |WAW-AYIN-RESH,ZAYIN,HETH,TETH,YODH,KAPH,LAMEDH,MEM-QOPH,NUN,SAMEKH,PE,SADHE,SHIN,TAW",
  "10B78|INSCRIPTIONAL PAHLAVI NUMBER |ONE,TWO,THREE,FOUR,TEN,TWENTY,ONE HUNDRED,ONE THOUSAND",
  "|PSALTER PAHLAVI LETTER |ALEPH,BETH,GIMEL",
  "|PSALTER PAHLAVI LETTER |DALETH,HE,WAW-AYIN-RESH,ZAYIN,HETH,YODH,KAPH,LAMEDH,MEM-QOPH,NUN,SAMEKH,PE,SADHE,SHIN,TAW",
  "10B99|PSALTER PAHLAVI |SECTION MARK,TURNED SECTION MARK,FOUR DOTS WITH CROSS,FOUR DOTS WITH DOT",
  "10BA9|PSALTER PAHLAVI NUMBER |ONE,TWO,THREE,FOUR,TEN,TWENTY,ONE HUNDRED",
  "10C00|OLD TURKIC LETTER |ORKHON A,YENISEI A,YENISEI AE,ORKHON I,YENISEI I,YENISEI E,ORKHON O,ORKHON OE",
  "|OLD TURKIC LETTER |YENISEI OE,ORKHON AB,YENISEI AB,ORKHON AEB,YENISEI AEB,ORKHON AG,YENISEI AG,ORKHON AEG",
  "|OLD TURKIC LETTER |YENISEI AEG,ORKHON AD,YENISEI AD,ORKHON AED,ORKHON EZ,YENISEI EZ,ORKHON AY,YENISEI AY",
  "|OLD TURKIC LETTER |ORKHON AEY,YENISEI AEY,ORKHON AEK,YENISEI AEK,ORKHON OEK,YENISEI OEK,ORKHON AL,YENISEI AL",
  "|OLD TURKIC LETTER ORKHON |AEL,ELT,EM,AN,AEN",
  "|OLD TURKIC LETTER |YENISEI AEN,ORKHON ENT,YENISEI ENT,ORKHON ENC,YENISEI ENC,ORKHON ENY,YENISEI ENY,YENISEI ANG",
  "|OLD TURKIC LETTER |ORKHON ENG,YENISEI AENG,ORKHON EP,ORKHON OP,ORKHON IC,ORKHON EC,YENISEI EC,ORKHON AQ,YENISEI AQ",
  "|OLD TURKIC LETTER |ORKHON IQ,YENISEI IQ,ORKHON OQ,YENISEI OQ,ORKHON AR,YENISEI AR,ORKHON AER,ORKHON AS,ORKHON AES",
  "|OLD TURKIC LETTER |ORKHON ASH,YENISEI ASH,ORKHON ESH,YENISEI ESH,ORKHON AT,YENISEI AT,ORKHON AET,YENISEI AET",
  "|OLD TURKIC LETTER ORKHON |OT,BASH",
  "10C80|OLD HUNGARIAN CAPITAL LETTER |A,AA,EB,AMB,EC,ENC,ECS,ED,AND,E,CLOSE E,EE,EF,EG,EGY,EH,I,II",
  "|OLD HUNGARIAN CAPITAL LETTER |EJ,EK,AK,UNK,EL,ELY,EM,EN,ENY,O,OO,NIKOLSBURG OE,RUDIMENTA OE,OEE,EP,EMP,ER,SHORT ER",
  "|OLD HUNGARIAN CAPITAL LETTER |ES,ESZ,ET,ENT,ETY,ECH,U,UU,NIKOLSBURG UE,RUDIMENTA UE,EV,EZ,EZS,ENT-SHAPED SIGN,US",
  "10CC0|OLD HUNGARIAN SMALL LETTER |A,AA,EB,AMB,EC,ENC,ECS,ED,AND,E,CLOSE E,EE,EF,EG,EGY,EH,I,II",
  "|OLD HUNGARIAN SMALL LETTER |EJ,EK,AK,UNK,EL,ELY,EM,EN,ENY,O,OO,NIKOLSBURG OE,RUDIMENTA OE,OEE,EP,EMP,ER,SHORT ER",
  "|OLD HUNGARIAN SMALL LETTER |ES,ESZ,ET,ENT,ETY,ECH,U,UU,NIKOLSBURG UE,RUDIMENTA UE,EV,EZ,EZS,ENT-SHAPED SIGN,US",
  "10CFA|OLD HUNGARIAN NUMBER |ONE,FIVE,TEN,FIFTY,ONE HUNDRED,ONE THOUSAND",
  "|HANIFI ROHINGYA LETTER |A,BA,PA,TA,TTA",
  "|HANIFI ROHINGYA LETTER |JA,CA,HA,KHA,FA,DA,DDA,RA,RRA,ZA,SA,SHA,KA,GA,LA,MA,NA,WA,KINNA WA,YA,KINNA YA,NGA,NYA,VA",
  "|HANIFI ROHINGYA VOWEL |A,I,U,E,O",
  "|HANIFI ROHINGYA |MARK SAKIN,MARK NA KHONNA,SIGN HARBAHAY,SIGN TAHALA,SIGN TANA,SIGN TASSI",
  "10D30|HANIFI ROHINGYA DIGIT |ZERO,ONE,TWO,THREE,FOUR,FIVE,SIX,SEVEN,EIGHT,NINE",
  "10E60|RUMI DIGIT |ONE,TWO,THREE,FOUR,FIVE,SIX,SEVEN,EIGHT,NINE",
  "|RUMI NUMBER |TEN,TWENTY,THIRTY,FORTY,FIFTY,SIXTY,SEVENTY,EIGHTY,NINETY,ONE HUNDRED,TWO HUNDRED",
  "|RUMI NUMBER |THREE HUNDRED,FOUR HUNDRED,FIVE HUNDRED,SIX HUNDRED,SEVEN HUNDRED,EIGHT HUNDRED,NINE HUNDRED",
  "|RUMI FRACTION |ONE HALF,ONE QUARTER,ONE THIRD,TWO THIRDS",
  "10E80|YEZIDI LETTER |ELIF,BE,PE,PHE,THE,SE,CIM,CHIM,CHHIM,HHA,XA,DAL,ZAL,RA,RHA,ZA,JA,SIN,SHIN,SAD",
  "|YEZIDI LETTER |DAD,TA,ZE,EYN,XHEYN,FA,VA,VA ALTERNATE FORM,QAF,KAF,KHAF,GAF,LAM,MIM,NUN,UM,WAW,OW,EW,HAY,YOT,ET",
  "10EAB|YEZIDI COMBINING |HAMZA MARK,MADDA MARK",
  "|YEZIDI |HYPHENATION MARK,,,LETTER LAM WITH DOT ABOVE,LETTER YOT WITH CIRCUMFLEX ABOVE",
  "10F00|OLD SOGDIAN LETTER |ALEPH,FINAL ALEPH,BETH,FINAL BETH,GIMEL,HE,FINAL HE,WAW,ZAYIN,HETH,YODH",
  "|OLD SOGDIAN LETTER |KAPH,LAMEDH,MEM,NUN,FINAL NUN,FINAL NUN WITH VERTICAL TAIL,SAMEKH,AYIN,ALTERNATE AYIN,PE,SADHE",
  "|OLD SOGDIAN LETTER FINAL |SADHE,SADHE WITH VERTICAL TAIL",
  "|OLD SOGDIAN LETTER |RESH-AYIN-DALETH,SHIN,TAW,FINAL TAW,FINAL TAW WITH VERTICAL TAIL",
  "|OLD SOGDIAN NUMBER |ONE,TWO,THREE,FOUR,FIVE,TEN,TWENTY,THIRTY,ONE HUNDRED",
  "|OLD SOGDIAN |FRACTION ONE HALF,LIGATURE AYIN-DALETH",
  "10F30|SOGDIAN LETTER |ALEPH,BETH",
  "|SOGDIAN LETTER |GIMEL,HE,WAW,ZAYIN,HETH,YODH,KAPH,LAMEDH,MEM,NUN,SAMEKH,AYIN,PE,SADHE,RESH-AYIN,SHIN,TAW,FETH,LESH",
  "||SOGDIAN INDEPENDENT SHIN",
  "|SOGDIAN COMBINING |DOT BELOW,TWO DOTS BELOW,DOT ABOVE,TWO DOTS ABOVE",
  "|SOGDIAN COMBINING |CURVE ABOVE,CURVE BELOW,HOOK ABOVE,HOOK BELOW,LONG HOOK BELOW,RESH BELOW,STROKE BELOW",
  "|SOGDIAN NUMBER |ONE,TEN,TWENTY,ONE HUNDRED",
  "|SOGDIAN PUNCTUATION TWO VERTICAL |BARS,BARS WITH DOTS",
  "|SOGDIAN PUNCTUATION |CIRCLE WITH DOT,TWO CIRCLES WITH DOTS,HALF CIRCLE WITH DOT",
  "10F70|OLD UYGHUR LETTER |ALEPH,BETH",
  "|OLD UYGHUR LETTER |GIMEL-HETH,WAW,ZAYIN,FINAL HETH,YODH,KAPH,LAMEDH,MEM,NUN,SAMEKH,PE,SADHE,RESH,SHIN,TAW,LESH",
  "|OLD UYGHUR COMBINING |DOT ABOVE,DOT BELOW,TWO DOTS ABOVE,TWO DOTS BELOW",
  "|OLD UYGHUR PUNCTUATION |BAR,TWO BARS,TWO DOTS,FOUR DOTS",
  "10FB0|CHORASMIAN LETTER |ALEPH,SMALL ALEPH,BETH",
  "|CHORASMIAN LETTER |GIMEL,DALETH,HE,WAW,CURLED WAW,ZAYIN,HETH,YODH,KAPH,LAMEDH,MEM,NUN,SAMEKH,AYIN,PE,RESH,SHIN,TAW",
  "|CHORASMIAN NUMBER |ONE,TWO,THREE,FOUR,TEN,TWENTY,ONE HUNDRED",
  "10FE0|ELYMAIC LETTER |ALEPH,BETH,GIMEL",
  "|ELYMAIC LETTER |DALETH,HE,WAW,ZAYIN,HETH,TETH,YODH,KAPH,LAMEDH,MEM,NUN,SAMEKH,AYIN,PE,SADHE,QOPH,RESH,SHIN,TAW",
  "||ELYMAIC LIGATURE ZAYIN-YODH",
  "11000|BRAHMI SIGN |CANDRABINDU,ANUSVARA,VISARGA,JIHVAMULIYA,UPADHMANIYA",
  "|BRAHMI LETTER |A,AA,I,II,U,UU,VOCALIC R,VOCALIC RR,VOCALIC L,VOCALIC LL,E,AI,O,AU,KA,KHA,GA,GHA,NGA,CA,CHA",
  "|BRAHMI LETTER |JA,JHA,NYA,TTA,TTHA,DDA,DDHA,NNA,TA,THA,DA,DHA,NA,PA,PHA,BA,BHA,MA,YA,RA,LA,VA,SHA,SSA,SA,HA,LLA",
  "|BRAHMI LETTER OLD TAMIL |LLLA,RRA,NNNA",
  "|BRAHMI VOWEL SIGN |AA,BHATTIPROLU AA,I,II,U,UU,VOCALIC R,VOCALIC RR,VOCALIC L,VOCALIC LL,E,AI,O,AU",
  "|BRAHMI |VIRAMA,DANDA,DOUBLE DANDA",
  "|BRAHMI PUNCTUATION |DOT,DOUBLE DOT,LINE,CRESCENT BAR,LOTUS",
  "11052|BRAHMI NUMBER |ONE,TWO,THREE,FOUR,FIVE,SIX",
  "|BRAHMI NUMBER |SEVEN,EIGHT,NINE,TEN,TWENTY,THIRTY,FORTY,FIFTY,SIXTY,SEVENTY,EIGHTY,NINETY,ONE HUNDRED,ONE THOUSAND",
  "|BRAHMI DIGIT |ZERO,ONE,TWO,THREE,FOUR,FIVE,SIX,SEVEN,EIGHT,NINE",
  "||BRAHMI SIGN OLD TAMIL VIRAMA",
  "|BRAHMI LETTER OLD TAMIL SHORT |E,O",
  "|BRAHMI VOWEL SIGN OLD TAMIL SHORT |E,O",
  "||BRAHMI LETTER OLD TAMIL LLA",
  "1107F||BRAHMI NUMBER JOINER",
  "|KAITHI SIGN |CANDRABINDU,ANUSVARA,VISARGA",
  "|KAITHI LETTER |A,AA,I,II,U,UU,E,AI,O,AU,KA,KHA,GA,GHA,NGA,CA,CHA,JA",
  "|KAITHI LETTER |JHA,NYA,TTA,TTHA,DDA,DDDHA,DDHA,RHA,NNA,TA,THA,DA,DHA,NA,PA,PHA,BA,BHA,MA,YA,RA,LA,VA,SHA,SSA,SA,HA",
  "|KAITHI VOWEL SIGN |AA,I,II,U,UU,E,AI,O,AU",
  "|KAITHI |SIGN VIRAMA,SIGN NUKTA,ABBREVIATION SIGN",
  "|KAITHI |ENUMERATION SIGN,NUMBER SIGN,SECTION MARK,DOUBLE SECTION MARK,DANDA,DOUBLE DANDA,VOWEL SIGN VOCALIC R",
  "110CD||KAITHI NUMBER SIGN ABOVE,,,SORA SOMPENG LETTER SAH",
  "|SORA SOMPENG LETTER |TAH,BAH,CAH,DAH,GAH,MAH,NGAH,LAH,NAH,VAH,PAH,YAH,RAH,HAH,KAH,JAH,NYAH,AH,EEH,IH,UH,OH,EH,MAE",
  "110F0|SORA SOMPENG DIGIT |ZERO,ONE,TWO,THREE,FOUR,FIVE,SIX,SEVEN,EIGHT,NINE",
  "11100|CHAKMA SIGN |CANDRABINDU,ANUSVARA,VISARGA",
  "|CHAKMA LETTER |AA,I,U,E,KAA,KHAA,GAA,GHAA,NGAA,CAA,CHAA,JAA,JHAA,NYAA",
  "|CHAKMA LETTER |TTAA,TTHAA,DDAA,DDHAA,NNAA,TAA,THAA,DAA,DHAA,NAA,PAA,PHAA,BAA,BHAA,MAA,YYAA,YAA,RAA,LAA,WAA,SAA,HAA",
  "|CHAKMA VOWEL SIGN |A,I,II,U,UU,E,AI,O,AU,OI",
  "|CHAKMA |O MARK,AU MARK,VIRAMA,MAAYYAA",
  "11136|CHAKMA DIGIT |ZERO,ONE,TWO,THREE,FOUR,FIVE,SIX,SEVEN,EIGHT,NINE",
  "|CHAKMA |SECTION MARK,DANDA,DOUBLE DANDA,QUESTION MARK,LETTER LHAA,VOWEL SIGN AA,VOWEL SIGN EI,LETTER VAA",
  "11150|MAHAJANI LETTER |A,I,U,E,O,KA,KHA,GA",
  "|MAHAJANI LETTER |GHA,CA,CHA,JA,JHA,NYA,TTA,TTHA,DDA,DDHA,NNA,TA,THA,DA,DHA,NA,PA,PHA,BA,BHA,MA,RA,LA,VA,SA,HA,RRA",
  "|MAHAJANI |SIGN NUKTA,ABBREVIATION SIGN,SECTION MARK,LIGATURE SHRI",
  "11180|SHARADA SIGN |CANDRABINDU,ANUSVARA,VISARGA",
  "|SHARADA LETTER |A,AA,I,II,U,UU,VOCALIC R,VOCALIC RR,VOCALIC L,VOCALIC LL,E,AI,O,AU,KA,KHA,GA,GHA,NGA,CA,CHA",
  "|SHARADA LETTER |JA,JHA,NYA,TTA,TTHA,DDA,DDHA,NNA,TA,THA,DA,DHA,NA,PA,PHA,BA,BHA,MA,YA,RA,LA,LLA,VA,SHA,SSA,SA,HA",
  "|SHARADA VOWEL SIGN |AA,I,II,U,UU,VOCALIC R,VOCALIC RR,VOCALIC L,VOCALIC LL,E,AI,O,AU",
  "|SHARADA SIGN |VIRAMA,AVAGRAHA,JIHVAMULIYA,UPADHMANIYA",
  "|SHARADA |OM,DANDA,DOUBLE DANDA,ABBREVIATION SIGN,SEPARATOR,SANDHI MARK,SIGN NUKTA,VOWEL MODIFIER MARK",
  "|SHARADA |EXTRA SHORT VOWEL MARK,SUTRA MARK,VOWEL SIGN PRISHTHAMATRA E,SIGN INVERTED CANDRABINDU",
  "|SHARADA DIGIT |ZERO,ONE,TWO,THREE,FOUR,FIVE,SIX,SEVEN,EIGHT,NINE",
  "|SHARADA |EKAM,SIGN SIDDHAM,HEADSTROKE,CONTINUATION SIGN,SECTION MARK-1,SECTION MARK-2",
  "111E1|SINHALA ARCHAIC DIGIT |ONE,TWO,THREE,FOUR,FIVE,SIX,SEVEN,EIGHT,NINE",
  "|SINHALA ARCHAIC NUMBER |TEN,TWENTY,THIRTY,FORTY,FIFTY,SIXTY,SEVENTY,EIGHTY,NINETY,ONE HUNDRED,ONE THOUSAND",
  "11200|KHOJKI LETTER |A,AA,I,U,E,AI,O,AU,KA,KHA,GA,GGA,GHA,NGA,CA,CHA",
  "|KHOJKI LETTER |JA,JJA,,NYA,TTA,TTHA,DDA,DDHA,NNA,TA,THA,DA,DDDA,DHA,NA,PA,PHA,BA,BBA,BHA,MA,YA,RA,LA,VA,SA,HA,LLA",
  "|KHOJKI VOWEL SIGN |AA,I,II,U,E,AI,O,AU",
  "|KHOJKI SIGN |ANUSVARA,VIRAMA,NUKTA,SHADDA",
  "|KHOJKI |DANDA,DOUBLE DANDA,WORD SEPARATOR,SECTION MARK,DOUBLE SECTION MARK,ABBREVIATION SIGN,SIGN SUKUN",
  "11280|MULTANI LETTER |A,I,U,E,KA,KHA,GA,,GHA,,CA,CHA,JA",
  "|MULTANI LETTER |JJA,,NYA,TTA,TTHA,DDA,DDDA,DDHA,NNA,TA,THA,DA,DHA,NA,PA,PHA,BA,,BHA,MA,YA,RA,LA,VA,SA,HA,RRA,RHA",
  "||MULTANI SECTION MARK",
  "112B0|KHUDAWADI LETTER |A,AA,I,II,U,UU,E,AI,O,AU,KA,KHA,GA,GGA,GHA,NGA,CA,CHA,JA,JJA,JHA",
  "|KHUDAWADI LETTER |NYA,TTA,TTHA,DDA,DDDA,RRA,DDHA,NNA,TA,THA,DA,DHA,NA,PA,PHA,BA,BBA,BHA,MA,YA,RA,LA,VA,SHA,SA,HA",
  "||KHUDAWADI SIGN ANUSVARA",
  "|KHUDAWADI VOWEL SIGN |AA,I,II,U,UU,E,AI,O,AU",
  "|KHUDAWADI SIGN |NUKTA,VIRAMA",
  "112F0|KHUDAWADI DIGIT |ZERO,ONE,TWO,THREE,FOUR,FIVE,SIX,SEVEN,EIGHT,NINE",
  "11300|GRANTHA SIGN |COMBINING ANUSVARA ABOVE,CANDRABINDU,ANUSVARA,VISARGA",
  "11305|GRANTHA LETTER |A,AA,I,II,U,UU,VOCALIC R,VOCALIC L,,,EE,AI,,,OO,AU,KA,KHA,GA,GHA,NGA,CA,CHA,JA",
  "|GRANTHA LETTER |JHA,NYA,TTA,TTHA,DDA,DDHA,NNA,TA,THA,DA,DHA,NA,,PA,PHA,BA,BHA,MA,YA,RA,,LA,LLA,,VA,SHA,SSA,SA,HA",
  "1133B||COMBINING BINDU BELOW",
  "|GRANTHA SIGN |NUKTA,AVAGRAHA",
  "|GRANTHA VOWEL SIGN |AA,I,II,U,UU,VOCALIC R,VOCALIC RR,,,EE,AI,,,OO,AU",
  "|GRANTHA |SIGN VIRAMA,,,OM",
  "11357||GRANTHA AU LENGTH MARK",
  "1135D||GRANTHA SIGN PLUTA",
  "|GRANTHA LETTER |VEDIC ANUSVARA,VEDIC DOUBLE ANUSVARA,VOCALIC RR,VOCALIC LL",
  "|GRANTHA VOWEL SIGN VOCALIC |L,LL",
  "11366|COMBINING GRANTHA DIGIT |ZERO,ONE,TWO,THREE,FOUR,FIVE,SIX",
  "11370|COMBINING GRANTHA LETTER |A,KA,NA,VI,PA",
  "11400|NEWA LETTER |A,AA,I,II,U,UU",
  "|NEWA LETTER VOCALIC |R,RR,L,LL",
  "|NEWA LETTER |E,AI,O,AU,KA,KHA,GA,GHA,NGA,NGHA,CA,CHA,JA,JHA,NYA,NYHA",
  "|NEWA LETTER |TTA,TTHA,DDA,DDHA,NNA,TA,THA,DA,DHA,NA,NHA,PA,PHA,BA,BHA,MA,MHA,YA,RA,RHA,LA,LHA,WA,SHA,SSA,SA,HA",
  "|NEWA VOWEL SIGN |AA,I,II,U,UU,VOCALIC R,VOCALIC RR,VOCALIC L,VOCALIC LL,E,AI,O,AU",
  "|NEWA SIGN |VIRAMA,CANDRABINDU,ANUSVARA,VISARGA,NUKTA,AVAGRAHA,FINAL ANUSVARA",
  "|NEWA |OM,SIDDHI,DANDA,DOUBLE DANDA,COMMA,GAP FILLER,ABBREVIATION SIGN",
  "|NEWA DIGIT |ZERO,ONE,TWO,THREE,FOUR,FIVE,SIX,SEVEN,EIGHT,NINE",
  "|NEWA |DOUBLE COMMA,PLACEHOLDER MARK,,INSERTION SIGN,SANDHI MARK,LETTER VEDIC ANUSVARA",
  "|NEWA SIGN |JIHVAMULIYA,UPADHMANIYA",
  "11480||TIRHUTA ANJI",
  "|TIRHUTA LETTER |A,AA,I,II,U,UU,VOCALIC R,VOCALIC RR,VOCALIC L,VOCALIC LL,E,AI,O,AU,KA,KHA,GA,GHA,NGA,CA",
  "|TIRHUTA LETTER |CHA,JA,JHA,NYA,TTA,TTHA,DDA,DDHA,NNA,TA,THA,DA,DHA,NA,PA,PHA,BA,BHA,MA,YA,RA,LA,VA,SHA,SSA,SA,HA",
  "|TIRHUTA VOWEL SIGN |AA,I,II,U,UU,VOCALIC R,VOCALIC RR,VOCALIC L,VOCALIC LL,E,SHORT E,AI,O,SHORT O,AU",
  "|TIRHUTA SIGN |CANDRABINDU,ANUSVARA,VISARGA,VIRAMA,NUKTA,AVAGRAHA",
  "|TIRHUTA |GVANG,ABBREVIATION SIGN,OM",
  "114D0|TIRHUTA DIGIT |ZERO,ONE,TWO,THREE,FOUR,FIVE,SIX,SEVEN,EIGHT,NINE",
  "11580|SIDDHAM LETTER |A,AA,I,II,U,UU,VOCALIC R,VOCALIC RR,VOCALIC L,VOCALIC LL,E,AI,O,AU,KA,KHA,GA,GHA,NGA,CA",
  "|SIDDHAM LETTER |CHA,JA,JHA,NYA,TTA,TTHA,DDA,DDHA,NNA,TA,THA,DA,DHA,NA,PA,PHA,BA,BHA,MA,YA,RA,LA,VA,SHA,SSA,SA,HA",
  "|SIDDHAM VOWEL SIGN |AA,I,II,U,UU,VOCALIC R,VOCALIC RR,,,E,AI,O,AU",
  "|SIDDHAM SIGN |CANDRABINDU,ANUSVARA,VISARGA,VIRAMA,NUKTA,SIDDHAM",
  "|SIDDHAM |DANDA,DOUBLE DANDA,SEPARATOR DOT,SEPARATOR BAR",
  "|SIDDHAM REPETITION MARK-|1,2,3",
  "||SIDDHAM END OF TEXT MARK",
  "|SIDDHAM SECTION MARK WITH TRIDENT AND |U-SHAPED ORNAMENTS,DOTTED CRESCENTS",
  "|SIDDHAM SECTION MARK WITH RAYS AND DOTTED |CRESCENTS,DOUBLE CRESCENTS,TRIPLE CRESCENTS",
  "|SIDDHAM SECTION MARK DOUBLE |RING,RING WITH RAYS",
  "|SIDDHAM SECTION MARK WITH |DOUBLE CRESCENTS,TRIPLE CRESCENTS,QUADRUPLE CRESCENTS,SEPTUPLE CRESCENTS",
  "|SIDDHAM SECTION MARK WITH CIRCLES AND |RAYS,TWO ENCLOSURES,FOUR ENCLOSURES",
  "|SIDDHAM LETTER |THREE-CIRCLE ALTERNATE I,TWO-CIRCLE ALTERNATE I,TWO-CIRCLE ALTERNATE II,ALTERNATE U",
  "|SIDDHAM VOWEL SIGN ALTERNATE |U,UU",
  "11600|MODI LETTER |A,AA,I,II,U,UU,VOCALIC R,VOCALIC RR,VOCALIC L,VOCALIC LL,E,AI,O,AU,KA,KHA,GA,GHA,NGA,CA",
  "|MODI LETTER |CHA,JA,JHA,NYA,TTA,TTHA,DDA,DDHA,NNA,TA,THA,DA,DHA,NA,PA,PHA,BA,BHA,MA,YA,RA,LA,VA,SHA,SSA,SA,HA,LLA",
  "|MODI VOWEL SIGN |AA,I,II,U,UU,VOCALIC R,VOCALIC RR,VOCALIC L,VOCALIC LL,E,AI,O,AU",
  "|MODI SIGN |ANUSVARA,VISARGA,VIRAMA,ARDHACANDRA",
  "|MODI |DANDA,DOUBLE DANDA,ABBREVIATION SIGN,SIGN HUVA",
  "11650|MODI DIGIT |ZERO,ONE,TWO,THREE,FOUR,FIVE,SIX,SEVEN,EIGHT,NINE",
  "11660||MONGOLIAN BIRGA WITH ORNAMENT",
  "|MONGOLIAN |ROTATED BIRGA,DOUBLE BIRGA WITH ORNAMENT,TRIPLE BIRGA WITH ORNAMENT,BIRGA WITH DOUBLE ORNAMENT",
  "|MONGOLIAN ROTATED BIRGA WITH |ORNAMENT,DOUBLE ORNAMENT",
  "|MONGOLIAN INVERTED |BIRGA,BIRGA WITH DOUBLE ORNAMENT",
  "|MONGOLIAN SWIRL |BIRGA,BIRGA WITH ORNAMENT,BIRGA WITH DOUBLE ORNAMENT",
  "||MONGOLIAN TURNED SWIRL BIRGA WITH DOUBLE ORNAMENT",
  "11680|TAKRI LETTER |A,AA,I,II,U,UU,E,AI,O,AU,KA,KHA,GA,GHA,NGA",
  "|TAKRI LETTER |CA,CHA,JA,JHA,NYA,TTA,TTHA,DDA,DDHA,NNA,TA,THA,DA,DHA,NA,PA,PHA,BA,BHA,MA,YA,RA,LA,VA,SHA,SA,HA,RRA",
  "|TAKRI SIGN |ANUSVARA,VISARGA",
  "|TAKRI VOWEL SIGN |AA,I,II,U,UU,E,AI,O,AU",
  "|TAKRI |SIGN VIRAMA,SIGN NUKTA,LETTER ARCHAIC KHA,ABBREVIATION SIGN",
  "116C0|TAKRI DIGIT |ZERO,ONE,TWO,THREE,FOUR,FIVE,SIX,SEVEN,EIGHT,NINE",
  "11700|AHOM LETTER |KA,KHA,NGA,NA,TA,ALTERNATE TA",
  "|AHOM LETTER |PA,PHA,BA,MA,JA,CHA,THA,RA,LA,SA,NYA,HA,A,DA,DHA,GA,ALTERNATE GA,GHA,BHA,JHA,ALTERNATE BA",
  "1171D|AHOM CONSONANT SIGN MEDIAL |LA,RA,LIGATING RA",
  "|AHOM VOWEL SIGN |A,AA,I,II,U,UU,E,AW,O,AI,AM",
  "||AHOM SIGN KILLER",
  "11730|AHOM DIGIT |ZERO,ONE,TWO,THREE,FOUR,FIVE,SIX,SEVEN,EIGHT,NINE",
  "|AHOM |NUMBER TEN,NUMBER TWENTY,SIGN SMALL SECTION,SIGN SECTION,SIGN RULAI,SYMBOL VI",
  "|AHOM LETTER |CA,TTA,TTHA,DDA,DDHA,NNA,LLA",
  "11800|DOGRA LETTER |A,AA,I,II,U,UU,E,AI,O,AU,KA,KHA,GA,GHA,NGA,CA",
  "|DOGRA LETTER |CHA,JA,JHA,NYA,TTA,TTHA,DDA,DDHA,NNA,TA,THA,DA,DHA,NA,PA,PHA,BA,BHA,MA,YA,RA,LA,VA,SHA,SSA,SA,HA,RRA",
  "|DOGRA VOWEL SIGN |AA,I,II,U,UU,VOCALIC R,VOCALIC RR,E,AI,O,AU",
  "|DOGRA SIGN |ANUSVARA,VISARGA,VIRAMA,NUKTA",
  "||DOGRA ABBREVIATION SIGN",
  "118A0|WARANG CITI CAPITAL LETTER |NGAA,A,WI,YU,YA,YO,II,UU,E,O",
  "|WARANG CITI CAPITAL LETTER |ANG,GA,KO,ENY,YUJ,UC,ENN,ODD,TTE,NUNG,DA,AT,AM,BU,PU,HIYO,HOLO,HORR,HAR,SSUU,SII,VIYO",
  "|WARANG CITI SMALL LETTER |NGAA,A,WI,YU,YA,YO,II,UU,E",
  "|WARANG CITI SMALL LETTER |O,ANG,GA,KO,ENY,YUJ,UC,ENN,ODD,TTE,NUNG,DA,AT,AM,BU,PU,HIYO,HOLO,HORR,HAR,SSUU,SII,VIYO",
  "|WARANG CITI DIGIT |ZERO,ONE,TWO,THREE,FOUR,FIVE,SIX,SEVEN,EIGHT,NINE",
  "|WARANG CITI NUMBER |TEN,TWENTY,THIRTY,FORTY,FIFTY,SIXTY,SEVENTY,EIGHTY,NINETY",
  "118FF||WARANG CITI OM",
  "|DIVES AKURU LETTER |A,AA,I,II,U,UU,E,,,O,,,KA,KHA,GA,GHA,NGA,CA,CHA,JA,,NYA",
  "|DIVES AKURU LETTER |TTA,,DDA,DDHA,NNA,TA,THA,DA,DHA,NA,PA,PHA,BA,BHA,MA,YA,YYA,RA,LA,VA,SHA,SSA,SA,HA,LLA,ZA",
  "|DIVES AKURU VOWEL SIGN |AA,I,II,U,UU,E,,AI,O",
  "1193B|DIVES AKURU |SIGN ANUSVARA,SIGN CANDRABINDU,SIGN HALANTA,VIRAMA,PREFIXED NASAL SIGN",
  "|DIVES AKURU |MEDIAL YA,INITIAL RA,MEDIAL RA,SIGN NUKTA,DOUBLE DANDA,GAP FILLER,END OF TEXT MARK",
  "11950|DIVES AKURU DIGIT |ZERO,ONE,TWO,THREE,FOUR,FIVE,SIX,SEVEN,EIGHT,NINE",
  "119A0|NANDINAGARI LETTER |A,AA,I,II,U,UU,VOCALIC R,VOCALIC RR,,,E,AI,O,AU,KA,KHA,GA,GHA,NGA,CA,CHA,JA,JHA",
  "|NANDINAGARI LETTER |NYA,TTA,TTHA,DDA,DDHA,NNA,TA,THA,DA,DHA,NA,PA,PHA,BA,BHA,MA,YA,RA,LA,VA,SHA,SSA,SA,HA,LLA,RRA",
  "|NANDINAGARI VOWEL SIGN |AA,I,II,U,UU,VOCALIC R,VOCALIC RR,,,E,AI,O,AU",
  "|NANDINAGARI SIGN |ANUSVARA,VISARGA,VIRAMA,AVAGRAHA,SIDDHAM",
  "|NANDINAGARI |HEADSTROKE,VOWEL SIGN PRISHTHAMATRA E",
  "11A00||ZANABAZAR SQUARE LETTER A",
  "|ZANABAZAR SQUARE VOWEL SIGN |I,UE,U,E,OE,O,AI,AU,REVERSED I",
  "||ZANABAZAR SQUARE VOWEL LENGTH MARK",
  "|ZANABAZAR SQUARE LETTER |KA,KHA,GA,GHA,NGA,CA,CHA,JA,NYA,TTA,TTHA,DDA,DDHA,NNA,TA",
  "|ZANABAZAR SQUARE LETTER |THA,DA,DHA,NA,PA,PHA,BA,BHA,MA,TSA,TSHA,DZA,DZHA,ZHA,ZA,-A,YA,RA,LA,VA,SHA,SSA,SA,HA,KSSA",
  "||ZANABAZAR SQUARE FINAL CONSONANT MARK",
  "|ZANABAZAR SQUARE SIGN |VIRAMA,CANDRABINDU,CANDRABINDU WITH ORNAMENT,CANDRA WITH ORNAMENT,ANUSVARA,VISARGA",
  "||ZANABAZAR SQUARE CLUSTER-INITIAL LETTER RA",
  "|ZANABAZAR SQUARE CLUSTER-FINAL LETTER |YA,RA,LA,VA",
  "|ZANABAZAR SQUARE |INITIAL HEAD MARK,CLOSING HEAD MARK,MARK TSHEG,MARK SHAD,MARK DOUBLE SHAD",
  "|ZANABAZAR SQUARE |MARK LONG TSHEG,INITIAL DOUBLE-LINED HEAD MARK,CLOSING DOUBLE-LINED HEAD MARK,SUBJOINER",
  "11A50||SOYOMBO LETTER A",
  "|SOYOMBO VOWEL SIGN |I,UE,U,E,O,OE,AI,AU,VOCALIC R,VOCALIC L",
  "||SOYOMBO VOWEL LENGTH MARK",
  "|SOYOMBO LETTER |KA,KHA,GA,GHA,NGA,CA,CHA,JA,JHA,NYA,TTA,TTHA,DDA",
  "|SOYOMBO LETTER |DDHA,NNA,TA,THA,DA,DHA,NA,PA,PHA,BA,BHA,MA,TSA,TSHA,DZA,ZHA,ZA,-A,YA,RA,LA,VA,SHA,SSA,SA,HA,KSSA",
  "|SOYOMBO SIGN |JIHVAMULIYA,UPADHMANIYA",
  "|SOYOMBO CLUSTER-INITIAL LETTER |RA,LA,SHA,SA",
  "|SOYOMBO FINAL CONSONANT SIGN |G,K,NG,D,N,B,M,R,L,SH,S,-A",
  "|SOYOMBO |SIGN ANUSVARA,SIGN VISARGA,GEMINATION MARK,SUBJOINER,MARK TSHEG,MARK SHAD,MARK DOUBLE SHAD,MARK PLUTA",
  "|SOYOMBO HEAD MARK WITH MOON AND |SUN AND TRIPLE FLAME,SUN AND FLAME,SUN",
  "|SOYOMBO TERMINAL MARK-|1,2",
  "11AB0|CANADIAN SYLLABICS NATTILIK |HI,HII,HO,HOO,HA,HAA,SHRI,SHRII,SHRO,SHROO,SHRA,SHRAA",
  "|CANADIAN SYLLABICS |SPE,SPI,SPO,SPA",
  "|PAU CIN HAU LETTER |PA,KA,LA,MA,DA,ZA,VA,NGA,HA,GA,KHA,SA,BA,CA,TA,THA,NA,PHA,RA,FA,CHA,A,E,I,O,U,UA,IA",
  "|PAU CIN HAU LETTER FINAL |P,K,T,M,N,L,W,NG,Y",
  "|PAU CIN HAU |RISING TONE LONG,RISING TONE,SANDHI GLOTTAL STOP,RISING TONE LONG FINAL,RISING TONE FINAL",
  "|PAU CIN HAU SANDHI |GLOTTAL STOP FINAL,TONE LONG,TONE,TONE LONG FINAL,TONE FINAL",
  "|PAU CIN HAU |MID-LEVEL TONE,GLOTTAL STOP VARIANT,MID-LEVEL TONE LONG FINAL,MID-LEVEL TONE FINAL",
  "|PAU CIN HAU LOW-FALLING |TONE LONG,TONE",
  "|PAU CIN HAU |GLOTTAL STOP,LOW-FALLING TONE LONG FINAL,LOW-FALLING TONE FINAL,GLOTTAL STOP FINAL",
  "11C00|BHAIKSUKI LETTER |A,AA,I,II,U,UU,VOCALIC R,VOCALIC RR,VOCALIC L,,E,AI,O,AU,KA,KHA,GA,GHA,NGA,CA",
  "|BHAIKSUKI LETTER |CHA,JA,JHA,NYA,TTA,TTHA,DDA,DDHA,NNA,TA,THA,DA,DHA,NA,PA,PHA,BA,BHA,MA,YA,RA,LA,VA,SHA,SSA,SA,HA",
  "|BHAIKSUKI VOWEL SIGN |AA,I,II,U,UU,VOCALIC R,VOCALIC RR,VOCALIC L,,E,AI,O,AU",
  "|BHAIKSUKI SIGN |CANDRABINDU,ANUSVARA,VISARGA,VIRAMA,AVAGRAHA",
  "|BHAIKSUKI |DANDA,DOUBLE DANDA,WORD SEPARATOR,GAP FILLER-1,GAP FILLER-2",
  "11C50|BHAIKSUKI DIGIT |ZERO,ONE,TWO,THREE,FOUR,FIVE,SIX,SEVEN,EIGHT,NINE",
  "|BHAIKSUKI NUMBER |ONE,TWO,THREE,FOUR,FIVE,SIX,SEVEN,EIGHT,NINE,TEN,TWENTY,THIRTY,FORTY,FIFTY,SIXTY,SEVENTY,EIGHTY",
  "|BHAIKSUKI |NUMBER NINETY,HUNDREDS UNIT MARK",
  "11C70|MARCHEN |HEAD MARK,MARK SHAD,LETTER KA",
  "|MARCHEN LETTER |KHA,GA,NGA,CA,CHA,JA,NYA,TA,THA,DA,NA,PA,PHA,BA,MA,TSA,TSHA,DZA,WA,ZHA,ZA,-A,YA,RA,LA,SHA,SA,HA,A",
  "11C92|MARCHEN SUBJOINED LETTER |KA,KHA,GA",
  "|MARCHEN SUBJOINED LETTER |NGA,CA,CHA,JA,NYA,TA,THA,DA,NA,PA,PHA,BA,MA,TSA,TSHA,DZA,WA,ZHA,ZA,,YA,RA,LA,SHA,SA,HA,A",
  "|MARCHEN VOWEL SIGN |AA,I,U,E,O",
  "|MARCHEN SIGN |ANUSVARA,CANDRABINDU",
  "11D00|MASARAM GONDI LETTER |A,AA,I,II,U,UU,E,,AI,O,,AU,KA,KHA,GA,GHA,NGA,CA,CHA,JA,JHA,NYA,TTA,TTHA",
  "|MASARAM GONDI LETTER |DDA,DDHA,NNA,TA,THA,DA,DHA,NA,PA,PHA,BA,BHA,MA,YA,RA,LA,VA,SHA,SSA,SA,HA,LLA,KSSA,JNYA,TRA",
  "|MASARAM GONDI VOWEL SIGN |AA,I,II,U,UU,VOCALIC R,,,,E,,AI,O,,AU",
  "|MASARAM GONDI |SIGN ANUSVARA,SIGN VISARGA,SIGN NUKTA,SIGN CANDRA,SIGN HALANTA,VIRAMA,REPHA,RA-KARA",
  "11D50|MASARAM GONDI DIGIT |ZERO,ONE,TWO,THREE,FOUR,FIVE,SIX,SEVEN,EIGHT,NINE",
  "11D60|GUNJALA GONDI LETTER |A,AA,I,II,U,UU,,EE,AI,,OO,AU,YA,VA,BA,BHA",
  "|GUNJALA GONDI LETTER |MA,KA,KHA,TA,THA,LA,GA,GHA,DA,DHA,NA,CA,CHA,TTA,TTHA,LLA,JA,JHA,DDA,DDHA,NGA,PA,PHA,HA,RA,SA",
  "|GUNJALA GONDI VOWEL SIGN |AA,I,II,U,UU,,EE,AI,,OO,AU",
  "|GUNJALA GONDI |SIGN ANUSVARA,SIGN VISARGA,VIRAMA,OM",
  "11DA0|GUNJALA GONDI DIGIT |ZERO,ONE,TWO,THREE,FOUR,FIVE,SIX,SEVEN,EIGHT,NINE",
  "11EE0|MAKASAR LETTER |KA,GA,NGA,PA,BA,MA,TA,DA,NA,CA,JA,NYA,YA,RA,LA,VA,SA,A",
  "||MAKASAR ANGKA",
  "|MAKASAR VOWEL SIGN |I,U,E,O",
  "|MAKASAR |PASSIMBANG,END OF SECTION",
  "11FB0||LISU LETTER YHA",
  "11FC0|TAMIL FRACTION ONE |THREE-HUNDRED-AND-TWENTIETH,ONE-HUNDRED-AND-SIXTIETH,EIGHTIETH,SIXTY-FOURTH,FORTIETH",
  "|TAMIL FRACTION |ONE THIRTY-SECOND,THREE EIGHTIETHS,THREE SIXTY-FOURTHS,ONE TWENTIETH",
  "|TAMIL FRACTION |ONE SIXTEENTH-1,ONE SIXTEENTH-2,ONE TENTH,ONE EIGHTH,THREE TWENTIETHS,THREE SIXTEENTHS",
  "|TAMIL FRACTION |ONE FIFTH,ONE QUARTER,ONE HALF-1,ONE HALF-2,THREE QUARTERS,DOWNSCALING FACTOR KIIZH",
  "|TAMIL SIGN |NEL,CEVITU,AAZHAAKKU,UZHAKKU,MUUVUZHAKKU,KURUNI,PATHAKKU,MUKKURUNI,KAACU,PANAM,PON,VARAAKAN,PAARAM",
  "|TAMIL |SIGN KUZHI,SIGN VELI,WET CULTIVATION SIGN,DRY CULTIVATION SIGN,LAND SIGN,SALT PAN SIGN",
  "|TAMIL TRADITIONAL |CREDIT SIGN,NUMBER SIGN",
  "|TAMIL |CURRENT SIGN,AND ODD SIGN,SPENT SIGN,TOTAL SIGN,IN POSSESSION SIGN,STARTING FROM SIGN",
  "|TAMIL SIGN |MUTHALIYA,VAKAIYARAA",
  "11FFF||TAMIL PUNCTUATION END OF TEXT,CUNEIFORM SIGN A",
  "|CUNEIFORM SIGN A TIMES |A,BAD,GAN2 TENU,HA,IGI,LAGAR GUNU,MUSH,SAG",
  "|CUNEIFORM SIGN |A2,AB",
  "|CUNEIFORM SIGN AB TIMES |ASH2,DUN3 GUNU,GAL,GAN2 TENU,HA,IGI GUNU,IMIN,LAGAB,SHESH,U PLUS U PLUS U",
  "|CUNEIFORM SIGN |AB GUNU,AB2",
  "|CUNEIFORM SIGN AB2 TIMES |BALAG,GAN2 TENU,ME PLUS EN,SHA3,TAK4",
  "|CUNEIFORM SIGN |AD,AK,AK TIMES ERIN2,AK TIMES SHITA PLUS GISH,AL",
  "|CUNEIFORM SIGN AL TIMES |AL,DIM2,GISH,HA,KAD3,KI,SHE,USH",
  "|CUNEIFORM SIGN |ALAN,ALEPH,AMAR,AMAR TIMES SHE,AN,AN OVER AN,AN THREE TIMES,AN PLUS NAGA OPPOSING AN PLUS NAGA",
  "|CUNEIFORM SIGN |AN PLUS NAGA SQUARED,ANSHE,APIN,ARAD,ARAD TIMES KUR,ARKAB,ASAL2,ASH,ASH ZIDA TENU,ASH KABA TENU",
  "|CUNEIFORM SIGN ASH OVER ASH |TUG2 OVER TUG2 TUG2 OVER TUG2 PAP,OVER ASH,OVER ASH CROSSING ASH OVER ASH OVER ASH",
  "|CUNEIFORM SIGN |ASH2,ASHGAB,BA,BAD,BAG3,BAHAR2,BAL,BAL OVER BAL,BALAG,BAR,BARA2,BI",
  "|CUNEIFORM SIGN BI TIMES |A,GAR,IGI GUNU",
  "|CUNEIFORM SIGN |BU,BU OVER BU AB,BU OVER BU UN,BU CROSSING BU,BULUG,BULUG OVER BULUG,BUR,BUR2,DA,DAG",
  "|CUNEIFORM SIGN DAG KISIM5 TIMES |A PLUS MASH,AMAR,BALAG,BI,GA,GA PLUS MASH,GI,GIR2,GUD,HA,IR",
  "|CUNEIFORM SIGN DAG KISIM5 TIMES |IR PLUS LU,KAK,LA,LU,LU PLUS MASH2,LUM,NE,PAP PLUS PAP,SI,TAK4,U2 PLUS GIR2,USH",
  "|CUNEIFORM SIGN |DAM,DAR,DARA3,DARA4,DI,DIB,DIM,DIM TIMES SHE",
  "|CUNEIFORM SIGN |DIM2,DIN,DIN KASKAL U GUNU DISH,DISH,DU,DU OVER DU,DU GUNU,DU SHESHIG,DUB,DUB TIMES ESH2,DUB2",
  "|CUNEIFORM SIGN |DUG,DUGUD,DUH,DUN,DUN3,DUN3 GUNU,DUN3 GUNU GUNU,DUN4,DUR2,E,E TIMES PAP,E OVER E NUN OVER NUN,E2",
  "|CUNEIFORM SIGN E2 TIMES |A PLUS HA PLUS DA,GAR,MI,SAL,SHE,U",
  "|CUNEIFORM SIGN |EDIN,EGIR,EL,EN,EN TIMES GAN2",
  "|CUNEIFORM SIGN |EN TIMES GAN2 TENU,EN TIMES ME,EN CROSSING EN,EN OPPOSING EN,EN SQUARED,EREN,ERIN2,ESH2,EZEN",
  "|CUNEIFORM SIGN EZEN TIMES |A,A PLUS LAL,A PLUS LAL TIMES LAL,AN,BAD,DUN3 GUNU,DUN3 GUNU GUNU",
  "|CUNEIFORM SIGN EZEN TIMES |HA,HA GUNU,IGI GUNU,KASKAL,KASKAL SQUARED,KU3,LA,LAL TIMES LAL,LI,LU,U2,UD",
  "|CUNEIFORM SIGN |GA,GA GUNU,GA2",
  "|CUNEIFORM SIGN GA2 TIMES |A PLUS DA PLUS HA,A PLUS HA,A PLUS IGI,AB2 TENU PLUS TAB,AN,ASH,ASH2 PLUS GAL,BAD",
  "|CUNEIFORM SIGN GA2 TIMES |BAR PLUS RA,BUR,BUR PLUS RA,DA,DI,DIM TIMES SHE,DUB,EL,EL PLUS LA,EN,EN TIMES GAN2 TENU",
  "|CUNEIFORM SIGN GA2 TIMES |GAN2 TENU,GAR,GI,GI4,GI4 PLUS A,GIR2 PLUS SU,HA PLUS LU PLUS ESH2,HAL,HAL PLUS LA",
  "|CUNEIFORM SIGN GA2 TIMES |HI PLUS LI,HUB2,IGI GUNU,ISH PLUS HU PLUS ASH,KAK,KASKAL,KID,KID PLUS LAL,KU3 PLUS AN,LA",
  "|CUNEIFORM SIGN GA2 TIMES |ME PLUS EN,MI,NUN,NUN OVER NUN,PA,SAL,SAR,SHE,SHE PLUS TUR,SHID,SUM,TAK4,U,UD,UD PLUS DU",
  "||CUNEIFORM SIGN GA2 OVER GA2",
  "|CUNEIFORM SIGN |GABA,GABA CROSSING GABA,GAD,GAD OVER GAD GAR OVER GAR,GAL,GAL GAD OVER GAD GAR OVER GAR,GALAM,GAM",
  "|CUNEIFORM SIGN |GAN,GAN2,GAN2 TENU,GAN2 OVER GAN2,GAN2 CROSSING GAN2,GAR,GAR3,GASHAN,GESHTIN,GESHTIN TIMES KUR,GI",
  "|CUNEIFORM SIGN |GI TIMES E,GI TIMES U,GI CROSSING GI,GI4,GI4 OVER GI4,GI4 CROSSING GI4,GIDIM,GIR2,GIR2 GUNU,GIR3",
  "|CUNEIFORM SIGN GIR3 TIMES |A PLUS IGI,GAN2 TENU,IGI,LU PLUS IGI,PA",
  "|CUNEIFORM SIGN |GISAL,GISH,GISH CROSSING GISH,GISH TIMES BAD,GISH TIMES TAK4,GISH TENU,GU,GU CROSSING GU,GU2",
  "|CUNEIFORM SIGN GU2 TIMES |KAK,KAK TIMES IGI GUNU,NUN,SAL PLUS TUG2",
  "|CUNEIFORM SIGN |GU2 GUNU,GUD,GUD TIMES A PLUS KUR,GUD TIMES KUR",
  "|CUNEIFORM SIGN |GUD OVER GUD LUGAL,GUL,GUM,GUM TIMES SHE,GUR,GUR7,GURUN,GURUSH,HA,HA TENU,HA GUNU,HAL,HI",
  "|CUNEIFORM SIGN HI TIMES |ASH,ASH2,BAD,DISH,GAD,KIN,NUN,SHE,U",
  "|CUNEIFORM SIGN |HU,HUB2",
  "|CUNEIFORM SIGN HUB2 TIMES |AN,HAL,KASKAL,LISH,UD",
  "|CUNEIFORM SIGN |HUL2,I,I A,IB,IDIM,IDIM OVER IDIM BUR",
  "|CUNEIFORM SIGN |IDIM OVER IDIM SQUARED,IG,IGI,IGI DIB,IGI RI,IGI OVER IGI SHIR OVER SHIR UD OVER UD,IGI GUNU,IL",
  "|CUNEIFORM SIGN |IL TIMES GAN2 TENU,IL2,IM,IM TIMES TAK4,IM CROSSING IM,IM OPPOSING IM,IM SQUARED,IMIN,IN,IR,ISH,KA",
  "|CUNEIFORM SIGN KA TIMES |A,AD,AD PLUS KU3,ASH2,BAD,BALAG,BAR,BI,ERIN2",
  "|CUNEIFORM SIGN KA TIMES |ESH2,GA,GAL,GAN2 TENU,GAR,GAR PLUS SHA3 PLUS A,GI,GIR2,GISH PLUS SAR,GISH CROSSING GISH",
  "|CUNEIFORM SIGN KA TIMES |GU,GUR7,IGI,IM,KAK,KI,KID,LI,LU,ME,ME PLUS DU,ME PLUS GI,ME PLUS TE,MI,MI PLUS NUNUZ",
  "|CUNEIFORM SIGN KA TIMES |NE,NUN,PI,RU,SA,SAR,SHA,SHE,SHID,SHU,SIG,SUHUR,TAR,U,U2,UD,UMUM TIMES PA,USH,ZI",
  "|CUNEIFORM SIGN |KA2,KA2 CROSSING KA2,KAB,KAD2,KAD3,KAD4,KAD5,KAD5 OVER KAD5,KAK,KAK TIMES IGI GUNU",
  "|CUNEIFORM SIGN |KAL,KAL TIMES BAD,KAL CROSSING KAL,KAM2,KAM4,KASKAL,KASKAL LAGAB TIMES U OVER LAGAB TIMES U",
  "|CUNEIFORM SIGN |KASKAL OVER KASKAL LAGAB TIMES U OVER LAGAB TIMES U,KESH2,KI,KI TIMES BAD,KI TIMES U,KI TIMES UD",
  "|CUNEIFORM SIGN |KID,KIN,KISAL,KISH,KISIM5,KISIM5 OVER KISIM5,KU,KU OVER HI TIMES ASH2 KU OVER HI TIMES ASH2",
  "|CUNEIFORM SIGN |KU3,KU4,KU4 VARIANT FORM,KU7,KUL,KUL GUNU,KUN,KUR,KUR OPPOSING KUR,KUSHU2,KWU318,LA,LAGAB",
  "|CUNEIFORM SIGN LAGAB TIMES |A,A PLUS DA PLUS HA,A PLUS GAR,A PLUS LAL,AL,AN,ASH ZIDA TENU",
  "|CUNEIFORM SIGN LAGAB TIMES |BAD,BI,DAR,EN,GA,GAR,GUD,GUD PLUS GUD,HA,HAL,HI TIMES NUN,IGI GUNU,IM,IM PLUS HA",
  "|CUNEIFORM SIGN LAGAB TIMES |IM PLUS LU,KI,KIN,KU3,KUL,KUL PLUS HI PLUS A,LAGAB,LISH,LU,LUL,ME,ME PLUS EN,MUSH",
  "|CUNEIFORM SIGN LAGAB TIMES |NE,SHE PLUS SUM,SHITA PLUS GISH PLUS ERIN2,SHITA PLUS GISH TENU,SHU2,SHU2 PLUS SHU2",
  "|CUNEIFORM SIGN LAGAB TIMES |SUM,TAG,TAK4,TE PLUS A PLUS SU PLUS NA,U,U PLUS A,U PLUS U PLUS U,U2 PLUS ASH,UD,USH",
  "||CUNEIFORM SIGN LAGAB SQUARED",
  "|CUNEIFORM SIGN |LAGAR,LAGAR TIMES SHE,LAGAR TIMES SHE PLUS SUM,LAGAR GUNU,LAGAR GUNU OVER LAGAR GUNU SHE,LAHSHU",
  "|CUNEIFORM SIGN |LAL,LAL TIMES LAL,LAM,LAM TIMES KUR,LAM TIMES KUR PLUS RU,LI,LIL,LIMMU2,LISH,LU,LU TIMES BAD,LU2",
  "|CUNEIFORM SIGN LU2 TIMES |AL,BAD,ESH2,ESH2 TENU,GAN2 TENU,HI TIMES BAD,IM,KAD2",
  "|CUNEIFORM SIGN LU2 TIMES |KAD3,KAD3 PLUS ASH,KI,LA PLUS ASH,LAGAB,ME PLUS EN,NE,NU,SI PLUS ASH,SIK2 PLUS BU,TUG2",
  "|CUNEIFORM SIGN LU2 |TENU,CROSSING LU2,OPPOSING LU2,SQUARED,SHESHIG",
  "|CUNEIFORM SIGN |LU3,LUGAL,LUGAL OVER LUGAL,LUGAL OPPOSING LUGAL",
  "|CUNEIFORM SIGN |LUGAL SHESHIG,LUH,LUL,LUM,LUM OVER LUM,LUM OVER LUM GAR OVER GAR,MA,MA TIMES TAK4",
  "|CUNEIFORM SIGN |MA GUNU,MA2,MAH,MAR,MASH,MASH2,ME,MES,MI,MIN,MU,MU OVER MU,MUG,MUG GUNU,MUNSUB,MURGU2,MUSH",
  "|CUNEIFORM SIGN MUSH |TIMES A,TIMES KUR,TIMES ZA,OVER MUSH,OVER MUSH TIMES A PLUS NA,CROSSING MUSH",
  "|CUNEIFORM SIGN |MUSH3,MUSH3 TIMES A,MUSH3 TIMES A PLUS DI,MUSH3 TIMES DI,MUSH3 GUNU,NA,NA2,NAGA,NAGA INVERTED",
  "|CUNEIFORM SIGN |NAGA TIMES SHU TENU,NAGA OPPOSING NAGA,NAGAR,NAM NUTILLU,NAM,NAM2,NE,NE TIMES A,NE TIMES UD",
  "|CUNEIFORM SIGN |NE SHESHIG,NI,NI TIMES E,NI2,NIM,NIM TIMES GAN2 TENU,NIM TIMES GAR PLUS GAN2 TENU,NINDA2",
  "|CUNEIFORM SIGN NINDA2 TIMES |AN,ASH,ASH PLUS ASH,GUD,ME PLUS GAN2 TENU",
  "|CUNEIFORM SIGN NINDA2 TIMES |NE,NUN,SHE,SHE PLUS A AN,SHE PLUS ASH,SHE PLUS ASH PLUS ASH,U2 PLUS ASH,USH",
  "|CUNEIFORM SIGN |NISAG,NU,NU11,NUN",
  "|CUNEIFORM SIGN NUN LAGAR TIMES |GAR,MASH,SAL,SAL OVER NUN LAGAR TIMES SAL,USH",
  "|CUNEIFORM SIGN |NUN TENU,NUN OVER NUN,NUN CROSSING NUN,NUN CROSSING NUN LAGAR OVER LAGAR,NUNUZ",
  "|CUNEIFORM SIGN NUNUZ AB2 TIMES |ASHGAB,BI,DUG,GUD,IGI GUNU,KAD3,LA,NE,SILA3,U2",
  "|CUNEIFORM SIGN |NUNUZ KISIM5 TIMES BI,NUNUZ KISIM5 TIMES BI U,PA,PAD,PAN,PAP,PESH2,PI",
  "|CUNEIFORM SIGN PI TIMES |A,AB,BI,BU,E,I,IB,U,U2",
  "|CUNEIFORM SIGN |PI CROSSING PI,PIRIG",
  "|CUNEIFORM SIGN PIRIG TIMES |KAL,UD,ZA",
  "|CUNEIFORM SIGN |PIRIG OPPOSING PIRIG,RA,RAB,RI,RU,SA,SAG NUTILLU,SAG",
  "|CUNEIFORM SIGN SAG TIMES |A,DU,DUB,HA,KAK,KUR,LUM,MI,NUN,SAL,SHID,TAB,U2,UB,UM,UR,USH",
  "|CUNEIFORM SIGN |SAG OVER SAG,SAG GUNU,SAL,SAL LAGAB TIMES ASH2,SANGA2,SAR,SHA,SHA3",
  "|CUNEIFORM SIGN SHA3 TIMES |A,BAD,GISH,NE,SHU2,TUR,U,U PLUS A",
  "|CUNEIFORM SIGN |SHA6,SHAB6,SHAR2,SHE,SHE HU",
  "|CUNEIFORM SIGN SHE OVER SHE |GAD OVER GAD GAR OVER GAR,TAB OVER TAB GAR OVER GAR",
  "|CUNEIFORM SIGN |SHEG9,SHEN,SHESH,SHESH2,SHESHLAM,SHID,SHID TIMES A,SHID TIMES IM,SHIM",
  "|CUNEIFORM SIGN SHIM TIMES |A,BAL,BULUG,DIN,GAR,IGI,IGI GUNU,KUSHU2,LUL,MUG,SAL",
  "|CUNEIFORM SIGN |SHINIG,SHIR,SHIR TENU",
  "|CUNEIFORM SIGN |SHIR OVER SHIR BUR OVER BUR,SHITA,SHU,SHU OVER INVERTED SHU,SHU2,SHUBUR,SI,SI GUNU,SIG,SIG4",
  "|CUNEIFORM SIGN |SIG4 OVER SIG4 SHU2,SIK2,SILA3,SU,SU OVER SU,SUD,SUD2,SUHUR,SUM,SUMASH,SUR,SUR9,TA,TA ASTERISK",
  "|CUNEIFORM SIGN |TA TIMES HI,TA TIMES MI,TA GUNU,TAB,TAB OVER TAB NI OVER NI DISH OVER DISH,TAB SQUARED,TAG",
  "|CUNEIFORM SIGN TAG TIMES |BI,GUD,SHE,SHU,TUG2,UD",
  "|CUNEIFORM SIGN |TAK4,TAR,TE,TE GUNU,TI,TI TENU,TIL,TIR,TIR TIMES TAK4,TIR OVER TIR",
  "|CUNEIFORM SIGN |TIR OVER TIR GAD OVER GAD GAR OVER GAR,TU,TUG2,TUK,TUM,TUR,TUR OVER TUR ZA OVER ZA,U,U GUD,U U U",
  "|CUNEIFORM SIGN U OVER U |PA OVER PA GAR OVER GAR,SUR OVER SUR,U REVERSED OVER U REVERSED",
  "|CUNEIFORM SIGN |U2,UB,UD,UD KUSHU2",
  "|CUNEIFORM SIGN UD TIMES |BAD,MI,U PLUS U PLUS U,U PLUS U PLUS U GUNU",
  "|CUNEIFORM SIGN |UD GUNU,UD SHESHIG,UD SHESHIG TIMES BAD,UDUG,UM",
  "|CUNEIFORM SIGN UM TIMES |LAGAB,ME PLUS DA,SHA3,U",
  "|CUNEIFORM SIGN |UMBIN,UMUM,UMUM TIMES KASKAL,UMUM TIMES PA,UN,UN GUNU,UR,UR CROSSING UR,UR SHESHIG,UR2",
  "|CUNEIFORM SIGN UR2 TIMES |A PLUS HA,A PLUS NA,AL,HA,NUN,U2,U2 PLUS ASH,U2 PLUS BI",
  "|CUNEIFORM SIGN |UR4,URI,URI3,URU",
  "|CUNEIFORM SIGN URU TIMES |A,ASHGAB,BAR,DUN,GA,GAL,GAN2 TENU,GAR,GU,HA,IGI,IM,ISH,KI,LUM,MIN,PA,SHE,SIG4,TU",
  "|CUNEIFORM SIGN |URU TIMES U PLUS GUD,URU TIMES UD,URU TIMES URUDA,URUDA,URUDA TIMES U,USH",
  "|CUNEIFORM SIGN USH TIMES |A,KU,KUR,TAK4",
  "|CUNEIFORM SIGN |USHX,USH2,USHUMX,UTUKI,UZ3,UZ3 TIMES KASKAL,UZU,ZA,ZA TENU,ZA SQUARED TIMES KUR,ZAG,ZAMX,ZE2",
  "|CUNEIFORM SIGN |ZI,ZI OVER ZI,ZI3,ZIB,ZIB KABA TENU,ZIG,ZIZ2,ZU,ZU5,ZU5 TIMES A,ZUBUR,ZUM,KAP ELAMITE,AB TIMES NUN",
  "|CUNEIFORM SIGN |AB2 TIMES A,AMAR TIMES KUG,DAG KISIM5 TIMES U2 PLUS MASH,DAG3,DISH PLUS SHU,DUB TIMES SHE",
  "|CUNEIFORM SIGN |EZEN TIMES GUD,EZEN TIMES SHE,GA2 TIMES AN PLUS KAK PLUS A,GA2 TIMES ASH2,GE22,GIG,HUSH",
  "|CUNEIFORM SIGN KA TIMES |ANSHE,ASH3,GISH,GUD,HI TIMES ASH2,LUM,PA,SHUL,TU,UR2",
  "|CUNEIFORM SIGN |LAGAB TIMES GI,LU2 SHESHIG TIMES BAD,LU2 TIMES ESH2 PLUS LAL",
  "|CUNEIFORM SIGN |LU2 TIMES SHU,MESH,MUSH3 TIMES ZA,NA4,NIN,NIN9,NINDA2 TIMES BAL,NINDA2 TIMES GI",
  "|CUNEIFORM SIGN |NU11 ROTATED NINETY DEGREES,PESH2 ASTERISK,PIR2,SAG TIMES IGI GUNU,TI2,UM TIMES ME,U U",
  "12400|CUNEIFORM NUMERIC SIGN |TWO ASH,THREE ASH,FOUR ASH,FIVE ASH,SIX ASH,SEVEN ASH,EIGHT ASH,NINE ASH,THREE DISH",
  "|CUNEIFORM NUMERIC SIGN |FOUR DISH,FIVE DISH,SIX DISH,SEVEN DISH,EIGHT DISH,NINE DISH,FOUR U,FIVE U,SIX U",
  "|CUNEIFORM NUMERIC SIGN |SEVEN U,EIGHT U,NINE U,ONE GESH2,TWO GESH2,THREE GESH2,FOUR GESH2,FIVE GESH2,SIX GESH2",
  "|CUNEIFORM NUMERIC SIGN |SEVEN GESH2,EIGHT GESH2,NINE GESH2,ONE GESHU,TWO GESHU,THREE GESHU,FOUR GESHU,FIVE GESHU",
  "|CUNEIFORM NUMERIC SIGN |TWO SHAR2,THREE SHAR2,THREE SHAR2 VARIANT FORM,FOUR SHAR2,FIVE SHAR2,SIX SHAR2,SEVEN SHAR2",
  "|CUNEIFORM NUMERIC SIGN |EIGHT SHAR2,NINE SHAR2,ONE SHARU,TWO SHARU,THREE SHARU,THREE SHARU VARIANT FORM",
  "|CUNEIFORM NUMERIC SIGN |FOUR SHARU,FIVE SHARU,SHAR2 TIMES GAL PLUS DISH,SHAR2 TIMES GAL PLUS MIN",
  "|CUNEIFORM NUMERIC SIGN |ONE BURU,TWO BURU,THREE BURU,THREE BURU VARIANT FORM,FOUR BURU,FIVE BURU",
  "|CUNEIFORM NUMERIC SIGN THREE VARIANT FORM |ESH16,ESH21",
  "|CUNEIFORM NUMERIC SIGN FOUR VARIANT FORM |LIMMU,LIMMU4,LIMMU A,LIMMU B",
  "||CUNEIFORM NUMERIC SIGN SIX VARIANT FORM ASH9",
  "|CUNEIFORM NUMERIC SIGN SEVEN VARIANT FORM |IMIN3,IMIN A,IMIN B",
  "|CUNEIFORM NUMERIC SIGN EIGHT VARIANT FORM |USSU,USSU3",
  "|CUNEIFORM NUMERIC SIGN NINE VARIANT FORM |ILIMMU,ILIMMU3,ILIMMU4,ILIMMU A",
  "|CUNEIFORM NUMERIC SIGN |TWO ASH TENU,THREE ASH TENU,FOUR ASH TENU,FIVE ASH TENU,SIX ASH TENU,ONE BAN2",
  "|CUNEIFORM NUMERIC SIGN |TWO BAN2,THREE BAN2,FOUR BAN2,FOUR BAN2 VARIANT FORM,FIVE BAN2,FIVE BAN2 VARIANT FORM",
  "|CUNEIFORM NUMERIC SIGN |NIGIDAMIN,NIGIDAESH,ONE ESHE3,TWO ESHE3,ONE THIRD DISH,TWO THIRDS DISH,FIVE SIXTHS DISH",
  "|CUNEIFORM NUMERIC SIGN |ONE THIRD VARIANT FORM A,TWO THIRDS VARIANT FORM A,ONE EIGHTH ASH,ONE QUARTER ASH",
  "|CUNEIFORM NUMERIC SIGN |OLD ASSYRIAN ONE SIXTH,OLD ASSYRIAN ONE QUARTER,ONE QUARTER GUR,ONE HALF GUR",
  "|CUNEIFORM NUMERIC SIGN ELAMITE |ONE THIRD,TWO THIRDS,FORTY,FIFTY",
  "|CUNEIFORM NUMERIC SIGN |FOUR U VARIANT FORM,FIVE U VARIANT FORM",
  "|CUNEIFORM NUMERIC SIGN |SIX U VARIANT FORM,SEVEN U VARIANT FORM,EIGHT U VARIANT FORM,NINE U VARIANT FORM",
  "12470|CUNEIFORM PUNCTUATION SIGN |OLD ASSYRIAN WORD DIVIDER,VERTICAL COLON",
  "|CUNEIFORM PUNCTUATION SIGN DIAGONAL |COLON,TRICOLON,QUADCOLON",
  "12480|CUNEIFORM SIGN |AB TIMES NUN TENU,AB TIMES SHU2,AD TIMES ESH2,BAD TIMES DISH TENU",
  "|CUNEIFORM SIGN BAHAR2 TIMES |AB2,NI,ZA",
  "|CUNEIFORM SIGN |BU OVER BU TIMES NA2,DA TIMES TAK4,DAG TIMES KUR,DIM TIMES IGI,DIM TIMES U U U,DIM2 TIMES UD",
  "|CUNEIFORM SIGN DUG TIMES |ANSHE,ASH,ASH AT LEFT,DIN,DUN,ERIN2,GA,GI,GIR2 GUNU,GISH,HA,HI,IGI GUNU,KASKAL,KUR",
  "|CUNEIFORM SIGN DUG TIMES |KUSHU2,KUSHU2 PLUS KASKAL,LAK-020,LAM,LAM TIMES KUR,LUH PLUS GISH,MASH,MES,MI,NI,PI,SHE",
  "|CUNEIFORM SIGN |DUG TIMES SI GUNU,E2 TIMES KUR,E2 TIMES PAP,ERIN2 X,ESH2 CROSSING ESH2",
  "|CUNEIFORM SIGN EZEN SHESHIG TIMES |ASH,HI,IGI GUNU,LA,LAL,ME,MES,SU",
  "||CUNEIFORM SIGN EZEN TIMES SU",
  "|CUNEIFORM SIGN GA2 TIMES |BAHAR2,DIM GUNU,DUG TIMES IGI GUNU,DUG TIMES KASKAL,EREN,GA,GAR PLUS DI,GAR PLUS NE",
  "|CUNEIFORM SIGN GA2 TIMES |HA PLUS A,KUSHU2 PLUS KASKAL,LAM,LAM TIMES KUR,LUH,MUSH,NE,NE PLUS E2,NE PLUS GI,SHIM",
  "|CUNEIFORM SIGN |GA2 TIMES ZIZ2,GABA ROTATED NINETY DEGREES,GESHTIN TIMES U,GISH TIMES GISH CROSSING GISH",
  "|CUNEIFORM SIGN |GU2 TIMES IGI GUNU,GUD PLUS GISH TIMES TAK4,HA TENU GUNU,HI TIMES ASH OVER HI TIMES ASH",
  "|CUNEIFORM SIGN KA TIMES |BU,KA,U U U,UR",
  "||CUNEIFORM SIGN LAGAB TIMES ZU OVER ZU",
  "|CUNEIFORM SIGN LAK-|003,021,025,030,050,051,062,079 OVER LAK-079 GUNU,080",
  "|CUNEIFORM SIGN LAK-|081 OVER LAK-081,092,130,142,210,219,220,225,228,238,265,266,343,347,348,383,384,390,441,449",
  "|CUNEIFORM SIGN LAK-449 TIMES |GU,IGI,PAP PLUS LU3,PAP PLUS PAP PLUS LU3,U2 PLUS BA",
  "|CUNEIFORM SIGN LAK-|450,457,470,483,490,492,493,495,550,608,617",
  "|CUNEIFORM SIGN LAK-617 TIMES |ASH,BAD,DUN3 GUNU GUNU,KU3,LA,TAR,TE,U2,UD,URUDA",
  "|CUNEIFORM SIGN LAK-|636,648",
  "|CUNEIFORM SIGN LAK-648 TIMES |DUB,GA,IGI,IGI GUNU,NI,PAP PLUS PAP PLUS LU3,SHESH PLUS KI,UD,URUDA",
  "|CUNEIFORM SIGN |LAK-724,LAK-749,LU2 GUNU TIMES ASH",
  "|CUNEIFORM SIGN LU2 TIMES |DISH,HAL,PAP,PAP PLUS PAP PLUS LU3,TAK4",
  "|CUNEIFORM SIGN |MI PLUS ZA7,MUSH OVER MUSH TIMES GA,MUSH OVER MUSH TIMES KAK",
  "|CUNEIFORM SIGN NINDA2 TIMES |DIM GUNU,GISH,GUL,HI,KESH2,LAK-050,MASH,PAP PLUS PAP,U,U PLUS U,URUDA",
  "|CUNEIFORM SIGN |SAG GUNU TIMES HA,SAG TIMES EN,SAG TIMES SHE AT LEFT,SAG TIMES TAK4,SHA6 TENU,SHE OVER SHE",
  "|CUNEIFORM SIGN SHE PLUS |HUB2,NAM2,SAR",
  "|CUNEIFORM SIGN SHU2 PLUS |DUG TIMES NI,E2 TIMES AN",
  "|CUNEIFORM SIGN |SI TIMES TAK4,TAK4 PLUS SAG,TUM TIMES GAN2 TENU,TUM TIMES THREE DISH,UR2 INVERTED,UR2 TIMES UD",
  "|CUNEIFORM SIGN |URU TIMES DARA3,URU TIMES LAK-668,URU TIMES LU3,ZA7,ZU OVER ZU PLUS SAR,ZU5 TIMES THREE DISH TENU",
  "12F90|CYPRO-MINOAN SIGN |CM001,CM002,CM004,CM005,CM006",
  "|CYPRO-MINOAN SIGN |CM007,CM008,CM009,CM010,CM011,CM012,CM012B,CM013,CM015,CM017,CM019,CM021,CM023,CM024,CM025",
  "|CYPRO-MINOAN SIGN |CM026,CM027,CM028,CM029,CM030,CM033,CM034,CM035,CM036,CM037,CM038,CM039,CM040,CM041,CM044,CM046",
  "|CYPRO-MINOAN SIGN |CM047,CM049,CM050,CM051,CM052,CM053,CM054,CM055,CM056,CM058,CM059,CM060,CM061,CM062,CM063,CM064",
  "|CYPRO-MINOAN SIGN |CM066,CM067,CM068,CM069,CM070,CM071,CM072,CM073,CM074,CM075,CM075B,CM076,CM078,CM079,CM080",
  "|CYPRO-MINOAN SIGN |CM081,CM082,CM083,CM084,CM085,CM086,CM087,CM088,CM089,CM090,CM091,CM092,CM094,CM095,CM096,CM097",
  "|CYPRO-MINOAN SIGN |CM098,CM099,CM100,CM101,CM102,CM103,CM104,CM105,CM107,CM108,CM109,CM110,CM112,CM114,CM301,CM302",
  "13000|EGYPTIAN HIEROGLYPH |A001,A002",
  "|EGYPTIAN HIEROGLYPH |A003,A004,A005,A005A,A006,A006A,A006B,A007,A008,A009,A010,A011,A012,A013,A014,A014A,A015,A016",
  "|EGYPTIAN HIEROGLYPH |A017,A017A,A018,A019,A020,A021,A022,A023,A024,A025,A026,A027,A028,A029,A030,A031,A032,A032A",
  "|EGYPTIAN HIEROGLYPH |A033,A034,A035,A036,A037,A038,A039,A040,A040A,A041,A042,A042A,A043,A043A,A044,A045,A045A",
  "|EGYPTIAN HIEROGLYPH |A046,A047,A048,A049,A050,A051,A052,A053,A054,A055,A056,A057,A058,A059,A060,A061,A062,A063",
  "|EGYPTIAN HIEROGLYPH |A064,A065,A066,A067,A068,A069,A070,B001,B002,B003,B004,B005,B005A,B006,B007,B008,B009,C001",
  "|EGYPTIAN HIEROGLYPH |C002,C002A,C002B,C002C,C003,C004,C005,C006,C007,C008,C009,C010,C010A,C011,C012,C013,C014,C015",
  "|EGYPTIAN HIEROGLYPH |C016,C017,C018,C019,C020,C021,C022,C023,C024,D001,D002,D003,D004,D005,D006,D007,D008,D008A",
  "|EGYPTIAN HIEROGLYPH |D009,D010,D011,D012,D013,D014,D015,D016,D017,D018,D019,D020,D021,D022,D023,D024,D025,D026",
  "|EGYPTIAN HIEROGLYPH |D027,D027A,D028,D029,D030,D031,D031A,D032,D033,D034,D034A,D035,D036,D037,D038,D039,D040,D041",
  "|EGYPTIAN HIEROGLYPH |D042,D043,D044,D045,D046,D046A,D047,D048,D048A,D049,D050,D050A,D050B,D050C,D050D,D050E,D050F",
  "|EGYPTIAN HIEROGLYPH |D050G,D050H,D050I,D051,D052,D052A,D053,D054,D054A,D055,D056,D057,D058,D059,D060,D061,D062",
  "|EGYPTIAN HIEROGLYPH |D063,D064,D065,D066,D067,D067A,D067B,D067C,D067D,D067E,D067F,D067G,D067H,E001,E002,E003,E004",
  "|EGYPTIAN HIEROGLYPH |E005,E006,E007,E008,E008A,E009,E009A,E010,E011,E012,E013,E014,E015,E016,E016A,E017,E017A,E018",
  "|EGYPTIAN HIEROGLYPH |E019,E020,E020A,E021,E022,E023,E024,E025,E026,E027,E028,E028A,E029,E030,E031,E032,E033,E034",
  "|EGYPTIAN HIEROGLYPH |E034A,E036,E037,E038,F001,F001A,F002,F003,F004,F005,F006,F007,F008,F009,F010,F011,F012,F013",
  "|EGYPTIAN HIEROGLYPH |F013A,F014,F015,F016,F017,F018,F019,F020,F021,F021A,F022,F023,F024,F025,F026,F027,F028,F029",
  "|EGYPTIAN HIEROGLYPH |F030,F031,F031A,F032,F033,F034,F035,F036,F037,F037A,F038,F038A,F039,F040,F041,F042,F043,F044",
  "|EGYPTIAN HIEROGLYPH |F045,F045A,F046,F046A,F047,F047A,F048,F049,F050,F051,F051A,F051B,F051C,F052,F053,G001,G002",
  "|EGYPTIAN HIEROGLYPH |G003,G004,G005,G006,G006A,G007,G007A,G007B,G008,G009,G010,G011,G011A,G012,G013,G014,G015,G016",
  "|EGYPTIAN HIEROGLYPH |G017,G018,G019,G020,G020A,G021,G022,G023,G024,G025,G026,G026A,G027,G028,G029,G030,G031,G032",
  "|EGYPTIAN HIEROGLYPH |G033,G034,G035,G036,G036A,G037,G037A,G038,G039,G040,G041,G042,G043,G043A,G044,G045,G045A,G046",
  "|EGYPTIAN HIEROGLYPH |G047,G048,G049,G050,G051,G052,G053,G054,H001,H002,H003,H004,H005,H006,H006A,H007,H008,I001",
  "|EGYPTIAN HIEROGLYPH |I002,I003,I004,I005,I005A,I006,I007,I008,I009,I009A,I010,I010A,I011,I011A,I012,I013,I014,I015",
  "|EGYPTIAN HIEROGLYPH |K001,K002,K003,K004,K005,K006,K007,K008,L001,L002,L002A,L003,L004,L005,L006,L006A,L007,L008",
  "|EGYPTIAN HIEROGLYPH |M001,M001A,M001B,M002,M003,M003A,M004,M005,M006,M007,M008,M009,M010,M010A,M011,M012,M012A",
  "|EGYPTIAN HIEROGLYPH |M012B,M012C,M012D,M012E,M012F,M012G,M012H,M013,M014,M015,M015A,M016,M016A,M017,M017A,M018",
  "|EGYPTIAN HIEROGLYPH |M019,M020,M021,M022,M022A,M023,M024,M024A,M025,M026,M027,M028,M028A,M029,M030,M031,M031A,M032",
  "|EGYPTIAN HIEROGLYPH |M033,M033A,M033B,M034,M035,M036,M037,M038,M039,M040,M040A,M041,M042,M043,M044,N001,N002,N003",
  "|EGYPTIAN HIEROGLYPH |N004,N005,N006,N007,N008,N009,N010,N011,N012,N013,N014,N015,N016,N017,N018,N018A,N018B,N019",
  "|EGYPTIAN HIEROGLYPH |N020,N021,N022,N023,N024,N025,N025A,N026,N027,N028,N029,N030,N031,N032,N033,N033A,N034,N034A",
  "|EGYPTIAN HIEROGLYPH |N035,N035A,N036,N037,N037A,N038,N039,N040,N041,N042,NL001,NL002,NL003,NL004,NL005,NL005A",
  "|EGYPTIAN HIEROGLYPH |NL006,NL007,NL008,NL009,NL010,NL011,NL012,NL013,NL014,NL015,NL016,NL017,NL017A,NL018,NL019",
  "|EGYPTIAN HIEROGLYPH |NL020,NU001,NU002,NU003,NU004,NU005,NU006,NU007,NU008,NU009,NU010,NU010A,NU011,NU011A,NU012",
  "|EGYPTIAN HIEROGLYPH |NU013,NU014,NU015,NU016,NU017,NU018,NU018A,NU019,NU020,NU021,NU022,NU022A,O001,O001A,O002",
  "|EGYPTIAN HIEROGLYPH |O003,O004,O005,O005A,O006,O006A,O006B,O006C,O006D,O006E,O006F,O007,O008,O009,O010,O010A,O010B",
  "|EGYPTIAN HIEROGLYPH |O010C,O011,O012,O013,O014,O015,O016,O017,O018,O019,O019A,O020,O020A,O021,O022,O023,O024,O024A",
  "|EGYPTIAN HIEROGLYPH |O025,O025A,O026,O027,O028,O029,O029A,O030,O030A,O031,O032,O033,O033A,O034,O035,O036,O036A",
  "|EGYPTIAN HIEROGLYPH |O036B,O036C,O036D,O037,O038,O039,O040,O041,O042,O043,O044,O045,O046,O047,O048,O049,O050,O050A",
  "|EGYPTIAN HIEROGLYPH |O050B,O051,P001,P001A,P002,P003,P003A,P004,P005,P006,P007,P008,P009,P010,P011,Q001,Q002,Q003",
  "|EGYPTIAN HIEROGLYPH |Q004,Q005,Q006,Q007,R001,R002,R002A,R003,R003A,R003B,R004,R005,R006,R007,R008,R009,R010,R010A",
  "|EGYPTIAN HIEROGLYPH |R011,R012,R013,R014,R015,R016,R016A,R017,R018,R019,R020,R021,R022,R023,R024,R025,R026,R027",
  "|EGYPTIAN HIEROGLYPH |R028,R029,S001,S002,S002A,S003,S004,S005,S006,S006A,S007,S008,S009,S010,S011,S012,S013,S014",
  "|EGYPTIAN HIEROGLYPH |S014A,S014B,S015,S016,S017,S017A,S018,S019,S020,S021,S022,S023,S024,S025,S026,S026A,S026B",
  "|EGYPTIAN HIEROGLYPH |S027,S028,S029,S030,S031,S032,S033,S034,S035,S035A,S036,S037,S038,S039,S040,S041,S042,S043",
  "|EGYPTIAN HIEROGLYPH |S044,S045,S046,T001,T002,T003,T003A,T004,T005,T006,T007,T007A,T008,T008A,T009,T009A,T010,T011",
  "|EGYPTIAN HIEROGLYPH |T011A,T012,T013,T014,T015,T016,T016A,T017,T018,T019,T020,T021,T022,T023,T024,T025,T026,T027",
  "|EGYPTIAN HIEROGLYPH |T028,T029,T030,T031,T032,T032A,T033,T033A,T034,T035,T036,U001,U002,U003,U004,U005,U006,U006A",
  "|EGYPTIAN HIEROGLYPH |U006B,U007,U008,U009,U010,U011,U012,U013,U014,U015,U016,U017,U018,U019,U020,U021,U022,U023",
  "|EGYPTIAN HIEROGLYPH |U023A,U024,U025,U026,U027,U028,U029,U029A,U030,U031,U032,U032A,U033,U034,U035,U036,U037,U038",
  "|EGYPTIAN HIEROGLYPH |U039,U040,U041,U042,V001,V001A,V001B,V001C,V001D,V001E,V001F,V001G,V001H,V001I,V002,V002A",
  "|EGYPTIAN HIEROGLYPH |V003,V004,V005,V006,V007,V007A,V007B,V008,V009,V010,V011,V011A,V011B,V011C,V012,V012A,V012B",
  "|EGYPTIAN HIEROGLYPH |V013,V014,V015,V016,V017,V018,V019,V020,V020A,V020B,V020C,V020D,V020E,V020F,V020G,V020H,V020I",
  "|EGYPTIAN HIEROGLYPH |V020J,V020K,V020L,V021,V022,V023,V023A,V024,V025,V026,V027,V028,V028A,V029,V029A,V030,V030A",
  "|EGYPTIAN HIEROGLYPH |V031,V031A,V032,V033,V033A,V034,V035,V036,V037,V037A,V038,V039,V040,V040A,W001,W002,W003",
  "|EGYPTIAN HIEROGLYPH |W003A,W004,W005,W006,W007,W008,W009,W009A,W010,W010A,W011,W012,W013,W014,W014A,W015,W016,W017",
  "|EGYPTIAN HIEROGLYPH |W017A,W018,W018A,W019,W020,W021,W022,W023,W024,W024A,W025,X001,X002,X003,X004,X004A,X004B",
  "|EGYPTIAN HIEROGLYPH |X005,X006,X006A,X007,X008,X008A,Y001,Y001A,Y002,Y003,Y004,Y005,Y006,Y007,Y008,Z001,Z002,Z002A",
  "|EGYPTIAN HIEROGLYPH |Z002B,Z002C,Z002D,Z003,Z003A,Z003B,Z004,Z004A,Z005,Z005A,Z006,Z007,Z008,Z009,Z010,Z011,Z012",
  "|EGYPTIAN HIEROGLYPH |Z013,Z014,Z015,Z015A,Z015B,Z015C,Z015D,Z015E,Z015F,Z015G,Z015H,Z015I,Z016,Z016A,Z016B,Z016C",
  "|EGYPTIAN HIEROGLYPH |Z016D,Z016E,Z016F,Z016G,Z016H,AA001,AA002,AA003,AA004,AA005,AA006,AA007,AA007A,AA007B,AA008",
  "|EGYPTIAN HIEROGLYPH |AA009,AA010,AA011,AA012,AA013,AA014,AA015,AA016,AA017,AA018,AA019,AA020,AA021,AA022,AA023",
  "|EGYPTIAN HIEROGLYPH |AA024,AA025,AA026,AA027,AA028,AA029,AA030,AA031,AA032,,VERTICAL JOINER,HORIZONTAL JOINER",
  "|EGYPTIAN HIEROGLYPH INSERT AT |TOP START,BOTTOM START,TOP END,BOTTOM END",
  "|EGYPTIAN HIEROGLYPH |OVERLAY MIDDLE,BEGIN SEGMENT,END SEGMENT",
  "14400|ANATOLIAN HIEROGLYPH |A001,A002,A003,A004,A005,A006,A007,A008,A009",
  "|ANATOLIAN HIEROGLYPH |A010,A010A,A011,A012,A013,A014,A015,A016,A017,A018,A019,A020,A021,A022,A023,A024,A025,A026",
  "|ANATOLIAN HIEROGLYPH |A026A,A027,A028,A029,A030,A031,A032,A033,A034,A035,A036,A037,A038,A039,A039A,A040,A041,A041A",
  "|ANATOLIAN HIEROGLYPH |A042,A043,A044,A045,A045A,A046,A046A,A046B,A047,A048,A049,A050,A051,A052,A053,A054,A055",
  "|ANATOLIAN HIEROGLYPH |A056,A057,A058,A059,A060,A061,A062,A063,A064,A065,A066,A066A,A066B,A066C,A067,A068,A069,A070",
  "|ANATOLIAN HIEROGLYPH |A071,A072,A073,A074,A075,A076,A077,A078,A079,A080,A081,A082,A083,A084,A085,A086,A087,A088",
  "|ANATOLIAN HIEROGLYPH |A089,A090,A091,A092,A093,A094,A095,A096,A097,A097A,A098,A098A,A099,A100,A100A,A101,A101A",
  "|ANATOLIAN HIEROGLYPH |A102,A102A,A103,A104,A104A,A104B,A104C,A105,A105A,A105B,A106,A107,A107A,A107B,A107C,A108",
  "|ANATOLIAN HIEROGLYPH |A109,A110,A110A,A110B,A111,A112,A113,A114,A115,A115A,A116,A117,A118,A119,A120,A121,A122,A123",
  "|ANATOLIAN HIEROGLYPH |A124,A125,A125A,A126,A127,A128,A129,A130,A131,A132,A133,A134,A135,A135A,A136,A137,A138,A139",
  "|ANATOLIAN HIEROGLYPH |A140,A141,A142,A143,A144,A145,A146,A147,A148,A149,A150,A151,A152,A153,A154,A155,A156,A157",
  "|ANATOLIAN HIEROGLYPH |A158,A159,A160,A161,A162,A163,A164,A165,A166,A167,A168,A169,A170,A171,A172,A173,A174,A175",
  "|ANATOLIAN HIEROGLYPH |A176,A177,A178,A179,A180,A181,A182,A183,A184,A185,A186,A187,A188,A189,A190,A191,A192,A193",
  "|ANATOLIAN HIEROGLYPH |A194,A195,A196,A197,A198,A199,A200,A201,A202,A202A,A202B,A203,A204,A205,A206,A207,A207A,A208",
  "|ANATOLIAN HIEROGLYPH |A209,A209A,A210,A211,A212,A213,A214,A215,A215A,A216,A216A,A217,A218,A219,A220,A221,A222,A223",
  "|ANATOLIAN HIEROGLYPH |A224,A225,A226,A227,A227A,A228,A229,A230,A231,A232,A233,A234,A235,A236,A237,A238,A239,A240",
  "|ANATOLIAN HIEROGLYPH |A241,A242,A243,A244,A245,A246,A247,A248,A249,A250,A251,A252,A253,A254,A255,A256,A257,A258",
  "|ANATOLIAN HIEROGLYPH |A259,A260,A261,A262,A263,A264,A265,A266,A267,A267A,A268,A269,A270,A271,A272,A273,A274,A275",
  "|ANATOLIAN HIEROGLYPH |A276,A277,A278,A279,A280,A281,A282,A283,A284,A285,A286,A287,A288,A289,A289A,A290,A291,A292",
  "|ANATOLIAN HIEROGLYPH |A293,A294,A294A,A295,A296,A297,A298,A299,A299A,A300,A301,A302,A303,A304,A305,A306,A307,A308",
  "|ANATOLIAN HIEROGLYPH |A309,A309A,A310,A311,A312,A313,A314,A315,A316,A317,A318,A319,A320,A321,A322,A323,A324,A325",
  "|ANATOLIAN HIEROGLYPH |A326,A327,A328,A329,A329A,A330,A331,A332A,A332B,A332C,A333,A334,A335,A336,A336A,A336B,A336C",
  "|ANATOLIAN HIEROGLYPH |A337,A338,A339,A340,A341,A342,A343,A344,A345,A346,A347,A348,A349,A350,A351,A352,A353,A354",
  "|ANATOLIAN HIEROGLYPH |A355,A356,A357,A358,A359,A359A,A360,A361,A362,A363,A364,A364A,A365,A366,A367,A368,A368A,A369",
  "|ANATOLIAN HIEROGLYPH |A370,A371,A371A,A372,A373,A374,A375,A376,A377,A378,A379,A380,A381,A381A,A382,A383 RA OR RI",
  "|ANATOLIAN HIEROGLYPH |A383A,A384,A385,A386,A386A,A387,A388,A389,A390,A391,A392,A393 EIGHT,A394,A395,A396",
  "|ANATOLIAN HIEROGLYPH |A397,A398,A399,A400,A401,A402,A403,A404,A405,A406,A407,A408,A409,A410 BEGIN LOGOGRAM MARK",
  "|ANATOLIAN HIEROGLYPH |A410A END LOGOGRAM MARK,A411,A412,A413,A414,A415,A416,A417,A418,A419,A420,A421",
  "|ANATOLIAN HIEROGLYPH |A422,A423,A424,A425,A426,A427,A428,A429,A430,A431,A432,A433,A434,A435,A436,A437,A438,A439",
  "|ANATOLIAN HIEROGLYPH |A440,A441,A442,A443,A444,A445,A446,A447,A448,A449,A450,A450A,A451,A452,A453,A454,A455,A456",
  "|ANATOLIAN HIEROGLYPH |A457,A457A,A458,A459,A460,A461,A462,A463,A464,A465,A466,A467,A468,A469,A470,A471,A472,A473",
  "|ANATOLIAN HIEROGLYPH |A474,A475,A476,A477,A478,A479,A480,A481,A482,A483,A484,A485,A486,A487,A488,A489,A490,A491",
  "|ANATOLIAN HIEROGLYPH |A492,A493,A494,A495,A496,A497,A501,A502,A503,A504,A505,A506,A507,A508,A509,A510,A511,A512",
  "|ANATOLIAN HIEROGLYPH |A513,A514,A515,A516,A517,A518,A519,A520,A521,A522,A523,A524,A525,A526,A527,A528,A529,A530",
  "16800|BAMUM LETTER PHASE-A |NGKUE MFON,GBIEE FON,PON MFON PIPAEMGBIEE,PON MFON PIPAEMBA,NAA MFON",
  "|BAMUM LETTER PHASE-A |SHUENSHUET,TITA MFON,NZA MFON,SHINDA PA NJI,PON PA NJI PIPAEMGBIEE,PON PA NJI PIPAEMBA",
  "|BAMUM LETTER PHASE-A |MAEMBGBIEE,TU MAEMBA,NGANGU,MAEMVEUX,MANSUAE,MVEUAENGAM,SEUNYAM,NTOQPEN,KEUKEUTNDA",
  "|BAMUM LETTER PHASE-A |NKINDI,SUU,NGKUENZEUM,LAPAQ,LET KUT,NTAP MFAA,MAEKEUP,PASHAE,GHEUAERAE,PAMSHAE,MON NGGEUAET",
  "|BAMUM LETTER PHASE-A |NZUN MEUT,U YUQ NAE,GHEUAEGHEUAE,NTAP NTAA,SISA,MGBASA,MEUNJOMNDEUQ,MOOMPUQ,KAFA,PA LEERAEWA",
  "|BAMUM LETTER PHASE-A |NDA LEERAEWA,PET,MAEMKPEN,NIKA,PUP,TUAEP,LUAEP,SONJAM,TEUTEUWEN,MAENYI,KET,NDAANGGEUAET,KUOQ",
  "|BAMUM LETTER PHASE-A |MOOMEUT,SHUM,LOMMAE,FIRI,ROM,KPOQ,SOQ,MAP PIEET,SHIRAE,NTAP,SHOQ NSHUT YUM,NYIT MONGKEUAEQ",
  "|BAMUM LETTER PHASE-A |PAARAE,NKAARAE,UNKNOWN,NGGEN,MAESI,NJAM,MBANYI,NYET,TEUAEN,SOT,PAAM,NSHIEE,MAEM,NYI,KAQ,NSHA",
  "|BAMUM LETTER PHASE-|A VEE,A LU,A NEN,A NAQ,A MBAQ,B NSHUET",
  "|BAMUM LETTER PHASE-B |TU MAEMGBIEE,SIEE,SET TU,LOM NTEUM,MBA MAELEE,KIEEM,YEURAE,MBAARAE,KAM,PEESHI,YAFU LEERAEWA",
  "|BAMUM LETTER PHASE-B |LAM NSHUT NYAM,NTIEE SHEUOQ,NDU NJAA,GHEUGHEUAEM,PIT,TU NSIEE,SHET NJAQ,SHEUAEQTU",
  "|BAMUM LETTER PHASE-B |MFON TEUAEQ,MBIT MBAAKET,NYI NTEUM,KEUPUQ,GHEUGHEN,KEUYEUX,LAANAE,PARUM,VEUM,NGKINDI MVOP",
  "|BAMUM LETTER PHASE-B |NGGEU MBU,WUAET,SAKEUAE,TAAM,MEUQ,NGGUOQ,NGGUOQ LARGE,MFIYAQ,SUE,MBEURI,MONTIEEN,NYAEMAE",
  "|BAMUM LETTER PHASE-B |PUNGAAM,MEUT NGGEET,FEUX,MBUOQ,FEE,KEUAEM,MA NJEUAENA,MA NJUQA,LET,NGGAAM,NSEN,MA,KIQ,NGOM",
  "|BAMUM LETTER PHASE-C |NGKUE MAEMBA,NZA,YUM,WANGKUOQ,NGGEN,NDEUAEREE,NGKAQ,GHARAE,MBEEKEET,GBAYI,NYIR MKPARAQ MEUN",
  "|BAMUM LETTER PHASE-C |NTU MBIT,MBEUM,PIRIEEN,NDOMBU,MBAA CABBAGE-TREE,KEUSHEUAEP,GHAP,KEUKAQ,YU MUOMAE",
  "|BAMUM LETTER PHASE-C |NZEUM,MBUE,NSEUAEN,MBIT,YEUQ,KPARAQ,KAA,SEUX,NDIDA,TAASHAE,NJUEQ,TITA YUE,SUAET,NGGUAEN NYAM",
  "|BAMUM LETTER PHASE-C |VEUX,NANSANAQ,MA KEUAERI,NTAA,NGGUON,LAP,MBIRIEEN,MGBASAQ,NTEUNGBA,TEUTEUX,NGGUM,FUE",
  "|BAMUM LETTER PHASE-C |NDEUT,NSA,NSHAQ,BUNG,VEUAEPEN,MBERAE,RU,NJAEM,LAM,TITUAEP,NSUOT NGOM,NJEEEE,KET,NGGU,MAESI",
  "|BAMUM LETTER PHASE-C |MBUAEM,LU,KUT,NJAM,NGOM,WUP,NGGUEET,NSOM,NTEN,KUOP NKAARAE,NSUN,NDAM,MA NSIEE,YAA,NDAP,SHUEQ",
  "|BAMUM LETTER PHASE-C |SETFON,MBI,MAEMBA,MBANYI,KEUSEUX,MBEUX,KEUM,MBAA PICKET,YUWOQ,NJEUX,MIEE,MUAE,SHIQ,KEN LAW",
  "|BAMUM LETTER PHASE-|C KEN FATIGUE,C NGAQ,C NAQ,C LIQ,C PIN,C PEN,C TET,D MBUO,D WAP,D NJI",
  "|BAMUM LETTER PHASE-D |MFON,NJIEE,LIEE,NJEUT,NSHEE,NGGAAMAE,NYAM,WUAEN,NGKUN,SHEE,NGKAP,KEUAETMEUN,TEUT,SHEUAE,NJAP",
  "|BAMUM LETTER PHASE-D |SUE,KET,YAEMMAE,KUOM,SAP,MFEUT,NDEUX,MALEERI,MEUT,SEUAEQ,YEN,NJEUAEM,KEUOT MBUAE,NGKEURI,TU",
  "|BAMUM LETTER PHASE-D |GHAA,NGKYEE,FEUFEUAET,NDEE,MGBOFUM,LEUAEP,NDON,MONI,MGBEUN,PUUT,MGBIEE,MFO,LUM,NSIEEP,MBAA",
  "|BAMUM LETTER PHASE-D |KWAET,NYET,TEUAEN,SOT,YUWOQ,KEUM,RAEM,TEEEE,NGKEUAEQ,MFEUAE,NSIEET,KEUP,PIP,PEUTAE,NYUE,LET",
  "|BAMUM LETTER PHASE-D |NGGAAM,MFIEE,NGGWAEN,YUOM,PAP,YUOP,NDAM,NTEUM,SUAE,KUN,NGGEUX,NGKIEE,TUOT,MEUN,KUQ,NSUM,TEUN",
  "|BAMUM LETTER PHASE-D |MAENJET,NGGAP,LEUM,NGGUOM,NSHUT,NJUEQ,GHEUAE,KU,REN OLD,TAE,TOQ,NYI,RII,LEEEE,MEEEE,M,SUU",
  "|BAMUM LETTER PHASE-D |MU,SHII,SHEUX,KYEE,NU,SHU,NTEE,PEE,NI,SHOQ,PUQ,MVOP,LOQ,REN MUCH,TI,NTUU,MBAA SEVEN,SAQ,FAA",
  "|BAMUM LETTER PHASE-E |NDAP,TOON,MBEUM,LAP,VOM,LOON,PAA,SOM,RAQ,NSHUOP,NDUN,PUAE",
  "|BAMUM LETTER PHASE-E |TAM,NGKA,KPEUX,WUO,SEE,NGGEUAET,PAAM,TOO,KUOP,LOM,NSHIEE,NGOP,MAEM,NGKEUX,NGOQ,NSHUE,RIMGBA",
  "|BAMUM LETTER PHASE-E |NJEUX,PEEM,SAA,NGGURAE,MGBA,GHEUX,NGKEUAEM,NJAEMLI,MAP,LOOT,NGGEEEE,NDIQ,TAEN NTEUM,SET,PUM",
  "|BAMUM LETTER PHASE-E |NDAA SOFTNESS,NGGUAESHAE NYAM,YIEE,GHEUN,TUAE,YEUAE,PO,TUMAE,KEUAE,SUAEN,TEUAEQ,VEUAE,WEUX",
  "|BAMUM LETTER PHASE-E |LAAM,PU,TAAQ,GHAAMAE,NGEUREUT,SHEUAEQ,MGBEN,MBEE,NZAQ,NKOM,GBET,TUM,KUET,YAP,NYI CLEAVER",
  "|BAMUM LETTER PHASE-E |YIT,MFEUQ,NDIAQ,PIEEQ,YUEQ,LEUAEM,FUE,GBEUX,NGKUP,KET,MAE,NGKAAMI,GHET,FA,NTUM,PEUT",
  "|BAMUM LETTER PHASE-E |YEUM,NGGEUAE,NYI BETWEEN,NZUQ,POON,MIEE,FUET,NAE,MUAE,GHEUAE,FU I,MVI,PUAQ,NGKUM,KUT,PIET",
  "|BAMUM LETTER PHASE-E |NTAP,YEUAET,NGGUP,PA PEOPLE,FU CALL,FOM,NJEE,A,TOQ,O,I,LAQ,PA PLURAL,TAA,TAQ,NDAA MY HOUSE",
  "|BAMUM LETTER PHASE-E |SHIQ,YEUX,NGUAE,YUAEN,YOQ SWIMMING,YOQ COVER,YUQ,YUN,KEUX,PEUX,NJEE EPOCH,PUE,WUE,FEE,VEE",
  "|BAMUM LETTER PHASE-E |LU,MI,REUX,RAE,NGUAET,NGA,SHO,SHOQ,FU REMEDY,NA,PI,LOQ,KO,MEN,MA,MAQ,TEU,KI,MON,TEN,FAQ,GHOM",
  "|BAMUM LETTER PHASE-F |KA,U,KU,EE,REE,TAE,NYI,LA,RII,RIEE,MEEEE",
  "|BAMUM LETTER PHASE-F |TAA,NDAA,NJAEM,M,SUU,SHII,SI,SEUX,KYEE,KET,NUAE,NU,NJUAE,YOQ,SHU,YA,NSHA,PEUX,NTEE,WUE,PEE",
  "|BAMUM LETTER PHASE-F |RU,NI,REUX,KEN,NGKWAEN,NGGA,SHO,PUAE,FOM,WA,LI,LOQ,KO,MBEN,REN,MA,MO,MBAA,TET,KPA,SAMBA,VUEQ",
  "16A40|MRO LETTER |TA,NGI",
  "|MRO LETTER |YO,MIM,BA,DA,A,PHI,KHAI,HAO,DAI,CHU,KEAAE,OL,MAEM,NIN,PA,OO,O,RO,SHI,THEA,EA,WA,E,KO,LAN,LA,HAI,RI,TEK",
  "16A60|MRO DIGIT |ZERO,ONE,TWO,THREE,FOUR,FIVE,SIX,SEVEN,EIGHT,NINE",
  "16A6E|MRO |DANDA,DOUBLE DANDA",
  "|TANGSA LETTER |OZ,OC,OQ,OX,AZ,AC,AQ,AX,VZ,VC,VQ,VX,EZ,EC,EQ,EX,IZ,IC,IQ,IX,UZ,UC,UQ,UX,AWZ,AWC,AWQ,AWX,UIZ,UIC,UIQ",
  "|TANGSA LETTER |UIX,FINAL NG,LONG UEX,SHORT UEZ,SHORT AWX,UEC,UEZ,UEQ,UEX,UIUZ,UIUC,UIUQ,UIUX,MZ,MC,MQ,MX,KA,KHA",
  "|TANGSA LETTER |GA,NGA,SA,YA,WA,PA,NYA,PHA,BA,MA,NA,HA,LA,HTA,TA,DA,RA,NHA,SHA,CA,TSA,GHA,HTTA,THA,XA,FA,DHA,CHA,ZA",
  "16AC0|TANGSA DIGIT |ZERO,ONE,TWO,THREE,FOUR,FIVE,SIX,SEVEN,EIGHT,NINE",
  "16AD0|BASSA VAH LETTER |ENNI,KA",
  "|BASSA VAH LETTER |SE,FA,MBE,YIE,GAH,DHII,KPAH,JO,HWAH,WA,ZO,GBU,DO,CE,UWU,TO,BA,VU,YEIN,PA,WADDA,A,O,OO,U,EE,E,I",
  "16AF0|BASSA VAH COMBINING |HIGH TONE,LOW TONE,MID TONE,LOW-MID TONE,HIGH-LOW TONE",
  "||BASSA VAH FULL STOP",
  "16B00|PAHAWH HMONG VOWEL |KEEB,KEEV,KIB,KIV,KAUB,KAUV,KUB,KUV",
  "|PAHAWH HMONG VOWEL |KEB,KEV,KAIB,KAIV,KOOB,KOOV,KAWB,KAWV,KUAB,KUAV,KOB,KOV,KIAB,KIAV,KAB,KAV,KWB,KWV,KAAB,KAAV",
  "||PAHAWH HMONG CONSONANT VAU",
  "|PAHAWH HMONG CONSONANT |NTSAU,LAU,HAU,NLAU,RAU,NKAU,QHAU,YAU,HLAU,MAU,CHAU,NCHAU,HNAU,PLHAU,NTHAU,NAU,AU,XAU,CAU",
  "|PAHAWH HMONG MARK CIM |TUB,SO,KES,KHAV,SUAM,HOM,TAUM",
  "|PAHAWH HMONG SIGN |VOS THOM,VOS TSHAB CEEB,CIM CHEEM,VOS THIAB,VOS FEEM",
  "|PAHAWH HMONG SIGN |XYEEM NTXIV,XYEEM RHO,XYEEM TOV,XYEEM FAIB,VOS SEEV,MEEJ SUAB,VOS NRUA,IB YAM,XAUS,CIM TSOV ROG",
  "16B50|PAHAWH HMONG DIGIT |ZERO,ONE,TWO,THREE,FOUR,FIVE,SIX,SEVEN,EIGHT,NINE",
  "16B5B|PAHAWH HMONG NUMBER |TENS,HUNDREDS,TEN THOUSANDS,MILLIONS,HUNDRED MILLIONS,TEN BILLIONS,TRILLIONS",
  "16B63||PAHAWH HMONG SIGN VOS LUB",
  "|PAHAWH HMONG SIGN |XYOO,HLI,THIRD-STAGE HLI,ZWJ THAJ,HNUB,NQIG,XIAB,NTUJ,AV,TXHEEJ CEEV,MEEJ TSEEB,TAU,LOS,MUS",
  "|PAHAWH HMONG SIGN CIM |HAIS LUS NTOG NTOG,CUAM TSHOOJ,TXWV,TXWV CHWV,PUB DAWB,NRES TOS",
  "16B7D||PAHAWH HMONG CLAN SIGN TSHEEJ",
  "|PAHAWH HMONG CLAN SIGN |YEEG,LIS,LAUJ,XYOOJ,KOO,HAWJ,MUAS,THOJ,TSAB,PHAB,KHAB,HAM,VAJ,FAJ,YAJ,TSWB,KWM,VWJ",
  "16E40|MEDEFAIDRIN CAPITAL LETTER |M,S,V,W,ATIU,Z,KP,P,T,G,F,I,K,A,J,E,B,C,U,YU,L,Q,HP,NY,X,D,OE,N,R,O,AI,Y",
  "|MEDEFAIDRIN SMALL LETTER |M,S,V,W,ATIU,Z,KP,P,T,G,F,I,K,A,J,E,B,C,U,YU,L,Q,HP,NY,X,D,OE,N,R,O,AI,Y",
  "|MEDEFAIDRIN DIGIT |ZERO,ONE,TWO,THREE,FOUR,FIVE,SIX,SEVEN,EIGHT,NINE",
  "|MEDEFAIDRIN NUMBER |TEN,ELEVEN,TWELVE,THIRTEEN,FOURTEEN,FIFTEEN,SIXTEEN,SEVENTEEN,EIGHTEEN,NINETEEN",
  "|MEDEFAIDRIN DIGIT |ONE ALTERNATE FORM,TWO ALTERNATE FORM,THREE ALTERNATE FORM",
  "|MEDEFAIDRIN |COMMA,FULL STOP,SYMBOL AIVA,EXCLAMATION OH",
  "16F00|MIAO LETTER |PA,BA,YI PA,PLA,MA,MHA,ARCHAIC MA,FA,VA,VFA,TA,DA,YI TTA,YI TA,TTA",
  "|MIAO LETTER |DDA,NA,NHA,YI NNA,ARCHAIC NA,NNA,NNHA,LA,LYA,LHA,LHYA,TLHA,DLHA,TLHYA,DLHYA,KA,GA,YI KA,QA,QGA,NGA",
  "|MIAO LETTER |NGHA,ARCHAIC NGA,HA,XA,GHA,GHHA,TSSA,DZZA,NYA,NYHA,TSHA,DZHA,YI TSHA,YI DZHA,REFORMED TSHA,SHA,SSA",
  "|MIAO LETTER |ZHA,ZSHA,TSA,DZA,YI TSA,SA,ZA,ZSA,ZZA,ZZSA,ARCHAIC ZZA,ZZYA,ZZSYA,WA,AH,HHA,BRI,SYI,DZYI,TE,TSE,RTE",
  "16F4F|MIAO |SIGN CONSONANT MODIFIER BAR,LETTER NASALIZATION,SIGN ASPIRATION",
  "|MIAO SIGN REFORMED |VOICING,ASPIRATION",
  "|MIAO VOWEL SIGN |A,AA,AHH,AN,ANG,O,OO,WO,W,E,EN,ENG,OEY,I,IA,IAN,IANG,IO,IE,II,IU,ING,U,UA,UAN,UANG,UU,UEI",
  "|MIAO VOWEL SIGN |UNG,Y,YI,AE,AEE,ERR,ROUNDED ERR,ER,ROUNDED ER,AI,EI,AU,OU,N,NG,UOG,YUI,OG,OER,VW,IG,EA,IONG,UI",
  "16F8F|MIAO TONE |RIGHT,TOP RIGHT,ABOVE,BELOW",
  "|MIAO LETTER TONE-|2,3,4,5,6,7,8",
  "|MIAO LETTER REFORMED TONE-|1,2,4,5,6,8",
  "16FE0||TANGUT ITERATION MARK,NUSHU ITERATION MARK",
  "|OLD CHINESE |HOOK MARK,ITERATION MARK",
  "||KHITAN SMALL SCRIPT FILLER",
  "16FF0|VIETNAMESE ALTERNATE READING MARK |CA,NHAY",
  "1AFF0|KATAKANA LETTER MINNAN TONE-|2,3,4,5,,7,8",
  "|KATAKANA LETTER MINNAN NASALIZED TONE-|1,2,3,4,5,,7,8",
  "1B000||KATAKANA LETTER ARCHAIC E,HIRAGANA LETTER ARCHAIC YE",
  "|HENTAIGANA LETTER |A-1,A-2,A-3,A-WO,I-1,I-2,I-3,I-4,U-1,U-2,U-3,U-4,U-5,E-2,E-3,E-4,E-5,E-6,O-1,O-2,O-3",
  "|HENTAIGANA LETTER KA-|1,2,3,4,5,6,7,8,9,10,11,KE",
  "|HENTAIGANA LETTER KI-|1,2,3,4,5,6,7,8",
  "|HENTAIGANA LETTER |KU-1,KU-2,KU-3,KU-4,KU-5,KU-6,KU-7,KE-1,KE-2,KE-3,KE-4,KE-5,KE-6,KO-1,KO-2,KO-3,KO-KI",
  "|HENTAIGANA LETTER SA-|1,2,3,4,5,6,7,8",
  "|HENTAIGANA LETTER |SI-1,SI-2,SI-3,SI-4,SI-5,SI-6,SU-1,SU-2,SU-3,SU-4,SU-5,SU-6,SU-7,SU-8,SE-1,SE-2,SE-3,SE-4,SE-5",
  "|HENTAIGANA LETTER SO-|1,2,3,4,5,6,7",
  "|HENTAIGANA LETTER |TA-1,TA-2,TA-3,TA-4,TI-1,TI-2,TI-3,TI-4,TI-5,TI-6,TI-7,TU-1,TU-2,TU-3,TU-4,TU-TO",
  "|HENTAIGANA LETTER TE-|1,2,3,4,5,6,7,8,9",
  "|HENTAIGANA LETTER TO-|1,2,3,4,5,6,RA",
  "|HENTAIGANA LETTER NA-|1,2,3,4,5,6,7,8,9",
  "|HENTAIGANA LETTER NI-|1,2,3,4,5,6,7,TE",
  "|HENTAIGANA LETTER |NU-1,NU-2,NU-3,NE-1,NE-2,NE-3,NE-4,NE-5,NE-6,NE-KO,NO-1,NO-2,NO-3,NO-4,NO-5",
  "|HENTAIGANA LETTER HA-|1,2,3,4,5,6,7,8,9,10,11",
  "|HENTAIGANA LETTER HI-|1,2,3,4,5,6,7",
  "|HENTAIGANA LETTER |HU-1,HU-2,HU-3,HE-1,HE-2,HE-3,HE-4,HE-5,HE-6,HE-7,HO-1,HO-2,HO-3,HO-4,HO-5,HO-6,HO-7,HO-8,MA-1",
  "|HENTAIGANA LETTER |MA-2,MA-3,MA-4,MA-5,MA-6,MA-7,MI-1,MI-2,MI-3,MI-4,MI-5,MI-6,MI-7,MU-1,MU-2,MU-3,MU-4,ME-1,ME-2",
  "|HENTAIGANA LETTER |ME-MA,MO-1,MO-2,MO-3,MO-4,MO-5,MO-6,YA-1,YA-2,YA-3,YA-4,YA-5,YA-YO,YU-1,YU-2,YU-3,YU-4,YO-1",
  "|HENTAIGANA LETTER |YO-2,YO-3,YO-4,YO-5,YO-6,RA-1,RA-2,RA-3,RA-4,RI-1,RI-2,RI-3,RI-4,RI-5,RI-6,RI-7,RU-1,RU-2,RU-3",
  "|HENTAIGANA LETTER |RU-4,RU-5,RU-6,RE-1,RE-2,RE-3,RE-4,RO-1,RO-2,RO-3,RO-4,RO-5,RO-6,WA-1,WA-2,WA-3,WA-4,WA-5,WI-1",
  "|HENTAIGANA LETTER |WI-2,WI-3,WI-4,WI-5,WE-1,WE-2,WE-3,WE-4,WO-1,WO-2,WO-3,WO-4,WO-5,WO-6,WO-7,N-MU-MO-1,N-MU-MO-2",
  "||HIRAGANA LETTER ARCHAIC WU",
  "|KATAKANA LETTER ARCHAIC |YI,YE,WU",
  "1B150|HIRAGANA LETTER SMALL |WI,WE,WO",
  "1B164|KATAKANA LETTER SMALL |WI,WE,WO,N",
  "1BC00|DUPLOYAN LETTER |H,X,P,T,F,K,L,B,D,V,G,R,P N,D S,F N,K M,R S,TH,SLOAN DH,DH,KK,SLOAN J",
  "|DUPLOYAN LETTER |HL,LH,RH,M,N,J,S,M N,N M,J M,S J,M WITH DOT,N WITH DOT,J WITH DOT,J WITH DOTS INSIDE AND ABOVE",
  "|DUPLOYAN LETTER S WITH |DOT,DOT BELOW",
  "|DUPLOYAN LETTER |M S,N S,J S,S S,M N S,N M S,J M S,S J S,J S WITH DOT,J N,J N S,S T,S T R,S P,S P R,T S",
  "|DUPLOYAN LETTER |T R S,W,WH,W R,S N,S M,K R S,G R S,S K,S K R,A,SLOAN OW,OA,O,AOU,I,E,IE,SHORT I,UI,EE,SLOAN EH",
  "|DUPLOYAN LETTER |ROMANIAN I,SLOAN EE,LONG I,YE,U,EU,XW,U N,LONG U,ROMANIAN U,UH,SLOAN U,OOH,OW,OU,WA,WO,WI",
  "|DUPLOYAN LETTER |WEI,WOW,NASAL U,NASAL O,NASAL I,NASAL A,PERNIN AN,PERNIN AM,SLOAN EN,SLOAN AN,SLOAN ON,VOCALIC M",
  "1BC70|DUPLOYAN AFFIX |LEFT HORIZONTAL SECANT,MID HORIZONTAL SECANT",
  "|DUPLOYAN AFFIX |RIGHT HORIZONTAL SECANT,LOW VERTICAL SECANT,MID VERTICAL SECANT,HIGH VERTICAL SECANT",
  "|DUPLOYAN AFFIX ATTACHED |SECANT,LEFT-TO-RIGHT SECANT,TANGENT,TAIL,E HOOK,I HOOK,TANGENT HOOK",
  "1BC80|DUPLOYAN AFFIX HIGH |ACUTE,TIGHT ACUTE,GRAVE,LONG GRAVE,DOT,CIRCLE,LINE,WAVE,VERTICAL",
  "1BC90|DUPLOYAN AFFIX LOW |ACUTE,TIGHT ACUTE,GRAVE,LONG GRAVE,DOT,CIRCLE,LINE,WAVE,VERTICAL,ARROW",
  "1BC9C|DUPLOYAN |SIGN O WITH CROSS,THICK LETTER SELECTOR,DOUBLE MARK,PUNCTUATION CHINOOK FULL STOP",
  "|SHORTHAND FORMAT |LETTER OVERLAP,CONTINUING OVERLAP,DOWN STEP,UP STEP",
  "1CF00||ZNAMENNY COMBINING MARK GORAZDO NIZKO S KRYZHEM ON LEFT",
  "|ZNAMENNY COMBINING MARK |NIZKO S KRYZHEM ON LEFT,TSATA ON LEFT,GORAZDO NIZKO ON LEFT,NIZKO ON LEFT,SREDNE ON LEFT",
  "|ZNAMENNY COMBINING MARK |MALO POVYSHE ON LEFT,POVYSHE ON LEFT,VYSOKO ON LEFT,MALO POVYSHE S KHOKHLOM ON LEFT",
  "|ZNAMENNY COMBINING MARK |POVYSHE S KHOKHLOM ON LEFT,VYSOKO S KHOKHLOM ON LEFT,GORAZDO NIZKO S KRYZHEM ON RIGHT",
  "|ZNAMENNY COMBINING MARK |NIZKO S KRYZHEM ON RIGHT,TSATA ON RIGHT,GORAZDO NIZKO ON RIGHT",
  "|ZNAMENNY COMBINING MARK |NIZKO ON RIGHT,SREDNE ON RIGHT,MALO POVYSHE ON RIGHT,POVYSHE ON RIGHT,VYSOKO ON RIGHT",
  "|ZNAMENNY COMBINING MARK |MALO POVYSHE S KHOKHLOM ON RIGHT,POVYSHE S KHOKHLOM ON RIGHT,VYSOKO S KHOKHLOM ON RIGHT",
  "|ZNAMENNY COMBINING MARK |TSATA S KRYZHEM,MALO POVYSHE S KRYZHEM,STRANNO MALO POVYSHE,POVYSHE S KRYZHEM",
  "|ZNAMENNY COMBINING MARK |POVYSHE STRANNO,VYSOKO S KRYZHEM,MALO POVYSHE STRANNO,GORAZDO VYSOKO,ZELO,ON,RAVNO",
  "|ZNAMENNY COMBINING MARK |TIKHAYA,BORZAYA,UDARKA,PODVERTKA,LOMKA,KUPNAYA,KACHKA,ZEVOK,SKOBA,RAZSEKA,KRYZH ON LEFT",
  "1CF30|ZNAMENNY COMBINING TONAL RANGE MARK |MRACHNO,SVETLO,TRESVETLO",
  "|ZNAMENNY COMBINING MARK |ZADERZHKA,DEMESTVENNY ZADERZHKA,OTSECHKA,PODCHASHIE,PODCHASHIE WITH VERTICAL STROKE",
  "|ZNAMENNY COMBINING MARK |CHASHKA,CHASHKA POLNAYA,OBLACHKO,SOROCHYA NOZHKA,TOCHKA,DVOETOCHIE",
  "|ZNAMENNY COMBINING |ATTACHING VERTICAL OMET,MARK CURVED OMET,MARK KRYZH,LOWER TONAL RANGE INDICATOR",
  "|ZNAMENNY PRIZNAK MODIFIER |LEVEL-2,LEVEL-3,DIRECTION FLIP,KRYZH,ROG",
  "1CF50|ZNAMENNY NEUME |KRYUK,KRYUK TIKHY,PARAKLIT,DVA V CHELNU,KLYUCH,ZANOZHEK,STOPITSA,STOPITSA S OCHKOM",
  "|ZNAMENNY NEUME |PEREVODKA,PEREVODKA NEPOSTOYANNAYA,STOPITSA WITH SOROCHYA NOZHKA,CHELYUSTKA,PALKA,ZAPYATAYA",
  "|ZNAMENNY NEUME GOLUBCHIK |BORZY,TIKHY,MRACHNY,SVETLY,TRESVETLY",
  "|ZNAMENNY NEUME VRAKHIYA |PROSTAYA,MRACHNAYA,SVETLAYA,TRESVETLAYA",
  "|ZNAMENNY NEUME VRAKHIYA KLYUCHEVAYA |PROSTAYA,MRACHNAYA,SVETLAYA,TRESVETLAYA",
  "|ZNAMENNY NEUME |DOUBLE ZAPYATAYA,REVERSED CHELYUSTKA,DERBITSA,KHAMILO,CHASHKA,PODCHASHIE",
  "|ZNAMENNY NEUME SKAMEYTSA |MRACHNAYA,SVETLAYA,TRESVETLAYA,TIKHAYA",
  "||ZNAMENNY NEUME DEMESTVENNY KLYUCH",
  "|ZNAMENNY NEUME SKAMEYTSA |KLYUCHEVAYA SVETLAYA,KLYUCHENEPOSTOYANNAYA,KLYUCHEVAYA TIKHAYA",
  "|ZNAMENNY NEUME SKAMEYTSA DVOECHELNAYA |PROSTAYA,SVETLAYA,NEPOSTOYANNAYA,KLYUCHEVAYA",
  "|ZNAMENNY NEUME |SLOZHITIE,SLOZHITIE S ZAPYATOY",
  "|ZNAMENNY NEUME |SLOZHITIE ZAKRYTOE,SLOZHITIE S KRYZHEM,KRYZH,ROG,FITA,KOBYLA,ZMEYTSA,STATYA,STATYA S ZAPYATOY",
  "|ZNAMENNY NEUME STATYA |S KRYZHEM,S ZAPYATOY I KRYZHEM,S KRYZHEM I ZAPYATOY,ZAKRYTAYA,ZAKRYTAYA S ZAPYATOY,S ROGOM",
  "|ZNAMENNY NEUME |STATYA S DVUMYA ZAPYATYMI,STATYA S ZAPYATOY I PODCHASHIEM,POLKULIZMY,STATYA NEPOSTOYANNAYA",
  "|ZNAMENNY NEUME STRELA |PROSTAYA,MRACHNOTIKHAYA,KRYZHEVAYA,POLUPOVODNAYA,POVODNAYA,NEPOSTOYANNAYA",
  "|ZNAMENNY NEUME STRELA |KLYUCHEPOVODNAYA,KLYUCHENEPOSTOYANNAYA,TIKHAYA PUTNAYA,DVOECHELNAYA,DVOECHELNOKRYZHEVAYA",
  "|ZNAMENNY NEUME STRELA |DVOECHELNOPOVODNAYA,DVOECHELNAYA KLYUCHEVAYA,DVOECHELNOPOVODNAYA KLYUCHEVAYA",
  "|ZNAMENNY NEUME STRELA |GROMNAYA WITH SINGLE ZAPYATAYA,GROMOPOVODNAYA WITH SINGLE ZAPYATAYA,GROMNAYA,GROMOPOVODNAYA",
  "|ZNAMENNY NEUME STRELA |GROMOPOVODNAYA WITH DOUBLE ZAPYATAYA,GROMOKRYZHEVAYA,GROMOKRYZHEVAYA POVODNAYA",
  "|ZNAMENNY NEUME |MECHIK,MECHIK POVODNY,MECHIK KLYUCHEVOY,MECHIK KLYUCHEPOVODNY,MECHIK KLYUCHENEPOSTOYANNY",
  "|ZNAMENNY NEUME |STRELA TRYASOGLASNAYA,STRELA TRYASOPOVODNAYA,STRELA TRYASOSTRELNAYA,OSOKA",
  "|ZNAMENNY NEUME OSOKA |SVETLAYA,TRESVETLAYA,KRYUKOVAYA SVETLAYA,KLYUCHEVAYA SVETLAYA,KLYUCHEVAYA NEPOSTOYANNAYA",
  "|ZNAMENNY NEUME STRELA |KRYUKOVAYA,KRYUKOVAYA POVODNAYA,KRYUKOVAYA GROMNAYA WITH SINGLE ZAPYATAYA",
  "|ZNAMENNY NEUME STRELA KRYUKOVAYA |GROMOPOVODNAYA WITH SINGLE ZAPYATAYA,GROMNAYA,GROMOPOVODNAYA",
  "|ZNAMENNY NEUME STRELA KRYUKOVAYA |GROMOPOVODNAYA WITH DOUBLE ZAPYATAYA,GROMOKRYZHEVAYA,GROMOKRYZHEVAYA POVODNAYA",
  "|ZNAMENNY NEUME |STRELA KRYUKOVAYA TRYASKA,KUFISMA,OBLAKO,DUDA,NEMKA,PAUK"]

end Linewise.CharacterName
