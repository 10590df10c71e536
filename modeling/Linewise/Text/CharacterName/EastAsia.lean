/-
Names of characters from 2e80 to ffff: radicals, kana and other scripts of eastern Asia, compatibility forms.

The rows are written as `CharacterName.Row.ofText` reads them.
-/
namespace Linewise.CharacterName

/-- the rows for these characters -/
def eastAsianNames : List String := [
  "2E80|CJK RADICAL |REPEAT,CLIFF,SECOND ONE,SECOND TWO",
  "|CJK RADICAL |SECOND THREE,PERSON,BOX,TABLE,KNIFE ONE,KNIFE TWO,DIVINATION,SEAL,SMALL ONE,SMALL TWO,LAME ONE",
  "|CJK RADICAL |LAME TWO,LAME THREE,LAME FOUR,SNAKE,THREAD,SNOUT ONE,SNOUT TWO,HEART ONE,HEART TWO,HAND,RAP,,CHOKE",
  "|CJK RADICAL |SUN,MOON,DEATH,MOTHER,CIVILIAN,WATER ONE,WATER TWO,FIRE,PAW ONE,PAW TWO,SIMPLIFIED HALF TREE TRUNK",
  "|CJK RADICAL |COW,DOG,JADE,BOLT OF CLOTH,EYE,SPIRIT ONE,SPIRIT TWO,BAMBOO,SILK,C-SIMPLIFIED SILK",
  "|CJK RADICAL |NET ONE,NET TWO,NET THREE,NET FOUR,MESH,SHEEP,RAM,EWE,OLD,BRUSH ONE,BRUSH TWO,MEAT,MORTAR",
  "|CJK RADICAL |GRASS ONE,GRASS TWO,GRASS THREE,TIGER,CLOTHES,WEST ONE,WEST TWO,C-SIMPLIFIED SEE,SIMPLIFIED HORN,HORN",
  "|CJK RADICAL |C-SIMPLIFIED SPEECH,C-SIMPLIFIED SHELL,FOOT,C-SIMPLIFIED CART,SIMPLIFIED WALK,WALK ONE,WALK TWO,CITY",
  "|CJK RADICAL |C-SIMPLIFIED GOLD,LONG ONE,LONG TWO,C-SIMPLIFIED LONG,C-SIMPLIFIED GATE,MOUND ONE,MOUND TWO,RAIN,BLUE",
  "|CJK RADICAL C-SIMPLIFIED |TANNED LEATHER,LEAF,WIND,FLY",
  "|CJK RADICAL |EAT ONE,EAT TWO,EAT THREE,C-SIMPLIFIED EAT,HEAD,C-SIMPLIFIED HORSE,BONE,GHOST",
  "|CJK RADICAL C-SIMPLIFIED |FISH,BIRD,SALT",
  "|CJK RADICAL SIMPLIFIED |WHEAT,YELLOW",
  "|CJK RADICAL |C-SIMPLIFIED FROG,J-SIMPLIFIED EVEN,C-SIMPLIFIED EVEN,J-SIMPLIFIED TOOTH,C-SIMPLIFIED TOOTH",
  "|CJK RADICAL |J-SIMPLIFIED DRAGON,C-SIMPLIFIED DRAGON,TURTLE,J-SIMPLIFIED TURTLE,C-SIMPLIFIED TURTLE",
  "2F00|KANGXI RADICAL |ONE,LINE,DOT,SLASH",
  "|KANGXI RADICAL |SECOND,HOOK,TWO,LID,MAN,LEGS,ENTER,EIGHT,DOWN BOX,COVER,ICE,TABLE,OPEN BOX,KNIFE,POWER,WRAP,SPOON",
  "|KANGXI RADICAL |RIGHT OPEN BOX,HIDING ENCLOSURE,TEN,DIVINATION,SEAL,CLIFF,PRIVATE,AGAIN,MOUTH,ENCLOSURE,EARTH",
  "|KANGXI RADICAL |SCHOLAR,GO,GO SLOWLY,EVENING,BIG,WOMAN,CHILD,ROOF,INCH,SMALL,LAME,CORPSE,SPROUT,MOUNTAIN,RIVER",
  "|KANGXI RADICAL |WORK,ONESELF,TURBAN,DRY,SHORT THREAD,DOTTED CLIFF,LONG STRIDE,TWO HANDS,SHOOT,BOW,SNOUT,BRISTLE",
  "|KANGXI RADICAL |STEP,HEART,HALBERD,DOOR,HAND,BRANCH,RAP,SCRIPT,DIPPER,AXE,SQUARE,NOT,SUN,SAY,MOON,TREE,LACK,STOP",
  "|KANGXI RADICAL |DEATH,WEAPON,DO NOT,COMPARE,FUR,CLAN,STEAM,WATER,FIRE,CLAW,FATHER,DOUBLE X,HALF TREE TRUNK,SLICE",
  "|KANGXI RADICAL |FANG,COW,DOG,PROFOUND,JADE,MELON,TILE,SWEET,LIFE,USE,FIELD,BOLT OF CLOTH,SICKNESS,DOTTED TENT",
  "|KANGXI RADICAL |WHITE,SKIN,DISH,EYE,SPEAR,ARROW,STONE,SPIRIT,TRACK,GRAIN,CAVE,STAND,BAMBOO,RICE,SILK,JAR,NET",
  "|KANGXI RADICAL |SHEEP,FEATHER,OLD,AND,PLOW,EAR,BRUSH,MEAT,MINISTER,SELF,ARRIVE,MORTAR,TONGUE,OPPOSE,BOAT,STOPPING",
  "|KANGXI RADICAL |COLOR,GRASS,TIGER,INSECT,BLOOD,WALK ENCLOSURE,CLOTHES,WEST,SEE,HORN,SPEECH,VALLEY,BEAN,PIG,BADGER",
  "|KANGXI RADICAL |SHELL,RED,RUN,FOOT,BODY,CART,BITTER,MORNING,WALK,CITY,WINE,DISTINGUISH,VILLAGE,GOLD,LONG,GATE",
  "|KANGXI RADICAL |MOUND,SLAVE,SHORT TAILED BIRD,RAIN,BLUE,WRONG,FACE,LEATHER,TANNED LEATHER,LEEK,SOUND,LEAF,WIND,FLY",
  "|KANGXI RADICAL |EAT,HEAD,FRAGRANT,HORSE,BONE,TALL,HAIR,FIGHT,SACRIFICIAL WINE,CAULDRON,GHOST,FISH,BIRD,SALT,DEER",
  "|KANGXI RADICAL |WHEAT,HEMP,YELLOW,MILLET,BLACK,EMBROIDERY,FROG,TRIPOD,DRUM,RAT,NOSE,EVEN,TOOTH,DRAGON,TURTLE,FLUTE",
  "2FF0||IDEOGRAPHIC DESCRIPTION CHARACTER LEFT TO RIGHT",
  "|IDEOGRAPHIC DESCRIPTION CHARACTER |ABOVE TO BELOW,LEFT TO MIDDLE AND RIGHT,ABOVE TO MIDDLE AND BELOW,FULL SURROUND",
  "|IDEOGRAPHIC DESCRIPTION CHARACTER SURROUND FROM |ABOVE,BELOW,LEFT,UPPER LEFT,UPPER RIGHT,LOWER LEFT",
  "||IDEOGRAPHIC DESCRIPTION CHARACTER OVERLAID",
  "3000|IDEOGRAPHIC |SPACE,COMMA,FULL STOP",
  "||DITTO MARK,JAPANESE INDUSTRIAL STANDARD SYMBOL",
  "|IDEOGRAPHIC |ITERATION MARK,CLOSING MARK,NUMBER ZERO",
  "||LEFT ANGLE BRACKET,RIGHT ANGLE BRACKET,LEFT DOUBLE ANGLE BRACKET,RIGHT DOUBLE ANGLE BRACKET,LEFT CORNER BRACKET",
  "||RIGHT CORNER BRACKET,LEFT WHITE CORNER BRACKET,RIGHT WHITE CORNER BRACKET,LEFT BLACK LENTICULAR BRACKET",
  "||RIGHT BLACK LENTICULAR BRACKET,POSTAL MARK,GETA MARK,LEFT TORTOISE SHELL BRACKET,RIGHT TORTOISE SHELL BRACKET",
  "||LEFT WHITE LENTICULAR BRACKET,RIGHT WHITE LENTICULAR BRACKET,LEFT WHITE TORTOISE SHELL BRACKET",
  "||RIGHT WHITE TORTOISE SHELL BRACKET,LEFT WHITE SQUARE BRACKET,RIGHT WHITE SQUARE BRACKET,WAVE DASH",
  "||REVERSED DOUBLE PRIME QUOTATION MARK,DOUBLE PRIME QUOTATION MARK,LOW DOUBLE PRIME QUOTATION MARK,POSTAL MARK FACE",
  "|HANGZHOU NUMERAL |ONE,TWO,THREE,FOUR,FIVE,SIX,SEVEN,EIGHT,NINE",
  "|IDEOGRAPHIC |LEVEL TONE MARK,RISING TONE MARK,DEPARTING TONE MARK,ENTERING TONE MARK",
  "||HANGUL SINGLE DOT TONE MARK,HANGUL DOUBLE DOT TONE MARK,WAVY DASH",
  "|VERTICAL KANA REPEAT |MARK,WITH VOICED SOUND MARK,MARK UPPER HALF,WITH VOICED SOUND MARK UPPER HALF",
  "||VERTICAL KANA REPEAT MARK LOWER HALF,CIRCLED POSTAL MARK,IDEOGRAPHIC TELEGRAPH LINE FEED SEPARATOR SYMBOL",
  "|HANGZHOU NUMERAL |TEN,TWENTY,THIRTY",
  "||VERTICAL IDEOGRAPHIC ITERATION MARK,MASU MARK,PART ALTERNATION MARK",
  "|IDEOGRAPHIC |VARIATION INDICATOR,HALF FILL SPACE",
  "3041|HIRAGANA LETTER |SMALL A,A,SMALL I,I,SMALL U,U,SMALL E",
  "|HIRAGANA LETTER |E,SMALL O,O,KA,GA,KI,GI,KU,GU,KE,GE,KO,GO,SA,ZA,SI,ZI,SU,ZU,SE,ZE,SO,ZO,TA,DA,TI,DI,SMALL TU",
  "|HIRAGANA LETTER |TU,DU,TE,DE,TO,DO,NA,NI,NU,NE,NO,HA,BA,PA,HI,BI,PI,HU,BU,PU,HE,BE,PE,HO,BO,PO,MA,MI,MU,ME",
  "|HIRAGANA LETTER |MO,SMALL YA,YA,SMALL YU,YU,SMALL YO,YO,RA,RI,RU,RE,RO,SMALL WA,WA,WI,WE,WO,N,VU,SMALL KA,SMALL KE",
  "3099|COMBINING KATAKANA-HIRAGANA |VOICED SOUND MARK,SEMI-VOICED SOUND MARK",
  "|KATAKANA-HIRAGANA |VOICED SOUND MARK,SEMI-VOICED SOUND MARK",
  "|HIRAGANA |ITERATION MARK,VOICED ITERATION MARK,DIGRAPH YORI",
  "||KATAKANA-HIRAGANA DOUBLE HYPHEN",
  "|KATAKANA LETTER |SMALL A,A,SMALL I,I,SMALL U,U,SMALL E,E",
  "|KATAKANA LETTER |SMALL O,O,KA,GA,KI,GI,KU,GU,KE,GE,KO,GO,SA,ZA,SI,ZI,SU,ZU,SE,ZE,SO,ZO,TA,DA,TI,DI,SMALL TU,TU,DU",
  "|KATAKANA LETTER |TE,DE,TO,DO,NA,NI,NU,NE,NO,HA,BA,PA,HI,BI,PI,HU,BU,PU,HE,BE,PE,HO,BO,PO,MA,MI,MU,ME,MO,SMALL YA",
  "|KATAKANA LETTER |YA,SMALL YU,YU,SMALL YO,YO,RA,RI,RU,RE,RO,SMALL WA,WA,WI,WE,WO,N,VU,SMALL KA,SMALL KE,VA,VI,VE,VO",
  "||KATAKANA MIDDLE DOT,KATAKANA-HIRAGANA PROLONGED SOUND MARK",
  "|KATAKANA |ITERATION MARK,VOICED ITERATION MARK,DIGRAPH KOTO",
  "3105|BOPOMOFO LETTER |B,P,M,F,D,T,N,L,G,K,H,J",
  "|BOPOMOFO LETTER |Q,X,ZH,CH,SH,R,Z,C,S,A,O,E,EH,AI,EI,AU,OU,AN,EN,ANG,ENG,ER,I,U,IU,V,NG,GN,IH,O WITH DOT ABOVE,NN",
  "3131|HANGUL LETTER |KIYEOK,SSANGKIYEOK,KIYEOK-SIOS,NIEUN,NIEUN-CIEUC,NIEUN-HIEUH,TIKEUT,SSANGTIKEUT,RIEUL",
  "|HANGUL LETTER RIEUL-|KIYEOK,MIEUM,PIEUP,SIOS,THIEUTH,PHIEUPH,HIEUH",
  "|HANGUL LETTER |MIEUM,PIEUP,SSANGPIEUP,PIEUP-SIOS,SIOS,SSANGSIOS,IEUNG,CIEUC,SSANGCIEUC",
  "|HANGUL LETTER |CHIEUCH,KHIEUKH,THIEUTH,PHIEUPH,HIEUH,A,AE,YA,YAE,EO,E,YEO,YE,O,WA,WAE,OE,YO,U,WEO,WE,WI,YU,EU,YI,I",
  "|HANGUL |FILLER,LETTER SSANGNIEUN",
  "|HANGUL LETTER NIEUN-|TIKEUT,SIOS,PANSIOS",
  "|HANGUL LETTER RIEUL-|KIYEOK-SIOS,TIKEUT,PIEUP-SIOS,PANSIOS,YEORINHIEUH",
  "|HANGUL LETTER |MIEUM-PIEUP,MIEUM-SIOS,MIEUM-PANSIOS,KAPYEOUNMIEUM",
  "|HANGUL LETTER PIEUP-|KIYEOK,TIKEUT,SIOS-KIYEOK,SIOS-TIKEUT,CIEUC,THIEUTH",
  "|HANGUL LETTER |KAPYEOUNPIEUP,KAPYEOUNSSANGPIEUP,SIOS-KIYEOK,SIOS-NIEUN",
  "|HANGUL LETTER |SIOS-TIKEUT,SIOS-PIEUP,SIOS-CIEUC,PANSIOS,SSANGIEUNG,YESIEUNG,YESIEUNG-SIOS,YESIEUNG-PANSIOS",
  "|HANGUL LETTER |KAPYEOUNPHIEUPH,SSANGHIEUH,YEORINHIEUH,YO-YA,YO-YAE,YO-I,YU-YEO,YU-YE,YU-I,ARAEA,ARAEAE",
  "3190|IDEOGRAPHIC ANNOTATION |LINKING MARK,REVERSE MARK,ONE MARK,TWO MARK,THREE MARK,FOUR MARK,TOP MARK,MIDDLE MARK",
  "|IDEOGRAPHIC ANNOTATION |BOTTOM MARK,FIRST MARK,SECOND MARK,THIRD MARK,FOURTH MARK,HEAVEN MARK,EARTH MARK,MAN MARK",
  "|BOPOMOFO LETTER |BU,ZI,JI,GU,EE,ENN,OO,ONN,IR,ANN,INN,UNN,IM,NGG,AINN,AUNN,AM,OM,ONG,INNN",
  "|BOPOMOFO FINAL LETTER |P,T,K,H",
  "|BOPOMOFO |LETTER GH,LETTER LH,LETTER ZY,FINAL LETTER G",
  "|BOPOMOFO LETTER |GW,KW,OE,AH",
  "|CJK STROKE |T,WG,XG,BXG,SW,HZZ,HZG",
  "|CJK STROKE |HP,HZWG,SZWG,HZT,HZZP,HPWG,HZW,HZZZ,N,H,S,P,SP,D,HZ,HG,SZ,SWZ,ST,SG,PD,PZ,TN,SZZ,SWG,HXWG,HZZZG,PG,Q",
  "31F0|KATAKANA LETTER SMALL |KU,SI,SU,TO,NU,HA,HI,HU,HE,HO,MU,RA,RI,RU,RE,RO",
  "|PARENTHESIZED HANGUL |KIYEOK,NIEUN,TIKEUT,RIEUL,MIEUM,PIEUP,SIOS",
  "|PARENTHESIZED HANGUL |IEUNG,CIEUC,CHIEUCH,KHIEUKH,THIEUTH,PHIEUPH,HIEUH,KIYEOK A,NIEUN A,TIKEUT A,RIEUL A,MIEUM A",
  "|PARENTHESIZED HANGUL |PIEUP A,SIOS A,IEUNG A,CIEUC A,CHIEUCH A,KHIEUKH A,THIEUTH A,PHIEUPH A,HIEUH A,CIEUC U",
  "|PARENTHESIZED KOREAN CHARACTER |OJEON,O HU",
  "3220|PARENTHESIZED IDEOGRAPH |ONE,TWO,THREE,FOUR,FIVE,SIX,SEVEN,EIGHT,NINE,TEN,MOON,FIRE",
  "|PARENTHESIZED IDEOGRAPH |WATER,WOOD,METAL,EARTH,SUN,STOCK,HAVE,SOCIETY,NAME,SPECIAL,FINANCIAL,CONGRATULATION,LABOR",
  "|PARENTHESIZED IDEOGRAPH |REPRESENT,CALL,STUDY,SUPERVISE,ENTERPRISE,RESOURCE,ALLIANCE,FESTIVAL,REST,SELF,REACH",
  "|CIRCLED IDEOGRAPH |QUESTION,KINDERGARTEN,SCHOOL,KOTO",
  "|CIRCLED NUMBER |TEN ON BLACK SQUARE,TWENTY ON BLACK SQUARE,THIRTY ON BLACK SQUARE,FORTY ON BLACK SQUARE",
  "|CIRCLED NUMBER |FIFTY ON BLACK SQUARE,SIXTY ON BLACK SQUARE,SEVENTY ON BLACK SQUARE,EIGHTY ON BLACK SQUARE",
  "||PARTNERSHIP SIGN",
  "|CIRCLED NUMBER TWENTY |ONE,TWO,THREE,FOUR,FIVE,SIX,SEVEN,EIGHT,NINE",
  "||CIRCLED NUMBER THIRTY",
  "|CIRCLED NUMBER THIRTY |ONE,TWO,THREE,FOUR,FIVE",
  "|CIRCLED HANGUL |KIYEOK,NIEUN,TIKEUT",
  "|CIRCLED HANGUL |RIEUL,MIEUM,PIEUP,SIOS,IEUNG,CIEUC,CHIEUCH,KHIEUKH,THIEUTH,PHIEUPH,HIEUH,KIYEOK A,NIEUN A,TIKEUT A",
  "|CIRCLED HANGUL |RIEUL A,MIEUM A,PIEUP A,SIOS A,IEUNG A,CIEUC A,CHIEUCH A,KHIEUKH A,THIEUTH A,PHIEUPH A,HIEUH A",
  "|CIRCLED KOREAN CHARACTER |CHAMKO,JUEUI",
  "||CIRCLED HANGUL IEUNG U,KOREAN STANDARD SYMBOL",
  "|CIRCLED IDEOGRAPH |ONE,TWO,THREE,FOUR,FIVE,SIX,SEVEN,EIGHT,NINE,TEN",
  "|CIRCLED IDEOGRAPH |MOON,FIRE,WATER,WOOD,METAL,EARTH,SUN,STOCK,HAVE,SOCIETY,NAME,SPECIAL,FINANCIAL,CONGRATULATION",
  "|CIRCLED IDEOGRAPH |LABOR,SECRET,MALE,FEMALE,SUITABLE,EXCELLENT,PRINT,ATTENTION,ITEM,REST,COPY,CORRECT",
  "|CIRCLED IDEOGRAPH |HIGH,CENTRE,LOW,LEFT,RIGHT,MEDICINE,RELIGION,STUDY,SUPERVISE,ENTERPRISE,RESOURCE,ALLIANCE,NIGHT",
  "|CIRCLED NUMBER |THIRTY SIX,THIRTY SEVEN,THIRTY EIGHT,THIRTY NINE,FORTY",
  "|CIRCLED NUMBER FORTY |ONE,TWO,THREE,FOUR,FIVE,SIX,SEVEN,EIGHT,NINE",
  "||CIRCLED NUMBER FIFTY,IDEOGRAPHIC TELEGRAPH SYMBOL FOR JANUARY",
  "|IDEOGRAPHIC TELEGRAPH SYMBOL FOR |FEBRUARY,MARCH,APRIL,MAY,JUNE,JULY,AUGUST,SEPTEMBER,OCTOBER,NOVEMBER,DECEMBER",
  "|SQUARE |HG,ERG,EV",
  "||LIMITED LIABILITY SIGN",
  "|CIRCLED KATAKANA |A,I,U,E,O,KA,KI,KU,KE,KO,SA,SI,SU,SE,SO",
  "|CIRCLED KATAKANA |TA,TI,TU,TE,TO,NA,NI,NU,NE,NO,HA,HI,HU,HE,HO,MA,MI,MU,ME,MO,YA,YU,YO,RA,RI,RU,RE,RO,WA,WI,WE,WO",
  "|SQUARE |ERA NAME REIWA,APAATO,ARUHUA,ANPEA,AARU,ININGU,INTI,UON,ESUKUUDO,EEKAA,ONSU,OOMU,KAIRI,KARATTO,KARORII",
  "|SQUARE |GARON,GANMA,GIGA,GINII,KYURII,GIRUDAA,KIRO,KIROGURAMU,KIROMEETORU,KIROWATTO,GURAMU,GURAMUTON,KURUZEIRO",
  "|SQUARE |KUROONE,KEESU,KORUNA,KOOPO,SAIKURU,SANTIIMU,SIRINGU,SENTI,SENTO,DAASU,DESI,DORU,TON,NANO,NOTTO,HAITU",
  "|SQUARE |PAASENTO,PAATU,BAARERU,PIASUTORU,PIKURU,PIKO,BIRU,HUARADDO,HUIITO,BUSSYERU,HURAN,HEKUTAARU,PESO,PENIHI",
  "|SQUARE |HERUTU,PENSU,PEEZI,BEETA,POINTO,BORUTO,HON,PONDO,HOORU,HOON,MAIKURO,MAIRU,MAHHA,MARUKU,MANSYON,MIKURON",
  "|SQUARE |MIRI,MIRIBAARU,MEGA,MEGATON,MEETORU,YAADO,YAARU,YUAN,RITTORU,RIRA,RUPII,RUUBURU,REMU,RENTOGEN,WATTO",
  "|IDEOGRAPHIC TELEGRAPH SYMBOL FOR HOUR |ZERO,ONE,TWO,THREE,FOUR,FIVE,SIX,SEVEN,EIGHT,NINE,TEN,ELEVEN",
  "|IDEOGRAPHIC TELEGRAPH SYMBOL FOR HOUR |TWELVE,THIRTEEN,FOURTEEN,FIFTEEN,SIXTEEN,SEVENTEEN,EIGHTEEN,NINETEEN,TWENTY",
  "|IDEOGRAPHIC TELEGRAPH SYMBOL FOR HOUR TWENTY-|ONE,TWO,THREE,FOUR",
  "|SQUARE |HPA,DA,AU,BAR,OV,PC,DM,DM SQUARED,DM CUBED,IU",
  "|SQUARE ERA NAME |HEISEI,SYOUWA,TAISYOU,MEIZI",
  "|SQUARE |CORPORATION,PA AMPS,NA,MU A,MA,KA,KB,MB,GB,CAL,KCAL,PF,NF,MU F,MU G,MG,KG",
  "|SQUARE |HZ,KHZ,MHZ,GHZ,THZ,MU L,ML,DL,KL,FM,NM,MU M,MM,CM,KM,MM SQUARED,CM SQUARED,M SQUARED,KM SQUARED,MM CUBED",
  "|SQUARE |CM CUBED,M CUBED,KM CUBED,M OVER S,M OVER S SQUARED,PA,KPA,MPA,GPA,RAD,RAD OVER S,RAD OVER S SQUARED",
  "|SQUARE |PS,NS,MU S,MS,PV,NV,MU V,MV,KV,MV MEGA,PW,NW,MU W,MW,KW,MW MEGA,K OHM,M OHM,AM,BQ,CC,CD,C OVER KG",
  "|SQUARE |CO,DB,GY,HA,HP,IN,KK,KM CAPITAL,KT,LM,LN,LOG,LX,MB SMALL,MIL,MOL,PH,PM,PPM,PR,SR,SV,WB,V OVER M,A OVER M",
  "|IDEOGRAPHIC TELEGRAPH SYMBOL FOR DAY |ONE,TWO,THREE,FOUR,FIVE,SIX,SEVEN,EIGHT,NINE,TEN,ELEVEN",
  "|IDEOGRAPHIC TELEGRAPH SYMBOL FOR DAY |TWELVE,THIRTEEN,FOURTEEN,FIFTEEN,SIXTEEN,SEVENTEEN,EIGHTEEN,NINETEEN,TWENTY",
  "|IDEOGRAPHIC TELEGRAPH SYMBOL FOR DAY TWENTY-|ONE,TWO,THREE,FOUR,FIVE,SIX,SEVEN,EIGHT,NINE",
  "|IDEOGRAPHIC TELEGRAPH SYMBOL FOR DAY |THIRTY,THIRTY-ONE",
  "||SQUARE GAL",
  "4DC0|HEXAGRAM FOR |THE CREATIVE HEAVEN,THE RECEPTIVE EARTH,DIFFICULTY AT THE BEGINNING",
  "|HEXAGRAM FOR |YOUTHFUL FOLLY,WAITING,CONFLICT,THE ARMY,HOLDING TOGETHER,SMALL TAMING,TREADING,PEACE",
  "|HEXAGRAM FOR |STANDSTILL,FELLOWSHIP,GREAT POSSESSION,MODESTY,ENTHUSIASM,FOLLOWING,WORK ON THE DECAYED,APPROACH",
  "|HEXAGRAM FOR |CONTEMPLATION,BITING THROUGH,GRACE,SPLITTING APART,RETURN,INNOCENCE,GREAT TAMING,MOUTH CORNERS",
  "|HEXAGRAM FOR |GREAT PREPONDERANCE,THE ABYSMAL WATER,THE CLINGING FIRE,INFLUENCE,DURATION,RETREAT,GREAT POWER",
  "|HEXAGRAM FOR |PROGRESS,DARKENING OF THE LIGHT,THE FAMILY,OPPOSITION,OBSTRUCTION,DELIVERANCE,DECREASE,INCREASE",
  "|HEXAGRAM FOR |BREAKTHROUGH,COMING TO MEET,GATHERING TOGETHER,PUSHING UPWARD,OPPRESSION,THE WELL,REVOLUTION",
  "|HEXAGRAM FOR THE |CAULDRON,AROUSING THUNDER,KEEPING STILL MOUNTAIN",
  "|HEXAGRAM FOR |DEVELOPMENT,THE MARRYING MAIDEN,ABUNDANCE,THE WANDERER,THE GENTLE WIND,THE JOYOUS LAKE",
  "|HEXAGRAM FOR |DISPERSION,LIMITATION,INNER TRUTH,SMALL PREPONDERANCE,AFTER COMPLETION,BEFORE COMPLETION",
  "A000|YI SYLLABLE |IT,IX,I,IP,IET,IEX,IE,IEP",
  "|YI SYLLABLE |AT,AX,A,AP,UOX,UO,UOP,OT,OX,O,OP,EX,E,WU,BIT,BIX,BI,BIP,BIET,BIEX,BIE,BIEP,BAT,BAX,BA,BAP,BUOX,BUO",
  "|YI SYLLABLE |BUOP,BOT,BOX,BO,BOP,BEX,BE,BEP,BUT,BUX,BU,BUP,BURX,BUR,BYT,BYX,BY,BYP,BYRX,BYR,PIT,PIX,PI,PIP,PIEX",
  "|YI SYLLABLE |PIE,PIEP,PAT,PAX,PA,PAP,PUOX,PUO,PUOP,POT,POX,PO,POP,PUT,PUX,PU,PUP,PURX,PUR,PYT,PYX,PY,PYP,PYRX,PYR",
  "|YI SYLLABLE |BBIT,BBIX,BBI,BBIP,BBIET,BBIEX,BBIE,BBIEP,BBAT,BBAX,BBA,BBAP,BBUOX,BBUO,BBUOP,BBOT,BBOX,BBO,BBOP,BBEX",
  "|YI SYLLABLE |BBE,BBEP,BBUT,BBUX,BBU,BBUP,BBURX,BBUR,BBYT,BBYX,BBY,BBYP,NBIT,NBIX,NBI,NBIP,NBIEX,NBIE,NBIEP,NBAT",
  "|YI SYLLABLE |NBAX,NBA,NBAP,NBOT,NBOX,NBO,NBOP,NBUT,NBUX,NBU,NBUP,NBURX,NBUR,NBYT,NBYX,NBY,NBYP,NBYRX,NBYR,HMIT",
  "|YI SYLLABLE |HMIX,HMI,HMIP,HMIEX,HMIE,HMIEP,HMAT,HMAX,HMA,HMAP,HMUOX,HMUO,HMUOP,HMOT,HMOX,HMO,HMOP,HMUT,HMUX,HMU",
  "|YI SYLLABLE |HMUP,HMURX,HMUR,HMYX,HMY,HMYP,HMYRX,HMYR,MIT,MIX,MI,MIP,MIEX,MIE,MIEP,MAT,MAX,MA,MAP,MUOT,MUOX,MUO",
  "|YI SYLLABLE |MUOP,MOT,MOX,MO,MOP,MEX,ME,MUT,MUX,MU,MUP,MURX,MUR,MYT,MYX,MY,MYP,FIT,FIX,FI,FIP,FAT,FAX,FA,FAP,FOX",
  "|YI SYLLABLE |FO,FOP,FUT,FUX,FU,FUP,FURX,FUR,FYT,FYX,FY,FYP,VIT,VIX,VI,VIP,VIET,VIEX,VIE,VIEP,VAT,VAX,VA,VAP,VOT",
  "|YI SYLLABLE |VOX,VO,VOP,VEX,VEP,VUT,VUX,VU,VUP,VURX,VUR,VYT,VYX,VY,VYP,VYRX,VYR,DIT,DIX,DI,DIP,DIEX,DIE,DIEP,DAT",
  "|YI SYLLABLE |DAX,DA,DAP,DUOX,DUO,DOT,DOX,DO,DOP,DEX,DE,DEP,DUT,DUX,DU,DUP,DURX,DUR,TIT,TIX,TI,TIP,TIEX,TIE,TIEP",
  "|YI SYLLABLE |TAT,TAX,TA,TAP,TUOT,TUOX,TUO,TUOP,TOT,TOX,TO,TOP,TEX,TE,TEP,TUT,TUX,TU,TUP,TURX,TUR,DDIT,DDIX,DDI",
  "|YI SYLLABLE |DDIP,DDIEX,DDIE,DDIEP,DDAT,DDAX,DDA,DDAP,DDUOX,DDUO,DDUOP,DDOT,DDOX,DDO,DDOP,DDEX,DDE,DDEP,DDUT,DDUX",
  "|YI SYLLABLE |DDU,DDUP,DDURX,DDUR,NDIT,NDIX,NDI,NDIP,NDIEX,NDIE,NDAT,NDAX,NDA,NDAP,NDOT,NDOX,NDO,NDOP,NDEX,NDE,NDEP",
  "|YI SYLLABLE |NDUT,NDUX,NDU,NDUP,NDURX,NDUR,HNIT,HNIX,HNI,HNIP,HNIET,HNIEX,HNIE,HNIEP,HNAT,HNAX,HNA,HNAP,HNUOX,HNUO",
  "|YI SYLLABLE |HNOT,HNOX,HNOP,HNEX,HNE,HNEP,HNUT,NIT,NIX,NI,NIP,NIEX,NIE,NIEP,NAX,NA,NAP,NUOX,NUO,NUOP,NOT,NOX,NO",
  "|YI SYLLABLE |NOP,NEX,NE,NEP,NUT,NUX,NU,NUP,NURX,NUR,HLIT,HLIX,HLI,HLIP,HLIEX,HLIE,HLIEP,HLAT,HLAX,HLA,HLAP,HLUOX",
  "|YI SYLLABLE |HLUO,HLUOP,HLOX,HLO,HLOP,HLEX,HLE,HLEP,HLUT,HLUX,HLU,HLUP,HLURX,HLUR,HLYT,HLYX,HLY,HLYP,HLYRX,HLYR",
  "|YI SYLLABLE |LIT,LIX,LI,LIP,LIET,LIEX,LIE,LIEP,LAT,LAX,LA,LAP,LUOT,LUOX,LUO,LUOP,LOT,LOX,LO,LOP,LEX,LE,LEP,LUT,LUX",
  "|YI SYLLABLE |LU,LUP,LURX,LUR,LYT,LYX,LY,LYP,LYRX,LYR,GIT,GIX,GI,GIP,GIET,GIEX,GIE,GIEP,GAT,GAX,GA,GAP,GUOT,GUOX",
  "|YI SYLLABLE |GUO,GUOP,GOT,GOX,GO,GOP,GET,GEX,GE,GEP,GUT,GUX,GU,GUP,GURX,GUR,KIT,KIX,KI,KIP,KIEX,KIE,KIEP,KAT,KAX",
  "|YI SYLLABLE |KA,KAP,KUOX,KUO,KUOP,KOT,KOX,KO,KOP,KET,KEX,KE,KEP,KUT,KUX,KU,KUP,KURX,KUR,GGIT,GGIX,GGI,GGIEX,GGIE",
  "|YI SYLLABLE |GGIEP,GGAT,GGAX,GGA,GGAP,GGUOT,GGUOX,GGUO,GGUOP,GGOT,GGOX,GGO,GGOP,GGET,GGEX,GGE,GGEP,GGUT,GGUX,GGU",
  "|YI SYLLABLE |GGUP,GGURX,GGUR,MGIEX,MGIE,MGAT,MGAX,MGA,MGAP,MGUOX,MGUO,MGUOP,MGOT,MGOX,MGO,MGOP,MGEX,MGE,MGEP,MGUT",
  "|YI SYLLABLE |MGUX,MGU,MGUP,MGURX,MGUR,HXIT,HXIX,HXI,HXIP,HXIET,HXIEX,HXIE,HXIEP,HXAT,HXAX,HXA,HXAP,HXUOT,HXUOX",
  "|YI SYLLABLE |HXUO,HXUOP,HXOT,HXOX,HXO,HXOP,HXEX,HXE,HXEP,NGIEX,NGIE,NGIEP,NGAT,NGAX,NGA,NGAP,NGUOT,NGUOX,NGUO,NGOT",
  "|YI SYLLABLE |NGOX,NGO,NGOP,NGEX,NGE,NGEP,HIT,HIEX,HIE,HAT,HAX,HA,HAP,HUOT,HUOX,HUO,HUOP,HOT,HOX,HO,HOP,HEX,HE,HEP",
  "|YI SYLLABLE |WAT,WAX,WA,WAP,WUOX,WUO,WUOP,WOX,WO,WOP,WEX,WE,WEP,ZIT,ZIX,ZI,ZIP,ZIEX,ZIE,ZIEP,ZAT,ZAX,ZA,ZAP,ZUOX",
  "|YI SYLLABLE |ZUO,ZUOP,ZOT,ZOX,ZO,ZOP,ZEX,ZE,ZEP,ZUT,ZUX,ZU,ZUP,ZURX,ZUR,ZYT,ZYX,ZY,ZYP,ZYRX,ZYR,CIT,CIX,CI,CIP",
  "|YI SYLLABLE |CIET,CIEX,CIE,CIEP,CAT,CAX,CA,CAP,CUOX,CUO,CUOP,COT,COX,CO,COP,CEX,CE,CEP,CUT,CUX,CU,CUP,CURX,CUR,CYT",
  "|YI SYLLABLE |CYX,CY,CYP,CYRX,CYR,ZZIT,ZZIX,ZZI,ZZIP,ZZIET,ZZIEX,ZZIE,ZZIEP,ZZAT,ZZAX,ZZA,ZZAP,ZZOX,ZZO,ZZOP,ZZEX",
  "|YI SYLLABLE |ZZE,ZZEP,ZZUX,ZZU,ZZUP,ZZURX,ZZUR,ZZYT,ZZYX,ZZY,ZZYP,ZZYRX,ZZYR,NZIT,NZIX,NZI,NZIP,NZIEX,NZIE,NZIEP",
  "|YI SYLLABLE |NZAT,NZAX,NZA,NZAP,NZUOX,NZUO,NZOX,NZOP,NZEX,NZE,NZUX,NZU,NZUP,NZURX,NZUR,NZYT,NZYX,NZY,NZYP,NZYRX",
  "|YI SYLLABLE |NZYR,SIT,SIX,SI,SIP,SIEX,SIE,SIEP,SAT,SAX,SA,SAP,SUOX,SUO,SUOP,SOT,SOX,SO,SOP,SEX,SE,SEP,SUT,SUX,SU",
  "|YI SYLLABLE |SUP,SURX,SUR,SYT,SYX,SY,SYP,SYRX,SYR,SSIT,SSIX,SSI,SSIP,SSIEX,SSIE,SSIEP,SSAT,SSAX,SSA,SSAP,SSOT,SSOX",
  "|YI SYLLABLE |SSO,SSOP,SSEX,SSE,SSEP,SSUT,SSUX,SSU,SSUP,SSYT,SSYX,SSY,SSYP,SSYRX,SSYR,ZHAT,ZHAX,ZHA,ZHAP,ZHUOX,ZHUO",
  "|YI SYLLABLE |ZHUOP,ZHOT,ZHOX,ZHO,ZHOP,ZHET,ZHEX,ZHE,ZHEP,ZHUT,ZHUX,ZHU,ZHUP,ZHURX,ZHUR,ZHYT,ZHYX,ZHY,ZHYP,ZHYRX",
  "|YI SYLLABLE |ZHYR,CHAT,CHAX,CHA,CHAP,CHUOT,CHUOX,CHUO,CHUOP,CHOT,CHOX,CHO,CHOP,CHET,CHEX,CHE,CHEP,CHUX,CHU,CHUP",
  "|YI SYLLABLE |CHURX,CHUR,CHYT,CHYX,CHY,CHYP,CHYRX,CHYR,RRAX,RRA,RRUOX,RRUO,RROT,RROX,RRO,RROP,RRET,RREX,RRE,RREP",
  "|YI SYLLABLE |RRUT,RRUX,RRU,RRUP,RRURX,RRUR,RRYT,RRYX,RRY,RRYP,RRYRX,RRYR,NRAT,NRAX,NRA,NRAP,NROX,NRO,NROP,NRET",
  "|YI SYLLABLE |NREX,NRE,NREP,NRUT,NRUX,NRU,NRUP,NRURX,NRUR,NRYT,NRYX,NRY,NRYP,NRYRX,NRYR,SHAT,SHAX,SHA,SHAP,SHUOX",
  "|YI SYLLABLE |SHUO,SHUOP,SHOT,SHOX,SHO,SHOP,SHET,SHEX,SHE,SHEP,SHUT,SHUX,SHU,SHUP,SHURX,SHUR,SHYT,SHYX,SHY,SHYP",
  "|YI SYLLABLE |SHYRX,SHYR,RAT,RAX,RA,RAP,RUOX,RUO,RUOP,ROT,ROX,RO,ROP,REX,RE,REP,RUT,RUX,RU,RUP,RURX,RUR,RYT,RYX",
  "|YI SYLLABLE |RY,RYP,RYRX,RYR,JIT,JIX,JI,JIP,JIET,JIEX,JIE,JIEP,JUOT,JUOX,JUO,JUOP,JOT,JOX,JO,JOP,JUT,JUX,JU,JUP",
  "|YI SYLLABLE |JURX,JUR,JYT,JYX,JY,JYP,JYRX,JYR,QIT,QIX,QI,QIP,QIET,QIEX,QIE,QIEP,QUOT,QUOX,QUO,QUOP,QOT,QOX,QO,QOP",
  "|YI SYLLABLE |QUT,QUX,QU,QUP,QURX,QUR,QYT,QYX,QY,QYP,QYRX,QYR,JJIT,JJIX,JJI,JJIP,JJIET,JJIEX,JJIE,JJIEP,JJUOX,JJUO",
  "|YI SYLLABLE |JJUOP,JJOT,JJOX,JJO,JJOP,JJUT,JJUX,JJU,JJUP,JJURX,JJUR,JJYT,JJYX,JJY,JJYP,NJIT,NJIX,NJI,NJIP,NJIET",
  "|YI SYLLABLE |NJIEX,NJIE,NJIEP,NJUOX,NJUO,NJOT,NJOX,NJO,NJOP,NJUX,NJU,NJUP,NJURX,NJUR,NJYT,NJYX,NJY,NJYP,NJYRX",
  "|YI SYLLABLE |NJYR,NYIT,NYIX,NYI,NYIP,NYIET,NYIEX,NYIE,NYIEP,NYUOX,NYUO,NYUOP,NYOT,NYOX,NYO,NYOP,NYUT,NYUX,NYU",
  "|YI SYLLABLE |NYUP,XIT,XIX,XI,XIP,XIET,XIEX,XIE,XIEP,XUOX,XUO,XOT,XOX,XO,XOP,XYT,XYX,XY,XYP,XYRX,XYR,YIT,YIX,YI,YIP",
  "|YI SYLLABLE |YIET,YIEX,YIE,YIEP,YUOT,YUOX,YUO,YUOP,YOT,YOX,YO,YOP,YUT,YUX,YU,YUP,YURX,YUR,YYT,YYX,YY,YYP,YYRX,YYR",
  "A490|YI RADICAL |QOT,LI,KIT,NYIP,CYP,SSI",
  "|YI RADICAL |GGOP,GEP,MI,HXIT,LYR,BBUT,MOP,YO,PUT,HXUO,TAT,GA,ZUP,CYT,DDUR,BUR,GGUO,NYOP,TU,OP,JJUT,ZOT,PYT,HMO,YIT",
  "|YI RADICAL |VUR,SHY,VEP,ZA,JO,NZUP,JJY,GOT,JJIE,WO,DU,SHUR,LIE,CY,CUOP,CIP,HXOP,SHAT,ZUR,SHOP,CHE,ZZIET,NBIE,KE",
  "A4D0|LISU LETTER |BA,PA,PHA,DA,TA,THA,GA,KA,KHA,JA,CA,CHA,DZA,TSA,TSHA",
  "|LISU LETTER |MA,NA,LA,SA,ZHA,ZA,NGA,HA,XA,HHA,FA,WA,SHA,YA,GHA,A,AE,E,EU,I,O,U,UE,UH,OE,TONE MYA TI,TONE NA PO",
  "|LISU LETTER TONE MYA |CYA,BO,NA,JEU",
  "|LISU PUNCTUATION |COMMA,FULL STOP",
  "|VAI SYLLABLE |EE,EEN,HEE,WEE,WEEN,PEE,BHEE",
  "|VAI SYLLABLE |BEE,MBEE,KPEE,MGBEE,GBEE,FEE,VEE,TEE,THEE,DHEE,DHHEE,LEE,REE,DEE,NDEE,SEE,SHEE,ZEE,ZHEE,CEE,JEE,NJEE",
  "|VAI SYLLABLE |YEE,KEE,NGGEE,GEE,MEE,NEE,NYEE,I,IN,HI,HIN,WI,WIN,PI,BHI,BI,MBI,KPI,MGBI,GBI,FI,VI,TI,THI,DHI,DHHI",
  "|VAI SYLLABLE |LI,RI,DI,NDI,SI,SHI,ZI,ZHI,CI,JI,NJI,YI,KI,NGGI,GI,MI,NI,NYI,A,AN,NGAN,HA,HAN,WA,WAN,PA,BHA,BA,MBA",
  "|VAI SYLLABLE |KPA,KPAN,MGBA,GBA,FA,VA,TA,THA,DHA,DHHA,LA,RA,DA,NDA,SA,SHA,ZA,ZHA,CA,JA,NJA,YA,KA,KAN,NGGA,GA,MA",
  "|VAI SYLLABLE |NA,NYA,OO,OON,HOO,WOO,WOON,POO,BHOO,BOO,MBOO,KPOO,MGBOO,GBOO,FOO,VOO,TOO,THOO,DHOO,DHHOO,LOO,ROO,DOO",
  "|VAI SYLLABLE |NDOO,SOO,SHOO,ZOO,ZHOO,COO,JOO,NJOO,YOO,KOO,NGGOO,GOO,MOO,NOO,NYOO,U,UN,HU,HUN,WU,WUN,PU,BHU,BU,MBU",
  "|VAI SYLLABLE |KPU,MGBU,GBU,FU,VU,TU,THU,DHU,DHHU,LU,RU,DU,NDU,SU,SHU,ZU,ZHU,CU,JU,NJU,YU,KU,NGGU,GU,MU,NU,NYU,O,ON",
  "|VAI SYLLABLE |NGON,HO,HON,WO,WON,PO,BHO,BO,MBO,KPO,MGBO,GBO,GBON,FO,VO,TO,THO,DHO,DHHO,LO,RO,DO,NDO,SO,SHO,ZO,ZHO",
  "|VAI SYLLABLE |CO,JO,NJO,YO,KO,NGGO,GO,MO,NO,NYO,E,EN,NGEN,HE,HEN,WE,WEN,PE,BHE,BE,MBE,KPE,KPEN,MGBE,GBE,GBEN,FE,VE",
  "|VAI SYLLABLE |TE,THE,DHE,DHHE,LE,RE,DE,NDE,SE,SHE,ZE,ZHE,CE,JE,NJE,YE,KE,NGGE,NGGEN,GE,GEN,ME,NE,NYE,NG,LENGTHENER",
  "|VAI |COMMA,FULL STOP,QUESTION MARK",
  "|VAI SYLLABLE NDOLE |FA,KA,SOO",
  "|VAI SYMBOL |FEENG,KEENG,TING,NII,BANG,FAA,TAA,DANG,DOONG,KUNG,TONG,DO-O,JONG",
  "|VAI DIGIT |ZERO,ONE,TWO,THREE,FOUR,FIVE,SIX,SEVEN,EIGHT,NINE",
  "|VAI SYLLABLE NDOLE |MA,DO",
  "A640|CYRILLIC CAPITAL/SMALL LETTER |ZEMLYA,DZELO,REVERSED DZE",
  "|CYRILLIC CAPITAL/SMALL LETTER |IOTA,DJERV,MONOGRAPH UK,BROAD OMEGA,NEUTRAL YER,YERU WITH BACK YER,IOTIFIED YAT",
  "|CYRILLIC CAPITAL/SMALL LETTER |REVERSED YU,IOTIFIED A,CLOSED LITTLE YUS,BLENDED YUS,IOTIFIED CLOSED LITTLE YUS",
  "|CYRILLIC CAPITAL/SMALL LETTER |YN,REVERSED TSE,SOFT DE,SOFT EL,SOFT EM,MONOCULAR O,BINOCULAR O,DOUBLE MONOCULAR O",
  "||CYRILLIC LETTER MULTIOCULAR O",
  "|COMBINING CYRILLIC |VZMET,TEN MILLIONS SIGN,HUNDRED MILLIONS SIGN,THOUSAND MILLIONS SIGN",
  "||SLAVONIC ASTERISK",
  "|COMBINING CYRILLIC LETTER |UKRAINIAN IE,I,YI,U,HARD SIGN,YERU,SOFT SIGN,OMEGA",
  "|COMBINING CYRILLIC |KAVYKA,PAYEROK",
  "|CYRILLIC |KAVYKA,PAYEROK",
  "|CYRILLIC CAPITAL/SMALL LETTER |DWE,DZWE",
  "|CYRILLIC CAPITAL/SMALL LETTER |ZHWE,CCHE,DZZE,TE WITH MIDDLE HOOK,TWE,TSWE,TSSE,TCHE,HWE,SHWE,DOUBLE O,CROSSED O",
  "|MODIFIER LETTER CYRILLIC |HARD SIGN,SOFT SIGN",
  "|COMBINING CYRILLIC LETTER |EF,IOTIFIED E",
  "|BAMUM LETTER |A,KA,U,KU,EE,REE,TAE,O,NYI,I",
  "|BAMUM LETTER |LA,PA,RII,RIEE,LEEEE,MEEEE,TAA,NDAA,NJAEM,M,SUU,MU,SHII,SI,SHEUX,SEUX,KYEE,KET,NUAE,NU,NJUAE,YOQ,SHU",
  "|BAMUM LETTER |YUQ,YA,NSHA,KEUX,PEUX,NJEE,NTEE,PUE,WUE,PEE,FEE,RU,LU,MI,NI,REUX,RAE,KEN,NGKWAEN,NGGA,NGA,SHO,PUAE",
  "|BAMUM LETTER |FU,FOM,WA,NA,LI,PI,LOQ,KO,MBEN,REN,MEN,MA,TI,KI,MO,MBAA,TET,KPA,TEN,NTUU,SAMBA,FAAMAE,KOVUU,KOGHOM",
  "|BAMUM COMBINING MARK |KOQNDON,TUKWENTIS",
  "|BAMUM |NJAEMLI,FULL STOP,COLON,COMMA,SEMICOLON,QUESTION MARK",
  "A700|MODIFIER LETTER CHINESE TONE |YIN PING,YANG PING,YIN SHANG,YANG SHANG,YIN QU,YANG QU,YIN RU,YANG RU",
  "|MODIFIER LETTER |EXTRA-HIGH DOTTED TONE BAR,HIGH DOTTED TONE BAR,MID DOTTED TONE BAR,LOW DOTTED TONE BAR",
  "|MODIFIER LETTER EXTRA-|LOW DOTTED TONE BAR,HIGH DOTTED LEFT-STEM TONE BAR",
  "|MODIFIER LETTER |HIGH DOTTED LEFT-STEM TONE BAR,MID DOTTED LEFT-STEM TONE BAR,LOW DOTTED LEFT-STEM TONE BAR",
  "|MODIFIER LETTER |EXTRA-LOW DOTTED LEFT-STEM TONE BAR,EXTRA-HIGH LEFT-STEM TONE BAR,HIGH LEFT-STEM TONE BAR",
  "|MODIFIER LETTER |MID LEFT-STEM TONE BAR,LOW LEFT-STEM TONE BAR,EXTRA-LOW LEFT-STEM TONE BAR",
  "|MODIFIER LETTER |DOT VERTICAL BAR,DOT SLASH,DOT HORIZONTAL BAR,LOWER RIGHT CORNER ANGLE",
  "|MODIFIER LETTER RAISED |UP ARROW,DOWN ARROW,EXCLAMATION MARK,INVERTED EXCLAMATION MARK",
  "|MODIFIER LETTER |LOW INVERTED EXCLAMATION MARK,STRESS AND HIGH TONE,STRESS AND LOW TONE",
  "|LATIN CAPITAL/SMALL LETTER |EGYPTOLOGICAL ALEF,EGYPTOLOGICAL AIN,HENG,TZ,TRESILLO,CUATRILLO,CUATRILLO WITH COMMA",
  "|LATIN LETTER SMALL CAPITAL |F,S",
  "|LATIN CAPITAL/SMALL LETTER |AA,AO,AU,AV,AV WITH HORIZONTAL BAR,AY,REVERSED C WITH DOT",
  "|LATIN CAPITAL/SMALL LETTER K WITH |STROKE,DIAGONAL STROKE,STROKE AND DIAGONAL STROKE",
  "|LATIN CAPITAL/SMALL LETTER |BROKEN L,L WITH HIGH STROKE,O WITH LONG STROKE OVERLAY,O WITH LOOP,OO",
  "|LATIN CAPITAL/SMALL LETTER P WITH |STROKE THROUGH DESCENDER,FLOURISH,SQUIRREL TAIL",
  "|LATIN CAPITAL/SMALL LETTER Q WITH |STROKE THROUGH DESCENDER,DIAGONAL STROKE",
  "|LATIN CAPITAL/SMALL LETTER |R ROTUNDA,RUM ROTUNDA,V WITH DIAGONAL STROKE",
  "|LATIN CAPITAL/SMALL LETTER |VY,VISIGOTHIC Z,THORN WITH STROKE,THORN WITH STROKE THROUGH DESCENDER,VEND,ET,IS,CON",
  "||MODIFIER LETTER US",
  "|LATIN SMALL LETTER |DUM,LUM,MUM,NUM,RUM",
  "|LATIN |LETTER SMALL CAPITAL RUM,SMALL LETTER TUM,SMALL LETTER UM",
  "|LATIN CAPITAL/SMALL LETTER INSULAR |D,F",
  "||LATIN CAPITAL LETTER INSULAR G",
  "|LATIN CAPITAL/SMALL LETTER |TURNED INSULAR G,TURNED L,INSULAR R,INSULAR S,INSULAR T",
  "|MODIFIER LETTER |LOW CIRCUMFLEX ACCENT,COLON,SHORT EQUALS SIGN",
  "|LATIN CAPITAL/SMALL |LETTER SALTILLO",
  "|LATIN |CAPITAL LETTER TURNED H,SMALL LETTER L WITH RETROFLEX HOOK AND BELT,LETTER SINOLOGICAL DOT",
  "|LATIN CAPITAL/SMALL LETTER |N WITH DESCENDER,C WITH BAR",
  "|LATIN SMALL LETTER |C WITH PALATAL HOOK,H WITH PALATAL HOOK",
  "|LATIN CAPITAL/SMALL LETTER |B WITH FLOURISH,F WITH STROKE",
  "|LATIN CAPITAL/SMALL LETTER |VOLAPUK AE,VOLAPUK OE,VOLAPUK UE,G WITH OBLIQUE STROKE,K WITH OBLIQUE STROKE",
  "|LATIN CAPITAL/SMALL LETTER |N WITH OBLIQUE STROKE,R WITH OBLIQUE STROKE,S WITH OBLIQUE STROKE",
  "|LATIN CAPITAL LETTER |H WITH HOOK,REVERSED OPEN E,SCRIPT G,L WITH BELT,SMALL CAPITAL I",
  "||LATIN LETTER SMALL CAPITAL Q",
  "|LATIN CAPITAL LETTER |TURNED K,TURNED T,J WITH CROSSED-TAIL,CHI",
  "|LATIN CAPITAL/SMALL LETTER |BETA,OMEGA,U WITH STROKE,GLOTTAL A,GLOTTAL I,GLOTTAL U,OLD POLISH O,ANGLICANA W",
  "|LATIN CAPITAL LETTER |C WITH PALATAL HOOK,S WITH HOOK,Z WITH PALATAL HOOK",
  "|LATIN CAPITAL/SMALL LETTER |D WITH SHORT STROKE OVERLAY,S WITH SHORT STROKE OVERLAY",
  "A7D0|LATIN CAPITAL/SMALL |LETTER CLOSED INSULAR G",
  "A7D3|LATIN SMALL LETTER DOUBLE |THORN,,WYNN",
  "|LATIN CAPITAL/SMALL LETTER |MIDDLE SCOTS S,SIGMOID S",
  "A7F2|MODIFIER LETTER CAPITAL |C,F,Q",
  "|LATIN CAPITAL/SMALL |LETTER REVERSED HALF H",
  "||LATIN EPIGRAPHIC LETTER SIDEWAYS I",
  "|MODIFIER LETTER |CAPITAL H WITH STROKE,SMALL LIGATURE OE",
  "||LATIN LETTER SMALL CAPITAL TURNED M",
  "|LATIN EPIGRAPHIC LETTER |REVERSED F,REVERSED P,INVERTED M,I LONGA,ARCHAIC M",
  "|SYLOTI NAGRI |LETTER A,LETTER I,SIGN DVISVARA,LETTER U,LETTER E,LETTER O,SIGN HASANTA",
  "|SYLOTI NAGRI LETTER |KO,KHO,GO,GHO",
  "||SYLOTI NAGRI SIGN ANUSVARA",
  "|SYLOTI NAGRI LETTER |CO,CHO,JO,JHO,TTO,TTHO,DDO,DDHO,TO,THO,DO,DHO,NO,PO,PHO,BO,BHO,MO,RO,LO,RRO,SO,HO",
  "|SYLOTI NAGRI VOWEL SIGN |A,I,U,E,OO",
  "|SYLOTI NAGRI POETRY MARK-|1,2,3,4",
  "||SYLOTI NAGRI SIGN ALTERNATE HASANTA",
  "A830|NORTH INDIC FRACTION |ONE QUARTER,ONE HALF,THREE QUARTERS,ONE SIXTEENTH,ONE EIGHTH,THREE SIXTEENTHS",
  "|NORTH INDIC |QUARTER MARK,PLACEHOLDER MARK,RUPEE MARK,QUANTITY MARK",
  "A840|PHAGS-PA LETTER |KA,KHA,GA,NGA,CA,CHA,JA,NYA,TA,THA",
  "|PHAGS-PA LETTER |DA,NA,PA,PHA,BA,MA,TSA,TSHA,DZA,WA,ZHA,ZA,SMALL A,YA,RA,LA,SHA,SA,HA,A,I,U,E,O,QA,XA,FA,GGA,EE",
  "|PHAGS-PA SUBJOINED LETTER |WA,YA",
  "|PHAGS-PA LETTER |TTA,TTHA,DDA,NNA,ALTERNATE YA,VOICELESS SHA,VOICED HA,ASPIRATED FA",
  "|PHAGS-PA |SUBJOINED LETTER RA,SUPERFIXED LETTER RA,LETTER CANDRABINDU,SINGLE HEAD MARK,DOUBLE HEAD MARK",
  "|PHAGS-PA MARK |SHAD,DOUBLE SHAD",
  "A880|SAURASHTRA SIGN |ANUSVARA,VISARGA",
  "|SAURASHTRA LETTER |A,AA,I,II,U,UU,VOCALIC R,VOCALIC RR,VOCALIC L,VOCALIC LL,E,EE,AI,O,OO,AU,KA,KHA,GA,GHA,NGA,CA",
  "|SAURASHTRA LETTER |CHA,JA,JHA,NYA,TTA,TTHA,DDA,DDHA,NNA,TA,THA,DA,DHA,NA,PA,PHA,BA,BHA,MA,YA,RA,LA,VA,SHA,SSA,SA",
  "|SAURASHTRA |LETTER HA,LETTER LLA,CONSONANT SIGN HAARU",
  "|SAURASHTRA VOWEL SIGN |AA,I,II,U,UU,VOCALIC R,VOCALIC RR,VOCALIC L,VOCALIC LL,E,EE,AI,O,OO,AU",
  "|SAURASHTRA SIGN |VIRAMA,CANDRABINDU",
  "A8CE|SAURASHTRA |DANDA,DOUBLE DANDA",
  "|SAURASHTRA DIGIT |ZERO,ONE,TWO,THREE,FOUR,FIVE,SIX,SEVEN,EIGHT,NINE",
  "A8E0|COMBINING DEVANAGARI DIGIT |ZERO,ONE,TWO,THREE,FOUR,FIVE,SIX,SEVEN,EIGHT,NINE",
  "|COMBINING DEVANAGARI LETTER |A,U,KA,NA,PA,RA,VI",
  "||COMBINING DEVANAGARI SIGN AVAGRAHA",
  "|DEVANAGARI SIGN |SPACING CANDRABINDU,CANDRABINDU VIRAMA,DOUBLE CANDRABINDU VIRAMA",
  "|DEVANAGARI SIGN CANDRABINDU |TWO,THREE,AVAGRAHA",
  "|DEVANAGARI |SIGN PUSHPIKA,GAP FILLER,CARET,HEADSTROKE,SIGN SIDDHAM,JAIN OM,LETTER AY,VOWEL SIGN AY",
  "|KAYAH LI DIGIT |ZERO,ONE,TWO,THREE,FOUR,FIVE,SIX,SEVEN,EIGHT,NINE",
  "|KAYAH LI LETTER |KA,KHA,GA,NGA,SA,SHA,ZA,NYA,TA,HTA,NA,PA,PHA,MA,DA,BA,RA,YA,LA,WA,THA,HA,VA,CA,A,OE,I,OO",
  "|KAYAH LI VOWEL |UE,E,U,EE,O",
  "|KAYAH LI |TONE PLOPHU,TONE CALYA,TONE CALYA PLOPHU,SIGN CWI,SIGN SHYA",
  "|REJANG LETTER |KA,GA,NGA,TA,DA,NA,PA,BA,MA,CA,JA,NYA,SA,RA,LA,YA,WA,HA,MBA,NGGA,NDA,NYJA,A",
  "|REJANG VOWEL SIGN |I,U,E,AI,O,AU,EU,EA",
  "|REJANG CONSONANT SIGN |NG,N,R,H",
  "||REJANG VIRAMA",
  "A95F||REJANG SECTION MARK",
  "|HANGUL CHOSEONG |TIKEUT-MIEUM,TIKEUT-PIEUP,TIKEUT-SIOS,TIKEUT-CIEUC,RIEUL-KIYEOK",
  "|HANGUL CHOSEONG RIEUL-|SSANGKIYEOK,TIKEUT,SSANGTIKEUT,MIEUM,PIEUP,SSANGPIEUP,KAPYEOUNPIEUP,SIOS,CIEUC,KHIEUKH",
  "|HANGUL CHOSEONG |MIEUM-KIYEOK,MIEUM-TIKEUT,MIEUM-SIOS,PIEUP-SIOS-THIEUTH,PIEUP-KHIEUKH,PIEUP-HIEUH,SSANGSIOS-PIEUP",
  "|HANGUL CHOSEONG |IEUNG-RIEUL,IEUNG-HIEUH,SSANGCIEUC-HIEUH,SSANGTHIEUTH,PHIEUPH-HIEUH,HIEUH-SIOS,SSANGYEORINHIEUH",
  "A980|JAVANESE SIGN |PANYANGGA,CECAK,LAYAR,WIGNYAN",
  "|JAVANESE LETTER |A,I KAWI,I,II,U,PA CEREK,NGA LELET,NGA LELET RASWADI,E,AI,O,KA,KA SASAK,KA MURDA,GA,GA MURDA",
  "|JAVANESE LETTER |NGA,CA,CA MURDA,JA,NYA MURDA,JA MAHAPRANA,NYA,TTA,TTA MAHAPRANA,DDA,DDA MAHAPRANA,NA MURDA,TA",
  "|JAVANESE LETTER |TA MURDA,DA,DA MAHAPRANA,NA,PA,PA MURDA,BA,BA MURDA,MA,YA,RA,RA AGUNG,LA,WA,SA MURDA,SA MAHAPRANA",
  "|JAVANESE |LETTER SA,LETTER HA,SIGN CECAK TELU",
  "|JAVANESE VOWEL SIGN |TARUNG,TOLONG,WULU,WULU MELIK,SUKU,SUKU MENDUT,TALING,DIRGA MURE,PEPET",
  "|JAVANESE CONSONANT SIGN |KERET,PENGKAL,CAKRA",
  "|JAVANESE |PANGKON,LEFT RERENGGAN,RIGHT RERENGGAN",
  "|JAVANESE PADA |ANDAP,MADYA,LUHUR,WINDU,PANGKAT,LINGSA,LUNGSI,ADEG,ADEG ADEG,PISELEH",
  "|JAVANESE |TURNED PADA PISELEH,,PANGRANGKEP",
  "|JAVANESE DIGIT |ZERO,ONE,TWO,THREE,FOUR,FIVE,SIX,SEVEN,EIGHT,NINE",
  "A9DE|JAVANESE PADA |TIRTA TUMETES,ISEN-ISEN",
  "|MYANMAR LETTER SHAN |GHA,CHA,JHA,NNA,BHA",
  "|MYANMAR |SIGN SHAN SAW,MODIFIER LETTER SHAN REDUPLICATION",
  "|MYANMAR LETTER TAI LAING |NYA,FA,GA,GHA,JA,JHA,DDA,DDHA,NNA",
  "|MYANMAR TAI LAING DIGIT |ZERO,ONE,TWO,THREE,FOUR,FIVE,SIX,SEVEN,EIGHT,NINE",
  "|MYANMAR LETTER TAI LAING |LLA,DA,DHA,BA,BHA",
  "AA00|CHAM LETTER |A,I,U,E,AI,O,KA,KHA,GA,GHA,NGUE,NGA,CHA",
  "|CHAM LETTER |CHHA,JA,JHA,NHUE,NHA,NHJA,TA,THA,DA,DHA,NUE,NA,DDA,PA,PPA,PHA,BA,BHA,MUE,MA,BBA,YA,RA,LA,VA,SSA,SA,HA",
  "|CHAM VOWEL SIGN |AA,I,II,EI,U,OE,O,AI,AU,UE",
  "|CHAM CONSONANT SIGN |YA,RA,LA,WA",
  "AA40|CHAM LETTER FINAL |K,G,NG",
  "||CHAM CONSONANT SIGN FINAL NG",
  "|CHAM LETTER FINAL |CH,T,N,P,Y,R,L,SS",
  "|CHAM CONSONANT SIGN FINAL |M,H",
  "AA50|CHAM DIGIT |ZERO,ONE,TWO,THREE,FOUR,FIVE,SIX,SEVEN,EIGHT,NINE",
  "AA5C|CHAM PUNCTUATION |SPIRAL,DANDA,DOUBLE DANDA,TRIPLE DANDA",
  "|MYANMAR LETTER KHAMTI |GA,CA,CHA,JA,JHA,NYA,TTA,TTHA,DDA,DDHA,DHA,NA,SA,HA,HHA,FA",
  "||MYANMAR MODIFIER LETTER KHAMTI REDUPLICATION",
  "|MYANMAR LETTER KHAMTI |XA,ZA,RA",
  "|MYANMAR LOGOGRAM KHAMTI |OAY,QN,HM",
  "|MYANMAR SYMBOL AITON |EXCLAMATION,ONE,TWO",
  "|MYANMAR |LETTER AITON RA,SIGN PAO KAREN TONE",
  "|MYANMAR SIGN TAI LAING TONE-|2,5",
  "|MYANMAR LETTER SHWE PALAUNG |CHA,SHA",
  "|TAI VIET LETTER |LOW KO,HIGH KO,LOW KHO,HIGH KHO,LOW KHHO,HIGH KHHO,LOW GO,HIGH GO,LOW NGO,HIGH NGO,LOW CO",
  "|TAI VIET LETTER |HIGH CO,LOW CHO,HIGH CHO,LOW SO,HIGH SO,LOW NYO,HIGH NYO,LOW DO,HIGH DO,LOW TO,HIGH TO,LOW THO",
  "|TAI VIET LETTER |HIGH THO,LOW NO,HIGH NO,LOW BO,HIGH BO,LOW PO,HIGH PO,LOW PHO,HIGH PHO,LOW FO,HIGH FO,LOW MO",
  "|TAI VIET LETTER |HIGH MO,LOW YO,HIGH YO,LOW RO,HIGH RO,LOW LO,HIGH LO,LOW VO,HIGH VO,LOW HO,HIGH HO,LOW O,HIGH O",
  "|TAI VIET |MAI KANG,VOWEL AA,VOWEL I,VOWEL UE,VOWEL U,VOWEL E,VOWEL O,MAI KHIT",
  "|TAI VIET VOWEL |IA,UEA,UA,AUE,AY,AN,AM",
  "|TAI VIET TONE MAI |EK,NUENG,THO,SONG",
  "AADB|TAI VIET SYMBOL |KON,NUENG,SAM,HO HOI,KOI KOI",
  "|MEETEI MAYEK LETTER |E,O,CHA,NYA,TTA,TTHA,DDA,DDHA,NNA,SHA,SSA",
  "|MEETEI MAYEK VOWEL SIGN |II,UU,AAI,AU,AAU",
  "|MEETEI MAYEK |CHEIKHAN,AHANG KHUDAM,ANJI,SYLLABLE REPETITION MARK,WORD REPETITION MARK,VOWEL SIGN VISARGA,VIRAMA",
  "AB01||ETHIOPIC SYLLABLE TTHU",
  "|ETHIOPIC SYLLABLE |TTHI,TTHAA,TTHEE,TTHE,TTHO,,,DDHU,DDHI,DDHAA,DDHEE,DDHE,DDHO,,,DZU,DZI,DZAA,DZEE,DZE,DZO",
  "AB20|ETHIOPIC SYLLABLE |CCHHA,CCHHU,CCHHI,CCHHAA,CCHHEE,CCHHE,CCHHO,,BBA,BBU,BBI,BBAA,BBEE,BBE,BBO",
  "AB30|LATIN SMALL LETTER |BARRED ALPHA,A REVERSED-SCHWA,BLACKLETTER E",
  "|LATIN SMALL LETTER |BARRED E,E WITH FLOURISH,LENIS F,SCRIPT G WITH CROSSED-TAIL,L WITH INVERTED LAZY S",
  "|LATIN SMALL LETTER |L WITH DOUBLE MIDDLE TILDE,L WITH MIDDLE RING,M WITH CROSSED-TAIL,N WITH CROSSED-TAIL",
  "|LATIN SMALL LETTER |ENG WITH CROSSED-TAIL,BLACKLETTER O,BLACKLETTER O WITH STROKE,OPEN O WITH STROKE,INVERTED OE",
  "|LATIN SMALL LETTER TURNED |OE WITH STROKE,OE WITH HORIZONTAL STROKE,O OPEN-O,O OPEN-O WITH STROKE",
  "|LATIN |SMALL LETTER STIRRUP R,LETTER SMALL CAPITAL R WITH RIGHT LEG",
  "|LATIN SMALL LETTER |R WITHOUT HANDLE,DOUBLE R,R WITH CROSSED-TAIL,DOUBLE R WITH CROSSED-TAIL,SCRIPT R",
  "|LATIN SMALL LETTER |SCRIPT R WITH RING,BASELINE ESH,U WITH SHORT RIGHT LEG,U BAR WITH SHORT RIGHT LEG,UI,TURNED UI",
  "|LATIN SMALL LETTER |U WITH LEFT HOOK,CHI,CHI WITH LOW RIGHT RING,CHI WITH LOW LEFT SERIF,X WITH LOW RIGHT RING",
  "|LATIN SMALL LETTER X WITH LONG LEFT |LEG,LEG AND LOW RIGHT RING,LEG WITH SERIF",
  "||LATIN SMALL LETTER Y WITH SHORT RIGHT LEG,MODIFIER BREVE WITH INVERTED BREVE",
  "|MODIFIER LETTER SMALL |HENG,L WITH INVERTED LAZY S,L WITH MIDDLE TILDE,U WITH LEFT HOOK",
  "|LATIN SMALL LETTER |SAKHA YAT,IOTIFIED E,OPEN OE,UO,INVERTED ALPHA",
  "||GREEK LETTER SMALL CAPITAL OMEGA",
  "|LATIN SMALL LETTER |DZ DIGRAPH WITH RETROFLEX HOOK,TS DIGRAPH WITH RETROFLEX HOOK,TURNED R WITH MIDDLE TILDE",
  "|MODIFIER LETTER |SMALL TURNED W,LEFT TACK,RIGHT TACK",
  "AB70|CHEROKEE SMALL LETTER |A,E,I,O,U,V,GA,KA,GE,GI,GO,GU,GV,HA,HE,HI,HO,HU,HV,LA,LE,LI,LO,LU,LV,MA",
  "|CHEROKEE SMALL LETTER |ME,MI,MO,MU,NA,HNA,NAH,NE,NI,NO,NU,NV,QUA,QUE,QUI,QUO,QUU,QUV,SA,S,SE,SI,SO,SU,SV,DA,TA,DE",
  "|CHEROKEE SMALL LETTER |TE,DI,TI,DO,DU,DV,DLA,TLA,TLE,TLI,TLO,TLU,TLV,TSA,TSE,TSI,TSO,TSU,TSV,WA,WE,WI,WO,WU,WV,YA",
  "|MEETEI MAYEK LETTER |KOK,SAM,LAI,MIT",
  "|MEETEI MAYEK LETTER |PA,NA,CHIL,TIL,KHOU,NGOU,THOU,WAI,YANG,HUK,UN,I,PHAM,ATIYA,GOK,JHAM,RAI,BA,JIL,DIL,GHOU,DHOU",
  "|MEETEI MAYEK LETTER |BHAM,KOK LONSUM,LAI LONSUM,MIT LONSUM,PA LONSUM,NA LONSUM,TIL LONSUM,NGOU LONSUM,I LONSUM",
  "|MEETEI MAYEK VOWEL SIGN |ONAP,INAP,ANAP,YENAP,SOUNAP,UNAP,CHEINAP,NUNG",
  "|MEETEI MAYEK |CHEIKHEI,LUM IYEK,APUN IYEK",
  "ABF0|MEETEI MAYEK DIGIT |ZERO,ONE,TWO,THREE,FOUR,FIVE,SIX,SEVEN,EIGHT,NINE",
  "D7B0|HANGUL JUNGSEONG |O-YEO,O-O-I,YO-A,YO-AE,YO-EO,U-YEO,U-I-I",
  "|HANGUL JUNGSEONG |YU-AE,YU-O,EU-A,EU-EO,EU-E,EU-O,I-YA-O,I-YAE,I-YEO,I-YE,I-O-I,I-YO,I-YU,I-I,ARAEA-A,ARAEA-E",
  "D7CB|HANGUL JONGSEONG |NIEUN-RIEUL,NIEUN-CHIEUCH,SSANGTIKEUT,SSANGTIKEUT-PIEUP",
  "|HANGUL JONGSEONG TIKEUT-|PIEUP,SIOS,SIOS-KIYEOK,CIEUC,CHIEUCH,THIEUTH",
  "|HANGUL JONGSEONG |RIEUL-SSANGKIYEOK,RIEUL-KIYEOK-HIEUH,SSANGRIEUL-KHIEUKH",
  "|HANGUL JONGSEONG RIEUL-|MIEUM-HIEUH,PIEUP-TIKEUT,PIEUP-PHIEUPH,YESIEUNG,YEORINHIEUH-HIEUH",
  "|HANGUL JONGSEONG |KAPYEOUNRIEUL,MIEUM-NIEUN,MIEUM-SSANGNIEUN,SSANGMIEUM,MIEUM-PIEUP-SIOS,MIEUM-CIEUC,PIEUP-TIKEUT",
  "|HANGUL JONGSEONG |PIEUP-RIEUL-PHIEUPH,PIEUP-MIEUM,SSANGPIEUP,PIEUP-SIOS-TIKEUT,PIEUP-CIEUC,PIEUP-CHIEUCH",
  "|HANGUL JONGSEONG |SIOS-MIEUM,SIOS-KAPYEOUNPIEUP,SSANGSIOS-KIYEOK,SSANGSIOS-TIKEUT,SIOS-PANSIOS,SIOS-CIEUC",
  "|HANGUL JONGSEONG |SIOS-CHIEUCH,SIOS-THIEUTH,SIOS-HIEUH,PANSIOS-PIEUP,PANSIOS-KAPYEOUNPIEUP,YESIEUNG-MIEUM",
  "|HANGUL JONGSEONG |YESIEUNG-HIEUH,CIEUC-PIEUP,CIEUC-SSANGPIEUP,SSANGCIEUC,PHIEUPH-SIOS,PHIEUPH-THIEUTH",
  "FB00|LATIN SMALL LIGATURE |FF,FI,FL,FFI,FFL,LONG S T,ST",
  "FB13|ARMENIAN SMALL LIGATURE |MEN NOW,MEN ECH,MEN INI,VEW NOW,MEN XEH",
  "FB1D||HEBREW LETTER YOD WITH HIRIQ",
  "|HEBREW |POINT JUDEO-SPANISH VARIKA,LIGATURE YIDDISH YOD YOD PATAH,LETTER ALTERNATIVE AYIN",
  "|HEBREW LETTER WIDE |ALEF,DALET,HE,KAF,LAMED,FINAL MEM,RESH,TAV",
  "||HEBREW LETTER ALTERNATIVE PLUS SIGN",
  "|HEBREW LETTER SHIN WITH |SHIN DOT,SIN DOT,DAGESH AND SHIN DOT,DAGESH AND SIN DOT",
  "|HEBREW LETTER ALEF WITH |PATAH,QAMATS,MAPIQ",
  "|HEBREW LETTER |BET WITH DAGESH,GIMEL WITH DAGESH,DALET WITH DAGESH,HE WITH MAPIQ,VAV WITH DAGESH",
  "|HEBREW LETTER |ZAYIN WITH DAGESH,,TET WITH DAGESH,YOD WITH DAGESH,FINAL KAF WITH DAGESH,KAF WITH DAGESH",
  "|HEBREW LETTER |LAMED WITH DAGESH,,MEM WITH DAGESH,,NUN WITH DAGESH,SAMEKH WITH DAGESH,,FINAL PE WITH DAGESH",
  "|HEBREW LETTER |PE WITH DAGESH,,TSADI WITH DAGESH,QOF WITH DAGESH,RESH WITH DAGESH",
  "|HEBREW LETTER |SHIN WITH DAGESH,TAV WITH DAGESH,VAV WITH HOLAM,BET WITH RAFE,KAF WITH RAFE,PE WITH RAFE",
  "||HEBREW LIGATURE ALEF LAMED",
  "|ARABIC LETTER ALEF WASLA |ISOLATED FORM,FINAL FORM",
  "|ARABIC LETTER BEEH |ISOLATED FORM,FINAL FORM,INITIAL FORM,MEDIAL FORM",
  "|ARABIC LETTER PEH |ISOLATED FORM,FINAL FORM,INITIAL FORM,MEDIAL FORM",
  "|ARABIC LETTER BEHEH |ISOLATED FORM,FINAL FORM,INITIAL FORM,MEDIAL FORM",
  "|ARABIC LETTER TTEHEH |ISOLATED FORM,FINAL FORM,INITIAL FORM,MEDIAL FORM",
  "|ARABIC LETTER TEHEH |ISOLATED FORM,FINAL FORM,INITIAL FORM,MEDIAL FORM",
  "|ARABIC LETTER TTEH |ISOLATED FORM,FINAL FORM,INITIAL FORM,MEDIAL FORM",
  "|ARABIC LETTER VEH |ISOLATED FORM,FINAL FORM,INITIAL FORM,MEDIAL FORM",
  "|ARABIC LETTER PEHEH |ISOLATED FORM,FINAL FORM,INITIAL FORM,MEDIAL FORM",
  "|ARABIC LETTER DYEH |ISOLATED FORM,FINAL FORM,INITIAL FORM,MEDIAL FORM",
  "|ARABIC LETTER NYEH |ISOLATED FORM,FINAL FORM,INITIAL FORM,MEDIAL FORM",
  "|ARABIC LETTER TCHEH |ISOLATED FORM,FINAL FORM,INITIAL FORM,MEDIAL FORM",
  "|ARABIC LETTER TCHEHEH |ISOLATED FORM,FINAL FORM,INITIAL FORM,MEDIAL FORM",
  "|ARABIC LETTER DDAHAL |ISOLATED FORM,FINAL FORM",
  "|ARABIC LETTER |DAHAL ISOLATED FORM,DAHAL FINAL FORM,DUL ISOLATED FORM,DUL FINAL FORM,DDAL ISOLATED FORM",
  "|ARABIC LETTER |DDAL FINAL FORM,JEH ISOLATED FORM,JEH FINAL FORM,RREH ISOLATED FORM,RREH FINAL FORM",
  "|ARABIC LETTER KEHEH |ISOLATED FORM,FINAL FORM,INITIAL FORM,MEDIAL FORM",
  "|ARABIC LETTER GAF |ISOLATED FORM,FINAL FORM,INITIAL FORM,MEDIAL FORM",
  "|ARABIC LETTER GUEH |ISOLATED FORM,FINAL FORM,INITIAL FORM,MEDIAL FORM",
  "|ARABIC LETTER NGOEH |ISOLATED FORM,FINAL FORM,INITIAL FORM,MEDIAL FORM",
  "|ARABIC LETTER NOON GHUNNA |ISOLATED FORM,FINAL FORM",
  "|ARABIC LETTER RNOON |ISOLATED FORM,FINAL FORM,INITIAL FORM,MEDIAL FORM",
  "|ARABIC LETTER HEH WITH YEH ABOVE |ISOLATED FORM,FINAL FORM",
  "|ARABIC LETTER HEH GOAL |ISOLATED FORM,FINAL FORM,INITIAL FORM,MEDIAL FORM",
  "|ARABIC LETTER HEH DOACHASHMEE |ISOLATED FORM,FINAL FORM,INITIAL FORM,MEDIAL FORM",
  "|ARABIC LETTER YEH BARREE |ISOLATED FORM,FINAL FORM,WITH HAMZA ABOVE ISOLATED FORM,WITH HAMZA ABOVE FINAL FORM",
  "|ARABIC SYMBOL |DOT ABOVE,DOT BELOW,TWO DOTS ABOVE,TWO DOTS BELOW",
  "|ARABIC SYMBOL THREE DOTS |ABOVE,BELOW,POINTING DOWNWARDS ABOVE,POINTING DOWNWARDS BELOW",
  "|ARABIC SYMBOL |FOUR DOTS ABOVE,FOUR DOTS BELOW,DOUBLE VERTICAL BAR BELOW,TWO DOTS VERTICALLY ABOVE",
  "|ARABIC SYMBOL |TWO DOTS VERTICALLY BELOW,RING,SMALL TAH ABOVE,SMALL TAH BELOW,WASLA ABOVE",
  "FBD3|ARABIC LETTER NG |ISOLATED FORM,FINAL FORM,INITIAL FORM,MEDIAL FORM",
  "|ARABIC LETTER |U ISOLATED FORM,U FINAL FORM,OE ISOLATED FORM,OE FINAL FORM",
  "|ARABIC LETTER |YU ISOLATED FORM,YU FINAL FORM,U WITH HAMZA ABOVE ISOLATED FORM,VE ISOLATED FORM,VE FINAL FORM",
  "|ARABIC LETTER KIRGHIZ |OE ISOLATED FORM,OE FINAL FORM,YU ISOLATED FORM,YU FINAL FORM",
  "|ARABIC LETTER E |ISOLATED FORM,FINAL FORM,INITIAL FORM,MEDIAL FORM",
  "|ARABIC LETTER UIGHUR KAZAKH KIRGHIZ ALEF MAKSURA |INITIAL FORM,MEDIAL FORM",
  "|ARABIC LIGATURE YEH WITH HAMZA ABOVE WITH |ALEF ISOLATED FORM,ALEF FINAL FORM,AE ISOLATED FORM,AE FINAL FORM",
  "|ARABIC LIGATURE YEH WITH HAMZA ABOVE WITH |WAW ISOLATED FORM,WAW FINAL FORM,U ISOLATED FORM,U FINAL FORM",
  "|ARABIC LIGATURE YEH WITH HAMZA ABOVE WITH |OE ISOLATED FORM,OE FINAL FORM,YU ISOLATED FORM,YU FINAL FORM",
  "|ARABIC LIGATURE YEH WITH HAMZA ABOVE WITH E |ISOLATED FORM,FINAL FORM,INITIAL FORM",
  "|ARABIC LIGATURE UIGHUR KIRGHIZ YEH WITH HAMZA ABOVE WITH ALEF MAKSURA |ISOLATED FORM,FINAL FORM,INITIAL FORM",
  "|ARABIC LETTER FARSI YEH |ISOLATED FORM,FINAL FORM,INITIAL FORM,MEDIAL FORM",
  "|ARABIC LIGATURE YEH WITH HAMZA ABOVE WITH |JEEM ISOLATED FORM,HAH ISOLATED FORM",
  "|ARABIC LIGATURE YEH WITH HAMZA ABOVE WITH |MEEM ISOLATED FORM,ALEF MAKSURA ISOLATED FORM,YEH ISOLATED FORM",
  "|ARABIC LIGATURE BEH WITH |JEEM ISOLATED FORM,HAH ISOLATED FORM",
  "|ARABIC LIGATURE BEH WITH |KHAH ISOLATED FORM,MEEM ISOLATED FORM,ALEF MAKSURA ISOLATED FORM,YEH ISOLATED FORM",
  "|ARABIC LIGATURE TEH WITH |JEEM ISOLATED FORM,HAH ISOLATED FORM",
  "|ARABIC LIGATURE TEH WITH |KHAH ISOLATED FORM,MEEM ISOLATED FORM,ALEF MAKSURA ISOLATED FORM,YEH ISOLATED FORM",
  "|ARABIC LIGATURE THEH WITH |JEEM ISOLATED FORM,MEEM ISOLATED FORM,ALEF MAKSURA ISOLATED FORM,YEH ISOLATED FORM",
  "|ARABIC LIGATURE JEEM WITH |HAH ISOLATED FORM,MEEM ISOLATED FORM",
  "|ARABIC LIGATURE HAH WITH |JEEM ISOLATED FORM,MEEM ISOLATED FORM",
  "|ARABIC LIGATURE KHAH WITH |JEEM ISOLATED FORM,HAH ISOLATED FORM,MEEM ISOLATED FORM",
  "|ARABIC LIGATURE SEEN WITH |JEEM ISOLATED FORM,HAH ISOLATED FORM,KHAH ISOLATED FORM,MEEM ISOLATED FORM",
  "|ARABIC LIGATURE SAD WITH |HAH ISOLATED FORM,MEEM ISOLATED FORM",
  "|ARABIC LIGATURE DAD WITH |JEEM ISOLATED FORM,HAH ISOLATED FORM,KHAH ISOLATED FORM,MEEM ISOLATED FORM",
  "|ARABIC LIGATURE TAH WITH |HAH ISOLATED FORM,MEEM ISOLATED FORM",
  "|ARABIC LIGATURE |ZAH WITH MEEM ISOLATED FORM,AIN WITH JEEM ISOLATED FORM,AIN WITH MEEM ISOLATED FORM",
  "|ARABIC LIGATURE GHAIN WITH |JEEM ISOLATED FORM,MEEM ISOLATED FORM",
  "|ARABIC LIGATURE FEH WITH |JEEM ISOLATED FORM,HAH ISOLATED FORM",
  "|ARABIC LIGATURE FEH WITH |KHAH ISOLATED FORM,MEEM ISOLATED FORM,ALEF MAKSURA ISOLATED FORM,YEH ISOLATED FORM",
  "|ARABIC LIGATURE QAF WITH |HAH ISOLATED FORM,MEEM ISOLATED FORM,ALEF MAKSURA ISOLATED FORM,YEH ISOLATED FORM",
  "|ARABIC LIGATURE KAF WITH |ALEF ISOLATED FORM,JEEM ISOLATED FORM,HAH ISOLATED FORM,KHAH ISOLATED FORM",
  "|ARABIC LIGATURE KAF WITH |LAM ISOLATED FORM,MEEM ISOLATED FORM,ALEF MAKSURA ISOLATED FORM,YEH ISOLATED FORM",
  "|ARABIC LIGATURE LAM WITH |JEEM ISOLATED FORM,HAH ISOLATED FORM",
  "|ARABIC LIGATURE LAM WITH |KHAH ISOLATED FORM,MEEM ISOLATED FORM,ALEF MAKSURA ISOLATED FORM,YEH ISOLATED FORM",
  "|ARABIC LIGATURE MEEM WITH |JEEM ISOLATED FORM,HAH ISOLATED FORM",
  "|ARABIC LIGATURE MEEM WITH |KHAH ISOLATED FORM,MEEM ISOLATED FORM,ALEF MAKSURA ISOLATED FORM,YEH ISOLATED FORM",
  "|ARABIC LIGATURE NOON WITH |JEEM ISOLATED FORM,HAH ISOLATED FORM",
  "|ARABIC LIGATURE NOON WITH |KHAH ISOLATED FORM,MEEM ISOLATED FORM,ALEF MAKSURA ISOLATED FORM,YEH ISOLATED FORM",
  "|ARABIC LIGATURE HEH WITH |JEEM ISOLATED FORM,MEEM ISOLATED FORM,ALEF MAKSURA ISOLATED FORM,YEH ISOLATED FORM",
  "|ARABIC LIGATURE YEH WITH |JEEM ISOLATED FORM,HAH ISOLATED FORM",
  "|ARABIC LIGATURE YEH WITH |KHAH ISOLATED FORM,MEEM ISOLATED FORM,ALEF MAKSURA ISOLATED FORM,YEH ISOLATED FORM",
  "||ARABIC LIGATURE THAL WITH SUPERSCRIPT ALEF ISOLATED FORM",
  "|ARABIC LIGATURE |REH WITH SUPERSCRIPT ALEF ISOLATED FORM,ALEF MAKSURA WITH SUPERSCRIPT ALEF ISOLATED FORM",
  "|ARABIC LIGATURE SHADDA WITH |DAMMATAN ISOLATED FORM,KASRATAN ISOLATED FORM,FATHA ISOLATED FORM",
  "|ARABIC LIGATURE SHADDA WITH |DAMMA ISOLATED FORM,KASRA ISOLATED FORM,SUPERSCRIPT ALEF ISOLATED FORM",
  "|ARABIC LIGATURE YEH WITH HAMZA ABOVE WITH |REH FINAL FORM,ZAIN FINAL FORM",
  "|ARABIC LIGATURE YEH WITH HAMZA ABOVE WITH |MEEM FINAL FORM,NOON FINAL FORM,ALEF MAKSURA FINAL FORM,YEH FINAL FORM",
  "|ARABIC LIGATURE BEH WITH |REH FINAL FORM,ZAIN FINAL FORM,MEEM FINAL FORM,NOON FINAL FORM,ALEF MAKSURA FINAL FORM",
  "|ARABIC LIGATURE |BEH WITH YEH FINAL FORM,TEH WITH REH FINAL FORM",
  "|ARABIC LIGATURE TEH WITH |ZAIN FINAL FORM,MEEM FINAL FORM,NOON FINAL FORM,ALEF MAKSURA FINAL FORM,YEH FINAL FORM",
  "|ARABIC LIGATURE THEH WITH |REH FINAL FORM,ZAIN FINAL FORM,MEEM FINAL FORM,NOON FINAL FORM,ALEF MAKSURA FINAL FORM",
  "|ARABIC LIGATURE |THEH WITH YEH FINAL FORM,FEH WITH ALEF MAKSURA FINAL FORM,FEH WITH YEH FINAL FORM",
  "|ARABIC LIGATURE QAF WITH |ALEF MAKSURA FINAL FORM,YEH FINAL FORM",
  "|ARABIC LIGATURE KAF WITH |ALEF FINAL FORM,LAM FINAL FORM,MEEM FINAL FORM,ALEF MAKSURA FINAL FORM,YEH FINAL FORM",
  "|ARABIC LIGATURE LAM WITH |MEEM FINAL FORM,ALEF MAKSURA FINAL FORM,YEH FINAL FORM",
  "|ARABIC LIGATURE MEEM WITH |ALEF FINAL FORM,MEEM FINAL FORM",
  "|ARABIC LIGATURE NOON WITH |REH FINAL FORM,ZAIN FINAL FORM,MEEM FINAL FORM,NOON FINAL FORM,ALEF MAKSURA FINAL FORM",
  "|ARABIC LIGATURE |NOON WITH YEH FINAL FORM,ALEF MAKSURA WITH SUPERSCRIPT ALEF FINAL FORM",
  "|ARABIC LIGATURE YEH WITH |REH FINAL FORM,ZAIN FINAL FORM,MEEM FINAL FORM,NOON FINAL FORM",
  "|ARABIC LIGATURE YEH WITH |ALEF MAKSURA FINAL FORM,YEH FINAL FORM,HAMZA ABOVE WITH JEEM INITIAL FORM",
  "|ARABIC LIGATURE YEH WITH HAMZA ABOVE WITH |HAH INITIAL FORM,KHAH INITIAL FORM,MEEM INITIAL FORM,HEH INITIAL FORM",
  "|ARABIC LIGATURE BEH WITH |JEEM INITIAL FORM,HAH INITIAL FORM,KHAH INITIAL FORM,MEEM INITIAL FORM,HEH INITIAL FORM",
  "|ARABIC LIGATURE TEH WITH |JEEM INITIAL FORM,HAH INITIAL FORM,KHAH INITIAL FORM,MEEM INITIAL FORM,HEH INITIAL FORM",
  "|ARABIC LIGATURE |THEH WITH MEEM INITIAL FORM,JEEM WITH HAH INITIAL FORM,JEEM WITH MEEM INITIAL FORM",
  "|ARABIC LIGATURE HAH WITH |JEEM INITIAL FORM,MEEM INITIAL FORM",
  "|ARABIC LIGATURE KHAH WITH |JEEM INITIAL FORM,MEEM INITIAL FORM",
  "|ARABIC LIGATURE SEEN WITH |JEEM INITIAL FORM,HAH INITIAL FORM,KHAH INITIAL FORM,MEEM INITIAL FORM",
  "|ARABIC LIGATURE SAD WITH |HAH INITIAL FORM,KHAH INITIAL FORM,MEEM INITIAL FORM",
  "|ARABIC LIGATURE DAD WITH |JEEM INITIAL FORM,HAH INITIAL FORM,KHAH INITIAL FORM,MEEM INITIAL FORM",
  "|ARABIC LIGATURE |TAH WITH HAH INITIAL FORM,ZAH WITH MEEM INITIAL FORM,AIN WITH JEEM INITIAL FORM",
  "|ARABIC LIGATURE |AIN WITH MEEM INITIAL FORM,GHAIN WITH JEEM INITIAL FORM,GHAIN WITH MEEM INITIAL FORM",
  "|ARABIC LIGATURE FEH WITH |JEEM INITIAL FORM,HAH INITIAL FORM,KHAH INITIAL FORM,MEEM INITIAL FORM",
  "|ARABIC LIGATURE QAF WITH |HAH INITIAL FORM,MEEM INITIAL FORM",
  "|ARABIC LIGATURE KAF WITH |JEEM INITIAL FORM,HAH INITIAL FORM,KHAH INITIAL FORM,LAM INITIAL FORM,MEEM INITIAL FORM",
  "|ARABIC LIGATURE LAM WITH |JEEM INITIAL FORM,HAH INITIAL FORM,KHAH INITIAL FORM,MEEM INITIAL FORM,HEH INITIAL FORM",
  "|ARABIC LIGATURE MEEM WITH |JEEM INITIAL FORM,HAH INITIAL FORM,KHAH INITIAL FORM,MEEM INITIAL FORM",
  "|ARABIC LIGATURE NOON WITH |JEEM INITIAL FORM,HAH INITIAL FORM,KHAH INITIAL FORM,MEEM INITIAL FORM,HEH INITIAL FORM",
  "|ARABIC LIGATURE HEH WITH |JEEM INITIAL FORM,MEEM INITIAL FORM,SUPERSCRIPT ALEF INITIAL FORM",
  "|ARABIC LIGATURE YEH WITH |JEEM INITIAL FORM,HAH INITIAL FORM,KHAH INITIAL FORM,MEEM INITIAL FORM,HEH INITIAL FORM",
  "|ARABIC LIGATURE YEH WITH HAMZA ABOVE WITH |MEEM MEDIAL FORM,HEH MEDIAL FORM",
  "|ARABIC LIGATURE BEH WITH |MEEM MEDIAL FORM,HEH MEDIAL FORM",
  "|ARABIC LIGATURE TEH WITH |MEEM MEDIAL FORM,HEH MEDIAL FORM",
  "|ARABIC LIGATURE THEH WITH |MEEM MEDIAL FORM,HEH MEDIAL FORM",
  "|ARABIC LIGATURE SEEN WITH |MEEM MEDIAL FORM,HEH MEDIAL FORM",
  "|ARABIC LIGATURE SHEEN WITH |MEEM MEDIAL FORM,HEH MEDIAL FORM",
  "|ARABIC LIGATURE |KAF WITH LAM MEDIAL FORM,KAF WITH MEEM MEDIAL FORM,LAM WITH MEEM MEDIAL FORM",
  "|ARABIC LIGATURE NOON WITH |MEEM MEDIAL FORM,HEH MEDIAL FORM",
  "|ARABIC LIGATURE YEH WITH |MEEM MEDIAL FORM,HEH MEDIAL FORM",
  "|ARABIC LIGATURE SHADDA WITH |FATHA MEDIAL FORM,DAMMA MEDIAL FORM,KASRA MEDIAL FORM",
  "|ARABIC LIGATURE TAH WITH |ALEF MAKSURA ISOLATED FORM,YEH ISOLATED FORM",
  "|ARABIC LIGATURE AIN WITH |ALEF MAKSURA ISOLATED FORM,YEH ISOLATED FORM",
  "|ARABIC LIGATURE GHAIN WITH |ALEF MAKSURA ISOLATED FORM,YEH ISOLATED FORM",
  "|ARABIC LIGATURE SEEN WITH |ALEF MAKSURA ISOLATED FORM,YEH ISOLATED FORM",
  "|ARABIC LIGATURE SHEEN WITH |ALEF MAKSURA ISOLATED FORM,YEH ISOLATED FORM",
  "|ARABIC LIGATURE HAH WITH |ALEF MAKSURA ISOLATED FORM,YEH ISOLATED FORM",
  "|ARABIC LIGATURE JEEM WITH |ALEF MAKSURA ISOLATED FORM,YEH ISOLATED FORM",
  "|ARABIC LIGATURE KHAH WITH |ALEF MAKSURA ISOLATED FORM,YEH ISOLATED FORM",
  "|ARABIC LIGATURE SAD WITH |ALEF MAKSURA ISOLATED FORM,YEH ISOLATED FORM",
  "|ARABIC LIGATURE DAD WITH |ALEF MAKSURA ISOLATED FORM,YEH ISOLATED FORM",
  "|ARABIC LIGATURE SHEEN WITH |JEEM ISOLATED FORM,HAH ISOLATED FORM,KHAH ISOLATED FORM,MEEM ISOLATED FORM",
  "|ARABIC LIGATURE |SHEEN WITH REH ISOLATED FORM,SEEN WITH REH ISOLATED FORM,SAD WITH REH ISOLATED FORM",
  "|ARABIC LIGATURE |DAD WITH REH ISOLATED FORM,TAH WITH ALEF MAKSURA FINAL FORM,TAH WITH YEH FINAL FORM",
  "|ARABIC LIGATURE AIN WITH |ALEF MAKSURA FINAL FORM,YEH FINAL FORM",
  "|ARABIC LIGATURE GHAIN WITH |ALEF MAKSURA FINAL FORM,YEH FINAL FORM",
  "|ARABIC LIGATURE SEEN WITH |ALEF MAKSURA FINAL FORM,YEH FINAL FORM",
  "|ARABIC LIGATURE SHEEN WITH |ALEF MAKSURA FINAL FORM,YEH FINAL FORM",
  "|ARABIC LIGATURE HAH WITH |ALEF MAKSURA FINAL FORM,YEH FINAL FORM",
  "|ARABIC LIGATURE JEEM WITH |ALEF MAKSURA FINAL FORM,YEH FINAL FORM",
  "|ARABIC LIGATURE KHAH WITH |ALEF MAKSURA FINAL FORM,YEH FINAL FORM",
  "|ARABIC LIGATURE SAD WITH |ALEF MAKSURA FINAL FORM,YEH FINAL FORM",
  "|ARABIC LIGATURE DAD WITH |ALEF MAKSURA FINAL FORM,YEH FINAL FORM",
  "|ARABIC LIGATURE SHEEN WITH |JEEM FINAL FORM,HAH FINAL FORM,KHAH FINAL FORM,MEEM FINAL FORM,REH FINAL FORM",
  "|ARABIC LIGATURE |SEEN WITH REH FINAL FORM,SAD WITH REH FINAL FORM,DAD WITH REH FINAL FORM",
  "|ARABIC LIGATURE SHEEN WITH |JEEM INITIAL FORM,HAH INITIAL FORM,KHAH INITIAL FORM,MEEM INITIAL FORM",
  "|ARABIC LIGATURE |SEEN WITH HEH INITIAL FORM,SHEEN WITH HEH INITIAL FORM,TAH WITH MEEM INITIAL FORM",
  "|ARABIC LIGATURE SEEN WITH |JEEM MEDIAL FORM,HAH MEDIAL FORM,KHAH MEDIAL FORM",
  "|ARABIC LIGATURE SHEEN WITH |JEEM MEDIAL FORM,HAH MEDIAL FORM,KHAH MEDIAL FORM",
  "|ARABIC LIGATURE |TAH WITH MEEM MEDIAL FORM,ZAH WITH MEEM MEDIAL FORM",
  "|ARABIC LIGATURE ALEF WITH FATHATAN |FINAL FORM,ISOLATED FORM",
  "||ORNATE LEFT PARENTHESIS,ORNATE RIGHT PARENTHESIS,ARABIC LIGATURE RAHIMAHU ALLAAH",
  "|ARABIC LIGATURE RADI ALLAAHU |ANH,ANHAA,ANHUM,ANHUMAA,ANHUNNA",
  "|ARABIC LIGATURE |SALLALLAAHU ALAYHI WA-AALIH,ALAYHI AS-SALAAM,ALAYHIM AS-SALAAM,ALAYHIMAA AS-SALAAM",
  "|ARABIC LIGATURE |ALAYHI AS-SALAATU WAS-SALAAM,QUDDISA SIRRAH,SALLALLAHU ALAYHI WAAALIHEE WA-SALLAM",
  "|ARABIC LIGATURE |ALAYHAA AS-SALAAM,TABAARAKA WA-TAAALAA,RAHIMAHUM ALLAAH,TEH WITH JEEM WITH MEEM INITIAL FORM",
  "|ARABIC LIGATURE TEH WITH HAH WITH |JEEM FINAL FORM,JEEM INITIAL FORM,MEEM INITIAL FORM",
  "||ARABIC LIGATURE TEH WITH KHAH WITH MEEM INITIAL FORM",
  "|ARABIC LIGATURE TEH WITH MEEM WITH |JEEM INITIAL FORM,HAH INITIAL FORM,KHAH INITIAL FORM",
  "|ARABIC LIGATURE JEEM WITH MEEM WITH HAH |FINAL FORM,INITIAL FORM",
  "|ARABIC LIGATURE HAH WITH MEEM WITH |YEH FINAL FORM,ALEF MAKSURA FINAL FORM",
  "|ARABIC LIGATURE SEEN WITH |HAH WITH JEEM INITIAL FORM,JEEM WITH HAH INITIAL FORM,JEEM WITH ALEF MAKSURA FINAL FORM",
  "|ARABIC LIGATURE SEEN WITH MEEM WITH |HAH FINAL FORM,HAH INITIAL FORM,JEEM INITIAL FORM",
  "|ARABIC LIGATURE SEEN WITH MEEM WITH MEEM |FINAL FORM,INITIAL FORM",
  "|ARABIC LIGATURE SAD WITH |HAH WITH HAH FINAL FORM,HAH WITH HAH INITIAL FORM,MEEM WITH MEEM FINAL FORM",
  "|ARABIC LIGATURE SHEEN WITH |HAH WITH MEEM FINAL FORM,HAH WITH MEEM INITIAL FORM,JEEM WITH YEH FINAL FORM",
  "|ARABIC LIGATURE SHEEN WITH MEEM WITH |KHAH FINAL FORM,KHAH INITIAL FORM,MEEM FINAL FORM,MEEM INITIAL FORM",
  "|ARABIC LIGATURE DAD WITH |HAH WITH ALEF MAKSURA FINAL FORM,KHAH WITH MEEM FINAL FORM,KHAH WITH MEEM INITIAL FORM",
  "|ARABIC LIGATURE TAH WITH MEEM WITH |HAH FINAL FORM,HAH INITIAL FORM,MEEM INITIAL FORM,YEH FINAL FORM",
  "||ARABIC LIGATURE AIN WITH JEEM WITH MEEM FINAL FORM",
  "|ARABIC LIGATURE AIN WITH MEEM WITH |MEEM FINAL FORM,MEEM INITIAL FORM,ALEF MAKSURA FINAL FORM",
  "|ARABIC LIGATURE GHAIN WITH MEEM WITH |MEEM FINAL FORM,YEH FINAL FORM,ALEF MAKSURA FINAL FORM",
  "|ARABIC LIGATURE FEH WITH KHAH WITH MEEM |FINAL FORM,INITIAL FORM",
  "|ARABIC LIGATURE QAF WITH MEEM WITH |HAH FINAL FORM,MEEM FINAL FORM",
  "|ARABIC LIGATURE LAM WITH HAH WITH |MEEM FINAL FORM,YEH FINAL FORM,ALEF MAKSURA FINAL FORM",
  "|ARABIC LIGATURE LAM WITH JEEM WITH JEEM |INITIAL FORM,FINAL FORM",
  "|ARABIC LIGATURE LAM WITH KHAH WITH MEEM |FINAL FORM,INITIAL FORM",
  "|ARABIC LIGATURE LAM WITH MEEM WITH HAH |FINAL FORM,INITIAL FORM",
  "|ARABIC LIGATURE MEEM WITH HAH WITH |JEEM INITIAL FORM,MEEM INITIAL FORM,YEH FINAL FORM",
  "|ARABIC LIGATURE MEEM WITH JEEM WITH |HAH INITIAL FORM,MEEM INITIAL FORM",
  "|ARABIC LIGATURE MEEM WITH |KHAH WITH JEEM INITIAL FORM,KHAH WITH MEEM INITIAL FORM,,,JEEM WITH KHAH INITIAL FORM",
  "|ARABIC LIGATURE HEH WITH MEEM WITH |JEEM INITIAL FORM,MEEM INITIAL FORM",
  "|ARABIC LIGATURE NOON WITH HAH WITH |MEEM INITIAL FORM,ALEF MAKSURA FINAL FORM",
  "|ARABIC LIGATURE NOON WITH JEEM WITH |MEEM FINAL FORM,MEEM INITIAL FORM,ALEF MAKSURA FINAL FORM",
  "|ARABIC LIGATURE NOON WITH MEEM WITH |YEH FINAL FORM,ALEF MAKSURA FINAL FORM",
  "|ARABIC LIGATURE YEH WITH MEEM WITH MEEM |FINAL FORM,INITIAL FORM",
  "||ARABIC LIGATURE BEH WITH KHAH WITH YEH FINAL FORM",
  "|ARABIC LIGATURE TEH WITH JEEM WITH |YEH FINAL FORM,ALEF MAKSURA FINAL FORM",
  "|ARABIC LIGATURE TEH WITH |KHAH WITH YEH FINAL FORM,KHAH WITH ALEF MAKSURA FINAL FORM,MEEM WITH YEH FINAL FORM",
  "|ARABIC LIGATURE |TEH WITH MEEM WITH ALEF MAKSURA FINAL FORM,JEEM WITH MEEM WITH YEH FINAL FORM",
  "|ARABIC LIGATURE JEEM WITH |HAH WITH ALEF MAKSURA FINAL FORM,MEEM WITH ALEF MAKSURA FINAL FORM",
  "|ARABIC LIGATURE |SEEN WITH KHAH WITH ALEF MAKSURA FINAL FORM,SAD WITH HAH WITH YEH FINAL FORM",
  "|ARABIC LIGATURE |SHEEN WITH HAH WITH YEH FINAL FORM,DAD WITH HAH WITH YEH FINAL FORM",
  "|ARABIC LIGATURE LAM WITH |JEEM WITH YEH FINAL FORM,MEEM WITH YEH FINAL FORM",
  "|ARABIC LIGATURE YEH WITH |HAH WITH YEH FINAL FORM,JEEM WITH YEH FINAL FORM,MEEM WITH YEH FINAL FORM",
  "||ARABIC LIGATURE MEEM WITH MEEM WITH YEH FINAL FORM",
  "|ARABIC LIGATURE |QAF WITH MEEM WITH YEH FINAL FORM,NOON WITH HAH WITH YEH FINAL FORM",
  "|ARABIC LIGATURE |QAF WITH MEEM WITH HAH INITIAL FORM,LAM WITH HAH WITH MEEM INITIAL FORM",
  "|ARABIC LIGATURE |AIN WITH MEEM WITH YEH FINAL FORM,KAF WITH MEEM WITH YEH FINAL FORM",
  "|ARABIC LIGATURE |NOON WITH JEEM WITH HAH INITIAL FORM,MEEM WITH KHAH WITH YEH FINAL FORM",
  "|ARABIC LIGATURE |LAM WITH JEEM WITH MEEM INITIAL FORM,KAF WITH MEEM WITH MEEM FINAL FORM",
  "|ARABIC LIGATURE |LAM WITH JEEM WITH MEEM FINAL FORM,NOON WITH JEEM WITH HAH FINAL FORM",
  "|ARABIC LIGATURE |JEEM WITH HAH WITH YEH FINAL FORM,HAH WITH JEEM WITH YEH FINAL FORM",
  "|ARABIC LIGATURE |MEEM WITH JEEM WITH YEH FINAL FORM,FEH WITH MEEM WITH YEH FINAL FORM",
  "|ARABIC LIGATURE |BEH WITH HAH WITH YEH FINAL FORM,KAF WITH MEEM WITH MEEM INITIAL FORM",
  "|ARABIC LIGATURE |AIN WITH JEEM WITH MEEM INITIAL FORM,SAD WITH MEEM WITH MEEM INITIAL FORM",
  "|ARABIC LIGATURE |SEEN WITH KHAH WITH YEH FINAL FORM,NOON WITH JEEM WITH YEH FINAL FORM",
  "FDCF||ARABIC LIGATURE SALAAMUHU ALAYNAA",
  "FDF0||ARABIC LIGATURE SALLA USED AS KORANIC STOP SIGN ISOLATED FORM",
  "|ARABIC LIGATURE |QALA USED AS KORANIC STOP SIGN ISOLATED FORM,ALLAH ISOLATED FORM,AKBAR ISOLATED FORM",
  "|ARABIC LIGATURE |MOHAMMAD ISOLATED FORM,SALAM ISOLATED FORM,RASOUL ISOLATED FORM,ALAYHE ISOLATED FORM",
  "|ARABIC LIGATURE |WASALLAM ISOLATED FORM,SALLA ISOLATED FORM,SALLALLAHOU ALAYHE WASALLAM,JALLAJALALOUHOU",
  "||RIAL SIGN",
  "|ARABIC LIGATURE |BISMILLAH AR-RAHMAN AR-RAHEEM,SUBHAANAHU WA TAAALAA,AZZA WA JALL",
  "FE10|PRESENTATION FORM FOR VERTICAL |COMMA,IDEOGRAPHIC COMMA",
  "|PRESENTATION FORM FOR VERTICAL |IDEOGRAPHIC FULL STOP,COLON,SEMICOLON,EXCLAMATION MARK,QUESTION MARK",
  "|PRESENTATION FORM FOR VERTICAL |LEFT WHITE LENTICULAR BRACKET,RIGHT WHITE LENTICULAR BRAKCET,HORIZONTAL ELLIPSIS",
  "FE20|COMBINING LIGATURE |LEFT HALF,RIGHT HALF",
  "|COMBINING DOUBLE TILDE |LEFT HALF,RIGHT HALF",
  "|COMBINING MACRON |LEFT HALF,RIGHT HALF",
  "|COMBINING |CONJOINING MACRON,LIGATURE LEFT HALF BELOW,LIGATURE RIGHT HALF BELOW,TILDE LEFT HALF BELOW",
  "|COMBINING |TILDE RIGHT HALF BELOW,MACRON LEFT HALF BELOW,MACRON RIGHT HALF BELOW,CONJOINING MACRON BELOW",
  "|COMBINING CYRILLIC TITLO |LEFT HALF,RIGHT HALF",
  "|PRESENTATION FORM FOR VERTICAL |TWO DOT LEADER,EM DASH,EN DASH",
  "|PRESENTATION FORM FOR VERTICAL |LOW LINE,WAVY LOW LINE,LEFT PARENTHESIS,RIGHT PARENTHESIS,LEFT CURLY BRACKET",
  "|PRESENTATION FORM FOR VERTICAL |RIGHT CURLY BRACKET,LEFT TORTOISE SHELL BRACKET,RIGHT TORTOISE SHELL BRACKET",
  "|PRESENTATION FORM FOR VERTICAL |LEFT BLACK LENTICULAR BRACKET,RIGHT BLACK LENTICULAR BRACKET",
  "|PRESENTATION FORM FOR VERTICAL |LEFT DOUBLE ANGLE BRACKET,RIGHT DOUBLE ANGLE BRACKET",
  "|PRESENTATION FORM FOR VERTICAL |LEFT ANGLE BRACKET,RIGHT ANGLE BRACKET,LEFT CORNER BRACKET",
  "|PRESENTATION FORM FOR VERTICAL |RIGHT CORNER BRACKET,LEFT WHITE CORNER BRACKET,RIGHT WHITE CORNER BRACKET",
  "||SESAME DOT,WHITE SESAME DOT",
  "|PRESENTATION FORM FOR VERTICAL |LEFT SQUARE BRACKET,RIGHT SQUARE BRACKET",
  "||DASHED OVERLINE",
  "||CENTRELINE OVERLINE,WAVY OVERLINE,DOUBLE WAVY OVERLINE,DASHED LOW LINE,CENTRELINE LOW LINE,WAVY LOW LINE",
  "|SMALL |COMMA,IDEOGRAPHIC COMMA,FULL STOP,,SEMICOLON,COLON,QUESTION MARK,EXCLAMATION MARK,EM DASH",
  "|SMALL |LEFT PARENTHESIS,RIGHT PARENTHESIS,LEFT CURLY BRACKET,RIGHT CURLY BRACKET,LEFT TORTOISE SHELL BRACKET",
  "|SMALL |RIGHT TORTOISE SHELL BRACKET,NUMBER SIGN,AMPERSAND,ASTERISK,PLUS SIGN,HYPHEN-MINUS",
  "|SMALL |LESS-THAN SIGN,GREATER-THAN SIGN,EQUALS SIGN,,REVERSE SOLIDUS,DOLLAR SIGN,PERCENT SIGN,COMMERCIAL AT",
  "FE70|ARABIC |FATHATAN ISOLATED FORM,TATWEEL WITH FATHATAN ABOVE,DAMMATAN ISOLATED FORM,TAIL FRAGMENT",
  "|ARABIC |KASRATAN ISOLATED FORM,,FATHA ISOLATED FORM,FATHA MEDIAL FORM,DAMMA ISOLATED FORM,DAMMA MEDIAL FORM",
  "|ARABIC KASRA |ISOLATED FORM,MEDIAL FORM",
  "|ARABIC |SHADDA ISOLATED FORM,SHADDA MEDIAL FORM,SUKUN ISOLATED FORM,SUKUN MEDIAL FORM,LETTER HAMZA ISOLATED FORM",
  "|ARABIC LETTER ALEF WITH MADDA ABOVE |ISOLATED FORM,FINAL FORM",
  "|ARABIC LETTER ALEF WITH HAMZA ABOVE |ISOLATED FORM,FINAL FORM",
  "|ARABIC LETTER WAW WITH HAMZA ABOVE |ISOLATED FORM,FINAL FORM",
  "|ARABIC LETTER ALEF WITH HAMZA BELOW |ISOLATED FORM,FINAL FORM",
  "|ARABIC LETTER YEH WITH HAMZA ABOVE |ISOLATED FORM,FINAL FORM,INITIAL FORM,MEDIAL FORM",
  "|ARABIC LETTER ALEF |ISOLATED FORM,FINAL FORM",
  "|ARABIC LETTER BEH |ISOLATED FORM,FINAL FORM,INITIAL FORM,MEDIAL FORM",
  "|ARABIC LETTER TEH |MARBUTA ISOLATED FORM,MARBUTA FINAL FORM,ISOLATED FORM,FINAL FORM,INITIAL FORM,MEDIAL FORM",
  "|ARABIC LETTER THEH |ISOLATED FORM,FINAL FORM,INITIAL FORM,MEDIAL FORM",
  "|ARABIC LETTER JEEM |ISOLATED FORM,FINAL FORM,INITIAL FORM,MEDIAL FORM",
  "|ARABIC LETTER HAH |ISOLATED FORM,FINAL FORM,INITIAL FORM,MEDIAL FORM",
  "|ARABIC LETTER KHAH |ISOLATED FORM,FINAL FORM,INITIAL FORM,MEDIAL FORM",
  "|ARABIC LETTER |DAL ISOLATED FORM,DAL FINAL FORM,THAL ISOLATED FORM",
  "|ARABIC LETTER |THAL FINAL FORM,REH ISOLATED FORM,REH FINAL FORM,ZAIN ISOLATED FORM,ZAIN FINAL FORM",
  "|ARABIC LETTER SEEN |ISOLATED FORM,FINAL FORM,INITIAL FORM,MEDIAL FORM",
  "|ARABIC LETTER SHEEN |ISOLATED FORM,FINAL FORM,INITIAL FORM,MEDIAL FORM",
  "|ARABIC LETTER SAD |ISOLATED FORM,FINAL FORM,INITIAL FORM,MEDIAL FORM",
  "|ARABIC LETTER DAD |ISOLATED FORM,FINAL FORM,INITIAL FORM,MEDIAL FORM",
  "|ARABIC LETTER TAH |ISOLATED FORM,FINAL FORM,INITIAL FORM,MEDIAL FORM",
  "|ARABIC LETTER ZAH |ISOLATED FORM,FINAL FORM,INITIAL FORM,MEDIAL FORM",
  "|ARABIC LETTER AIN |ISOLATED FORM,FINAL FORM,INITIAL FORM,MEDIAL FORM",
  "|ARABIC LETTER GHAIN |ISOLATED FORM,FINAL FORM,INITIAL FORM,MEDIAL FORM",
  "|ARABIC LETTER FEH |ISOLATED FORM,FINAL FORM,INITIAL FORM,MEDIAL FORM",
  "|ARABIC LETTER QAF |ISOLATED FORM,FINAL FORM,INITIAL FORM,MEDIAL FORM",
  "|ARABIC LETTER KAF |ISOLATED FORM,FINAL FORM,INITIAL FORM,MEDIAL FORM",
  "|ARABIC LETTER LAM |ISOLATED FORM,FINAL FORM,INITIAL FORM,MEDIAL FORM",
  "|ARABIC LETTER MEEM |ISOLATED FORM,FINAL FORM,INITIAL FORM,MEDIAL FORM",
  "|ARABIC LETTER NOON |ISOLATED FORM,FINAL FORM,INITIAL FORM,MEDIAL FORM",
  "|ARABIC LETTER |HEH ISOLATED FORM,HEH FINAL FORM,HEH INITIAL FORM,HEH MEDIAL FORM,WAW ISOLATED FORM,WAW FINAL FORM",
  "|ARABIC LETTER ALEF MAKSURA |ISOLATED FORM,FINAL FORM",
  "|ARABIC LETTER YEH |ISOLATED FORM,FINAL FORM,INITIAL FORM,MEDIAL FORM",
  "|ARABIC LIGATURE LAM WITH ALEF WITH MADDA ABOVE |ISOLATED FORM,FINAL FORM",
  "|ARABIC LIGATURE LAM WITH ALEF WITH HAMZA |ABOVE ISOLATED FORM,ABOVE FINAL FORM,BELOW ISOLATED FORM",
  "|ARABIC LIGATURE LAM WITH ALEF |WITH HAMZA BELOW FINAL FORM,ISOLATED FORM,FINAL FORM",
  "FEFF||ZERO WIDTH NO-BREAK SPACE",
  "FF01|FULLWIDTH |EXCLAMATION MARK,QUOTATION MARK,NUMBER SIGN,DOLLAR SIGN,PERCENT SIGN,AMPERSAND",
  "|FULLWIDTH |APOSTROPHE,LEFT PARENTHESIS,RIGHT PARENTHESIS,ASTERISK,PLUS SIGN,COMMA,HYPHEN-MINUS,FULL STOP,SOLIDUS",
  "|FULLWIDTH DIGIT |ZERO,ONE,TWO,THREE,FOUR,FIVE,SIX,SEVEN,EIGHT,NINE",
  "|FULLWIDTH |COLON,SEMICOLON,LESS-THAN SIGN,EQUALS SIGN,GREATER-THAN SIGN,QUESTION MARK,COMMERCIAL AT",
  "|FULLWIDTH LATIN CAPITAL LETTER |A,B,C,D,E,F,G,H,I,J,K,L,M,N,O,P,Q,R,S,T,U,V,W,X,Y,Z",
  "|FULLWIDTH |LEFT SQUARE BRACKET,REVERSE SOLIDUS,RIGHT SQUARE BRACKET,CIRCUMFLEX ACCENT,LOW LINE,GRAVE ACCENT",
  "|FULLWIDTH LATIN SMALL LETTER |A,B,C,D,E,F,G,H,I,J,K,L,M,N,O,P,Q,R,S,T,U,V,W,X,Y,Z",
  "||FULLWIDTH LEFT CURLY BRACKET",
  "|FULLWIDTH |VERTICAL LINE,RIGHT CURLY BRACKET,TILDE,LEFT WHITE PARENTHESIS,RIGHT WHITE PARENTHESIS",
  "|HALFWIDTH |IDEOGRAPHIC FULL STOP,LEFT CORNER BRACKET,RIGHT CORNER BRACKET,IDEOGRAPHIC COMMA",
  "|HALFWIDTH KATAKANA |MIDDLE DOT,LETTER WO",
  "|HALFWIDTH KATAKANA LETTER SMALL |A,I,U,E,O,YA,YU,YO,TU",
  "||HALFWIDTH KATAKANA-HIRAGANA PROLONGED SOUND MARK",
  "|HALFWIDTH KATAKANA LETTER |A,I,U,E,O,KA,KI,KU,KE,KO,SA,SI,SU,SE,SO,TA",
  "|HALFWIDTH KATAKANA LETTER |TI,TU,TE,TO,NA,NI,NU,NE,NO,HA,HI,HU,HE,HO,MA,MI,MU,ME,MO,YA,YU,YO,RA,RI,RU,RE,RO,WA,N",
  "|HALFWIDTH |KATAKANA VOICED SOUND MARK,KATAKANA SEMI-VOICED SOUND MARK,HANGUL FILLER",
  "|HALFWIDTH HANGUL LETTER |KIYEOK,SSANGKIYEOK,KIYEOK-SIOS,NIEUN,NIEUN-CIEUC,NIEUN-HIEUH,TIKEUT,SSANGTIKEUT,RIEUL",
  "|HALFWIDTH HANGUL LETTER RIEUL-|KIYEOK,MIEUM,PIEUP,SIOS,THIEUTH,PHIEUPH,HIEUH",
  "||HALFWIDTH HANGUL LETTER MIEUM",
  "|HALFWIDTH HANGUL LETTER |PIEUP,SSANGPIEUP,PIEUP-SIOS,SIOS,SSANGSIOS,IEUNG,CIEUC,SSANGCIEUC,CHIEUCH,KHIEUKH,THIEUTH",
  "|HALFWIDTH HANGUL LETTER |PHIEUPH,HIEUH,,,,A,AE,YA,YAE,EO,E,,,YEO,YE,O,WA,WAE,OE,,,YO,U,WEO,WE,WI,YU,,,EU,YI,I",
  "FFE0|FULLWIDTH |CENT SIGN,POUND SIGN,NOT SIGN,MACRON,BROKEN BAR,YEN SIGN,WON SIGN",
  "FFE8||HALFWIDTH FORMS LIGHT VERTICAL",
  "|HALFWIDTH |LEFTWARDS ARROW,UPWARDS ARROW,RIGHTWARDS ARROW,DOWNWARDS ARROW,BLACK SQUARE,WHITE CIRCLE",
  "FFF9|INTERLINEAR ANNOTATION |ANCHOR,SEPARATOR,TERMINATOR",
  "||OBJECT REPLACEMENT CHARACTER,REPLACEMENT CHARACTER"]

end Linewise.CharacterName
