/-
Names of characters from 2000 to 2e7f: punctuation, arrows, mathematical and technical symbols, shapes.

The rows are written as `CharacterName.Row.ofText` reads them.
-/
namespace Linewise.CharacterName

/-- the rows for these characters -/
def symbolNames : List String := [
  "2004||THREE-PER-EM SPACE,FOUR-PER-EM SPACE,SIX-PER-EM SPACE,FIGURE SPACE,PUNCTUATION SPACE,THIN SPACE,HAIR SPACE",
  "|ZERO WIDTH |SPACE,NON-JOINER,JOINER",
  "||LEFT-TO-RIGHT MARK,RIGHT-TO-LEFT MARK,HYPHEN,NON-BREAKING HYPHEN,FIGURE DASH,EN DASH,EM DASH,HORIZONTAL BAR",
  "|DOUBLE |VERTICAL LINE,LOW LINE",
  "||LEFT SINGLE QUOTATION MARK,RIGHT SINGLE QUOTATION MARK,SINGLE LOW-9 QUOTATION MARK",
  "||SINGLE HIGH-REVERSED-9 QUOTATION MARK,LEFT DOUBLE QUOTATION MARK,RIGHT DOUBLE QUOTATION MARK",
  "||DOUBLE LOW-9 QUOTATION MARK,DOUBLE HIGH-REVERSED-9 QUOTATION MARK,DAGGER,DOUBLE DAGGER,BULLET,TRIANGULAR BULLET",
  "||ONE DOT LEADER,TWO DOT LEADER,HORIZONTAL ELLIPSIS,HYPHENATION POINT,LINE SEPARATOR,PARAGRAPH SEPARATOR",
  "||LEFT-TO-RIGHT EMBEDDING,RIGHT-TO-LEFT EMBEDDING,POP DIRECTIONAL FORMATTING,LEFT-TO-RIGHT OVERRIDE",
  "||RIGHT-TO-LEFT OVERRIDE,NARROW NO-BREAK SPACE,PER MILLE SIGN,PER TEN THOUSAND SIGN,PRIME,DOUBLE PRIME,TRIPLE PRIME",
  "|REVERSED |PRIME,DOUBLE PRIME,TRIPLE PRIME",
  "||CARET,SINGLE LEFT-POINTING ANGLE QUOTATION MARK,SINGLE RIGHT-POINTING ANGLE QUOTATION MARK",
  "||REFERENCE MARK,DOUBLE EXCLAMATION MARK,INTERROBANG,OVERLINE,UNDERTIE,CHARACTER TIE,CARET INSERTION POINT",
  "||ASTERISM,HYPHEN BULLET,FRACTION SLASH,LEFT SQUARE BRACKET WITH QUILL,RIGHT SQUARE BRACKET WITH QUILL",
  "||DOUBLE QUESTION MARK,QUESTION EXCLAMATION MARK,EXCLAMATION QUESTION MARK,TIRONIAN SIGN ET",
  "||REVERSED PILCROW SIGN,BLACK LEFTWARDS BULLET,BLACK RIGHTWARDS BULLET,LOW ASTERISK,REVERSED SEMICOLON,CLOSE UP",
  "||TWO ASTERISKS ALIGNED VERTICALLY,COMMERCIAL MINUS SIGN,SWUNG DASH,INVERTED UNDERTIE,FLOWER PUNCTUATION MARK",
  "||THREE DOT PUNCTUATION,QUADRUPLE PRIME,FOUR DOT PUNCTUATION,FIVE DOT PUNCTUATION,TWO DOT PUNCTUATION",
  "||FOUR DOT MARK,DOTTED CROSS,TRICOLON,VERTICAL FOUR DOTS,MEDIUM MATHEMATICAL SPACE,WORD JOINER,FUNCTION APPLICATION",
  "|INVISIBLE |TIMES,SEPARATOR,PLUS",
  "2066||LEFT-TO-RIGHT ISOLATE,RIGHT-TO-LEFT ISOLATE",
  "||FIRST STRONG ISOLATE,POP DIRECTIONAL ISOLATE,INHIBIT SYMMETRIC SWAPPING,ACTIVATE SYMMETRIC SWAPPING",
  "||INHIBIT ARABIC FORM SHAPING,ACTIVATE ARABIC FORM SHAPING,NATIONAL DIGIT SHAPES,NOMINAL DIGIT SHAPES",
  "|SUPERSCRIPT |ZERO,LATIN SMALL LETTER I,,,FOUR,FIVE,SIX",
  "|SUPERSCRIPT |SEVEN,EIGHT,NINE,PLUS SIGN,MINUS,EQUALS SIGN,LEFT PARENTHESIS,RIGHT PARENTHESIS,LATIN SMALL LETTER N",
  "|SUBSCRIPT |ZERO,ONE",
  "|SUBSCRIPT |TWO,THREE,FOUR,FIVE,SIX,SEVEN,EIGHT,NINE,PLUS SIGN,MINUS,EQUALS SIGN,LEFT PARENTHESIS,RIGHT PARENTHESIS",
  "2090|LATIN SUBSCRIPT SMALL LETTER |A,E,O,X,SCHWA,H,K,L,M,N,P,S,T",
  "20A0||EURO-CURRENCY SIGN,COLON SIGN,CRUZEIRO SIGN,FRENCH FRANC SIGN,LIRA SIGN,MILL SIGN,NAIRA SIGN,PESETA SIGN",
  "||RUPEE SIGN,WON SIGN,NEW SHEQEL SIGN,DONG SIGN,EURO SIGN,KIP SIGN,TUGRIK SIGN,DRACHMA SIGN,GERMAN PENNY SIGN",
  "||PESO SIGN,GUARANI SIGN,AUSTRAL SIGN,HRYVNIA SIGN,CEDI SIGN,LIVRE TOURNOIS SIGN,SPESMILO SIGN,TENGE SIGN",
  "||INDIAN RUPEE SIGN,TURKISH LIRA SIGN,NORDIC MARK SIGN,MANAT SIGN,RUBLE SIGN,LARI SIGN,BITCOIN SIGN,SOM SIGN",
  "20D0|COMBINING |LEFT HARPOON ABOVE,RIGHT HARPOON ABOVE,LONG VERTICAL LINE OVERLAY,SHORT VERTICAL LINE OVERLAY",
  "|COMBINING |ANTICLOCKWISE ARROW ABOVE,CLOCKWISE ARROW ABOVE,LEFT ARROW ABOVE,RIGHT ARROW ABOVE",
  "|COMBINING |RING OVERLAY,CLOCKWISE RING OVERLAY,ANTICLOCKWISE RING OVERLAY,THREE DOTS ABOVE,FOUR DOTS ABOVE",
  "|COMBINING ENCLOSING |CIRCLE,SQUARE,DIAMOND,CIRCLE BACKSLASH",
  "||COMBINING LEFT RIGHT ARROW ABOVE",
  "|COMBINING ENCLOSING |SCREEN,KEYCAP,UPWARD POINTING TRIANGLE",
  "|COMBINING |REVERSE SOLIDUS OVERLAY,DOUBLE VERTICAL STROKE OVERLAY,ANNUITY SYMBOL,TRIPLE UNDERDOT,WIDE BRIDGE ABOVE",
  "|COMBINING |LEFTWARDS ARROW OVERLAY,LONG DOUBLE SOLIDUS OVERLAY,RIGHTWARDS HARPOON WITH BARB DOWNWARDS",
  "|COMBINING |LEFTWARDS HARPOON WITH BARB DOWNWARDS,LEFT ARROW BELOW,RIGHT ARROW BELOW,ASTERISK ABOVE",
  "2100||ACCOUNT OF,ADDRESSED TO THE SUBJECT,DOUBLE-STRUCK CAPITAL C,DEGREE CELSIUS,CENTRE LINE SYMBOL",
  "||CARE OF,CADA UNA,EULER CONSTANT,SCRUPLE,DEGREE FAHRENHEIT,SCRIPT SMALL G,SCRIPT CAPITAL H,BLACK-LETTER CAPITAL H",
  "||DOUBLE-STRUCK CAPITAL H,PLANCK CONSTANT,PLANCK CONSTANT OVER TWO PI,SCRIPT CAPITAL I,BLACK-LETTER CAPITAL I",
  "|SCRIPT CAPITAL/SMALL |L",
  "||L B BAR SYMBOL,DOUBLE-STRUCK CAPITAL N,NUMERO SIGN,SOUND RECORDING COPYRIGHT,SCRIPT CAPITAL P",
  "|DOUBLE-STRUCK CAPITAL |P,Q",
  "||SCRIPT CAPITAL R,BLACK-LETTER CAPITAL R,DOUBLE-STRUCK CAPITAL R",
  "||PRESCRIPTION TAKE,RESPONSE,SERVICE MARK,TELEPHONE SIGN,TRADE MARK SIGN,VERSICLE,DOUBLE-STRUCK CAPITAL Z",
  "||OUNCE SIGN,OHM SIGN,INVERTED OHM SIGN,BLACK-LETTER CAPITAL Z,TURNED GREEK SMALL LETTER IOTA",
  "||KELVIN SIGN,ANGSTROM SIGN,SCRIPT CAPITAL B,BLACK-LETTER CAPITAL C,ESTIMATED SYMBOL,SCRIPT SMALL E",
  "|SCRIPT CAPITAL |E,F",
  "||TURNED CAPITAL F,SCRIPT CAPITAL M,SCRIPT SMALL O",
  "||ALEF SYMBOL,BET SYMBOL,GIMEL SYMBOL,DALET SYMBOL,INFORMATION SOURCE,ROTATED CAPITAL Q,FACSIMILE SIGN",
  "|DOUBLE-STRUCK |SMALL PI,SMALL GAMMA,CAPITAL GAMMA,CAPITAL PI,N-ARY SUMMATION",
  "|TURNED SANS-SERIF CAPITAL |G,L",
  "||REVERSED SANS-SERIF CAPITAL L,TURNED SANS-SERIF CAPITAL Y",
  "|DOUBLE-STRUCK ITALIC |CAPITAL D,SMALL D,SMALL E,SMALL I,SMALL J",
  "||PROPERTY LINE,TURNED AMPERSAND,PER SIGN,AKTIESELSKAB,TURNED SMALL F,SYMBOL FOR SAMARITAN SOURCE",
  "|VULGAR FRACTION |ONE SEVENTH,ONE NINTH,ONE TENTH,ONE THIRD,TWO THIRDS,ONE FIFTH,TWO FIFTHS,THREE FIFTHS",
  "|VULGAR FRACTION |FOUR FIFTHS,ONE SIXTH,FIVE SIXTHS,ONE EIGHTH,THREE EIGHTHS,FIVE EIGHTHS,SEVEN EIGHTHS",
  "||FRACTION NUMERATOR ONE",
  "|ROMAN NUMERAL |ONE,TWO",
  "|ROMAN NUMERAL |THREE,FOUR,FIVE,SIX,SEVEN,EIGHT,NINE,TEN,ELEVEN,TWELVE,FIFTY,ONE HUNDRED,FIVE HUNDRED,ONE THOUSAND",
  "|SMALL ROMAN NUMERAL |ONE,TWO,THREE",
  "|SMALL ROMAN NUMERAL |FOUR,FIVE,SIX,SEVEN,EIGHT,NINE,TEN,ELEVEN,TWELVE,FIFTY,ONE HUNDRED,FIVE HUNDRED,ONE THOUSAND",
  "|ROMAN NUMERAL |ONE THOUSAND C D,FIVE THOUSAND,TEN THOUSAND,REVERSED ONE HUNDRED",
  "||LATIN SMALL LETTER REVERSED C",
  "|ROMAN NUMERAL |SIX LATE FORM,FIFTY EARLY FORM,FIFTY THOUSAND,ONE HUNDRED THOUSAND",
  "||VULGAR FRACTION ZERO THIRDS",
  "|TURNED DIGIT |TWO,THREE",
  "2190||LEFTWARDS ARROW,UPWARDS ARROW,RIGHTWARDS ARROW,DOWNWARDS ARROW,LEFT RIGHT ARROW,UP DOWN ARROW",
  "|NORTH |WEST ARROW,EAST ARROW",
  "||SOUTH EAST ARROW,SOUTH WEST ARROW,LEFTWARDS ARROW WITH STROKE,RIGHTWARDS ARROW WITH STROKE,LEFTWARDS WAVE ARROW",
  "||RIGHTWARDS WAVE ARROW,LEFTWARDS TWO HEADED ARROW,UPWARDS TWO HEADED ARROW,RIGHTWARDS TWO HEADED ARROW",
  "||DOWNWARDS TWO HEADED ARROW,LEFTWARDS ARROW WITH TAIL,RIGHTWARDS ARROW WITH TAIL,LEFTWARDS ARROW FROM BAR",
  "||UPWARDS ARROW FROM BAR,RIGHTWARDS ARROW FROM BAR,DOWNWARDS ARROW FROM BAR,UP DOWN ARROW WITH BASE",
  "||LEFTWARDS ARROW WITH HOOK,RIGHTWARDS ARROW WITH HOOK,LEFTWARDS ARROW WITH LOOP,RIGHTWARDS ARROW WITH LOOP",
  "|LEFT RIGHT |WAVE ARROW,ARROW WITH STROKE",
  "||DOWNWARDS ZIGZAG ARROW",
  "|UPWARDS ARROW WITH TIP |LEFTWARDS,RIGHTWARDS",
  "|DOWNWARDS ARROW WITH TIP |LEFTWARDS,RIGHTWARDS",
  "||RIGHTWARDS ARROW WITH CORNER DOWNWARDS,DOWNWARDS ARROW WITH CORNER LEFTWARDS",
  "||ANTICLOCKWISE TOP SEMICIRCLE ARROW,CLOCKWISE TOP SEMICIRCLE ARROW,NORTH WEST ARROW TO LONG BAR",
  "||LEFTWARDS ARROW TO BAR OVER RIGHTWARDS ARROW TO BAR,ANTICLOCKWISE OPEN CIRCLE ARROW,CLOCKWISE OPEN CIRCLE ARROW",
  "|LEFTWARDS HARPOON WITH BARB |UPWARDS,DOWNWARDS",
  "|UPWARDS HARPOON WITH BARB |RIGHTWARDS,LEFTWARDS",
  "|RIGHTWARDS HARPOON WITH BARB |UPWARDS,DOWNWARDS",
  "|DOWNWARDS HARPOON WITH BARB |RIGHTWARDS,LEFTWARDS",
  "||RIGHTWARDS ARROW OVER LEFTWARDS ARROW,UPWARDS ARROW LEFTWARDS OF DOWNWARDS ARROW",
  "|LEFTWARDS |ARROW OVER RIGHTWARDS ARROW,PAIRED ARROWS",
  "||UPWARDS PAIRED ARROWS,RIGHTWARDS PAIRED ARROWS,DOWNWARDS PAIRED ARROWS,LEFTWARDS HARPOON OVER RIGHTWARDS HARPOON",
  "||RIGHTWARDS HARPOON OVER LEFTWARDS HARPOON,LEFTWARDS DOUBLE ARROW WITH STROKE",
  "||LEFT RIGHT DOUBLE ARROW WITH STROKE,RIGHTWARDS DOUBLE ARROW WITH STROKE,LEFTWARDS DOUBLE ARROW",
  "||UPWARDS DOUBLE ARROW,RIGHTWARDS DOUBLE ARROW,DOWNWARDS DOUBLE ARROW,LEFT RIGHT DOUBLE ARROW,UP DOWN DOUBLE ARROW",
  "|NORTH |WEST DOUBLE ARROW,EAST DOUBLE ARROW",
  "|SOUTH |EAST DOUBLE ARROW,WEST DOUBLE ARROW",
  "||LEFTWARDS TRIPLE ARROW,RIGHTWARDS TRIPLE ARROW,LEFTWARDS SQUIGGLE ARROW",
  "||RIGHTWARDS SQUIGGLE ARROW,UPWARDS ARROW WITH DOUBLE STROKE,DOWNWARDS ARROW WITH DOUBLE STROKE",
  "||LEFTWARDS DASHED ARROW,UPWARDS DASHED ARROW,RIGHTWARDS DASHED ARROW,DOWNWARDS DASHED ARROW,LEFTWARDS ARROW TO BAR",
  "||RIGHTWARDS ARROW TO BAR,LEFTWARDS WHITE ARROW,UPWARDS WHITE ARROW,RIGHTWARDS WHITE ARROW,DOWNWARDS WHITE ARROW",
  "|UPWARDS WHITE ARROW |FROM BAR,ON PEDESTAL,ON PEDESTAL WITH HORIZONTAL BAR,ON PEDESTAL WITH VERTICAL BAR",
  "|UPWARDS WHITE DOUBLE |ARROW,ARROW ON PEDESTAL",
  "||RIGHTWARDS WHITE ARROW FROM WALL,NORTH WEST ARROW TO CORNER,SOUTH EAST ARROW TO CORNER",
  "||UP DOWN WHITE ARROW,RIGHT ARROW WITH SMALL CIRCLE,DOWNWARDS ARROW LEFTWARDS OF UPWARDS ARROW",
  "||THREE RIGHTWARDS ARROWS,LEFTWARDS ARROW WITH VERTICAL STROKE,RIGHTWARDS ARROW WITH VERTICAL STROKE",
  "||LEFT RIGHT ARROW WITH VERTICAL STROKE,LEFTWARDS ARROW WITH DOUBLE VERTICAL STROKE",
  "||RIGHTWARDS ARROW WITH DOUBLE VERTICAL STROKE,LEFT RIGHT ARROW WITH DOUBLE VERTICAL STROKE",
  "||LEFTWARDS OPEN-HEADED ARROW,RIGHTWARDS OPEN-HEADED ARROW,LEFT RIGHT OPEN-HEADED ARROW,FOR ALL,COMPLEMENT",
  "||PARTIAL DIFFERENTIAL,THERE EXISTS,THERE DOES NOT EXIST,EMPTY SET,INCREMENT,NABLA,ELEMENT OF,NOT AN ELEMENT OF",
  "||SMALL ELEMENT OF,CONTAINS AS MEMBER,DOES NOT CONTAIN AS MEMBER,SMALL CONTAINS AS MEMBER,END OF PROOF",
  "|N-ARY |PRODUCT,COPRODUCT,SUMMATION",
  "||MINUS SIGN,MINUS-OR-PLUS SIGN,DOT PLUS,DIVISION SLASH",
  "||SET MINUS,ASTERISK OPERATOR,RING OPERATOR,BULLET OPERATOR,SQUARE ROOT,CUBE ROOT,FOURTH ROOT,PROPORTIONAL TO",
  "||INFINITY,RIGHT ANGLE,ANGLE,MEASURED ANGLE,SPHERICAL ANGLE,DIVIDES,DOES NOT DIVIDE,PARALLEL TO,NOT PARALLEL TO",
  "|LOGICAL |AND,OR",
  "||INTERSECTION,UNION,INTEGRAL,DOUBLE INTEGRAL,TRIPLE INTEGRAL,CONTOUR INTEGRAL,SURFACE INTEGRAL,VOLUME INTEGRAL",
  "|CLOCKWISE |INTEGRAL,CONTOUR INTEGRAL",
  "||ANTICLOCKWISE CONTOUR INTEGRAL,THEREFORE,BECAUSE",
  "||RATIO,PROPORTION,DOT MINUS,EXCESS,GEOMETRIC PROPORTION,HOMOTHETIC,TILDE OPERATOR,REVERSED TILDE,INVERTED LAZY S",
  "||SINE WAVE,WREATH PRODUCT,NOT TILDE,MINUS TILDE,ASYMPTOTICALLY EQUAL TO,NOT ASYMPTOTICALLY EQUAL TO",
  "|APPROXIMATELY |EQUAL TO,BUT NOT ACTUALLY EQUAL TO",
  "||NEITHER APPROXIMATELY NOR ACTUALLY EQUAL TO,ALMOST EQUAL TO",
  "||NOT ALMOST EQUAL TO,ALMOST EQUAL OR EQUAL TO,TRIPLE TILDE,ALL EQUAL TO,EQUIVALENT TO,GEOMETRICALLY EQUIVALENT TO",
  "||DIFFERENCE BETWEEN,APPROACHES THE LIMIT,GEOMETRICALLY EQUAL TO,APPROXIMATELY EQUAL TO OR THE IMAGE OF",
  "||IMAGE OF OR APPROXIMATELY EQUAL TO,COLON EQUALS,EQUALS COLON,RING IN EQUAL TO",
  "||RING EQUAL TO,CORRESPONDS TO,ESTIMATES,EQUIANGULAR TO,STAR EQUALS,DELTA EQUAL TO,EQUAL TO BY DEFINITION",
  "||MEASURED BY,QUESTIONED EQUAL TO,NOT EQUAL TO,IDENTICAL TO,NOT IDENTICAL TO,STRICTLY EQUIVALENT TO",
  "||LESS-THAN OR EQUAL TO,GREATER-THAN OR EQUAL TO,LESS-THAN OVER EQUAL TO,GREATER-THAN OVER EQUAL TO",
  "||LESS-THAN BUT NOT EQUAL TO,GREATER-THAN BUT NOT EQUAL TO,MUCH LESS-THAN,MUCH GREATER-THAN,BETWEEN",
  "|NOT |EQUIVALENT TO,LESS-THAN,GREATER-THAN",
  "|NEITHER |LESS-THAN NOR EQUAL TO,GREATER-THAN NOR EQUAL TO",
  "||LESS-THAN OR EQUIVALENT TO,GREATER-THAN OR EQUIVALENT TO",
  "|NEITHER |LESS-THAN NOR EQUIVALENT TO,GREATER-THAN NOR EQUIVALENT TO",
  "||LESS-THAN OR GREATER-THAN,GREATER-THAN OR LESS-THAN",
  "|NEITHER |LESS-THAN NOR GREATER-THAN,GREATER-THAN NOR LESS-THAN",
  "||PRECEDES,SUCCEEDS,PRECEDES OR EQUAL TO,SUCCEEDS OR EQUAL TO,PRECEDES OR EQUIVALENT TO,SUCCEEDS OR EQUIVALENT TO",
  "|DOES NOT |PRECEDE,SUCCEED",
  "||SUBSET OF,SUPERSET OF,NOT A SUBSET OF,NOT A SUPERSET OF,SUBSET OF OR EQUAL TO,SUPERSET OF OR EQUAL TO",
  "|NEITHER A |SUBSET OF NOR EQUAL TO,SUPERSET OF NOR EQUAL TO",
  "||SUBSET OF WITH NOT EQUAL TO,SUPERSET OF WITH NOT EQUAL TO,MULTISET",
  "|MULTISET |MULTIPLICATION,UNION",
  "|SQUARE |IMAGE OF,ORIGINAL OF,IMAGE OF OR EQUAL TO,ORIGINAL OF OR EQUAL TO,CAP,CUP",
  "|CIRCLED |PLUS,MINUS,TIMES,DIVISION SLASH,DOT OPERATOR,RING OPERATOR,ASTERISK OPERATOR,EQUALS,DASH",
  "|SQUARED |PLUS,MINUS,TIMES,DOT OPERATOR",
  "||RIGHT TACK,LEFT TACK,DOWN TACK,UP TACK",
  "||ASSERTION,MODELS,TRUE,FORCES,TRIPLE VERTICAL BAR RIGHT TURNSTILE,DOUBLE VERTICAL BAR DOUBLE RIGHT TURNSTILE",
  "||DOES NOT PROVE,NOT TRUE,DOES NOT FORCE,NEGATED DOUBLE VERTICAL BAR DOUBLE RIGHT TURNSTILE",
  "||PRECEDES UNDER RELATION,SUCCEEDS UNDER RELATION,NORMAL SUBGROUP OF",
  "||CONTAINS AS NORMAL SUBGROUP,NORMAL SUBGROUP OF OR EQUAL TO,CONTAINS AS NORMAL SUBGROUP OR EQUAL TO,ORIGINAL OF",
  "||IMAGE OF,MULTIMAP,HERMITIAN CONJUGATE MATRIX,INTERCALATE,XOR,NAND,NOR,RIGHT ANGLE WITH ARC,RIGHT TRIANGLE",
  "|N-ARY |LOGICAL AND,LOGICAL OR,INTERSECTION,UNION",
  "||DIAMOND OPERATOR,DOT OPERATOR,STAR OPERATOR,DIVISION TIMES,BOWTIE,LEFT NORMAL FACTOR SEMIDIRECT PRODUCT",
  "||RIGHT NORMAL FACTOR SEMIDIRECT PRODUCT,LEFT SEMIDIRECT PRODUCT,RIGHT SEMIDIRECT PRODUCT,REVERSED TILDE EQUALS",
  "|CURLY LOGICAL |OR,AND",
  "|DOUBLE |SUBSET,SUPERSET,INTERSECTION,UNION",
  "||PITCHFORK,EQUAL AND PARALLEL TO,LESS-THAN WITH DOT,GREATER-THAN WITH DOT",
  "|VERY MUCH |LESS-THAN,GREATER-THAN",
  "||LESS-THAN EQUAL TO OR GREATER-THAN,GREATER-THAN EQUAL TO OR LESS-THAN",
  "|EQUAL TO OR |LESS-THAN,GREATER-THAN,PRECEDES,SUCCEEDS",
  "|DOES NOT |PRECEDE OR EQUAL,SUCCEED OR EQUAL",
  "|NOT SQUARE |IMAGE OF OR EQUAL TO,ORIGINAL OF OR EQUAL TO",
  "|SQUARE |IMAGE OF OR NOT EQUAL TO,ORIGINAL OF OR NOT EQUAL TO",
  "||LESS-THAN BUT NOT EQUIVALENT TO,GREATER-THAN BUT NOT EQUIVALENT TO,PRECEDES BUT NOT EQUIVALENT TO",
  "||SUCCEEDS BUT NOT EQUIVALENT TO,NOT NORMAL SUBGROUP OF,DOES NOT CONTAIN AS NORMAL SUBGROUP",
  "||NOT NORMAL SUBGROUP OF OR EQUAL TO,DOES NOT CONTAIN AS NORMAL SUBGROUP OR EQUAL",
  "||VERTICAL ELLIPSIS,MIDLINE HORIZONTAL ELLIPSIS,UP RIGHT DIAGONAL ELLIPSIS,DOWN RIGHT DIAGONAL ELLIPSIS",
  "|ELEMENT OF WITH |LONG HORIZONTAL STROKE,VERTICAL BAR AT END OF HORIZONTAL STROKE",
  "||SMALL ELEMENT OF WITH VERTICAL BAR AT END OF HORIZONTAL STROKE",
  "|ELEMENT OF WITH |DOT ABOVE,OVERBAR",
  "||SMALL ELEMENT OF WITH OVERBAR",
  "|ELEMENT OF WITH |UNDERBAR,TWO HORIZONTAL STROKES",
  "|CONTAINS WITH |LONG HORIZONTAL STROKE,VERTICAL BAR AT END OF HORIZONTAL STROKE",
  "||SMALL CONTAINS WITH VERTICAL BAR AT END OF HORIZONTAL STROKE,CONTAINS WITH OVERBAR,SMALL CONTAINS WITH OVERBAR",
  "||Z NOTATION BAG MEMBERSHIP,DIAMETER SIGN,ELECTRIC ARROW,HOUSE,UP ARROWHEAD,DOWN ARROWHEAD",
  "||PROJECTIVE,PERSPECTIVE,WAVY LINE,LEFT CEILING,RIGHT CEILING,LEFT FLOOR,RIGHT FLOOR,BOTTOM RIGHT CROP",
  "||BOTTOM LEFT CROP,TOP RIGHT CROP,TOP LEFT CROP,REVERSED NOT SIGN,SQUARE LOZENGE,ARC,SEGMENT,SECTOR",
  "||TELEPHONE RECORDER,POSITION INDICATOR,VIEWDATA SQUARE,PLACE OF INTEREST SIGN,TURNED NOT SIGN,WATCH,HOURGLASS",
  "||TOP LEFT CORNER,TOP RIGHT CORNER,BOTTOM LEFT CORNER,BOTTOM RIGHT CORNER,TOP HALF INTEGRAL,BOTTOM HALF INTEGRAL",
  "||FROWN,SMILE,UP ARROWHEAD BETWEEN TWO HORIZONTAL BARS,OPTION KEY,ERASE TO THE RIGHT,X IN A RECTANGLE BOX",
  "||KEYBOARD,LEFT-POINTING ANGLE BRACKET,RIGHT-POINTING ANGLE BRACKET,ERASE TO THE LEFT,BENZENE RING,CYLINDRICITY",
  "||ALL AROUND-PROFILE,SYMMETRY,TOTAL RUNOUT,DIMENSION ORIGIN,CONICAL TAPER,SLOPE,COUNTERBORE,COUNTERSINK",
  "|APL FUNCTIONAL SYMBOL |I-BEAM,SQUISH QUAD,QUAD EQUAL,QUAD DIVIDE,QUAD DIAMOND,QUAD JOT,QUAD CIRCLE",
  "|APL FUNCTIONAL SYMBOL |CIRCLE STILE,CIRCLE JOT,SLASH BAR,BACKSLASH BAR,QUAD SLASH,QUAD BACKSLASH,QUAD LESS-THAN",
  "|APL FUNCTIONAL SYMBOL |QUAD GREATER-THAN,LEFTWARDS VANE,RIGHTWARDS VANE,QUAD LEFTWARDS ARROW,QUAD RIGHTWARDS ARROW",
  "|APL FUNCTIONAL SYMBOL |CIRCLE BACKSLASH,DOWN TACK UNDERBAR,DELTA STILE,QUAD DOWN CARET,QUAD DELTA",
  "|APL FUNCTIONAL SYMBOL |DOWN TACK JOT,UPWARDS VANE,QUAD UPWARDS ARROW,UP TACK OVERBAR,DEL STILE,QUAD UP CARET",
  "|APL FUNCTIONAL SYMBOL |QUAD DEL,UP TACK JOT,DOWNWARDS VANE,QUAD DOWNWARDS ARROW,QUOTE UNDERBAR,DELTA UNDERBAR",
  "|APL FUNCTIONAL SYMBOL |DIAMOND UNDERBAR,JOT UNDERBAR,CIRCLE UNDERBAR,UP SHOE JOT,QUOTE QUAD,CIRCLE STAR",
  "|APL FUNCTIONAL SYMBOL |QUAD COLON,UP TACK DIAERESIS,DEL DIAERESIS,STAR DIAERESIS,JOT DIAERESIS,CIRCLE DIAERESIS",
  "|APL FUNCTIONAL SYMBOL |DOWN SHOE STILE,LEFT SHOE STILE,TILDE DIAERESIS,GREATER-THAN DIAERESIS,COMMA BAR,DEL TILDE",
  "|APL FUNCTIONAL SYMBOL |ZILDE,STILE TILDE,SEMICOLON UNDERBAR,QUAD NOT EQUAL,QUAD QUESTION,DOWN CARET TILDE",
  "|APL FUNCTIONAL SYMBOL |UP CARET TILDE,IOTA,RHO,OMEGA,ALPHA UNDERBAR,EPSILON UNDERBAR,IOTA UNDERBAR,OMEGA UNDERBAR",
  "||APL FUNCTIONAL SYMBOL ALPHA,NOT CHECK MARK",
  "||RIGHT ANGLE WITH DOWNWARDS ZIGZAG ARROW,SHOULDERED OPEN BOX,BELL SYMBOL,VERTICAL LINE WITH MIDDLE DOT",
  "||INSERTION SYMBOL,CONTINUOUS UNDERLINE SYMBOL,DISCONTINUOUS UNDERLINE SYMBOL,EMPHASIS SYMBOL",
  "||COMPOSITION SYMBOL,WHITE SQUARE WITH CENTRE VERTICAL LINE,ENTER SYMBOL,ALTERNATIVE KEY SYMBOL,HELM SYMBOL",
  "|CIRCLED |HORIZONTAL BAR WITH NOTCH,TRIANGLE DOWN",
  "||BROKEN CIRCLE WITH NORTHWEST ARROW,UNDO SYMBOL,MONOSTABLE SYMBOL,HYSTERESIS SYMBOL",
  "|OPEN-CIRCUIT-OUTPUT |H-TYPE SYMBOL,L-TYPE SYMBOL",
  "|PASSIVE-PULL-|DOWN-OUTPUT SYMBOL,UP-OUTPUT SYMBOL",
  "||DIRECT CURRENT SYMBOL FORM TWO,SOFTWARE-FUNCTION SYMBOL,APL FUNCTIONAL SYMBOL QUAD",
  "||DECIMAL SEPARATOR KEY SYMBOL,PREVIOUS PAGE,NEXT PAGE,PRINT SCREEN SYMBOL,CLEAR SCREEN SYMBOL",
  "|LEFT PARENTHESIS |UPPER HOOK,EXTENSION,LOWER HOOK",
  "|RIGHT PARENTHESIS |UPPER HOOK,EXTENSION,LOWER HOOK",
  "|LEFT SQUARE BRACKET |UPPER CORNER,EXTENSION,LOWER CORNER",
  "|RIGHT SQUARE BRACKET |UPPER CORNER,EXTENSION,LOWER CORNER",
  "|LEFT CURLY BRACKET |UPPER HOOK,MIDDLE PIECE,LOWER HOOK",
  "||CURLY BRACKET EXTENSION",
  "|RIGHT CURLY BRACKET |UPPER HOOK,MIDDLE PIECE,LOWER HOOK",
  "||INTEGRAL EXTENSION,HORIZONTAL LINE EXTENSION",
  "|UPPER |LEFT OR LOWER RIGHT CURLY BRACKET SECTION,RIGHT OR LOWER LEFT CURLY BRACKET SECTION",
  "|SUMMATION |TOP,BOTTOM",
  "||TOP SQUARE BRACKET",
  "|BOTTOM SQUARE |BRACKET,BRACKET OVER TOP SQUARE BRACKET",
  "||RADICAL SYMBOL BOTTOM,LEFT VERTICAL BOX LINE,RIGHT VERTICAL BOX LINE",
  "|HORIZONTAL SCAN LINE-|1,3,7,9",
  "|DENTISTRY SYMBOL LIGHT VERTICAL |AND TOP RIGHT,AND BOTTOM RIGHT,WITH CIRCLE",
  "|DENTISTRY SYMBOL LIGHT |DOWN AND HORIZONTAL WITH CIRCLE,UP AND HORIZONTAL WITH CIRCLE",
  "|DENTISTRY SYMBOL LIGHT |VERTICAL WITH TRIANGLE,DOWN AND HORIZONTAL WITH TRIANGLE,UP AND HORIZONTAL WITH TRIANGLE",
  "|DENTISTRY SYMBOL LIGHT |VERTICAL AND WAVE,DOWN AND HORIZONTAL WITH WAVE,UP AND HORIZONTAL WITH WAVE",
  "|DENTISTRY SYMBOL LIGHT |DOWN AND HORIZONTAL,UP AND HORIZONTAL,VERTICAL AND TOP LEFT,VERTICAL AND BOTTOM LEFT",
  "||SQUARE FOOT,RETURN SYMBOL,EJECT SYMBOL,VERTICAL LINE EXTENSION",
  "|METRICAL |BREVE,LONG OVER SHORT",
  "|METRICAL |SHORT OVER LONG,LONG OVER TWO SHORTS,TWO SHORTS OVER LONG,TWO SHORTS JOINED,TRISEME,TETRASEME,PENTASEME",
  "||EARTH GROUND,FUSE,TOP PARENTHESIS,BOTTOM PARENTHESIS",
  "||TOP CURLY BRACKET,BOTTOM CURLY BRACKET,TOP TORTOISE SHELL BRACKET,BOTTOM TORTOISE SHELL BRACKET,WHITE TRAPEZIUM",
  "||BENZENE RING WITH CIRCLE,STRAIGHTNESS,FLATNESS,AC CURRENT,ELECTRICAL INTERSECTION,DECIMAL EXPONENT SYMBOL",
  "|BLACK |RIGHT-POINTING DOUBLE TRIANGLE,LEFT-POINTING DOUBLE TRIANGLE",
  "|BLACK |UP-POINTING DOUBLE TRIANGLE,DOWN-POINTING DOUBLE TRIANGLE,RIGHT-POINTING DOUBLE TRIANGLE WITH VERTICAL BAR",
  "|BLACK |LEFT-POINTING DOUBLE TRIANGLE WITH VERTICAL BAR,RIGHT-POINTING TRIANGLE WITH DOUBLE VERTICAL BAR",
  "||ALARM CLOCK,STOPWATCH,TIMER CLOCK,HOURGLASS WITH FLOWING SAND",
  "|BLACK MEDIUM |LEFT-POINTING TRIANGLE,RIGHT-POINTING TRIANGLE,UP-POINTING TRIANGLE,DOWN-POINTING TRIANGLE",
  "||DOUBLE VERTICAL BAR,BLACK SQUARE FOR STOP,BLACK CIRCLE FOR RECORD",
  "|POWER |SYMBOL,ON-OFF SYMBOL,ON SYMBOL,SLEEP SYMBOL",
  "||OBSERVER EYE SYMBOL",
  "|SYMBOL FOR |NULL,START OF HEADING",
  "|SYMBOL FOR |START OF TEXT,END OF TEXT,END OF TRANSMISSION,ENQUIRY,ACKNOWLEDGE,BELL,BACKSPACE,HORIZONTAL TABULATION",
  "|SYMBOL FOR |LINE FEED,VERTICAL TABULATION,FORM FEED,CARRIAGE RETURN,SHIFT OUT,SHIFT IN,DATA LINK ESCAPE",
  "|SYMBOL FOR DEVICE CONTROL |ONE,TWO,THREE,FOUR",
  "|SYMBOL FOR |NEGATIVE ACKNOWLEDGE,SYNCHRONOUS IDLE,END OF TRANSMISSION BLOCK,CANCEL,END OF MEDIUM",
  "|SYMBOL FOR |SUBSTITUTE,ESCAPE,FILE SEPARATOR,GROUP SEPARATOR,RECORD SEPARATOR,UNIT SEPARATOR,SPACE,DELETE",
  "||BLANK SYMBOL,OPEN BOX",
  "|SYMBOL FOR |NEWLINE,DELETE FORM TWO,SUBSTITUTE FORM TWO",
  "2440|OCR |HOOK,CHAIR,FORK,INVERTED FORK",
  "|OCR |BELT BUCKLE,BOW TIE,BRANCH BANK IDENTIFICATION,AMOUNT OF CHECK,DASH,CUSTOMER ACCOUNT NUMBER,DOUBLE BACKSLASH",
  "2460|CIRCLED DIGIT |ONE,TWO,THREE,FOUR,FIVE,SIX,SEVEN,EIGHT,NINE",
  "|CIRCLED NUMBER |TEN,ELEVEN,TWELVE,THIRTEEN,FOURTEEN,FIFTEEN,SIXTEEN,SEVENTEEN,EIGHTEEN,NINETEEN,TWENTY",
  "|PARENTHESIZED DIGIT |ONE,TWO,THREE,FOUR,FIVE,SIX,SEVEN,EIGHT,NINE",
  "|PARENTHESIZED NUMBER |TEN,ELEVEN,TWELVE,THIRTEEN,FOURTEEN,FIFTEEN,SIXTEEN,SEVENTEEN,EIGHTEEN,NINETEEN,TWENTY",
  "|DIGIT |ONE FULL STOP,TWO FULL STOP",
  "|DIGIT |THREE FULL STOP,FOUR FULL STOP,FIVE FULL STOP,SIX FULL STOP,SEVEN FULL STOP,EIGHT FULL STOP,NINE FULL STOP",
  "|NUMBER |TEN FULL STOP,ELEVEN FULL STOP,TWELVE FULL STOP,THIRTEEN FULL STOP,FOURTEEN FULL STOP,FIFTEEN FULL STOP",
  "|NUMBER |SIXTEEN FULL STOP,SEVENTEEN FULL STOP,EIGHTEEN FULL STOP,NINETEEN FULL STOP,TWENTY FULL STOP",
  "|PARENTHESIZED LATIN SMALL LETTER |A,B,C,D,E,F,G,H,I,J,K,L,M,N,O,P,Q,R,S,T,U,V,W,X,Y,Z",
  "|CIRCLED LATIN CAPITAL LETTER |A,B,C,D,E,F,G,H,I,J,K,L,M,N,O,P,Q,R,S,T,U,V,W,X,Y,Z",
  "|CIRCLED LATIN SMALL LETTER |A,B,C,D,E,F,G,H,I,J,K,L,M,N,O,P,Q,R,S,T,U,V,W,X,Y,Z",
  "||CIRCLED DIGIT ZERO",
  "|NEGATIVE CIRCLED NUMBER |ELEVEN,TWELVE,THIRTEEN,FOURTEEN,FIFTEEN,SIXTEEN,SEVENTEEN,EIGHTEEN,NINETEEN,TWENTY",
  "|DOUBLE CIRCLED DIGIT |ONE,TWO,THREE,FOUR,FIVE,SIX,SEVEN,EIGHT,NINE",
  "||DOUBLE CIRCLED NUMBER TEN,NEGATIVE CIRCLED DIGIT ZERO",
  "|BOX DRAWINGS |LIGHT HORIZONTAL,HEAVY HORIZONTAL,LIGHT VERTICAL",
  "|BOX DRAWINGS |HEAVY VERTICAL,LIGHT TRIPLE DASH HORIZONTAL,HEAVY TRIPLE DASH HORIZONTAL,LIGHT TRIPLE DASH VERTICAL",
  "|BOX DRAWINGS |HEAVY TRIPLE DASH VERTICAL,LIGHT QUADRUPLE DASH HORIZONTAL,HEAVY QUADRUPLE DASH HORIZONTAL",
  "|BOX DRAWINGS |LIGHT QUADRUPLE DASH VERTICAL,HEAVY QUADRUPLE DASH VERTICAL,LIGHT DOWN AND RIGHT",
  "|BOX DRAWINGS |DOWN LIGHT AND RIGHT HEAVY,DOWN HEAVY AND RIGHT LIGHT,HEAVY DOWN AND RIGHT,LIGHT DOWN AND LEFT",
  "|BOX DRAWINGS |DOWN LIGHT AND LEFT HEAVY,DOWN HEAVY AND LEFT LIGHT,HEAVY DOWN AND LEFT,LIGHT UP AND RIGHT",
  "|BOX DRAWINGS |UP LIGHT AND RIGHT HEAVY,UP HEAVY AND RIGHT LIGHT,HEAVY UP AND RIGHT,LIGHT UP AND LEFT",
  "|BOX DRAWINGS |UP LIGHT AND LEFT HEAVY,UP HEAVY AND LEFT LIGHT,HEAVY UP AND LEFT,LIGHT VERTICAL AND RIGHT",
  "|BOX DRAWINGS |VERTICAL LIGHT AND RIGHT HEAVY,UP HEAVY AND RIGHT DOWN LIGHT,DOWN HEAVY AND RIGHT UP LIGHT",
  "|BOX DRAWINGS |VERTICAL HEAVY AND RIGHT LIGHT,DOWN LIGHT AND RIGHT UP HEAVY,UP LIGHT AND RIGHT DOWN HEAVY",
  "|BOX DRAWINGS |HEAVY VERTICAL AND RIGHT,LIGHT VERTICAL AND LEFT,VERTICAL LIGHT AND LEFT HEAVY",
  "|BOX DRAWINGS |UP HEAVY AND LEFT DOWN LIGHT,DOWN HEAVY AND LEFT UP LIGHT,VERTICAL HEAVY AND LEFT LIGHT",
  "|BOX DRAWINGS |DOWN LIGHT AND LEFT UP HEAVY,UP LIGHT AND LEFT DOWN HEAVY,HEAVY VERTICAL AND LEFT",
  "|BOX DRAWINGS |LIGHT DOWN AND HORIZONTAL,LEFT HEAVY AND RIGHT DOWN LIGHT,RIGHT HEAVY AND LEFT DOWN LIGHT",
  "|BOX DRAWINGS |DOWN LIGHT AND HORIZONTAL HEAVY,DOWN HEAVY AND HORIZONTAL LIGHT,RIGHT LIGHT AND LEFT DOWN HEAVY",
  "|BOX DRAWINGS |LEFT LIGHT AND RIGHT DOWN HEAVY,HEAVY DOWN AND HORIZONTAL,LIGHT UP AND HORIZONTAL",
  "|BOX DRAWINGS |LEFT HEAVY AND RIGHT UP LIGHT,RIGHT HEAVY AND LEFT UP LIGHT,UP LIGHT AND HORIZONTAL HEAVY",
  "|BOX DRAWINGS |UP HEAVY AND HORIZONTAL LIGHT,RIGHT LIGHT AND LEFT UP HEAVY,LEFT LIGHT AND RIGHT UP HEAVY",
  "|BOX DRAWINGS |HEAVY UP AND HORIZONTAL,LIGHT VERTICAL AND HORIZONTAL,LEFT HEAVY AND RIGHT VERTICAL LIGHT",
  "|BOX DRAWINGS |RIGHT HEAVY AND LEFT VERTICAL LIGHT,VERTICAL LIGHT AND HORIZONTAL HEAVY",
  "|BOX DRAWINGS |UP HEAVY AND DOWN HORIZONTAL LIGHT,DOWN HEAVY AND UP HORIZONTAL LIGHT",
  "|BOX DRAWINGS |VERTICAL HEAVY AND HORIZONTAL LIGHT,LEFT UP HEAVY AND RIGHT DOWN LIGHT",
  "|BOX DRAWINGS |RIGHT UP HEAVY AND LEFT DOWN LIGHT,LEFT DOWN HEAVY AND RIGHT UP LIGHT",
  "|BOX DRAWINGS |RIGHT DOWN HEAVY AND LEFT UP LIGHT,DOWN LIGHT AND UP HORIZONTAL HEAVY",
  "|BOX DRAWINGS |UP LIGHT AND DOWN HORIZONTAL HEAVY,RIGHT LIGHT AND LEFT VERTICAL HEAVY",
  "|BOX DRAWINGS |LEFT LIGHT AND RIGHT VERTICAL HEAVY,HEAVY VERTICAL AND HORIZONTAL,LIGHT DOUBLE DASH HORIZONTAL",
  "|BOX DRAWINGS |HEAVY DOUBLE DASH HORIZONTAL,LIGHT DOUBLE DASH VERTICAL,HEAVY DOUBLE DASH VERTICAL",
  "|BOX DRAWINGS |DOUBLE HORIZONTAL,DOUBLE VERTICAL,DOWN SINGLE AND RIGHT DOUBLE,DOWN DOUBLE AND RIGHT SINGLE",
  "|BOX DRAWINGS |DOUBLE DOWN AND RIGHT,DOWN SINGLE AND LEFT DOUBLE,DOWN DOUBLE AND LEFT SINGLE,DOUBLE DOWN AND LEFT",
  "|BOX DRAWINGS |UP SINGLE AND RIGHT DOUBLE,UP DOUBLE AND RIGHT SINGLE,DOUBLE UP AND RIGHT,UP SINGLE AND LEFT DOUBLE",
  "|BOX DRAWINGS |UP DOUBLE AND LEFT SINGLE,DOUBLE UP AND LEFT,VERTICAL SINGLE AND RIGHT DOUBLE",
  "|BOX DRAWINGS |VERTICAL DOUBLE AND RIGHT SINGLE,DOUBLE VERTICAL AND RIGHT,VERTICAL SINGLE AND LEFT DOUBLE",
  "|BOX DRAWINGS |VERTICAL DOUBLE AND LEFT SINGLE,DOUBLE VERTICAL AND LEFT,DOWN SINGLE AND HORIZONTAL DOUBLE",
  "|BOX DRAWINGS |DOWN DOUBLE AND HORIZONTAL SINGLE,DOUBLE DOWN AND HORIZONTAL,UP SINGLE AND HORIZONTAL DOUBLE",
  "|BOX DRAWINGS |UP DOUBLE AND HORIZONTAL SINGLE,DOUBLE UP AND HORIZONTAL,VERTICAL SINGLE AND HORIZONTAL DOUBLE",
  "|BOX DRAWINGS |VERTICAL DOUBLE AND HORIZONTAL SINGLE,DOUBLE VERTICAL AND HORIZONTAL",
  "|BOX DRAWINGS LIGHT ARC |DOWN AND RIGHT,DOWN AND LEFT,UP AND LEFT,UP AND RIGHT",
  "|BOX DRAWINGS LIGHT DIAGONAL |UPPER RIGHT TO LOWER LEFT,UPPER LEFT TO LOWER RIGHT,CROSS",
  "|BOX DRAWINGS LIGHT |LEFT,UP,RIGHT,DOWN",
  "|BOX DRAWINGS HEAVY |LEFT,UP,RIGHT,DOWN",
  "|BOX DRAWINGS LIGHT |LEFT AND HEAVY RIGHT,UP AND HEAVY DOWN",
  "|BOX DRAWINGS HEAVY |LEFT AND LIGHT RIGHT,UP AND LIGHT DOWN",
  "||UPPER HALF BLOCK",
  "|LOWER |ONE EIGHTH BLOCK,ONE QUARTER BLOCK,THREE EIGHTHS BLOCK,HALF BLOCK,FIVE EIGHTHS BLOCK,THREE QUARTERS BLOCK",
  "||LOWER SEVEN EIGHTHS BLOCK,FULL BLOCK,LEFT SEVEN EIGHTHS BLOCK",
  "|LEFT |THREE QUARTERS BLOCK,FIVE EIGHTHS BLOCK,HALF BLOCK,THREE EIGHTHS BLOCK,ONE QUARTER BLOCK,ONE EIGHTH BLOCK",
  "||RIGHT HALF BLOCK,LIGHT SHADE,MEDIUM SHADE,DARK SHADE,UPPER ONE EIGHTH BLOCK,RIGHT ONE EIGHTH BLOCK",
  "|QUADRANT |LOWER LEFT,LOWER RIGHT,UPPER LEFT",
  "|QUADRANT UPPER LEFT AND LOWER |LEFT AND LOWER RIGHT,RIGHT",
  "|QUADRANT UPPER LEFT AND UPPER RIGHT AND LOWER |LEFT,RIGHT",
  "|QUADRANT UPPER |RIGHT,RIGHT AND LOWER LEFT,RIGHT AND LOWER LEFT AND LOWER RIGHT",
  "||BLACK SQUARE,WHITE SQUARE",
  "|WHITE SQUARE |WITH ROUNDED CORNERS,CONTAINING BLACK SMALL SQUARE",
  "|SQUARE WITH |HORIZONTAL FILL,VERTICAL FILL,ORTHOGONAL CROSSHATCH FILL",
  "|SQUARE WITH |UPPER LEFT TO LOWER RIGHT FILL,UPPER RIGHT TO LOWER LEFT FILL,DIAGONAL CROSSHATCH FILL",
  "||BLACK SMALL SQUARE,WHITE SMALL SQUARE,BLACK RECTANGLE,WHITE RECTANGLE,BLACK VERTICAL RECTANGLE",
  "||WHITE VERTICAL RECTANGLE,BLACK PARALLELOGRAM,WHITE PARALLELOGRAM,BLACK UP-POINTING TRIANGLE",
  "||WHITE UP-POINTING TRIANGLE,BLACK UP-POINTING SMALL TRIANGLE,WHITE UP-POINTING SMALL TRIANGLE",
  "||BLACK RIGHT-POINTING TRIANGLE,WHITE RIGHT-POINTING TRIANGLE,BLACK RIGHT-POINTING SMALL TRIANGLE",
  "||WHITE RIGHT-POINTING SMALL TRIANGLE,BLACK RIGHT-POINTING POINTER,WHITE RIGHT-POINTING POINTER",
  "||BLACK DOWN-POINTING TRIANGLE,WHITE DOWN-POINTING TRIANGLE,BLACK DOWN-POINTING SMALL TRIANGLE",
  "||WHITE DOWN-POINTING SMALL TRIANGLE,BLACK LEFT-POINTING TRIANGLE,WHITE LEFT-POINTING TRIANGLE",
  "||BLACK LEFT-POINTING SMALL TRIANGLE,WHITE LEFT-POINTING SMALL TRIANGLE,BLACK LEFT-POINTING POINTER",
  "||WHITE LEFT-POINTING POINTER,BLACK DIAMOND,WHITE DIAMOND,WHITE DIAMOND CONTAINING BLACK SMALL DIAMOND",
  "||FISHEYE,LOZENGE,WHITE CIRCLE,DOTTED CIRCLE,CIRCLE WITH VERTICAL FILL,BULLSEYE,BLACK CIRCLE",
  "|CIRCLE WITH |LEFT HALF BLACK,RIGHT HALF BLACK,LOWER HALF BLACK,UPPER HALF BLACK,UPPER RIGHT QUADRANT BLACK",
  "||CIRCLE WITH ALL BUT UPPER LEFT QUADRANT BLACK,LEFT HALF BLACK CIRCLE,RIGHT HALF BLACK CIRCLE",
  "|INVERSE |BULLET,WHITE CIRCLE",
  "||UPPER HALF INVERSE WHITE CIRCLE,LOWER HALF INVERSE WHITE CIRCLE",
  "|UPPER |LEFT QUADRANT CIRCULAR ARC,RIGHT QUADRANT CIRCULAR ARC",
  "||LOWER RIGHT QUADRANT CIRCULAR ARC,LOWER LEFT QUADRANT CIRCULAR ARC,UPPER HALF CIRCLE,LOWER HALF CIRCLE",
  "|BLACK |LOWER RIGHT TRIANGLE,LOWER LEFT TRIANGLE,UPPER LEFT TRIANGLE,UPPER RIGHT TRIANGLE",
  "||WHITE BULLET",
  "|SQUARE WITH |LEFT HALF BLACK,RIGHT HALF BLACK,UPPER LEFT DIAGONAL HALF BLACK,LOWER RIGHT DIAGONAL HALF BLACK",
  "|WHITE |SQUARE WITH VERTICAL BISECTING LINE,UP-POINTING TRIANGLE WITH DOT",
  "|UP-POINTING TRIANGLE WITH |LEFT HALF BLACK,RIGHT HALF BLACK",
  "||LARGE CIRCLE",
  "|WHITE SQUARE WITH |UPPER LEFT QUADRANT,LOWER LEFT QUADRANT,LOWER RIGHT QUADRANT,UPPER RIGHT QUADRANT",
  "|WHITE CIRCLE WITH |UPPER LEFT QUADRANT,LOWER LEFT QUADRANT,LOWER RIGHT QUADRANT,UPPER RIGHT QUADRANT",
  "|UPPER |LEFT TRIANGLE,RIGHT TRIANGLE",
  "||LOWER LEFT TRIANGLE,WHITE MEDIUM SQUARE,BLACK MEDIUM SQUARE,WHITE MEDIUM SMALL SQUARE,BLACK MEDIUM SMALL SQUARE",
  "||LOWER RIGHT TRIANGLE,BLACK SUN WITH RAYS,CLOUD,UMBRELLA,SNOWMAN,COMET,BLACK STAR,WHITE STAR,LIGHTNING",
  "||THUNDERSTORM,SUN,ASCENDING NODE,DESCENDING NODE,CONJUNCTION,OPPOSITION,BLACK TELEPHONE,WHITE TELEPHONE,BALLOT BOX",
  "|BALLOT BOX WITH |CHECK,X",
  "||SALTIRE,UMBRELLA WITH RAIN DROPS,HOT BEVERAGE,WHITE SHOGI PIECE,BLACK SHOGI PIECE",
  "||SHAMROCK,REVERSED ROTATED FLORAL HEART BULLET,BLACK LEFT POINTING INDEX,BLACK RIGHT POINTING INDEX",
  "|WHITE |LEFT POINTING INDEX,UP POINTING INDEX,RIGHT POINTING INDEX,DOWN POINTING INDEX",
  "||SKULL AND CROSSBONES,CAUTION SIGN,RADIOACTIVE SIGN,BIOHAZARD SIGN,CADUCEUS,ANKH,ORTHODOX CROSS,CHI RHO",
  "|CROSS OF |LORRAINE,JERUSALEM",
  "||STAR AND CRESCENT,FARSI SYMBOL,ADI SHAKTI,HAMMER AND SICKLE,PEACE SYMBOL,YIN YANG",
  "|TRIGRAM FOR |HEAVEN,LAKE,FIRE,THUNDER,WIND,WATER,MOUNTAIN,EARTH",
  "||WHEEL OF DHARMA,WHITE FROWNING FACE,WHITE SMILING FACE,BLACK SMILING FACE",
  "||WHITE SUN WITH RAYS,FIRST QUARTER MOON,LAST QUARTER MOON,MERCURY,FEMALE SIGN,EARTH,MALE SIGN,JUPITER,SATURN",
  "||URANUS,NEPTUNE,PLUTO,ARIES,TAURUS,GEMINI,CANCER,LEO,VIRGO,LIBRA,SCORPIUS,SAGITTARIUS,CAPRICORN,AQUARIUS,PISCES",
  "|WHITE CHESS |KING,QUEEN,ROOK,BISHOP,KNIGHT,PAWN",
  "|BLACK CHESS |KING,QUEEN,ROOK,BISHOP,KNIGHT,PAWN",
  "||BLACK SPADE SUIT,WHITE HEART SUIT,WHITE DIAMOND SUIT,BLACK CLUB SUIT",
  "||WHITE SPADE SUIT,BLACK HEART SUIT,BLACK DIAMOND SUIT,WHITE CLUB SUIT,HOT SPRINGS,QUARTER NOTE,EIGHTH NOTE",
  "|BEAMED |EIGHTH NOTES,SIXTEENTH NOTES",
  "|MUSIC |FLAT SIGN,NATURAL SIGN,SHARP SIGN",
  "||WEST SYRIAC CROSS,EAST SYRIAC CROSS,UNIVERSAL RECYCLING SYMBOL",
  "|RECYCLING SYMBOL FOR TYPE-|1 PLASTICS,2 PLASTICS,3 PLASTICS,4 PLASTICS,5 PLASTICS,6 PLASTICS,7 PLASTICS",
  "||RECYCLING SYMBOL FOR GENERIC MATERIALS,BLACK UNIVERSAL RECYCLING SYMBOL",
  "||RECYCLED PAPER SYMBOL,PARTIALLY-RECYCLED PAPER SYMBOL,PERMANENT PAPER SIGN,WHEELCHAIR SYMBOL",
  "|DIE FACE-|1,2,3,4,5,6",
  "|WHITE CIRCLE WITH |DOT RIGHT,TWO DOTS",
  "|BLACK CIRCLE WITH |WHITE DOT RIGHT,TWO WHITE DOTS",
  "|MONOGRAM FOR |YANG,YIN",
  "|DIGRAM FOR |GREATER YANG,LESSER YIN,LESSER YANG,GREATER YIN",
  "||WHITE FLAG,BLACK FLAG,HAMMER AND PICK,ANCHOR,CROSSED SWORDS",
  "||STAFF OF AESCULAPIUS,SCALES,ALEMBIC,FLOWER,GEAR,STAFF OF HERMES,ATOM SYMBOL,FLEUR-DE-LIS,OUTLINED WHITE STAR",
  "|THREE LINES CONVERGING |RIGHT,LEFT",
  "||WARNING SIGN,HIGH VOLTAGE SIGN",
  "|DOUBLED |FEMALE SIGN,MALE SIGN",
  "||INTERLOCKED FEMALE AND MALE SIGN,MALE AND FEMALE SIGN",
  "|MALE WITH STROKE |SIGN,AND MALE AND FEMALE SIGN",
  "||VERTICAL MALE WITH STROKE SIGN,HORIZONTAL MALE WITH STROKE SIGN",
  "|MEDIUM |WHITE CIRCLE,BLACK CIRCLE,SMALL WHITE CIRCLE",
  "||MARRIAGE SYMBOL,DIVORCE SYMBOL,UNMARRIED PARTNERSHIP SYMBOL,COFFIN,FUNERAL URN,NEUTER,CERES,PALLAS",
  "||JUNO,VESTA,CHIRON,BLACK MOON LILITH,SEXTILE,SEMISEXTILE,QUINCUNX,SESQUIQUADRATE,SOCCER BALL,BASEBALL,SQUARED KEY",
  "|WHITE DRAUGHTS |MAN,KING",
  "|BLACK DRAUGHTS |MAN,KING",
  "||SNOWMAN WITHOUT SNOW,SUN BEHIND CLOUD,RAIN",
  "||BLACK SNOWMAN,THUNDER CLOUD AND RAIN,TURNED WHITE SHOGI PIECE,TURNED BLACK SHOGI PIECE,WHITE DIAMOND IN SQUARE",
  "||CROSSING LANES,DISABLED CAR,OPHIUCHUS,PICK,CAR SLIDING,HELMET WITH WHITE CROSS,CIRCLED CROSSING LANES",
  "||CHAINS,NO ENTRY,ALTERNATE ONE-WAY LEFT WAY TRAFFIC,BLACK TWO-WAY LEFT WAY TRAFFIC,WHITE TWO-WAY LEFT WAY TRAFFIC",
  "||BLACK LEFT LANE MERGE,WHITE LEFT LANE MERGE,DRIVE SLOW SIGN,HEAVY WHITE DOWN-POINTING TRIANGLE",
  "||LEFT CLOSED ENTRY,SQUARED SALTIRE,FALLING DIAGONAL IN WHITE CIRCLE IN BLACK SQUARE,BLACK TRUCK",
  "|RESTRICTED LEFT ENTRY-|1,2",
  "||ASTRONOMICAL SYMBOL FOR URANUS,HEAVY CIRCLE WITH STROKE AND TWO DOTS ABOVE",
  "||PENTAGRAM,RIGHT-HANDED INTERLACED PENTAGRAM,LEFT-HANDED INTERLACED PENTAGRAM",
  "||INVERTED PENTAGRAM,BLACK CROSS ON SHIELD,SHINTO SHRINE,CHURCH,CASTLE,HISTORIC SITE,GEAR WITHOUT HUB",
  "||GEAR WITH HANDLES,MAP SYMBOL FOR LIGHTHOUSE,MOUNTAIN,UMBRELLA ON GROUND,FOUNTAIN,FLAG IN HOLE,FERRY,SAILBOAT",
  "||SQUARE FOUR CORNERS,SKIER,ICE SKATE,PERSON WITH BALL,TENT,JAPANESE BANK SYMBOL,HEADSTONE GRAVEYARD SYMBOL",
  "||FUEL PUMP,CUP ON BLACK SQUARE,WHITE FLAG WITH HORIZONTAL MIDDLE BLACK STRIPE,BLACK SAFETY SCISSORS",
  "||UPPER BLADE SCISSORS,BLACK SCISSORS,LOWER BLADE SCISSORS,WHITE SCISSORS,WHITE HEAVY CHECK MARK",
  "||TELEPHONE LOCATION SIGN,TAPE DRIVE,AIRPLANE,ENVELOPE,RAISED FIST,RAISED HAND,VICTORY HAND,WRITING HAND",
  "||LOWER RIGHT PENCIL,PENCIL,UPPER RIGHT PENCIL,WHITE NIB,BLACK NIB,CHECK MARK,HEAVY CHECK MARK,MULTIPLICATION X",
  "||HEAVY MULTIPLICATION X,BALLOT X,HEAVY BALLOT X,OUTLINED GREEK CROSS,HEAVY GREEK CROSS,OPEN CENTRE CROSS",
  "||HEAVY OPEN CENTRE CROSS,LATIN CROSS,SHADOWED WHITE LATIN CROSS,OUTLINED LATIN CROSS,MALTESE CROSS",
  "||STAR OF DAVID,FOUR TEARDROP-SPOKED ASTERISK,FOUR BALLOON-SPOKED ASTERISK,HEAVY FOUR BALLOON-SPOKED ASTERISK",
  "||FOUR CLUB-SPOKED ASTERISK,BLACK FOUR POINTED STAR,WHITE FOUR POINTED STAR,SPARKLES,STRESS OUTLINED WHITE STAR",
  "||CIRCLED WHITE STAR,OPEN CENTRE BLACK STAR,BLACK CENTRE WHITE STAR,OUTLINED BLACK STAR,HEAVY OUTLINED BLACK STAR",
  "||PINWHEEL STAR,SHADOWED WHITE STAR,HEAVY ASTERISK,OPEN CENTRE ASTERISK,EIGHT SPOKED ASTERISK",
  "|EIGHT POINTED |BLACK STAR,PINWHEEL STAR",
  "||SIX POINTED BLACK STAR,EIGHT POINTED RECTILINEAR BLACK STAR,HEAVY EIGHT POINTED RECTILINEAR BLACK STAR",
  "||TWELVE POINTED BLACK STAR,SIXTEEN POINTED ASTERISK,TEARDROP-SPOKED ASTERISK",
  "||OPEN CENTRE TEARDROP-SPOKED ASTERISK,HEAVY TEARDROP-SPOKED ASTERISK,SIX PETALLED BLACK AND WHITE FLORETTE",
  "||BLACK FLORETTE,WHITE FLORETTE,EIGHT PETALLED OUTLINED BLACK FLORETTE,CIRCLED OPEN CENTRE EIGHT POINTED STAR",
  "||HEAVY TEARDROP-SPOKED PINWHEEL ASTERISK,SNOWFLAKE,TIGHT TRIFOLIATE SNOWFLAKE",
  "||HEAVY CHEVRON SNOWFLAKE,SPARKLE,HEAVY SPARKLE,BALLOON-SPOKED ASTERISK,EIGHT TEARDROP-SPOKED PROPELLER ASTERISK",
  "||HEAVY EIGHT TEARDROP-SPOKED PROPELLER ASTERISK,CROSS MARK,SHADOWED WHITE CIRCLE",
  "||NEGATIVE SQUARED CROSS MARK,LOWER RIGHT DROP-SHADOWED WHITE SQUARE,UPPER RIGHT DROP-SHADOWED WHITE SQUARE",
  "||LOWER RIGHT SHADOWED WHITE SQUARE,UPPER RIGHT SHADOWED WHITE SQUARE,BLACK QUESTION MARK ORNAMENT",
  "|WHITE |QUESTION MARK ORNAMENT,EXCLAMATION MARK ORNAMENT",
  "||BLACK DIAMOND MINUS WHITE X,HEAVY EXCLAMATION MARK SYMBOL,LIGHT VERTICAL BAR,MEDIUM VERTICAL BAR",
  "|HEAVY |VERTICAL BAR,SINGLE TURNED COMMA QUOTATION MARK ORNAMENT,SINGLE COMMA QUOTATION MARK ORNAMENT",
  "|HEAVY DOUBLE |TURNED COMMA QUOTATION MARK ORNAMENT,COMMA QUOTATION MARK ORNAMENT",
  "|HEAVY LOW |SINGLE COMMA QUOTATION MARK ORNAMENT,DOUBLE COMMA QUOTATION MARK ORNAMENT",
  "||CURVED STEM PARAGRAPH SIGN ORNAMENT",
  "|HEAVY |EXCLAMATION MARK ORNAMENT,HEART EXCLAMATION MARK ORNAMENT,BLACK HEART",
  "||ROTATED HEAVY BLACK HEART BULLET,FLORAL HEART,ROTATED FLORAL HEART BULLET",
  "|MEDIUM |LEFT PARENTHESIS ORNAMENT,RIGHT PARENTHESIS ORNAMENT",
  "|MEDIUM FLATTENED |LEFT PARENTHESIS ORNAMENT,RIGHT PARENTHESIS ORNAMENT",
  "|MEDIUM |LEFT-POINTING ANGLE BRACKET ORNAMENT,RIGHT-POINTING ANGLE BRACKET ORNAMENT",
  "|HEAVY |LEFT-POINTING ANGLE QUOTATION MARK ORNAMENT,RIGHT-POINTING ANGLE QUOTATION MARK ORNAMENT",
  "|HEAVY |LEFT-POINTING ANGLE BRACKET ORNAMENT,RIGHT-POINTING ANGLE BRACKET ORNAMENT",
  "|LIGHT |LEFT TORTOISE SHELL BRACKET ORNAMENT,RIGHT TORTOISE SHELL BRACKET ORNAMENT",
  "|MEDIUM |LEFT CURLY BRACKET ORNAMENT,RIGHT CURLY BRACKET ORNAMENT",
  "|DINGBAT NEGATIVE CIRCLED DIGIT |ONE,TWO,THREE,FOUR,FIVE,SIX,SEVEN,EIGHT,NINE",
  "||DINGBAT NEGATIVE CIRCLED NUMBER TEN",
  "|DINGBAT CIRCLED SANS-SERIF DIGIT |ONE,TWO,THREE,FOUR,FIVE,SIX,SEVEN,EIGHT,NINE",
  "||DINGBAT CIRCLED SANS-SERIF NUMBER TEN",
  "|DINGBAT NEGATIVE CIRCLED SANS-SERIF DIGIT |ONE,TWO,THREE,FOUR,FIVE,SIX,SEVEN,EIGHT,NINE",
  "||DINGBAT NEGATIVE CIRCLED SANS-SERIF NUMBER TEN",
  "|HEAVY |WIDE-HEADED RIGHTWARDS ARROW,PLUS SIGN,MINUS SIGN,DIVISION SIGN,SOUTH EAST ARROW,RIGHTWARDS ARROW",
  "||HEAVY NORTH EAST ARROW,DRAFTING POINT RIGHTWARDS ARROW",
  "||HEAVY ROUND-TIPPED RIGHTWARDS ARROW,TRIANGLE-HEADED RIGHTWARDS ARROW,HEAVY TRIANGLE-HEADED RIGHTWARDS ARROW",
  "||DASHED TRIANGLE-HEADED RIGHTWARDS ARROW,HEAVY DASHED TRIANGLE-HEADED RIGHTWARDS ARROW,BLACK RIGHTWARDS ARROW",
  "|THREE-D |TOP-LIGHTED RIGHTWARDS ARROWHEAD,BOTTOM-LIGHTED RIGHTWARDS ARROWHEAD",
  "||BLACK RIGHTWARDS ARROWHEAD",
  "|HEAVY BLACK CURVED |DOWNWARDS AND RIGHTWARDS ARROW,UPWARDS AND RIGHTWARDS ARROW",
  "||SQUAT BLACK RIGHTWARDS ARROW,HEAVY CONCAVE-POINTED BLACK RIGHTWARDS ARROW,RIGHT-SHADED WHITE RIGHTWARDS ARROW",
  "||LEFT-SHADED WHITE RIGHTWARDS ARROW,BACK-TILTED SHADOWED WHITE RIGHTWARDS ARROW",
  "||FRONT-TILTED SHADOWED WHITE RIGHTWARDS ARROW,HEAVY LOWER RIGHT-SHADOWED WHITE RIGHTWARDS ARROW",
  "||HEAVY UPPER RIGHT-SHADOWED WHITE RIGHTWARDS ARROW,NOTCHED LOWER RIGHT-SHADOWED WHITE RIGHTWARDS ARROW",
  "||CURLY LOOP,NOTCHED UPPER RIGHT-SHADOWED WHITE RIGHTWARDS ARROW",
  "||CIRCLED HEAVY WHITE RIGHTWARDS ARROW,WHITE-FEATHERED RIGHTWARDS ARROW",
  "|BLACK-FEATHERED |SOUTH EAST ARROW,RIGHTWARDS ARROW,NORTH EAST ARROW",
  "|HEAVY BLACK-FEATHERED |SOUTH EAST ARROW,RIGHTWARDS ARROW,NORTH EAST ARROW",
  "||TEARDROP-BARBED RIGHTWARDS ARROW,HEAVY TEARDROP-SHANKED RIGHTWARDS ARROW",
  "||WEDGE-TAILED RIGHTWARDS ARROW,HEAVY WEDGE-TAILED RIGHTWARDS ARROW,OPEN-OUTLINED RIGHTWARDS ARROW",
  "||DOUBLE CURLY LOOP,THREE DIMENSIONAL ANGLE,WHITE TRIANGLE CONTAINING SMALL WHITE TRIANGLE",
  "||PERPENDICULAR,OPEN SUBSET,OPEN SUPERSET,LEFT S-SHAPED BAG DELIMITER",
  "||RIGHT S-SHAPED BAG DELIMITER,OR WITH DOT INSIDE,REVERSE SOLIDUS PRECEDING SUBSET,SUPERSET PRECEDING SOLIDUS",
  "||VERTICAL BAR WITH HORIZONTAL STROKE,MATHEMATICAL RISING DIAGONAL,LONG DIVISION,MATHEMATICAL FALLING DIAGONAL",
  "|SQUARED LOGICAL |AND,OR",
  "||WHITE DIAMOND WITH CENTRED DOT,AND WITH DOT,ELEMENT OF OPENING UPWARDS,LOWER RIGHT CORNER WITH DOT",
  "||UPPER LEFT CORNER WITH DOT,LEFT OUTER JOIN,RIGHT OUTER JOIN,FULL OUTER JOIN,LARGE UP TACK,LARGE DOWN TACK",
  "|LEFT AND RIGHT |DOUBLE TURNSTILE,TACK",
  "||LEFT MULTIMAP,LONG RIGHT TACK,LONG LEFT TACK,UP TACK WITH CIRCLE ABOVE,LOZENGE DIVIDED BY HORIZONTAL RULE",
  "|WHITE CONCAVE-SIDED |DIAMOND,DIAMOND WITH LEFTWARDS TICK,DIAMOND WITH RIGHTWARDS TICK",
  "|WHITE SQUARE WITH |LEFTWARDS TICK,RIGHTWARDS TICK",
  "|MATHEMATICAL |LEFT WHITE SQUARE BRACKET,RIGHT WHITE SQUARE BRACKET,LEFT ANGLE BRACKET,RIGHT ANGLE BRACKET",
  "|MATHEMATICAL |LEFT DOUBLE ANGLE BRACKET,RIGHT DOUBLE ANGLE BRACKET,LEFT WHITE TORTOISE SHELL BRACKET",
  "|MATHEMATICAL |RIGHT WHITE TORTOISE SHELL BRACKET,LEFT FLATTENED PARENTHESIS,RIGHT FLATTENED PARENTHESIS",
  "||UPWARDS QUADRUPLE ARROW,DOWNWARDS QUADRUPLE ARROW",
  "||ANTICLOCKWISE GAPPED CIRCLE ARROW,CLOCKWISE GAPPED CIRCLE ARROW,RIGHT ARROW WITH CIRCLED PLUS",
  "|LONG |LEFTWARDS ARROW,RIGHTWARDS ARROW,LEFT RIGHT ARROW,LEFTWARDS DOUBLE ARROW,RIGHTWARDS DOUBLE ARROW",
  "|LONG |LEFT RIGHT DOUBLE ARROW,LEFTWARDS ARROW FROM BAR,RIGHTWARDS ARROW FROM BAR,LEFTWARDS DOUBLE ARROW FROM BAR",
  "|LONG RIGHTWARDS |DOUBLE ARROW FROM BAR,SQUIGGLE ARROW",
  "2900|RIGHTWARDS TWO-HEADED ARROW WITH |VERTICAL STROKE,DOUBLE VERTICAL STROKE",
  "||LEFTWARDS DOUBLE ARROW WITH VERTICAL STROKE,RIGHTWARDS DOUBLE ARROW WITH VERTICAL STROKE",
  "||LEFT RIGHT DOUBLE ARROW WITH VERTICAL STROKE,RIGHTWARDS TWO-HEADED ARROW FROM BAR",
  "||LEFTWARDS DOUBLE ARROW FROM BAR,RIGHTWARDS DOUBLE ARROW FROM BAR,DOWNWARDS ARROW WITH HORIZONTAL STROKE",
  "|UPWARDS |ARROW WITH HORIZONTAL STROKE,TRIPLE ARROW",
  "||DOWNWARDS TRIPLE ARROW,LEFTWARDS DOUBLE DASH ARROW,RIGHTWARDS DOUBLE DASH ARROW,LEFTWARDS TRIPLE DASH ARROW",
  "|RIGHTWARDS |TRIPLE DASH ARROW,TWO-HEADED TRIPLE DASH ARROW,ARROW WITH DOTTED STEM",
  "||UPWARDS ARROW TO BAR,DOWNWARDS ARROW TO BAR",
  "|RIGHTWARDS ARROW WITH TAIL WITH |VERTICAL STROKE,DOUBLE VERTICAL STROKE",
  "|RIGHTWARDS TWO-HEADED ARROW WITH |TAIL,TAIL WITH VERTICAL STROKE,TAIL WITH DOUBLE VERTICAL STROKE",
  "||LEFTWARDS ARROW-TAIL,RIGHTWARDS ARROW-TAIL,LEFTWARDS DOUBLE ARROW-TAIL",
  "||RIGHTWARDS DOUBLE ARROW-TAIL,LEFTWARDS ARROW TO BLACK DIAMOND,RIGHTWARDS ARROW TO BLACK DIAMOND",
  "||LEFTWARDS ARROW FROM BAR TO BLACK DIAMOND,RIGHTWARDS ARROW FROM BAR TO BLACK DIAMOND",
  "|NORTH |WEST AND SOUTH EAST ARROW,EAST AND SOUTH WEST ARROW,WEST ARROW WITH HOOK,EAST ARROW WITH HOOK",
  "|SOUTH |EAST ARROW WITH HOOK,WEST ARROW WITH HOOK",
  "|NORTH |WEST ARROW AND NORTH EAST ARROW,EAST ARROW AND SOUTH EAST ARROW",
  "|SOUTH |EAST ARROW AND SOUTH WEST ARROW,WEST ARROW AND NORTH WEST ARROW",
  "||RISING DIAGONAL CROSSING FALLING DIAGONAL,FALLING DIAGONAL CROSSING RISING DIAGONAL",
  "||SOUTH EAST ARROW CROSSING NORTH EAST ARROW,NORTH EAST ARROW CROSSING SOUTH EAST ARROW",
  "||FALLING DIAGONAL CROSSING NORTH EAST ARROW,RISING DIAGONAL CROSSING SOUTH EAST ARROW",
  "|NORTH |EAST ARROW CROSSING NORTH WEST ARROW,WEST ARROW CROSSING NORTH EAST ARROW",
  "||WAVE ARROW POINTING DIRECTLY RIGHT",
  "|ARROW POINTING RIGHTWARDS THEN CURVING |UPWARDS,DOWNWARDS",
  "|ARROW POINTING DOWNWARDS THEN CURVING |LEFTWARDS,RIGHTWARDS",
  "||RIGHT-SIDE ARC CLOCKWISE ARROW",
  "||LEFT-SIDE ARC ANTICLOCKWISE ARROW,TOP ARC ANTICLOCKWISE ARROW,BOTTOM ARC ANTICLOCKWISE ARROW",
  "|TOP ARC |CLOCKWISE ARROW WITH MINUS,ANTICLOCKWISE ARROW WITH PLUS",
  "|LOWER |RIGHT SEMICIRCULAR CLOCKWISE ARROW,LEFT SEMICIRCULAR ANTICLOCKWISE ARROW",
  "||ANTICLOCKWISE CLOSED CIRCLE ARROW,CLOCKWISE CLOSED CIRCLE ARROW",
  "||RIGHTWARDS ARROW ABOVE SHORT LEFTWARDS ARROW,LEFTWARDS ARROW ABOVE SHORT RIGHTWARDS ARROW",
  "||SHORT RIGHTWARDS ARROW ABOVE LEFTWARDS ARROW,RIGHTWARDS ARROW WITH PLUS BELOW,LEFTWARDS ARROW WITH PLUS BELOW",
  "||RIGHTWARDS ARROW THROUGH X,LEFT RIGHT ARROW THROUGH SMALL CIRCLE,UPWARDS TWO-HEADED ARROW FROM SMALL CIRCLE",
  "|LEFT BARB |UP RIGHT BARB DOWN HARPOON,DOWN RIGHT BARB UP HARPOON",
  "|UP BARB |RIGHT DOWN BARB LEFT HARPOON,LEFT DOWN BARB RIGHT HARPOON",
  "||LEFT BARB UP RIGHT BARB UP HARPOON,UP BARB RIGHT DOWN BARB RIGHT HARPOON",
  "||LEFT BARB DOWN RIGHT BARB DOWN HARPOON,UP BARB LEFT DOWN BARB LEFT HARPOON,LEFTWARDS HARPOON WITH BARB UP TO BAR",
  "||RIGHTWARDS HARPOON WITH BARB UP TO BAR,UPWARDS HARPOON WITH BARB RIGHT TO BAR",
  "||DOWNWARDS HARPOON WITH BARB RIGHT TO BAR,LEFTWARDS HARPOON WITH BARB DOWN TO BAR",
  "||RIGHTWARDS HARPOON WITH BARB DOWN TO BAR,UPWARDS HARPOON WITH BARB LEFT TO BAR",
  "||DOWNWARDS HARPOON WITH BARB LEFT TO BAR,LEFTWARDS HARPOON WITH BARB UP FROM BAR",
  "||RIGHTWARDS HARPOON WITH BARB UP FROM BAR,UPWARDS HARPOON WITH BARB RIGHT FROM BAR",
  "||DOWNWARDS HARPOON WITH BARB RIGHT FROM BAR,LEFTWARDS HARPOON WITH BARB DOWN FROM BAR",
  "||RIGHTWARDS HARPOON WITH BARB DOWN FROM BAR,UPWARDS HARPOON WITH BARB LEFT FROM BAR",
  "||DOWNWARDS HARPOON WITH BARB LEFT FROM BAR,LEFTWARDS HARPOON WITH BARB UP ABOVE LEFTWARDS HARPOON WITH BARB DOWN",
  "||UPWARDS HARPOON WITH BARB LEFT BESIDE UPWARDS HARPOON WITH BARB RIGHT",
  "||RIGHTWARDS HARPOON WITH BARB UP ABOVE RIGHTWARDS HARPOON WITH BARB DOWN",
  "||DOWNWARDS HARPOON WITH BARB LEFT BESIDE DOWNWARDS HARPOON WITH BARB RIGHT",
  "|LEFTWARDS HARPOON WITH BARB |UP ABOVE RIGHTWARDS HARPOON WITH BARB UP,DOWN ABOVE RIGHTWARDS HARPOON WITH BARB DOWN",
  "|RIGHTWARDS HARPOON WITH BARB |UP ABOVE LEFTWARDS HARPOON WITH BARB UP,DOWN ABOVE LEFTWARDS HARPOON WITH BARB DOWN",
  "|LEFTWARDS HARPOON WITH BARB |UP ABOVE LONG DASH,DOWN BELOW LONG DASH",
  "|RIGHTWARDS HARPOON WITH BARB |UP ABOVE LONG DASH,DOWN BELOW LONG DASH",
  "||UPWARDS HARPOON WITH BARB LEFT BESIDE DOWNWARDS HARPOON WITH BARB RIGHT",
  "||DOWNWARDS HARPOON WITH BARB LEFT BESIDE UPWARDS HARPOON WITH BARB RIGHT,RIGHT DOUBLE ARROW WITH ROUNDED HEAD",
  "||EQUALS SIGN ABOVE RIGHTWARDS ARROW,TILDE OPERATOR ABOVE RIGHTWARDS ARROW,LEFTWARDS ARROW ABOVE TILDE OPERATOR",
  "|RIGHTWARDS ARROW ABOVE |TILDE OPERATOR,ALMOST EQUAL TO",
  "||LESS-THAN ABOVE LEFTWARDS ARROW,LEFTWARDS ARROW THROUGH LESS-THAN,GREATER-THAN ABOVE RIGHTWARDS ARROW",
  "||SUBSET ABOVE RIGHTWARDS ARROW,LEFTWARDS ARROW THROUGH SUBSET,SUPERSET ABOVE LEFTWARDS ARROW",
  "||LEFT FISH TAIL,RIGHT FISH TAIL,UP FISH TAIL,DOWN FISH TAIL,TRIPLE VERTICAL BAR DELIMITER",
  "|Z NOTATION |SPOT,TYPE COLON",
  "||LEFT WHITE CURLY BRACKET,RIGHT WHITE CURLY BRACKET,LEFT WHITE PARENTHESIS,RIGHT WHITE PARENTHESIS",
  "|Z NOTATION |LEFT IMAGE BRACKET,RIGHT IMAGE BRACKET,LEFT BINDING BRACKET,RIGHT BINDING BRACKET",
  "||LEFT SQUARE BRACKET WITH UNDERBAR,RIGHT SQUARE BRACKET WITH UNDERBAR,LEFT SQUARE BRACKET WITH TICK IN TOP CORNER",
  "||RIGHT SQUARE BRACKET WITH TICK IN BOTTOM CORNER,LEFT SQUARE BRACKET WITH TICK IN BOTTOM CORNER",
  "||RIGHT SQUARE BRACKET WITH TICK IN TOP CORNER,LEFT ANGLE BRACKET WITH DOT",
  "||RIGHT ANGLE BRACKET WITH DOT,LEFT ARC LESS-THAN BRACKET,RIGHT ARC GREATER-THAN BRACKET",
  "||DOUBLE LEFT ARC GREATER-THAN BRACKET,DOUBLE RIGHT ARC LESS-THAN BRACKET,LEFT BLACK TORTOISE SHELL BRACKET",
  "||RIGHT BLACK TORTOISE SHELL BRACKET,DOTTED FENCE,VERTICAL ZIGZAG LINE,MEASURED ANGLE OPENING LEFT",
  "||RIGHT ANGLE VARIANT WITH SQUARE,MEASURED RIGHT ANGLE WITH DOT,ANGLE WITH S INSIDE,ACUTE ANGLE",
  "|SPHERICAL ANGLE OPENING |LEFT,UP",
  "||TURNED ANGLE,REVERSED ANGLE,ANGLE WITH UNDERBAR,REVERSED ANGLE WITH UNDERBAR",
  "|OBLIQUE ANGLE OPENING |UP,DOWN",
  "|MEASURED ANGLE WITH OPEN ARM ENDING IN ARROW POINTING |UP AND RIGHT,UP AND LEFT,DOWN AND RIGHT,DOWN AND LEFT",
  "|MEASURED ANGLE WITH OPEN ARM ENDING IN ARROW POINTING |RIGHT AND UP,LEFT AND UP,RIGHT AND DOWN,LEFT AND DOWN",
  "||REVERSED EMPTY SET",
  "|EMPTY SET WITH |OVERBAR,SMALL CIRCLE ABOVE,RIGHT ARROW ABOVE,LEFT ARROW ABOVE",
  "||CIRCLE WITH HORIZONTAL BAR",
  "|CIRCLED |VERTICAL BAR,PARALLEL,REVERSE SOLIDUS,PERPENDICULAR",
  "|CIRCLE |DIVIDED BY HORIZONTAL BAR AND TOP HALF DIVIDED BY VERTICAL BAR,WITH SUPERIMPOSED X",
  "||CIRCLED ANTICLOCKWISE-ROTATED DIVISION SIGN,UP ARROW THROUGH CIRCLE",
  "|CIRCLED |WHITE BULLET,BULLET,LESS-THAN,GREATER-THAN",
  "|CIRCLE WITH |SMALL CIRCLE TO THE RIGHT,TWO HORIZONTAL STROKES TO THE RIGHT",
  "|SQUARED |RISING DIAGONAL SLASH,FALLING DIAGONAL SLASH,ASTERISK,SMALL CIRCLE,SQUARE",
  "||TWO JOINED SQUARES",
  "|TRIANGLE WITH |DOT ABOVE,UNDERBAR",
  "||S IN TRIANGLE,TRIANGLE WITH SERIFS AT BOTTOM,RIGHT TRIANGLE ABOVE LEFT TRIANGLE,LEFT TRIANGLE BESIDE VERTICAL BAR",
  "||VERTICAL BAR BESIDE RIGHT TRIANGLE,BOWTIE WITH LEFT HALF BLACK,BOWTIE WITH RIGHT HALF BLACK,BLACK BOWTIE",
  "|TIMES WITH |LEFT HALF BLACK,RIGHT HALF BLACK",
  "||WHITE HOURGLASS,BLACK HOURGLASS,LEFT WIGGLY FENCE,RIGHT WIGGLY FENCE,LEFT DOUBLE WIGGLY FENCE",
  "||RIGHT DOUBLE WIGGLY FENCE,INCOMPLETE INFINITY,TIE OVER INFINITY,INFINITY NEGATED WITH VERTICAL BAR",
  "||DOUBLE-ENDED MULTIMAP,SQUARE WITH CONTOURED OUTLINE,INCREASES AS,SHUFFLE PRODUCT",
  "|EQUALS SIGN AND SLANTED |PARALLEL,PARALLEL WITH TILDE ABOVE",
  "||IDENTICAL TO AND SLANTED PARALLEL,GLEICH STARK,THERMODYNAMIC",
  "|DOWN-POINTING TRIANGLE WITH |LEFT HALF BLACK,RIGHT HALF BLACK",
  "||BLACK DIAMOND WITH DOWN ARROW,BLACK LOZENGE,WHITE CIRCLE WITH DOWN ARROW,BLACK CIRCLE WITH DOWN ARROW",
  "|ERROR-BARRED |WHITE SQUARE,BLACK SQUARE,WHITE DIAMOND,BLACK DIAMOND,WHITE CIRCLE,BLACK CIRCLE",
  "||RULE-DELAYED,REVERSE SOLIDUS OPERATOR,SOLIDUS WITH OVERBAR,REVERSE SOLIDUS WITH HORIZONTAL STROKE",
  "|BIG |SOLIDUS,REVERSE SOLIDUS",
  "||DOUBLE PLUS,TRIPLE PLUS,LEFT-POINTING CURVED ANGLE BRACKET,RIGHT-POINTING CURVED ANGLE BRACKET,TINY,MINY",
  "|N-ARY CIRCLED |DOT OPERATOR,PLUS OPERATOR,TIMES OPERATOR",
  "|N-ARY UNION OPERATOR WITH |DOT,PLUS",
  "|N-ARY SQUARE |INTERSECTION OPERATOR,UNION OPERATOR",
  "|TWO LOGICAL |AND OPERATOR,OR OPERATOR",
  "||N-ARY TIMES OPERATOR,MODULO TWO SUM,SUMMATION WITH INTEGRAL,QUADRUPLE INTEGRAL OPERATOR,FINITE PART INTEGRAL",
  "|INTEGRAL |WITH DOUBLE STROKE,AVERAGE WITH SLASH",
  "||CIRCULATION FUNCTION,ANTICLOCKWISE INTEGRATION",
  "|LINE INTEGRATION |WITH RECTANGULAR PATH AROUND POLE,WITH SEMICIRCULAR PATH AROUND POLE,NOT INCLUDING THE POLE",
  "||INTEGRAL AROUND A POINT OPERATOR,QUATERNION INTEGRAL OPERATOR",
  "|INTEGRAL WITH |LEFTWARDS ARROW WITH HOOK,TIMES SIGN,INTERSECTION,UNION,OVERBAR,UNDERBAR",
  "||JOIN,LARGE LEFT TRIANGLE OPERATOR",
  "|Z NOTATION SCHEMA |COMPOSITION,PIPING,PROJECTION",
  "||PLUS SIGN WITH SMALL CIRCLE ABOVE",
  "|PLUS SIGN WITH |CIRCUMFLEX ACCENT ABOVE,TILDE ABOVE,DOT BELOW,TILDE BELOW,SUBSCRIPT TWO,BLACK TRIANGLE",
  "|MINUS SIGN WITH |COMMA ABOVE,DOT BELOW,FALLING DOTS,RISING DOTS",
  "|PLUS SIGN IN |LEFT HALF CIRCLE,RIGHT HALF CIRCLE",
  "||VECTOR OR CROSS PRODUCT",
  "|MULTIPLICATION SIGN WITH |DOT ABOVE,UNDERBAR",
  "||SEMIDIRECT PRODUCT WITH BOTTOM CLOSED,SMASH PRODUCT",
  "|MULTIPLICATION SIGN IN |LEFT HALF CIRCLE,RIGHT HALF CIRCLE",
  "||CIRCLED MULTIPLICATION SIGN WITH CIRCUMFLEX ACCENT,MULTIPLICATION SIGN IN DOUBLE CIRCLE,CIRCLED DIVISION SIGN",
  "||PLUS SIGN IN TRIANGLE,MINUS SIGN IN TRIANGLE,MULTIPLICATION SIGN IN TRIANGLE,INTERIOR PRODUCT",
  "||RIGHTHAND INTERIOR PRODUCT,Z NOTATION RELATIONAL COMPOSITION,AMALGAMATION OR COPRODUCT,INTERSECTION WITH DOT",
  "|UNION WITH |MINUS SIGN,OVERBAR",
  "|INTERSECTION WITH |OVERBAR,LOGICAL AND",
  "|UNION |WITH LOGICAL OR,ABOVE INTERSECTION",
  "||INTERSECTION ABOVE UNION,UNION ABOVE BAR ABOVE INTERSECTION,INTERSECTION ABOVE BAR ABOVE UNION",
  "||UNION BESIDE AND JOINED WITH UNION,INTERSECTION BESIDE AND JOINED WITH INTERSECTION",
  "|CLOSED |UNION WITH SERIFS,INTERSECTION WITH SERIFS",
  "|DOUBLE SQUARE |INTERSECTION,UNION",
  "||CLOSED UNION WITH SERIFS AND SMASH PRODUCT",
  "|LOGICAL |AND WITH DOT ABOVE,OR WITH DOT ABOVE",
  "|DOUBLE LOGICAL |AND,OR",
  "|TWO INTERSECTING LOGICAL |AND,OR",
  "|SLOPING LARGE |OR,AND",
  "||LOGICAL OR OVERLAPPING LOGICAL AND",
  "|LOGICAL |AND WITH MIDDLE STEM,OR WITH MIDDLE STEM,AND WITH HORIZONTAL DASH,OR WITH HORIZONTAL DASH",
  "|LOGICAL AND WITH |DOUBLE OVERBAR,UNDERBAR,DOUBLE UNDERBAR",
  "||SMALL VEE WITH UNDERBAR",
  "|LOGICAL OR WITH DOUBLE |OVERBAR,UNDERBAR",
  "|Z NOTATION |DOMAIN ANTIRESTRICTION,RANGE ANTIRESTRICTION",
  "||EQUALS SIGN WITH DOT BELOW,IDENTICAL WITH DOT ABOVE",
  "|TRIPLE HORIZONTAL BAR WITH |DOUBLE VERTICAL STROKE,TRIPLE VERTICAL STROKE",
  "|TILDE OPERATOR WITH |DOT ABOVE,RISING DOTS",
  "||SIMILAR MINUS SIMILAR,CONGRUENT WITH DOT ABOVE,EQUALS WITH ASTERISK",
  "||ALMOST EQUAL TO WITH CIRCUMFLEX ACCENT,APPROXIMATELY EQUAL OR EQUAL TO,EQUALS SIGN ABOVE PLUS SIGN",
  "||PLUS SIGN ABOVE EQUALS SIGN,EQUALS SIGN ABOVE TILDE OPERATOR,DOUBLE COLON EQUAL,TWO CONSECUTIVE EQUALS SIGNS",
  "||THREE CONSECUTIVE EQUALS SIGNS,EQUALS SIGN WITH TWO DOTS ABOVE AND TWO DOTS BELOW,EQUIVALENT WITH FOUR DOTS ABOVE",
  "||LESS-THAN WITH CIRCLE INSIDE,GREATER-THAN WITH CIRCLE INSIDE,LESS-THAN WITH QUESTION MARK ABOVE",
  "||GREATER-THAN WITH QUESTION MARK ABOVE,LESS-THAN OR SLANTED EQUAL TO,GREATER-THAN OR SLANTED EQUAL TO",
  "||LESS-THAN OR SLANTED EQUAL TO WITH DOT INSIDE,GREATER-THAN OR SLANTED EQUAL TO WITH DOT INSIDE",
  "||LESS-THAN OR SLANTED EQUAL TO WITH DOT ABOVE,GREATER-THAN OR SLANTED EQUAL TO WITH DOT ABOVE",
  "||LESS-THAN OR SLANTED EQUAL TO WITH DOT ABOVE RIGHT,GREATER-THAN OR SLANTED EQUAL TO WITH DOT ABOVE LEFT",
  "||LESS-THAN OR APPROXIMATE,GREATER-THAN OR APPROXIMATE,LESS-THAN AND SINGLE-LINE NOT EQUAL TO",
  "||GREATER-THAN AND SINGLE-LINE NOT EQUAL TO,LESS-THAN AND NOT APPROXIMATE,GREATER-THAN AND NOT APPROXIMATE",
  "||LESS-THAN ABOVE DOUBLE-LINE EQUAL ABOVE GREATER-THAN,GREATER-THAN ABOVE DOUBLE-LINE EQUAL ABOVE LESS-THAN",
  "||LESS-THAN ABOVE SIMILAR OR EQUAL,GREATER-THAN ABOVE SIMILAR OR EQUAL",
  "||LESS-THAN ABOVE SIMILAR ABOVE GREATER-THAN,GREATER-THAN ABOVE SIMILAR ABOVE LESS-THAN",
  "||LESS-THAN ABOVE GREATER-THAN ABOVE DOUBLE-LINE EQUAL,GREATER-THAN ABOVE LESS-THAN ABOVE DOUBLE-LINE EQUAL",
  "||LESS-THAN ABOVE SLANTED EQUAL ABOVE GREATER-THAN ABOVE SLANTED EQUAL",
  "||GREATER-THAN ABOVE SLANTED EQUAL ABOVE LESS-THAN ABOVE SLANTED EQUAL",
  "|SLANTED EQUAL TO OR |LESS-THAN,GREATER-THAN,LESS-THAN WITH DOT INSIDE,GREATER-THAN WITH DOT INSIDE",
  "|DOUBLE-LINE EQUAL TO OR |LESS-THAN,GREATER-THAN",
  "|DOUBLE-LINE SLANTED EQUAL TO OR |LESS-THAN,GREATER-THAN",
  "|SIMILAR |OR LESS-THAN,OR GREATER-THAN,ABOVE LESS-THAN ABOVE EQUALS SIGN,ABOVE GREATER-THAN ABOVE EQUALS SIGN",
  "|DOUBLE NESTED |LESS-THAN,GREATER-THAN,LESS-THAN WITH UNDERBAR",
  "|GREATER-THAN |OVERLAPPING LESS-THAN,BESIDE LESS-THAN",
  "||LESS-THAN CLOSED BY CURVE,GREATER-THAN CLOSED BY CURVE",
  "||LESS-THAN CLOSED BY CURVE ABOVE SLANTED EQUAL,GREATER-THAN CLOSED BY CURVE ABOVE SLANTED EQUAL",
  "||SMALLER THAN,LARGER THAN,SMALLER THAN OR EQUAL TO,LARGER THAN OR EQUAL TO",
  "||EQUALS SIGN WITH BUMPY ABOVE,PRECEDES ABOVE SINGLE-LINE EQUALS SIGN,SUCCEEDS ABOVE SINGLE-LINE EQUALS SIGN",
  "||PRECEDES ABOVE SINGLE-LINE NOT EQUAL TO,SUCCEEDS ABOVE SINGLE-LINE NOT EQUAL TO,PRECEDES ABOVE EQUALS SIGN",
  "||SUCCEEDS ABOVE EQUALS SIGN,PRECEDES ABOVE NOT EQUAL TO,SUCCEEDS ABOVE NOT EQUAL TO,PRECEDES ABOVE ALMOST EQUAL TO",
  "||SUCCEEDS ABOVE ALMOST EQUAL TO,PRECEDES ABOVE NOT ALMOST EQUAL TO,SUCCEEDS ABOVE NOT ALMOST EQUAL TO",
  "||DOUBLE PRECEDES,DOUBLE SUCCEEDS,SUBSET WITH DOT,SUPERSET WITH DOT,SUBSET WITH PLUS SIGN BELOW",
  "||SUPERSET WITH PLUS SIGN BELOW,SUBSET WITH MULTIPLICATION SIGN BELOW,SUPERSET WITH MULTIPLICATION SIGN BELOW",
  "||SUBSET OF OR EQUAL TO WITH DOT ABOVE,SUPERSET OF OR EQUAL TO WITH DOT ABOVE,SUBSET OF ABOVE EQUALS SIGN",
  "||SUPERSET OF ABOVE EQUALS SIGN,SUBSET OF ABOVE TILDE OPERATOR,SUPERSET OF ABOVE TILDE OPERATOR",
  "||SUBSET OF ABOVE ALMOST EQUAL TO,SUPERSET OF ABOVE ALMOST EQUAL TO,SUBSET OF ABOVE NOT EQUAL TO",
  "||SUPERSET OF ABOVE NOT EQUAL TO,SQUARE LEFT OPEN BOX OPERATOR,SQUARE RIGHT OPEN BOX OPERATOR",
  "|CLOSED |SUBSET,SUPERSET,SUBSET OR EQUAL TO,SUPERSET OR EQUAL TO",
  "||SUBSET ABOVE SUPERSET,SUPERSET ABOVE SUBSET,SUBSET ABOVE SUBSET",
  "|SUPERSET |ABOVE SUPERSET,BESIDE SUBSET,BESIDE AND JOINED BY DASH WITH SUBSET",
  "||ELEMENT OF OPENING DOWNWARDS,PITCHFORK WITH TEE TOP,TRANSVERSAL INTERSECTION,FORKING,NONFORKING",
  "|SHORT |LEFT TACK,DOWN TACK,UP TACK",
  "||PERPENDICULAR WITH S,VERTICAL BAR TRIPLE RIGHT TURNSTILE",
  "||DOUBLE VERTICAL BAR LEFT TURNSTILE,VERTICAL BAR DOUBLE LEFT TURNSTILE,DOUBLE VERTICAL BAR DOUBLE LEFT TURNSTILE",
  "||LONG DASH FROM LEFT MEMBER OF DOUBLE VERTICAL,SHORT DOWN TACK WITH OVERBAR",
  "|SHORT UP TACK |WITH UNDERBAR,ABOVE SHORT DOWN TACK",
  "|DOUBLE |DOWN TACK,UP TACK,STROKE NOT SIGN",
  "||REVERSED DOUBLE STROKE NOT SIGN,DOES NOT DIVIDE WITH REVERSED NEGATION SLASH",
  "|VERTICAL LINE WITH CIRCLE |ABOVE,BELOW",
  "||DOWN TACK WITH CIRCLE BELOW",
  "|PARALLEL WITH |HORIZONTAL STROKE,TILDE OPERATOR",
  "|TRIPLE VERTICAL BAR |BINARY RELATION,WITH HORIZONTAL STROKE",
  "|TRIPLE |COLON OPERATOR,NESTED LESS-THAN,NESTED GREATER-THAN",
  "|DOUBLE-LINE SLANTED |LESS-THAN OR EQUAL TO,GREATER-THAN OR EQUAL TO",
  "||TRIPLE SOLIDUS BINARY RELATION,LARGE TRIPLE VERTICAL BAR OPERATOR",
  "||DOUBLE SOLIDUS OPERATOR,WHITE VERTICAL BAR,N-ARY WHITE VERTICAL BAR,NORTH EAST WHITE ARROW,NORTH WEST WHITE ARROW",
  "|SOUTH |EAST WHITE ARROW,WEST WHITE ARROW",
  "||LEFT RIGHT WHITE ARROW,LEFTWARDS BLACK ARROW,UPWARDS BLACK ARROW,DOWNWARDS BLACK ARROW,NORTH EAST BLACK ARROW",
  "||NORTH WEST BLACK ARROW,SOUTH EAST BLACK ARROW,SOUTH WEST BLACK ARROW,LEFT RIGHT BLACK ARROW,UP DOWN BLACK ARROW",
  "|RIGHTWARDS ARROW WITH TIP |DOWNWARDS,UPWARDS",
  "|LEFTWARDS ARROW WITH TIP |DOWNWARDS,UPWARDS",
  "|SQUARE WITH |TOP HALF BLACK,BOTTOM HALF BLACK,UPPER RIGHT DIAGONAL HALF BLACK,LOWER LEFT DIAGONAL HALF BLACK",
  "|DIAMOND WITH |LEFT HALF BLACK,RIGHT HALF BLACK,TOP HALF BLACK,BOTTOM HALF BLACK",
  "||DOTTED SQUARE,BLACK LARGE SQUARE,WHITE LARGE SQUARE,BLACK VERY SMALL SQUARE",
  "||WHITE VERY SMALL SQUARE,BLACK PENTAGON,WHITE PENTAGON,WHITE HEXAGON,BLACK HEXAGON,HORIZONTAL BLACK HEXAGON",
  "||BLACK LARGE CIRCLE,BLACK MEDIUM DIAMOND,WHITE MEDIUM DIAMOND,BLACK MEDIUM LOZENGE,WHITE MEDIUM LOZENGE",
  "|BLACK SMALL |DIAMOND,LOZENGE",
  "||WHITE SMALL LOZENGE",
  "||BLACK HORIZONTAL ELLIPSE,WHITE HORIZONTAL ELLIPSE,BLACK VERTICAL ELLIPSE,WHITE VERTICAL ELLIPSE",
  "||LEFT ARROW WITH SMALL CIRCLE,THREE LEFTWARDS ARROWS,LEFT ARROW WITH CIRCLED PLUS,LONG LEFTWARDS SQUIGGLE ARROW",
  "|LEFTWARDS TWO-HEADED ARROW |WITH VERTICAL STROKE,WITH DOUBLE VERTICAL STROKE,FROM BAR",
  "||LEFTWARDS TWO-HEADED TRIPLE DASH ARROW",
  "|LEFTWARDS ARROW WITH |DOTTED STEM,TAIL WITH VERTICAL STROKE,TAIL WITH DOUBLE VERTICAL STROKE",
  "|LEFTWARDS TWO-HEADED ARROW WITH |TAIL,TAIL WITH VERTICAL STROKE,TAIL WITH DOUBLE VERTICAL STROKE",
  "||LEFTWARDS ARROW THROUGH X,WAVE ARROW POINTING DIRECTLY LEFT,EQUALS SIGN ABOVE LEFTWARDS ARROW",
  "||REVERSE TILDE OPERATOR ABOVE LEFTWARDS ARROW,LEFTWARDS ARROW ABOVE REVERSE ALMOST EQUAL TO",
  "|RIGHTWARDS ARROW THROUGH |GREATER-THAN,SUPERSET",
  "||LEFTWARDS QUADRUPLE ARROW,RIGHTWARDS QUADRUPLE ARROW,REVERSE TILDE OPERATOR ABOVE RIGHTWARDS ARROW",
  "||RIGHTWARDS ARROW ABOVE REVERSE ALMOST EQUAL TO,TILDE OPERATOR ABOVE LEFTWARDS ARROW",
  "|LEFTWARDS ARROW ABOVE |ALMOST EQUAL TO,REVERSE TILDE OPERATOR",
  "||RIGHTWARDS ARROW ABOVE REVERSE TILDE OPERATOR,DOWNWARDS TRIANGLE-HEADED ZIGZAG ARROW",
  "|SHORT |SLANTED NORTH ARROW,BACKSLANTED SOUTH ARROW",
  "||WHITE MEDIUM STAR,BLACK SMALL STAR,WHITE SMALL STAR,BLACK RIGHT-POINTING PENTAGON,WHITE RIGHT-POINTING PENTAGON",
  "|HEAVY |LARGE CIRCLE,OVAL WITH OVAL INSIDE,CIRCLE WITH CIRCLE INSIDE,CIRCLE,CIRCLED SALTIRE",
  "||SLANTED NORTH ARROW WITH HOOKED HEAD,BACKSLANTED SOUTH ARROW WITH HOOKED TAIL",
  "||SLANTED NORTH ARROW WITH HORIZONTAL TAIL,BACKSLANTED SOUTH ARROW WITH HORIZONTAL TAIL",
  "||BENT ARROW POINTING DOWNWARDS THEN NORTH EAST,SHORT BENT ARROW POINTING DOWNWARDS THEN NORTH EAST",
  "||LEFTWARDS TRIANGLE-HEADED ARROW,UPWARDS TRIANGLE-HEADED ARROW,RIGHTWARDS TRIANGLE-HEADED ARROW",
  "||DOWNWARDS TRIANGLE-HEADED ARROW,LEFT RIGHT TRIANGLE-HEADED ARROW,UP DOWN TRIANGLE-HEADED ARROW",
  "|NORTH |WEST TRIANGLE-HEADED ARROW,EAST TRIANGLE-HEADED ARROW",
  "|SOUTH |EAST TRIANGLE-HEADED ARROW,WEST TRIANGLE-HEADED ARROW",
  "||LEFTWARDS TRIANGLE-HEADED DASHED ARROW,UPWARDS TRIANGLE-HEADED DASHED ARROW",
  "||RIGHTWARDS TRIANGLE-HEADED DASHED ARROW,DOWNWARDS TRIANGLE-HEADED DASHED ARROW",
  "||CLOCKWISE TRIANGLE-HEADED OPEN CIRCLE ARROW,ANTICLOCKWISE TRIANGLE-HEADED OPEN CIRCLE ARROW",
  "||LEFTWARDS TRIANGLE-HEADED ARROW TO BAR,UPWARDS TRIANGLE-HEADED ARROW TO BAR",
  "||RIGHTWARDS TRIANGLE-HEADED ARROW TO BAR,DOWNWARDS TRIANGLE-HEADED ARROW TO BAR",
  "2B76|NORTH |WEST TRIANGLE-HEADED ARROW TO BAR,EAST TRIANGLE-HEADED ARROW TO BAR",
  "|SOUTH |EAST TRIANGLE-HEADED ARROW TO BAR,WEST TRIANGLE-HEADED ARROW TO BAR",
  "||LEFTWARDS TRIANGLE-HEADED ARROW WITH DOUBLE HORIZONTAL STROKE",
  "||UPWARDS TRIANGLE-HEADED ARROW WITH DOUBLE HORIZONTAL STROKE",
  "||RIGHTWARDS TRIANGLE-HEADED ARROW WITH DOUBLE HORIZONTAL STROKE",
  "||DOWNWARDS TRIANGLE-HEADED ARROW WITH DOUBLE HORIZONTAL STROKE",
  "||HORIZONTAL TAB KEY,VERTICAL TAB KEY,LEFTWARDS TRIANGLE-HEADED ARROW OVER RIGHTWARDS TRIANGLE-HEADED ARROW",
  "||UPWARDS TRIANGLE-HEADED ARROW LEFTWARDS OF DOWNWARDS TRIANGLE-HEADED ARROW",
  "||RIGHTWARDS TRIANGLE-HEADED ARROW OVER LEFTWARDS TRIANGLE-HEADED ARROW",
  "||DOWNWARDS TRIANGLE-HEADED ARROW LEFTWARDS OF UPWARDS TRIANGLE-HEADED ARROW",
  "||LEFTWARDS TRIANGLE-HEADED PAIRED ARROWS",
  "||UPWARDS TRIANGLE-HEADED PAIRED ARROWS,RIGHTWARDS TRIANGLE-HEADED PAIRED ARROWS",
  "||DOWNWARDS TRIANGLE-HEADED PAIRED ARROWS,LEFTWARDS BLACK CIRCLED WHITE ARROW",
  "||UPWARDS BLACK CIRCLED WHITE ARROW,RIGHTWARDS BLACK CIRCLED WHITE ARROW,DOWNWARDS BLACK CIRCLED WHITE ARROW",
  "|ANTICLOCKWISE TRIANGLE-HEADED |RIGHT U-SHAPED ARROW,BOTTOM U-SHAPED ARROW,LEFT U-SHAPED ARROW,TOP U-SHAPED ARROW",
  "|RETURN |LEFT,RIGHT",
  "|NEWLINE |LEFT,RIGHT",
  "||FOUR CORNER ARROWS CIRCLING ANTICLOCKWISE,RIGHTWARDS BLACK ARROW,,SYMBOL FOR TYPE A ELECTRONICS",
  "|THREE-D |TOP-LIGHTED LEFTWARDS EQUILATERAL ARROWHEAD,RIGHT-LIGHTED UPWARDS EQUILATERAL ARROWHEAD",
  "|THREE-D |TOP-LIGHTED RIGHTWARDS EQUILATERAL ARROWHEAD,LEFT-LIGHTED DOWNWARDS EQUILATERAL ARROWHEAD",
  "||BLACK LEFTWARDS EQUILATERAL ARROWHEAD",
  "|BLACK |UPWARDS EQUILATERAL ARROWHEAD,RIGHTWARDS EQUILATERAL ARROWHEAD,DOWNWARDS EQUILATERAL ARROWHEAD",
  "|DOWNWARDS TRIANGLE-HEADED ARROW WITH LONG TIP |LEFTWARDS,RIGHTWARDS",
  "|UPWARDS TRIANGLE-HEADED ARROW WITH LONG TIP |LEFTWARDS,RIGHTWARDS",
  "||LEFTWARDS TRIANGLE-HEADED ARROW WITH LONG TIP UPWARDS,RIGHTWARDS TRIANGLE-HEADED ARROW WITH LONG TIP UPWARDS",
  "||LEFTWARDS TRIANGLE-HEADED ARROW WITH LONG TIP DOWNWARDS,RIGHTWARDS TRIANGLE-HEADED ARROW WITH LONG TIP DOWNWARDS",
  "|BLACK CURVED DOWNWARDS AND |LEFTWARDS ARROW,RIGHTWARDS ARROW",
  "|BLACK CURVED |UPWARDS AND LEFTWARDS ARROW,UPWARDS AND RIGHTWARDS ARROW,LEFTWARDS AND UPWARDS ARROW",
  "|BLACK CURVED |RIGHTWARDS AND UPWARDS ARROW,LEFTWARDS AND DOWNWARDS ARROW,RIGHTWARDS AND DOWNWARDS ARROW",
  "|RIBBON ARROW |DOWN LEFT,DOWN RIGHT,UP LEFT,UP RIGHT,LEFT UP,RIGHT UP,LEFT DOWN,RIGHT DOWN",
  "||UPWARDS WHITE ARROW FROM BAR WITH HORIZONTAL BAR,UP ARROWHEAD IN A RECTANGLE BOX",
  "|OVERLAPPING |WHITE SQUARES,WHITE AND BLACK SQUARES,BLACK SQUARES",
  "||BALLOT BOX WITH LIGHT X",
  "|CIRCLED |X,BOLD X",
  "||BLACK SQUARE CENTRED,BLACK DIAMOND CENTRED,TURNED BLACK PENTAGON,HORIZONTAL BLACK OCTAGON,BLACK OCTAGON",
  "|BLACK MEDIUM |UP-POINTING TRIANGLE CENTRED,DOWN-POINTING TRIANGLE CENTRED,LEFT-POINTING TRIANGLE CENTRED",
  "||BLACK MEDIUM RIGHT-POINTING TRIANGLE CENTRED,NEPTUNE FORM TWO,TOP HALF BLACK CIRCLE",
  "||BOTTOM HALF BLACK CIRCLE,LIGHT FOUR POINTED BLACK CUSP,ROTATED LIGHT FOUR POINTED BLACK CUSP",
  "||WHITE FOUR POINTED CUSP,ROTATED WHITE FOUR POINTED CUSP,SQUARE POSITION INDICATOR,UNCERTAINTY SIGN,GROUP MARK",
  "|PLUTO FORM |TWO,THREE,FOUR,FIVE",
  "||TRANSPLUTO,PROSERPINA,ASTRAEA,HYGIEA,PHOLUS,NESSUS,WHITE MOON SELENA,BLACK DIAMOND ON CROSS,TRUE LIGHT MOON ARTA",
  "||CUPIDO,HADES,ZEUS,KRONOS,APOLLON,ADMETOS,VULCANUS,POSEIDON,LEFT HALF BLACK STAR,RIGHT HALF BLACK STAR",
  "|STAR WITH |LEFT HALF BLACK,RIGHT HALF BLACK",
  "||LEFTWARDS TWO-HEADED ARROW WITH TRIANGLE ARROWHEADS,UPWARDS TWO-HEADED ARROW WITH TRIANGLE ARROWHEADS",
  "||RIGHTWARDS TWO-HEADED ARROW WITH TRIANGLE ARROWHEADS,DOWNWARDS TWO-HEADED ARROW WITH TRIANGLE ARROWHEADS",
  "|ERIS FORM |ONE,TWO",
  "||SEDNA",
  "|RUSSIAN ASTROLOGICAL SYMBOL |VIGINTILE,NOVILE,QUINTILE,BINOVILE,SENTAGON,TREDECILE",
  "||EQUALS SIGN WITH INFINITY BELOW",
  "||UNITED SYMBOL,SEPARATED SYMBOL,DOUBLED SYMBOL,PASSED SYMBOL,REVERSED RIGHT ANGLE,HELLSCHREIBER PAUSE SYMBOL",
  "|GLAGOLITIC CAPITAL LETTER |AZU,BUKY",
  "|GLAGOLITIC CAPITAL LETTER |VEDE,GLAGOLI,DOBRO,YESTU,ZHIVETE,DZELO,ZEMLJA,IZHE,INITIAL IZHE,I,DJERVI,KAKO,LJUDIJE",
  "|GLAGOLITIC CAPITAL LETTER |MYSLITE,NASHI,ONU,POKOJI,RITSI,SLOVO,TVRIDO,UKU,FRITU,HERU,OTU,PE,SHTA,TSI,CHRIVI,SHA",
  "|GLAGOLITIC CAPITAL LETTER |YERU,YERI,YATI,SPIDERY HA,YU,SMALL YUS,SMALL YUS WITH TAIL,YO,IOTATED SMALL YUS,BIG YUS",
  "|GLAGOLITIC CAPITAL LETTER |IOTATED BIG YUS,FITA,IZHITSA,SHTAPIC,TROKUTASTI A,LATINATE MYSLITE,CAUDATE CHRIVI",
  "|GLAGOLITIC SMALL LETTER |AZU,BUKY,VEDE,GLAGOLI,DOBRO,YESTU,ZHIVETE,DZELO,ZEMLJA,IZHE,INITIAL IZHE,I,DJERVI,KAKO",
  "|GLAGOLITIC SMALL LETTER |LJUDIJE,MYSLITE,NASHI,ONU,POKOJI,RITSI,SLOVO,TVRIDO,UKU,FRITU,HERU,OTU,PE,SHTA,TSI,CHRIVI",
  "|GLAGOLITIC SMALL LETTER |SHA,YERU,YERI,YATI,SPIDERY HA,YU,SMALL YUS,SMALL YUS WITH TAIL,YO,IOTATED SMALL YUS",
  "|GLAGOLITIC SMALL LETTER |BIG YUS,IOTATED BIG YUS,FITA,IZHITSA,SHTAPIC,TROKUTASTI A,LATINATE MYSLITE,CAUDATE CHRIVI",
  "|LATIN CAPITAL/SMALL |LETTER L WITH DOUBLE BAR",
  "|LATIN CAPITAL LETTER |L WITH MIDDLE TILDE,P WITH STROKE,R WITH TAIL",
  "|LATIN SMALL LETTER |A WITH STROKE,T WITH DIAGONAL STROKE",
  "|LATIN CAPITAL/SMALL LETTER |H WITH DESCENDER,K WITH DESCENDER,Z WITH DESCENDER",
  "|LATIN CAPITAL LETTER |ALPHA,M WITH HOOK,TURNED A,TURNED ALPHA",
  "||LATIN SMALL LETTER V WITH RIGHT HOOK",
  "|LATIN CAPITAL/SMALL |LETTER W WITH HOOK",
  "|LATIN |SMALL LETTER V WITH CURL,CAPITAL LETTER HALF H",
  "|LATIN SMALL LETTER |HALF H,TAILLESS PHI,E WITH NOTCH,TURNED R WITH TAIL,O WITH LOW RING INSIDE",
  "||LATIN LETTER SMALL CAPITAL TURNED E,LATIN SUBSCRIPT SMALL LETTER J,MODIFIER LETTER CAPITAL V",
  "|LATIN CAPITAL LETTER |S WITH SWASH TAIL,Z WITH SWASH TAIL",
  "|COPTIC CAPITAL/SMALL LETTER |ALFA,VIDA,GAMMA,DALDA,EIE,SOU,ZATA,HATE,THETHE,IAUDA,KAPA,LAULA,MI,NI,KSI",
  "|COPTIC CAPITAL/SMALL LETTER |O,PI,RO,SIMA,TAU,UA,FI,KHI,PSI,OOU,DIALECT-P ALEF,OLD COPTIC AIN,CRYPTOGRAMMIC EIE",
  "|COPTIC CAPITAL/SMALL LETTER |DIALECT-P KAPA,DIALECT-P NI,CRYPTOGRAMMIC NI,OLD COPTIC OOU,SAMPI,CROSSED SHEI",
  "|COPTIC CAPITAL/SMALL LETTER OLD COPTIC |SHEI,ESH",
  "|COPTIC CAPITAL/SMALL LETTER |AKHMIMIC KHEI,DIALECT-P HORI,OLD COPTIC HORI,OLD COPTIC HA,L-SHAPED HA",
  "|COPTIC CAPITAL/SMALL LETTER OLD COPTIC |HEI,HAT,GANGIA,DJA,SHIMA",
  "|COPTIC CAPITAL/SMALL LETTER OLD NUBIAN |SHIMA,NGI,NYI,WAU",
  "|COPTIC SYMBOL |KAI,MI RO,PI RO,STAUROS,TAU RO,KHI RO,SHIMA SIMA",
  "|COPTIC CAPITAL/SMALL LETTER CRYPTOGRAMMIC |SHEI,GANGIA",
  "|COPTIC COMBINING |NI ABOVE,SPIRITUS ASPER,SPIRITUS LENIS",
  "|COPTIC CAPITAL/SMALL |LETTER BOHAIRIC KHEI",
  "2CF9|COPTIC OLD NUBIAN |FULL STOP,DIRECT QUESTION MARK,INDIRECT QUESTION MARK,VERSE DIVIDER",
  "|COPTIC |FRACTION ONE HALF,FULL STOP,MORPHOLOGICAL DIVIDER",
  "|GEORGIAN SMALL LETTER |AN,BAN,GAN,DON,EN,VIN,ZEN,TAN,IN,KAN,LAS,MAN,NAR,ON,PAR,ZHAR,RAE",
  "|GEORGIAN SMALL LETTER |SAN,TAR,UN,PHAR,KHAR,GHAN,QAR,SHIN,CHIN,CAN,JIL,CIL,CHAR,XAN,JHAN,HAE,HE,HIE,WE,HAR,HOE,,YN",
  "2D2D||GEORGIAN SMALL LETTER AEN",
  "2D30|TIFINAGH LETTER |YA,YAB,YABH,YAG,YAGHH,BERBER ACADEMY YAJ,YAJ,YAD,YADH,YADD,YADDH,YEY,YAF",
  "|TIFINAGH LETTER |YAK,TUAREG YAK,YAKHH,YAH,BERBER ACADEMY YAH,TUAREG YAH,YAHH,YAA,YAKH,TUAREG YAKH,YAQ,TUAREG YAQ",
  "|TIFINAGH LETTER |YI,YAZH,AHAGGAR YAZH,TUAREG YAZH,YAL,YAM,YAN,TUAREG YAGN,TUAREG YANG,YAP,YU,YAR,YARR,YAGH",
  "|TIFINAGH LETTER |TUAREG YAGH,AYER YAGH,YAS,YASS,YASH,YAT,YATH,YACH,YATT,YAV,YAW,YAY,YAZ,TAWELLEMET YAZ,YAZZ,YE,YO",
  "2D6F|TIFINAGH |MODIFIER LETTER LABIALIZATION MARK,SEPARATOR MARK",
  "2D7F||TIFINAGH CONSONANT JOINER",
  "|ETHIOPIC SYLLABLE |LOA,MOA,ROA,SOA",
  "|ETHIOPIC SYLLABLE |SHOA,BOA,TOA,COA,NOA,NYOA,GLOTTAL OA,ZOA,DOA,DDOA,JOA,THOA,CHOA,PHOA,POA,GGWA,GGWI,GGWEE,GGWE",
  "2DA0|ETHIOPIC SYLLABLE |SSA,SSU,SSI,SSAA,SSEE,SSE,SSO,,CCA,CCU,CCI,CCAA,CCEE,CCE,CCO,,ZZA,ZZU",
  "|ETHIOPIC SYLLABLE |ZZI,ZZAA,ZZEE,ZZE,ZZO,,CCHA,CCHU,CCHI,CCHAA,CCHEE,CCHE,CCHO,,QYA,QYU,QYI,QYAA,QYEE,QYE,QYO,,KYA",
  "|ETHIOPIC SYLLABLE |KYU,KYI,KYAA,KYEE,KYE,KYO,,XYA,XYU,XYI,XYAA,XYEE,XYE,XYO,,GYA,GYU,GYI,GYAA,GYEE,GYE,GYO",
  "2DE0|COMBINING CYRILLIC LETTER |BE,VE,GHE,DE,ZHE,ZE,KA,EL,EM,EN,O,PE,ER,ES,TE,HA,TSE,CHE,SHA,SHCHA,FITA",
  "|COMBINING CYRILLIC LETTER |ES-TE,A,IE,DJERV,MONOGRAPH UK,YAT,YU,IOTIFIED A,LITTLE YUS,BIG YUS,IOTIFIED BIG YUS",
  "|RIGHT ANGLE |SUBSTITUTION MARKER,DOTTED SUBSTITUTION MARKER",
  "||LEFT SUBSTITUTION BRACKET,RIGHT SUBSTITUTION BRACKET",
  "||LEFT DOTTED SUBSTITUTION BRACKET,RIGHT DOTTED SUBSTITUTION BRACKET,RAISED INTERPOLATION MARKER",
  "||RAISED DOTTED INTERPOLATION MARKER,DOTTED TRANSPOSITION MARKER,LEFT TRANSPOSITION BRACKET",
  "||RIGHT TRANSPOSITION BRACKET,RAISED SQUARE,LEFT RAISED OMISSION BRACKET,RIGHT RAISED OMISSION BRACKET",
  "||EDITORIAL CORONIS,PARAGRAPHOS,FORKED PARAGRAPHOS,REVERSED FORKED PARAGRAPHOS,HYPODIASTOLE,DOTTED OBELOS",
  "||DOWNWARDS ANCORA,UPWARDS ANCORA,DOTTED RIGHT-POINTING ANGLE,DOUBLE OBLIQUE HYPHEN,INVERTED INTERROBANG",
  "||PALM BRANCH,HYPHEN WITH DIAERESIS,TILDE WITH RING ABOVE,LEFT LOW PARAPHRASE BRACKET,RIGHT LOW PARAPHRASE BRACKET",
  "|TILDE WITH DOT |ABOVE,BELOW",
  "||LEFT VERTICAL BAR WITH QUILL,RIGHT VERTICAL BAR WITH QUILL,TOP LEFT HALF BRACKET,TOP RIGHT HALF BRACKET",
  "|BOTTOM |LEFT HALF BRACKET,RIGHT HALF BRACKET",
  "||LEFT SIDEWAYS U BRACKET,RIGHT SIDEWAYS U BRACKET,LEFT DOUBLE PARENTHESIS,RIGHT DOUBLE PARENTHESIS",
  "||TWO DOTS OVER ONE DOT PUNCTUATION,ONE DOT OVER TWO DOTS PUNCTUATION,SQUARED FOUR DOT PUNCTUATION",
  "||FIVE DOT MARK,REVERSED QUESTION MARK,VERTICAL TILDE,RING POINT,WORD SEPARATOR MIDDLE DOT,TURNED COMMA,RAISED DOT",
  "||RAISED COMMA,TURNED SEMICOLON,DAGGER WITH LEFT GUARD,DAGGER WITH RIGHT GUARD,TURNED DAGGER,TOP HALF SECTION SIGN",
  "||TWO-EM DASH,THREE-EM DASH,STENOGRAPHIC FULL STOP,VERTICAL SIX DOTS,WIGGLY VERTICAL LINE,CAPITULUM",
  "||DOUBLE HYPHEN,REVERSED COMMA,DOUBLE LOW-REVERSED-9 QUOTATION MARK,DASH WITH LEFT UPTURN,DOUBLE SUSPENSION MARK",
  "|INVERTED LOW |KAVYKA,KAVYKA WITH KAVYKA ABOVE",
  "||LOW KAVYKA,LOW KAVYKA WITH DOT,DOUBLE STACKED COMMA",
  "||DOTTED SOLIDUS,TRIPLE DAGGER,MEDIEVAL COMMA,PARAGRAPHUS MARK,PUNCTUS ELEVATUS MARK,CORNISH VERSE DIVIDER",
  "|CROSS PATTY WITH |RIGHT CROSSBAR,LEFT CROSSBAR",
  "||TIRONIAN SIGN CAPITAL ET,MEDIEVAL EXCLAMATION MARK,MEDIEVAL QUESTION MARK,LEFT SQUARE BRACKET WITH STROKE",
  "||RIGHT SQUARE BRACKET WITH STROKE,LEFT SQUARE BRACKET WITH DOUBLE STROKE,RIGHT SQUARE BRACKET WITH DOUBLE STROKE",
  "|TOP HALF |LEFT PARENTHESIS,RIGHT PARENTHESIS",
  "|BOTTOM HALF |LEFT PARENTHESIS,RIGHT PARENTHESIS",
  "||OBLIQUE HYPHEN"]

end Linewise.CharacterName
