/-
Names of characters from 1d000 on: musical, mathematical and game symbols, pictographs, tags.

The rows are written as `CharacterName.Row.ofText` reads them.
-/
namespace Linewise.CharacterName

/-- the rows for these characters -/
def pictographNames : List String := [
  "1D000|BYZANTINE MUSICAL SYMBOL |PSILI,DASEIA,PERISPOMENI,OXEIA EKFONITIKON",
  "|BYZANTINE MUSICAL SYMBOL |OXEIA DIPLI,VAREIA EKFONITIKON,VAREIA DIPLI,KATHISTI,SYRMATIKI,PARAKLITIKI",
  "|BYZANTINE MUSICAL SYMBOL |YPOKRISIS,YPOKRISIS DIPLI,KREMASTI,APESO EKFONITIKON,EXO EKFONITIKON,TELEIA,KENTIMATA",
  "|BYZANTINE MUSICAL SYMBOL |APOSTROFOS,APOSTROFOS DIPLI,SYNEVMA,THITA,OLIGON ARCHAION,GORGON ARCHAION,PSILON",
  "|BYZANTINE MUSICAL SYMBOL |CHAMILON,VATHY,ISON ARCHAION,KENTIMA ARCHAION,KENTIMATA ARCHAION,SAXIMATA,PARICHON",
  "|BYZANTINE MUSICAL SYMBOL |STAVROS APODEXIA,OXEIAI ARCHAION,VAREIAI ARCHAION,APODERMA ARCHAION,APOTHEMA,KLASMA",
  "|BYZANTINE MUSICAL SYMBOL |REVMA,PIASMA ARCHAION,TINAGMA,ANATRICHISMA,SEISMA,SYNAGMA ARCHAION,SYNAGMA META STAVROU",
  "|BYZANTINE MUSICAL SYMBOL |OYRANISMA ARCHAION,THEMA,LEMOI,DYO,TRIA,TESSERA,KRATIMATA,APESO EXO NEO",
  "|BYZANTINE MUSICAL SYMBOL |FTHORA ARCHAION,IMIFTHORA,TROMIKON ARCHAION,KATAVA TROMIKON,PELASTON,PSIFISTON,KONTEVMA",
  "|BYZANTINE MUSICAL SYMBOL |CHOREVMA ARCHAION,RAPISMA,PARAKALESMA ARCHAION,PARAKLITIKI ARCHAION,ICHADIN,NANA,PETASMA",
  "|BYZANTINE MUSICAL SYMBOL |KONTEVMA ALLO,TROMIKON ALLO,STRAGGISMATA,GRONTHISMATA,ISON NEO,OLIGON NEO,OXEIA NEO",
  "|BYZANTINE MUSICAL SYMBOL |PETASTI,KOUFISMA,PETASTOKOUFISMA,KRATIMOKOUFISMA,PELASTON NEO,KENTIMATA NEO ANO",
  "|BYZANTINE MUSICAL SYMBOL |KENTIMA NEO ANO,YPSILI,APOSTROFOS NEO,APOSTROFOI SYNDESMOS NEO,YPORROI,KRATIMOYPORROON",
  "|BYZANTINE MUSICAL SYMBOL |ELAFRON,CHAMILI,MIKRON ISON,VAREIA NEO,PIASMA NEO,PSIFISTON NEO,OMALON,ANTIKENOMA",
  "|BYZANTINE MUSICAL SYMBOL |LYGISMA,PARAKLITIKI NEO,PARAKALESMA NEO,ETERON PARAKALESMA,KYLISMA,ANTIKENOKYLISMA",
  "|BYZANTINE MUSICAL SYMBOL |TROMIKON NEO,EKSTREPTON,SYNAGMA NEO,SYRMA,CHOREVMA NEO,EPEGERMA,SEISMA NEO,XIRON KLASMA",
  "|BYZANTINE MUSICAL SYMBOL |TROMIKOPSIFISTON,PSIFISTOLYGISMA,TROMIKOLYGISMA,TROMIKOPARAKALESMA,PSIFISTOPARAKALESMA",
  "|BYZANTINE MUSICAL SYMBOL |TROMIKOSYNAGMA,PSIFISTOSYNAGMA,GORGOSYNTHETON,ARGOSYNTHETON,ETERON ARGOSYNTHETON",
  "|BYZANTINE MUSICAL SYMBOL |OYRANISMA NEO,THEMATISMOS ESO,THEMATISMOS EXO,THEMA APLOUN,THES KAI APOTHES,KATAVASMA",
  "|BYZANTINE MUSICAL SYMBOL |ENDOFONON,YFEN KATO,YFEN ANO,STAVROS,KLASMA ANO,DIPLI ARCHAION,KRATIMA ARCHAION",
  "|BYZANTINE MUSICAL SYMBOL |KRATIMA ALLO,KRATIMA NEO,APODERMA NEO,APLI,DIPLI,TRIPLI,TETRAPLI,KORONIS",
  "|BYZANTINE MUSICAL SYMBOL LEIMMA |ENOS CHRONOU,DYO CHRONON,TRION CHRONON,TESSARON CHRONON,IMISEOS CHRONOU",
  "|BYZANTINE MUSICAL SYMBOL |GORGON NEO ANO,GORGON PARESTIGMENON ARISTERA,GORGON PARESTIGMENON DEXIA,DIGORGON",
  "|BYZANTINE MUSICAL SYMBOL DIGORGON PARESTIGMENON |ARISTERA KATO,ARISTERA ANO,DEXIA",
  "|BYZANTINE MUSICAL SYMBOL |TRIGORGON,ARGON,IMIDIARGON,DIARGON",
  "|BYZANTINE MUSICAL SYMBOL AGOGI |POLI ARGI,ARGOTERI,ARGI,METRIA,MESI,GORGI,GORGOTERI,POLI GORGI",
  "|BYZANTINE MUSICAL SYMBOL MARTYRIA |PROTOS ICHOS,ALLI PROTOS ICHOS,DEYTEROS ICHOS,ALLI DEYTEROS ICHOS,TRITOS ICHOS",
  "|BYZANTINE MUSICAL SYMBOL MARTYRIA |TRIFONIAS,TETARTOS ICHOS,TETARTOS LEGETOS ICHOS,LEGETOS ICHOS,PLAGIOS ICHOS",
  "|BYZANTINE MUSICAL SYMBOL |ISAKIA TELOUS ICHIMATOS,APOSTROFOI TELOUS ICHIMATOS",
  "|BYZANTINE MUSICAL SYMBOL FANEROSIS |TETRAFONIAS,MONOFONIAS,DIFONIAS",
  "|BYZANTINE MUSICAL SYMBOL MARTYRIA |VARYS ICHOS,PROTOVARYS ICHOS,PLAGIOS TETARTOS ICHOS",
  "|BYZANTINE MUSICAL SYMBOL GORTHMIKON N |APLOUN,DIPLOUN",
  "|BYZANTINE MUSICAL SYMBOL |ENARXIS KAI FTHORA VOU,IMIFONON,IMIFTHORON,FTHORA ARCHAION DEYTEROU ICHOU",
  "|BYZANTINE MUSICAL SYMBOL FTHORA |DIATONIKI PA,DIATONIKI NANA,NAOS ICHOS,DIATONIKI DI,SKLIRON DIATONON DI",
  "|BYZANTINE MUSICAL SYMBOL FTHORA DIATONIKI |KE,ZO,NI KATO,NI ANO",
  "|BYZANTINE MUSICAL SYMBOL FTHORA MALAKON CHROMA |DIFONIAS,MONOFONIAS",
  "|BYZANTINE MUSICAL SYMBOL |FHTORA SKLIRON CHROMA VASIS,FTHORA SKLIRON CHROMA SYNAFI,FTHORA NENANO,CHROA ZYGOS",
  "|BYZANTINE MUSICAL SYMBOL |CHROA KLITON,CHROA SPATHI,FTHORA I YFESIS TETARTIMORION,FTHORA ENARMONIOS ANTIFONIA",
  "|BYZANTINE MUSICAL SYMBOL |YFESIS TRITIMORION,DIESIS TRITIMORION,DIESIS TETARTIMORION,DIESIS APLI DYO DODEKATA",
  "|BYZANTINE MUSICAL SYMBOL DIESIS |MONOGRAMMOS TESSERA DODEKATA,DIGRAMMOS EX DODEKATA,TRIGRAMMOS OKTO DODEKATA",
  "|BYZANTINE MUSICAL SYMBOL YFESIS |APLI DYO DODEKATA,MONOGRAMMOS TESSERA DODEKATA,DIGRAMMOS EX DODEKATA",
  "|BYZANTINE MUSICAL SYMBOL |YFESIS TRIGRAMMOS OKTO DODEKATA,GENIKI DIESIS,GENIKI YFESIS",
  "|BYZANTINE MUSICAL SYMBOL DIASTOLI |APLI MIKRI,APLI MEGALI,DIPLI,THESEOS",
  "|BYZANTINE MUSICAL SYMBOL SIMANSIS |THESEOS,THESEOS DISIMOU,THESEOS TRISIMOU,THESEOS TETRASIMOU,ARSEOS",
  "|BYZANTINE MUSICAL SYMBOL SIMANSIS ARSEOS |DISIMOU,TRISIMOU,TETRASIMOU",
  "|BYZANTINE MUSICAL SYMBOL |DIGRAMMA GG,DIFTOGGOS OU,STIGMA",
  "|BYZANTINE MUSICAL SYMBOL ARKTIKO |PA,VOU,GA,DI,KE,ZO,NI",
  "||BYZANTINE MUSICAL SYMBOL KENTIMATA NEO MESO",
  "|BYZANTINE MUSICAL SYMBOL |KENTIMA NEO MESO,KENTIMATA NEO KATO,KENTIMA NEO KATO,KLASMA KATO,GORGON NEO KATO",
  "1D100|MUSICAL SYMBOL |SINGLE BARLINE,DOUBLE BARLINE,FINAL BARLINE,REVERSE FINAL BARLINE,DASHED BARLINE",
  "|MUSICAL SYMBOL |SHORT BARLINE,LEFT REPEAT SIGN,RIGHT REPEAT SIGN,REPEAT DOTS,DAL SEGNO,DA CAPO,SEGNO,CODA",
  "|MUSICAL SYMBOL REPEATED FIGURE-|1,2,3",
  "|MUSICAL SYMBOL |FERMATA,FERMATA BELOW,BREATH MARK,CAESURA,BRACE,BRACKET,ONE-LINE STAFF,TWO-LINE STAFF",
  "|MUSICAL SYMBOL |THREE-LINE STAFF,FOUR-LINE STAFF,FIVE-LINE STAFF,SIX-LINE STAFF,SIX-STRING FRETBOARD",
  "|MUSICAL SYMBOL |FOUR-STRING FRETBOARD,G CLEF,G CLEF OTTAVA ALTA,G CLEF OTTAVA BASSA,C CLEF,F CLEF",
  "|MUSICAL SYMBOL F CLEF OTTAVA |ALTA,BASSA",
  "|MUSICAL SYMBOL |DRUM CLEF-1,DRUM CLEF-2,,,MULTIPLE MEASURE REST,DOUBLE SHARP,DOUBLE FLAT",
  "|MUSICAL SYMBOL |FLAT UP,FLAT DOWN,NATURAL UP,NATURAL DOWN,SHARP UP,SHARP DOWN,QUARTER TONE SHARP,QUARTER TONE FLAT",
  "|MUSICAL SYMBOL |COMMON TIME,CUT TIME,OTTAVA ALTA,OTTAVA BASSA,QUINDICESIMA ALTA,QUINDICESIMA BASSA",
  "|MUSICAL SYMBOL |MULTI REST,WHOLE REST,HALF REST,QUARTER REST,EIGHTH REST,SIXTEENTH REST,THIRTY-SECOND REST",
  "|MUSICAL SYMBOL |SIXTY-FOURTH REST,ONE HUNDRED TWENTY-EIGHTH REST,X NOTEHEAD,PLUS NOTEHEAD,CIRCLE X NOTEHEAD",
  "|MUSICAL SYMBOL SQUARE NOTEHEAD |WHITE,BLACK",
  "|MUSICAL SYMBOL TRIANGLE NOTEHEAD |UP WHITE,UP BLACK,LEFT WHITE,LEFT BLACK",
  "|MUSICAL SYMBOL TRIANGLE NOTEHEAD |RIGHT WHITE,RIGHT BLACK,DOWN WHITE,DOWN BLACK,UP RIGHT WHITE,UP RIGHT BLACK",
  "|MUSICAL SYMBOL MOON NOTEHEAD |WHITE,BLACK",
  "|MUSICAL SYMBOL TRIANGLE-ROUND NOTEHEAD DOWN |WHITE,BLACK",
  "|MUSICAL SYMBOL |PARENTHESIS NOTEHEAD,VOID NOTEHEAD,NOTEHEAD BLACK,NULL NOTEHEAD",
  "|MUSICAL SYMBOL |CLUSTER NOTEHEAD WHITE,CLUSTER NOTEHEAD BLACK,BREVE,WHOLE NOTE,HALF NOTE,QUARTER NOTE",
  "|MUSICAL SYMBOL |EIGHTH NOTE,SIXTEENTH NOTE,THIRTY-SECOND NOTE,SIXTY-FOURTH NOTE,ONE HUNDRED TWENTY-EIGHTH NOTE",
  "|MUSICAL SYMBOL COMBINING |STEM,SPRECHGESANG STEM,TREMOLO-1,TREMOLO-2,TREMOLO-3",
  "|MUSICAL SYMBOL FINGERED TREMOLO-|1,2,3",
  "|MUSICAL SYMBOL COMBINING |AUGMENTATION DOT,FLAG-1,FLAG-2,FLAG-3,FLAG-4,FLAG-5",
  "|MUSICAL SYMBOL |BEGIN BEAM,END BEAM,BEGIN TIE,END TIE,BEGIN SLUR,END SLUR,BEGIN PHRASE,END PHRASE",
  "|MUSICAL SYMBOL COMBINING |ACCENT,STACCATO,TENUTO,STACCATISSIMO,MARCATO,MARCATO-STACCATO,ACCENT-STACCATO,LOURE",
  "|MUSICAL SYMBOL ARPEGGIATO |UP,DOWN",
  "|MUSICAL SYMBOL COMBINING |DOIT,RIP,FLIP,SMEAR,BEND,DOUBLE TONGUE,TRIPLE TONGUE",
  "|MUSICAL SYMBOL |RINFORZANDO,SUBITO,Z,PIANO,MEZZO,FORTE,CRESCENDO",
  "|MUSICAL SYMBOL |DECRESCENDO,GRACE NOTE SLASH,GRACE NOTE NO SLASH,TR,TURN,INVERTED TURN,TURN SLASH,TURN UP",
  "|MUSICAL SYMBOL ORNAMENT STROKE-|1,2,3,4,5,6,7,8,9,10,11",
  "|MUSICAL SYMBOL |HAUPTSTIMME,NEBENSTIMME,END OF STIMME,DEGREE SLASH",
  "|MUSICAL SYMBOL COMBINING |DOWN BOW,UP BOW,HARMONIC,SNAP PIZZICATO",
  "|MUSICAL SYMBOL |PEDAL MARK,PEDAL UP MARK,HALF PEDAL MARK",
  "|MUSICAL SYMBOL |GLISSANDO UP,GLISSANDO DOWN,WITH FINGERNAILS,DAMP,DAMP ALL,MAXIMA,LONGA,BREVIS,SEMIBREVIS WHITE",
  "|MUSICAL SYMBOL |SEMIBREVIS BLACK,MINIMA,MINIMA BLACK,SEMIMINIMA WHITE,SEMIMINIMA BLACK,FUSA WHITE,FUSA BLACK",
  "|MUSICAL SYMBOL |LONGA PERFECTA REST,LONGA IMPERFECTA REST,BREVIS REST,SEMIBREVIS REST,MINIMA REST,SEMIMINIMA REST",
  "|MUSICAL SYMBOL TEMPUS PERFECTUM CUM PROLATIONE |PERFECTA,IMPERFECTA,PERFECTA DIMINUTION-1",
  "|MUSICAL SYMBOL TEMPUS IMPERFECTUM CUM PROLATIONE |PERFECTA,IMPERFECTA",
  "|MUSICAL SYMBOL TEMPUS IMPERFECTUM CUM PROLATIONE IMPERFECTA DIMINUTION-|1,2,3",
  "|MUSICAL SYMBOL |CROIX,GREGORIAN C CLEF,GREGORIAN F CLEF,SQUARE B,VIRGA,PODATUS,CLIVIS,SCANDICUS",
  "|MUSICAL SYMBOL |CLIMACUS,TORCULUS,PORRECTUS,PORRECTUS FLEXUS,SCANDICUS FLEXUS,TORCULUS RESUPINUS,PES SUBPUNCTIS",
  "|MUSICAL SYMBOL KIEVAN |C CLEF,END OF PIECE,FINAL NOTE,RECITATIVE MARK,WHOLE NOTE,HALF NOTE,QUARTER NOTE STEM DOWN",
  "|MUSICAL SYMBOL KIEVAN |QUARTER NOTE STEM UP,EIGHTH NOTE STEM DOWN,EIGHTH NOTE STEM UP,FLAT SIGN",
  "|MUSICAL SYMBOL |SORI,KORON",
  "1D200|GREEK VOCAL NOTATION SYMBOL-|1,2,3,4,5,6,7,8,9,10,11,12,13,14,15,16,17,18,19,20,21,22,23,24,50,51,52,53,54",
  "|GREEK INSTRUMENTAL NOTATION SYMBOL-|1,2,4,5,7,8,11,12,13,14,17",
  "|GREEK INSTRUMENTAL NOTATION SYMBOL-|18,19,23,24,25,26,27,29,30,32,36,37,38,39,40,42,43,45,47,48,49,50,51,52,53,54",
  "|COMBINING GREEK MUSICAL |TRISEME,TETRASEME,PENTASEME",
  "||GREEK MUSICAL LEIMMA",
  "1D2E0|MAYAN NUMERAL |ZERO,ONE,TWO,THREE,FOUR,FIVE,SIX",
  "|MAYAN NUMERAL |SEVEN,EIGHT,NINE,TEN,ELEVEN,TWELVE,THIRTEEN,FOURTEEN,FIFTEEN,SIXTEEN,SEVENTEEN,EIGHTEEN,NINETEEN",
  "1D300||MONOGRAM FOR EARTH",
  "|DIGRAM FOR |HEAVENLY EARTH,HUMAN EARTH,EARTHLY HEAVEN,EARTHLY HUMAN,EARTH",
  "|TETRAGRAM FOR |CENTRE,FULL CIRCLE,MIRED,BARRIER,KEEPING SMALL",
  "|TETRAGRAM FOR |CONTRARIETY,ASCENT,OPPOSITION,BRANCHING OUT,DEFECTIVENESS OR DISTORTION,DIVERGENCE,YOUTHFULNESS",
  "|TETRAGRAM FOR |INCREASE,PENETRATION,REACH,CONTACT,HOLDING BACK,WAITING,FOLLOWING,ADVANCE,RELEASE,RESISTANCE",
  "|TETRAGRAM FOR |EASE,JOY,CONTENTION,ENDEAVOUR,DUTIES,CHANGE,DECISIVENESS,BOLD RESOLUTION,PACKING,LEGION,CLOSENESS",
  "|TETRAGRAM FOR |KINSHIP,GATHERING,STRENGTH,PURITY,FULLNESS,RESIDENCE,LAW OR MODEL,RESPONSE,GOING TO MEET,ENCOUNTERS",
  "|TETRAGRAM FOR |STOVE,GREATNESS,ENLARGEMENT,PATTERN,RITUAL,FLIGHT,VASTNESS OR WASTING,CONSTANCY,MEASURE,ETERNITY",
  "|TETRAGRAM FOR |UNITY,DIMINISHMENT,CLOSED MOUTH,GUARDEDNESS,GATHERING IN,MASSING,ACCUMULATION,EMBELLISHMENT",
  "|TETRAGRAM FOR |DOUBT,WATCH,SINKING,INNER,DEPARTURE,DARKENING,DIMMING,EXHAUSTION,SEVERANCE,STOPPAGE,HARDNESS",
  "|TETRAGRAM FOR |COMPLETION,CLOSURE,FAILURE,AGGRAVATION,COMPLIANCE,ON THE VERGE,DIFFICULTIES,LABOURING,FOSTERING",
  "1D360|COUNTING ROD UNIT DIGIT |ONE,TWO,THREE,FOUR,FIVE,SIX,SEVEN,EIGHT,NINE",
  "|COUNTING ROD TENS DIGIT |ONE,TWO,THREE,FOUR,FIVE,SIX,SEVEN,EIGHT,NINE",
  "|IDEOGRAPHIC TALLY MARK |ONE,TWO,THREE,FOUR,FIVE",
  "|TALLY MARK |ONE,FIVE",
  "1D400|MATHEMATICAL BOLD CAPITAL |A,B,C,D,E,F,G,H,I,J,K,L,M,N,O,P,Q,R,S,T,U,V,W,X,Y,Z",
  "|MATHEMATICAL BOLD SMALL |A,B,C,D,E,F,G,H,I,J,K,L,M,N,O,P,Q,R,S,T,U,V,W,X,Y,Z",
  "|MATHEMATICAL ITALIC CAPITAL |A,B,C,D,E,F,G,H,I,J,K,L,M,N,O,P,Q,R,S,T,U,V,W,X,Y,Z",
  "|MATHEMATICAL ITALIC SMALL |A,B,C,D,E,F,G,,I,J,K,L,M,N,O,P,Q,R,S,T,U,V,W,X,Y,Z",
  "|MATHEMATICAL BOLD ITALIC CAPITAL |A,B,C,D,E,F,G,H,I,J,K,L,M,N,O,P,Q,R,S,T,U,V,W,X,Y,Z",
  "|MATHEMATICAL BOLD ITALIC SMALL |A,B,C,D,E,F,G,H,I,J,K,L,M,N,O,P,Q,R,S,T,U,V,W,X,Y,Z",
  "|MATHEMATICAL SCRIPT CAPITAL |A,,C,D,,,G,,,J,K,,,N,O,P,Q,,S,T,U,V,W,X,Y,Z",
  "|MATHEMATICAL SCRIPT SMALL |A,B,C,D,,F,,H,I,J,K,L,M,N,,P,Q,R,S,T,U,V,W,X,Y,Z",
  "|MATHEMATICAL BOLD SCRIPT CAPITAL |A,B,C,D,E,F,G,H,I,J,K,L,M,N,O,P,Q,R,S,T,U,V,W,X,Y,Z",
  "|MATHEMATICAL BOLD SCRIPT SMALL |A,B,C,D,E,F,G,H,I,J,K,L,M,N,O,P,Q,R,S,T,U,V,W,X,Y,Z",
  "|MATHEMATICAL FRAKTUR CAPITAL |A,B,,D,E,F,G,,,J,K,L,M,N,O,P,Q,,S,T,U,V,W,X,Y",
  "1D51E|MATHEMATICAL FRAKTUR SMALL |A,B,C,D,E,F,G,H,I,J,K,L,M,N,O,P,Q,R,S,T,U,V,W,X,Y,Z",
  "|MATHEMATICAL DOUBLE-STRUCK CAPITAL |A,B,,D,E,F,G,,I,J,K,L,M,,O,,,,S,T,U,V,W,X,Y",
  "1D552|MATHEMATICAL DOUBLE-STRUCK SMALL |A,B,C,D,E,F,G,H,I,J,K,L,M,N,O,P,Q,R,S,T,U,V,W,X,Y,Z",
  "|MATHEMATICAL BOLD FRAKTUR CAPITAL |A,B,C,D,E,F,G,H,I,J,K,L,M,N,O,P,Q,R,S,T,U,V,W,X,Y,Z",
  "|MATHEMATICAL BOLD FRAKTUR SMALL |A,B,C,D,E,F,G,H,I,J,K,L,M,N,O,P,Q,R,S,T,U,V,W,X,Y,Z",
  "|MATHEMATICAL SANS-SERIF CAPITAL |A,B,C,D,E,F,G,H,I,J,K,L,M,N,O,P,Q,R,S,T,U,V,W,X,Y,Z",
  "|MATHEMATICAL SANS-SERIF SMALL |A,B,C,D,E,F,G,H,I,J,K,L,M,N,O,P,Q,R,S,T,U,V,W,X,Y,Z",
  "|MATHEMATICAL SANS-SERIF BOLD CAPITAL |A,B,C,D,E,F,G,H,I,J,K,L,M,N,O,P,Q,R,S,T,U,V,W,X,Y,Z",
  "|MATHEMATICAL SANS-SERIF BOLD SMALL |A,B,C,D,E,F,G,H,I,J,K,L,M,N,O,P,Q,R,S,T,U,V,W,X,Y,Z",
  "|MATHEMATICAL SANS-SERIF ITALIC CAPITAL |A,B,C,D,E,F,G,H,I,J,K,L,M,N,O,P,Q,R,S,T,U,V,W,X,Y,Z",
  "|MATHEMATICAL SANS-SERIF ITALIC SMALL |A,B,C,D,E,F,G,H,I,J,K,L,M,N,O,P,Q,R,S,T,U,V,W,X,Y,Z",
  "|MATHEMATICAL SANS-SERIF BOLD ITALIC CAPITAL |A,B,C,D,E,F,G,H,I,J,K,L,M,N,O,P,Q,R,S,T,U,V,W,X,Y,Z",
  "|MATHEMATICAL SANS-SERIF BOLD ITALIC SMALL |A,B,C,D,E,F,G,H,I,J,K,L,M,N,O,P,Q,R,S,T,U,V,W,X,Y,Z",
  "|MATHEMATICAL MONOSPACE CAPITAL |A,B,C,D,E,F,G,H,I,J,K,L,M,N,O,P,Q,R,S,T,U,V,W,X,Y,Z",
  "|MATHEMATICAL MONOSPACE SMALL |A,B,C,D,E,F,G,H,I,J,K,L,M,N,O,P,Q,R,S,T,U,V,W,X,Y,Z",
  "|MATHEMATICAL ITALIC SMALL DOTLESS |I,J",
  "1D6A8|MATHEMATICAL BOLD CAPITAL |ALPHA,BETA,GAMMA,DELTA,EPSILON,ZETA,ETA,THETA,IOTA",
  "|MATHEMATICAL BOLD CAPITAL |KAPPA,LAMDA,MU,NU,XI,OMICRON,PI,RHO,THETA SYMBOL,SIGMA,TAU,UPSILON,PHI,CHI,PSI,OMEGA",
  "||MATHEMATICAL BOLD NABLA",
  "|MATHEMATICAL BOLD SMALL |ALPHA,BETA,GAMMA,DELTA,EPSILON,ZETA,ETA,THETA",
  "|MATHEMATICAL BOLD SMALL |IOTA,KAPPA,LAMDA,MU,NU,XI,OMICRON,PI,RHO,FINAL SIGMA,SIGMA,TAU,UPSILON,PHI,CHI,PSI,OMEGA",
  "|MATHEMATICAL BOLD |PARTIAL DIFFERENTIAL,EPSILON SYMBOL,THETA SYMBOL,KAPPA SYMBOL,PHI SYMBOL,RHO SYMBOL,PI SYMBOL",
  "|MATHEMATICAL ITALIC CAPITAL |ALPHA,BETA,GAMMA,DELTA,EPSILON,ZETA,ETA,THETA,IOTA",
  "|MATHEMATICAL ITALIC CAPITAL |KAPPA,LAMDA,MU,NU,XI,OMICRON,PI,RHO,THETA SYMBOL,SIGMA,TAU,UPSILON,PHI,CHI,PSI,OMEGA",
  "||MATHEMATICAL ITALIC NABLA",
  "|MATHEMATICAL ITALIC SMALL |ALPHA,BETA,GAMMA,DELTA,EPSILON,ZETA,ETA,THETA,IOTA",
  "|MATHEMATICAL ITALIC SMALL |KAPPA,LAMDA,MU,NU,XI,OMICRON,PI,RHO,FINAL SIGMA,SIGMA,TAU,UPSILON,PHI,CHI,PSI,OMEGA",
  "|MATHEMATICAL ITALIC |PARTIAL DIFFERENTIAL,EPSILON SYMBOL,THETA SYMBOL,KAPPA SYMBOL,PHI SYMBOL,RHO SYMBOL,PI SYMBOL",
  "|MATHEMATICAL BOLD ITALIC CAPITAL |ALPHA,BETA,GAMMA,DELTA,EPSILON,ZETA,ETA,THETA,IOTA,KAPPA",
  "|MATHEMATICAL BOLD ITALIC CAPITAL |LAMDA,MU,NU,XI,OMICRON,PI,RHO,THETA SYMBOL,SIGMA,TAU,UPSILON,PHI,CHI,PSI,OMEGA",
  "||MATHEMATICAL BOLD ITALIC NABLA",
  "|MATHEMATICAL BOLD ITALIC SMALL |ALPHA,BETA,GAMMA,DELTA,EPSILON,ZETA,ETA,THETA,IOTA,KAPPA",
  "|MATHEMATICAL BOLD ITALIC SMALL |LAMDA,MU,NU,XI,OMICRON,PI,RHO,FINAL SIGMA,SIGMA,TAU,UPSILON,PHI,CHI,PSI,OMEGA",
  "||MATHEMATICAL BOLD ITALIC PARTIAL DIFFERENTIAL",
  "|MATHEMATICAL BOLD ITALIC |EPSILON SYMBOL,THETA SYMBOL,KAPPA SYMBOL,PHI SYMBOL,RHO SYMBOL,PI SYMBOL",
  "|MATHEMATICAL SANS-SERIF BOLD CAPITAL |ALPHA,BETA,GAMMA,DELTA,EPSILON,ZETA,ETA,THETA,IOTA,KAPPA,LAMDA",
  "|MATHEMATICAL SANS-SERIF BOLD CAPITAL |MU,NU,XI,OMICRON,PI,RHO,THETA SYMBOL,SIGMA,TAU,UPSILON,PHI,CHI,PSI,OMEGA",
  "||MATHEMATICAL SANS-SERIF BOLD NABLA",
  "|MATHEMATICAL SANS-SERIF BOLD SMALL |ALPHA,BETA,GAMMA,DELTA,EPSILON,ZETA,ETA,THETA,IOTA,KAPPA",
  "|MATHEMATICAL SANS-SERIF BOLD SMALL |LAMDA,MU,NU,XI,OMICRON,PI,RHO,FINAL SIGMA,SIGMA,TAU,UPSILON,PHI,CHI,PSI,OMEGA",
  "||MATHEMATICAL SANS-SERIF BOLD PARTIAL DIFFERENTIAL",
  "|MATHEMATICAL SANS-SERIF BOLD |EPSILON SYMBOL,THETA SYMBOL,KAPPA SYMBOL,PHI SYMBOL,RHO SYMBOL,PI SYMBOL",
  "|MATHEMATICAL SANS-SERIF BOLD ITALIC CAPITAL |ALPHA,BETA,GAMMA,DELTA,EPSILON,ZETA,ETA,THETA,IOTA,KAPPA,LAMDA,MU",
  "|MATHEMATICAL SANS-SERIF BOLD ITALIC CAPITAL |NU,XI,OMICRON,PI,RHO,THETA SYMBOL,SIGMA,TAU,UPSILON,PHI,CHI,PSI,OMEGA",
  "||MATHEMATICAL SANS-SERIF BOLD ITALIC NABLA",
  "|MATHEMATICAL SANS-SERIF BOLD ITALIC SMALL |ALPHA,BETA,GAMMA,DELTA,EPSILON,ZETA,ETA,THETA,IOTA,KAPPA,LAMDA",
  "|MATHEMATICAL SANS-SERIF BOLD ITALIC SMALL |MU,NU,XI,OMICRON,PI,RHO,FINAL SIGMA,SIGMA,TAU,UPSILON,PHI,CHI,PSI,OMEGA",
  "||MATHEMATICAL SANS-SERIF BOLD ITALIC PARTIAL DIFFERENTIAL",
  "|MATHEMATICAL SANS-SERIF BOLD ITALIC |EPSILON SYMBOL,THETA SYMBOL,KAPPA SYMBOL,PHI SYMBOL,RHO SYMBOL,PI SYMBOL",
  "|MATHEMATICAL BOLD CAPITAL/SMALL |DIGAMMA",
  "1D7CE|MATHEMATICAL BOLD DIGIT |ZERO,ONE,TWO,THREE,FOUR,FIVE,SIX,SEVEN,EIGHT,NINE",
  "|MATHEMATICAL DOUBLE-STRUCK DIGIT |ZERO,ONE,TWO,THREE,FOUR,FIVE,SIX,SEVEN,EIGHT,NINE",
  "|MATHEMATICAL SANS-SERIF DIGIT |ZERO,ONE,TWO,THREE,FOUR,FIVE,SIX,SEVEN,EIGHT,NINE",
  "|MATHEMATICAL SANS-SERIF BOLD DIGIT |ZERO,ONE,TWO,THREE,FOUR,FIVE,SIX,SEVEN,EIGHT,NINE",
  "|MATHEMATICAL MONOSPACE DIGIT |ZERO,ONE,TWO,THREE,FOUR,FIVE,SIX,SEVEN,EIGHT,NINE",
  "|SIGNWRITING HAND-|FIST INDEX,CIRCLE INDEX,CUP INDEX",
  "|SIGNWRITING HAND-|OVAL INDEX,HINGE INDEX,ANGLE INDEX,FIST INDEX BENT,CIRCLE INDEX BENT,FIST THUMB UNDER INDEX BENT",
  "|SIGNWRITING HAND-FIST INDEX |RAISED KNUCKLE,CUPPED,HINGED,HINGED LOW",
  "|SIGNWRITING HAND-|CIRCLE INDEX HINGE,FIST INDEX MIDDLE,CIRCLE INDEX MIDDLE",
  "|SIGNWRITING HAND-FIST INDEX MIDDLE |BENT,RAISED KNUCKLES,HINGED",
  "|SIGNWRITING HAND-FIST INDEX |UP MIDDLE HINGED,HINGED MIDDLE UP,MIDDLE CONJOINED",
  "|SIGNWRITING HAND-FIST INDEX MIDDLE CONJOINED |INDEX BENT,MIDDLE BENT,CUPPED,HINGED",
  "|SIGNWRITING HAND-|FIST INDEX MIDDLE CROSSED,CIRCLE INDEX MIDDLE CROSSED,FIST MIDDLE BENT OVER INDEX",
  "|SIGNWRITING HAND-|FIST INDEX BENT OVER MIDDLE,FIST INDEX MIDDLE THUMB,CIRCLE INDEX MIDDLE THUMB",
  "|SIGNWRITING HAND-FIST INDEX MIDDLE |STRAIGHT THUMB BENT,BENT THUMB STRAIGHT,THUMB BENT,HINGED SPREAD THUMB SIDE",
  "|SIGNWRITING HAND-FIST INDEX UP MIDDLE HINGED THUMB |SIDE,CONJOINED",
  "|SIGNWRITING HAND-FIST INDEX |HINGED MIDDLE UP THUMB SIDE,MIDDLE UP SPREAD THUMB FORWARD",
  "|SIGNWRITING HAND-FIST INDEX MIDDLE THUMB |CUPPED,CIRCLED,HOOKED,HINGED",
  "||SIGNWRITING HAND-FIST THUMB BETWEEN INDEX MIDDLE STRAIGHT",
  "|SIGNWRITING HAND-FIST INDEX MIDDLE CONJOINED THUMB |SIDE,SIDE CONJOINED,SIDE BENT",
  "|SIGNWRITING HAND-FIST |MIDDLE THUMB HOOKED INDEX UP,INDEX THUMB HOOKED MIDDLE UP",
  "|SIGNWRITING HAND-FIST INDEX MIDDLE |CONJOINED HINGED THUMB SIDE,CROSSED THUMB SIDE",
  "|SIGNWRITING HAND-FIST INDEX MIDDLE CONJOINED |THUMB FORWARD,CUPPED THUMB FORWARD",
  "|SIGNWRITING HAND-FIST |MIDDLE THUMB CUPPED INDEX UP,INDEX THUMB CUPPED MIDDLE UP",
  "|SIGNWRITING HAND-FIST MIDDLE THUMB CIRCLED INDEX |UP,HINGED",
  "|SIGNWRITING HAND-FIST INDEX THUMB |ANGLED OUT MIDDLE UP,ANGLED IN MIDDLE UP,CIRCLED MIDDLE UP",
  "|SIGNWRITING HAND-FIST INDEX MIDDLE THUMB |CONJOINED HINGED,ANGLED OUT,ANGLED",
  "|SIGNWRITING HAND-FIST MIDDLE THUMB ANGLED |OUT INDEX UP,OUT INDEX CROSSED,INDEX UP",
  "|SIGNWRITING HAND-|FIST INDEX THUMB HOOKED MIDDLE HINGED,FLAT FOUR FINGERS",
  "|SIGNWRITING HAND-FLAT FOUR FINGERS |BENT,HINGED,CONJOINED,CONJOINED SPLIT",
  "|SIGNWRITING HAND-|CLAW FOUR FINGERS CONJOINED,FIST FOUR FINGERS CONJOINED BENT,HINGE FOUR FINGERS CONJOINED",
  "|SIGNWRITING HAND-FLAT |FIVE FINGERS SPREAD,HEEL FIVE FINGERS SPREAD,FIVE FINGERS SPREAD FOUR BENT",
  "|SIGNWRITING HAND-FLAT |HEEL FIVE FINGERS SPREAD FOUR BENT,FIVE FINGERS SPREAD BENT,HEEL FIVE FINGERS SPREAD BENT",
  "|SIGNWRITING HAND-|FLAT FIVE FINGERS SPREAD THUMB FORWARD,CUP FIVE FINGERS SPREAD",
  "|SIGNWRITING HAND-|CUP FIVE FINGERS SPREAD OPEN,HINGE FIVE FINGERS SPREAD OPEN,OVAL FIVE FINGERS SPREAD",
  "|SIGNWRITING HAND-FLAT FIVE FINGERS SPREAD |HINGED,HINGED THUMB SIDE,HINGED NO THUMB",
  "||SIGNWRITING HAND-FLAT",
  "|SIGNWRITING HAND-FLAT |BETWEEN PALM FACINGS,HEEL,THUMB SIDE,HEEL THUMB SIDE,THUMB BENT,THUMB FORWARD",
  "|SIGNWRITING HAND-FLAT SPLIT |INDEX THUMB SIDE,CENTRE,CENTRE THUMB SIDE,CENTRE THUMB SIDE BENT,LITTLE",
  "|SIGNWRITING HAND-|CLAW,CLAW THUMB SIDE,CLAW NO THUMB,CLAW THUMB FORWARD,HOOK CURLICUE,HOOK,CUP OPEN,CUP",
  "|SIGNWRITING HAND-CUP |OPEN THUMB SIDE,THUMB SIDE,OPEN NO THUMB,NO THUMB,OPEN THUMB FORWARD,THUMB FORWARD",
  "|SIGNWRITING HAND-|CURLICUE OPEN,CURLICUE,CIRCLE",
  "|SIGNWRITING HAND-|OVAL,OVAL THUMB SIDE,OVAL NO THUMB,OVAL THUMB FORWARD,HINGE OPEN,HINGE OPEN THUMB FORWARD,HINGE",
  "|SIGNWRITING HAND-HINGE |SMALL,OPEN THUMB SIDE,THUMB SIDE,OPEN NO THUMB,NO THUMB,THUMB SIDE TOUCHING INDEX",
  "|SIGNWRITING HAND-|HINGE THUMB BETWEEN MIDDLE RING,ANGLE,FIST INDEX MIDDLE RING",
  "|SIGNWRITING HAND-|CIRCLE INDEX MIDDLE RING,HINGE INDEX MIDDLE RING,ANGLE INDEX MIDDLE RING,HINGE LITTLE",
  "|SIGNWRITING HAND-|FIST INDEX MIDDLE RING BENT,FIST INDEX MIDDLE RING CONJOINED,HINGE INDEX MIDDLE RING CONJOINED",
  "|SIGNWRITING HAND-FIST LITTLE |DOWN,DOWN RIPPLE STRAIGHT,DOWN RIPPLE CURVED,DOWN OTHERS CIRCLED,UP",
  "|SIGNWRITING HAND-|FIST THUMB UNDER LITTLE UP,CIRCLE LITTLE UP,OVAL LITTLE UP,ANGLE LITTLE UP",
  "|SIGNWRITING HAND-FIST LITTLE |RAISED KNUCKLE,BENT,TOUCHES THUMB,THUMB",
  "|SIGNWRITING HAND-|HINGE LITTLE THUMB,FIST LITTLE INDEX THUMB,HINGE LITTLE INDEX THUMB",
  "|SIGNWRITING HAND-ANGLE LITTLE INDEX THUMB INDEX |THUMB OUT,THUMB",
  "|SIGNWRITING HAND-|FIST LITTLE INDEX,CIRCLE LITTLE INDEX,HINGE LITTLE INDEX,ANGLE LITTLE INDEX",
  "|SIGNWRITING HAND-|FIST INDEX MIDDLE LITTLE,CIRCLE INDEX MIDDLE LITTLE,HINGE INDEX MIDDLE LITTLE,HINGE RING",
  "|SIGNWRITING HAND-|ANGLE INDEX MIDDLE LITTLE,FIST INDEX MIDDLE CROSS LITTLE,CIRCLE INDEX MIDDLE CROSS LITTLE",
  "|SIGNWRITING HAND-|FIST RING DOWN,HINGE RING DOWN INDEX THUMB HOOK MIDDLE,ANGLE RING DOWN MIDDLE THUMB INDEX CROSS",
  "|SIGNWRITING HAND-FIST RING |UP,RAISED KNUCKLE,LITTLE",
  "|SIGNWRITING HAND-|CIRCLE RING LITTLE,OVAL RING LITTLE,ANGLE RING LITTLE",
  "|SIGNWRITING HAND-FIST RING |MIDDLE,MIDDLE CONJOINED,MIDDLE RAISED KNUCKLES,INDEX,THUMB",
  "|SIGNWRITING HAND-|HOOK RING THUMB,FIST INDEX RING LITTLE,CIRCLE INDEX RING LITTLE,CURLICUE INDEX RING LITTLE ON",
  "|SIGNWRITING HAND-HOOK INDEX RING LITTLE |OUT,IN,UNDER",
  "|SIGNWRITING HAND-|CUP INDEX RING LITTLE,HINGE INDEX RING LITTLE",
  "|SIGNWRITING HAND-|ANGLE INDEX RING LITTLE OUT,ANGLE INDEX RING LITTLE,FIST MIDDLE DOWN,HINGE MIDDLE,FIST MIDDLE UP",
  "|SIGNWRITING HAND-|CIRCLE MIDDLE UP,FIST MIDDLE RAISED KNUCKLE,FIST MIDDLE UP THUMB SIDE,HOOK MIDDLE THUMB",
  "|SIGNWRITING HAND-|FIST MIDDLE THUMB LITTLE,FIST MIDDLE LITTLE,FIST MIDDLE RING LITTLE,CIRCLE MIDDLE RING LITTLE",
  "|SIGNWRITING HAND-|CURLICUE MIDDLE RING LITTLE ON,CUP MIDDLE RING LITTLE,HINGE MIDDLE RING LITTLE",
  "|SIGNWRITING HAND-ANGLE MIDDLE RING |LITTLE OUT,LITTLE IN,LITTLE",
  "||SIGNWRITING HAND-CIRCLE MIDDLE RING LITTLE BENT",
  "|SIGNWRITING HAND-CLAW MIDDLE RING LITTLE |CONJOINED,CONJOINED SIDE",
  "|SIGNWRITING HAND-HOOK MIDDLE RING LITTLE |CONJOINED OUT,CONJOINED IN,CONJOINED",
  "|SIGNWRITING HAND-|HINGE INDEX HINGED,FIST INDEX THUMB SIDE,HINGE INDEX THUMB SIDE",
  "|SIGNWRITING HAND-FIST INDEX THUMB SIDE |THUMB DIAGONAL,THUMB CONJOINED,THUMB BENT,INDEX BENT,BOTH BENT,INDEX HINGE",
  "|SIGNWRITING HAND-FIST INDEX THUMB |FORWARD INDEX STRAIGHT,FORWARD INDEX BENT,HOOK,CURLICUE,CURVE THUMB INSIDE",
  "|SIGNWRITING HAND-|CLAW INDEX THUMB CURVE THUMB INSIDE,FIST INDEX THUMB CURVE THUMB UNDER,FIST INDEX THUMB CIRCLE",
  "|SIGNWRITING HAND-CUP INDEX |THUMB,THUMB OPEN",
  "|SIGNWRITING HAND-HINGE INDEX |THUMB OPEN,THUMB LARGE,THUMB,THUMB SMALL",
  "|SIGNWRITING HAND-ANGLE INDEX |THUMB OUT,THUMB IN,THUMB",
  "|SIGNWRITING HAND-FIST |THUMB,THUMB HEEL,THUMB SIDE DIAGONAL,THUMB SIDE CONJOINED,THUMB SIDE BENT,THUMB FORWARD",
  "|SIGNWRITING HAND-FIST THUMB BETWEEN |INDEX MIDDLE,MIDDLE RING,RING LITTLE",
  "|SIGNWRITING HAND-FIST THUMB |UNDER TWO FINGERS,OVER TWO FINGERS,UNDER THREE FINGERS,UNDER FOUR FINGERS",
  "|SIGNWRITING HAND-|FIST THUMB OVER FOUR RAISED KNUCKLES,FIST,FIST HEEL",
  "|SIGNWRITING TOUCH |SINGLE,MULTIPLE,BETWEEN",
  "|SIGNWRITING |GRASP SINGLE,GRASP MULTIPLE,GRASP BETWEEN,STRIKE SINGLE,STRIKE MULTIPLE,STRIKE BETWEEN,BRUSH SINGLE",
  "|SIGNWRITING |BRUSH MULTIPLE,BRUSH BETWEEN,RUB SINGLE,RUB MULTIPLE,RUB BETWEEN,SURFACE SYMBOLS,SURFACE BETWEEN",
  "|SIGNWRITING SQUEEZE |LARGE SINGLE,SMALL SINGLE,LARGE MULTIPLE,SMALL MULTIPLE,SEQUENTIAL",
  "|SIGNWRITING FLICK |LARGE SINGLE,SMALL SINGLE,LARGE MULTIPLE,SMALL MULTIPLE,SEQUENTIAL",
  "||SIGNWRITING SQUEEZE FLICK ALTERNATING",
  "|SIGNWRITING MOVEMENT-HINGE |UP DOWN LARGE,UP DOWN SMALL,UP SEQUENTIAL,DOWN SEQUENTIAL",
  "|SIGNWRITING MOVEMENT-HINGE UP DOWN ALTERNATING |LARGE,SMALL",
  "|SIGNWRITING MOVEMENT-|HINGE SIDE TO SIDE SCISSORS,WALLPLANE FINGER CONTACT,FLOORPLANE FINGER CONTACT",
  "|SIGNWRITING MOVEMENT-WALLPLANE SINGLE |STRAIGHT SMALL,STRAIGHT MEDIUM,STRAIGHT LARGE,STRAIGHT LARGEST,WRIST FLEX",
  "|SIGNWRITING MOVEMENT-WALLPLANE DOUBLE |STRAIGHT,WRIST FLEX,ALTERNATING,ALTERNATING WRIST FLEX",
  "|SIGNWRITING MOVEMENT-WALLPLANE |CROSS,TRIPLE STRAIGHT MOVEMENT,TRIPLE WRIST FLEX",
  "|SIGNWRITING MOVEMENT-WALLPLANE |TRIPLE ALTERNATING,TRIPLE ALTERNATING WRIST FLEX,BEND SMALL,BEND MEDIUM,BEND LARGE",
  "|SIGNWRITING MOVEMENT-WALLPLANE CORNER |SMALL,MEDIUM,LARGE,ROTATION",
  "|SIGNWRITING MOVEMENT-WALLPLANE |CHECK SMALL,CHECK MEDIUM,CHECK LARGE,BOX SMALL,BOX MEDIUM,BOX LARGE",
  "|SIGNWRITING MOVEMENT-WALLPLANE |ZIGZAG SMALL,ZIGZAG MEDIUM,ZIGZAG LARGE,PEAKS SMALL,PEAKS MEDIUM,PEAKS LARGE",
  "|SIGNWRITING TRAVEL-WALLPLANE ROTATION-WALLPLANE |SINGLE,DOUBLE,ALTERNATING",
  "|SIGNWRITING TRAVEL-WALLPLANE ROTATION-FLOORPLANE |SINGLE,DOUBLE,ALTERNATING",
  "|SIGNWRITING TRAVEL-WALLPLANE |SHAKING,ARM SPIRAL SINGLE,ARM SPIRAL DOUBLE,ARM SPIRAL TRIPLE",
  "|SIGNWRITING MOVEMENT-DIAGONAL AWAY |SMALL,MEDIUM,LARGE,LARGEST",
  "|SIGNWRITING MOVEMENT-DIAGONAL TOWARDS |SMALL,MEDIUM,LARGE,LARGEST",
  "|SIGNWRITING MOVEMENT-DIAGONAL BETWEEN AWAY |SMALL,MEDIUM,LARGE,LARGEST",
  "|SIGNWRITING MOVEMENT-DIAGONAL BETWEEN TOWARDS |SMALL,MEDIUM,LARGE,LARGEST",
  "|SIGNWRITING MOVEMENT-FLOORPLANE SINGLE |STRAIGHT SMALL,STRAIGHT MEDIUM,STRAIGHT LARGE,STRAIGHT LARGEST,WRIST FLEX",
  "|SIGNWRITING MOVEMENT-FLOORPLANE DOUBLE |STRAIGHT,WRIST FLEX,ALTERNATING,ALTERNATING WRIST FLEX",
  "||SIGNWRITING MOVEMENT-FLOORPLANE CROSS",
  "|SIGNWRITING MOVEMENT-FLOORPLANE TRIPLE |STRAIGHT MOVEMENT,WRIST FLEX,ALTERNATING MOVEMENT,ALTERNATING WRIST FLEX",
  "|SIGNWRITING MOVEMENT-FLOORPLANE |BEND,CORNER SMALL,CORNER MEDIUM,CORNER LARGE,CHECK,BOX SMALL,BOX MEDIUM,BOX LARGE",
  "|SIGNWRITING MOVEMENT-FLOORPLANE |ZIGZAG SMALL,ZIGZAG MEDIUM,ZIGZAG LARGE,PEAKS SMALL,PEAKS MEDIUM,PEAKS LARGE",
  "|SIGNWRITING TRAVEL-FLOORPLANE ROTATION-FLOORPLANE |SINGLE,DOUBLE,ALTERNATING",
  "|SIGNWRITING TRAVEL-FLOORPLANE ROTATION-WALLPLANE |SINGLE,DOUBLE,ALTERNATING",
  "||SIGNWRITING TRAVEL-FLOORPLANE SHAKING",
  "|SIGNWRITING MOVEMENT-WALLPLANE CURVE QUARTER |SMALL,MEDIUM,LARGE,LARGEST",
  "|SIGNWRITING MOVEMENT-WALLPLANE CURVE HALF-CIRCLE |SMALL,MEDIUM,LARGE,LARGEST",
  "|SIGNWRITING MOVEMENT-WALLPLANE CURVE THREE-QUARTER CIRCLE |SMALL,MEDIUM",
  "|SIGNWRITING MOVEMENT-WALLPLANE HUMP |SMALL,MEDIUM,LARGE",
  "|SIGNWRITING MOVEMENT-WALLPLANE LOOP |SMALL,MEDIUM,LARGE,SMALL DOUBLE",
  "|SIGNWRITING MOVEMENT-WALLPLANE WAVE CURVE |DOUBLE SMALL,DOUBLE MEDIUM,DOUBLE LARGE,TRIPLE SMALL,TRIPLE MEDIUM",
  "|SIGNWRITING MOVEMENT-WALLPLANE |WAVE CURVE TRIPLE LARGE,CURVE THEN STRAIGHT,CURVED CROSS SMALL,CURVED CROSS MEDIUM",
  "|SIGNWRITING ROTATION-WALLPLANE |SINGLE,DOUBLE,ALTERNATE",
  "|SIGNWRITING MOVEMENT-WALLPLANE |SHAKING,CURVE HITTING FRONT WALL",
  "|SIGNWRITING MOVEMENT-WALLPLANE |HUMP HITTING FRONT WALL,LOOP HITTING FRONT WALL,WAVE HITTING FRONT WALL",
  "|SIGNWRITING ROTATION-WALLPLANE |SINGLE HITTING FRONT WALL,DOUBLE HITTING FRONT WALL,ALTERNATING HITTING FRONT WALL",
  "|SIGNWRITING MOVEMENT-WALLPLANE |CURVE HITTING CHEST,HUMP HITTING CHEST,LOOP HITTING CHEST,WAVE HITTING CHEST",
  "|SIGNWRITING ROTATION-WALLPLANE |SINGLE HITTING CHEST,DOUBLE HITTING CHEST,ALTERNATING HITTING CHEST",
  "|SIGNWRITING MOVEMENT-WALLPLANE WAVE DIAGONAL PATH |SMALL,MEDIUM,LARGE",
  "|SIGNWRITING MOVEMENT-FLOORPLANE CURVE HITTING CEILING |SMALL,LARGE",
  "|SIGNWRITING MOVEMENT-FLOORPLANE HUMP HITTING CEILING |SMALL DOUBLE,LARGE DOUBLE,SMALL TRIPLE,LARGE TRIPLE",
  "|SIGNWRITING MOVEMENT-FLOORPLANE LOOP HITTING CEILING |SMALL SINGLE,LARGE SINGLE,SMALL DOUBLE,LARGE DOUBLE",
  "|SIGNWRITING MOVEMENT-FLOORPLANE WAVE HITTING CEILING |SMALL,LARGE",
  "|SIGNWRITING ROTATION-FLOORPLANE |SINGLE HITTING CEILING,DOUBLE HITTING CEILING,ALTERNATING HITTING CEILING",
  "|SIGNWRITING MOVEMENT-FLOORPLANE CURVE HITTING FLOOR |SMALL,LARGE",
  "|SIGNWRITING MOVEMENT-FLOORPLANE HUMP HITTING FLOOR |SMALL DOUBLE,LARGE DOUBLE",
  "|SIGNWRITING MOVEMENT-FLOORPLANE HUMP HITTING FLOOR TRIPLE |SMALL TRIPLE,LARGE TRIPLE",
  "|SIGNWRITING MOVEMENT-FLOORPLANE LOOP HITTING FLOOR |SMALL SINGLE,LARGE SINGLE,SMALL DOUBLE,LARGE DOUBLE",
  "|SIGNWRITING MOVEMENT-FLOORPLANE WAVE HITTING FLOOR |SMALL,LARGE",
  "|SIGNWRITING ROTATION-FLOORPLANE |SINGLE HITTING FLOOR,DOUBLE HITTING FLOOR,ALTERNATING HITTING FLOOR",
  "|SIGNWRITING MOVEMENT-FLOORPLANE CURVE |SMALL,MEDIUM,LARGE,LARGEST,COMBINED",
  "|SIGNWRITING MOVEMENT-FLOORPLANE |HUMP SMALL,LOOP SMALL,WAVE SNAKE,WAVE SMALL,WAVE LARGE",
  "|SIGNWRITING ROTATION-FLOORPLANE |SINGLE,DOUBLE,ALTERNATING",
  "||SIGNWRITING MOVEMENT-FLOORPLANE SHAKING PARALLEL",
  "|SIGNWRITING MOVEMENT-WALLPLANE ARM CIRCLE |SMALL SINGLE,MEDIUM SINGLE,SMALL DOUBLE,MEDIUM DOUBLE",
  "|SIGNWRITING MOVEMENT-FLOORPLANE ARM CIRCLE HITTING WALL |SMALL SINGLE,MEDIUM SINGLE",
  "|SIGNWRITING MOVEMENT-FLOORPLANE ARM CIRCLE HITTING WALL |LARGE SINGLE,SMALL DOUBLE,MEDIUM DOUBLE,LARGE DOUBLE",
  "|SIGNWRITING MOVEMENT-WALLPLANE WRIST CIRCLE FRONT |SINGLE,DOUBLE",
  "|SIGNWRITING MOVEMENT-FLOORPLANE WRIST CIRCLE HITTING WALL |SINGLE,DOUBLE",
  "|SIGNWRITING MOVEMENT-WALLPLANE FINGER CIRCLES |SINGLE,DOUBLE",
  "|SIGNWRITING MOVEMENT-FLOORPLANE FINGER CIRCLES HITTING WALL |SINGLE,DOUBLE",
  "|SIGNWRITING DYNAMIC |ARROWHEAD SMALL,ARROWHEAD LARGE,FAST,SLOW,TENSE,RELAXED,SIMULTANEOUS,SIMULTANEOUS ALTERNATING",
  "|SIGNWRITING |DYNAMIC EVERY OTHER TIME,DYNAMIC GRADUAL,HEAD,HEAD RIM",
  "|SIGNWRITING HEAD MOVEMENT-|WALLPLANE STRAIGHT,WALLPLANE TILT,FLOORPLANE STRAIGHT,WALLPLANE CURVE,FLOORPLANE CURVE",
  "||SIGNWRITING HEAD MOVEMENT CIRCLE",
  "|SIGNWRITING FACE DIRECTION POSITION NOSE |FORWARD TILTING,UP OR DOWN,UP OR DOWN TILTING",
  "|SIGNWRITING EYEBROWS STRAIGHT |UP,NEUTRAL,DOWN",
  "|SIGNWRITING DREAMY EYEBROWS |NEUTRAL DOWN,DOWN NEUTRAL,UP NEUTRAL,NEUTRAL UP",
  "|SIGNWRITING FOREHEAD |NEUTRAL,CONTACT,WRINKLED",
  "|SIGNWRITING EYES |OPEN,SQUEEZED,CLOSED",
  "|SIGNWRITING EYE BLINK |SINGLE,MULTIPLE",
  "|SIGNWRITING |EYES HALF OPEN,EYES WIDE OPEN,EYES HALF CLOSED,EYES WIDENING MOVEMENT,EYE WINK",
  "|SIGNWRITING EYELASHES |UP,DOWN,FLUTTERING",
  "|SIGNWRITING EYEGAZE-WALLPLANE |STRAIGHT,STRAIGHT DOUBLE,STRAIGHT ALTERNATING",
  "|SIGNWRITING EYEGAZE-FLOORPLANE |STRAIGHT,STRAIGHT DOUBLE,STRAIGHT ALTERNATING",
  "|SIGNWRITING EYEGAZE-|WALLPLANE CURVED,FLOORPLANE CURVED,WALLPLANE CIRCLING",
  "|SIGNWRITING CHEEKS |PUFFED,NEUTRAL,SUCKED",
  "|SIGNWRITING TENSE CHEEKS |HIGH,MIDDLE,LOW",
  "|SIGNWRITING |EARS,NOSE NEUTRAL,NOSE CONTACT,NOSE WRINKLES,NOSE WIGGLES,AIR BLOWING OUT,AIR SUCKING IN",
  "|SIGNWRITING |AIR BLOW SMALL ROTATIONS,AIR SUCK SMALL ROTATIONS,BREATH INHALE,BREATH EXHALE,MOUTH CLOSED NEUTRAL",
  "|SIGNWRITING MOUTH |CLOSED FORWARD,CLOSED CONTACT,SMILE,SMILE WRINKLED,SMILE OPEN,FROWN,FROWN WRINKLED,FROWN OPEN",
  "|SIGNWRITING MOUTH OPEN |CIRCLE,FORWARD,WRINKLED,OVAL,OVAL WRINKLED,OVAL YAWN,RECTANGLE,RECTANGLE WRINKLED",
  "|SIGNWRITING MOUTH |OPEN RECTANGLE YAWN,KISS,KISS FORWARD,KISS WRINKLED,TENSE,TENSE FORWARD,TENSE SUCKED",
  "|SIGNWRITING |LIPS PRESSED TOGETHER,LIP LOWER OVER UPPER,LIP UPPER OVER LOWER,MOUTH CORNERS",
  "|SIGNWRITING MOUTH WRINKLES |SINGLE,DOUBLE",
  "|SIGNWRITING TONGUE |STICKING OUT FAR,LICKING LIPS,TIP BETWEEN LIPS,TIP TOUCHING INSIDE MOUTH,INSIDE MOUTH RELAXED",
  "|SIGNWRITING |TONGUE MOVES AGAINST CHEEK,TONGUE CENTRE STICKING OUT,TONGUE CENTRE INSIDE MOUTH,TEETH",
  "|SIGNWRITING TEETH |MOVEMENT,ON TONGUE,ON TONGUE MOVEMENT,ON LIPS,ON LIPS MOVEMENT,BITE LIPS",
  "|SIGNWRITING |MOVEMENT-WALLPLANE JAW,MOVEMENT-FLOORPLANE JAW,NECK,HAIR,EXCITEMENT",
  "|SIGNWRITING SHOULDER HIP |SPINE,POSITIONS",
  "|SIGNWRITING |WALLPLANE SHOULDER HIP MOVE,FLOORPLANE SHOULDER HIP MOVE,SHOULDER TILTING FROM WAIST",
  "|SIGNWRITING TORSO-WALLPLANE |STRAIGHT STRETCH,CURVED BEND",
  "|SIGNWRITING |TORSO-FLOORPLANE TWISTING,UPPER BODY TILTING FROM HIP JOINTS,LIMB COMBINATION",
  "|SIGNWRITING LIMB LENGTH-|1,2,3,4,5,6,7",
  "|SIGNWRITING |FINGER,LOCATION-WALLPLANE SPACE,LOCATION-FLOORPLANE SPACE",
  "|SIGNWRITING LOCATION |HEIGHT,WIDTH,DEPTH,HEAD NECK,TORSO,LIMBS DIGITS",
  "|SIGNWRITING |COMMA,FULL STOP,SEMICOLON,COLON,PARENTHESIS",
  "1DA9B|SIGNWRITING FILL MODIFIER-|2,3,4,5,6",
  "1DAA1|SIGNWRITING ROTATION MODIFIER-|2,3,4,5,6,7,8,9,10,11,12,13,14,15,16",
  "1DF00|LATIN SMALL LETTER |FENG DIGRAPH WITH TRILL,REVERSED SCRIPT G",
  "|LATIN |LETTER SMALL CAPITAL TURNED G,SMALL LETTER REVERSED K,LETTER SMALL CAPITAL L WITH BELT",
  "|LATIN SMALL LETTER |LEZH WITH RETROFLEX HOOK,TURNED Y WITH BELT",
  "|LATIN SMALL LETTER |REVERSED ENG,TURNED R WITH LONG LEG AND RETROFLEX HOOK,T WITH HOOK AND RETROFLEX HOOK",
  "||LATIN LETTER RETROFLEX CLICK WITH RETROFLEX HOOK",
  "|LATIN SMALL LETTER |ESH WITH DOUBLE BAR,ESH WITH DOUBLE BAR AND CURL,TURNED T WITH CURL",
  "|LATIN LETTER |INVERTED GLOTTAL STOP WITH CURL,STRETCHED C WITH CURL,SMALL CAPITAL TURNED K",
  "||LATIN SMALL LETTER L WITH FISHHOOK",
  "|LATIN SMALL LETTER |DEZH DIGRAPH WITH PALATAL HOOK,L WITH BELT AND PALATAL HOOK,ENG WITH PALATAL HOOK",
  "|LATIN SMALL LETTER |TURNED R WITH PALATAL HOOK,R WITH FISHHOOK AND PALATAL HOOK,TESH DIGRAPH WITH PALATAL HOOK",
  "|LATIN SMALL LETTER |EZH WITH PALATAL HOOK,DEZH DIGRAPH WITH RETROFLEX HOOK,I WITH STROKE AND RETROFLEX HOOK",
  "|LATIN SMALL LETTER |O WITH RETROFLEX HOOK,TESH DIGRAPH WITH RETROFLEX HOOK,C WITH RETROFLEX HOOK,S WITH CURL",
  "1E000||COMBINING GLAGOLITIC LETTER AZU",
  "|COMBINING GLAGOLITIC LETTER |BUKY,VEDE,GLAGOLI,DOBRO,YESTU,ZHIVETE,,ZEMLJA,IZHE,INITIAL IZHE,I,DJERVI,KAKO",
  "|COMBINING GLAGOLITIC LETTER |LJUDIJE,MYSLITE,NASHI,ONU,POKOJI,RITSI,SLOVO,TVRIDO,UKU,FRITU,HERU,,,SHTA,TSI,CHRIVI",
  "|COMBINING GLAGOLITIC LETTER |SHA,YERU,YERI,YATI,,YU,SMALL YUS,,YO,IOTATED SMALL YUS,BIG YUS,IOTATED BIG YUS,FITA",
  "1E100|NYIAKENG PUACHUE HMONG LETTER |MA,TSA,NTA,TA,HA,NA,XA,NKA,CA,LA,SA,ZA,NCA,NTSA,KA,DA,NYA,NRA,VA,NTXA",
  "|NYIAKENG PUACHUE HMONG LETTER |TXA,FA,RA,QA,YA,NQA,PA,XYA,NPA,DLA,NPLA,HAH,MLA,PLA,GA,RRA,A,AA,I,U,O,OO,E,EE,W",
  "1E130|NYIAKENG PUACHUE HMONG TONE-|B,M,J,V,S,G,D",
  "|NYIAKENG PUACHUE HMONG SIGN FOR |PERSON,THING,LOCATION,ANIMAL,INVERTEBRATE",
  "|NYIAKENG PUACHUE HMONG |SIGN XW XW,SYLLABLE LENGTHENER",
  "1E140|NYIAKENG PUACHUE HMONG DIGIT |ZERO,ONE,TWO,THREE,FOUR,FIVE,SIX,SEVEN,EIGHT,NINE",
  "1E14E|NYIAKENG PUACHUE HMONG |LOGOGRAM NYAJ,CIRCLED CA",
  "1E290|TOTO LETTER |PA,BA,TA,DA,KA,GA,MA,NA",
  "|TOTO LETTER |NGA,SA,CHA,YA,WA,JA,HA,RA,LA,I,BREATHY I,IU,BREATHY IU,U,E,BREATHY E,EO,BREATHY EO,O,AE,BREATHY AE,A",
  "||TOTO SIGN RISING TONE",
  "1E2C0|WANCHO LETTER |AA,A,BA,CA,DA,GA,YA,PHA,LA,NA,PA,TA,THA,FA,SA",
  "|WANCHO LETTER |SHA,JA,ZA,WA,VA,KA,O,AU,RA,MA,KHA,HA,E,I,NGA,U,LLHA,TSA,TRA,ONG,AANG,ANG,ING,ON,EN,AAN,NYA,UEN,YIH",
  "|WANCHO TONE |TUP,TUPNI,KOI,KOINI",
  "|WANCHO DIGIT |ZERO,ONE,TWO,THREE,FOUR,FIVE,SIX,SEVEN,EIGHT,NINE",
  "1E2FF||WANCHO NGUN SIGN",
  "1E7E0|ETHIOPIC SYLLABLE |HHYA,HHYU,HHYI,HHYAA,HHYEE,HHYE,HHYO,,GURAGE HHWA,HHWI,HHWEE,HHWE",
  "1E7ED|ETHIOPIC SYLLABLE GURAGE |MWI,MWEE,,QWI,QWEE,QWE,BWI,BWEE,KWI,KWEE,KWE,GWI,GWEE,GWE,FWI,FWEE,PWI,PWEE",
  "1E800|MENDE KIKAKUI SYLLABLE |M001 KI,M002 KA,M003 KU",
  "|MENDE KIKAKUI SYLLABLE |M065 KEE,M095 KE,M076 KOO,M048 KO,M179 KUA,M004 WI,M005 WA,M006 WU,M126 WEE,M118 WE",
  "|MENDE KIKAKUI SYLLABLE |M114 WOO,M045 WO,M194 WUI,M143 WEI,M061 WVI,M049 WVA,M139 WVE,M007 MIN,M008 MAN,M009 MUN",
  "|MENDE KIKAKUI SYLLABLE |M059 MEN,M094 MON,M154 MUAN,M189 MUEN,M010 BI,M011 BA,M012 BU,M150 BEE,M097 BE,M103 BOO",
  "|MENDE KIKAKUI SYLLABLE |M138 BO,M013 I,M014 A,M015 U,M163 EE,M100 E,M165 OO,M147 O,M137 EI,M131 IN,M135 IN,M195 AN",
  "|MENDE KIKAKUI SYLLABLE |M178 EN,M019 SI,M020 SA,M021 SU,M162 SEE,M116 SE,M136 SOO,M079 SO,M196 SIA,M025 LI,M026 LA",
  "|MENDE KIKAKUI SYLLABLE |M027 LU,M084 LEE,M073 LE,M054 LOO,M153 LO,M110 LONG LE,M016 DI,M017 DA,M018 DU,M089 DEE",
  "|MENDE KIKAKUI SYLLABLE |M180 DOO,M181 DO,M022 TI,M023 TA,M024 TU,M091 TEE,M055 TE,M104 TOO,M069 TO,M028 JI,M029 JA",
  "|MENDE KIKAKUI SYLLABLE |M030 JU,M157 JEE,M113 JE,M160 JOO,M063 JO,M175 LONG JO,M031 YI,M032 YA,M033 YU,M109 YEE",
  "|MENDE KIKAKUI SYLLABLE |M080 YE,M141 YOO,M121 YO,M034 FI,M035 FA,M036 FU,M078 FEE,M075 FE,M133 FOO,M088 FO",
  "|MENDE KIKAKUI SYLLABLE |M197 FUA,M101 FAN,M037 NIN,M038 NAN,M039 NUN,M117 NEN,M169 NON,M176 HI,M041 HA,M186 HU",
  "|MENDE KIKAKUI SYLLABLE |M040 HEE,M096 HE,M042 HOO,M140 HO,M083 HEEI,M128 HOOU,M053 HIN,M130 HAN,M087 HUN,M052 HEN",
  "|MENDE KIKAKUI SYLLABLE |M193 HON,M046 HUAN,M090 NGGI,M043 NGGA,M082 NGGU,M115 NGGEE,M146 NGGE,M156 NGGOO,M120 NGGO",
  "|MENDE KIKAKUI SYLLABLE |M159 NGGAA,M127 NGGUA,M086 LONG NGGE,M106 LONG NGGOO,M183 LONG NGGO,M155 GI,M111 GA",
  "|MENDE KIKAKUI SYLLABLE |M168 GU,M190 GEE,M166 GUEI,M167 GUAN,M184 NGEN,M057 NGON,M177 NGUAN,M068 PI,M099 PA",
  "|MENDE KIKAKUI SYLLABLE |M050 PU,M081 PEE,M051 PE,M102 POO,M066 PO,M145 MBI,M062 MBA,M122 MBU,M047 MBEE,M188 MBEE",
  "|MENDE KIKAKUI SYLLABLE |M072 MBE,M172 MBOO,M174 MBO,M187 MBUU,M161 LONG MBE,M105 LONG MBOO,M142 LONG MBO,M132 KPI",
  "|MENDE KIKAKUI SYLLABLE |M092 KPA,M074 KPU,M044 KPEE,M108 KPE,M112 KPOO,M158 KPO,M124 GBI,M056 GBA,M148 GBU",
  "|MENDE KIKAKUI SYLLABLE |M093 GBEE,M107 GBE,M071 GBOO,M070 GBO,M171 RA,M123 NDI,M129 NDA,M125 NDU,M191 NDEE",
  "|MENDE KIKAKUI SYLLABLE |M119 NDE,M067 NDOO,M064 NDO,M152 NJA,M192 NJU,M149 NJEE,M134 NJOO,M182 VI,M185 VA,M151 VU",
  "|MENDE KIKAKUI SYLLABLE |M173 VEE,M085 VE,M144 VOO,M077 VO,M164 NYIN,M058 NYAN,M170 NYUN,M098 NYEN,M060 NYON",
  "1E8C7|MENDE KIKAKUI DIGIT |ONE,TWO,THREE,FOUR,FIVE,SIX,SEVEN,EIGHT,NINE",
  "|MENDE KIKAKUI COMBINING NUMBER |TEENS,TENS,HUNDREDS,THOUSANDS,TEN THOUSANDS,HUNDRED THOUSANDS,MILLIONS",
  "1E900|ADLAM CAPITAL LETTER |ALIF,DAALI,LAAM,MIIM,BA,SINNYIIYHE,PE,BHE",
  "|ADLAM CAPITAL LETTER |RA,E,FA,I,O,DHA,YHE,WAW,NUN,KAF,YA,U,JIIM,CHI,HA,QAAF,GA,NYA,TU,NHA,VA,KHA,GBE,ZAL,KPO,SHA",
  "|ADLAM SMALL LETTER |ALIF,DAALI,LAAM,MIIM,BA,SINNYIIYHE,PE",
  "|ADLAM SMALL LETTER |BHE,RA,E,FA,I,O,DHA,YHE,WAW,NUN,KAF,YA,U,JIIM,CHI,HA,QAAF,GA,NYA,TU,NHA,VA,KHA,GBE,ZAL,KPO,SHA",
  "|ADLAM |ALIF LENGTHENER,VOWEL LENGTHENER",
  "|ADLAM |GEMINATION MARK,HAMZA,CONSONANT MODIFIER,GEMINATE CONSONANT MODIFIER,NUKTA,NASALIZATION MARK",
  "1E950|ADLAM DIGIT |ZERO,ONE,TWO,THREE,FOUR,FIVE,SIX,SEVEN,EIGHT,NINE",
  "1E95E|ADLAM INITIAL |EXCLAMATION MARK,QUESTION MARK",
  "1EC71|INDIC SIYAQ NUMBER |ONE,TWO,THREE,FOUR,FIVE,SIX,SEVEN,EIGHT,NINE,TEN",
  "|INDIC SIYAQ NUMBER |TWENTY,THIRTY,FORTY,FIFTY,SIXTY,SEVENTY,EIGHTY,NINETY,ONE HUNDRED,TWO HUNDRED,THREE HUNDRED",
  "|INDIC SIYAQ NUMBER |FOUR HUNDRED,FIVE HUNDRED,SIX HUNDRED,SEVEN HUNDRED,EIGHT HUNDRED,NINE HUNDRED,ONE THOUSAND",
  "|INDIC SIYAQ NUMBER |TWO THOUSAND,THREE THOUSAND,FOUR THOUSAND,FIVE THOUSAND,SIX THOUSAND,SEVEN THOUSAND",
  "|INDIC SIYAQ NUMBER |EIGHT THOUSAND,NINE THOUSAND,TEN THOUSAND,TWENTY THOUSAND,THIRTY THOUSAND,FORTY THOUSAND",
  "|INDIC SIYAQ NUMBER |FIFTY THOUSAND,SIXTY THOUSAND,SEVENTY THOUSAND,EIGHTY THOUSAND,NINETY THOUSAND,LAKH,LAKHAN",
  "|INDIC SIYAQ |LAKH MARK,NUMBER KAROR,NUMBER KARORAN",
  "|INDIC SIYAQ NUMBER PREFIXED |ONE,TWO,THREE,FOUR,FIVE,SIX,SEVEN,EIGHT,NINE",
  "|INDIC SIYAQ |PLACEHOLDER,FRACTION ONE QUARTER,FRACTION ONE HALF,FRACTION THREE QUARTERS,RUPEE MARK",
  "|INDIC SIYAQ NUMBER ALTERNATE |ONE,TWO,TEN THOUSAND",
  "||INDIC SIYAQ ALTERNATE LAKH MARK",
  "1ED01|OTTOMAN SIYAQ NUMBER |ONE,TWO,THREE,FOUR,FIVE,SIX,SEVEN,EIGHT,NINE,TEN",
  "|OTTOMAN SIYAQ NUMBER |TWENTY,THIRTY,FORTY,FIFTY,SIXTY,SEVENTY,EIGHTY,NINETY,ONE HUNDRED,TWO HUNDRED,THREE HUNDRED",
  "|OTTOMAN SIYAQ NUMBER |FOUR HUNDRED,FIVE HUNDRED,SIX HUNDRED,SEVEN HUNDRED,EIGHT HUNDRED,NINE HUNDRED,ONE THOUSAND",
  "|OTTOMAN SIYAQ NUMBER |TWO THOUSAND,THREE THOUSAND,FOUR THOUSAND,FIVE THOUSAND,SIX THOUSAND,SEVEN THOUSAND",
  "|OTTOMAN SIYAQ NUMBER |EIGHT THOUSAND,NINE THOUSAND,TEN THOUSAND,TWENTY THOUSAND,THIRTY THOUSAND,FORTY THOUSAND",
  "|OTTOMAN SIYAQ NUMBER |FIFTY THOUSAND,SIXTY THOUSAND,SEVENTY THOUSAND,EIGHTY THOUSAND,NINETY THOUSAND",
  "||OTTOMAN SIYAQ MARRATAN",
  "|OTTOMAN SIYAQ ALTERNATE NUMBER |TWO,THREE,FOUR,FIVE,SIX,SEVEN,EIGHT,NINE,TEN,FOUR HUNDRED,SIX HUNDRED,TWO THOUSAND",
  "|OTTOMAN SIYAQ |ALTERNATE NUMBER TEN THOUSAND,FRACTION ONE HALF,FRACTION ONE SIXTH",
  "1EE00|ARABIC MATHEMATICAL |ALEF,BEH,JEEM,DAL,,WAW,ZAIN,HAH,TAH,YEH,KAF,LAM,MEEM,NOON,SEEN,AIN,FEH,SAD,QAF",
  "|ARABIC MATHEMATICAL |REH,SHEEN,TEH,THEH,KHAH,THAL,DAD,ZAH,GHAIN,DOTLESS BEH,DOTLESS NOON,DOTLESS FEH,DOTLESS QAF",
  "1EE21|ARABIC MATHEMATICAL INITIAL |BEH,JEEM,,HEH,,,HAH,,YEH",
  "|ARABIC MATHEMATICAL INITIAL |KAF,LAM,MEEM,NOON,SEEN,AIN,FEH,SAD,QAF,,SHEEN,TEH,THEH,KHAH,,DAD,,GHAIN",
  "1EE42||ARABIC MATHEMATICAL TAILED JEEM",
  "1EE47|ARABIC MATHEMATICAL TAILED |HAH,,YEH,,LAM,,NOON,SEEN,AIN,,SAD,QAF,,SHEEN,,,KHAH,,DAD,,GHAIN",
  "1EE5D|ARABIC MATHEMATICAL TAILED DOTLESS |NOON,,QAF",
  "1EE61|ARABIC MATHEMATICAL STRETCHED |BEH,JEEM,,HEH,,,HAH,TAH,YEH,KAF,,MEEM,NOON",
  "|ARABIC MATHEMATICAL STRETCHED |SEEN,AIN,FEH,SAD,QAF,,SHEEN,TEH,THEH,KHAH,,DAD,ZAH,GHAIN,DOTLESS BEH,,DOTLESS FEH",
  "1EE80|ARABIC MATHEMATICAL LOOPED |ALEF,BEH,JEEM,DAL,HEH,WAW,ZAIN,HAH",
  "|ARABIC MATHEMATICAL LOOPED |TAH,YEH,,LAM,MEEM,NOON,SEEN,AIN,FEH,SAD,QAF,REH,SHEEN,TEH,THEH,KHAH,THAL,DAD,ZAH,GHAIN",
  "1EEA1|ARABIC MATHEMATICAL DOUBLE-STRUCK |BEH,JEEM,DAL,,WAW,ZAIN,HAH,TAH,YEH,,LAM",
  "|ARABIC MATHEMATICAL DOUBLE-STRUCK |MEEM,NOON,SEEN,AIN,FEH,SAD,QAF,REH,SHEEN,TEH,THEH,KHAH,THAL,DAD,ZAH,GHAIN",
  "1EEF0|ARABIC MATHEMATICAL OPERATOR |MEEM WITH HAH WITH TATWEEL,HAH WITH DAL",
  "1F000|MAHJONG TILE |EAST WIND,SOUTH WIND,WEST WIND,NORTH WIND",
  "|MAHJONG TILE |RED DRAGON,GREEN DRAGON,WHITE DRAGON,ONE OF CHARACTERS,TWO OF CHARACTERS,THREE OF CHARACTERS",
  "|MAHJONG TILE |FOUR OF CHARACTERS,FIVE OF CHARACTERS,SIX OF CHARACTERS,SEVEN OF CHARACTERS,EIGHT OF CHARACTERS",
  "|MAHJONG TILE |NINE OF CHARACTERS,ONE OF BAMBOOS,TWO OF BAMBOOS,THREE OF BAMBOOS,FOUR OF BAMBOOS,FIVE OF BAMBOOS",
  "|MAHJONG TILE |SIX OF BAMBOOS,SEVEN OF BAMBOOS,EIGHT OF BAMBOOS,NINE OF BAMBOOS,ONE OF CIRCLES,TWO OF CIRCLES",
  "|MAHJONG TILE |THREE OF CIRCLES,FOUR OF CIRCLES,FIVE OF CIRCLES,SIX OF CIRCLES,SEVEN OF CIRCLES,EIGHT OF CIRCLES",
  "|MAHJONG TILE |NINE OF CIRCLES,PLUM,ORCHID,BAMBOO,CHRYSANTHEMUM,SPRING,SUMMER,AUTUMN,WINTER,JOKER,BACK",
  "1F030||DOMINO TILE HORIZONTAL BACK",
  "|DOMINO TILE HORIZONTAL-00-|00,01,02,03,04,05,06",
  "|DOMINO TILE HORIZONTAL-01-|00,01,02,03,04,05,06",
  "|DOMINO TILE HORIZONTAL-02-|00,01,02,03,04,05,06",
  "|DOMINO TILE HORIZONTAL-03-|00,01,02,03,04,05,06",
  "|DOMINO TILE HORIZONTAL-04-|00,01,02,03,04,05,06",
  "|DOMINO TILE HORIZONTAL-05-|00,01,02,03,04,05,06",
  "|DOMINO TILE HORIZONTAL-06-|00,01,02,03,04,05,06",
  "||DOMINO TILE VERTICAL BACK",
  "|DOMINO TILE VERTICAL-00-|00,01,02,03,04,05,06",
  "|DOMINO TILE VERTICAL-01-|00,01,02,03,04,05,06",
  "|DOMINO TILE VERTICAL-02-|00,01,02,03,04,05,06",
  "|DOMINO TILE VERTICAL-03-|00,01,02,03,04,05,06",
  "|DOMINO TILE VERTICAL-04-|00,01,02,03,04,05,06",
  "|DOMINO TILE VERTICAL-05-|00,01,02,03,04,05,06",
  "|DOMINO TILE VERTICAL-06-|00,01,02,03,04,05,06",
  "1F0A0|PLAYING CARD |BACK,ACE OF SPADES,TWO OF SPADES,THREE OF SPADES,FOUR OF SPADES,FIVE OF SPADES,SIX OF SPADES",
  "|PLAYING CARD |SEVEN OF SPADES,EIGHT OF SPADES,NINE OF SPADES,TEN OF SPADES,JACK OF SPADES,KNIGHT OF SPADES",
  "|PLAYING CARD |QUEEN OF SPADES,KING OF SPADES,,,ACE OF HEARTS,TWO OF HEARTS,THREE OF HEARTS,FOUR OF HEARTS",
  "|PLAYING CARD |FIVE OF HEARTS,SIX OF HEARTS,SEVEN OF HEARTS,EIGHT OF HEARTS,NINE OF HEARTS,TEN OF HEARTS",
  "|PLAYING CARD |JACK OF HEARTS,KNIGHT OF HEARTS,QUEEN OF HEARTS,KING OF HEARTS,RED JOKER,,ACE OF DIAMONDS",
  "|PLAYING CARD |TWO OF DIAMONDS,THREE OF DIAMONDS,FOUR OF DIAMONDS,FIVE OF DIAMONDS,SIX OF DIAMONDS",
  "|PLAYING CARD |SEVEN OF DIAMONDS,EIGHT OF DIAMONDS,NINE OF DIAMONDS,TEN OF DIAMONDS,JACK OF DIAMONDS",
  "|PLAYING CARD |KNIGHT OF DIAMONDS,QUEEN OF DIAMONDS,KING OF DIAMONDS,BLACK JOKER,,ACE OF CLUBS,TWO OF CLUBS",
  "|PLAYING CARD |THREE OF CLUBS,FOUR OF CLUBS,FIVE OF CLUBS,SIX OF CLUBS,SEVEN OF CLUBS,EIGHT OF CLUBS,NINE OF CLUBS",
  "|PLAYING CARD |TEN OF CLUBS,JACK OF CLUBS,KNIGHT OF CLUBS,QUEEN OF CLUBS,KING OF CLUBS,WHITE JOKER,FOOL",
  "|PLAYING CARD TRUMP-|1,2,3,4,5,6,7,8,9,10,11,12,13,14,15,16,17,18,19,20,21",
  "1F100|DIGIT ZERO |FULL STOP,COMMA",
  "|DIGIT |ONE COMMA,TWO COMMA,THREE COMMA,FOUR COMMA,FIVE COMMA,SIX COMMA,SEVEN COMMA,EIGHT COMMA,NINE COMMA",
  "|DINGBAT |CIRCLED SANS-SERIF DIGIT ZERO,NEGATIVE CIRCLED SANS-SERIF DIGIT ZERO",
  "|CIRCLED |ZERO WITH SLASH,ANTICLOCKWISE ARROW,DOLLAR SIGN WITH OVERLAID BACKSLASH",
  "|PARENTHESIZED LATIN CAPITAL LETTER |A,B,C,D,E,F,G,H,I,J,K,L,M,N,O,P,Q,R,S,T,U,V,W,X,Y,Z",
  "||TORTOISE SHELL BRACKETED LATIN CAPITAL LETTER S",
  "|CIRCLED ITALIC LATIN CAPITAL LETTER |C,R",
  "|CIRCLED |CD,WZ",
  "||COPYLEFT SYMBOL",
  "|SQUARED LATIN CAPITAL LETTER |A,B,C,D,E,F,G,H,I,J,K,L,M,N,O,P,Q,R,S,T,U,V,W,X,Y,Z",
  "|SQUARED |HV,MV,SD,SS,PPV,WC",
  "|NEGATIVE CIRCLED LATIN CAPITAL LETTER |A,B,C,D,E,F,G,H,I,J,K,L,M,N,O,P,Q,R,S,T,U,V,W,X,Y,Z",
  "|RAISED |MC SIGN,MD SIGN,MR SIGN",
  "|CIRCLED |CC,C WITH OVERLAID BACKSLASH,HUMAN FIGURE",
  "|NEGATIVE SQUARED LATIN CAPITAL LETTER |A,B,C,D,E,F,G,H,I,J,K,L,M,N,O,P,Q,R,S,T,U,V,W,X,Y,Z",
  "||CROSSED NEGATIVE SQUARED LATIN CAPITAL LETTER P",
  "|NEGATIVE SQUARED |IC,PA,SA,AB,WC",
  "||SQUARE DJ",
  "|SQUARED |CL,COOL,FREE,ID,NEW,NG,OK",
  "|SQUARED |SOS,UP WITH EXCLAMATION MARK,VS,THREE D,SECOND SCREEN,TWO K,FOUR K,EIGHT K,FIVE POINT ONE,SEVEN POINT ONE",
  "|SQUARED |TWENTY-TWO POINT TWO,SIXTY P,ONE HUNDRED TWENTY P,LATIN SMALL LETTER D,HC,HDR,HI-RES,LOSSLESS,SHV,UHD,VOD",
  "||MASK WORK SYMBOL",
  "1F1E6|REGIONAL INDICATOR SYMBOL LETTER |A,B,C,D,E,F,G,H,I,J,K,L,M,N,O,P,Q,R,S,T,U,V,W,X,Y,Z",
  "||SQUARE HIRAGANA HOKA",
  "|SQUARED KATAKANA |KOKO,SA",
  "1F210|SQUARED CJK UNIFIED IDEOGRAPH-|624B,5B57,53CC",
  "||SQUARED KATAKANA DE",
  "|SQUARED CJK UNIFIED IDEOGRAPH-|4E8C,591A,89E3,5929,4EA4,6620,7121,6599",
  "|SQUARED CJK UNIFIED IDEOGRAPH-|524D,5F8C,518D,65B0,521D,7D42,751F,8CA9,58F0,5439,6F14,6295,6355,4E00,4E09,904A",
  "|SQUARED CJK UNIFIED IDEOGRAPH-|5DE6,4E2D,53F3,6307,8D70,6253,7981,7A7A,5408,6E80,6709,6708,7533,5272,55B6,914D",
  "1F240|TORTOISE SHELL BRACKETED CJK UNIFIED IDEOGRAPH-|672C,4E09,4E8C,5B89,70B9,6253,76D7,52DD,6557",
  "1F250|CIRCLED IDEOGRAPH |ADVANTAGE,ACCEPT",
  "1F260|ROUNDED SYMBOL FOR |FU,LU,SHOU,XI,SHUANGXI,CAI",
  "1F300||CYCLONE,FOGGY,CLOSED UMBRELLA,NIGHT WITH STARS,SUNRISE OVER MOUNTAINS",
  "||SUNRISE,CITYSCAPE AT DUSK,SUNSET OVER BUILDINGS,RAINBOW,BRIDGE AT NIGHT,WATER WAVE,VOLCANO,MILKY WAY",
  "|EARTH GLOBE |EUROPE-AFRICA,AMERICAS,ASIA-AUSTRALIA",
  "||GLOBE WITH MERIDIANS",
  "||NEW MOON SYMBOL,WAXING CRESCENT MOON SYMBOL,FIRST QUARTER MOON SYMBOL,WAXING GIBBOUS MOON SYMBOL",
  "||FULL MOON SYMBOL,WANING GIBBOUS MOON SYMBOL,LAST QUARTER MOON SYMBOL,WANING CRESCENT MOON SYMBOL",
  "||CRESCENT MOON,NEW MOON WITH FACE,FIRST QUARTER MOON WITH FACE,LAST QUARTER MOON WITH FACE",
  "||FULL MOON WITH FACE,SUN WITH FACE,GLOWING STAR,SHOOTING STAR,THERMOMETER,BLACK DROPLET,WHITE SUN",
  "|WHITE SUN |WITH SMALL CLOUD,BEHIND CLOUD,BEHIND CLOUD WITH RAIN",
  "|CLOUD WITH |RAIN,SNOW,LIGHTNING,TORNADO",
  "||FOG,WIND BLOWING FACE,HOT DOG,TACO,BURRITO,CHESTNUT,SEEDLING,EVERGREEN TREE",
  "||DECIDUOUS TREE,PALM TREE,CACTUS,HOT PEPPER,TULIP,CHERRY BLOSSOM,ROSE,HIBISCUS,SUNFLOWER,BLOSSOM,EAR OF MAIZE",
  "||EAR OF RICE,HERB,FOUR LEAF CLOVER,MAPLE LEAF,FALLEN LEAF,LEAF FLUTTERING IN WIND,MUSHROOM,TOMATO,AUBERGINE",
  "||GRAPES,MELON,WATERMELON,TANGERINE,LEMON,BANANA,PINEAPPLE,RED APPLE,GREEN APPLE,PEAR,PEACH,CHERRIES,STRAWBERRY",
  "||HAMBURGER,SLICE OF PIZZA,MEAT ON BONE,POULTRY LEG,RICE CRACKER,RICE BALL,COOKED RICE,CURRY AND RICE,STEAMING BOWL",
  "||SPAGHETTI,BREAD,FRENCH FRIES,ROASTED SWEET POTATO,DANGO,ODEN,SUSHI,FRIED SHRIMP,FISH CAKE WITH SWIRL DESIGN",
  "||SOFT ICE CREAM,SHAVED ICE,ICE CREAM,DOUGHNUT,COOKIE,CHOCOLATE BAR,CANDY,LOLLIPOP,CUSTARD,HONEY POT,SHORTCAKE",
  "||BENTO BOX,POT OF FOOD,COOKING,FORK AND KNIFE,TEACUP WITHOUT HANDLE,SAKE BOTTLE AND CUP,WINE GLASS,COCKTAIL GLASS",
  "||TROPICAL DRINK,BEER MUG,CLINKING BEER MUGS,BABY BOTTLE,FORK AND KNIFE WITH PLATE,BOTTLE WITH POPPING CORK,POPCORN",
  "||RIBBON,WRAPPED PRESENT,BIRTHDAY CAKE,JACK-O-LANTERN,CHRISTMAS TREE,FATHER CHRISTMAS,FIREWORKS,FIREWORK SPARKLER",
  "||BALLOON,PARTY POPPER,CONFETTI BALL,TANABATA TREE,CROSSED FLAGS,PINE DECORATION,JAPANESE DOLLS,CARP STREAMER",
  "||WIND CHIME,MOON VIEWING CEREMONY,SCHOOL SATCHEL,GRADUATION CAP,HEART WITH TIP ON THE LEFT,BOUQUET OF FLOWERS",
  "||MILITARY MEDAL,REMINDER RIBBON,MUSICAL KEYBOARD WITH JACKS,STUDIO MICROPHONE,LEVEL SLIDER,CONTROL KNOBS",
  "||BEAMED ASCENDING MUSICAL NOTES,BEAMED DESCENDING MUSICAL NOTES,FILM FRAMES,ADMISSION TICKETS,CAROUSEL HORSE",
  "||FERRIS WHEEL,ROLLER COASTER,FISHING POLE AND FISH,MICROPHONE,MOVIE CAMERA,CINEMA,HEADPHONE,ARTIST PALETTE",
  "||TOP HAT,CIRCUS TENT,TICKET,CLAPPER BOARD,PERFORMING ARTS,VIDEO GAME,DIRECT HIT,SLOT MACHINE,BILLIARDS,GAME DIE",
  "||BOWLING,FLOWER PLAYING CARDS,MUSICAL NOTE,MULTIPLE MUSICAL NOTES,SAXOPHONE,GUITAR,MUSICAL KEYBOARD,TRUMPET,VIOLIN",
  "||MUSICAL SCORE,RUNNING SHIRT WITH SASH,TENNIS RACQUET AND BALL,SKI AND SKI BOOT,BASKETBALL AND HOOP,CHEQUERED FLAG",
  "||SNOWBOARDER,RUNNER,SURFER,SPORTS MEDAL,TROPHY,HORSE RACING,AMERICAN FOOTBALL,RUGBY FOOTBALL,SWIMMER",
  "||WEIGHT LIFTER,GOLFER,RACING MOTORCYCLE,RACING CAR,CRICKET BAT AND BALL,VOLLEYBALL,FIELD HOCKEY STICK AND BALL",
  "||ICE HOCKEY STICK AND PUCK,TABLE TENNIS PADDLE AND BALL,SNOW CAPPED MOUNTAIN,CAMPING,BEACH WITH UMBRELLA",
  "||BUILDING CONSTRUCTION,HOUSE BUILDINGS,CITYSCAPE,DERELICT HOUSE BUILDING,CLASSICAL BUILDING,DESERT,DESERT ISLAND",
  "||NATIONAL PARK,STADIUM,HOUSE BUILDING,HOUSE WITH GARDEN,OFFICE BUILDING,JAPANESE POST OFFICE,EUROPEAN POST OFFICE",
  "||HOSPITAL,BANK,AUTOMATED TELLER MACHINE,HOTEL,LOVE HOTEL,CONVENIENCE STORE,SCHOOL,DEPARTMENT STORE",
  "||FACTORY,IZAKAYA LANTERN,JAPANESE CASTLE,EUROPEAN CASTLE,WHITE PENNANT,BLACK PENNANT,WAVING WHITE FLAG",
  "||WAVING BLACK FLAG,ROSETTE,BLACK ROSETTE,LABEL,BADMINTON RACQUET AND SHUTTLECOCK,BOW AND ARROW,AMPHORA",
  "|EMOJI MODIFIER FITZPATRICK TYPE-|1-2,3,4,5,6",
  "||RAT,MOUSE,OX,WATER BUFFALO,COW,TIGER,LEOPARD,RABBIT,CAT,DRAGON,CROCODILE",
  "||WHALE,SNAIL,SNAKE,HORSE,RAM,GOAT,SHEEP,MONKEY,ROOSTER,CHICKEN,DOG,PIG,BOAR,ELEPHANT,OCTOPUS,SPIRAL SHELL",
  "||BUG,ANT,HONEYBEE,LADY BEETLE,FISH,TROPICAL FISH,BLOWFISH,TURTLE,HATCHING CHICK,BABY CHICK,FRONT-FACING BABY CHICK",
  "||BIRD,PENGUIN,KOALA,POODLE,DROMEDARY CAMEL,BACTRIAN CAMEL,DOLPHIN,MOUSE FACE,COW FACE,TIGER FACE,RABBIT FACE",
  "||CAT FACE,DRAGON FACE,SPOUTING WHALE,HORSE FACE,MONKEY FACE,DOG FACE,PIG FACE,FROG FACE,HAMSTER FACE,WOLF FACE",
  "||BEAR FACE,PANDA FACE,PIG NOSE,PAW PRINTS,CHIPMUNK,EYES,EYE,EAR,NOSE,MOUTH,TONGUE,WHITE UP POINTING BACKHAND INDEX",
  "|WHITE |DOWN POINTING BACKHAND INDEX,LEFT POINTING BACKHAND INDEX,RIGHT POINTING BACKHAND INDEX",
  "||FISTED HAND SIGN,WAVING HAND SIGN,OK HAND SIGN,THUMBS UP SIGN,THUMBS DOWN SIGN,CLAPPING HANDS SIGN",
  "||OPEN HANDS SIGN,CROWN,WOMANS HAT,EYEGLASSES,NECKTIE,T-SHIRT,JEANS,DRESS,KIMONO,BIKINI,WOMANS CLOTHES,PURSE",
  "||HANDBAG,POUCH,MANS SHOE,ATHLETIC SHOE,HIGH-HEELED SHOE,WOMANS SANDAL,WOMANS BOOTS,FOOTPRINTS,BUST IN SILHOUETTE",
  "||BUSTS IN SILHOUETTE,BOY,GIRL,MAN,WOMAN,FAMILY,MAN AND WOMAN HOLDING HANDS,TWO MEN HOLDING HANDS",
  "||TWO WOMEN HOLDING HANDS,POLICE OFFICER,WOMAN WITH BUNNY EARS,BRIDE WITH VEIL,PERSON WITH BLOND HAIR",
  "|MAN WITH |GUA PI MAO,TURBAN",
  "||OLDER MAN,OLDER WOMAN,BABY,CONSTRUCTION WORKER,PRINCESS",
  "|JAPANESE |OGRE,GOBLIN",
  "||GHOST,BABY ANGEL,EXTRATERRESTRIAL ALIEN,ALIEN MONSTER,IMP,SKULL,INFORMATION DESK PERSON,GUARDSMAN",
  "||DANCER,LIPSTICK,NAIL POLISH,FACE MASSAGE,HAIRCUT,BARBER POLE,SYRINGE,PILL,KISS MARK,LOVE LETTER,RING,GEM STONE",
  "||KISS,BOUQUET,COUPLE WITH HEART,WEDDING,BEATING HEART,BROKEN HEART,TWO HEARTS,SPARKLING HEART,GROWING HEART",
  "||HEART WITH ARROW,BLUE HEART,GREEN HEART,YELLOW HEART,PURPLE HEART,HEART WITH RIBBON,REVOLVING HEARTS",
  "||HEART DECORATION,DIAMOND SHAPE WITH A DOT INSIDE,ELECTRIC LIGHT BULB,ANGER SYMBOL,BOMB,SLEEPING SYMBOL",
  "||COLLISION SYMBOL,SPLASHING SWEAT SYMBOL,DROPLET,DASH SYMBOL,PILE OF POO,FLEXED BICEPS,DIZZY SYMBOL,SPEECH BALLOON",
  "||THOUGHT BALLOON,WHITE FLOWER,HUNDRED POINTS SYMBOL,MONEY BAG,CURRENCY EXCHANGE,HEAVY DOLLAR SIGN,CREDIT CARD",
  "|BANKNOTE WITH |YEN SIGN,DOLLAR SIGN,EURO SIGN,POUND SIGN",
  "||MONEY WITH WINGS,CHART WITH UPWARDS TREND AND YEN SIGN,SEAT,PERSONAL COMPUTER,BRIEFCASE,MINIDISC,FLOPPY DISK",
  "||OPTICAL DISC,DVD,FILE FOLDER,OPEN FILE FOLDER,PAGE WITH CURL,PAGE FACING UP,CALENDAR,TEAR-OFF CALENDAR,CARD INDEX",
  "|CHART WITH |UPWARDS TREND,DOWNWARDS TREND",
  "||BAR CHART,CLIPBOARD,PUSHPIN,ROUND PUSHPIN,PAPERCLIP,STRAIGHT RULER,TRIANGULAR RULER,BOOKMARK TABS,LEDGER",
  "||NOTEBOOK,NOTEBOOK WITH DECORATIVE COVER,CLOSED BOOK,OPEN BOOK,GREEN BOOK,BLUE BOOK,ORANGE BOOK,BOOKS,NAME BADGE",
  "||SCROLL,MEMO,TELEPHONE RECEIVER,PAGER,FAX MACHINE,SATELLITE ANTENNA,PUBLIC ADDRESS LOUDSPEAKER,CHEERING MEGAPHONE",
  "||OUTBOX TRAY,INBOX TRAY,PACKAGE,E-MAIL SYMBOL,INCOMING ENVELOPE,ENVELOPE WITH DOWNWARDS ARROW ABOVE",
  "|CLOSED MAILBOX WITH |LOWERED FLAG,RAISED FLAG",
  "|OPEN MAILBOX WITH |RAISED FLAG,LOWERED FLAG",
  "||POSTBOX,POSTAL HORN,NEWSPAPER,MOBILE PHONE,MOBILE PHONE WITH RIGHTWARDS ARROW AT LEFT",
  "||VIBRATION MODE,MOBILE PHONE OFF,NO MOBILE PHONES,ANTENNA WITH BARS,CAMERA,CAMERA WITH FLASH",
  "||VIDEO CAMERA,TELEVISION,RADIO,VIDEOCASSETTE,FILM PROJECTOR,PORTABLE STEREO,PRAYER BEADS,TWISTED RIGHTWARDS ARROWS",
  "|CLOCKWISE RIGHTWARDS AND LEFTWARDS OPEN CIRCLE |ARROWS,ARROWS WITH CIRCLED ONE OVERLAY",
  "||CLOCKWISE DOWNWARDS AND UPWARDS OPEN CIRCLE ARROWS,ANTICLOCKWISE DOWNWARDS AND UPWARDS OPEN CIRCLE ARROWS",
  "||LOW BRIGHTNESS SYMBOL,HIGH BRIGHTNESS SYMBOL,SPEAKER WITH CANCELLATION STROKE,SPEAKER",
  "|SPEAKER WITH |ONE SOUND WAVE,THREE SOUND WAVES",
  "||BATTERY,ELECTRIC PLUG",
  "||LEFT-POINTING MAGNIFYING GLASS,RIGHT-POINTING MAGNIFYING GLASS,LOCK WITH INK PEN,CLOSED LOCK WITH KEY,KEY,LOCK",
  "||OPEN LOCK,BELL,BELL WITH CANCELLATION STROKE,BOOKMARK,LINK SYMBOL,RADIO BUTTON,BACK WITH LEFTWARDS ARROW ABOVE",
  "||END WITH LEFTWARDS ARROW ABOVE,ON WITH EXCLAMATION MARK WITH LEFT RIGHT ARROW ABOVE",
  "||SOON WITH RIGHTWARDS ARROW ABOVE,TOP WITH UPWARDS ARROW ABOVE,NO ONE UNDER EIGHTEEN SYMBOL,KEYCAP TEN",
  "|INPUT SYMBOL FOR |LATIN CAPITAL LETTERS,LATIN SMALL LETTERS,NUMBERS,SYMBOLS,LATIN LETTERS",
  "||FIRE,ELECTRIC TORCH",
  "||WRENCH,HAMMER,NUT AND BOLT,HOCHO,PISTOL,MICROSCOPE,TELESCOPE,CRYSTAL BALL,SIX POINTED STAR WITH MIDDLE DOT",
  "||JAPANESE SYMBOL FOR BEGINNER,TRIDENT EMBLEM,BLACK SQUARE BUTTON,WHITE SQUARE BUTTON",
  "|LARGE |RED CIRCLE,BLUE CIRCLE,ORANGE DIAMOND,BLUE DIAMOND",
  "||SMALL ORANGE DIAMOND,SMALL BLUE DIAMOND,UP-POINTING RED TRIANGLE,DOWN-POINTING RED TRIANGLE",
  "||UP-POINTING SMALL RED TRIANGLE,DOWN-POINTING SMALL RED TRIANGLE,LOWER RIGHT SHADOWED WHITE CIRCLE",
  "||UPPER RIGHT SHADOWED WHITE CIRCLE,CIRCLED CROSS POMMEE,CROSS POMMEE WITH HALF-CIRCLE BELOW,CROSS POMMEE",
  "|NOTCHED |LEFT SEMICIRCLE WITH THREE DOTS,RIGHT SEMICIRCLE WITH THREE DOTS",
  "||SYMBOL FOR MARKS CHAPTER,WHITE LATIN CROSS,HEAVY LATIN CROSS",
  "||CELTIC CROSS,OM SYMBOL,DOVE OF PEACE,KAABA,MOSQUE,SYNAGOGUE,MENORAH WITH NINE BRANCHES,BOWL OF HYGIEIA",
  "|CLOCK FACE |ONE OCLOCK,TWO OCLOCK,THREE OCLOCK,FOUR OCLOCK,FIVE OCLOCK,SIX OCLOCK,SEVEN OCLOCK,EIGHT OCLOCK",
  "|CLOCK FACE |NINE OCLOCK,TEN OCLOCK,ELEVEN OCLOCK,TWELVE OCLOCK,ONE-THIRTY,TWO-THIRTY,THREE-THIRTY,FOUR-THIRTY",
  "|CLOCK FACE |FIVE-THIRTY,SIX-THIRTY,SEVEN-THIRTY,EIGHT-THIRTY,NINE-THIRTY,TEN-THIRTY,ELEVEN-THIRTY,TWELVE-THIRTY",
  "|RIGHT |SPEAKER,SPEAKER WITH ONE SOUND WAVE,SPEAKER WITH THREE SOUND WAVES",
  "||BULLHORN",
  "||BULLHORN WITH SOUND WAVES,RINGING BELL,BOOK,CANDLE,MANTELPIECE CLOCK,BLACK SKULL AND CROSSBONES,NO PIRACY",
  "||HOLE,MAN IN BUSINESS SUIT LEVITATING,SLEUTH OR SPY,DARK SUNGLASSES,SPIDER,SPIDER WEB,JOYSTICK,MAN DANCING",
  "||LEFT HAND TELEPHONE RECEIVER,TELEPHONE RECEIVER WITH PAGE,RIGHT HAND TELEPHONE RECEIVER,WHITE TOUCHTONE TELEPHONE",
  "||BLACK TOUCHTONE TELEPHONE,TELEPHONE ON TOP OF MODEM,CLAMSHELL MOBILE PHONE,BACK OF ENVELOPE,STAMPED ENVELOPE",
  "||ENVELOPE WITH LIGHTNING,FLYING ENVELOPE,PEN OVER STAMPED ENVELOPE,LINKED PAPERCLIPS,BLACK PUSHPIN",
  "|LOWER LEFT |PENCIL,BALLPOINT PEN,FOUNTAIN PEN,PAINTBRUSH,CRAYON",
  "||LEFT WRITING HAND,TURNED OK HAND SIGN,RAISED HAND WITH FINGERS SPLAYED,REVERSED RAISED HAND WITH FINGERS SPLAYED",
  "|REVERSED |THUMBS UP SIGN,THUMBS DOWN SIGN,VICTORY HAND,HAND WITH MIDDLE FINGER EXTENDED",
  "||RAISED HAND WITH PART BETWEEN MIDDLE AND RING FINGERS,WHITE DOWN POINTING LEFT HAND INDEX",
  "|SIDEWAYS WHITE |LEFT POINTING INDEX,RIGHT POINTING INDEX",
  "|SIDEWAYS BLACK |LEFT POINTING INDEX,RIGHT POINTING INDEX",
  "|BLACK |LEFT POINTING BACKHAND INDEX,RIGHT POINTING BACKHAND INDEX",
  "|SIDEWAYS |WHITE UP POINTING INDEX,WHITE DOWN POINTING INDEX,BLACK UP POINTING INDEX,BLACK DOWN POINTING INDEX",
  "|BLACK |UP POINTING BACKHAND INDEX,DOWN POINTING BACKHAND INDEX,HEART",
  "||DESKTOP COMPUTER,KEYBOARD AND MOUSE",
  "||THREE NETWORKED COMPUTERS,PRINTER,POCKET CALCULATOR,BLACK HARD SHELL FLOPPY DISK,WHITE HARD SHELL FLOPPY DISK",
  "||SOFT SHELL FLOPPY DISK,TAPE CARTRIDGE,WIRED KEYBOARD,ONE BUTTON MOUSE,TWO BUTTON MOUSE",
  "||THREE BUTTON MOUSE,TRACKBALL,OLD PERSONAL COMPUTER,HARD DISK,SCREEN,PRINTER ICON,FAX ICON,OPTICAL DISC ICON",
  "|DOCUMENT WITH |TEXT,TEXT AND PICTURE,PICTURE",
  "|FRAME WITH |PICTURE,TILES,AN X",
  "||BLACK FOLDER,FOLDER,OPEN FOLDER,CARD INDEX DIVIDERS,CARD FILE BOX,FILE CABINET",
  "|EMPTY |NOTE,NOTE PAGE,NOTE PAD",
  "||NOTE,NOTE PAGE,NOTE PAD,EMPTY DOCUMENT,EMPTY PAGE,EMPTY PAGES,DOCUMENT,PAGE,PAGES,WASTEBASKET,SPIRAL NOTE PAD",
  "||SPIRAL CALENDAR PAD,DESKTOP WINDOW,MINIMIZE,MAXIMIZE,OVERLAP,CLOCKWISE RIGHT AND LEFT SEMICIRCLE ARROWS",
  "||CANCELLATION X,INCREASE FONT SIZE SYMBOL,DECREASE FONT SIZE SYMBOL,COMPRESSION",
  "||OLD KEY,ROLLED-UP NEWSPAPER,PAGE WITH CIRCLED TEXT,STOCK CHART,DAGGER KNIFE,LIPS,SPEAKING HEAD IN SILHOUETTE",
  "|THREE RAYS |ABOVE,BELOW,LEFT,RIGHT",
  "||LEFT SPEECH BUBBLE,RIGHT SPEECH BUBBLE,TWO SPEECH BUBBLES",
  "||THREE SPEECH BUBBLES,LEFT THOUGHT BUBBLE,RIGHT THOUGHT BUBBLE,LEFT ANGER BUBBLE,RIGHT ANGER BUBBLE,MOOD BUBBLE",
  "|LIGHTNING |MOOD BUBBLE,MOOD",
  "|BALLOT |BOX WITH BALLOT,SCRIPT X,BOX WITH SCRIPT X,BOLD SCRIPT X,BOX WITH BOLD SCRIPT X",
  "||LIGHT CHECK MARK,BALLOT BOX WITH BOLD CHECK,WORLD MAP,MOUNT FUJI,TOKYO TOWER",
  "||STATUE OF LIBERTY,SILHOUETTE OF JAPAN,MOYAI,GRINNING FACE,GRINNING FACE WITH SMILING EYES,FACE WITH TEARS OF JOY",
  "|SMILING FACE WITH OPEN |MOUTH,MOUTH AND SMILING EYES,MOUTH AND COLD SWEAT,MOUTH AND TIGHTLY-CLOSED EYES",
  "|SMILING FACE WITH |HALO,HORNS",
  "||WINKING FACE,SMILING FACE WITH SMILING EYES,FACE SAVOURING DELICIOUS FOOD,RELIEVED FACE",
  "|SMILING FACE WITH |HEART-SHAPED EYES,SUNGLASSES",
  "||SMIRKING FACE,NEUTRAL FACE,EXPRESSIONLESS FACE",
  "||UNAMUSED FACE,FACE WITH COLD SWEAT,PENSIVE FACE,CONFUSED FACE,CONFOUNDED FACE,KISSING FACE,FACE THROWING A KISS",
  "|KISSING FACE WITH |SMILING EYES,CLOSED EYES",
  "|FACE WITH STUCK-OUT |TONGUE,TONGUE AND WINKING EYE,TONGUE AND TIGHTLY-CLOSED EYES",
  "||DISAPPOINTED FACE,WORRIED FACE,ANGRY FACE,POUTING FACE,CRYING FACE,PERSEVERING FACE",
  "||FACE WITH LOOK OF TRIUMPH,DISAPPOINTED BUT RELIEVED FACE,FROWNING FACE WITH OPEN MOUTH,ANGUISHED FACE",
  "||FEARFUL FACE,WEARY FACE,SLEEPY FACE,TIRED FACE,GRIMACING FACE,LOUDLY CRYING FACE,FACE WITH OPEN MOUTH,HUSHED FACE",
  "||FACE WITH OPEN MOUTH AND COLD SWEAT,FACE SCREAMING IN FEAR,ASTONISHED FACE,FLUSHED FACE,SLEEPING FACE,DIZZY FACE",
  "||FACE WITHOUT MOUTH,FACE WITH MEDICAL MASK,GRINNING CAT FACE WITH SMILING EYES,CAT FACE WITH TEARS OF JOY",
  "|SMILING CAT FACE WITH |OPEN MOUTH,HEART-SHAPED EYES",
  "||CAT FACE WITH WRY SMILE,KISSING CAT FACE WITH CLOSED EYES,POUTING CAT FACE,CRYING CAT FACE,WEARY CAT FACE",
  "|SLIGHTLY |FROWNING FACE,SMILING FACE",
  "||UPSIDE-DOWN FACE",
  "|FACE WITH |ROLLING EYES,NO GOOD GESTURE,OK GESTURE",
  "||PERSON BOWING DEEPLY,SEE-NO-EVIL MONKEY,HEAR-NO-EVIL MONKEY,SPEAK-NO-EVIL MONKEY,HAPPY PERSON RAISING ONE HAND",
  "|PERSON |RAISING BOTH HANDS IN CELEBRATION,FROWNING,WITH POUTING FACE,WITH FOLDED HANDS",
  "||NORTH WEST POINTING LEAF,SOUTH WEST POINTING LEAF,NORTH EAST POINTING LEAF,SOUTH EAST POINTING LEAF",
  "|TURNED |NORTH WEST POINTING LEAF,SOUTH WEST POINTING LEAF,NORTH EAST POINTING LEAF,SOUTH EAST POINTING LEAF",
  "||NORTH WEST POINTING VINE LEAF,SOUTH WEST POINTING VINE LEAF",
  "||NORTH EAST POINTING VINE LEAF,SOUTH EAST POINTING VINE LEAF,HEAVY NORTH WEST POINTING VINE LEAF",
  "|HEAVY |SOUTH WEST POINTING VINE LEAF,NORTH EAST POINTING VINE LEAF,SOUTH EAST POINTING VINE LEAF",
  "||NORTH WEST POINTING BUD,SOUTH WEST POINTING BUD,NORTH EAST POINTING BUD,SOUTH EAST POINTING BUD",
  "|HEAVY |NORTH WEST POINTING BUD,SOUTH WEST POINTING BUD,NORTH EAST POINTING BUD,SOUTH EAST POINTING BUD",
  "|HOLLOW QUILT SQUARE |ORNAMENT,ORNAMENT IN BLACK SQUARE",
  "|SOLID QUILT SQUARE |ORNAMENT,ORNAMENT IN BLACK SQUARE",
  "||LEFTWARDS ROCKET,UPWARDS ROCKET,RIGHTWARDS ROCKET,DOWNWARDS ROCKET,SCRIPT LIGATURE ET ORNAMENT",
  "||HEAVY SCRIPT LIGATURE ET ORNAMENT,LIGATURE OPEN ET ORNAMENT,HEAVY LIGATURE OPEN ET ORNAMENT",
  "||HEAVY AMPERSAND ORNAMENT,SWASH AMPERSAND ORNAMENT,SANS-SERIF HEAVY DOUBLE TURNED COMMA QUOTATION MARK ORNAMENT",
  "|SANS-SERIF HEAVY |DOUBLE COMMA QUOTATION MARK ORNAMENT,LOW DOUBLE COMMA QUOTATION MARK ORNAMENT",
  "||HEAVY INTERROBANG ORNAMENT,SANS-SERIF INTERROBANG ORNAMENT,HEAVY SANS-SERIF INTERROBANG ORNAMENT",
  "|VERY HEAVY |SOLIDUS,REVERSE SOLIDUS",
  "||CHECKER BOARD,REVERSE CHECKER BOARD,ROCKET,HELICOPTER,STEAM LOCOMOTIVE,RAILWAY CAR",
  "|HIGH-SPEED |TRAIN,TRAIN WITH BULLET NOSE",
  "||TRAIN,METRO,LIGHT RAIL,STATION,TRAM,TRAM CAR,BUS,ONCOMING BUS",
  "||TROLLEYBUS,BUS STOP,MINIBUS,AMBULANCE,FIRE ENGINE,POLICE CAR,ONCOMING POLICE CAR,TAXI,ONCOMING TAXI,AUTOMOBILE",
  "||ONCOMING AUTOMOBILE,RECREATIONAL VEHICLE,DELIVERY TRUCK,ARTICULATED LORRY,TRACTOR,MONORAIL,MOUNTAIN RAILWAY",
  "||SUSPENSION RAILWAY,MOUNTAIN CABLEWAY,AERIAL TRAMWAY,SHIP,ROWBOAT,SPEEDBOAT,HORIZONTAL TRAFFIC LIGHT",
  "||VERTICAL TRAFFIC LIGHT,CONSTRUCTION SIGN,POLICE CARS REVOLVING LIGHT,TRIANGULAR FLAG ON POST",
  "||DOOR,NO ENTRY SIGN,SMOKING SYMBOL,NO SMOKING SYMBOL,PUT LITTER IN ITS PLACE SYMBOL,DO NOT LITTER SYMBOL",
  "||POTABLE WATER SYMBOL,NON-POTABLE WATER SYMBOL,BICYCLE,NO BICYCLES,BICYCLIST,MOUNTAIN BICYCLIST,PEDESTRIAN",
  "||NO PEDESTRIANS,CHILDREN CROSSING,MENS SYMBOL,WOMENS SYMBOL,RESTROOM,BABY SYMBOL,TOILET,WATER CLOSET,SHOWER",
  "||BATH,BATHTUB,PASSPORT CONTROL,CUSTOMS,BAGGAGE CLAIM,LEFT LUGGAGE,TRIANGLE WITH ROUNDED CORNERS,PROHIBITED SIGN",
  "||CIRCLED INFORMATION SOURCE,BOYS SYMBOL,GIRLS SYMBOL,COUCH AND LAMP,SLEEPING ACCOMMODATION,SHOPPING BAGS",
  "||BELLHOP BELL,BED,PLACE OF WORSHIP,OCTAGONAL SIGN,SHOPPING TROLLEY,STUPA,PAGODA,HINDU TEMPLE,HUT,ELEVATOR",
  "1F6DD||PLAYGROUND SLIDE,WHEEL,RING BUOY,HAMMER AND WRENCH,SHIELD,OIL DRUM,MOTORWAY,RAILWAY TRACK,MOTOR BOAT",
  "|UP-POINTING |MILITARY AIRPLANE,AIRPLANE,SMALL AIRPLANE",
  "||SMALL AIRPLANE,NORTHEAST-POINTING AIRPLANE",
  "||AIRPLANE DEPARTURE,AIRPLANE ARRIVING,,,,SATELLITE,ONCOMING FIRE ENGINE,DIESEL LOCOMOTIVE",
  "||PASSENGER SHIP,SCOOTER,MOTOR SCOOTER,CANOE,SLED,FLYING SAUCER,SKATEBOARD,AUTO RICKSHAW,PICKUP TRUCK,ROLLER SKATE",
  "1F700|ALCHEMICAL SYMBOL FOR |QUINTESSENCE,AIR,FIRE,EARTH,WATER,AQUAFORTIS,AQUA REGIA,AQUA REGIA-2",
  "|ALCHEMICAL SYMBOL FOR |AQUA VITAE,AQUA VITAE-2,VINEGAR,VINEGAR-2,VINEGAR-3,SULFUR,PHILOSOPHERS SULFUR,BLACK SULFUR",
  "|ALCHEMICAL SYMBOL FOR MERCURY |SUBLIMATE,SUBLIMATE-2,SUBLIMATE-3",
  "|ALCHEMICAL SYMBOL FOR |CINNABAR,SALT,NITRE,VITRIOL,VITRIOL-2,ROCK SALT,ROCK SALT-2,GOLD,SILVER,IRON ORE",
  "|ALCHEMICAL SYMBOL FOR |IRON ORE-2,CROCUS OF IRON,REGULUS OF IRON,COPPER ORE,IRON-COPPER ORE,SUBLIMATE OF COPPER",
  "|ALCHEMICAL SYMBOL FOR |CROCUS OF COPPER,CROCUS OF COPPER-2,COPPER ANTIMONIATE,SALT OF COPPER ANTIMONIATE",
  "|ALCHEMICAL SYMBOL FOR |SUBLIMATE OF SALT OF COPPER,VERDIGRIS,TIN ORE,LEAD ORE,ANTIMONY ORE,SUBLIMATE OF ANTIMONY",
  "|ALCHEMICAL SYMBOL FOR |SALT OF ANTIMONY,SUBLIMATE OF SALT OF ANTIMONY,VINEGAR OF ANTIMONY,REGULUS OF ANTIMONY",
  "|ALCHEMICAL SYMBOL FOR |REGULUS OF ANTIMONY-2,REGULUS,REGULUS-2,REGULUS-3,REGULUS-4,ALKALI,ALKALI-2,MARCASITE",
  "|ALCHEMICAL SYMBOL FOR |SAL-AMMONIAC,ARSENIC,REALGAR,REALGAR-2,AURIPIGMENT,BISMUTH ORE,TARTAR,TARTAR-2,QUICK LIME",
  "|ALCHEMICAL SYMBOL FOR |BORAX,BORAX-2,BORAX-3,ALUM,OIL,SPIRIT,TINCTURE,GUM,WAX,POWDER,CALX,TUTTY,CAPUT MORTUUM",
  "|ALCHEMICAL SYMBOL FOR |SCEPTER OF JOVE,CADUCEUS,TRIDENT,STARRED TRIDENT,LODESTONE,SOAP,URINE,HORSE DUNG",
  "|ALCHEMICAL SYMBOL FOR |ASHES,POT ASHES,BRICK,POWDERED BRICK,AMALGAM,STRATUM SUPER STRATUM,STRATUM SUPER STRATUM-2",
  "|ALCHEMICAL SYMBOL FOR |SUBLIMATION,PRECIPITATE,DISTILL,DISSOLVE,DISSOLVE-2,PURIFY,PUTREFACTION,CRUCIBLE",
  "|ALCHEMICAL SYMBOL FOR CRUCIBLE-|2,3,4,5",
  "|ALCHEMICAL SYMBOL FOR |ALEMBIC,BATH OF MARY,BATH OF VAPOURS,RETORT,HOUR,NIGHT,DAY-NIGHT,MONTH,HALF DRAM,HALF OUNCE",
  "1F780|BLACK |LEFT-POINTING ISOSCELES RIGHT TRIANGLE,UP-POINTING ISOSCELES RIGHT TRIANGLE",
  "|BLACK |RIGHT-POINTING ISOSCELES RIGHT TRIANGLE,DOWN-POINTING ISOSCELES RIGHT TRIANGLE,SLIGHTLY SMALL CIRCLE",
  "||MEDIUM BOLD WHITE CIRCLE,BOLD WHITE CIRCLE,HEAVY WHITE CIRCLE",
  "||VERY HEAVY WHITE CIRCLE,EXTREMELY HEAVY WHITE CIRCLE,WHITE CIRCLE CONTAINING BLACK SMALL CIRCLE",
  "||ROUND TARGET,BLACK TINY SQUARE,BLACK SLIGHTLY SMALL SQUARE,LIGHT WHITE SQUARE",
  "||MEDIUM WHITE SQUARE,BOLD WHITE SQUARE,HEAVY WHITE SQUARE,VERY HEAVY WHITE SQUARE,EXTREMELY HEAVY WHITE SQUARE",
  "|WHITE SQUARE CONTAINING BLACK |VERY SMALL SQUARE,MEDIUM SQUARE",
  "||SQUARE TARGET",
  "|BLACK |TINY DIAMOND,VERY SMALL DIAMOND,MEDIUM SMALL DIAMOND",
  "|WHITE DIAMOND CONTAINING BLACK |VERY SMALL DIAMOND,MEDIUM DIAMOND",
  "||DIAMOND TARGET",
  "|BLACK |TINY LOZENGE,VERY SMALL LOZENGE,MEDIUM SMALL LOZENGE",
  "||WHITE LOZENGE CONTAINING BLACK SMALL LOZENGE,THIN GREEK CROSS,LIGHT GREEK CROSS",
  "||MEDIUM GREEK CROSS,BOLD GREEK CROSS,VERY BOLD GREEK CROSS,VERY HEAVY GREEK CROSS,EXTREMELY HEAVY GREEK CROSS",
  "||THIN SALTIRE,LIGHT SALTIRE,MEDIUM SALTIRE,BOLD SALTIRE,HEAVY SALTIRE,VERY HEAVY SALTIRE",
  "||EXTREMELY HEAVY SALTIRE,LIGHT FIVE SPOKED ASTERISK,MEDIUM FIVE SPOKED ASTERISK,BOLD FIVE SPOKED ASTERISK",
  "||HEAVY FIVE SPOKED ASTERISK,VERY HEAVY FIVE SPOKED ASTERISK,EXTREMELY HEAVY FIVE SPOKED ASTERISK",
  "||LIGHT SIX SPOKED ASTERISK,MEDIUM SIX SPOKED ASTERISK,BOLD SIX SPOKED ASTERISK",
  "||HEAVY SIX SPOKED ASTERISK,VERY HEAVY SIX SPOKED ASTERISK,EXTREMELY HEAVY SIX SPOKED ASTERISK",
  "||LIGHT EIGHT SPOKED ASTERISK,MEDIUM EIGHT SPOKED ASTERISK,BOLD EIGHT SPOKED ASTERISK",
  "||HEAVY EIGHT SPOKED ASTERISK,VERY HEAVY EIGHT SPOKED ASTERISK,LIGHT THREE POINTED BLACK STAR",
  "||MEDIUM THREE POINTED BLACK STAR,THREE POINTED BLACK STAR,MEDIUM THREE POINTED PINWHEEL STAR",
  "||LIGHT FOUR POINTED BLACK STAR,MEDIUM FOUR POINTED BLACK STAR,FOUR POINTED BLACK STAR",
  "||MEDIUM FOUR POINTED PINWHEEL STAR,REVERSE LIGHT FOUR POINTED PINWHEEL STAR,LIGHT FIVE POINTED BLACK STAR",
  "||HEAVY FIVE POINTED BLACK STAR,MEDIUM SIX POINTED BLACK STAR,HEAVY SIX POINTED BLACK STAR",
  "||SIX POINTED PINWHEEL STAR,MEDIUM EIGHT POINTED BLACK STAR,HEAVY EIGHT POINTED BLACK STAR",
  "||VERY HEAVY EIGHT POINTED BLACK STAR,HEAVY EIGHT POINTED PINWHEEL STAR,LIGHT TWELVE POINTED BLACK STAR",
  "|HEAVY TWELVE POINTED |BLACK STAR,PINWHEEL STAR",
  "||CIRCLED TRIANGLE,NEGATIVE CIRCLED TRIANGLE,CIRCLED SQUARE,NEGATIVE CIRCLED SQUARE",
  "1F7E0|LARGE |ORANGE CIRCLE,YELLOW CIRCLE,GREEN CIRCLE,PURPLE CIRCLE",
  "|LARGE |BROWN CIRCLE,RED SQUARE,BLUE SQUARE,ORANGE SQUARE,YELLOW SQUARE,GREEN SQUARE,PURPLE SQUARE,BROWN SQUARE",
  "1F7F0||HEAVY EQUALS SIGN",
  "1F800||LEFTWARDS ARROW WITH SMALL TRIANGLE ARROWHEAD,UPWARDS ARROW WITH SMALL TRIANGLE ARROWHEAD",
  "||RIGHTWARDS ARROW WITH SMALL TRIANGLE ARROWHEAD,DOWNWARDS ARROW WITH SMALL TRIANGLE ARROWHEAD",
  "||LEFTWARDS ARROW WITH MEDIUM TRIANGLE ARROWHEAD,UPWARDS ARROW WITH MEDIUM TRIANGLE ARROWHEAD",
  "||RIGHTWARDS ARROW WITH MEDIUM TRIANGLE ARROWHEAD,DOWNWARDS ARROW WITH MEDIUM TRIANGLE ARROWHEAD",
  "||LEFTWARDS ARROW WITH LARGE TRIANGLE ARROWHEAD,UPWARDS ARROW WITH LARGE TRIANGLE ARROWHEAD",
  "||RIGHTWARDS ARROW WITH LARGE TRIANGLE ARROWHEAD,DOWNWARDS ARROW WITH LARGE TRIANGLE ARROWHEAD",
  "1F810||LEFTWARDS ARROW WITH SMALL EQUILATERAL ARROWHEAD,UPWARDS ARROW WITH SMALL EQUILATERAL ARROWHEAD",
  "||RIGHTWARDS ARROW WITH SMALL EQUILATERAL ARROWHEAD,DOWNWARDS ARROW WITH SMALL EQUILATERAL ARROWHEAD",
  "||LEFTWARDS ARROW WITH EQUILATERAL ARROWHEAD,UPWARDS ARROW WITH EQUILATERAL ARROWHEAD",
  "||RIGHTWARDS ARROW WITH EQUILATERAL ARROWHEAD,DOWNWARDS ARROW WITH EQUILATERAL ARROWHEAD",
  "|HEAVY |LEFTWARDS ARROW WITH EQUILATERAL ARROWHEAD,UPWARDS ARROW WITH EQUILATERAL ARROWHEAD",
  "|HEAVY |RIGHTWARDS ARROW WITH EQUILATERAL ARROWHEAD,DOWNWARDS ARROW WITH EQUILATERAL ARROWHEAD",
  "|HEAVY |LEFTWARDS ARROW WITH LARGE EQUILATERAL ARROWHEAD,UPWARDS ARROW WITH LARGE EQUILATERAL ARROWHEAD",
  "|HEAVY |RIGHTWARDS ARROW WITH LARGE EQUILATERAL ARROWHEAD,DOWNWARDS ARROW WITH LARGE EQUILATERAL ARROWHEAD",
  "||LEFTWARDS TRIANGLE-HEADED ARROW WITH NARROW SHAFT",
  "||UPWARDS TRIANGLE-HEADED ARROW WITH NARROW SHAFT,RIGHTWARDS TRIANGLE-HEADED ARROW WITH NARROW SHAFT",
  "||DOWNWARDS TRIANGLE-HEADED ARROW WITH NARROW SHAFT,LEFTWARDS TRIANGLE-HEADED ARROW WITH MEDIUM SHAFT",
  "||UPWARDS TRIANGLE-HEADED ARROW WITH MEDIUM SHAFT,RIGHTWARDS TRIANGLE-HEADED ARROW WITH MEDIUM SHAFT",
  "||DOWNWARDS TRIANGLE-HEADED ARROW WITH MEDIUM SHAFT,LEFTWARDS TRIANGLE-HEADED ARROW WITH BOLD SHAFT",
  "||UPWARDS TRIANGLE-HEADED ARROW WITH BOLD SHAFT,RIGHTWARDS TRIANGLE-HEADED ARROW WITH BOLD SHAFT",
  "||DOWNWARDS TRIANGLE-HEADED ARROW WITH BOLD SHAFT,LEFTWARDS TRIANGLE-HEADED ARROW WITH HEAVY SHAFT",
  "||UPWARDS TRIANGLE-HEADED ARROW WITH HEAVY SHAFT,RIGHTWARDS TRIANGLE-HEADED ARROW WITH HEAVY SHAFT",
  "||DOWNWARDS TRIANGLE-HEADED ARROW WITH HEAVY SHAFT,LEFTWARDS TRIANGLE-HEADED ARROW WITH VERY HEAVY SHAFT",
  "||UPWARDS TRIANGLE-HEADED ARROW WITH VERY HEAVY SHAFT,RIGHTWARDS TRIANGLE-HEADED ARROW WITH VERY HEAVY SHAFT",
  "||DOWNWARDS TRIANGLE-HEADED ARROW WITH VERY HEAVY SHAFT,LEFTWARDS FINGER-POST ARROW",
  "||UPWARDS FINGER-POST ARROW,RIGHTWARDS FINGER-POST ARROW,DOWNWARDS FINGER-POST ARROW,LEFTWARDS SQUARED ARROW",
  "||UPWARDS SQUARED ARROW,RIGHTWARDS SQUARED ARROW,DOWNWARDS SQUARED ARROW,LEFTWARDS COMPRESSED ARROW",
  "||UPWARDS COMPRESSED ARROW,RIGHTWARDS COMPRESSED ARROW,DOWNWARDS COMPRESSED ARROW,LEFTWARDS HEAVY COMPRESSED ARROW",
  "||UPWARDS HEAVY COMPRESSED ARROW,RIGHTWARDS HEAVY COMPRESSED ARROW,DOWNWARDS HEAVY COMPRESSED ARROW",
  "||LEFTWARDS HEAVY ARROW,UPWARDS HEAVY ARROW,RIGHTWARDS HEAVY ARROW,DOWNWARDS HEAVY ARROW",
  "1F850||LEFTWARDS SANS-SERIF ARROW,UPWARDS SANS-SERIF ARROW,RIGHTWARDS SANS-SERIF ARROW,DOWNWARDS SANS-SERIF ARROW",
  "|NORTH |WEST SANS-SERIF ARROW,EAST SANS-SERIF ARROW",
  "||SOUTH EAST SANS-SERIF ARROW,SOUTH WEST SANS-SERIF ARROW,LEFT RIGHT SANS-SERIF ARROW,UP DOWN SANS-SERIF ARROW",
  "1F860|WIDE-HEADED |LEFTWARDS LIGHT BARB ARROW,UPWARDS LIGHT BARB ARROW,RIGHTWARDS LIGHT BARB ARROW",
  "|WIDE-HEADED |DOWNWARDS LIGHT BARB ARROW,NORTH WEST LIGHT BARB ARROW,NORTH EAST LIGHT BARB ARROW",
  "|WIDE-HEADED |SOUTH EAST LIGHT BARB ARROW,SOUTH WEST LIGHT BARB ARROW,LEFTWARDS BARB ARROW,UPWARDS BARB ARROW",
  "|WIDE-HEADED |RIGHTWARDS BARB ARROW,DOWNWARDS BARB ARROW,NORTH WEST BARB ARROW,NORTH EAST BARB ARROW",
  "|WIDE-HEADED |SOUTH EAST BARB ARROW,SOUTH WEST BARB ARROW,LEFTWARDS MEDIUM BARB ARROW,UPWARDS MEDIUM BARB ARROW",
  "|WIDE-HEADED |RIGHTWARDS MEDIUM BARB ARROW,DOWNWARDS MEDIUM BARB ARROW,NORTH WEST MEDIUM BARB ARROW",
  "|WIDE-HEADED |NORTH EAST MEDIUM BARB ARROW,SOUTH EAST MEDIUM BARB ARROW,SOUTH WEST MEDIUM BARB ARROW",
  "|WIDE-HEADED |LEFTWARDS HEAVY BARB ARROW,UPWARDS HEAVY BARB ARROW,RIGHTWARDS HEAVY BARB ARROW",
  "|WIDE-HEADED |DOWNWARDS HEAVY BARB ARROW,NORTH WEST HEAVY BARB ARROW,NORTH EAST HEAVY BARB ARROW",
  "|WIDE-HEADED SOUTH |EAST HEAVY BARB ARROW,WEST HEAVY BARB ARROW",
  "|WIDE-HEADED |LEFTWARDS VERY HEAVY BARB ARROW,UPWARDS VERY HEAVY BARB ARROW,RIGHTWARDS VERY HEAVY BARB ARROW",
  "|WIDE-HEADED |DOWNWARDS VERY HEAVY BARB ARROW,NORTH WEST VERY HEAVY BARB ARROW,NORTH EAST VERY HEAVY BARB ARROW",
  "|WIDE-HEADED SOUTH |EAST VERY HEAVY BARB ARROW,WEST VERY HEAVY BARB ARROW",
  "1F890||LEFTWARDS TRIANGLE ARROWHEAD,UPWARDS TRIANGLE ARROWHEAD",
  "||RIGHTWARDS TRIANGLE ARROWHEAD,DOWNWARDS TRIANGLE ARROWHEAD,LEFTWARDS WHITE ARROW WITHIN TRIANGLE ARROWHEAD",
  "||UPWARDS WHITE ARROW WITHIN TRIANGLE ARROWHEAD,RIGHTWARDS WHITE ARROW WITHIN TRIANGLE ARROWHEAD",
  "||DOWNWARDS WHITE ARROW WITHIN TRIANGLE ARROWHEAD,LEFTWARDS ARROW WITH NOTCHED TAIL",
  "||UPWARDS ARROW WITH NOTCHED TAIL,RIGHTWARDS ARROW WITH NOTCHED TAIL,DOWNWARDS ARROW WITH NOTCHED TAIL",
  "|HEAVY ARROW SHAFT WIDTH |ONE,TWO THIRDS,ONE HALF,ONE THIRD",
  "||LEFTWARDS BOTTOM-SHADED WHITE ARROW,RIGHTWARDS BOTTOM SHADED WHITE ARROW",
  "||LEFTWARDS TOP SHADED WHITE ARROW,RIGHTWARDS TOP SHADED WHITE ARROW,LEFTWARDS LEFT-SHADED WHITE ARROW",
  "||RIGHTWARDS RIGHT-SHADED WHITE ARROW,LEFTWARDS RIGHT-SHADED WHITE ARROW,RIGHTWARDS LEFT-SHADED WHITE ARROW",
  "||LEFTWARDS BACK-TILTED SHADOWED WHITE ARROW,RIGHTWARDS BACK-TILTED SHADOWED WHITE ARROW",
  "||LEFTWARDS FRONT-TILTED SHADOWED WHITE ARROW,RIGHTWARDS FRONT-TILTED SHADOWED WHITE ARROW",
  "|WHITE ARROW SHAFT WIDTH |ONE,TWO THIRDS",
  "1F8B0|ARROW POINTING |UPWARDS THEN NORTH WEST,RIGHTWARDS THEN CURVING SOUTH WEST",
  "1F900|CIRCLED CROSS |FORMEE WITH FOUR DOTS,FORMEE WITH TWO DOTS,FORMEE",
  "|LEFT HALF CIRCLE WITH |FOUR DOTS,THREE DOTS,TWO DOTS,DOT",
  "||LEFT HALF CIRCLE",
  "|DOWNWARD FACING |HOOK,NOTCHED HOOK,HOOK WITH DOT,NOTCHED HOOK WITH DOT",
  "||PINCHED FINGERS,WHITE HEART,BROWN HEART,PINCHING HAND,ZIPPER-MOUTH FACE",
  "||MONEY-MOUTH FACE,FACE WITH THERMOMETER,NERD FACE,THINKING FACE,FACE WITH HEAD-BANDAGE,ROBOT FACE",
  "||HUGGING FACE,SIGN OF THE HORNS,CALL ME HAND,RAISED BACK OF HAND,LEFT-FACING FIST,RIGHT-FACING FIST,HANDSHAKE",
  "||HAND WITH INDEX AND MIDDLE FINGERS CROSSED,I LOVE YOU HAND SIGN,FACE WITH COWBOY HAT,CLOWN FACE,NAUSEATED FACE",
  "||ROLLING ON THE FLOOR LAUGHING,DROOLING FACE,LYING FACE,FACE PALM,SNEEZING FACE,FACE WITH ONE EYEBROW RAISED",
  "|GRINNING FACE WITH |STAR EYES,ONE LARGE AND ONE SMALL EYE",
  "||FACE WITH FINGER COVERING CLOSED LIPS",
  "||SERIOUS FACE WITH SYMBOLS COVERING MOUTH,SMILING FACE WITH SMILING EYES AND HAND COVERING MOUTH",
  "||FACE WITH OPEN MOUTH VOMITING,SHOCKED FACE WITH EXPLODING HEAD",
  "||PREGNANT WOMAN,BREAST-FEEDING,PALMS UP TOGETHER,SELFIE,PRINCE,MAN IN TUXEDO,MOTHER CHRISTMAS,SHRUG",
  "||PERSON DOING CARTWHEEL,JUGGLING,FENCER,MODERN PENTATHLON,WRESTLERS,WATER POLO,HANDBALL,DIVING MASK,WILTED FLOWER",
  "||DRUM WITH DRUMSTICKS,CLINKING GLASSES,TUMBLER GLASS,SPOON,GOAL NET,RIFLE,FIRST PLACE MEDAL,SECOND PLACE MEDAL",
  "||THIRD PLACE MEDAL,BOXING GLOVE,MARTIAL ARTS UNIFORM,CURLING STONE,LACROSSE STICK AND BALL,SOFTBALL",
  "||FLYING DISC,CROISSANT,AVOCADO,CUCUMBER,BACON,POTATO,CARROT,BAGUETTE BREAD,GREEN SALAD,SHALLOW PAN OF FOOD",
  "||STUFFED FLATBREAD,EGG,GLASS OF MILK,PEANUTS,KIWIFRUIT,PANCAKES,DUMPLING,FORTUNE COOKIE,TAKEOUT BOX,CHOPSTICKS",
  "||BOWL WITH SPOON,CUP WITH STRAW,COCONUT,BROCCOLI,PIE,PRETZEL,CUT OF MEAT,SANDWICH,CANNED FOOD,LEAFY GREEN",
  "||MANGO,MOON CAKE,BAGEL,SMILING FACE WITH SMILING EYES AND THREE HEARTS,YAWNING FACE,SMILING FACE WITH TEAR",
  "|FACE WITH |PARTY HORN AND PARTY HAT,UNEVEN EYES AND WAVY MOUTH",
  "||OVERHEATED FACE,FREEZING FACE,NINJA,DISGUISED FACE,FACE HOLDING BACK TEARS",
  "||FACE WITH PLEADING EYES,SARI,LAB COAT,GOGGLES,HIKING BOOT,FLAT SHOE,CRAB,LION FACE,SCORPION,TURKEY,UNICORN FACE",
  "||EAGLE,DUCK,BAT,SHARK,OWL,FOX FACE,BUTTERFLY,DEER,GORILLA,LIZARD,RHINOCEROS,SHRIMP,SQUID,GIRAFFE FACE,ZEBRA FACE",
  "||HEDGEHOG,SAUROPOD,T-REX,CRICKET,KANGAROO,LLAMA,PEACOCK,HIPPOPOTAMUS,PARROT,RACCOON,LOBSTER,MOSQUITO,MICROBE",
  "||BADGER,SWAN,MAMMOTH,DODO,SLOTH,OTTER,ORANGUTAN,SKUNK,FLAMINGO,OYSTER,BEAVER,BISON,SEAL,GUIDE DOG,PROBING CANE",
  "|EMOJI COMPONENT |RED HAIR,CURLY HAIR,BALD,WHITE HAIR",
  "||BONE",
  "||LEG,FOOT,TOOTH,SUPERHERO,SUPERVILLAIN,SAFETY VEST,EAR WITH HEARING AID,MOTORIZED WHEELCHAIR,MANUAL WHEELCHAIR",
  "|MECHANICAL |ARM,LEG",
  "||CHEESE WEDGE,CUPCAKE,SALT SHAKER,BEVERAGE BOX,GARLIC,ONION,FALAFEL,WAFFLE,BUTTER,MATE DRINK,ICE CUBE,BUBBLE TEA",
  "||TROLL,STANDING PERSON,KNEELING PERSON,DEAF PERSON,FACE WITH MONOCLE,ADULT,CHILD,OLDER ADULT,BEARDED PERSON",
  "|PERSON |WITH HEADSCARF,IN STEAMY ROOM,CLIMBING,IN LOTUS POSITION",
  "||MAGE,FAIRY,VAMPIRE,MERPERSON,ELF,GENIE,ZOMBIE,BRAIN,ORANGE HEART",
  "||BILLED CAP,SCARF,GLOVES,COAT,SOCKS,RED GIFT ENVELOPE,FIRECRACKER,JIGSAW PUZZLE PIECE,TEST TUBE,PETRI DISH",
  "||DNA DOUBLE HELIX,COMPASS,ABACUS,FIRE EXTINGUISHER,TOOLBOX,BRICK,MAGNET,LUGGAGE,LOTION BOTTLE,SPOOL OF THREAD",
  "||BALL OF YARN,SAFETY PIN,TEDDY BEAR,BROOM,BASKET,ROLL OF PAPER,BAR OF SOAP,SPONGE,RECEIPT,NAZAR AMULET",
  "|NEUTRAL CHESS |KING,QUEEN,ROOK,BISHOP,KNIGHT,PAWN",
  "||WHITE CHESS KNIGHT ROTATED FORTY-FIVE DEGREES",
  "||BLACK CHESS KNIGHT ROTATED FORTY-FIVE DEGREES,NEUTRAL CHESS KNIGHT ROTATED FORTY-FIVE DEGREES",
  "|WHITE CHESS |KING ROTATED NINETY DEGREES,QUEEN ROTATED NINETY DEGREES,ROOK ROTATED NINETY DEGREES",
  "|WHITE CHESS |BISHOP ROTATED NINETY DEGREES,KNIGHT ROTATED NINETY DEGREES,PAWN ROTATED NINETY DEGREES",
  "|BLACK CHESS |KING ROTATED NINETY DEGREES,QUEEN ROTATED NINETY DEGREES,ROOK ROTATED NINETY DEGREES",
  "|BLACK CHESS |BISHOP ROTATED NINETY DEGREES,KNIGHT ROTATED NINETY DEGREES,PAWN ROTATED NINETY DEGREES",
  "|NEUTRAL CHESS |KING ROTATED NINETY DEGREES,QUEEN ROTATED NINETY DEGREES,ROOK ROTATED NINETY DEGREES",
  "|NEUTRAL CHESS |BISHOP ROTATED NINETY DEGREES,KNIGHT ROTATED NINETY DEGREES,PAWN ROTATED NINETY DEGREES",
  "||WHITE CHESS KNIGHT ROTATED ONE HUNDRED THIRTY-FIVE DEGREES",
  "||BLACK CHESS KNIGHT ROTATED ONE HUNDRED THIRTY-FIVE DEGREES",
  "||NEUTRAL CHESS KNIGHT ROTATED ONE HUNDRED THIRTY-FIVE DEGREES",
  "|WHITE CHESS TURNED |KING,QUEEN,ROOK,BISHOP,KNIGHT,PAWN",
  "|BLACK CHESS TURNED |KING,QUEEN,ROOK,BISHOP,KNIGHT,PAWN",
  "|NEUTRAL CHESS TURNED |KING,QUEEN,ROOK,BISHOP,KNIGHT,PAWN",
  "||WHITE CHESS KNIGHT ROTATED TWO HUNDRED TWENTY-FIVE DEGREES",
  "||BLACK CHESS KNIGHT ROTATED TWO HUNDRED TWENTY-FIVE DEGREES",
  "||NEUTRAL CHESS KNIGHT ROTATED TWO HUNDRED TWENTY-FIVE DEGREES",
  "|WHITE CHESS |KING ROTATED TWO HUNDRED SEVENTY DEGREES,QUEEN ROTATED TWO HUNDRED SEVENTY DEGREES",
  "|WHITE CHESS |ROOK ROTATED TWO HUNDRED SEVENTY DEGREES,BISHOP ROTATED TWO HUNDRED SEVENTY DEGREES",
  "|WHITE CHESS |KNIGHT ROTATED TWO HUNDRED SEVENTY DEGREES,PAWN ROTATED TWO HUNDRED SEVENTY DEGREES",
  "|BLACK CHESS |KING ROTATED TWO HUNDRED SEVENTY DEGREES,QUEEN ROTATED TWO HUNDRED SEVENTY DEGREES",
  "|BLACK CHESS |ROOK ROTATED TWO HUNDRED SEVENTY DEGREES,BISHOP ROTATED TWO HUNDRED SEVENTY DEGREES",
  "|BLACK CHESS |KNIGHT ROTATED TWO HUNDRED SEVENTY DEGREES,PAWN ROTATED TWO HUNDRED SEVENTY DEGREES",
  "|NEUTRAL CHESS |KING ROTATED TWO HUNDRED SEVENTY DEGREES,QUEEN ROTATED TWO HUNDRED SEVENTY DEGREES",
  "|NEUTRAL CHESS |ROOK ROTATED TWO HUNDRED SEVENTY DEGREES,BISHOP ROTATED TWO HUNDRED SEVENTY DEGREES",
  "|NEUTRAL CHESS |KNIGHT ROTATED TWO HUNDRED SEVENTY DEGREES,PAWN ROTATED TWO HUNDRED SEVENTY DEGREES",
  "||WHITE CHESS KNIGHT ROTATED THREE HUNDRED FIFTEEN DEGREES,BLACK CHESS KNIGHT ROTATED THREE HUNDRED FIFTEEN DEGREES",
  "||NEUTRAL CHESS KNIGHT ROTATED THREE HUNDRED FIFTEEN DEGREES,WHITE CHESS EQUIHOPPER",
  "||BLACK CHESS EQUIHOPPER,NEUTRAL CHESS EQUIHOPPER,WHITE CHESS EQUIHOPPER ROTATED NINETY DEGREES",
  "||BLACK CHESS EQUIHOPPER ROTATED NINETY DEGREES,NEUTRAL CHESS EQUIHOPPER ROTATED NINETY DEGREES",
  "|WHITE CHESS KNIGHT-|QUEEN,ROOK,BISHOP",
  "|BLACK CHESS KNIGHT-|QUEEN,ROOK,BISHOP",
  "1FA60|XIANGQI RED |GENERAL,MANDARIN,ELEPHANT,HORSE,CHARIOT,CANNON,SOLDIER",
  "|XIANGQI BLACK |GENERAL,MANDARIN,ELEPHANT,HORSE,CHARIOT,CANNON,SOLDIER",
  "1FA70||BALLET SHOES,ONE-PIECE SWIMSUIT,BRIEFS,SHORTS,THONG SANDAL,,,,DROP OF BLOOD",
  "||ADHESIVE BANDAGE,STETHOSCOPE,X-RAY,CRUTCH,,,,YO-YO,KITE,PARACHUTE,BOOMERANG,MAGIC WAND,PINATA,NESTING DOLLS",
  "1FA90||RINGED PLANET,CHAIR,RAZOR",
  "||AXE,DIYA LAMP,BANJO,MILITARY HELMET,ACCORDION,LONG DRUM,COIN,CARPENTRY SAW,SCREWDRIVER,LADDER,HOOK,MIRROR,WINDOW",
  "||PLUNGER,SEWING NEEDLE,KNOT,BUCKET,MOUSE TRAP,TOOTHBRUSH,HEADSTONE,PLACARD,ROCK,MIRROR BALL,IDENTIFICATION CARD",
  "||LOW BATTERY,HAMSA,,,,FLY,WORM,BEETLE,COCKROACH,POTTED PLANT,WOOD,FEATHER,LOTUS,CORAL,EMPTY NEST,NEST WITH EGGS",
  "1FAC0||ANATOMICAL HEART,LUNGS,PEOPLE HUGGING,PREGNANT MAN,PREGNANT PERSON,PERSON WITH CROWN",
  "1FAD0||BLUEBERRIES,BELL PEPPER,OLIVE,FLATBREAD,TAMALE,FONDUE,TEAPOT,POURING LIQUID,BEANS,JAR",
  "1FAE0||MELTING FACE,SALUTING FACE",
  "|FACE WITH |OPEN EYES AND HAND OVER MOUTH,PEEKING EYE,DIAGONAL MOUTH",
  "||DOTTED LINE FACE,BITING LIP,BUBBLES",
  "1FAF0||HAND WITH INDEX FINGER AND THUMB CROSSED",
  "||RIGHTWARDS HAND,LEFTWARDS HAND,PALM DOWN HAND,PALM UP HAND,INDEX POINTING AT THE VIEWER,HEART HANDS",
  "1FB00|BLOCK SEXTANT-|1,2,12,3,13,23,123,4,14,24,124,34,134,234",
  "|BLOCK SEXTANT-|1234,5,15,25,125,35,235,1235,45,145,245,1245,345,1345,2345,12345,6,16,26,126,36,136,236,1236,46,146",
  "|BLOCK SEXTANT-|1246,346,1346,2346,12346,56,156,256,1256,356,1356,2356,12356,456,1456,2456,12456,3456,13456,23456",
  "|LOWER LEFT BLOCK DIAGONAL LOWER MIDDLE LEFT TO LOWER |CENTRE,RIGHT",
  "|LOWER LEFT BLOCK DIAGONAL UPPER |MIDDLE LEFT TO LOWER CENTRE,MIDDLE LEFT TO LOWER RIGHT,LEFT TO LOWER CENTRE",
  "|LOWER RIGHT BLOCK DIAGONAL UPPER MIDDLE LEFT TO UPPER |CENTRE,RIGHT",
  "|LOWER RIGHT BLOCK DIAGONAL LOWER MIDDLE LEFT TO UPPER |CENTRE,RIGHT",
  "|LOWER RIGHT BLOCK DIAGONAL LOWER |LEFT TO UPPER CENTRE,MIDDLE LEFT TO UPPER MIDDLE RIGHT",
  "|LOWER RIGHT BLOCK DIAGONAL LOWER |CENTRE TO LOWER MIDDLE RIGHT,LEFT TO LOWER MIDDLE RIGHT",
  "|LOWER RIGHT BLOCK DIAGONAL LOWER |CENTRE TO UPPER MIDDLE RIGHT,LEFT TO UPPER MIDDLE RIGHT,CENTRE TO UPPER RIGHT",
  "|LOWER LEFT BLOCK DIAGONAL UPPER |CENTRE TO UPPER MIDDLE RIGHT,LEFT TO UPPER MIDDLE RIGHT",
  "|LOWER LEFT BLOCK DIAGONAL UPPER |CENTRE TO LOWER MIDDLE RIGHT,LEFT TO LOWER MIDDLE RIGHT",
  "|LOWER LEFT BLOCK DIAGONAL UPPER |CENTRE TO LOWER RIGHT,MIDDLE LEFT TO LOWER MIDDLE RIGHT",
  "|UPPER RIGHT BLOCK DIAGONAL LOWER MIDDLE LEFT TO LOWER |CENTRE,RIGHT",
  "|UPPER RIGHT BLOCK DIAGONAL UPPER |MIDDLE LEFT TO LOWER CENTRE,MIDDLE LEFT TO LOWER RIGHT,LEFT TO LOWER CENTRE",
  "|UPPER LEFT BLOCK DIAGONAL UPPER MIDDLE LEFT TO UPPER |CENTRE,RIGHT",
  "|UPPER LEFT BLOCK DIAGONAL LOWER MIDDLE LEFT TO UPPER |CENTRE,RIGHT",
  "|UPPER LEFT BLOCK DIAGONAL LOWER |LEFT TO UPPER CENTRE,MIDDLE LEFT TO UPPER MIDDLE RIGHT",
  "|UPPER LEFT BLOCK DIAGONAL LOWER |CENTRE TO LOWER MIDDLE RIGHT,LEFT TO LOWER MIDDLE RIGHT",
  "|UPPER LEFT BLOCK DIAGONAL LOWER |CENTRE TO UPPER MIDDLE RIGHT,LEFT TO UPPER MIDDLE RIGHT,CENTRE TO UPPER RIGHT",
  "|UPPER RIGHT BLOCK DIAGONAL UPPER |CENTRE TO UPPER MIDDLE RIGHT,LEFT TO UPPER MIDDLE RIGHT",
  "|UPPER RIGHT BLOCK DIAGONAL UPPER |CENTRE TO LOWER MIDDLE RIGHT,LEFT TO LOWER MIDDLE RIGHT",
  "|UPPER RIGHT BLOCK DIAGONAL UPPER |CENTRE TO LOWER RIGHT,MIDDLE LEFT TO LOWER MIDDLE RIGHT",
  "||UPPER AND RIGHT AND LOWER TRIANGULAR THREE QUARTERS BLOCK",
  "||LEFT AND LOWER AND RIGHT TRIANGULAR THREE QUARTERS BLOCK,UPPER AND LEFT AND LOWER TRIANGULAR THREE QUARTERS BLOCK",
  "|LEFT |AND UPPER AND RIGHT TRIANGULAR THREE QUARTERS BLOCK,TRIANGULAR ONE QUARTER BLOCK",
  "||UPPER TRIANGULAR ONE QUARTER BLOCK,RIGHT TRIANGULAR ONE QUARTER BLOCK,LOWER TRIANGULAR ONE QUARTER BLOCK",
  "|VERTICAL ONE EIGHTH BLOCK-|2,3,4,5,6,7",
  "|HORIZONTAL ONE EIGHTH BLOCK-|2,3,4,5,6,7",
  "|LEFT AND |LOWER ONE EIGHTH BLOCK,UPPER ONE EIGHTH BLOCK",
  "|RIGHT AND |UPPER ONE EIGHTH BLOCK,LOWER ONE EIGHTH BLOCK",
  "||UPPER AND LOWER ONE EIGHTH BLOCK,HORIZONTAL ONE EIGHTH BLOCK-1358",
  "|UPPER |ONE QUARTER BLOCK,THREE EIGHTHS BLOCK,FIVE EIGHTHS BLOCK,THREE QUARTERS BLOCK,SEVEN EIGHTHS BLOCK",
  "|RIGHT |ONE QUARTER BLOCK,THREE EIGHTHS BLOCK,FIVE EIGHTHS BLOCK,THREE QUARTERS BLOCK,SEVEN EIGHTHS BLOCK",
  "||LEFT HALF MEDIUM SHADE,RIGHT HALF MEDIUM SHADE,UPPER HALF MEDIUM SHADE",
  "||LOWER HALF MEDIUM SHADE,INVERSE MEDIUM SHADE,UPPER HALF BLOCK AND LOWER HALF INVERSE MEDIUM SHADE",
  "||UPPER HALF INVERSE MEDIUM SHADE AND LOWER HALF BLOCK,,LEFT HALF INVERSE MEDIUM SHADE AND RIGHT HALF BLOCK",
  "||CHECKER BOARD FILL,INVERSE CHECKER BOARD FILL,HEAVY HORIZONTAL FILL",
  "|UPPER |LEFT TO LOWER RIGHT FILL,RIGHT TO LOWER LEFT FILL,AND LOWER TRIANGULAR HALF BLOCK",
  "||LEFT AND RIGHT TRIANGULAR HALF BLOCK,UPPER LEFT TRIANGULAR MEDIUM SHADE,UPPER RIGHT TRIANGULAR MEDIUM SHADE",
  "|LOWER |RIGHT TRIANGULAR MEDIUM SHADE,LEFT TRIANGULAR MEDIUM SHADE",
  "|BOX DRAWINGS LIGHT DIAGONAL UPPER CENTRE TO MIDDLE |LEFT,RIGHT",
  "|BOX DRAWINGS LIGHT DIAGONAL MIDDLE |LEFT TO LOWER CENTRE,RIGHT TO LOWER CENTRE",
  "|BOX DRAWINGS LIGHT DIAGONAL UPPER CENTRE TO MIDDLE |LEFT TO LOWER CENTRE,RIGHT TO LOWER CENTRE",
  "|BOX DRAWINGS LIGHT DIAGONAL MIDDLE LEFT TO |LOWER CENTRE TO MIDDLE RIGHT,UPPER CENTRE TO MIDDLE RIGHT",
  "||BOX DRAWINGS LIGHT DIAGONAL UPPER CENTRE TO MIDDLE LEFT AND MIDDLE RIGHT TO LOWER CENTRE",
  "||BOX DRAWINGS LIGHT DIAGONAL UPPER CENTRE TO MIDDLE RIGHT AND MIDDLE LEFT TO LOWER CENTRE",
  "||BOX DRAWINGS LIGHT DIAGONAL UPPER CENTRE TO MIDDLE RIGHT TO LOWER CENTRE TO MIDDLE LEFT",
  "||BOX DRAWINGS LIGHT DIAGONAL UPPER CENTRE TO MIDDLE LEFT TO LOWER CENTRE TO MIDDLE RIGHT",
  "||BOX DRAWINGS LIGHT DIAGONAL MIDDLE LEFT TO UPPER CENTRE TO MIDDLE RIGHT TO LOWER CENTRE",
  "|BOX DRAWINGS LIGHT DIAGONAL |MIDDLE RIGHT TO UPPER CENTRE TO MIDDLE LEFT TO LOWER CENTRE,DIAMOND",
  "||BOX DRAWINGS LIGHT HORIZONTAL WITH VERTICAL STROKE,ARROWHEAD-SHAPED POINTER",
  "||INVERSE CHECK MARK,LEFT HALF RUNNING MAN,RIGHT HALF RUNNING MAN,INVERSE DOWNWARDS ARROW WITH TIP LEFTWARDS",
  "||LEFTWARDS ARROW AND UPPER AND LOWER ONE EIGHTH BLOCK,RIGHTWARDS ARROW AND UPPER AND LOWER ONE EIGHTH BLOCK",
  "||DOWNWARDS ARROW AND RIGHT ONE EIGHTH BLOCK,UPWARDS ARROW AND RIGHT ONE EIGHTH BLOCK",
  "||LEFT HALF FOLDER,RIGHT HALF FOLDER,VOIDED GREEK CROSS,RIGHT OPEN SQUARED DOT",
  "|NEGATIVE DIAGONAL |CROSS,MIDDLE RIGHT TO LOWER CENTRE,DIAMOND",
  "||WHITE HEAVY SALTIRE WITH ROUNDED CORNERS",
  "||LEFT THIRD WHITE RIGHT POINTING INDEX,MIDDLE THIRD WHITE RIGHT POINTING INDEX",
  "||RIGHT THIRD WHITE RIGHT POINTING INDEX,NEGATIVE SQUARED QUESTION MARK,STICK FIGURE",
  "|STICK FIGURE |WITH ARMS RAISED,LEANING LEFT,LEANING RIGHT,WITH DRESS",
  "||WHITE UP-POINTING CHEVRON",
  "1FBF0|SEGMENTED DIGIT |ZERO,ONE,TWO,THREE,FOUR,FIVE,SIX,SEVEN,EIGHT,NINE",
  "E0001||LANGUAGE TAG",
  "E0020|TAG |SPACE,EXCLAMATION MARK,QUOTATION MARK,NUMBER SIGN,DOLLAR SIGN,PERCENT SIGN,AMPERSAND",
  "|TAG |APOSTROPHE,LEFT PARENTHESIS,RIGHT PARENTHESIS,ASTERISK,PLUS SIGN,COMMA,HYPHEN-MINUS,FULL STOP,SOLIDUS",
  "|TAG DIGIT |ZERO,ONE,TWO,THREE,FOUR,FIVE,SIX,SEVEN,EIGHT,NINE",
  "|TAG |COLON,SEMICOLON,LESS-THAN SIGN,EQUALS SIGN,GREATER-THAN SIGN,QUESTION MARK,COMMERCIAL AT",
  "|TAG LATIN CAPITAL LETTER |A,B,C,D,E,F,G,H,I,J,K,L,M,N,O,P,Q,R,S,T,U,V,W,X,Y,Z",
  "|TAG |LEFT SQUARE BRACKET,REVERSE SOLIDUS,RIGHT SQUARE BRACKET,CIRCUMFLEX ACCENT,LOW LINE,GRAVE ACCENT",
  "|TAG LATIN SMALL LETTER |A,B,C,D,E,F,G,H,I,J,K,L,M,N,O,P,Q,R,S,T,U,V,W,X,Y,Z",
  "|TAG |LEFT CURLY BRACKET,VERTICAL LINE,RIGHT CURLY BRACKET,TILDE",
  "||CANCEL TAG"]

end Linewise.CharacterName
