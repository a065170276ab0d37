/-!
# Names of signs

Punctuation, currencies, arrows, mathematical, technical and geometric signs. Each line
gives a code and the names of the characters from there on; a digit before a name says how many
words it has in common with the name before it.
-/

namespace SnippetRunner.Text.Name

/-- The lines of the names. -/
def signs : List String :=
  [ "2000=EN QUAD,EM QUAD,EN SPACE,EM SPACE,THREE-PER-EM SPACE,FOUR-PER-EM SPACE,SIX-PER-EM SPACE",
    "2007=FIGURE SPACE,PUNCTUATION SPACE,THIN SPACE,HAIR SPACE,ZERO WIDTH SPACE,2NON-JOINER",
    "200d=ZERO WIDTH JOINER,LEFT-TO-RIGHT MARK,RIGHT-TO-LEFT MARK,HYPHEN,NON-BREAKING HYPHEN",
    "2012=FIGURE DASH,EN DASH,EM DASH,HORIZONTAL BAR,DOUBLE VERTICAL LINE,1LOW LINE",
    "2018=LEFT SINGLE QUOTATION MARK,RIGHT SINGLE QUOTATION MARK,SINGLE LOW-9 QUOTATION MARK",
    "201b=SINGLE HIGH-REVERSED-9 QUOTATION MARK,LEFT DOUBLE QUOTATION MARK",
    "201d=RIGHT DOUBLE QUOTATION MARK,DOUBLE LOW-9 QUOTATION MARK,1HIGH-REVERSED-9 QUOTATION MARK",
    "2020=DAGGER,DOUBLE DAGGER,BULLET,TRIANGULAR BULLET,ONE DOT LEADER,TWO DOT LEADER",
    "2026=HORIZONTAL ELLIPSIS,HYPHENATION POINT,LINE SEPARATOR,PARAGRAPH SEPARATOR",
    "202a=LEFT-TO-RIGHT EMBEDDING,RIGHT-TO-LEFT EMBEDDING,POP DIRECTIONAL FORMATTING",
    "202d=LEFT-TO-RIGHT OVERRIDE,RIGHT-TO-LEFT OVERRIDE,NARROW NO-BREAK SPACE,PER MILLE SIGN",
    "2031=PER TEN THOUSAND SIGN,PRIME,DOUBLE PRIME,TRIPLE PRIME,REVERSED PRIME,1DOUBLE PRIME",
    "2037=REVERSED TRIPLE PRIME,CARET,SINGLE LEFT-POINTING ANGLE QUOTATION MARK",
    "203a=SINGLE RIGHT-POINTING ANGLE QUOTATION MARK,REFERENCE MARK,DOUBLE EXCLAMATION MARK",
    "203d=INTERROBANG,OVERLINE,UNDERTIE,CHARACTER TIE,CARET INSERTION POINT,ASTERISM",
    "2043=HYPHEN BULLET,FRACTION SLASH,LEFT SQUARE BRACKET WITH QUILL",
    "2046=RIGHT SQUARE BRACKET WITH QUILL,DOUBLE QUESTION MARK,QUESTION EXCLAMATION MARK",
    "2049=EXCLAMATION QUESTION MARK,TIRONIAN SIGN ET,REVERSED PILCROW SIGN,BLACK LEFTWARDS BULLET",
    "204d=BLACK RIGHTWARDS BULLET,LOW ASTERISK,REVERSED SEMICOLON,CLOSE UP",
    "2051=TWO ASTERISKS ALIGNED VERTICALLY,COMMERCIAL MINUS SIGN,SWUNG DASH,INVERTED UNDERTIE",
    "2055=FLOWER PUNCTUATION MARK,THREE DOT PUNCTUATION,QUADRUPLE PRIME,FOUR DOT PUNCTUATION",
    "2059=FIVE DOT PUNCTUATION,TWO DOT PUNCTUATION,FOUR DOT MARK,DOTTED CROSS,TRICOLON",
    "205e=VERTICAL FOUR DOTS,MEDIUM MATHEMATICAL SPACE,WORD JOINER,FUNCTION APPLICATION",
    "2062=INVISIBLE TIMES,1SEPARATOR,1PLUS",
    "2066=LEFT-TO-RIGHT ISOLATE,RIGHT-TO-LEFT ISOLATE,FIRST STRONG ISOLATE",
    "2069=POP DIRECTIONAL ISOLATE,INHIBIT SYMMETRIC SWAPPING,ACTIVATE SYMMETRIC SWAPPING",
    "206c=INHIBIT ARABIC FORM SHAPING,ACTIVATE ARABIC FORM SHAPING,NATIONAL DIGIT SHAPES",
    "206f=NOMINAL DIGIT SHAPES,SUPERSCRIPT ZERO,1LATIN SMALL LETTER I",
    "2074=SUPERSCRIPT FOUR,1FIVE,1SIX,1SEVEN,1EIGHT,1NINE,1PLUS SIGN,1MINUS,1EQUALS SIGN",
    "207d=SUPERSCRIPT LEFT PARENTHESIS,1RIGHT PARENTHESIS,1LATIN SMALL LETTER N,SUBSCRIPT ZERO",
    "2081=SUBSCRIPT ONE,1TWO,1THREE,1FOUR,1FIVE,1SIX,1SEVEN,1EIGHT,1NINE,1PLUS SIGN,1MINUS",
    "208c=SUBSCRIPT EQUALS SIGN,1LEFT PARENTHESIS,1RIGHT PARENTHESIS",
    "2090=LATIN SUBSCRIPT SMALL LETTER A,4E,4O,4X,4SCHWA,4H,4K,4L,4M,4N,4P,4S,4T",
    "20a0=EURO-CURRENCY SIGN,COLON SIGN,CRUZEIRO SIGN,FRENCH FRANC SIGN,LIRA SIGN,MILL SIGN",
    "20a6=NAIRA SIGN,PESETA SIGN,RUPEE SIGN,WON SIGN,NEW SHEQEL SIGN,DONG SIGN,EURO SIGN,KIP SIGN",
    "20ae=TUGRIK SIGN,DRACHMA SIGN,GERMAN PENNY SIGN,PESO SIGN,GUARANI SIGN,AUSTRAL SIGN",
    "20b4=HRYVNIA SIGN,CEDI SIGN,LIVRE TOURNOIS SIGN,SPESMILO SIGN,TENGE SIGN,INDIAN RUPEE SIGN",
    "20ba=TURKISH LIRA SIGN,NORDIC MARK SIGN,MANAT SIGN,RUBLE SIGN,LARI SIGN,BITCOIN SIGN",
    "20c0=SOM SIGN",
    "20d0=COMBINING LEFT HARPOON ABOVE,1RIGHT HARPOON ABOVE,1LONG VERTICAL LINE OVERLAY",
    "20d3=COMBINING SHORT VERTICAL LINE OVERLAY,1ANTICLOCKWISE ARROW ABOVE,1CLOCKWISE ARROW ABOVE",
    "20d6=COMBINING LEFT ARROW ABOVE,1RIGHT ARROW ABOVE,1RING OVERLAY,1CLOCKWISE RING OVERLAY",
    "20da=COMBINING ANTICLOCKWISE RING OVERLAY,1THREE DOTS ABOVE,1FOUR DOTS ABOVE",
    "20dd=COMBINING ENCLOSING CIRCLE,2SQUARE,2DIAMOND,2CIRCLE BACKSLASH,1LEFT RIGHT ARROW ABOVE",
    "20e2=COMBINING ENCLOSING SCREEN,2KEYCAP,2UPWARD POINTING TRIANGLE,1REVERSE SOLIDUS OVERLAY",
    "20e6=COMBINING DOUBLE VERTICAL STROKE OVERLAY,1ANNUITY SYMBOL,1TRIPLE UNDERDOT",
    "20e9=COMBINING WIDE BRIDGE ABOVE,1LEFTWARDS ARROW OVERLAY,1LONG DOUBLE SOLIDUS OVERLAY",
    "20ec=COMBINING RIGHTWARDS HARPOON WITH BARB DOWNWARDS,1LEFTWARDS HARPOON WITH BARB DOWNWARDS",
    "20ee=COMBINING LEFT ARROW BELOW,1RIGHT ARROW BELOW,1ASTERISK ABOVE",
    "2100=ACCOUNT OF,ADDRESSED TO THE SUBJECT,DOUBLE-STRUCK CAPITAL C,DEGREE CELSIUS",
    "2104=CENTRE LINE SYMBOL,CARE OF,CADA UNA,EULER CONSTANT,SCRUPLE,DEGREE FAHRENHEIT",
    "210a=SCRIPT SMALL G,1CAPITAL H,BLACK-LETTER CAPITAL H,DOUBLE-STRUCK CAPITAL H",
    "210e=PLANCK CONSTANT,2OVER TWO PI,SCRIPT CAPITAL I,BLACK-LETTER CAPITAL I,SCRIPT CAPITAL L",
    "2113=SCRIPT SMALL L,L B BAR SYMBOL,DOUBLE-STRUCK CAPITAL N,NUMERO SIGN",
    "2117=SOUND RECORDING COPYRIGHT,SCRIPT CAPITAL P,DOUBLE-STRUCK CAPITAL P,2Q,SCRIPT CAPITAL R",
    "211c=BLACK-LETTER CAPITAL R,DOUBLE-STRUCK CAPITAL R,PRESCRIPTION TAKE,RESPONSE,SERVICE MARK",
    "2121=TELEPHONE SIGN,TRADE MARK SIGN,VERSICLE,DOUBLE-STRUCK CAPITAL Z,OUNCE SIGN,OHM SIGN",
    "2127=INVERTED OHM SIGN,BLACK-LETTER CAPITAL Z,TURNED GREEK SMALL LETTER IOTA,KELVIN SIGN",
    "212b=ANGSTROM SIGN,SCRIPT CAPITAL B,BLACK-LETTER CAPITAL C,ESTIMATED SYMBOL,SCRIPT SMALL E",
    "2130=SCRIPT CAPITAL E,2F,TURNED CAPITAL F,SCRIPT CAPITAL M,1SMALL O,ALEF SYMBOL,BET SYMBOL",
    "2137=GIMEL SYMBOL,DALET SYMBOL,INFORMATION SOURCE,ROTATED CAPITAL Q,FACSIMILE SIGN",
    "213c=DOUBLE-STRUCK SMALL PI,2GAMMA,1CAPITAL GAMMA,2PI,1N-ARY SUMMATION",
    "2141=TURNED SANS-SERIF CAPITAL G,3L,REVERSED SANS-SERIF CAPITAL L",
    "2144=TURNED SANS-SERIF CAPITAL Y,DOUBLE-STRUCK ITALIC CAPITAL D,2SMALL D,3E,3I,3J",
    "214a=PROPERTY LINE,TURNED AMPERSAND,PER SIGN,AKTIESELSKAB,TURNED SMALL F",
    "214f=SYMBOL FOR SAMARITAN SOURCE,VULGAR FRACTION ONE SEVENTH,3NINTH,3TENTH,3THIRD",
    "2154=VULGAR FRACTION TWO THIRDS,2ONE FIFTH,2TWO FIFTHS,2THREE FIFTHS,2FOUR FIFTHS,2ONE SIXTH",
    "215a=VULGAR FRACTION FIVE SIXTHS,2ONE EIGHTH,2THREE EIGHTHS,2FIVE EIGHTHS,2SEVEN EIGHTHS",
    "215f=FRACTION NUMERATOR ONE,ROMAN NUMERAL ONE,2TWO,2THREE,2FOUR,2FIVE,2SIX,2SEVEN,2EIGHT",
    "2168=ROMAN NUMERAL NINE,2TEN,2ELEVEN,2TWELVE,2FIFTY,2ONE HUNDRED,2FIVE HUNDRED,2ONE THOUSAND",
    "2170=SMALL ROMAN NUMERAL ONE,3TWO,3THREE,3FOUR,3FIVE,3SIX,3SEVEN,3EIGHT,3NINE,3TEN,3ELEVEN",
    "217b=SMALL ROMAN NUMERAL TWELVE,3FIFTY,3ONE HUNDRED,3FIVE HUNDRED,3ONE THOUSAND",
    "2180=ROMAN NUMERAL ONE THOUSAND C D,2FIVE THOUSAND,2TEN THOUSAND,2REVERSED ONE HUNDRED",
    "2184=LATIN SMALL LETTER REVERSED C,ROMAN NUMERAL SIX LATE FORM,2FIFTY EARLY FORM,3THOUSAND",
    "2188=ROMAN NUMERAL ONE HUNDRED THOUSAND,VULGAR FRACTION ZERO THIRDS,TURNED DIGIT TWO,2THREE",
    "2190=LEFTWARDS ARROW,UPWARDS ARROW,RIGHTWARDS ARROW,DOWNWARDS ARROW,LEFT RIGHT ARROW",
    "2195=UP DOWN ARROW,NORTH WEST ARROW,1EAST ARROW,SOUTH EAST ARROW,1WEST ARROW",
    "219a=LEFTWARDS ARROW WITH STROKE,RIGHTWARDS ARROW WITH STROKE,LEFTWARDS WAVE ARROW",
    "219d=RIGHTWARDS WAVE ARROW,LEFTWARDS TWO HEADED ARROW,UPWARDS TWO HEADED ARROW",
    "21a0=RIGHTWARDS TWO HEADED ARROW,DOWNWARDS TWO HEADED ARROW,LEFTWARDS ARROW WITH TAIL",
    "21a3=RIGHTWARDS ARROW WITH TAIL,LEFTWARDS ARROW FROM BAR,UPWARDS ARROW FROM BAR",
    "21a6=RIGHTWARDS ARROW FROM BAR,DOWNWARDS ARROW FROM BAR,UP DOWN ARROW WITH BASE",
    "21a9=LEFTWARDS ARROW WITH HOOK,RIGHTWARDS ARROW WITH HOOK,LEFTWARDS ARROW WITH LOOP",
    "21ac=RIGHTWARDS ARROW WITH LOOP,LEFT RIGHT WAVE ARROW,2ARROW WITH STROKE",
    "21af=DOWNWARDS ZIGZAG ARROW,UPWARDS ARROW WITH TIP LEFTWARDS,4RIGHTWARDS",
    "21b2=DOWNWARDS ARROW WITH TIP LEFTWARDS,4RIGHTWARDS,RIGHTWARDS ARROW WITH CORNER DOWNWARDS",
    "21b5=DOWNWARDS ARROW WITH CORNER LEFTWARDS,ANTICLOCKWISE TOP SEMICIRCLE ARROW",
    "21b7=CLOCKWISE TOP SEMICIRCLE ARROW,NORTH WEST ARROW TO LONG BAR",
    "21b9=LEFTWARDS ARROW TO BAR OVER RIGHTWARDS ARROW TO BAR,ANTICLOCKWISE OPEN CIRCLE ARROW",
    "21bb=CLOCKWISE OPEN CIRCLE ARROW,LEFTWARDS HARPOON WITH BARB UPWARDS,4DOWNWARDS",
    "21be=UPWARDS HARPOON WITH BARB RIGHTWARDS,4LEFTWARDS,RIGHTWARDS HARPOON WITH BARB UPWARDS",
    "21c1=RIGHTWARDS HARPOON WITH BARB DOWNWARDS,DOWNWARDS HARPOON WITH BARB RIGHTWARDS",
    "21c3=DOWNWARDS HARPOON WITH BARB LEFTWARDS,RIGHTWARDS ARROW OVER LEFTWARDS ARROW",
    "21c5=UPWARDS ARROW LEFTWARDS OF DOWNWARDS ARROW,LEFTWARDS ARROW OVER RIGHTWARDS ARROW",
    "21c7=LEFTWARDS PAIRED ARROWS,UPWARDS PAIRED ARROWS,RIGHTWARDS PAIRED ARROWS",
    "21ca=DOWNWARDS PAIRED ARROWS,LEFTWARDS HARPOON OVER RIGHTWARDS HARPOON",
    "21cc=RIGHTWARDS HARPOON OVER LEFTWARDS HARPOON,LEFTWARDS DOUBLE ARROW WITH STROKE",
    "21ce=LEFT RIGHT DOUBLE ARROW WITH STROKE,RIGHTWARDS DOUBLE ARROW WITH STROKE",
    "21d0=LEFTWARDS DOUBLE ARROW,UPWARDS DOUBLE ARROW,RIGHTWARDS DOUBLE ARROW",
    "21d3=DOWNWARDS DOUBLE ARROW,LEFT RIGHT DOUBLE ARROW,UP DOWN DOUBLE ARROW",
    "21d6=NORTH WEST DOUBLE ARROW,1EAST DOUBLE ARROW,SOUTH EAST DOUBLE ARROW,1WEST DOUBLE ARROW",
    "21da=LEFTWARDS TRIPLE ARROW,RIGHTWARDS TRIPLE ARROW,LEFTWARDS SQUIGGLE ARROW",
    "21dd=RIGHTWARDS SQUIGGLE ARROW,UPWARDS ARROW WITH DOUBLE STROKE",
    "21df=DOWNWARDS ARROW WITH DOUBLE STROKE,LEFTWARDS DASHED ARROW,UPWARDS DASHED ARROW",
    "21e2=RIGHTWARDS DASHED ARROW,DOWNWARDS DASHED ARROW,LEFTWARDS ARROW TO BAR",
    "21e5=RIGHTWARDS ARROW TO BAR,LEFTWARDS WHITE ARROW,UPWARDS WHITE ARROW",
    "21e8=RIGHTWARDS WHITE ARROW,DOWNWARDS WHITE ARROW,UPWARDS WHITE ARROW FROM BAR,3ON PEDESTAL",
    "21ec=UPWARDS WHITE ARROW ON PEDESTAL WITH HORIZONTAL BAR,6VERTICAL BAR,2DOUBLE ARROW",
    "21ef=UPWARDS WHITE DOUBLE ARROW ON PEDESTAL,RIGHTWARDS WHITE ARROW FROM WALL",
    "21f1=NORTH WEST ARROW TO CORNER,SOUTH EAST ARROW TO CORNER,UP DOWN WHITE ARROW",
    "21f4=RIGHT ARROW WITH SMALL CIRCLE,DOWNWARDS ARROW LEFTWARDS OF UPWARDS ARROW",
    "21f6=THREE RIGHTWARDS ARROWS,LEFTWARDS ARROW WITH VERTICAL STROKE",
    "21f8=RIGHTWARDS ARROW WITH VERTICAL STROKE,LEFT RIGHT ARROW WITH VERTICAL STROKE",
    "21fa=LEFTWARDS ARROW WITH DOUBLE VERTICAL STROKE",
    "21fb=RIGHTWARDS ARROW WITH DOUBLE VERTICAL STROKE",
    "21fc=LEFT RIGHT ARROW WITH DOUBLE VERTICAL STROKE,LEFTWARDS OPEN-HEADED ARROW",
    "21fe=RIGHTWARDS OPEN-HEADED ARROW,LEFT RIGHT OPEN-HEADED ARROW,FOR ALL,COMPLEMENT",
    "2202=PARTIAL DIFFERENTIAL,THERE EXISTS,1DOES NOT EXIST,EMPTY SET,INCREMENT,NABLA,ELEMENT OF",
    "2209=NOT AN ELEMENT OF,SMALL ELEMENT OF,CONTAINS AS MEMBER,DOES NOT CONTAIN AS MEMBER",
    "220d=SMALL CONTAINS AS MEMBER,END OF PROOF,N-ARY PRODUCT,1COPRODUCT,1SUMMATION,MINUS SIGN",
    "2213=MINUS-OR-PLUS SIGN,DOT PLUS,DIVISION SLASH,SET MINUS,ASTERISK OPERATOR,RING OPERATOR",
    "2219=BULLET OPERATOR,SQUARE ROOT,CUBE ROOT,FOURTH ROOT,PROPORTIONAL TO,INFINITY,RIGHT ANGLE",
    "2220=ANGLE,MEASURED ANGLE,SPHERICAL ANGLE,DIVIDES,DOES NOT DIVIDE,PARALLEL TO",
    "2226=NOT PARALLEL TO,LOGICAL AND,1OR,INTERSECTION,UNION,INTEGRAL,DOUBLE INTEGRAL",
    "222d=TRIPLE INTEGRAL,CONTOUR INTEGRAL,SURFACE INTEGRAL,VOLUME INTEGRAL,CLOCKWISE INTEGRAL",
    "2232=CLOCKWISE CONTOUR INTEGRAL,ANTICLOCKWISE CONTOUR INTEGRAL,THEREFORE,BECAUSE,RATIO",
    "2237=PROPORTION,DOT MINUS,EXCESS,GEOMETRIC PROPORTION,HOMOTHETIC,TILDE OPERATOR",
    "223d=REVERSED TILDE,INVERTED LAZY S,SINE WAVE,WREATH PRODUCT,NOT TILDE,MINUS TILDE",
    "2243=ASYMPTOTICALLY EQUAL TO,NOT ASYMPTOTICALLY EQUAL TO,APPROXIMATELY EQUAL TO",
    "2246=APPROXIMATELY BUT NOT ACTUALLY EQUAL TO,NEITHER APPROXIMATELY NOR ACTUALLY EQUAL TO",
    "2248=ALMOST EQUAL TO,NOT ALMOST EQUAL TO,ALMOST EQUAL OR EQUAL TO,TRIPLE TILDE,ALL EQUAL TO",
    "224d=EQUIVALENT TO,GEOMETRICALLY EQUIVALENT TO,DIFFERENCE BETWEEN,APPROACHES THE LIMIT",
    "2251=GEOMETRICALLY EQUAL TO,APPROXIMATELY EQUAL TO OR THE IMAGE OF",
    "2253=IMAGE OF OR APPROXIMATELY EQUAL TO,COLON EQUALS,EQUALS COLON,RING IN EQUAL TO,1EQUAL TO",
    "2258=CORRESPONDS TO,ESTIMATES,EQUIANGULAR TO,STAR EQUALS,DELTA EQUAL TO",
    "225d=EQUAL TO BY DEFINITION,MEASURED BY,QUESTIONED EQUAL TO,NOT EQUAL TO,IDENTICAL TO",
    "2262=NOT IDENTICAL TO,STRICTLY EQUIVALENT TO,LESS-THAN OR EQUAL TO,GREATER-THAN OR EQUAL TO",
    "2266=LESS-THAN OVER EQUAL TO,GREATER-THAN OVER EQUAL TO,LESS-THAN BUT NOT EQUAL TO",
    "2269=GREATER-THAN BUT NOT EQUAL TO,MUCH LESS-THAN,1GREATER-THAN,BETWEEN,NOT EQUIVALENT TO",
    "226e=NOT LESS-THAN,1GREATER-THAN,NEITHER LESS-THAN NOR EQUAL TO,1GREATER-THAN NOR EQUAL TO",
    "2272=LESS-THAN OR EQUIVALENT TO,GREATER-THAN OR EQUIVALENT TO",
    "2274=NEITHER LESS-THAN NOR EQUIVALENT TO,1GREATER-THAN NOR EQUIVALENT TO",
    "2276=LESS-THAN OR GREATER-THAN,GREATER-THAN OR LESS-THAN,NEITHER LESS-THAN NOR GREATER-THAN",
    "2279=NEITHER GREATER-THAN NOR LESS-THAN,PRECEDES,SUCCEEDS,PRECEDES OR EQUAL TO",
    "227d=SUCCEEDS OR EQUAL TO,PRECEDES OR EQUIVALENT TO,SUCCEEDS OR EQUIVALENT TO",
    "2280=DOES NOT PRECEDE,2SUCCEED,SUBSET OF,SUPERSET OF,NOT A SUBSET OF,2SUPERSET OF",
    "2286=SUBSET OF OR EQUAL TO,SUPERSET OF OR EQUAL TO,NEITHER A SUBSET OF NOR EQUAL TO",
    "2289=NEITHER A SUPERSET OF NOR EQUAL TO,SUBSET OF WITH NOT EQUAL TO",
    "228b=SUPERSET OF WITH NOT EQUAL TO,MULTISET,1MULTIPLICATION,1UNION,SQUARE IMAGE OF",
    "2290=SQUARE ORIGINAL OF,1IMAGE OF OR EQUAL TO,1ORIGINAL OF OR EQUAL TO,1CAP,1CUP",
    "2295=CIRCLED PLUS,1MINUS,1TIMES,1DIVISION SLASH,1DOT OPERATOR,1RING OPERATOR",
    "229b=CIRCLED ASTERISK OPERATOR,1EQUALS,1DASH,SQUARED PLUS,1MINUS,1TIMES,1DOT OPERATOR",
    "22a2=RIGHT TACK,LEFT TACK,DOWN TACK,UP TACK,ASSERTION,MODELS,TRUE,FORCES",
    "22aa=TRIPLE VERTICAL BAR RIGHT TURNSTILE,DOUBLE VERTICAL BAR DOUBLE RIGHT TURNSTILE",
    "22ac=DOES NOT PROVE,NOT TRUE,DOES NOT FORCE",
    "22af=NEGATED DOUBLE VERTICAL BAR DOUBLE RIGHT TURNSTILE,PRECEDES UNDER RELATION",
    "22b1=SUCCEEDS UNDER RELATION,NORMAL SUBGROUP OF,CONTAINS AS NORMAL SUBGROUP",
    "22b4=NORMAL SUBGROUP OF OR EQUAL TO,CONTAINS AS NORMAL SUBGROUP OR EQUAL TO,ORIGINAL OF",
    "22b7=IMAGE OF,MULTIMAP,HERMITIAN CONJUGATE MATRIX,INTERCALATE,XOR,NAND,NOR",
    "22be=RIGHT ANGLE WITH ARC,1TRIANGLE,N-ARY LOGICAL AND,2OR,1INTERSECTION,1UNION",
    "22c4=DIAMOND OPERATOR,DOT OPERATOR,STAR OPERATOR,DIVISION TIMES,BOWTIE",
    "22c9=LEFT NORMAL FACTOR SEMIDIRECT PRODUCT,RIGHT NORMAL FACTOR SEMIDIRECT PRODUCT",
    "22cb=LEFT SEMIDIRECT PRODUCT,RIGHT SEMIDIRECT PRODUCT,REVERSED TILDE EQUALS,CURLY LOGICAL OR",
    "22cf=CURLY LOGICAL AND,DOUBLE SUBSET,1SUPERSET,1INTERSECTION,1UNION,PITCHFORK",
    "22d5=EQUAL AND PARALLEL TO,LESS-THAN WITH DOT,GREATER-THAN WITH DOT,VERY MUCH LESS-THAN",
    "22d9=VERY MUCH GREATER-THAN,LESS-THAN EQUAL TO OR GREATER-THAN",
    "22db=GREATER-THAN EQUAL TO OR LESS-THAN,EQUAL TO OR LESS-THAN,3GREATER-THAN,3PRECEDES",
    "22df=EQUAL TO OR SUCCEEDS,DOES NOT PRECEDE OR EQUAL,2SUCCEED OR EQUAL",
    "22e2=NOT SQUARE IMAGE OF OR EQUAL TO,2ORIGINAL OF OR EQUAL TO",
    "22e4=SQUARE IMAGE OF OR NOT EQUAL TO,1ORIGINAL OF OR NOT EQUAL TO",
    "22e6=LESS-THAN BUT NOT EQUIVALENT TO,GREATER-THAN BUT NOT EQUIVALENT TO",
    "22e8=PRECEDES BUT NOT EQUIVALENT TO,SUCCEEDS BUT NOT EQUIVALENT TO,NOT NORMAL SUBGROUP OF",
    "22eb=DOES NOT CONTAIN AS NORMAL SUBGROUP,NOT NORMAL SUBGROUP OF OR EQUAL TO",
    "22ed=DOES NOT CONTAIN AS NORMAL SUBGROUP OR EQUAL,VERTICAL ELLIPSIS",
    "22ef=MIDLINE HORIZONTAL ELLIPSIS,UP RIGHT DIAGONAL ELLIPSIS,DOWN RIGHT DIAGONAL ELLIPSIS",
    "22f2=ELEMENT OF WITH LONG HORIZONTAL STROKE,3VERTICAL BAR AT END OF HORIZONTAL STROKE",
    "22f4=SMALL ELEMENT OF WITH VERTICAL BAR AT END OF HORIZONTAL STROKE",
    "22f5=ELEMENT OF WITH DOT ABOVE,3OVERBAR,SMALL ELEMENT OF WITH OVERBAR",
    "22f8=ELEMENT OF WITH UNDERBAR,3TWO HORIZONTAL STROKES,CONTAINS WITH LONG HORIZONTAL STROKE",
    "22fb=CONTAINS WITH VERTICAL BAR AT END OF HORIZONTAL STROKE",
    "22fc=SMALL CONTAINS WITH VERTICAL BAR AT END OF HORIZONTAL STROKE,CONTAINS WITH OVERBAR",
    "22fe=SMALL CONTAINS WITH OVERBAR,Z NOTATION BAG MEMBERSHIP,DIAMETER SIGN,ELECTRIC ARROW",
    "2302=HOUSE,UP ARROWHEAD,DOWN ARROWHEAD,PROJECTIVE,PERSPECTIVE,WAVY LINE,LEFT CEILING",
    "2309=RIGHT CEILING,LEFT FLOOR,RIGHT FLOOR,BOTTOM RIGHT CROP,1LEFT CROP,TOP RIGHT CROP",
    "230f=TOP LEFT CROP,REVERSED NOT SIGN,SQUARE LOZENGE,ARC,SEGMENT,SECTOR,TELEPHONE RECORDER",
    "2316=POSITION INDICATOR,VIEWDATA SQUARE,PLACE OF INTEREST SIGN,TURNED NOT SIGN,WATCH",
    "231b=HOURGLASS,TOP LEFT CORNER,1RIGHT CORNER,BOTTOM LEFT CORNER,1RIGHT CORNER",
    "2320=TOP HALF INTEGRAL,BOTTOM HALF INTEGRAL,FROWN,SMILE",
    "2324=UP ARROWHEAD BETWEEN TWO HORIZONTAL BARS,OPTION KEY,ERASE TO THE RIGHT",
    "2327=X IN A RECTANGLE BOX,KEYBOARD,LEFT-POINTING ANGLE BRACKET,RIGHT-POINTING ANGLE BRACKET",
    "232b=ERASE TO THE LEFT,BENZENE RING,CYLINDRICITY,ALL AROUND-PROFILE,SYMMETRY,TOTAL RUNOUT",
    "2331=DIMENSION ORIGIN,CONICAL TAPER,SLOPE,COUNTERBORE,COUNTERSINK",
    "2336=APL FUNCTIONAL SYMBOL I-BEAM,3SQUISH QUAD,3QUAD EQUAL,4DIVIDE,4DIAMOND,4JOT,4CIRCLE",
    "233d=APL FUNCTIONAL SYMBOL CIRCLE STILE,4JOT,3SLASH BAR,3BACKSLASH BAR,3QUAD SLASH",
    "2342=APL FUNCTIONAL SYMBOL QUAD BACKSLASH,4LESS-THAN,4GREATER-THAN,3LEFTWARDS VANE",
    "2346=APL FUNCTIONAL SYMBOL RIGHTWARDS VANE,3QUAD LEFTWARDS ARROW,4RIGHTWARDS ARROW",
    "2349=APL FUNCTIONAL SYMBOL CIRCLE BACKSLASH,3DOWN TACK UNDERBAR,3DELTA STILE",
    "234c=APL FUNCTIONAL SYMBOL QUAD DOWN CARET,4DELTA,3DOWN TACK JOT,3UPWARDS VANE",
    "2350=APL FUNCTIONAL SYMBOL QUAD UPWARDS ARROW,3UP TACK OVERBAR,3DEL STILE,3QUAD UP CARET",
    "2354=APL FUNCTIONAL SYMBOL QUAD DEL,3UP TACK JOT,3DOWNWARDS VANE,3QUAD DOWNWARDS ARROW",
    "2358=APL FUNCTIONAL SYMBOL QUOTE UNDERBAR,3DELTA UNDERBAR,3DIAMOND UNDERBAR,3JOT UNDERBAR",
    "235c=APL FUNCTIONAL SYMBOL CIRCLE UNDERBAR,3UP SHOE JOT,3QUOTE QUAD,3CIRCLE STAR,3QUAD COLON",
    "2361=APL FUNCTIONAL SYMBOL UP TACK DIAERESIS,3DEL DIAERESIS,3STAR DIAERESIS,3JOT DIAERESIS",
    "2365=APL FUNCTIONAL SYMBOL CIRCLE DIAERESIS,3DOWN SHOE STILE,3LEFT SHOE STILE",
    "2368=APL FUNCTIONAL SYMBOL TILDE DIAERESIS,3GREATER-THAN DIAERESIS,3COMMA BAR,3DEL TILDE",
    "236c=APL FUNCTIONAL SYMBOL ZILDE,3STILE TILDE,3SEMICOLON UNDERBAR,3QUAD NOT EQUAL,4QUESTION",
    "2371=APL FUNCTIONAL SYMBOL DOWN CARET TILDE,3UP CARET TILDE,3IOTA,3RHO,3OMEGA",
    "2376=APL FUNCTIONAL SYMBOL ALPHA UNDERBAR,3EPSILON UNDERBAR,3IOTA UNDERBAR,3OMEGA UNDERBAR",
    "237a=APL FUNCTIONAL SYMBOL ALPHA,NOT CHECK MARK,RIGHT ANGLE WITH DOWNWARDS ZIGZAG ARROW",
    "237d=SHOULDERED OPEN BOX,BELL SYMBOL,VERTICAL LINE WITH MIDDLE DOT,INSERTION SYMBOL",
    "2381=CONTINUOUS UNDERLINE SYMBOL,DISCONTINUOUS UNDERLINE SYMBOL,EMPHASIS SYMBOL",
    "2384=COMPOSITION SYMBOL,WHITE SQUARE WITH CENTRE VERTICAL LINE,ENTER SYMBOL",
    "2387=ALTERNATIVE KEY SYMBOL,HELM SYMBOL,CIRCLED HORIZONTAL BAR WITH NOTCH,1TRIANGLE DOWN",
    "238b=BROKEN CIRCLE WITH NORTHWEST ARROW,UNDO SYMBOL,MONOSTABLE SYMBOL,HYSTERESIS SYMBOL",
    "238f=OPEN-CIRCUIT-OUTPUT H-TYPE SYMBOL,1L-TYPE SYMBOL,PASSIVE-PULL-DOWN-OUTPUT SYMBOL",
    "2392=PASSIVE-PULL-UP-OUTPUT SYMBOL,DIRECT CURRENT SYMBOL FORM TWO,SOFTWARE-FUNCTION SYMBOL",
    "2395=APL FUNCTIONAL SYMBOL QUAD,DECIMAL SEPARATOR KEY SYMBOL,PREVIOUS PAGE,NEXT PAGE",
    "2399=PRINT SCREEN SYMBOL,CLEAR SCREEN SYMBOL,LEFT PARENTHESIS UPPER HOOK,2EXTENSION",
    "239d=LEFT PARENTHESIS LOWER HOOK,RIGHT PARENTHESIS UPPER HOOK,2EXTENSION,2LOWER HOOK",
    "23a1=LEFT SQUARE BRACKET UPPER CORNER,3EXTENSION,3LOWER CORNER",
    "23a4=RIGHT SQUARE BRACKET UPPER CORNER,3EXTENSION,3LOWER CORNER",
    "23a7=LEFT CURLY BRACKET UPPER HOOK,3MIDDLE PIECE,3LOWER HOOK,CURLY BRACKET EXTENSION",
    "23ab=RIGHT CURLY BRACKET UPPER HOOK,3MIDDLE PIECE,3LOWER HOOK,INTEGRAL EXTENSION",
    "23af=HORIZONTAL LINE EXTENSION,UPPER LEFT OR LOWER RIGHT CURLY BRACKET SECTION",
    "23b1=UPPER RIGHT OR LOWER LEFT CURLY BRACKET SECTION,SUMMATION TOP,1BOTTOM",
    "23b4=TOP SQUARE BRACKET,BOTTOM SQUARE BRACKET,3OVER TOP SQUARE BRACKET,RADICAL SYMBOL BOTTOM",
    "23b8=LEFT VERTICAL BOX LINE,RIGHT VERTICAL BOX LINE,HORIZONTAL SCAN LINE-1,2LINE-3,2LINE-7",
    "23bd=HORIZONTAL SCAN LINE-9,DENTISTRY SYMBOL LIGHT VERTICAL AND TOP RIGHT,5BOTTOM RIGHT",
    "23c0=DENTISTRY SYMBOL LIGHT VERTICAL WITH CIRCLE,3DOWN AND HORIZONTAL WITH CIRCLE",
    "23c2=DENTISTRY SYMBOL LIGHT UP AND HORIZONTAL WITH CIRCLE,3VERTICAL WITH TRIANGLE",
    "23c4=DENTISTRY SYMBOL LIGHT DOWN AND HORIZONTAL WITH TRIANGLE",
    "23c5=DENTISTRY SYMBOL LIGHT UP AND HORIZONTAL WITH TRIANGLE,3VERTICAL AND WAVE",
    "23c7=DENTISTRY SYMBOL LIGHT DOWN AND HORIZONTAL WITH WAVE,3UP AND HORIZONTAL WITH WAVE",
    "23c9=DENTISTRY SYMBOL LIGHT DOWN AND HORIZONTAL,3UP AND HORIZONTAL,3VERTICAL AND TOP LEFT",
    "23cc=DENTISTRY SYMBOL LIGHT VERTICAL AND BOTTOM LEFT,SQUARE FOOT,RETURN SYMBOL,EJECT SYMBOL",
    "23d0=VERTICAL LINE EXTENSION,METRICAL BREVE,1LONG OVER SHORT,1SHORT OVER LONG",
    "23d4=METRICAL LONG OVER TWO SHORTS,1TWO SHORTS OVER LONG,3JOINED,1TRISEME,1TETRASEME",
    "23d9=METRICAL PENTASEME,EARTH GROUND,FUSE,TOP PARENTHESIS,BOTTOM PARENTHESIS",
    "23de=TOP CURLY BRACKET,BOTTOM CURLY BRACKET,TOP TORTOISE SHELL BRACKET",
    "23e1=BOTTOM TORTOISE SHELL BRACKET,WHITE TRAPEZIUM,BENZENE RING WITH CIRCLE,STRAIGHTNESS",
    "23e5=FLATNESS,AC CURRENT,ELECTRICAL INTERSECTION,DECIMAL EXPONENT SYMBOL",
    "23e9=BLACK RIGHT-POINTING DOUBLE TRIANGLE,1LEFT-POINTING DOUBLE TRIANGLE",
    "23eb=BLACK UP-POINTING DOUBLE TRIANGLE,1DOWN-POINTING DOUBLE TRIANGLE",
    "23ed=BLACK RIGHT-POINTING DOUBLE TRIANGLE WITH VERTICAL BAR",
    "23ee=BLACK LEFT-POINTING DOUBLE TRIANGLE WITH VERTICAL BAR",
    "23ef=BLACK RIGHT-POINTING TRIANGLE WITH DOUBLE VERTICAL BAR,ALARM CLOCK,STOPWATCH",
    "23f2=TIMER CLOCK,HOURGLASS WITH FLOWING SAND,BLACK MEDIUM LEFT-POINTING TRIANGLE",
    "23f5=BLACK MEDIUM RIGHT-POINTING TRIANGLE,2UP-POINTING TRIANGLE,2DOWN-POINTING TRIANGLE",
    "23f8=DOUBLE VERTICAL BAR,BLACK SQUARE FOR STOP,1CIRCLE FOR RECORD,POWER SYMBOL",
    "23fc=POWER ON-OFF SYMBOL,1ON SYMBOL,1SLEEP SYMBOL,OBSERVER EYE SYMBOL,SYMBOL FOR NULL",
    "2401=SYMBOL FOR START OF HEADING,4TEXT,2END OF TEXT,4TRANSMISSION,2ENQUIRY,2ACKNOWLEDGE",
    "2407=SYMBOL FOR BELL,2BACKSPACE,2HORIZONTAL TABULATION,2LINE FEED,2VERTICAL TABULATION",
    "240c=SYMBOL FOR FORM FEED,2CARRIAGE RETURN,2SHIFT OUT,3IN,2DATA LINK ESCAPE",
    "2411=SYMBOL FOR DEVICE CONTROL ONE,4TWO,4THREE,4FOUR,2NEGATIVE ACKNOWLEDGE,2SYNCHRONOUS IDLE",
    "2417=SYMBOL FOR END OF TRANSMISSION BLOCK,2CANCEL,2END OF MEDIUM,2SUBSTITUTE,2ESCAPE",
    "241c=SYMBOL FOR FILE SEPARATOR,2GROUP SEPARATOR,2RECORD SEPARATOR,2UNIT SEPARATOR,2SPACE",
    "2421=SYMBOL FOR DELETE,BLANK SYMBOL,OPEN BOX,SYMBOL FOR NEWLINE,2DELETE FORM TWO",
    "2426=SYMBOL FOR SUBSTITUTE FORM TWO",
    "2440=OCR HOOK,1CHAIR,1FORK,1INVERTED FORK,1BELT BUCKLE,1BOW TIE,1BRANCH BANK IDENTIFICATION",
    "2447=OCR AMOUNT OF CHECK,1DASH,1CUSTOMER ACCOUNT NUMBER,1DOUBLE BACKSLASH",
    "2460=CIRCLED DIGIT ONE,2TWO,2THREE,2FOUR,2FIVE,2SIX,2SEVEN,2EIGHT,2NINE,1NUMBER TEN,2ELEVEN",
    "246b=CIRCLED NUMBER TWELVE,2THIRTEEN,2FOURTEEN,2FIFTEEN,2SIXTEEN,2SEVENTEEN,2EIGHTEEN",
    "2472=CIRCLED NUMBER NINETEEN,2TWENTY,PARENTHESIZED DIGIT ONE,2TWO,2THREE,2FOUR,2FIVE,2SIX",
    "247a=PARENTHESIZED DIGIT SEVEN,2EIGHT,2NINE,1NUMBER TEN,2ELEVEN,2TWELVE,2THIRTEEN,2FOURTEEN",
    "2482=PARENTHESIZED NUMBER FIFTEEN,2SIXTEEN,2SEVENTEEN,2EIGHTEEN,2NINETEEN,2TWENTY",
    "2488=DIGIT ONE FULL STOP,1TWO FULL STOP,1THREE FULL STOP,1FOUR FULL STOP,1FIVE FULL STOP",
    "248d=DIGIT SIX FULL STOP,1SEVEN FULL STOP,1EIGHT FULL STOP,1NINE FULL STOP",
    "2491=NUMBER TEN FULL STOP,1ELEVEN FULL STOP,1TWELVE FULL STOP,1THIRTEEN FULL STOP",
    "2495=NUMBER FOURTEEN FULL STOP,1FIFTEEN FULL STOP,1SIXTEEN FULL STOP,1SEVENTEEN FULL STOP",
    "2499=NUMBER EIGHTEEN FULL STOP,1NINETEEN FULL STOP,1TWENTY FULL STOP",
    "249c=PARENTHESIZED LATIN SMALL LETTER A,4B,4C,4D,4E,4F,4G,4H,4I,4J,4K,4L,4M,4N,4O,4P,4Q,4R",
    "24ae=PARENTHESIZED LATIN SMALL LETTER S,4T,4U,4V,4W,4X,4Y,4Z,CIRCLED LATIN CAPITAL LETTER A",
    "24b7=CIRCLED LATIN CAPITAL LETTER B,4C,4D,4E,4F,4G,4H,4I,4J,4K,4L,4M,4N,4O,4P,4Q,4R,4S,4T,4U",
    "24cb=CIRCLED LATIN CAPITAL LETTER V,4W,4X,4Y,4Z,2SMALL LETTER A,4B,4C,4D,4E,4F,4G,4H,4I,4J",
    "24da=CIRCLED LATIN SMALL LETTER K,4L,4M,4N,4O,4P,4Q,4R,4S,4T,4U,4V,4W,4X,4Y,4Z,1DIGIT ZERO",
    "24eb=NEGATIVE CIRCLED NUMBER ELEVEN,3TWELVE,3THIRTEEN,3FOURTEEN,3FIFTEEN,3SIXTEEN,3SEVENTEEN",
    "24f2=NEGATIVE CIRCLED NUMBER EIGHTEEN,3NINETEEN,3TWENTY,DOUBLE CIRCLED DIGIT ONE,3TWO,3THREE",
    "24f8=DOUBLE CIRCLED DIGIT FOUR,3FIVE,3SIX,3SEVEN,3EIGHT,3NINE,2NUMBER TEN",
    "24ff=NEGATIVE CIRCLED DIGIT ZERO,BOX DRAWINGS LIGHT HORIZONTAL,2HEAVY HORIZONTAL",
    "2502=BOX DRAWINGS LIGHT VERTICAL,2HEAVY VERTICAL,2LIGHT TRIPLE DASH HORIZONTAL",
    "2505=BOX DRAWINGS HEAVY TRIPLE DASH HORIZONTAL,2LIGHT TRIPLE DASH VERTICAL",
    "2507=BOX DRAWINGS HEAVY TRIPLE DASH VERTICAL,2LIGHT QUADRUPLE DASH HORIZONTAL",
    "2509=BOX DRAWINGS HEAVY QUADRUPLE DASH HORIZONTAL,2LIGHT QUADRUPLE DASH VERTICAL",
    "250b=BOX DRAWINGS HEAVY QUADRUPLE DASH VERTICAL,2LIGHT DOWN AND RIGHT",
    "250d=BOX DRAWINGS DOWN LIGHT AND RIGHT HEAVY,3HEAVY AND RIGHT LIGHT,2HEAVY DOWN AND RIGHT",
    "2510=BOX DRAWINGS LIGHT DOWN AND LEFT,2DOWN LIGHT AND LEFT HEAVY,3HEAVY AND LEFT LIGHT",
    "2513=BOX DRAWINGS HEAVY DOWN AND LEFT,2LIGHT UP AND RIGHT,2UP LIGHT AND RIGHT HEAVY",
    "2516=BOX DRAWINGS UP HEAVY AND RIGHT LIGHT,2HEAVY UP AND RIGHT,2LIGHT UP AND LEFT",
    "2519=BOX DRAWINGS UP LIGHT AND LEFT HEAVY,3HEAVY AND LEFT LIGHT,2HEAVY UP AND LEFT",
    "251c=BOX DRAWINGS LIGHT VERTICAL AND RIGHT,2VERTICAL LIGHT AND RIGHT HEAVY",
    "251e=BOX DRAWINGS UP HEAVY AND RIGHT DOWN LIGHT,2DOWN HEAVY AND RIGHT UP LIGHT",
    "2520=BOX DRAWINGS VERTICAL HEAVY AND RIGHT LIGHT,2DOWN LIGHT AND RIGHT UP HEAVY",
    "2522=BOX DRAWINGS UP LIGHT AND RIGHT DOWN HEAVY,2HEAVY VERTICAL AND RIGHT",
    "2524=BOX DRAWINGS LIGHT VERTICAL AND LEFT,2VERTICAL LIGHT AND LEFT HEAVY",
    "2526=BOX DRAWINGS UP HEAVY AND LEFT DOWN LIGHT,2DOWN HEAVY AND LEFT UP LIGHT",
    "2528=BOX DRAWINGS VERTICAL HEAVY AND LEFT LIGHT,2DOWN LIGHT AND LEFT UP HEAVY",
    "252a=BOX DRAWINGS UP LIGHT AND LEFT DOWN HEAVY,2HEAVY VERTICAL AND LEFT",
    "252c=BOX DRAWINGS LIGHT DOWN AND HORIZONTAL,2LEFT HEAVY AND RIGHT DOWN LIGHT",
    "252e=BOX DRAWINGS RIGHT HEAVY AND LEFT DOWN LIGHT,2DOWN LIGHT AND HORIZONTAL HEAVY",
    "2530=BOX DRAWINGS DOWN HEAVY AND HORIZONTAL LIGHT,2RIGHT LIGHT AND LEFT DOWN HEAVY",
    "2532=BOX DRAWINGS LEFT LIGHT AND RIGHT DOWN HEAVY,2HEAVY DOWN AND HORIZONTAL",
    "2534=BOX DRAWINGS LIGHT UP AND HORIZONTAL,2LEFT HEAVY AND RIGHT UP LIGHT",
    "2536=BOX DRAWINGS RIGHT HEAVY AND LEFT UP LIGHT,2UP LIGHT AND HORIZONTAL HEAVY",
    "2538=BOX DRAWINGS UP HEAVY AND HORIZONTAL LIGHT,2RIGHT LIGHT AND LEFT UP HEAVY",
    "253a=BOX DRAWINGS LEFT LIGHT AND RIGHT UP HEAVY,2HEAVY UP AND HORIZONTAL",
    "253c=BOX DRAWINGS LIGHT VERTICAL AND HORIZONTAL,2LEFT HEAVY AND RIGHT VERTICAL LIGHT",
    "253e=BOX DRAWINGS RIGHT HEAVY AND LEFT VERTICAL LIGHT,2VERTICAL LIGHT AND HORIZONTAL HEAVY",
    "2540=BOX DRAWINGS UP HEAVY AND DOWN HORIZONTAL LIGHT,2DOWN HEAVY AND UP HORIZONTAL LIGHT",
    "2542=BOX DRAWINGS VERTICAL HEAVY AND HORIZONTAL LIGHT,2LEFT UP HEAVY AND RIGHT DOWN LIGHT",
    "2544=BOX DRAWINGS RIGHT UP HEAVY AND LEFT DOWN LIGHT,2LEFT DOWN HEAVY AND RIGHT UP LIGHT",
    "2546=BOX DRAWINGS RIGHT DOWN HEAVY AND LEFT UP LIGHT,2DOWN LIGHT AND UP HORIZONTAL HEAVY",
    "2548=BOX DRAWINGS UP LIGHT AND DOWN HORIZONTAL HEAVY,2RIGHT LIGHT AND LEFT VERTICAL HEAVY",
    "254a=BOX DRAWINGS LEFT LIGHT AND RIGHT VERTICAL HEAVY,2HEAVY VERTICAL AND HORIZONTAL",
    "254c=BOX DRAWINGS LIGHT DOUBLE DASH HORIZONTAL,2HEAVY DOUBLE DASH HORIZONTAL",
    "254e=BOX DRAWINGS LIGHT DOUBLE DASH VERTICAL,2HEAVY DOUBLE DASH VERTICAL,2DOUBLE HORIZONTAL",
    "2551=BOX DRAWINGS DOUBLE VERTICAL,2DOWN SINGLE AND RIGHT DOUBLE,3DOUBLE AND RIGHT SINGLE",
    "2554=BOX DRAWINGS DOUBLE DOWN AND RIGHT,2DOWN SINGLE AND LEFT DOUBLE,3DOUBLE AND LEFT SINGLE",
    "2557=BOX DRAWINGS DOUBLE DOWN AND LEFT,2UP SINGLE AND RIGHT DOUBLE,3DOUBLE AND RIGHT SINGLE",
    "255a=BOX DRAWINGS DOUBLE UP AND RIGHT,2UP SINGLE AND LEFT DOUBLE,3DOUBLE AND LEFT SINGLE",
    "255d=BOX DRAWINGS DOUBLE UP AND LEFT,2VERTICAL SINGLE AND RIGHT DOUBLE",
    "255f=BOX DRAWINGS VERTICAL DOUBLE AND RIGHT SINGLE,2DOUBLE VERTICAL AND RIGHT",
    "2561=BOX DRAWINGS VERTICAL SINGLE AND LEFT DOUBLE,3DOUBLE AND LEFT SINGLE",
    "2563=BOX DRAWINGS DOUBLE VERTICAL AND LEFT,2DOWN SINGLE AND HORIZONTAL DOUBLE",
    "2565=BOX DRAWINGS DOWN DOUBLE AND HORIZONTAL SINGLE,2DOUBLE DOWN AND HORIZONTAL",
    "2567=BOX DRAWINGS UP SINGLE AND HORIZONTAL DOUBLE,3DOUBLE AND HORIZONTAL SINGLE",
    "2569=BOX DRAWINGS DOUBLE UP AND HORIZONTAL,2VERTICAL SINGLE AND HORIZONTAL DOUBLE",
    "256b=BOX DRAWINGS VERTICAL DOUBLE AND HORIZONTAL SINGLE,2DOUBLE VERTICAL AND HORIZONTAL",
    "256d=BOX DRAWINGS LIGHT ARC DOWN AND RIGHT,6LEFT,4UP AND LEFT,6RIGHT",
    "2571=BOX DRAWINGS LIGHT DIAGONAL UPPER RIGHT TO LOWER LEFT,5LEFT TO LOWER RIGHT,4CROSS,3LEFT",
    "2575=BOX DRAWINGS LIGHT UP,3RIGHT,3DOWN,2HEAVY LEFT,3UP,3RIGHT,3DOWN",
    "257c=BOX DRAWINGS LIGHT LEFT AND HEAVY RIGHT,3UP AND HEAVY DOWN,2HEAVY LEFT AND LIGHT RIGHT",
    "257f=BOX DRAWINGS HEAVY UP AND LIGHT DOWN,UPPER HALF BLOCK,LOWER ONE EIGHTH BLOCK",
    "2582=LOWER ONE QUARTER BLOCK,1THREE EIGHTHS BLOCK,1HALF BLOCK,1FIVE EIGHTHS BLOCK",
    "2586=LOWER THREE QUARTERS BLOCK,1SEVEN EIGHTHS BLOCK,FULL BLOCK,LEFT SEVEN EIGHTHS BLOCK",
    "258a=LEFT THREE QUARTERS BLOCK,1FIVE EIGHTHS BLOCK,1HALF BLOCK,1THREE EIGHTHS BLOCK",
    "258e=LEFT ONE QUARTER BLOCK,2EIGHTH BLOCK,RIGHT HALF BLOCK,LIGHT SHADE,MEDIUM SHADE",
    "2593=DARK SHADE,UPPER ONE EIGHTH BLOCK,RIGHT ONE EIGHTH BLOCK,QUADRANT LOWER LEFT,2RIGHT",
    "2598=QUADRANT UPPER LEFT,3AND LOWER LEFT AND LOWER RIGHT,5RIGHT,4UPPER RIGHT AND LOWER LEFT",
    "259c=QUADRANT UPPER LEFT AND UPPER RIGHT AND LOWER RIGHT,2RIGHT,3AND LOWER LEFT",
    "259f=QUADRANT UPPER RIGHT AND LOWER LEFT AND LOWER RIGHT,BLACK SQUARE,WHITE SQUARE",
    "25a2=WHITE SQUARE WITH ROUNDED CORNERS,2CONTAINING BLACK SMALL SQUARE",
    "25a4=SQUARE WITH HORIZONTAL FILL,2VERTICAL FILL,2ORTHOGONAL CROSSHATCH FILL",
    "25a7=SQUARE WITH UPPER LEFT TO LOWER RIGHT FILL,3RIGHT TO LOWER LEFT FILL",
    "25a9=SQUARE WITH DIAGONAL CROSSHATCH FILL,BLACK SMALL SQUARE,WHITE SMALL SQUARE",
    "25ac=BLACK RECTANGLE,WHITE RECTANGLE,BLACK VERTICAL RECTANGLE,WHITE VERTICAL RECTANGLE",
    "25b0=BLACK PARALLELOGRAM,WHITE PARALLELOGRAM,BLACK UP-POINTING TRIANGLE",
    "25b3=WHITE UP-POINTING TRIANGLE,BLACK UP-POINTING SMALL TRIANGLE",
    "25b5=WHITE UP-POINTING SMALL TRIANGLE,BLACK RIGHT-POINTING TRIANGLE",
    "25b7=WHITE RIGHT-POINTING TRIANGLE,BLACK RIGHT-POINTING SMALL TRIANGLE",
    "25b9=WHITE RIGHT-POINTING SMALL TRIANGLE,BLACK RIGHT-POINTING POINTER",
    "25bb=WHITE RIGHT-POINTING POINTER,BLACK DOWN-POINTING TRIANGLE,WHITE DOWN-POINTING TRIANGLE",
    "25be=BLACK DOWN-POINTING SMALL TRIANGLE,WHITE DOWN-POINTING SMALL TRIANGLE",
    "25c0=BLACK LEFT-POINTING TRIANGLE,WHITE LEFT-POINTING TRIANGLE",
    "25c2=BLACK LEFT-POINTING SMALL TRIANGLE,WHITE LEFT-POINTING SMALL TRIANGLE",
    "25c4=BLACK LEFT-POINTING POINTER,WHITE LEFT-POINTING POINTER,BLACK DIAMOND,WHITE DIAMOND",
    "25c8=WHITE DIAMOND CONTAINING BLACK SMALL DIAMOND,FISHEYE,LOZENGE,WHITE CIRCLE,DOTTED CIRCLE",
    "25cd=CIRCLE WITH VERTICAL FILL,BULLSEYE,BLACK CIRCLE,CIRCLE WITH LEFT HALF BLACK",
    "25d1=CIRCLE WITH RIGHT HALF BLACK,2LOWER HALF BLACK,2UPPER HALF BLACK,3RIGHT QUADRANT BLACK",
    "25d5=CIRCLE WITH ALL BUT UPPER LEFT QUADRANT BLACK,LEFT HALF BLACK CIRCLE",
    "25d7=RIGHT HALF BLACK CIRCLE,INVERSE BULLET,1WHITE CIRCLE,UPPER HALF INVERSE WHITE CIRCLE",
    "25db=LOWER HALF INVERSE WHITE CIRCLE,UPPER LEFT QUADRANT CIRCULAR ARC",
    "25dd=UPPER RIGHT QUADRANT CIRCULAR ARC,LOWER RIGHT QUADRANT CIRCULAR ARC",
    "25df=LOWER LEFT QUADRANT CIRCULAR ARC,UPPER HALF CIRCLE,LOWER HALF CIRCLE",
    "25e2=BLACK LOWER RIGHT TRIANGLE,2LEFT TRIANGLE,1UPPER LEFT TRIANGLE,2RIGHT TRIANGLE",
    "25e6=WHITE BULLET,SQUARE WITH LEFT HALF BLACK,2RIGHT HALF BLACK",
    "25e9=SQUARE WITH UPPER LEFT DIAGONAL HALF BLACK,2LOWER RIGHT DIAGONAL HALF BLACK",
    "25eb=WHITE SQUARE WITH VERTICAL BISECTING LINE,1UP-POINTING TRIANGLE WITH DOT",
    "25ed=UP-POINTING TRIANGLE WITH LEFT HALF BLACK,3RIGHT HALF BLACK,LARGE CIRCLE",
    "25f0=WHITE SQUARE WITH UPPER LEFT QUADRANT,3LOWER LEFT QUADRANT,4RIGHT QUADRANT",
    "25f3=WHITE SQUARE WITH UPPER RIGHT QUADRANT,1CIRCLE WITH UPPER LEFT QUADRANT",
    "25f5=WHITE CIRCLE WITH LOWER LEFT QUADRANT,4RIGHT QUADRANT,3UPPER RIGHT QUADRANT",
    "25f8=UPPER LEFT TRIANGLE,1RIGHT TRIANGLE,LOWER LEFT TRIANGLE,WHITE MEDIUM SQUARE",
    "25fc=BLACK MEDIUM SQUARE,WHITE MEDIUM SMALL SQUARE,BLACK MEDIUM SMALL SQUARE",
    "25ff=LOWER RIGHT TRIANGLE,BLACK SUN WITH RAYS,CLOUD,UMBRELLA,SNOWMAN,COMET,BLACK STAR",
    "2606=WHITE STAR,LIGHTNING,THUNDERSTORM,SUN,ASCENDING NODE,DESCENDING NODE,CONJUNCTION",
    "260d=OPPOSITION,BLACK TELEPHONE,WHITE TELEPHONE,BALLOT BOX,2WITH CHECK,3X,SALTIRE",
    "2614=UMBRELLA WITH RAIN DROPS,HOT BEVERAGE,WHITE SHOGI PIECE,BLACK SHOGI PIECE,SHAMROCK",
    "2619=REVERSED ROTATED FLORAL HEART BULLET,BLACK LEFT POINTING INDEX,1RIGHT POINTING INDEX",
    "261c=WHITE LEFT POINTING INDEX,1UP POINTING INDEX,1RIGHT POINTING INDEX,1DOWN POINTING INDEX",
    "2620=SKULL AND CROSSBONES,CAUTION SIGN,RADIOACTIVE SIGN,BIOHAZARD SIGN,CADUCEUS,ANKH",
    "2626=ORTHODOX CROSS,CHI RHO,CROSS OF LORRAINE,2JERUSALEM,STAR AND CRESCENT,FARSI SYMBOL",
    "262c=ADI SHAKTI,HAMMER AND SICKLE,PEACE SYMBOL,YIN YANG,TRIGRAM FOR HEAVEN,2LAKE,2FIRE",
    "2633=TRIGRAM FOR THUNDER,2WIND,2WATER,2MOUNTAIN,2EARTH,WHEEL OF DHARMA,WHITE FROWNING FACE",
    "263a=WHITE SMILING FACE,BLACK SMILING FACE,WHITE SUN WITH RAYS,FIRST QUARTER MOON",
    "263e=LAST QUARTER MOON,MERCURY,FEMALE SIGN,EARTH,MALE SIGN,JUPITER,SATURN,URANUS,NEPTUNE",
    "2647=PLUTO,ARIES,TAURUS,GEMINI,CANCER,LEO,VIRGO,LIBRA,SCORPIUS,SAGITTARIUS,CAPRICORN",
    "2652=AQUARIUS,PISCES,WHITE CHESS KING,2QUEEN,2ROOK,2BISHOP,2KNIGHT,2PAWN,BLACK CHESS KING",
    "265b=BLACK CHESS QUEEN,2ROOK,2BISHOP,2KNIGHT,2PAWN,1SPADE SUIT,WHITE HEART SUIT",
    "2662=WHITE DIAMOND SUIT,BLACK CLUB SUIT,WHITE SPADE SUIT,BLACK HEART SUIT,1DIAMOND SUIT",
    "2667=WHITE CLUB SUIT,HOT SPRINGS,QUARTER NOTE,EIGHTH NOTE,BEAMED EIGHTH NOTES",
    "266c=BEAMED SIXTEENTH NOTES,MUSIC FLAT SIGN,1NATURAL SIGN,1SHARP SIGN,WEST SYRIAC CROSS",
    "2671=EAST SYRIAC CROSS,UNIVERSAL RECYCLING SYMBOL,RECYCLING SYMBOL FOR TYPE-1 PLASTICS",
    "2674=RECYCLING SYMBOL FOR TYPE-2 PLASTICS,3TYPE-3 PLASTICS,3TYPE-4 PLASTICS,3TYPE-5 PLASTICS",
    "2678=RECYCLING SYMBOL FOR TYPE-6 PLASTICS,3TYPE-7 PLASTICS,3GENERIC MATERIALS",
    "267b=BLACK UNIVERSAL RECYCLING SYMBOL,RECYCLED PAPER SYMBOL,PARTIALLY-RECYCLED PAPER SYMBOL",
    "267e=PERMANENT PAPER SIGN,WHEELCHAIR SYMBOL,DIE FACE-1,1FACE-2,1FACE-3,1FACE-4,1FACE-5",
    "2685=DIE FACE-6,WHITE CIRCLE WITH DOT RIGHT,3TWO DOTS,BLACK CIRCLE WITH WHITE DOT RIGHT",
    "2689=BLACK CIRCLE WITH TWO WHITE DOTS,MONOGRAM FOR YANG,2YIN,DIGRAM FOR GREATER YANG",
    "268d=DIGRAM FOR LESSER YIN,3YANG,2GREATER YIN,WHITE FLAG,BLACK FLAG,HAMMER AND PICK,ANCHOR",
    "2694=CROSSED SWORDS,STAFF OF AESCULAPIUS,SCALES,ALEMBIC,FLOWER,GEAR,STAFF OF HERMES",
    "269b=ATOM SYMBOL,FLEUR-DE-LIS,OUTLINED WHITE STAR,THREE LINES CONVERGING RIGHT,3LEFT",
    "26a0=WARNING SIGN,HIGH VOLTAGE SIGN,DOUBLED FEMALE SIGN,1MALE SIGN",
    "26a4=INTERLOCKED FEMALE AND MALE SIGN,MALE AND FEMALE SIGN,1WITH STROKE SIGN",
    "26a7=MALE WITH STROKE AND MALE AND FEMALE SIGN,VERTICAL MALE WITH STROKE SIGN",
    "26a9=HORIZONTAL MALE WITH STROKE SIGN,MEDIUM WHITE CIRCLE,1BLACK CIRCLE,1SMALL WHITE CIRCLE",
    "26ad=MARRIAGE SYMBOL,DIVORCE SYMBOL,UNMARRIED PARTNERSHIP SYMBOL,COFFIN,FUNERAL URN,NEUTER",
    "26b3=CERES,PALLAS,JUNO,VESTA,CHIRON,BLACK MOON LILITH,SEXTILE,SEMISEXTILE,QUINCUNX",
    "26bc=SESQUIQUADRATE,SOCCER BALL,BASEBALL,SQUARED KEY,WHITE DRAUGHTS MAN,2KING",
    "26c2=BLACK DRAUGHTS MAN,2KING,SNOWMAN WITHOUT SNOW,SUN BEHIND CLOUD,RAIN,BLACK SNOWMAN",
    "26c8=THUNDER CLOUD AND RAIN,TURNED WHITE SHOGI PIECE,1BLACK SHOGI PIECE",
    "26cb=WHITE DIAMOND IN SQUARE,CROSSING LANES,DISABLED CAR,OPHIUCHUS,PICK,CAR SLIDING",
    "26d1=HELMET WITH WHITE CROSS,CIRCLED CROSSING LANES,CHAINS,NO ENTRY",
    "26d5=ALTERNATE ONE-WAY LEFT WAY TRAFFIC,BLACK TWO-WAY LEFT WAY TRAFFIC",
    "26d7=WHITE TWO-WAY LEFT WAY TRAFFIC,BLACK LEFT LANE MERGE,WHITE LEFT LANE MERGE",
    "26da=DRIVE SLOW SIGN,HEAVY WHITE DOWN-POINTING TRIANGLE,LEFT CLOSED ENTRY,SQUARED SALTIRE",
    "26de=FALLING DIAGONAL IN WHITE CIRCLE IN BLACK SQUARE,BLACK TRUCK,RESTRICTED LEFT ENTRY-1",
    "26e1=RESTRICTED LEFT ENTRY-2,ASTRONOMICAL SYMBOL FOR URANUS",
    "26e3=HEAVY CIRCLE WITH STROKE AND TWO DOTS ABOVE,PENTAGRAM,RIGHT-HANDED INTERLACED PENTAGRAM",
    "26e6=LEFT-HANDED INTERLACED PENTAGRAM,INVERTED PENTAGRAM,BLACK CROSS ON SHIELD,SHINTO SHRINE",
    "26ea=CHURCH,CASTLE,HISTORIC SITE,GEAR WITHOUT HUB,1WITH HANDLES,MAP SYMBOL FOR LIGHTHOUSE",
    "26f0=MOUNTAIN,UMBRELLA ON GROUND,FOUNTAIN,FLAG IN HOLE,FERRY,SAILBOAT,SQUARE FOUR CORNERS",
    "26f7=SKIER,ICE SKATE,PERSON WITH BALL,TENT,JAPANESE BANK SYMBOL,HEADSTONE GRAVEYARD SYMBOL",
    "26fd=FUEL PUMP,CUP ON BLACK SQUARE,WHITE FLAG WITH HORIZONTAL MIDDLE BLACK STRIPE",
    "2700=BLACK SAFETY SCISSORS,UPPER BLADE SCISSORS,BLACK SCISSORS,LOWER BLADE SCISSORS",
    "2704=WHITE SCISSORS,1HEAVY CHECK MARK,TELEPHONE LOCATION SIGN,TAPE DRIVE,AIRPLANE,ENVELOPE",
    "270a=RAISED FIST,1HAND,VICTORY HAND,WRITING HAND,LOWER RIGHT PENCIL,PENCIL",
    "2710=UPPER RIGHT PENCIL,WHITE NIB,BLACK NIB,CHECK MARK,HEAVY CHECK MARK,MULTIPLICATION X",
    "2716=HEAVY MULTIPLICATION X,BALLOT X,HEAVY BALLOT X,OUTLINED GREEK CROSS,HEAVY GREEK CROSS",
    "271b=OPEN CENTRE CROSS,HEAVY OPEN CENTRE CROSS,LATIN CROSS,SHADOWED WHITE LATIN CROSS",
    "271f=OUTLINED LATIN CROSS,MALTESE CROSS,STAR OF DAVID,FOUR TEARDROP-SPOKED ASTERISK",
    "2723=FOUR BALLOON-SPOKED ASTERISK,HEAVY FOUR BALLOON-SPOKED ASTERISK",
    "2725=FOUR CLUB-SPOKED ASTERISK,BLACK FOUR POINTED STAR,WHITE FOUR POINTED STAR,SPARKLES",
    "2729=STRESS OUTLINED WHITE STAR,CIRCLED WHITE STAR,OPEN CENTRE BLACK STAR",
    "272c=BLACK CENTRE WHITE STAR,OUTLINED BLACK STAR,HEAVY OUTLINED BLACK STAR,PINWHEEL STAR",
    "2730=SHADOWED WHITE STAR,HEAVY ASTERISK,OPEN CENTRE ASTERISK,EIGHT SPOKED ASTERISK",
    "2734=EIGHT POINTED BLACK STAR,2PINWHEEL STAR,SIX POINTED BLACK STAR",
    "2737=EIGHT POINTED RECTILINEAR BLACK STAR,HEAVY EIGHT POINTED RECTILINEAR BLACK STAR",
    "2739=TWELVE POINTED BLACK STAR,SIXTEEN POINTED ASTERISK,TEARDROP-SPOKED ASTERISK",
    "273c=OPEN CENTRE TEARDROP-SPOKED ASTERISK,HEAVY TEARDROP-SPOKED ASTERISK",
    "273e=SIX PETALLED BLACK AND WHITE FLORETTE,BLACK FLORETTE,WHITE FLORETTE",
    "2741=EIGHT PETALLED OUTLINED BLACK FLORETTE,CIRCLED OPEN CENTRE EIGHT POINTED STAR",
    "2743=HEAVY TEARDROP-SPOKED PINWHEEL ASTERISK,SNOWFLAKE,TIGHT TRIFOLIATE SNOWFLAKE",
    "2746=HEAVY CHEVRON SNOWFLAKE,SPARKLE,HEAVY SPARKLE,BALLOON-SPOKED ASTERISK",
    "274a=EIGHT TEARDROP-SPOKED PROPELLER ASTERISK,HEAVY EIGHT TEARDROP-SPOKED PROPELLER ASTERISK",
    "274c=CROSS MARK,SHADOWED WHITE CIRCLE,NEGATIVE SQUARED CROSS MARK",
    "274f=LOWER RIGHT DROP-SHADOWED WHITE SQUARE,UPPER RIGHT DROP-SHADOWED WHITE SQUARE",
    "2751=LOWER RIGHT SHADOWED WHITE SQUARE,UPPER RIGHT SHADOWED WHITE SQUARE",
    "2753=BLACK QUESTION MARK ORNAMENT,WHITE QUESTION MARK ORNAMENT,1EXCLAMATION MARK ORNAMENT",
    "2756=BLACK DIAMOND MINUS WHITE X,HEAVY EXCLAMATION MARK SYMBOL,LIGHT VERTICAL BAR",
    "2759=MEDIUM VERTICAL BAR,HEAVY VERTICAL BAR,1SINGLE TURNED COMMA QUOTATION MARK ORNAMENT",
    "275c=HEAVY SINGLE COMMA QUOTATION MARK ORNAMENT,1DOUBLE TURNED COMMA QUOTATION MARK ORNAMENT",
    "275e=HEAVY DOUBLE COMMA QUOTATION MARK ORNAMENT,1LOW SINGLE COMMA QUOTATION MARK ORNAMENT",
    "2760=HEAVY LOW DOUBLE COMMA QUOTATION MARK ORNAMENT,CURVED STEM PARAGRAPH SIGN ORNAMENT",
    "2762=HEAVY EXCLAMATION MARK ORNAMENT,1HEART EXCLAMATION MARK ORNAMENT,1BLACK HEART",
    "2765=ROTATED HEAVY BLACK HEART BULLET,FLORAL HEART,ROTATED FLORAL HEART BULLET",
    "2768=MEDIUM LEFT PARENTHESIS ORNAMENT,1RIGHT PARENTHESIS ORNAMENT",
    "276a=MEDIUM FLATTENED LEFT PARENTHESIS ORNAMENT,2RIGHT PARENTHESIS ORNAMENT",
    "276c=MEDIUM LEFT-POINTING ANGLE BRACKET ORNAMENT,1RIGHT-POINTING ANGLE BRACKET ORNAMENT",
    "276e=HEAVY LEFT-POINTING ANGLE QUOTATION MARK ORNAMENT",
    "276f=HEAVY RIGHT-POINTING ANGLE QUOTATION MARK ORNAMENT",
    "2770=HEAVY LEFT-POINTING ANGLE BRACKET ORNAMENT,1RIGHT-POINTING ANGLE BRACKET ORNAMENT",
    "2772=LIGHT LEFT TORTOISE SHELL BRACKET ORNAMENT,1RIGHT TORTOISE SHELL BRACKET ORNAMENT",
    "2774=MEDIUM LEFT CURLY BRACKET ORNAMENT,1RIGHT CURLY BRACKET ORNAMENT",
    "2776=DINGBAT NEGATIVE CIRCLED DIGIT ONE,4TWO,4THREE,4FOUR,4FIVE,4SIX,4SEVEN,4EIGHT,4NINE",
    "277f=DINGBAT NEGATIVE CIRCLED NUMBER TEN,1CIRCLED SANS-SERIF DIGIT ONE,4TWO,4THREE,4FOUR",
    "2784=DINGBAT CIRCLED SANS-SERIF DIGIT FIVE,4SIX,4SEVEN,4EIGHT,4NINE,3NUMBER TEN",
    "278a=DINGBAT NEGATIVE CIRCLED SANS-SERIF DIGIT ONE,5TWO,5THREE,5FOUR,5FIVE,5SIX,5SEVEN",
    "2791=DINGBAT NEGATIVE CIRCLED SANS-SERIF DIGIT EIGHT,5NINE,4NUMBER TEN",
    "2794=HEAVY WIDE-HEADED RIGHTWARDS ARROW,1PLUS SIGN,1MINUS SIGN,1DIVISION SIGN",
    "2798=HEAVY SOUTH EAST ARROW,1RIGHTWARDS ARROW,1NORTH EAST ARROW",
    "279b=DRAFTING POINT RIGHTWARDS ARROW,HEAVY ROUND-TIPPED RIGHTWARDS ARROW",
    "279d=TRIANGLE-HEADED RIGHTWARDS ARROW,HEAVY TRIANGLE-HEADED RIGHTWARDS ARROW",
    "279f=DASHED TRIANGLE-HEADED RIGHTWARDS ARROW,HEAVY DASHED TRIANGLE-HEADED RIGHTWARDS ARROW",
    "27a1=BLACK RIGHTWARDS ARROW,THREE-D TOP-LIGHTED RIGHTWARDS ARROWHEAD",
    "27a3=THREE-D BOTTOM-LIGHTED RIGHTWARDS ARROWHEAD,BLACK RIGHTWARDS ARROWHEAD",
    "27a5=HEAVY BLACK CURVED DOWNWARDS AND RIGHTWARDS ARROW,3UPWARDS AND RIGHTWARDS ARROW",
    "27a7=SQUAT BLACK RIGHTWARDS ARROW,HEAVY CONCAVE-POINTED BLACK RIGHTWARDS ARROW",
    "27a9=RIGHT-SHADED WHITE RIGHTWARDS ARROW,LEFT-SHADED WHITE RIGHTWARDS ARROW",
    "27ab=BACK-TILTED SHADOWED WHITE RIGHTWARDS ARROW",
    "27ac=FRONT-TILTED SHADOWED WHITE RIGHTWARDS ARROW",
    "27ad=HEAVY LOWER RIGHT-SHADOWED WHITE RIGHTWARDS ARROW",
    "27ae=HEAVY UPPER RIGHT-SHADOWED WHITE RIGHTWARDS ARROW",
    "27af=NOTCHED LOWER RIGHT-SHADOWED WHITE RIGHTWARDS ARROW,CURLY LOOP",
    "27b1=NOTCHED UPPER RIGHT-SHADOWED WHITE RIGHTWARDS ARROW",
    "27b2=CIRCLED HEAVY WHITE RIGHTWARDS ARROW,WHITE-FEATHERED RIGHTWARDS ARROW",
    "27b4=BLACK-FEATHERED SOUTH EAST ARROW,1RIGHTWARDS ARROW,1NORTH EAST ARROW",
    "27b7=HEAVY BLACK-FEATHERED SOUTH EAST ARROW,2RIGHTWARDS ARROW,2NORTH EAST ARROW",
    "27ba=TEARDROP-BARBED RIGHTWARDS ARROW,HEAVY TEARDROP-SHANKED RIGHTWARDS ARROW",
    "27bc=WEDGE-TAILED RIGHTWARDS ARROW,HEAVY WEDGE-TAILED RIGHTWARDS ARROW",
    "27be=OPEN-OUTLINED RIGHTWARDS ARROW,DOUBLE CURLY LOOP,THREE DIMENSIONAL ANGLE",
    "27c1=WHITE TRIANGLE CONTAINING SMALL WHITE TRIANGLE,PERPENDICULAR,OPEN SUBSET,1SUPERSET",
    "27c5=LEFT S-SHAPED BAG DELIMITER,RIGHT S-SHAPED BAG DELIMITER,OR WITH DOT INSIDE",
    "27c8=REVERSE SOLIDUS PRECEDING SUBSET,SUPERSET PRECEDING SOLIDUS",
    "27ca=VERTICAL BAR WITH HORIZONTAL STROKE,MATHEMATICAL RISING DIAGONAL,LONG DIVISION",
    "27cd=MATHEMATICAL FALLING DIAGONAL,SQUARED LOGICAL AND,2OR,WHITE DIAMOND WITH CENTRED DOT",
    "27d1=AND WITH DOT,ELEMENT OF OPENING UPWARDS,LOWER RIGHT CORNER WITH DOT",
    "27d4=UPPER LEFT CORNER WITH DOT,LEFT OUTER JOIN,RIGHT OUTER JOIN,FULL OUTER JOIN",
    "27d8=LARGE UP TACK,1DOWN TACK,LEFT AND RIGHT DOUBLE TURNSTILE,3TACK,1MULTIMAP",
    "27dd=LONG RIGHT TACK,1LEFT TACK,UP TACK WITH CIRCLE ABOVE,LOZENGE DIVIDED BY HORIZONTAL RULE",
    "27e1=WHITE CONCAVE-SIDED DIAMOND,3WITH LEFTWARDS TICK,4RIGHTWARDS TICK",
    "27e4=WHITE SQUARE WITH LEFTWARDS TICK,3RIGHTWARDS TICK",
    "27e6=MATHEMATICAL LEFT WHITE SQUARE BRACKET,1RIGHT WHITE SQUARE BRACKET,1LEFT ANGLE BRACKET",
    "27e9=MATHEMATICAL RIGHT ANGLE BRACKET,1LEFT DOUBLE ANGLE BRACKET,1RIGHT DOUBLE ANGLE BRACKET",
    "27ec=MATHEMATICAL LEFT WHITE TORTOISE SHELL BRACKET,1RIGHT WHITE TORTOISE SHELL BRACKET",
    "27ee=MATHEMATICAL LEFT FLATTENED PARENTHESIS,1RIGHT FLATTENED PARENTHESIS",
    "27f0=UPWARDS QUADRUPLE ARROW,DOWNWARDS QUADRUPLE ARROW,ANTICLOCKWISE GAPPED CIRCLE ARROW",
    "27f3=CLOCKWISE GAPPED CIRCLE ARROW,RIGHT ARROW WITH CIRCLED PLUS,LONG LEFTWARDS ARROW",
    "27f6=LONG RIGHTWARDS ARROW,1LEFT RIGHT ARROW,1LEFTWARDS DOUBLE ARROW",
    "27f9=LONG RIGHTWARDS DOUBLE ARROW,1LEFT RIGHT DOUBLE ARROW,1LEFTWARDS ARROW FROM BAR",
    "27fc=LONG RIGHTWARDS ARROW FROM BAR,1LEFTWARDS DOUBLE ARROW FROM BAR",
    "27fe=LONG RIGHTWARDS DOUBLE ARROW FROM BAR,2SQUIGGLE ARROW,BRAILLE PATTERN BLANK,2DOTS-1",
    "2802=BRAILLE PATTERN DOTS-2,2DOTS-12,2DOTS-3,2DOTS-13,2DOTS-23,2DOTS-123,2DOTS-4,2DOTS-14",
    "280a=BRAILLE PATTERN DOTS-24,2DOTS-124,2DOTS-34,2DOTS-134,2DOTS-234,2DOTS-1234,2DOTS-5",
    "2811=BRAILLE PATTERN DOTS-15,2DOTS-25,2DOTS-125,2DOTS-35,2DOTS-135,2DOTS-235,2DOTS-1235",
    "2818=BRAILLE PATTERN DOTS-45,2DOTS-145,2DOTS-245,2DOTS-1245,2DOTS-345,2DOTS-1345,2DOTS-2345",
    "281f=BRAILLE PATTERN DOTS-12345,2DOTS-6,2DOTS-16,2DOTS-26,2DOTS-126,2DOTS-36,2DOTS-136",
    "2826=BRAILLE PATTERN DOTS-236,2DOTS-1236,2DOTS-46,2DOTS-146,2DOTS-246,2DOTS-1246,2DOTS-346",
    "282d=BRAILLE PATTERN DOTS-1346,2DOTS-2346,2DOTS-12346,2DOTS-56,2DOTS-156,2DOTS-256",
    "2833=BRAILLE PATTERN DOTS-1256,2DOTS-356,2DOTS-1356,2DOTS-2356,2DOTS-12356,2DOTS-456",
    "2839=BRAILLE PATTERN DOTS-1456,2DOTS-2456,2DOTS-12456,2DOTS-3456,2DOTS-13456,2DOTS-23456",
    "283f=BRAILLE PATTERN DOTS-123456,2DOTS-7,2DOTS-17,2DOTS-27,2DOTS-127,2DOTS-37,2DOTS-137",
    "2846=BRAILLE PATTERN DOTS-237,2DOTS-1237,2DOTS-47,2DOTS-147,2DOTS-247,2DOTS-1247,2DOTS-347",
    "284d=BRAILLE PATTERN DOTS-1347,2DOTS-2347,2DOTS-12347,2DOTS-57,2DOTS-157,2DOTS-257",
    "2853=BRAILLE PATTERN DOTS-1257,2DOTS-357,2DOTS-1357,2DOTS-2357,2DOTS-12357,2DOTS-457",
    "2859=BRAILLE PATTERN DOTS-1457,2DOTS-2457,2DOTS-12457,2DOTS-3457,2DOTS-13457,2DOTS-23457",
    "285f=BRAILLE PATTERN DOTS-123457,2DOTS-67,2DOTS-167,2DOTS-267,2DOTS-1267,2DOTS-367",
    "2865=BRAILLE PATTERN DOTS-1367,2DOTS-2367,2DOTS-12367,2DOTS-467,2DOTS-1467,2DOTS-2467",
    "286b=BRAILLE PATTERN DOTS-12467,2DOTS-3467,2DOTS-13467,2DOTS-23467,2DOTS-123467,2DOTS-567",
    "2871=BRAILLE PATTERN DOTS-1567,2DOTS-2567,2DOTS-12567,2DOTS-3567,2DOTS-13567,2DOTS-23567",
    "2877=BRAILLE PATTERN DOTS-123567,2DOTS-4567,2DOTS-14567,2DOTS-24567,2DOTS-124567,2DOTS-34567",
    "287d=BRAILLE PATTERN DOTS-134567,2DOTS-234567,2DOTS-1234567,2DOTS-8,2DOTS-18,2DOTS-28",
    "2883=BRAILLE PATTERN DOTS-128,2DOTS-38,2DOTS-138,2DOTS-238,2DOTS-1238,2DOTS-48,2DOTS-148",
    "288a=BRAILLE PATTERN DOTS-248,2DOTS-1248,2DOTS-348,2DOTS-1348,2DOTS-2348,2DOTS-12348",
    "2890=BRAILLE PATTERN DOTS-58,2DOTS-158,2DOTS-258,2DOTS-1258,2DOTS-358,2DOTS-1358,2DOTS-2358",
    "2897=BRAILLE PATTERN DOTS-12358,2DOTS-458,2DOTS-1458,2DOTS-2458,2DOTS-12458,2DOTS-3458",
    "289d=BRAILLE PATTERN DOTS-13458,2DOTS-23458,2DOTS-123458,2DOTS-68,2DOTS-168,2DOTS-268",
    "28a3=BRAILLE PATTERN DOTS-1268,2DOTS-368,2DOTS-1368,2DOTS-2368,2DOTS-12368,2DOTS-468",
    "28a9=BRAILLE PATTERN DOTS-1468,2DOTS-2468,2DOTS-12468,2DOTS-3468,2DOTS-13468,2DOTS-23468",
    "28af=BRAILLE PATTERN DOTS-123468,2DOTS-568,2DOTS-1568,2DOTS-2568,2DOTS-12568,2DOTS-3568",
    "28b5=BRAILLE PATTERN DOTS-13568,2DOTS-23568,2DOTS-123568,2DOTS-4568,2DOTS-14568,2DOTS-24568",
    "28bb=BRAILLE PATTERN DOTS-124568,2DOTS-34568,2DOTS-134568,2DOTS-234568,2DOTS-1234568",
    "28c0=BRAILLE PATTERN DOTS-78,2DOTS-178,2DOTS-278,2DOTS-1278,2DOTS-378,2DOTS-1378,2DOTS-2378",
    "28c7=BRAILLE PATTERN DOTS-12378,2DOTS-478,2DOTS-1478,2DOTS-2478,2DOTS-12478,2DOTS-3478",
    "28cd=BRAILLE PATTERN DOTS-13478,2DOTS-23478,2DOTS-123478,2DOTS-578,2DOTS-1578,2DOTS-2578",
    "28d3=BRAILLE PATTERN DOTS-12578,2DOTS-3578,2DOTS-13578,2DOTS-23578,2DOTS-123578,2DOTS-4578",
    "28d9=BRAILLE PATTERN DOTS-14578,2DOTS-24578,2DOTS-124578,2DOTS-34578,2DOTS-134578",
    "28de=BRAILLE PATTERN DOTS-234578,2DOTS-1234578,2DOTS-678,2DOTS-1678,2DOTS-2678,2DOTS-12678",
    "28e4=BRAILLE PATTERN DOTS-3678,2DOTS-13678,2DOTS-23678,2DOTS-123678,2DOTS-4678,2DOTS-14678",
    "28ea=BRAILLE PATTERN DOTS-24678,2DOTS-124678,2DOTS-34678,2DOTS-134678,2DOTS-234678",
    "28ef=BRAILLE PATTERN DOTS-1234678,2DOTS-5678,2DOTS-15678,2DOTS-25678,2DOTS-125678",
    "28f4=BRAILLE PATTERN DOTS-35678,2DOTS-135678,2DOTS-235678,2DOTS-1235678,2DOTS-45678",
    "28f9=BRAILLE PATTERN DOTS-145678,2DOTS-245678,2DOTS-1245678,2DOTS-345678,2DOTS-1345678",
    "28fe=BRAILLE PATTERN DOTS-2345678,2DOTS-12345678",
    "2900=RIGHTWARDS TWO-HEADED ARROW WITH VERTICAL STROKE,4DOUBLE VERTICAL STROKE",
    "2902=LEFTWARDS DOUBLE ARROW WITH VERTICAL STROKE",
    "2903=RIGHTWARDS DOUBLE ARROW WITH VERTICAL STROKE",
    "2904=LEFT RIGHT DOUBLE ARROW WITH VERTICAL STROKE,RIGHTWARDS TWO-HEADED ARROW FROM BAR",
    "2906=LEFTWARDS DOUBLE ARROW FROM BAR,RIGHTWARDS DOUBLE ARROW FROM BAR",
    "2908=DOWNWARDS ARROW WITH HORIZONTAL STROKE,UPWARDS ARROW WITH HORIZONTAL STROKE",
    "290a=UPWARDS TRIPLE ARROW,DOWNWARDS TRIPLE ARROW,LEFTWARDS DOUBLE DASH ARROW",
    "290d=RIGHTWARDS DOUBLE DASH ARROW,LEFTWARDS TRIPLE DASH ARROW,RIGHTWARDS TRIPLE DASH ARROW",
    "2910=RIGHTWARDS TWO-HEADED TRIPLE DASH ARROW,1ARROW WITH DOTTED STEM,UPWARDS ARROW TO BAR",
    "2913=DOWNWARDS ARROW TO BAR,RIGHTWARDS ARROW WITH TAIL WITH VERTICAL STROKE",
    "2915=RIGHTWARDS ARROW WITH TAIL WITH DOUBLE VERTICAL STROKE,1TWO-HEADED ARROW WITH TAIL",
    "2917=RIGHTWARDS TWO-HEADED ARROW WITH TAIL WITH VERTICAL STROKE,6DOUBLE VERTICAL STROKE",
    "2919=LEFTWARDS ARROW-TAIL,RIGHTWARDS ARROW-TAIL,LEFTWARDS DOUBLE ARROW-TAIL",
    "291c=RIGHTWARDS DOUBLE ARROW-TAIL,LEFTWARDS ARROW TO BLACK DIAMOND",
    "291e=RIGHTWARDS ARROW TO BLACK DIAMOND,LEFTWARDS ARROW FROM BAR TO BLACK DIAMOND",
    "2920=RIGHTWARDS ARROW FROM BAR TO BLACK DIAMOND,NORTH WEST AND SOUTH EAST ARROW",
    "2922=NORTH EAST AND SOUTH WEST ARROW,1WEST ARROW WITH HOOK,1EAST ARROW WITH HOOK",
    "2925=SOUTH EAST ARROW WITH HOOK,1WEST ARROW WITH HOOK,NORTH WEST ARROW AND NORTH EAST ARROW",
    "2928=NORTH EAST ARROW AND SOUTH EAST ARROW,SOUTH EAST ARROW AND SOUTH WEST ARROW",
    "292a=SOUTH WEST ARROW AND NORTH WEST ARROW,RISING DIAGONAL CROSSING FALLING DIAGONAL",
    "292c=FALLING DIAGONAL CROSSING RISING DIAGONAL,SOUTH EAST ARROW CROSSING NORTH EAST ARROW",
    "292e=NORTH EAST ARROW CROSSING SOUTH EAST ARROW,FALLING DIAGONAL CROSSING NORTH EAST ARROW",
    "2930=RISING DIAGONAL CROSSING SOUTH EAST ARROW,NORTH EAST ARROW CROSSING NORTH WEST ARROW",
    "2932=NORTH WEST ARROW CROSSING NORTH EAST ARROW,WAVE ARROW POINTING DIRECTLY RIGHT",
    "2934=ARROW POINTING RIGHTWARDS THEN CURVING UPWARDS,5DOWNWARDS",
    "2936=ARROW POINTING DOWNWARDS THEN CURVING LEFTWARDS,5RIGHTWARDS",
    "2938=RIGHT-SIDE ARC CLOCKWISE ARROW,LEFT-SIDE ARC ANTICLOCKWISE ARROW",
    "293a=TOP ARC ANTICLOCKWISE ARROW,BOTTOM ARC ANTICLOCKWISE ARROW",
    "293c=TOP ARC CLOCKWISE ARROW WITH MINUS,2ANTICLOCKWISE ARROW WITH PLUS",
    "293e=LOWER RIGHT SEMICIRCULAR CLOCKWISE ARROW,1LEFT SEMICIRCULAR ANTICLOCKWISE ARROW",
    "2940=ANTICLOCKWISE CLOSED CIRCLE ARROW,CLOCKWISE CLOSED CIRCLE ARROW",
    "2942=RIGHTWARDS ARROW ABOVE SHORT LEFTWARDS ARROW",
    "2943=LEFTWARDS ARROW ABOVE SHORT RIGHTWARDS ARROW",
    "2944=SHORT RIGHTWARDS ARROW ABOVE LEFTWARDS ARROW,RIGHTWARDS ARROW WITH PLUS BELOW",
    "2946=LEFTWARDS ARROW WITH PLUS BELOW,RIGHTWARDS ARROW THROUGH X",
    "2948=LEFT RIGHT ARROW THROUGH SMALL CIRCLE,UPWARDS TWO-HEADED ARROW FROM SMALL CIRCLE",
    "294a=LEFT BARB UP RIGHT BARB DOWN HARPOON,2DOWN RIGHT BARB UP HARPOON",
    "294c=UP BARB RIGHT DOWN BARB LEFT HARPOON,2LEFT DOWN BARB RIGHT HARPOON",
    "294e=LEFT BARB UP RIGHT BARB UP HARPOON,UP BARB RIGHT DOWN BARB RIGHT HARPOON",
    "2950=LEFT BARB DOWN RIGHT BARB DOWN HARPOON,UP BARB LEFT DOWN BARB LEFT HARPOON",
    "2952=LEFTWARDS HARPOON WITH BARB UP TO BAR,RIGHTWARDS HARPOON WITH BARB UP TO BAR",
    "2954=UPWARDS HARPOON WITH BARB RIGHT TO BAR,DOWNWARDS HARPOON WITH BARB RIGHT TO BAR",
    "2956=LEFTWARDS HARPOON WITH BARB DOWN TO BAR,RIGHTWARDS HARPOON WITH BARB DOWN TO BAR",
    "2958=UPWARDS HARPOON WITH BARB LEFT TO BAR,DOWNWARDS HARPOON WITH BARB LEFT TO BAR",
    "295a=LEFTWARDS HARPOON WITH BARB UP FROM BAR,RIGHTWARDS HARPOON WITH BARB UP FROM BAR",
    "295c=UPWARDS HARPOON WITH BARB RIGHT FROM BAR,DOWNWARDS HARPOON WITH BARB RIGHT FROM BAR",
    "295e=LEFTWARDS HARPOON WITH BARB DOWN FROM BAR,RIGHTWARDS HARPOON WITH BARB DOWN FROM BAR",
    "2960=UPWARDS HARPOON WITH BARB LEFT FROM BAR,DOWNWARDS HARPOON WITH BARB LEFT FROM BAR",
    "2962=LEFTWARDS HARPOON WITH BARB UP ABOVE LEFTWARDS HARPOON WITH BARB DOWN",
    "2963=UPWARDS HARPOON WITH BARB LEFT BESIDE UPWARDS HARPOON WITH BARB RIGHT",
    "2964=RIGHTWARDS HARPOON WITH BARB UP ABOVE RIGHTWARDS HARPOON WITH BARB DOWN",
    "2965=DOWNWARDS HARPOON WITH BARB LEFT BESIDE DOWNWARDS HARPOON WITH BARB RIGHT",
    "2966=LEFTWARDS HARPOON WITH BARB UP ABOVE RIGHTWARDS HARPOON WITH BARB UP",
    "2967=LEFTWARDS HARPOON WITH BARB DOWN ABOVE RIGHTWARDS HARPOON WITH BARB DOWN",
    "2968=RIGHTWARDS HARPOON WITH BARB UP ABOVE LEFTWARDS HARPOON WITH BARB UP",
    "2969=RIGHTWARDS HARPOON WITH BARB DOWN ABOVE LEFTWARDS HARPOON WITH BARB DOWN",
    "296a=LEFTWARDS HARPOON WITH BARB UP ABOVE LONG DASH,4DOWN BELOW LONG DASH",
    "296c=RIGHTWARDS HARPOON WITH BARB UP ABOVE LONG DASH,4DOWN BELOW LONG DASH",
    "296e=UPWARDS HARPOON WITH BARB LEFT BESIDE DOWNWARDS HARPOON WITH BARB RIGHT",
    "296f=DOWNWARDS HARPOON WITH BARB LEFT BESIDE UPWARDS HARPOON WITH BARB RIGHT",
    "2970=RIGHT DOUBLE ARROW WITH ROUNDED HEAD,EQUALS SIGN ABOVE RIGHTWARDS ARROW",
    "2972=TILDE OPERATOR ABOVE RIGHTWARDS ARROW,LEFTWARDS ARROW ABOVE TILDE OPERATOR",
    "2974=RIGHTWARDS ARROW ABOVE TILDE OPERATOR,3ALMOST EQUAL TO,LESS-THAN ABOVE LEFTWARDS ARROW",
    "2977=LEFTWARDS ARROW THROUGH LESS-THAN,GREATER-THAN ABOVE RIGHTWARDS ARROW",
    "2979=SUBSET ABOVE RIGHTWARDS ARROW,LEFTWARDS ARROW THROUGH SUBSET",
    "297b=SUPERSET ABOVE LEFTWARDS ARROW,LEFT FISH TAIL,RIGHT FISH TAIL,UP FISH TAIL",
    "297f=DOWN FISH TAIL,TRIPLE VERTICAL BAR DELIMITER,Z NOTATION SPOT,2TYPE COLON",
    "2983=LEFT WHITE CURLY BRACKET,RIGHT WHITE CURLY BRACKET,LEFT WHITE PARENTHESIS",
    "2986=RIGHT WHITE PARENTHESIS,Z NOTATION LEFT IMAGE BRACKET,2RIGHT IMAGE BRACKET",
    "2989=Z NOTATION LEFT BINDING BRACKET,2RIGHT BINDING BRACKET",
    "298b=LEFT SQUARE BRACKET WITH UNDERBAR,RIGHT SQUARE BRACKET WITH UNDERBAR",
    "298d=LEFT SQUARE BRACKET WITH TICK IN TOP CORNER",
    "298e=RIGHT SQUARE BRACKET WITH TICK IN BOTTOM CORNER",
    "298f=LEFT SQUARE BRACKET WITH TICK IN BOTTOM CORNER",
    "2990=RIGHT SQUARE BRACKET WITH TICK IN TOP CORNER,LEFT ANGLE BRACKET WITH DOT",
    "2992=RIGHT ANGLE BRACKET WITH DOT,LEFT ARC LESS-THAN BRACKET,RIGHT ARC GREATER-THAN BRACKET",
    "2995=DOUBLE LEFT ARC GREATER-THAN BRACKET,1RIGHT ARC LESS-THAN BRACKET",
    "2997=LEFT BLACK TORTOISE SHELL BRACKET,RIGHT BLACK TORTOISE SHELL BRACKET,DOTTED FENCE",
    "299a=VERTICAL ZIGZAG LINE,MEASURED ANGLE OPENING LEFT,RIGHT ANGLE VARIANT WITH SQUARE",
    "299d=MEASURED RIGHT ANGLE WITH DOT,ANGLE WITH S INSIDE,ACUTE ANGLE",
    "29a0=SPHERICAL ANGLE OPENING LEFT,3UP,TURNED ANGLE,REVERSED ANGLE,ANGLE WITH UNDERBAR",
    "29a5=REVERSED ANGLE WITH UNDERBAR,OBLIQUE ANGLE OPENING UP,3DOWN",
    "29a8=MEASURED ANGLE WITH OPEN ARM ENDING IN ARROW POINTING UP AND RIGHT,9UP AND LEFT",
    "29aa=MEASURED ANGLE WITH OPEN ARM ENDING IN ARROW POINTING DOWN AND RIGHT,9DOWN AND LEFT",
    "29ac=MEASURED ANGLE WITH OPEN ARM ENDING IN ARROW POINTING RIGHT AND UP,9LEFT AND UP",
    "29ae=MEASURED ANGLE WITH OPEN ARM ENDING IN ARROW POINTING RIGHT AND DOWN,9LEFT AND DOWN",
    "29b0=REVERSED EMPTY SET,EMPTY SET WITH OVERBAR,3SMALL CIRCLE ABOVE,3RIGHT ARROW ABOVE",
    "29b4=EMPTY SET WITH LEFT ARROW ABOVE,CIRCLE WITH HORIZONTAL BAR,CIRCLED VERTICAL BAR",
    "29b7=CIRCLED PARALLEL,1REVERSE SOLIDUS,1PERPENDICULAR",
    "29ba=CIRCLE DIVIDED BY HORIZONTAL BAR AND TOP HALF DIVIDED BY VERTICAL BAR",
    "29bb=CIRCLE WITH SUPERIMPOSED X,CIRCLED ANTICLOCKWISE-ROTATED DIVISION SIGN",
    "29bd=UP ARROW THROUGH CIRCLE,CIRCLED WHITE BULLET,1BULLET,1LESS-THAN,1GREATER-THAN",
    "29c2=CIRCLE WITH SMALL CIRCLE TO THE RIGHT,2TWO HORIZONTAL STROKES TO THE RIGHT",
    "29c4=SQUARED RISING DIAGONAL SLASH,1FALLING DIAGONAL SLASH,1ASTERISK,1SMALL CIRCLE,1SQUARE",
    "29c9=TWO JOINED SQUARES,TRIANGLE WITH DOT ABOVE,2UNDERBAR,S IN TRIANGLE",
    "29cd=TRIANGLE WITH SERIFS AT BOTTOM,RIGHT TRIANGLE ABOVE LEFT TRIANGLE",
    "29cf=LEFT TRIANGLE BESIDE VERTICAL BAR,VERTICAL BAR BESIDE RIGHT TRIANGLE",
    "29d1=BOWTIE WITH LEFT HALF BLACK,2RIGHT HALF BLACK,BLACK BOWTIE,TIMES WITH LEFT HALF BLACK",
    "29d5=TIMES WITH RIGHT HALF BLACK,WHITE HOURGLASS,BLACK HOURGLASS,LEFT WIGGLY FENCE",
    "29d9=RIGHT WIGGLY FENCE,LEFT DOUBLE WIGGLY FENCE,RIGHT DOUBLE WIGGLY FENCE",
    "29dc=INCOMPLETE INFINITY,TIE OVER INFINITY,INFINITY NEGATED WITH VERTICAL BAR",
    "29df=DOUBLE-ENDED MULTIMAP,SQUARE WITH CONTOURED OUTLINE,INCREASES AS,SHUFFLE PRODUCT",
    "29e3=EQUALS SIGN AND SLANTED PARALLEL,5WITH TILDE ABOVE,IDENTICAL TO AND SLANTED PARALLEL",
    "29e6=GLEICH STARK,THERMODYNAMIC,DOWN-POINTING TRIANGLE WITH LEFT HALF BLACK",
    "29e9=DOWN-POINTING TRIANGLE WITH RIGHT HALF BLACK,BLACK DIAMOND WITH DOWN ARROW,1LOZENGE",
    "29ec=WHITE CIRCLE WITH DOWN ARROW,BLACK CIRCLE WITH DOWN ARROW,ERROR-BARRED WHITE SQUARE",
    "29ef=ERROR-BARRED BLACK SQUARE,1WHITE DIAMOND,1BLACK DIAMOND,1WHITE CIRCLE,1BLACK CIRCLE",
    "29f4=RULE-DELAYED,REVERSE SOLIDUS OPERATOR,SOLIDUS WITH OVERBAR",
    "29f7=REVERSE SOLIDUS WITH HORIZONTAL STROKE,BIG SOLIDUS,1REVERSE SOLIDUS,DOUBLE PLUS",
    "29fb=TRIPLE PLUS,LEFT-POINTING CURVED ANGLE BRACKET,RIGHT-POINTING CURVED ANGLE BRACKET,TINY",
    "29ff=MINY,N-ARY CIRCLED DOT OPERATOR,2PLUS OPERATOR,2TIMES OPERATOR,1UNION OPERATOR WITH DOT",
    "2a04=N-ARY UNION OPERATOR WITH PLUS,1SQUARE INTERSECTION OPERATOR,2UNION OPERATOR",
    "2a07=TWO LOGICAL AND OPERATOR,2OR OPERATOR,N-ARY TIMES OPERATOR,MODULO TWO SUM",
    "2a0b=SUMMATION WITH INTEGRAL,QUADRUPLE INTEGRAL OPERATOR,FINITE PART INTEGRAL",
    "2a0e=INTEGRAL WITH DOUBLE STROKE,1AVERAGE WITH SLASH,CIRCULATION FUNCTION",
    "2a11=ANTICLOCKWISE INTEGRATION,LINE INTEGRATION WITH RECTANGULAR PATH AROUND POLE",
    "2a13=LINE INTEGRATION WITH SEMICIRCULAR PATH AROUND POLE,2NOT INCLUDING THE POLE",
    "2a15=INTEGRAL AROUND A POINT OPERATOR,QUATERNION INTEGRAL OPERATOR",
    "2a17=INTEGRAL WITH LEFTWARDS ARROW WITH HOOK,2TIMES SIGN,2INTERSECTION,2UNION,2OVERBAR",
    "2a1c=INTEGRAL WITH UNDERBAR,JOIN,LARGE LEFT TRIANGLE OPERATOR,Z NOTATION SCHEMA COMPOSITION",
    "2a20=Z NOTATION SCHEMA PIPING,3PROJECTION,PLUS SIGN WITH SMALL CIRCLE ABOVE",
    "2a23=PLUS SIGN WITH CIRCUMFLEX ACCENT ABOVE,3TILDE ABOVE,3DOT BELOW,3TILDE BELOW",
    "2a27=PLUS SIGN WITH SUBSCRIPT TWO,3BLACK TRIANGLE,MINUS SIGN WITH COMMA ABOVE,3DOT BELOW",
    "2a2b=MINUS SIGN WITH FALLING DOTS,3RISING DOTS,PLUS SIGN IN LEFT HALF CIRCLE",
    "2a2e=PLUS SIGN IN RIGHT HALF CIRCLE,VECTOR OR CROSS PRODUCT",
    "2a30=MULTIPLICATION SIGN WITH DOT ABOVE,3UNDERBAR,SEMIDIRECT PRODUCT WITH BOTTOM CLOSED",
    "2a33=SMASH PRODUCT,MULTIPLICATION SIGN IN LEFT HALF CIRCLE,3RIGHT HALF CIRCLE",
    "2a36=CIRCLED MULTIPLICATION SIGN WITH CIRCUMFLEX ACCENT,MULTIPLICATION SIGN IN DOUBLE CIRCLE",
    "2a38=CIRCLED DIVISION SIGN,PLUS SIGN IN TRIANGLE,MINUS SIGN IN TRIANGLE",
    "2a3b=MULTIPLICATION SIGN IN TRIANGLE,INTERIOR PRODUCT,RIGHTHAND INTERIOR PRODUCT",
    "2a3e=Z NOTATION RELATIONAL COMPOSITION,AMALGAMATION OR COPRODUCT,INTERSECTION WITH DOT",
    "2a41=UNION WITH MINUS SIGN,2OVERBAR,INTERSECTION WITH OVERBAR,2LOGICAL AND",
    "2a45=UNION WITH LOGICAL OR,1ABOVE INTERSECTION,INTERSECTION ABOVE UNION",
    "2a48=UNION ABOVE BAR ABOVE INTERSECTION,INTERSECTION ABOVE BAR ABOVE UNION",
    "2a4a=UNION BESIDE AND JOINED WITH UNION,INTERSECTION BESIDE AND JOINED WITH INTERSECTION",
    "2a4c=CLOSED UNION WITH SERIFS,1INTERSECTION WITH SERIFS,DOUBLE SQUARE INTERSECTION,2UNION",
    "2a50=CLOSED UNION WITH SERIFS AND SMASH PRODUCT,LOGICAL AND WITH DOT ABOVE",
    "2a52=LOGICAL OR WITH DOT ABOVE,DOUBLE LOGICAL AND,2OR,TWO INTERSECTING LOGICAL AND,3OR",
    "2a57=SLOPING LARGE OR,2AND,LOGICAL OR OVERLAPPING LOGICAL AND,1AND WITH MIDDLE STEM",
    "2a5b=LOGICAL OR WITH MIDDLE STEM,1AND WITH HORIZONTAL DASH,1OR WITH HORIZONTAL DASH",
    "2a5e=LOGICAL AND WITH DOUBLE OVERBAR,3UNDERBAR,3DOUBLE UNDERBAR,SMALL VEE WITH UNDERBAR",
    "2a62=LOGICAL OR WITH DOUBLE OVERBAR,4UNDERBAR,Z NOTATION DOMAIN ANTIRESTRICTION",
    "2a65=Z NOTATION RANGE ANTIRESTRICTION,EQUALS SIGN WITH DOT BELOW,IDENTICAL WITH DOT ABOVE",
    "2a68=TRIPLE HORIZONTAL BAR WITH DOUBLE VERTICAL STROKE,4TRIPLE VERTICAL STROKE",
    "2a6a=TILDE OPERATOR WITH DOT ABOVE,3RISING DOTS,SIMILAR MINUS SIMILAR",
    "2a6d=CONGRUENT WITH DOT ABOVE,EQUALS WITH ASTERISK,ALMOST EQUAL TO WITH CIRCUMFLEX ACCENT",
    "2a70=APPROXIMATELY EQUAL OR EQUAL TO,EQUALS SIGN ABOVE PLUS SIGN,PLUS SIGN ABOVE EQUALS SIGN",
    "2a73=EQUALS SIGN ABOVE TILDE OPERATOR,DOUBLE COLON EQUAL,TWO CONSECUTIVE EQUALS SIGNS",
    "2a76=THREE CONSECUTIVE EQUALS SIGNS,EQUALS SIGN WITH TWO DOTS ABOVE AND TWO DOTS BELOW",
    "2a78=EQUIVALENT WITH FOUR DOTS ABOVE,LESS-THAN WITH CIRCLE INSIDE",
    "2a7a=GREATER-THAN WITH CIRCLE INSIDE,LESS-THAN WITH QUESTION MARK ABOVE",
    "2a7c=GREATER-THAN WITH QUESTION MARK ABOVE,LESS-THAN OR SLANTED EQUAL TO",
    "2a7e=GREATER-THAN OR SLANTED EQUAL TO,LESS-THAN OR SLANTED EQUAL TO WITH DOT INSIDE",
    "2a80=GREATER-THAN OR SLANTED EQUAL TO WITH DOT INSIDE",
    "2a81=LESS-THAN OR SLANTED EQUAL TO WITH DOT ABOVE",
    "2a82=GREATER-THAN OR SLANTED EQUAL TO WITH DOT ABOVE",
    "2a83=LESS-THAN OR SLANTED EQUAL TO WITH DOT ABOVE RIGHT",
    "2a84=GREATER-THAN OR SLANTED EQUAL TO WITH DOT ABOVE LEFT,LESS-THAN OR APPROXIMATE",
    "2a86=GREATER-THAN OR APPROXIMATE,LESS-THAN AND SINGLE-LINE NOT EQUAL TO",
    "2a88=GREATER-THAN AND SINGLE-LINE NOT EQUAL TO,LESS-THAN AND NOT APPROXIMATE",
    "2a8a=GREATER-THAN AND NOT APPROXIMATE,LESS-THAN ABOVE DOUBLE-LINE EQUAL ABOVE GREATER-THAN",
    "2a8c=GREATER-THAN ABOVE DOUBLE-LINE EQUAL ABOVE LESS-THAN,LESS-THAN ABOVE SIMILAR OR EQUAL",
    "2a8e=GREATER-THAN ABOVE SIMILAR OR EQUAL,LESS-THAN ABOVE SIMILAR ABOVE GREATER-THAN",
    "2a90=GREATER-THAN ABOVE SIMILAR ABOVE LESS-THAN",
    "2a91=LESS-THAN ABOVE GREATER-THAN ABOVE DOUBLE-LINE EQUAL",
    "2a92=GREATER-THAN ABOVE LESS-THAN ABOVE DOUBLE-LINE EQUAL",
    "2a93=LESS-THAN ABOVE SLANTED EQUAL ABOVE GREATER-THAN ABOVE SLANTED EQUAL",
    "2a94=GREATER-THAN ABOVE SLANTED EQUAL ABOVE LESS-THAN ABOVE SLANTED EQUAL",
    "2a95=SLANTED EQUAL TO OR LESS-THAN,4GREATER-THAN,4LESS-THAN WITH DOT INSIDE",
    "2a98=SLANTED EQUAL TO OR GREATER-THAN WITH DOT INSIDE,DOUBLE-LINE EQUAL TO OR LESS-THAN",
    "2a9a=DOUBLE-LINE EQUAL TO OR GREATER-THAN,1SLANTED EQUAL TO OR LESS-THAN,5GREATER-THAN",
    "2a9d=SIMILAR OR LESS-THAN,2GREATER-THAN,1ABOVE LESS-THAN ABOVE EQUALS SIGN",
    "2aa0=SIMILAR ABOVE GREATER-THAN ABOVE EQUALS SIGN,DOUBLE NESTED LESS-THAN,2GREATER-THAN",
    "2aa3=DOUBLE NESTED LESS-THAN WITH UNDERBAR,GREATER-THAN OVERLAPPING LESS-THAN",
    "2aa5=GREATER-THAN BESIDE LESS-THAN,LESS-THAN CLOSED BY CURVE,GREATER-THAN CLOSED BY CURVE",
    "2aa8=LESS-THAN CLOSED BY CURVE ABOVE SLANTED EQUAL",
    "2aa9=GREATER-THAN CLOSED BY CURVE ABOVE SLANTED EQUAL,SMALLER THAN,LARGER THAN",
    "2aac=SMALLER THAN OR EQUAL TO,LARGER THAN OR EQUAL TO,EQUALS SIGN WITH BUMPY ABOVE",
    "2aaf=PRECEDES ABOVE SINGLE-LINE EQUALS SIGN,SUCCEEDS ABOVE SINGLE-LINE EQUALS SIGN",
    "2ab1=PRECEDES ABOVE SINGLE-LINE NOT EQUAL TO,SUCCEEDS ABOVE SINGLE-LINE NOT EQUAL TO",
    "2ab3=PRECEDES ABOVE EQUALS SIGN,SUCCEEDS ABOVE EQUALS SIGN,PRECEDES ABOVE NOT EQUAL TO",
    "2ab6=SUCCEEDS ABOVE NOT EQUAL TO,PRECEDES ABOVE ALMOST EQUAL TO",
    "2ab8=SUCCEEDS ABOVE ALMOST EQUAL TO,PRECEDES ABOVE NOT ALMOST EQUAL TO",
    "2aba=SUCCEEDS ABOVE NOT ALMOST EQUAL TO,DOUBLE PRECEDES,1SUCCEEDS,SUBSET WITH DOT",
    "2abe=SUPERSET WITH DOT,SUBSET WITH PLUS SIGN BELOW,SUPERSET WITH PLUS SIGN BELOW",
    "2ac1=SUBSET WITH MULTIPLICATION SIGN BELOW,SUPERSET WITH MULTIPLICATION SIGN BELOW",
    "2ac3=SUBSET OF OR EQUAL TO WITH DOT ABOVE,SUPERSET OF OR EQUAL TO WITH DOT ABOVE",
    "2ac5=SUBSET OF ABOVE EQUALS SIGN,SUPERSET OF ABOVE EQUALS SIGN",
    "2ac7=SUBSET OF ABOVE TILDE OPERATOR,SUPERSET OF ABOVE TILDE OPERATOR",
    "2ac9=SUBSET OF ABOVE ALMOST EQUAL TO,SUPERSET OF ABOVE ALMOST EQUAL TO",
    "2acb=SUBSET OF ABOVE NOT EQUAL TO,SUPERSET OF ABOVE NOT EQUAL TO",
    "2acd=SQUARE LEFT OPEN BOX OPERATOR,1RIGHT OPEN BOX OPERATOR,CLOSED SUBSET,1SUPERSET",
    "2ad1=CLOSED SUBSET OR EQUAL TO,1SUPERSET OR EQUAL TO,SUBSET ABOVE SUPERSET",
    "2ad4=SUPERSET ABOVE SUBSET,SUBSET ABOVE SUBSET,SUPERSET ABOVE SUPERSET,1BESIDE SUBSET",
    "2ad8=SUPERSET BESIDE AND JOINED BY DASH WITH SUBSET,ELEMENT OF OPENING DOWNWARDS",
    "2ada=PITCHFORK WITH TEE TOP,TRANSVERSAL INTERSECTION,FORKING,NONFORKING,SHORT LEFT TACK",
    "2adf=SHORT DOWN TACK,1UP TACK,PERPENDICULAR WITH S,VERTICAL BAR TRIPLE RIGHT TURNSTILE",
    "2ae3=DOUBLE VERTICAL BAR LEFT TURNSTILE,VERTICAL BAR DOUBLE LEFT TURNSTILE",
    "2ae5=DOUBLE VERTICAL BAR DOUBLE LEFT TURNSTILE,LONG DASH FROM LEFT MEMBER OF DOUBLE VERTICAL",
    "2ae7=SHORT DOWN TACK WITH OVERBAR,1UP TACK WITH UNDERBAR,3ABOVE SHORT DOWN TACK",
    "2aea=DOUBLE DOWN TACK,1UP TACK,1STROKE NOT SIGN,REVERSED DOUBLE STROKE NOT SIGN",
    "2aee=DOES NOT DIVIDE WITH REVERSED NEGATION SLASH,VERTICAL LINE WITH CIRCLE ABOVE,4BELOW",
    "2af1=DOWN TACK WITH CIRCLE BELOW,PARALLEL WITH HORIZONTAL STROKE,2TILDE OPERATOR",
    "2af4=TRIPLE VERTICAL BAR BINARY RELATION,3WITH HORIZONTAL STROKE,1COLON OPERATOR",
    "2af7=TRIPLE NESTED LESS-THAN,2GREATER-THAN,DOUBLE-LINE SLANTED LESS-THAN OR EQUAL TO",
    "2afa=DOUBLE-LINE SLANTED GREATER-THAN OR EQUAL TO,TRIPLE SOLIDUS BINARY RELATION",
    "2afc=LARGE TRIPLE VERTICAL BAR OPERATOR,DOUBLE SOLIDUS OPERATOR,WHITE VERTICAL BAR",
    "2aff=N-ARY WHITE VERTICAL BAR,NORTH EAST WHITE ARROW,1WEST WHITE ARROW",
    "2b02=SOUTH EAST WHITE ARROW,1WEST WHITE ARROW,LEFT RIGHT WHITE ARROW,LEFTWARDS BLACK ARROW",
    "2b06=UPWARDS BLACK ARROW,DOWNWARDS BLACK ARROW,NORTH EAST BLACK ARROW,1WEST BLACK ARROW",
    "2b0a=SOUTH EAST BLACK ARROW,1WEST BLACK ARROW,LEFT RIGHT BLACK ARROW,UP DOWN BLACK ARROW",
    "2b0e=RIGHTWARDS ARROW WITH TIP DOWNWARDS,4UPWARDS,LEFTWARDS ARROW WITH TIP DOWNWARDS",
    "2b11=LEFTWARDS ARROW WITH TIP UPWARDS,SQUARE WITH TOP HALF BLACK,2BOTTOM HALF BLACK",
    "2b14=SQUARE WITH UPPER RIGHT DIAGONAL HALF BLACK,2LOWER LEFT DIAGONAL HALF BLACK",
    "2b16=DIAMOND WITH LEFT HALF BLACK,2RIGHT HALF BLACK,2TOP HALF BLACK,2BOTTOM HALF BLACK",
    "2b1a=DOTTED SQUARE,BLACK LARGE SQUARE,WHITE LARGE SQUARE,BLACK VERY SMALL SQUARE",
    "2b1e=WHITE VERY SMALL SQUARE,BLACK PENTAGON,WHITE PENTAGON,1HEXAGON,BLACK HEXAGON",
    "2b23=HORIZONTAL BLACK HEXAGON,BLACK LARGE CIRCLE,1MEDIUM DIAMOND,WHITE MEDIUM DIAMOND",
    "2b27=BLACK MEDIUM LOZENGE,WHITE MEDIUM LOZENGE,BLACK SMALL DIAMOND,2LOZENGE",
    "2b2b=WHITE SMALL LOZENGE,BLACK HORIZONTAL ELLIPSE,WHITE HORIZONTAL ELLIPSE",
    "2b2e=BLACK VERTICAL ELLIPSE,WHITE VERTICAL ELLIPSE,LEFT ARROW WITH SMALL CIRCLE",
    "2b31=THREE LEFTWARDS ARROWS,LEFT ARROW WITH CIRCLED PLUS,LONG LEFTWARDS SQUIGGLE ARROW",
    "2b34=LEFTWARDS TWO-HEADED ARROW WITH VERTICAL STROKE,4DOUBLE VERTICAL STROKE,3FROM BAR",
    "2b37=LEFTWARDS TWO-HEADED TRIPLE DASH ARROW,1ARROW WITH DOTTED STEM",
    "2b39=LEFTWARDS ARROW WITH TAIL WITH VERTICAL STROKE,5DOUBLE VERTICAL STROKE",
    "2b3b=LEFTWARDS TWO-HEADED ARROW WITH TAIL,5WITH VERTICAL STROKE,6DOUBLE VERTICAL STROKE",
    "2b3e=LEFTWARDS ARROW THROUGH X,WAVE ARROW POINTING DIRECTLY LEFT",
    "2b40=EQUALS SIGN ABOVE LEFTWARDS ARROW,REVERSE TILDE OPERATOR ABOVE LEFTWARDS ARROW",
    "2b42=LEFTWARDS ARROW ABOVE REVERSE ALMOST EQUAL TO,RIGHTWARDS ARROW THROUGH GREATER-THAN",
    "2b44=RIGHTWARDS ARROW THROUGH SUPERSET,LEFTWARDS QUADRUPLE ARROW,RIGHTWARDS QUADRUPLE ARROW",
    "2b47=REVERSE TILDE OPERATOR ABOVE RIGHTWARDS ARROW",
    "2b48=RIGHTWARDS ARROW ABOVE REVERSE ALMOST EQUAL TO,TILDE OPERATOR ABOVE LEFTWARDS ARROW",
    "2b4a=LEFTWARDS ARROW ABOVE ALMOST EQUAL TO,3REVERSE TILDE OPERATOR",
    "2b4c=RIGHTWARDS ARROW ABOVE REVERSE TILDE OPERATOR,DOWNWARDS TRIANGLE-HEADED ZIGZAG ARROW",
    "2b4e=SHORT SLANTED NORTH ARROW,1BACKSLANTED SOUTH ARROW,WHITE MEDIUM STAR,BLACK SMALL STAR",
    "2b52=WHITE SMALL STAR,BLACK RIGHT-POINTING PENTAGON,WHITE RIGHT-POINTING PENTAGON",
    "2b55=HEAVY LARGE CIRCLE,1OVAL WITH OVAL INSIDE,1CIRCLE WITH CIRCLE INSIDE,1CIRCLE",
    "2b59=HEAVY CIRCLED SALTIRE,SLANTED NORTH ARROW WITH HOOKED HEAD",
    "2b5b=BACKSLANTED SOUTH ARROW WITH HOOKED TAIL,SLANTED NORTH ARROW WITH HORIZONTAL TAIL",
    "2b5d=BACKSLANTED SOUTH ARROW WITH HORIZONTAL TAIL",
    "2b5e=BENT ARROW POINTING DOWNWARDS THEN NORTH EAST",
    "2b5f=SHORT BENT ARROW POINTING DOWNWARDS THEN NORTH EAST,LEFTWARDS TRIANGLE-HEADED ARROW",
    "2b61=UPWARDS TRIANGLE-HEADED ARROW,RIGHTWARDS TRIANGLE-HEADED ARROW",
    "2b63=DOWNWARDS TRIANGLE-HEADED ARROW,LEFT RIGHT TRIANGLE-HEADED ARROW",
    "2b65=UP DOWN TRIANGLE-HEADED ARROW,NORTH WEST TRIANGLE-HEADED ARROW",
    "2b67=NORTH EAST TRIANGLE-HEADED ARROW,SOUTH EAST TRIANGLE-HEADED ARROW",
    "2b69=SOUTH WEST TRIANGLE-HEADED ARROW,LEFTWARDS TRIANGLE-HEADED DASHED ARROW",
    "2b6b=UPWARDS TRIANGLE-HEADED DASHED ARROW,RIGHTWARDS TRIANGLE-HEADED DASHED ARROW",
    "2b6d=DOWNWARDS TRIANGLE-HEADED DASHED ARROW,CLOCKWISE TRIANGLE-HEADED OPEN CIRCLE ARROW",
    "2b6f=ANTICLOCKWISE TRIANGLE-HEADED OPEN CIRCLE ARROW,LEFTWARDS TRIANGLE-HEADED ARROW TO BAR",
    "2b71=UPWARDS TRIANGLE-HEADED ARROW TO BAR,RIGHTWARDS TRIANGLE-HEADED ARROW TO BAR",
    "2b73=DOWNWARDS TRIANGLE-HEADED ARROW TO BAR",
    "2b76=NORTH WEST TRIANGLE-HEADED ARROW TO BAR,1EAST TRIANGLE-HEADED ARROW TO BAR",
    "2b78=SOUTH EAST TRIANGLE-HEADED ARROW TO BAR,1WEST TRIANGLE-HEADED ARROW TO BAR",
    "2b7a=LEFTWARDS TRIANGLE-HEADED ARROW WITH DOUBLE HORIZONTAL STROKE",
    "2b7b=UPWARDS TRIANGLE-HEADED ARROW WITH DOUBLE HORIZONTAL STROKE",
    "2b7c=RIGHTWARDS TRIANGLE-HEADED ARROW WITH DOUBLE HORIZONTAL STROKE",
    "2b7d=DOWNWARDS TRIANGLE-HEADED ARROW WITH DOUBLE HORIZONTAL STROKE,HORIZONTAL TAB KEY",
    "2b7f=VERTICAL TAB KEY,LEFTWARDS TRIANGLE-HEADED ARROW OVER RIGHTWARDS TRIANGLE-HEADED ARROW",
    "2b81=UPWARDS TRIANGLE-HEADED ARROW LEFTWARDS OF DOWNWARDS TRIANGLE-HEADED ARROW",
    "2b82=RIGHTWARDS TRIANGLE-HEADED ARROW OVER LEFTWARDS TRIANGLE-HEADED ARROW",
    "2b83=DOWNWARDS TRIANGLE-HEADED ARROW LEFTWARDS OF UPWARDS TRIANGLE-HEADED ARROW",
    "2b84=LEFTWARDS TRIANGLE-HEADED PAIRED ARROWS,UPWARDS TRIANGLE-HEADED PAIRED ARROWS",
    "2b86=RIGHTWARDS TRIANGLE-HEADED PAIRED ARROWS,DOWNWARDS TRIANGLE-HEADED PAIRED ARROWS",
    "2b88=LEFTWARDS BLACK CIRCLED WHITE ARROW,UPWARDS BLACK CIRCLED WHITE ARROW",
    "2b8a=RIGHTWARDS BLACK CIRCLED WHITE ARROW,DOWNWARDS BLACK CIRCLED WHITE ARROW",
    "2b8c=ANTICLOCKWISE TRIANGLE-HEADED RIGHT U-SHAPED ARROW,2BOTTOM U-SHAPED ARROW",
    "2b8e=ANTICLOCKWISE TRIANGLE-HEADED LEFT U-SHAPED ARROW,2TOP U-SHAPED ARROW,RETURN LEFT",
    "2b91=RETURN RIGHT,NEWLINE LEFT,1RIGHT,FOUR CORNER ARROWS CIRCLING ANTICLOCKWISE",
    "2b95=RIGHTWARDS BLACK ARROW",
    "2b97=SYMBOL FOR TYPE A ELECTRONICS,THREE-D TOP-LIGHTED LEFTWARDS EQUILATERAL ARROWHEAD",
    "2b99=THREE-D RIGHT-LIGHTED UPWARDS EQUILATERAL ARROWHEAD",
    "2b9a=THREE-D TOP-LIGHTED RIGHTWARDS EQUILATERAL ARROWHEAD",
    "2b9b=THREE-D LEFT-LIGHTED DOWNWARDS EQUILATERAL ARROWHEAD",
    "2b9c=BLACK LEFTWARDS EQUILATERAL ARROWHEAD,1UPWARDS EQUILATERAL ARROWHEAD",
    "2b9e=BLACK RIGHTWARDS EQUILATERAL ARROWHEAD,1DOWNWARDS EQUILATERAL ARROWHEAD",
    "2ba0=DOWNWARDS TRIANGLE-HEADED ARROW WITH LONG TIP LEFTWARDS,6RIGHTWARDS",
    "2ba2=UPWARDS TRIANGLE-HEADED ARROW WITH LONG TIP LEFTWARDS,6RIGHTWARDS",
    "2ba4=LEFTWARDS TRIANGLE-HEADED ARROW WITH LONG TIP UPWARDS",
    "2ba5=RIGHTWARDS TRIANGLE-HEADED ARROW WITH LONG TIP UPWARDS",
    "2ba6=LEFTWARDS TRIANGLE-HEADED ARROW WITH LONG TIP DOWNWARDS",
    "2ba7=RIGHTWARDS TRIANGLE-HEADED ARROW WITH LONG TIP DOWNWARDS",
    "2ba8=BLACK CURVED DOWNWARDS AND LEFTWARDS ARROW,4RIGHTWARDS ARROW",
    "2baa=BLACK CURVED UPWARDS AND LEFTWARDS ARROW,4RIGHTWARDS ARROW,2LEFTWARDS AND UPWARDS ARROW",
    "2bad=BLACK CURVED RIGHTWARDS AND UPWARDS ARROW,2LEFTWARDS AND DOWNWARDS ARROW",
    "2baf=BLACK CURVED RIGHTWARDS AND DOWNWARDS ARROW,RIBBON ARROW DOWN LEFT,3RIGHT,2UP LEFT",
    "2bb3=RIBBON ARROW UP RIGHT,2LEFT UP,2RIGHT UP,2LEFT DOWN,2RIGHT DOWN",
    "2bb8=UPWARDS WHITE ARROW FROM BAR WITH HORIZONTAL BAR,UP ARROWHEAD IN A RECTANGLE BOX",
    "2bba=OVERLAPPING WHITE SQUARES,2AND BLACK SQUARES,1BLACK SQUARES,BALLOT BOX WITH LIGHT X",
    "2bbe=CIRCLED X,1BOLD X,BLACK SQUARE CENTRED,1DIAMOND CENTRED,TURNED BLACK PENTAGON",
    "2bc3=HORIZONTAL BLACK OCTAGON,BLACK OCTAGON,1MEDIUM UP-POINTING TRIANGLE CENTRED",
    "2bc6=BLACK MEDIUM DOWN-POINTING TRIANGLE CENTRED,2LEFT-POINTING TRIANGLE CENTRED",
    "2bc8=BLACK MEDIUM RIGHT-POINTING TRIANGLE CENTRED,NEPTUNE FORM TWO,TOP HALF BLACK CIRCLE",
    "2bcb=BOTTOM HALF BLACK CIRCLE,LIGHT FOUR POINTED BLACK CUSP",
    "2bcd=ROTATED LIGHT FOUR POINTED BLACK CUSP,WHITE FOUR POINTED CUSP",
    "2bcf=ROTATED WHITE FOUR POINTED CUSP,SQUARE POSITION INDICATOR,UNCERTAINTY SIGN,GROUP MARK",
    "2bd3=PLUTO FORM TWO,2THREE,2FOUR,2FIVE,TRANSPLUTO,PROSERPINA,ASTRAEA,HYGIEA,PHOLUS,NESSUS",
    "2bdd=WHITE MOON SELENA,BLACK DIAMOND ON CROSS,TRUE LIGHT MOON ARTA,CUPIDO,HADES,ZEUS,KRONOS",
    "2be4=APOLLON,ADMETOS,VULCANUS,POSEIDON,LEFT HALF BLACK STAR,RIGHT HALF BLACK STAR",
    "2bea=STAR WITH LEFT HALF BLACK,2RIGHT HALF BLACK",
    "2bec=LEFTWARDS TWO-HEADED ARROW WITH TRIANGLE ARROWHEADS",
    "2bed=UPWARDS TWO-HEADED ARROW WITH TRIANGLE ARROWHEADS",
    "2bee=RIGHTWARDS TWO-HEADED ARROW WITH TRIANGLE ARROWHEADS",
    "2bef=DOWNWARDS TWO-HEADED ARROW WITH TRIANGLE ARROWHEADS,ERIS FORM ONE,2TWO,SEDNA",
    "2bf3=RUSSIAN ASTROLOGICAL SYMBOL VIGINTILE,3NOVILE,3QUINTILE,3BINOVILE,3SENTAGON,3TREDECILE",
    "2bf9=EQUALS SIGN WITH INFINITY BELOW,UNITED SYMBOL,SEPARATED SYMBOL,DOUBLED SYMBOL",
    "2bfd=PASSED SYMBOL,REVERSED RIGHT ANGLE,HELLSCHREIBER PAUSE SYMBOL",
    "2e00=RIGHT ANGLE SUBSTITUTION MARKER,2DOTTED SUBSTITUTION MARKER,LEFT SUBSTITUTION BRACKET",
    "2e03=RIGHT SUBSTITUTION BRACKET,LEFT DOTTED SUBSTITUTION BRACKET",
    "2e05=RIGHT DOTTED SUBSTITUTION BRACKET,RAISED INTERPOLATION MARKER",
    "2e07=RAISED DOTTED INTERPOLATION MARKER,DOTTED TRANSPOSITION MARKER",
    "2e09=LEFT TRANSPOSITION BRACKET,RIGHT TRANSPOSITION BRACKET,RAISED SQUARE",
    "2e0c=LEFT RAISED OMISSION BRACKET,RIGHT RAISED OMISSION BRACKET,EDITORIAL CORONIS",
    "2e0f=PARAGRAPHOS,FORKED PARAGRAPHOS,REVERSED FORKED PARAGRAPHOS,HYPODIASTOLE,DOTTED OBELOS",
    "2e14=DOWNWARDS ANCORA,UPWARDS ANCORA,DOTTED RIGHT-POINTING ANGLE,DOUBLE OBLIQUE HYPHEN",
    "2e18=INVERTED INTERROBANG,PALM BRANCH,HYPHEN WITH DIAERESIS,TILDE WITH RING ABOVE",
    "2e1c=LEFT LOW PARAPHRASE BRACKET,RIGHT LOW PARAPHRASE BRACKET,TILDE WITH DOT ABOVE,3BELOW",
    "2e20=LEFT VERTICAL BAR WITH QUILL,RIGHT VERTICAL BAR WITH QUILL,TOP LEFT HALF BRACKET",
    "2e23=TOP RIGHT HALF BRACKET,BOTTOM LEFT HALF BRACKET,1RIGHT HALF BRACKET",
    "2e26=LEFT SIDEWAYS U BRACKET,RIGHT SIDEWAYS U BRACKET,LEFT DOUBLE PARENTHESIS",
    "2e29=RIGHT DOUBLE PARENTHESIS,TWO DOTS OVER ONE DOT PUNCTUATION",
    "2e2b=ONE DOT OVER TWO DOTS PUNCTUATION,SQUARED FOUR DOT PUNCTUATION,FIVE DOT MARK",
    "2e2e=REVERSED QUESTION MARK,VERTICAL TILDE,RING POINT,WORD SEPARATOR MIDDLE DOT,TURNED COMMA",
    "2e33=RAISED DOT,1COMMA,TURNED SEMICOLON,DAGGER WITH LEFT GUARD,2RIGHT GUARD,TURNED DAGGER",
    "2e39=TOP HALF SECTION SIGN,TWO-EM DASH,THREE-EM DASH,STENOGRAPHIC FULL STOP",
    "2e3d=VERTICAL SIX DOTS,WIGGLY VERTICAL LINE,CAPITULUM,DOUBLE HYPHEN,REVERSED COMMA",
    "2e42=DOUBLE LOW-REVERSED-9 QUOTATION MARK,DASH WITH LEFT UPTURN,DOUBLE SUSPENSION MARK",
    "2e45=INVERTED LOW KAVYKA,3WITH KAVYKA ABOVE,LOW KAVYKA,2WITH DOT,DOUBLE STACKED COMMA",
    "2e4a=DOTTED SOLIDUS,TRIPLE DAGGER,MEDIEVAL COMMA,PARAGRAPHUS MARK,PUNCTUS ELEVATUS MARK",
    "2e4f=CORNISH VERSE DIVIDER,CROSS PATTY WITH RIGHT CROSSBAR,3LEFT CROSSBAR",
    "2e52=TIRONIAN SIGN CAPITAL ET,MEDIEVAL EXCLAMATION MARK,1QUESTION MARK",
    "2e55=LEFT SQUARE BRACKET WITH STROKE,RIGHT SQUARE BRACKET WITH STROKE",
    "2e57=LEFT SQUARE BRACKET WITH DOUBLE STROKE,RIGHT SQUARE BRACKET WITH DOUBLE STROKE",
    "2e59=TOP HALF LEFT PARENTHESIS,2RIGHT PARENTHESIS,BOTTOM HALF LEFT PARENTHESIS",
    "2e5c=BOTTOM HALF RIGHT PARENTHESIS,OBLIQUE HYPHEN"]

end SnippetRunner.Text.Name
