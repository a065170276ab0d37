/-!
# Names of letters

Latin, Greek, Cyrillic, Hebrew, Arabic and some other letters, with the signs among them. Each line
gives a code and the names of the characters from there on; a digit before a name says how many
words it has in common with the name before it.
-/

namespace SnippetRunner.Text.Name

/-- The lines of the names. -/
def letters : List String :=
  [ "20=SPACE,EXCLAMATION MARK,QUOTATION MARK,NUMBER SIGN,DOLLAR SIGN,PERCENT SIGN,AMPERSAND",
    "27=APOSTROPHE,LEFT PARENTHESIS,RIGHT PARENTHESIS,ASTERISK,PLUS SIGN,COMMA,HYPHEN-MINUS",
    "2e=FULL STOP,SOLIDUS,DIGIT ZERO,1ONE,1TWO,1THREE,1FOUR,1FIVE,1SIX,1SEVEN,1EIGHT,1NINE,COLON",
    "3b=SEMICOLON,LESS-THAN SIGN,EQUALS SIGN,GREATER-THAN SIGN,QUESTION MARK,COMMERCIAL AT",
    "41=LATIN CAPITAL LETTER A,3B,3C,3D,3E,3F,3G,3H,3I,3J,3K,3L,3M,3N,3O,3P,3Q,3R,3S,3T,3U,3V,3W",
    "58=LATIN CAPITAL LETTER X,3Y,3Z,LEFT SQUARE BRACKET,REVERSE SOLIDUS,RIGHT SQUARE BRACKET",
    "5e=CIRCUMFLEX ACCENT,LOW LINE,GRAVE ACCENT,LATIN SMALL LETTER A,3B,3C,3D,3E,3F,3G,3H,3I,3J",
    "6b=LATIN SMALL LETTER K,3L,3M,3N,3O,3P,3Q,3R,3S,3T,3U,3V,3W,3X,3Y,3Z,LEFT CURLY BRACKET",
    "7c=VERTICAL LINE,RIGHT CURLY BRACKET,TILDE",
    "a0=NO-BREAK SPACE,INVERTED EXCLAMATION MARK,CENT SIGN,POUND SIGN,CURRENCY SIGN,YEN SIGN",
    "a6=BROKEN BAR,SECTION SIGN,DIAERESIS,COPYRIGHT SIGN,FEMININE ORDINAL INDICATOR",
    "ab=LEFT-POINTING DOUBLE ANGLE QUOTATION MARK,NOT SIGN,SOFT HYPHEN,REGISTERED SIGN,MACRON",
    "b0=DEGREE SIGN,PLUS-MINUS SIGN,SUPERSCRIPT TWO,1THREE,ACUTE ACCENT,MICRO SIGN,PILCROW SIGN",
    "b7=MIDDLE DOT,CEDILLA,SUPERSCRIPT ONE,MASCULINE ORDINAL INDICATOR",
    "bb=RIGHT-POINTING DOUBLE ANGLE QUOTATION MARK,VULGAR FRACTION ONE QUARTER,3HALF",
    "be=VULGAR FRACTION THREE QUARTERS,INVERTED QUESTION MARK,LATIN CAPITAL LETTER A WITH GRAVE",
    "c1=LATIN CAPITAL LETTER A WITH ACUTE,5CIRCUMFLEX,5TILDE,5DIAERESIS,5RING ABOVE,3AE",
    "c7=LATIN CAPITAL LETTER C WITH CEDILLA,3E WITH GRAVE,5ACUTE,5CIRCUMFLEX,5DIAERESIS",
    "cc=LATIN CAPITAL LETTER I WITH GRAVE,5ACUTE,5CIRCUMFLEX,5DIAERESIS,3ETH,3N WITH TILDE",
    "d2=LATIN CAPITAL LETTER O WITH GRAVE,5ACUTE,5CIRCUMFLEX,5TILDE,5DIAERESIS",
    "d7=MULTIPLICATION SIGN,LATIN CAPITAL LETTER O WITH STROKE,3U WITH GRAVE,5ACUTE,5CIRCUMFLEX",
    "dc=LATIN CAPITAL LETTER U WITH DIAERESIS,3Y WITH ACUTE,3THORN,1SMALL LETTER SHARP S",
    "e0=LATIN SMALL LETTER A WITH GRAVE,5ACUTE,5CIRCUMFLEX,5TILDE,5DIAERESIS,5RING ABOVE,3AE",
    "e7=LATIN SMALL LETTER C WITH CEDILLA,3E WITH GRAVE,5ACUTE,5CIRCUMFLEX,5DIAERESIS",
    "ec=LATIN SMALL LETTER I WITH GRAVE,5ACUTE,5CIRCUMFLEX,5DIAERESIS,3ETH,3N WITH TILDE",
    "f2=LATIN SMALL LETTER O WITH GRAVE,5ACUTE,5CIRCUMFLEX,5TILDE,5DIAERESIS,DIVISION SIGN",
    "f8=LATIN SMALL LETTER O WITH STROKE,3U WITH GRAVE,5ACUTE,5CIRCUMFLEX,5DIAERESIS",
    "fd=LATIN SMALL LETTER Y WITH ACUTE,3THORN,3Y WITH DIAERESIS,1CAPITAL LETTER A WITH MACRON",
    "101=LATIN SMALL LETTER A WITH MACRON,1CAPITAL LETTER A WITH BREVE,1SMALL LETTER A WITH BREVE",
    "104=LATIN CAPITAL LETTER A WITH OGONEK,1SMALL LETTER A WITH OGONEK",
    "106=LATIN CAPITAL LETTER C WITH ACUTE,1SMALL LETTER C WITH ACUTE",
    "108=LATIN CAPITAL LETTER C WITH CIRCUMFLEX,1SMALL LETTER C WITH CIRCUMFLEX",
    "10a=LATIN CAPITAL LETTER C WITH DOT ABOVE,1SMALL LETTER C WITH DOT ABOVE",
    "10c=LATIN CAPITAL LETTER C WITH CARON,1SMALL LETTER C WITH CARON",
    "10e=LATIN CAPITAL LETTER D WITH CARON,1SMALL LETTER D WITH CARON",
    "110=LATIN CAPITAL LETTER D WITH STROKE,1SMALL LETTER D WITH STROKE",
    "112=LATIN CAPITAL LETTER E WITH MACRON,1SMALL LETTER E WITH MACRON",
    "114=LATIN CAPITAL LETTER E WITH BREVE,1SMALL LETTER E WITH BREVE",
    "116=LATIN CAPITAL LETTER E WITH DOT ABOVE,1SMALL LETTER E WITH DOT ABOVE",
    "118=LATIN CAPITAL LETTER E WITH OGONEK,1SMALL LETTER E WITH OGONEK",
    "11a=LATIN CAPITAL LETTER E WITH CARON,1SMALL LETTER E WITH CARON",
    "11c=LATIN CAPITAL LETTER G WITH CIRCUMFLEX,1SMALL LETTER G WITH CIRCUMFLEX",
    "11e=LATIN CAPITAL LETTER G WITH BREVE,1SMALL LETTER G WITH BREVE",
    "120=LATIN CAPITAL LETTER G WITH DOT ABOVE,1SMALL LETTER G WITH DOT ABOVE",
    "122=LATIN CAPITAL LETTER G WITH CEDILLA,1SMALL LETTER G WITH CEDILLA",
    "124=LATIN CAPITAL LETTER H WITH CIRCUMFLEX,1SMALL LETTER H WITH CIRCUMFLEX",
    "126=LATIN CAPITAL LETTER H WITH STROKE,1SMALL LETTER H WITH STROKE",
    "128=LATIN CAPITAL LETTER I WITH TILDE,1SMALL LETTER I WITH TILDE",
    "12a=LATIN CAPITAL LETTER I WITH MACRON,1SMALL LETTER I WITH MACRON",
    "12c=LATIN CAPITAL LETTER I WITH BREVE,1SMALL LETTER I WITH BREVE",
    "12e=LATIN CAPITAL LETTER I WITH OGONEK,1SMALL LETTER I WITH OGONEK",
    "130=LATIN CAPITAL LETTER I WITH DOT ABOVE,1SMALL LETTER DOTLESS I,1CAPITAL LIGATURE IJ",
    "133=LATIN SMALL LIGATURE IJ,1CAPITAL LETTER J WITH CIRCUMFLEX",
    "135=LATIN SMALL LETTER J WITH CIRCUMFLEX,1CAPITAL LETTER K WITH CEDILLA",
    "137=LATIN SMALL LETTER K WITH CEDILLA,3KRA,1CAPITAL LETTER L WITH ACUTE",
    "13a=LATIN SMALL LETTER L WITH ACUTE,1CAPITAL LETTER L WITH CEDILLA",
    "13c=LATIN SMALL LETTER L WITH CEDILLA,1CAPITAL LETTER L WITH CARON",
    "13e=LATIN SMALL LETTER L WITH CARON,1CAPITAL LETTER L WITH MIDDLE DOT",
    "140=LATIN SMALL LETTER L WITH MIDDLE DOT,1CAPITAL LETTER L WITH STROKE",
    "142=LATIN SMALL LETTER L WITH STROKE,1CAPITAL LETTER N WITH ACUTE,1SMALL LETTER N WITH ACUTE",
    "145=LATIN CAPITAL LETTER N WITH CEDILLA,1SMALL LETTER N WITH CEDILLA",
    "147=LATIN CAPITAL LETTER N WITH CARON,1SMALL LETTER N WITH CARON,4PRECEDED BY APOSTROPHE",
    "14a=LATIN CAPITAL LETTER ENG,1SMALL LETTER ENG,1CAPITAL LETTER O WITH MACRON",
    "14d=LATIN SMALL LETTER O WITH MACRON,1CAPITAL LETTER O WITH BREVE,1SMALL LETTER O WITH BREVE",
    "150=LATIN CAPITAL LETTER O WITH DOUBLE ACUTE,1SMALL LETTER O WITH DOUBLE ACUTE",
    "152=LATIN CAPITAL LIGATURE OE,1SMALL LIGATURE OE,1CAPITAL LETTER R WITH ACUTE",
    "155=LATIN SMALL LETTER R WITH ACUTE,1CAPITAL LETTER R WITH CEDILLA",
    "157=LATIN SMALL LETTER R WITH CEDILLA,1CAPITAL LETTER R WITH CARON",
    "159=LATIN SMALL LETTER R WITH CARON,1CAPITAL LETTER S WITH ACUTE,1SMALL LETTER S WITH ACUTE",
    "15c=LATIN CAPITAL LETTER S WITH CIRCUMFLEX,1SMALL LETTER S WITH CIRCUMFLEX",
    "15e=LATIN CAPITAL LETTER S WITH CEDILLA,1SMALL LETTER S WITH CEDILLA",
    "160=LATIN CAPITAL LETTER S WITH CARON,1SMALL LETTER S WITH CARON",
    "162=LATIN CAPITAL LETTER T WITH CEDILLA,1SMALL LETTER T WITH CEDILLA",
    "164=LATIN CAPITAL LETTER T WITH CARON,1SMALL LETTER T WITH CARON",
    "166=LATIN CAPITAL LETTER T WITH STROKE,1SMALL LETTER T WITH STROKE",
    "168=LATIN CAPITAL LETTER U WITH TILDE,1SMALL LETTER U WITH TILDE",
    "16a=LATIN CAPITAL LETTER U WITH MACRON,1SMALL LETTER U WITH MACRON",
    "16c=LATIN CAPITAL LETTER U WITH BREVE,1SMALL LETTER U WITH BREVE",
    "16e=LATIN CAPITAL LETTER U WITH RING ABOVE,1SMALL LETTER U WITH RING ABOVE",
    "170=LATIN CAPITAL LETTER U WITH DOUBLE ACUTE,1SMALL LETTER U WITH DOUBLE ACUTE",
    "172=LATIN CAPITAL LETTER U WITH OGONEK,1SMALL LETTER U WITH OGONEK",
    "174=LATIN CAPITAL LETTER W WITH CIRCUMFLEX,1SMALL LETTER W WITH CIRCUMFLEX",
    "176=LATIN CAPITAL LETTER Y WITH CIRCUMFLEX,1SMALL LETTER Y WITH CIRCUMFLEX",
    "178=LATIN CAPITAL LETTER Y WITH DIAERESIS,3Z WITH ACUTE,1SMALL LETTER Z WITH ACUTE",
    "17b=LATIN CAPITAL LETTER Z WITH DOT ABOVE,1SMALL LETTER Z WITH DOT ABOVE",
    "17d=LATIN CAPITAL LETTER Z WITH CARON,1SMALL LETTER Z WITH CARON,3LONG S,3B WITH STROKE",
    "181=LATIN CAPITAL LETTER B WITH HOOK,5TOPBAR,1SMALL LETTER B WITH TOPBAR",
    "184=LATIN CAPITAL LETTER TONE SIX,1SMALL LETTER TONE SIX,1CAPITAL LETTER OPEN O,3C WITH HOOK",
    "188=LATIN SMALL LETTER C WITH HOOK,1CAPITAL LETTER AFRICAN D,3D WITH HOOK,5TOPBAR",
    "18c=LATIN SMALL LETTER D WITH TOPBAR,3TURNED DELTA,1CAPITAL LETTER REVERSED E,3SCHWA,3OPEN E",
    "191=LATIN CAPITAL LETTER F WITH HOOK,1SMALL LETTER F WITH HOOK,1CAPITAL LETTER G WITH HOOK",
    "194=LATIN CAPITAL LETTER GAMMA,1SMALL LETTER HV,1CAPITAL LETTER IOTA,3I WITH STROKE",
    "198=LATIN CAPITAL LETTER K WITH HOOK,1SMALL LETTER K WITH HOOK,3L WITH BAR",
    "19b=LATIN SMALL LETTER LAMBDA WITH STROKE,1CAPITAL LETTER TURNED M,3N WITH LEFT HOOK",
    "19e=LATIN SMALL LETTER N WITH LONG RIGHT LEG,1CAPITAL LETTER O WITH MIDDLE TILDE,5HORN",
    "1a1=LATIN SMALL LETTER O WITH HORN,1CAPITAL LETTER OI,1SMALL LETTER OI",
    "1a4=LATIN CAPITAL LETTER P WITH HOOK,1SMALL LETTER P WITH HOOK,1LETTER YR",
    "1a7=LATIN CAPITAL LETTER TONE TWO,1SMALL LETTER TONE TWO,1CAPITAL LETTER ESH",
    "1aa=LATIN LETTER REVERSED ESH LOOP,1SMALL LETTER T WITH PALATAL HOOK",
    "1ac=LATIN CAPITAL LETTER T WITH HOOK,1SMALL LETTER T WITH HOOK",
    "1ae=LATIN CAPITAL LETTER T WITH RETROFLEX HOOK,3U WITH HORN,1SMALL LETTER U WITH HORN",
    "1b1=LATIN CAPITAL LETTER UPSILON,3V WITH HOOK,3Y WITH HOOK,1SMALL LETTER Y WITH HOOK",
    "1b5=LATIN CAPITAL LETTER Z WITH STROKE,1SMALL LETTER Z WITH STROKE,1CAPITAL LETTER EZH",
    "1b8=LATIN CAPITAL LETTER EZH REVERSED,1SMALL LETTER EZH REVERSED,4WITH TAIL",
    "1bb=LATIN LETTER TWO WITH STROKE,1CAPITAL LETTER TONE FIVE,1SMALL LETTER TONE FIVE",
    "1be=LATIN LETTER INVERTED GLOTTAL STOP WITH STROKE,2WYNN,2DENTAL CLICK,2LATERAL CLICK",
    "1c2=LATIN LETTER ALVEOLAR CLICK,2RETROFLEX CLICK,1CAPITAL LETTER DZ WITH CARON",
    "1c5=LATIN CAPITAL LETTER D WITH SMALL LETTER Z WITH CARON,1SMALL LETTER DZ WITH CARON",
    "1c7=LATIN CAPITAL LETTER LJ,3L WITH SMALL LETTER J,1SMALL LETTER LJ,1CAPITAL LETTER NJ",
    "1cb=LATIN CAPITAL LETTER N WITH SMALL LETTER J,1SMALL LETTER NJ,1CAPITAL LETTER A WITH CARON",
    "1ce=LATIN SMALL LETTER A WITH CARON,1CAPITAL LETTER I WITH CARON,1SMALL LETTER I WITH CARON",
    "1d1=LATIN CAPITAL LETTER O WITH CARON,1SMALL LETTER O WITH CARON",
    "1d3=LATIN CAPITAL LETTER U WITH CARON,1SMALL LETTER U WITH CARON",
    "1d5=LATIN CAPITAL LETTER U WITH DIAERESIS AND MACRON",
    "1d6=LATIN SMALL LETTER U WITH DIAERESIS AND MACRON",
    "1d7=LATIN CAPITAL LETTER U WITH DIAERESIS AND ACUTE,1SMALL LETTER U WITH DIAERESIS AND ACUTE",
    "1d9=LATIN CAPITAL LETTER U WITH DIAERESIS AND CARON,1SMALL LETTER U WITH DIAERESIS AND CARON",
    "1db=LATIN CAPITAL LETTER U WITH DIAERESIS AND GRAVE,1SMALL LETTER U WITH DIAERESIS AND GRAVE",
    "1dd=LATIN SMALL LETTER TURNED E,1CAPITAL LETTER A WITH DIAERESIS AND MACRON",
    "1df=LATIN SMALL LETTER A WITH DIAERESIS AND MACRON",
    "1e0=LATIN CAPITAL LETTER A WITH DOT ABOVE AND MACRON",
    "1e1=LATIN SMALL LETTER A WITH DOT ABOVE AND MACRON,1CAPITAL LETTER AE WITH MACRON",
    "1e3=LATIN SMALL LETTER AE WITH MACRON,1CAPITAL LETTER G WITH STROKE",
    "1e5=LATIN SMALL LETTER G WITH STROKE,1CAPITAL LETTER G WITH CARON,1SMALL LETTER G WITH CARON",
    "1e8=LATIN CAPITAL LETTER K WITH CARON,1SMALL LETTER K WITH CARON",
    "1ea=LATIN CAPITAL LETTER O WITH OGONEK,1SMALL LETTER O WITH OGONEK",
    "1ec=LATIN CAPITAL LETTER O WITH OGONEK AND MACRON,1SMALL LETTER O WITH OGONEK AND MACRON",
    "1ee=LATIN CAPITAL LETTER EZH WITH CARON,1SMALL LETTER EZH WITH CARON,3J WITH CARON",
    "1f1=LATIN CAPITAL LETTER DZ,3D WITH SMALL LETTER Z,1SMALL LETTER DZ",
    "1f4=LATIN CAPITAL LETTER G WITH ACUTE,1SMALL LETTER G WITH ACUTE,1CAPITAL LETTER HWAIR,3WYNN",
    "1f8=LATIN CAPITAL LETTER N WITH GRAVE,1SMALL LETTER N WITH GRAVE",
    "1fa=LATIN CAPITAL LETTER A WITH RING ABOVE AND ACUTE",
    "1fb=LATIN SMALL LETTER A WITH RING ABOVE AND ACUTE,1CAPITAL LETTER AE WITH ACUTE",
    "1fd=LATIN SMALL LETTER AE WITH ACUTE,1CAPITAL LETTER O WITH STROKE AND ACUTE",
    "1ff=LATIN SMALL LETTER O WITH STROKE AND ACUTE,1CAPITAL LETTER A WITH DOUBLE GRAVE",
    "201=LATIN SMALL LETTER A WITH DOUBLE GRAVE,1CAPITAL LETTER A WITH INVERTED BREVE",
    "203=LATIN SMALL LETTER A WITH INVERTED BREVE,1CAPITAL LETTER E WITH DOUBLE GRAVE",
    "205=LATIN SMALL LETTER E WITH DOUBLE GRAVE,1CAPITAL LETTER E WITH INVERTED BREVE",
    "207=LATIN SMALL LETTER E WITH INVERTED BREVE,1CAPITAL LETTER I WITH DOUBLE GRAVE",
    "209=LATIN SMALL LETTER I WITH DOUBLE GRAVE,1CAPITAL LETTER I WITH INVERTED BREVE",
    "20b=LATIN SMALL LETTER I WITH INVERTED BREVE,1CAPITAL LETTER O WITH DOUBLE GRAVE",
    "20d=LATIN SMALL LETTER O WITH DOUBLE GRAVE,1CAPITAL LETTER O WITH INVERTED BREVE",
    "20f=LATIN SMALL LETTER O WITH INVERTED BREVE,1CAPITAL LETTER R WITH DOUBLE GRAVE",
    "211=LATIN SMALL LETTER R WITH DOUBLE GRAVE,1CAPITAL LETTER R WITH INVERTED BREVE",
    "213=LATIN SMALL LETTER R WITH INVERTED BREVE,1CAPITAL LETTER U WITH DOUBLE GRAVE",
    "215=LATIN SMALL LETTER U WITH DOUBLE GRAVE,1CAPITAL LETTER U WITH INVERTED BREVE",
    "217=LATIN SMALL LETTER U WITH INVERTED BREVE,1CAPITAL LETTER S WITH COMMA BELOW",
    "219=LATIN SMALL LETTER S WITH COMMA BELOW,1CAPITAL LETTER T WITH COMMA BELOW",
    "21b=LATIN SMALL LETTER T WITH COMMA BELOW,1CAPITAL LETTER YOGH,1SMALL LETTER YOGH",
    "21e=LATIN CAPITAL LETTER H WITH CARON,1SMALL LETTER H WITH CARON",
    "220=LATIN CAPITAL LETTER N WITH LONG RIGHT LEG,1SMALL LETTER D WITH CURL,1CAPITAL LETTER OU",
    "223=LATIN SMALL LETTER OU,1CAPITAL LETTER Z WITH HOOK,1SMALL LETTER Z WITH HOOK",
    "226=LATIN CAPITAL LETTER A WITH DOT ABOVE,1SMALL LETTER A WITH DOT ABOVE",
    "228=LATIN CAPITAL LETTER E WITH CEDILLA,1SMALL LETTER E WITH CEDILLA",
    "22a=LATIN CAPITAL LETTER O WITH DIAERESIS AND MACRON",
    "22b=LATIN SMALL LETTER O WITH DIAERESIS AND MACRON,1CAPITAL LETTER O WITH TILDE AND MACRON",
    "22d=LATIN SMALL LETTER O WITH TILDE AND MACRON,1CAPITAL LETTER O WITH DOT ABOVE",
    "22f=LATIN SMALL LETTER O WITH DOT ABOVE,1CAPITAL LETTER O WITH DOT ABOVE AND MACRON",
    "231=LATIN SMALL LETTER O WITH DOT ABOVE AND MACRON,1CAPITAL LETTER Y WITH MACRON",
    "233=LATIN SMALL LETTER Y WITH MACRON,3L WITH CURL,3N WITH CURL,3T WITH CURL,3DOTLESS J",
    "238=LATIN SMALL LETTER DB DIGRAPH,3QP DIGRAPH,1CAPITAL LETTER A WITH STROKE,3C WITH STROKE",
    "23c=LATIN SMALL LETTER C WITH STROKE,1CAPITAL LETTER L WITH BAR,3T WITH DIAGONAL STROKE",
    "23f=LATIN SMALL LETTER S WITH SWASH TAIL,3Z WITH SWASH TAIL,1CAPITAL LETTER GLOTTAL STOP",
    "242=LATIN SMALL LETTER GLOTTAL STOP,1CAPITAL LETTER B WITH STROKE,3U BAR,3TURNED V",
    "246=LATIN CAPITAL LETTER E WITH STROKE,1SMALL LETTER E WITH STROKE",
    "248=LATIN CAPITAL LETTER J WITH STROKE,1SMALL LETTER J WITH STROKE",
    "24a=LATIN CAPITAL LETTER SMALL Q WITH HOOK TAIL,1SMALL LETTER Q WITH HOOK TAIL",
    "24c=LATIN CAPITAL LETTER R WITH STROKE,1SMALL LETTER R WITH STROKE",
    "24e=LATIN CAPITAL LETTER Y WITH STROKE,1SMALL LETTER Y WITH STROKE,3TURNED A,3ALPHA",
    "252=LATIN SMALL LETTER TURNED ALPHA,3B WITH HOOK,3OPEN O,3C WITH CURL,3D WITH TAIL,5HOOK",
    "258=LATIN SMALL LETTER REVERSED E,3SCHWA,4WITH HOOK,3OPEN E,3REVERSED OPEN E,6WITH HOOK",
    "25e=LATIN SMALL LETTER CLOSED REVERSED OPEN E,3DOTLESS J WITH STROKE,3G WITH HOOK,3SCRIPT G",
    "262=LATIN LETTER SMALL CAPITAL G,1SMALL LETTER GAMMA,3RAMS HORN,3TURNED H,3H WITH HOOK",
    "267=LATIN SMALL LETTER HENG WITH HOOK,3I WITH STROKE,3IOTA,1LETTER SMALL CAPITAL I",
    "26b=LATIN SMALL LETTER L WITH MIDDLE TILDE,5BELT,5RETROFLEX HOOK,3LEZH,3TURNED M",
    "270=LATIN SMALL LETTER TURNED M WITH LONG LEG,3M WITH HOOK,3N WITH LEFT HOOK,5RETROFLEX HOOK",
    "274=LATIN LETTER SMALL CAPITAL N,1SMALL LETTER BARRED O,1LETTER SMALL CAPITAL OE",
    "277=LATIN SMALL LETTER CLOSED OMEGA,3PHI,3TURNED R,5WITH LONG LEG,6HOOK,3R WITH LONG LEG",
    "27d=LATIN SMALL LETTER R WITH TAIL,5FISHHOOK,3REVERSED R WITH FISHHOOK",
    "280=LATIN LETTER SMALL CAPITAL R,4INVERTED R,1SMALL LETTER S WITH HOOK,3ESH",
    "284=LATIN SMALL LETTER DOTLESS J WITH STROKE AND HOOK,3SQUAT REVERSED ESH,3ESH WITH CURL",
    "287=LATIN SMALL LETTER TURNED T,3T WITH RETROFLEX HOOK,3U BAR,3UPSILON,3V WITH HOOK",
    "28c=LATIN SMALL LETTER TURNED V,4W,4Y,1LETTER SMALL CAPITAL Y",
    "290=LATIN SMALL LETTER Z WITH RETROFLEX HOOK,5CURL,3EZH,4WITH CURL,1LETTER GLOTTAL STOP",
    "295=LATIN LETTER PHARYNGEAL VOICED FRICATIVE,2INVERTED GLOTTAL STOP,2STRETCHED C",
    "298=LATIN LETTER BILABIAL CLICK,2SMALL CAPITAL B,1SMALL LETTER CLOSED OPEN E",
    "29b=LATIN LETTER SMALL CAPITAL G WITH HOOK,4H,1SMALL LETTER J WITH CROSSED-TAIL,3TURNED K",
    "29f=LATIN LETTER SMALL CAPITAL L,1SMALL LETTER Q WITH HOOK,1LETTER GLOTTAL STOP WITH STROKE",
    "2a2=LATIN LETTER REVERSED GLOTTAL STOP WITH STROKE,1SMALL LETTER DZ DIGRAPH,3DEZH DIGRAPH",
    "2a5=LATIN SMALL LETTER DZ DIGRAPH WITH CURL,3TS DIGRAPH,3TESH DIGRAPH,3TC DIGRAPH WITH CURL",
    "2a9=LATIN SMALL LETTER FENG DIGRAPH,3LS DIGRAPH,3LZ DIGRAPH,1LETTER BILABIAL PERCUSSIVE",
    "2ad=LATIN LETTER BIDENTAL PERCUSSIVE,1SMALL LETTER TURNED H WITH FISHHOOK,7AND TAIL",
    "2b0=MODIFIER LETTER SMALL H,4WITH HOOK,3J,3R,3TURNED R,5WITH HOOK,3CAPITAL INVERTED R,3W,3Y",
    "2b9=MODIFIER LETTER PRIME,2DOUBLE PRIME,2TURNED COMMA,2APOSTROPHE,2REVERSED COMMA",
    "2be=MODIFIER LETTER RIGHT HALF RING,2LEFT HALF RING,2GLOTTAL STOP,2REVERSED GLOTTAL STOP",
    "2c2=MODIFIER LETTER LEFT ARROWHEAD,2RIGHT ARROWHEAD,2UP ARROWHEAD,2DOWN ARROWHEAD",
    "2c6=MODIFIER LETTER CIRCUMFLEX ACCENT,CARON,MODIFIER LETTER VERTICAL LINE,2MACRON",
    "2ca=MODIFIER LETTER ACUTE ACCENT,2GRAVE ACCENT,2LOW VERTICAL LINE,3MACRON,3GRAVE ACCENT",
    "2cf=MODIFIER LETTER LOW ACUTE ACCENT,2TRIANGULAR COLON,2HALF TRIANGULAR COLON",
    "2d2=MODIFIER LETTER CENTRED RIGHT HALF RING,3LEFT HALF RING,2UP TACK,2DOWN TACK,2PLUS SIGN",
    "2d7=MODIFIER LETTER MINUS SIGN,BREVE,DOT ABOVE,RING ABOVE,OGONEK,SMALL TILDE",
    "2dd=DOUBLE ACUTE ACCENT,MODIFIER LETTER RHOTIC HOOK,2CROSS ACCENT,2SMALL GAMMA,3L,3S,3X",
    "2e4=MODIFIER LETTER SMALL REVERSED GLOTTAL STOP,2EXTRA-HIGH TONE BAR,2HIGH TONE BAR",
    "2e7=MODIFIER LETTER MID TONE BAR,2LOW TONE BAR,2EXTRA-LOW TONE BAR,2YIN DEPARTING TONE MARK",
    "2eb=MODIFIER LETTER YANG DEPARTING TONE MARK,2VOICING,2UNASPIRATED,2DOUBLE APOSTROPHE",
    "2ef=MODIFIER LETTER LOW DOWN ARROWHEAD,3UP ARROWHEAD,3LEFT ARROWHEAD,3RIGHT ARROWHEAD,3RING",
    "2f4=MODIFIER LETTER MIDDLE GRAVE ACCENT,3DOUBLE GRAVE ACCENT,4ACUTE ACCENT,2LOW TILDE",
    "2f8=MODIFIER LETTER RAISED COLON,2BEGIN HIGH TONE,2END HIGH TONE,2BEGIN LOW TONE",
    "2fc=MODIFIER LETTER END LOW TONE,2SHELF,2OPEN SHELF,2LOW LEFT ARROW,COMBINING GRAVE ACCENT",
    "301=COMBINING ACUTE ACCENT,1CIRCUMFLEX ACCENT,1TILDE,1MACRON,1OVERLINE,1BREVE,1DOT ABOVE",
    "308=COMBINING DIAERESIS,1HOOK ABOVE,1RING ABOVE,1DOUBLE ACUTE ACCENT,1CARON",
    "30d=COMBINING VERTICAL LINE ABOVE,1DOUBLE VERTICAL LINE ABOVE,2GRAVE ACCENT,1CANDRABINDU",
    "311=COMBINING INVERTED BREVE,1TURNED COMMA ABOVE,1COMMA ABOVE,1REVERSED COMMA ABOVE",
    "315=COMBINING COMMA ABOVE RIGHT,1GRAVE ACCENT BELOW,1ACUTE ACCENT BELOW,1LEFT TACK BELOW",
    "319=COMBINING RIGHT TACK BELOW,1LEFT ANGLE ABOVE,1HORN,1LEFT HALF RING BELOW,1UP TACK BELOW",
    "31e=COMBINING DOWN TACK BELOW,1PLUS SIGN BELOW,1MINUS SIGN BELOW,1PALATALIZED HOOK BELOW",
    "322=COMBINING RETROFLEX HOOK BELOW,1DOT BELOW,1DIAERESIS BELOW,1RING BELOW,1COMMA BELOW",
    "327=COMBINING CEDILLA,1OGONEK,1VERTICAL LINE BELOW,1BRIDGE BELOW,1INVERTED DOUBLE ARCH BELOW",
    "32c=COMBINING CARON BELOW,1CIRCUMFLEX ACCENT BELOW,1BREVE BELOW,1INVERTED BREVE BELOW",
    "330=COMBINING TILDE BELOW,1MACRON BELOW,1LOW LINE,1DOUBLE LOW LINE,1TILDE OVERLAY",
    "335=COMBINING SHORT STROKE OVERLAY,1LONG STROKE OVERLAY,1SHORT SOLIDUS OVERLAY",
    "338=COMBINING LONG SOLIDUS OVERLAY,1RIGHT HALF RING BELOW,1INVERTED BRIDGE BELOW",
    "33b=COMBINING SQUARE BELOW,1SEAGULL BELOW,1X ABOVE,1VERTICAL TILDE,1DOUBLE OVERLINE",
    "340=COMBINING GRAVE TONE MARK,1ACUTE TONE MARK,1GREEK PERISPOMENI,2KORONIS,2DIALYTIKA TONOS",
    "345=COMBINING GREEK YPOGEGRAMMENI,1BRIDGE ABOVE,1EQUALS SIGN BELOW",
    "348=COMBINING DOUBLE VERTICAL LINE BELOW,1LEFT ANGLE BELOW,1NOT TILDE ABOVE",
    "34b=COMBINING HOMOTHETIC ABOVE,1ALMOST EQUAL TO ABOVE,1LEFT RIGHT ARROW BELOW",
    "34e=COMBINING UPWARDS ARROW BELOW,1GRAPHEME JOINER,1RIGHT ARROWHEAD ABOVE",
    "351=COMBINING LEFT HALF RING ABOVE,1FERMATA,1X BELOW,1LEFT ARROWHEAD BELOW",
    "355=COMBINING RIGHT ARROWHEAD BELOW,3AND UP ARROWHEAD BELOW,2HALF RING ABOVE",
    "358=COMBINING DOT ABOVE RIGHT,1ASTERISK BELOW,1DOUBLE RING BELOW,1ZIGZAG ABOVE",
    "35c=COMBINING DOUBLE BREVE BELOW,2BREVE,2MACRON,3BELOW,2TILDE,2INVERTED BREVE",
    "362=COMBINING DOUBLE RIGHTWARDS ARROW BELOW,1LATIN SMALL LETTER A,4E,4I,4O,4U,4C,4D,4H,4M,4R",
    "36d=COMBINING LATIN SMALL LETTER T,4V,4X,GREEK CAPITAL LETTER HETA,1SMALL LETTER HETA",
    "372=GREEK CAPITAL LETTER ARCHAIC SAMPI,1SMALL LETTER ARCHAIC SAMPI,1NUMERAL SIGN",
    "375=GREEK LOWER NUMERAL SIGN,1CAPITAL LETTER PAMPHYLIAN DIGAMMA",
    "377=GREEK SMALL LETTER PAMPHYLIAN DIGAMMA",
    "37a=GREEK YPOGEGRAMMENI,1SMALL REVERSED LUNATE SIGMA SYMBOL,2DOTTED LUNATE SIGMA SYMBOL",
    "37d=GREEK SMALL REVERSED DOTTED LUNATE SIGMA SYMBOL,1QUESTION MARK,1CAPITAL LETTER YOT",
    "384=GREEK TONOS,1DIALYTIKA TONOS,1CAPITAL LETTER ALPHA WITH TONOS,1ANO TELEIA",
    "388=GREEK CAPITAL LETTER EPSILON WITH TONOS,3ETA WITH TONOS,3IOTA WITH TONOS",
    "38c=GREEK CAPITAL LETTER OMICRON WITH TONOS",
    "38e=GREEK CAPITAL LETTER UPSILON WITH TONOS,3OMEGA WITH TONOS",
    "390=GREEK SMALL LETTER IOTA WITH DIALYTIKA AND TONOS,1CAPITAL LETTER ALPHA,3BETA,3GAMMA",
    "394=GREEK CAPITAL LETTER DELTA,3EPSILON,3ZETA,3ETA,3THETA,3IOTA,3KAPPA,3LAMDA,3MU,3NU,3XI",
    "39f=GREEK CAPITAL LETTER OMICRON,3PI,3RHO",
    "3a3=GREEK CAPITAL LETTER SIGMA,3TAU,3UPSILON,3PHI,3CHI,3PSI,3OMEGA,3IOTA WITH DIALYTIKA",
    "3ab=GREEK CAPITAL LETTER UPSILON WITH DIALYTIKA,1SMALL LETTER ALPHA WITH TONOS",
    "3ad=GREEK SMALL LETTER EPSILON WITH TONOS,3ETA WITH TONOS,3IOTA WITH TONOS",
    "3b0=GREEK SMALL LETTER UPSILON WITH DIALYTIKA AND TONOS,3ALPHA,3BETA,3GAMMA,3DELTA,3EPSILON",
    "3b6=GREEK SMALL LETTER ZETA,3ETA,3THETA,3IOTA,3KAPPA,3LAMDA,3MU,3NU,3XI,3OMICRON,3PI,3RHO",
    "3c2=GREEK SMALL LETTER FINAL SIGMA,3SIGMA,3TAU,3UPSILON,3PHI,3CHI,3PSI,3OMEGA",
    "3ca=GREEK SMALL LETTER IOTA WITH DIALYTIKA,3UPSILON WITH DIALYTIKA,3OMICRON WITH TONOS",
    "3cd=GREEK SMALL LETTER UPSILON WITH TONOS,3OMEGA WITH TONOS,1CAPITAL KAI SYMBOL,1BETA SYMBOL",
    "3d1=GREEK THETA SYMBOL,1UPSILON WITH HOOK SYMBOL,3ACUTE AND HOOK SYMBOL",
    "3d4=GREEK UPSILON WITH DIAERESIS AND HOOK SYMBOL,1PHI SYMBOL,1PI SYMBOL,1KAI SYMBOL",
    "3d8=GREEK LETTER ARCHAIC KOPPA,1SMALL LETTER ARCHAIC KOPPA,1LETTER STIGMA",
    "3db=GREEK SMALL LETTER STIGMA,1LETTER DIGAMMA,1SMALL LETTER DIGAMMA,1LETTER KOPPA",
    "3df=GREEK SMALL LETTER KOPPA,1LETTER SAMPI,1SMALL LETTER SAMPI,COPTIC CAPITAL LETTER SHEI",
    "3e3=COPTIC SMALL LETTER SHEI,1CAPITAL LETTER FEI,1SMALL LETTER FEI,1CAPITAL LETTER KHEI",
    "3e7=COPTIC SMALL LETTER KHEI,1CAPITAL LETTER HORI,1SMALL LETTER HORI,1CAPITAL LETTER GANGIA",
    "3eb=COPTIC SMALL LETTER GANGIA,1CAPITAL LETTER SHIMA,1SMALL LETTER SHIMA,1CAPITAL LETTER DEI",
    "3ef=COPTIC SMALL LETTER DEI,GREEK KAPPA SYMBOL,1RHO SYMBOL,1LUNATE SIGMA SYMBOL,1LETTER YOT",
    "3f4=GREEK CAPITAL THETA SYMBOL,1LUNATE EPSILON SYMBOL,1REVERSED LUNATE EPSILON SYMBOL",
    "3f7=GREEK CAPITAL LETTER SHO,1SMALL LETTER SHO,1CAPITAL LUNATE SIGMA SYMBOL,2LETTER SAN",
    "3fb=GREEK SMALL LETTER SAN,1RHO WITH STROKE SYMBOL,1CAPITAL REVERSED LUNATE SIGMA SYMBOL",
    "3fe=GREEK CAPITAL DOTTED LUNATE SIGMA SYMBOL,2REVERSED DOTTED LUNATE SIGMA SYMBOL",
    "400=CYRILLIC CAPITAL LETTER IE WITH GRAVE,3IO,3DJE,3GJE,3UKRAINIAN IE,3DZE",
    "406=CYRILLIC CAPITAL LETTER BYELORUSSIAN-UKRAINIAN I,3YI,3JE,3LJE,3NJE,3TSHE,3KJE",
    "40d=CYRILLIC CAPITAL LETTER I WITH GRAVE,3SHORT U,3DZHE,3A,3BE,3VE,3GHE,3DE,3IE,3ZHE,3ZE,3I",
    "419=CYRILLIC CAPITAL LETTER SHORT I,3KA,3EL,3EM,3EN,3O,3PE,3ER,3ES,3TE,3U,3EF,3HA,3TSE,3CHE",
    "428=CYRILLIC CAPITAL LETTER SHA,3SHCHA,3HARD SIGN,3YERU,3SOFT SIGN,3E,3YU,3YA",
    "430=CYRILLIC SMALL LETTER A,3BE,3VE,3GHE,3DE,3IE,3ZHE,3ZE,3I,3SHORT I,3KA,3EL,3EM,3EN,3O,3PE",
    "440=CYRILLIC SMALL LETTER ER,3ES,3TE,3U,3EF,3HA,3TSE,3CHE,3SHA,3SHCHA,3HARD SIGN,3YERU",
    "44c=CYRILLIC SMALL LETTER SOFT SIGN,3E,3YU,3YA,3IE WITH GRAVE,3IO,3DJE,3GJE,3UKRAINIAN IE",
    "455=CYRILLIC SMALL LETTER DZE,3BYELORUSSIAN-UKRAINIAN I,3YI,3JE,3LJE,3NJE,3TSHE,3KJE",
    "45d=CYRILLIC SMALL LETTER I WITH GRAVE,3SHORT U,3DZHE,1CAPITAL LETTER OMEGA",
    "461=CYRILLIC SMALL LETTER OMEGA,1CAPITAL LETTER YAT,1SMALL LETTER YAT",
    "464=CYRILLIC CAPITAL LETTER IOTIFIED E,1SMALL LETTER IOTIFIED E,1CAPITAL LETTER LITTLE YUS",
    "467=CYRILLIC SMALL LETTER LITTLE YUS,1CAPITAL LETTER IOTIFIED LITTLE YUS",
    "469=CYRILLIC SMALL LETTER IOTIFIED LITTLE YUS,1CAPITAL LETTER BIG YUS,1SMALL LETTER BIG YUS",
    "46c=CYRILLIC CAPITAL LETTER IOTIFIED BIG YUS,1SMALL LETTER IOTIFIED BIG YUS",
    "46e=CYRILLIC CAPITAL LETTER KSI,1SMALL LETTER KSI,1CAPITAL LETTER PSI,1SMALL LETTER PSI",
    "472=CYRILLIC CAPITAL LETTER FITA,1SMALL LETTER FITA,1CAPITAL LETTER IZHITSA",
    "475=CYRILLIC SMALL LETTER IZHITSA,1CAPITAL LETTER IZHITSA WITH DOUBLE GRAVE ACCENT",
    "477=CYRILLIC SMALL LETTER IZHITSA WITH DOUBLE GRAVE ACCENT,1CAPITAL LETTER UK",
    "479=CYRILLIC SMALL LETTER UK,1CAPITAL LETTER ROUND OMEGA,1SMALL LETTER ROUND OMEGA",
    "47c=CYRILLIC CAPITAL LETTER OMEGA WITH TITLO,1SMALL LETTER OMEGA WITH TITLO",
    "47e=CYRILLIC CAPITAL LETTER OT,1SMALL LETTER OT,1CAPITAL LETTER KOPPA,1SMALL LETTER KOPPA",
    "482=CYRILLIC THOUSANDS SIGN,COMBINING CYRILLIC TITLO,2PALATALIZATION,2DASIA PNEUMATA",
    "486=COMBINING CYRILLIC PSILI PNEUMATA,2POKRYTIE,2HUNDRED THOUSANDS SIGN,2MILLIONS SIGN",
    "48a=CYRILLIC CAPITAL LETTER SHORT I WITH TAIL,1SMALL LETTER SHORT I WITH TAIL",
    "48c=CYRILLIC CAPITAL LETTER SEMISOFT SIGN,1SMALL LETTER SEMISOFT SIGN",
    "48e=CYRILLIC CAPITAL LETTER ER WITH TICK,1SMALL LETTER ER WITH TICK",
    "490=CYRILLIC CAPITAL LETTER GHE WITH UPTURN,1SMALL LETTER GHE WITH UPTURN",
    "492=CYRILLIC CAPITAL LETTER GHE WITH STROKE,1SMALL LETTER GHE WITH STROKE",
    "494=CYRILLIC CAPITAL LETTER GHE WITH MIDDLE HOOK,1SMALL LETTER GHE WITH MIDDLE HOOK",
    "496=CYRILLIC CAPITAL LETTER ZHE WITH DESCENDER,1SMALL LETTER ZHE WITH DESCENDER",
    "498=CYRILLIC CAPITAL LETTER ZE WITH DESCENDER,1SMALL LETTER ZE WITH DESCENDER",
    "49a=CYRILLIC CAPITAL LETTER KA WITH DESCENDER,1SMALL LETTER KA WITH DESCENDER",
    "49c=CYRILLIC CAPITAL LETTER KA WITH VERTICAL STROKE,1SMALL LETTER KA WITH VERTICAL STROKE",
    "49e=CYRILLIC CAPITAL LETTER KA WITH STROKE,1SMALL LETTER KA WITH STROKE",
    "4a0=CYRILLIC CAPITAL LETTER BASHKIR KA,1SMALL LETTER BASHKIR KA",
    "4a2=CYRILLIC CAPITAL LETTER EN WITH DESCENDER,1SMALL LETTER EN WITH DESCENDER",
    "4a4=CYRILLIC CAPITAL LIGATURE EN GHE,1SMALL LIGATURE EN GHE",
    "4a6=CYRILLIC CAPITAL LETTER PE WITH MIDDLE HOOK,1SMALL LETTER PE WITH MIDDLE HOOK",
    "4a8=CYRILLIC CAPITAL LETTER ABKHASIAN HA,1SMALL LETTER ABKHASIAN HA",
    "4aa=CYRILLIC CAPITAL LETTER ES WITH DESCENDER,1SMALL LETTER ES WITH DESCENDER",
    "4ac=CYRILLIC CAPITAL LETTER TE WITH DESCENDER,1SMALL LETTER TE WITH DESCENDER",
    "4ae=CYRILLIC CAPITAL LETTER STRAIGHT U,1SMALL LETTER STRAIGHT U",
    "4b0=CYRILLIC CAPITAL LETTER STRAIGHT U WITH STROKE,1SMALL LETTER STRAIGHT U WITH STROKE",
    "4b2=CYRILLIC CAPITAL LETTER HA WITH DESCENDER,1SMALL LETTER HA WITH DESCENDER",
    "4b4=CYRILLIC CAPITAL LIGATURE TE TSE,1SMALL LIGATURE TE TSE",
    "4b6=CYRILLIC CAPITAL LETTER CHE WITH DESCENDER,1SMALL LETTER CHE WITH DESCENDER",
    "4b8=CYRILLIC CAPITAL LETTER CHE WITH VERTICAL STROKE,1SMALL LETTER CHE WITH VERTICAL STROKE",
    "4ba=CYRILLIC CAPITAL LETTER SHHA,1SMALL LETTER SHHA,1CAPITAL LETTER ABKHASIAN CHE",
    "4bd=CYRILLIC SMALL LETTER ABKHASIAN CHE,1CAPITAL LETTER ABKHASIAN CHE WITH DESCENDER",
    "4bf=CYRILLIC SMALL LETTER ABKHASIAN CHE WITH DESCENDER,1LETTER PALOCHKA",
    "4c1=CYRILLIC CAPITAL LETTER ZHE WITH BREVE,1SMALL LETTER ZHE WITH BREVE",
    "4c3=CYRILLIC CAPITAL LETTER KA WITH HOOK,1SMALL LETTER KA WITH HOOK",
    "4c5=CYRILLIC CAPITAL LETTER EL WITH TAIL,1SMALL LETTER EL WITH TAIL",
    "4c7=CYRILLIC CAPITAL LETTER EN WITH HOOK,1SMALL LETTER EN WITH HOOK",
    "4c9=CYRILLIC CAPITAL LETTER EN WITH TAIL,1SMALL LETTER EN WITH TAIL",
    "4cb=CYRILLIC CAPITAL LETTER KHAKASSIAN CHE,1SMALL LETTER KHAKASSIAN CHE",
    "4cd=CYRILLIC CAPITAL LETTER EM WITH TAIL,1SMALL LETTER EM WITH TAIL,3PALOCHKA",
    "4d0=CYRILLIC CAPITAL LETTER A WITH BREVE,1SMALL LETTER A WITH BREVE",
    "4d2=CYRILLIC CAPITAL LETTER A WITH DIAERESIS,1SMALL LETTER A WITH DIAERESIS",
    "4d4=CYRILLIC CAPITAL LIGATURE A IE,1SMALL LIGATURE A IE,1CAPITAL LETTER IE WITH BREVE",
    "4d7=CYRILLIC SMALL LETTER IE WITH BREVE,1CAPITAL LETTER SCHWA,1SMALL LETTER SCHWA",
    "4da=CYRILLIC CAPITAL LETTER SCHWA WITH DIAERESIS,1SMALL LETTER SCHWA WITH DIAERESIS",
    "4dc=CYRILLIC CAPITAL LETTER ZHE WITH DIAERESIS,1SMALL LETTER ZHE WITH DIAERESIS",
    "4de=CYRILLIC CAPITAL LETTER ZE WITH DIAERESIS,1SMALL LETTER ZE WITH DIAERESIS",
    "4e0=CYRILLIC CAPITAL LETTER ABKHASIAN DZE,1SMALL LETTER ABKHASIAN DZE",
    "4e2=CYRILLIC CAPITAL LETTER I WITH MACRON,1SMALL LETTER I WITH MACRON",
    "4e4=CYRILLIC CAPITAL LETTER I WITH DIAERESIS,1SMALL LETTER I WITH DIAERESIS",
    "4e6=CYRILLIC CAPITAL LETTER O WITH DIAERESIS,1SMALL LETTER O WITH DIAERESIS",
    "4e8=CYRILLIC CAPITAL LETTER BARRED O,1SMALL LETTER BARRED O",
    "4ea=CYRILLIC CAPITAL LETTER BARRED O WITH DIAERESIS,1SMALL LETTER BARRED O WITH DIAERESIS",
    "4ec=CYRILLIC CAPITAL LETTER E WITH DIAERESIS,1SMALL LETTER E WITH DIAERESIS",
    "4ee=CYRILLIC CAPITAL LETTER U WITH MACRON,1SMALL LETTER U WITH MACRON",
    "4f0=CYRILLIC CAPITAL LETTER U WITH DIAERESIS,1SMALL LETTER U WITH DIAERESIS",
    "4f2=CYRILLIC CAPITAL LETTER U WITH DOUBLE ACUTE,1SMALL LETTER U WITH DOUBLE ACUTE",
    "4f4=CYRILLIC CAPITAL LETTER CHE WITH DIAERESIS,1SMALL LETTER CHE WITH DIAERESIS",
    "4f6=CYRILLIC CAPITAL LETTER GHE WITH DESCENDER,1SMALL LETTER GHE WITH DESCENDER",
    "4f8=CYRILLIC CAPITAL LETTER YERU WITH DIAERESIS,1SMALL LETTER YERU WITH DIAERESIS",
    "4fa=CYRILLIC CAPITAL LETTER GHE WITH STROKE AND HOOK,1SMALL LETTER GHE WITH STROKE AND HOOK",
    "4fc=CYRILLIC CAPITAL LETTER HA WITH HOOK,1SMALL LETTER HA WITH HOOK",
    "4fe=CYRILLIC CAPITAL LETTER HA WITH STROKE,1SMALL LETTER HA WITH STROKE",
    "500=CYRILLIC CAPITAL LETTER KOMI DE,1SMALL LETTER KOMI DE,1CAPITAL LETTER KOMI DJE",
    "503=CYRILLIC SMALL LETTER KOMI DJE,1CAPITAL LETTER KOMI ZJE,1SMALL LETTER KOMI ZJE",
    "506=CYRILLIC CAPITAL LETTER KOMI DZJE,1SMALL LETTER KOMI DZJE,1CAPITAL LETTER KOMI LJE",
    "509=CYRILLIC SMALL LETTER KOMI LJE,1CAPITAL LETTER KOMI NJE,1SMALL LETTER KOMI NJE",
    "50c=CYRILLIC CAPITAL LETTER KOMI SJE,1SMALL LETTER KOMI SJE,1CAPITAL LETTER KOMI TJE",
    "50f=CYRILLIC SMALL LETTER KOMI TJE,1CAPITAL LETTER REVERSED ZE,1SMALL LETTER REVERSED ZE",
    "512=CYRILLIC CAPITAL LETTER EL WITH HOOK,1SMALL LETTER EL WITH HOOK,1CAPITAL LETTER LHA",
    "515=CYRILLIC SMALL LETTER LHA,1CAPITAL LETTER RHA,1SMALL LETTER RHA,1CAPITAL LETTER YAE",
    "519=CYRILLIC SMALL LETTER YAE,1CAPITAL LETTER QA,1SMALL LETTER QA,1CAPITAL LETTER WE",
    "51d=CYRILLIC SMALL LETTER WE,1CAPITAL LETTER ALEUT KA,1SMALL LETTER ALEUT KA",
    "520=CYRILLIC CAPITAL LETTER EL WITH MIDDLE HOOK,1SMALL LETTER EL WITH MIDDLE HOOK",
    "522=CYRILLIC CAPITAL LETTER EN WITH MIDDLE HOOK,1SMALL LETTER EN WITH MIDDLE HOOK",
    "524=CYRILLIC CAPITAL LETTER PE WITH DESCENDER,1SMALL LETTER PE WITH DESCENDER",
    "526=CYRILLIC CAPITAL LETTER SHHA WITH DESCENDER,1SMALL LETTER SHHA WITH DESCENDER",
    "528=CYRILLIC CAPITAL LETTER EN WITH LEFT HOOK,1SMALL LETTER EN WITH LEFT HOOK",
    "52a=CYRILLIC CAPITAL LETTER DZZHE,1SMALL LETTER DZZHE,1CAPITAL LETTER DCHE",
    "52d=CYRILLIC SMALL LETTER DCHE,1CAPITAL LETTER EL WITH DESCENDER",
    "52f=CYRILLIC SMALL LETTER EL WITH DESCENDER",
    "5b0=HEBREW POINT SHEVA,2HATAF SEGOL,3PATAH,3QAMATS,2HIRIQ,2TSERE,2SEGOL,2PATAH,2QAMATS",
    "5b9=HEBREW POINT HOLAM,3HASER FOR VAV,2QUBUTS,2DAGESH OR MAPIQ,2METEG,1PUNCTUATION MAQAF",
    "5bf=HEBREW POINT RAFE,1PUNCTUATION PASEQ,1POINT SHIN DOT,2SIN DOT,1PUNCTUATION SOF PASUQ",
    "5c4=HEBREW MARK UPPER DOT,2LOWER DOT,1PUNCTUATION NUN HAFUKHA,1POINT QAMATS QATAN",
    "5d0=HEBREW LETTER ALEF,2BET,2GIMEL,2DALET,2HE,2VAV,2ZAYIN,2HET,2TET,2YOD,2FINAL KAF,2KAF",
    "5dc=HEBREW LETTER LAMED,2FINAL MEM,2MEM,2FINAL NUN,2NUN,2SAMEKH,2AYIN,2FINAL PE,2PE",
    "5e5=HEBREW LETTER FINAL TSADI,2TSADI,2QOF,2RESH,2SHIN,2TAV",
    "5ef=HEBREW YOD TRIANGLE,1LIGATURE YIDDISH DOUBLE VAV,3VAV YOD,3DOUBLE YOD",
    "5f3=HEBREW PUNCTUATION GERESH,2GERSHAYIM",
    "60c=ARABIC COMMA,1DATE SEPARATOR,1POETIC VERSE SIGN,1SIGN MISRA",
    "610=ARABIC SIGN SALLALLAHOU ALAYHE WASSALLAM,2ALAYHE ASSALLAM,2RAHMATULLAH ALAYHE",
    "613=ARABIC SIGN RADI ALLAHOU ANHU,2TAKHALLUS,1SMALL HIGH TAH",
    "616=ARABIC SMALL HIGH LIGATURE ALEF WITH LAM WITH YEH,3ZAIN,2FATHA,2DAMMA,2KASRA,1SEMICOLON",
    "61c=ARABIC LETTER MARK,1END OF TEXT MARK,1TRIPLE DOT PUNCTUATION MARK,1QUESTION MARK",
    "620=ARABIC LETTER KASHMIRI YEH,2HAMZA,2ALEF WITH MADDA ABOVE,4HAMZA ABOVE",
    "624=ARABIC LETTER WAW WITH HAMZA ABOVE,2ALEF WITH HAMZA BELOW,2YEH WITH HAMZA ABOVE,2ALEF",
    "628=ARABIC LETTER BEH,2TEH MARBUTA,2TEH,2THEH,2JEEM,2HAH,2KHAH,2DAL,2THAL,2REH,2ZAIN,2SEEN",
    "634=ARABIC LETTER SHEEN,2SAD,2DAD,2TAH,2ZAH,2AIN,2GHAIN,2KEHEH WITH TWO DOTS ABOVE",
    "63c=ARABIC LETTER KEHEH WITH THREE DOTS BELOW,2FARSI YEH WITH INVERTED V,5TWO DOTS ABOVE",
    "63f=ARABIC LETTER FARSI YEH WITH THREE DOTS ABOVE,1TATWEEL,1LETTER FEH,2QAF,2KAF,2LAM,2MEEM",
    "646=ARABIC LETTER NOON,2HEH,2WAW,2ALEF MAKSURA,2YEH,1FATHATAN,1DAMMATAN,1KASRATAN,1FATHA",
    "64f=ARABIC DAMMA,1KASRA,1SHADDA,1SUKUN,1MADDAH ABOVE,1HAMZA ABOVE,2BELOW,1SUBSCRIPT ALEF",
    "657=ARABIC INVERTED DAMMA,1MARK NOON GHUNNA,1ZWARAKAY,1VOWEL SIGN SMALL V ABOVE",
    "65b=ARABIC VOWEL SIGN INVERTED SMALL V ABOVE,3DOT BELOW,1REVERSED DAMMA,1FATHA WITH TWO DOTS",
    "65f=ARABIC WAVY HAMZA BELOW,ARABIC-INDIC DIGIT ZERO,2ONE,2TWO,2THREE,2FOUR,2FIVE,2SIX,2SEVEN",
    "668=ARABIC-INDIC DIGIT EIGHT,2NINE,ARABIC PERCENT SIGN,1DECIMAL SEPARATOR",
    "66c=ARABIC THOUSANDS SEPARATOR,1FIVE POINTED STAR,1LETTER DOTLESS BEH,3QAF,2SUPERSCRIPT ALEF",
    "671=ARABIC LETTER ALEF WASLA,3WITH WAVY HAMZA ABOVE,6BELOW,2HIGH HAMZA,4ALEF,4WAW",
    "677=ARABIC LETTER U WITH HAMZA ABOVE,2HIGH HAMZA YEH,2TTEH,2TTEHEH,2BEEH,2TEH WITH RING",
    "67d=ARABIC LETTER TEH WITH THREE DOTS ABOVE DOWNWARDS,2PEH,2TEHEH,2BEHEH",
    "681=ARABIC LETTER HAH WITH HAMZA ABOVE,4TWO DOTS VERTICAL ABOVE,2NYEH,2DYEH",
    "685=ARABIC LETTER HAH WITH THREE DOTS ABOVE,2TCHEH,2TCHEHEH,2DDAL,2DAL WITH RING,4DOT BELOW",
    "68b=ARABIC LETTER DAL WITH DOT BELOW AND SMALL TAH,2DAHAL,2DDAHAL,2DUL",
    "68f=ARABIC LETTER DAL WITH THREE DOTS ABOVE DOWNWARDS,4FOUR DOTS ABOVE,2RREH",
    "692=ARABIC LETTER REH WITH SMALL V,4RING,4DOT BELOW,4SMALL V BELOW,4DOT BELOW AND DOT ABOVE",
    "697=ARABIC LETTER REH WITH TWO DOTS ABOVE,2JEH,2REH WITH FOUR DOTS ABOVE",
    "69a=ARABIC LETTER SEEN WITH DOT BELOW AND DOT ABOVE,4THREE DOTS BELOW,7AND THREE DOTS ABOVE",
    "69d=ARABIC LETTER SAD WITH TWO DOTS BELOW,4THREE DOTS ABOVE,2TAH WITH THREE DOTS ABOVE",
    "6a0=ARABIC LETTER AIN WITH THREE DOTS ABOVE,2DOTLESS FEH,2FEH WITH DOT MOVED BELOW,5BELOW",
    "6a4=ARABIC LETTER VEH,2FEH WITH THREE DOTS BELOW,2PEHEH,2QAF WITH DOT ABOVE",
    "6a8=ARABIC LETTER QAF WITH THREE DOTS ABOVE,2KEHEH,2SWASH KAF,2KAF WITH RING,4DOT ABOVE,2NG",
    "6ae=ARABIC LETTER KAF WITH THREE DOTS BELOW,2GAF,3WITH RING,2NGOEH,2GAF WITH TWO DOTS BELOW",
    "6b3=ARABIC LETTER GUEH,2GAF WITH THREE DOTS ABOVE,2LAM WITH SMALL V,4DOT ABOVE",
    "6b7=ARABIC LETTER LAM WITH THREE DOTS ABOVE,6BELOW,2NOON WITH DOT BELOW,3GHUNNA,2RNOON",
    "6bc=ARABIC LETTER NOON WITH RING,4THREE DOTS ABOVE,2HEH DOACHASHMEE,2TCHEH WITH DOT ABOVE",
    "6c0=ARABIC LETTER HEH WITH YEH ABOVE,3GOAL,4WITH HAMZA ABOVE,2TEH MARBUTA GOAL",
    "6c4=ARABIC LETTER WAW WITH RING,2KIRGHIZ OE,2OE,2U,2YU,2KIRGHIZ YU,2WAW WITH TWO DOTS ABOVE",
    "6cb=ARABIC LETTER VE,2FARSI YEH,2YEH WITH TAIL,4SMALL V,2WAW WITH DOT ABOVE,2E",
    "6d1=ARABIC LETTER YEH WITH THREE DOTS BELOW,3BARREE,4WITH HAMZA ABOVE,1FULL STOP,1LETTER AE",
    "6d6=ARABIC SMALL HIGH LIGATURE SAD WITH LAM WITH ALEF MAKSURA",
    "6d7=ARABIC SMALL HIGH LIGATURE QAF WITH LAM WITH ALEF MAKSURA,3MEEM INITIAL FORM,3LAM ALEF",
    "6da=ARABIC SMALL HIGH JEEM,3THREE DOTS,3SEEN,1END OF AYAH,1START OF RUB EL HIZB",
    "6df=ARABIC SMALL HIGH ROUNDED ZERO,3UPRIGHT RECTANGULAR ZERO,3DOTLESS HEAD OF KHAH",
    "6e2=ARABIC SMALL HIGH MEEM ISOLATED FORM,2LOW SEEN,2HIGH MADDA,2WAW,2YEH,2HIGH YEH,3NOON",
    "6e9=ARABIC PLACE OF SAJDAH,1EMPTY CENTRE LOW STOP,3HIGH STOP",
    "6ec=ARABIC ROUNDED HIGH STOP WITH FILLED CENTRE,1SMALL LOW MEEM,1LETTER DAL WITH INVERTED V",
    "6ef=ARABIC LETTER REH WITH INVERTED V,EXTENDED ARABIC-INDIC DIGIT ZERO,3ONE,3TWO,3THREE",
    "6f4=EXTENDED ARABIC-INDIC DIGIT FOUR,3FIVE,3SIX,3SEVEN,3EIGHT,3NINE",
    "6fa=ARABIC LETTER SHEEN WITH DOT BELOW,2DAD WITH DOT BELOW,2GHAIN WITH DOT BELOW",
    "6fd=ARABIC SIGN SINDHI AMPERSAND,3POSTPOSITION MEN,1LETTER HEH WITH INVERTED V",
    "904=DEVANAGARI LETTER SHORT A,2A,2AA,2I,2II,2U,2UU,2VOCALIC R,3L,2CANDRA E,2SHORT E,2E,2AI",
    "911=DEVANAGARI LETTER CANDRA O,2SHORT O,2O,2AU,2KA,2KHA,2GA,2GHA,2NGA,2CA,2CHA,2JA,2JHA,2NYA",
    "91f=DEVANAGARI LETTER TTA,2TTHA,2DDA,2DDHA,2NNA,2TA,2THA,2DA,2DHA,2NA,2NNNA,2PA,2PHA,2BA",
    "92d=DEVANAGARI LETTER BHA,2MA,2YA,2RA,2RRA,2LA,2LLA,2LLLA,2VA,2SHA,2SSA,2SA,2HA",
    "93a=DEVANAGARI VOWEL SIGN OE,3OOE,1SIGN NUKTA,2AVAGRAHA,1VOWEL SIGN AA,3I,3II,3U,3UU",
    "943=DEVANAGARI VOWEL SIGN VOCALIC R,4RR,3CANDRA E,3SHORT E,3E,3AI,3CANDRA O,3SHORT O,3O,3AU",
    "94d=DEVANAGARI SIGN VIRAMA,1VOWEL SIGN PRISHTHAMATRA E,3AW,1OM,1STRESS SIGN UDATTA,3ANUDATTA",
    "953=DEVANAGARI GRAVE ACCENT,1ACUTE ACCENT,1VOWEL SIGN CANDRA LONG E,3UE,3UUE,1LETTER QA",
    "959=DEVANAGARI LETTER KHHA,2GHHA,2ZA,2DDDHA,2RHA,2FA,2YYA,2VOCALIC RR,3LL",
    "962=DEVANAGARI VOWEL SIGN VOCALIC L,4LL,1DANDA,1DOUBLE DANDA,1DIGIT ZERO,2ONE,2TWO,2THREE",
    "96a=DEVANAGARI DIGIT FOUR,2FIVE,2SIX,2SEVEN,2EIGHT,2NINE,1ABBREVIATION SIGN",
    "971=DEVANAGARI SIGN HIGH SPACING DOT,1LETTER CANDRA A,2OE,2OOE,2AW,2UE,2UUE,2MARWARI DDA",
    "979=DEVANAGARI LETTER ZHA,2HEAVY YA,2GGA,2JJA,2GLOTTAL STOP,2DDDA,2BBA",
    "e01=THAI CHARACTER KO KAI,2KHO KHAI,3KHUAT,3KHWAI,3KHON,3RAKHANG,2NGO NGU,2CHO CHAN,3CHING",
    "e0a=THAI CHARACTER CHO CHANG,2SO SO,2CHO CHOE,2YO YING,2DO CHADA,2TO PATAK,2THO THAN",
    "e11=THAI CHARACTER THO NANGMONTHO,3PHUTHAO,2NO NEN,2DO DEK,2TO TAO,2THO THUNG,3THAHAN,3THONG",
    "e19=THAI CHARACTER NO NU,2BO BAIMAI,2PO PLA,2PHO PHUNG,2FO FA,2PHO PHAN,2FO FAN,2PHO SAMPHAO",
    "e21=THAI CHARACTER MO MA,2YO YAK,2RO RUA,2RU,2LO LING,2LU,2WO WAEN,2SO SALA,3RUSI,3SUA",
    "e2b=THAI CHARACTER HO HIP,2LO CHULA,2O ANG,2HO NOKHUK,2PAIYANNOI,2SARA A,2MAI HAN-AKAT",
    "e32=THAI CHARACTER SARA AA,3AM,3I,3II,3UE,3UEE,3U,3UU,2PHINTHU",
    "e3f=THAI CURRENCY SYMBOL BAHT,1CHARACTER SARA E,3AE,3O,3AI MAIMUAN,4MAIMALAI,2LAKKHANGYAO",
    "e46=THAI CHARACTER MAIYAMOK,2MAITAIKHU,2MAI EK,3THO,3TRI,3CHATTAWA,2THANTHAKHAT,2NIKHAHIT",
    "e4e=THAI CHARACTER YAMAKKAN,2FONGMAN,1DIGIT ZERO,2ONE,2TWO,2THREE,2FOUR,2FIVE,2SIX,2SEVEN",
    "e58=THAI DIGIT EIGHT,2NINE,1CHARACTER ANGKHANKHU,2KHOMUT",
    "10d0=GEORGIAN LETTER AN,2BAN,2GAN,2DON,2EN,2VIN,2ZEN,2TAN,2IN,2KAN,2LAS,2MAN,2NAR,2ON,2PAR",
    "10df=GEORGIAN LETTER ZHAR,2RAE,2SAN,2TAR,2UN,2PHAR,2KHAR,2GHAN,2QAR,2SHIN,2CHIN,2CAN,2JIL",
    "10ec=GEORGIAN LETTER CIL,2CHAR,2XAN,2JHAN,2HAE,2HE,2HIE,2WE,2HAR,2HOE,2FI,2YN,2ELIFI",
    "10f9=GEORGIAN LETTER TURNED GAN,2AIN,1PARAGRAPH SEPARATOR,MODIFIER LETTER GEORGIAN NAR",
    "10fd=GEORGIAN LETTER AEN,2HARD SIGN,2LABIAL SIGN",
    "1d00=LATIN LETTER SMALL CAPITAL A,4AE,1SMALL LETTER TURNED AE,1LETTER SMALL CAPITAL BARRED B",
    "1d04=LATIN LETTER SMALL CAPITAL C,4D,4ETH,4E,1SMALL LETTER TURNED OPEN E,4I",
    "1d0a=LATIN LETTER SMALL CAPITAL J,4K,4L WITH STROKE,4M,4REVERSED N,4O,4OPEN O",
    "1d11=LATIN SMALL LETTER SIDEWAYS O,4OPEN O,4O WITH STROKE,3TURNED OE",
    "1d15=LATIN LETTER SMALL CAPITAL OU,1SMALL LETTER TOP HALF O,3BOTTOM HALF O",
    "1d18=LATIN LETTER SMALL CAPITAL P,4REVERSED R,4TURNED R,4T,4U,1SMALL LETTER SIDEWAYS U",
    "1d1e=LATIN SMALL LETTER SIDEWAYS DIAERESIZED U,4TURNED M,1LETTER SMALL CAPITAL V,4W,4Z,4EZH",
    "1d24=LATIN LETTER VOICED LARYNGEAL SPIRANT,2AIN,GREEK LETTER SMALL CAPITAL GAMMA,4LAMDA,4PI",
    "1d29=GREEK LETTER SMALL CAPITAL RHO,4PSI,CYRILLIC LETTER SMALL CAPITAL EL",
    "1d2c=MODIFIER LETTER CAPITAL A,3AE,3B,3BARRED B,3D,3E,3REVERSED E,3G,3H,3I,3J,3K,3L,3M,3N",
    "1d3b=MODIFIER LETTER CAPITAL REVERSED N,3O,3OU,3P,3R,3T,3U,3W,2SMALL A,3TURNED A,3ALPHA",
    "1d46=MODIFIER LETTER SMALL TURNED AE,3B,3D,3E,3SCHWA,3OPEN E,3TURNED OPEN E,3G,3TURNED I,3K",
    "1d50=MODIFIER LETTER SMALL M,3ENG,3O,3OPEN O,3TOP HALF O,3BOTTOM HALF O,3P,3T,3U,3SIDEWAYS U",
    "1d5a=MODIFIER LETTER SMALL TURNED M,3V,3AIN,3BETA,3GREEK GAMMA,3DELTA,3GREEK PHI,3CHI",
    "1d62=LATIN SUBSCRIPT SMALL LETTER I,4R,4U,4V,GREEK SUBSCRIPT SMALL LETTER BETA,4GAMMA,4RHO",
    "1d69=GREEK SUBSCRIPT SMALL LETTER PHI,4CHI,LATIN SMALL LETTER UE,3B WITH MIDDLE TILDE",
    "1d6d=LATIN SMALL LETTER D WITH MIDDLE TILDE,3F WITH MIDDLE TILDE,3M WITH MIDDLE TILDE",
    "1d70=LATIN SMALL LETTER N WITH MIDDLE TILDE,3P WITH MIDDLE TILDE,3R WITH MIDDLE TILDE",
    "1d73=LATIN SMALL LETTER R WITH FISHHOOK AND MIDDLE TILDE,3S WITH MIDDLE TILDE",
    "1d75=LATIN SMALL LETTER T WITH MIDDLE TILDE,3Z WITH MIDDLE TILDE,3TURNED G",
    "1d78=MODIFIER LETTER CYRILLIC EN,LATIN SMALL LETTER INSULAR G,3TH WITH STRIKETHROUGH",
    "1d7b=LATIN SMALL CAPITAL LETTER I WITH STROKE,2LETTER IOTA WITH STROKE,3P WITH STROKE",
    "1d7e=LATIN SMALL CAPITAL LETTER U WITH STROKE,2LETTER UPSILON WITH STROKE",
    "1d80=LATIN SMALL LETTER B WITH PALATAL HOOK,3D WITH PALATAL HOOK,3F WITH PALATAL HOOK",
    "1d83=LATIN SMALL LETTER G WITH PALATAL HOOK,3K WITH PALATAL HOOK,3L WITH PALATAL HOOK",
    "1d86=LATIN SMALL LETTER M WITH PALATAL HOOK,3N WITH PALATAL HOOK,3P WITH PALATAL HOOK",
    "1d89=LATIN SMALL LETTER R WITH PALATAL HOOK,3S WITH PALATAL HOOK,3ESH WITH PALATAL HOOK",
    "1d8c=LATIN SMALL LETTER V WITH PALATAL HOOK,3X WITH PALATAL HOOK,3Z WITH PALATAL HOOK",
    "1d8f=LATIN SMALL LETTER A WITH RETROFLEX HOOK,3ALPHA WITH RETROFLEX HOOK",
    "1d91=LATIN SMALL LETTER D WITH HOOK AND TAIL,3E WITH RETROFLEX HOOK",
    "1d93=LATIN SMALL LETTER OPEN E WITH RETROFLEX HOOK,3REVERSED OPEN E WITH RETROFLEX HOOK",
    "1d95=LATIN SMALL LETTER SCHWA WITH RETROFLEX HOOK,3I WITH RETROFLEX HOOK",
    "1d97=LATIN SMALL LETTER OPEN O WITH RETROFLEX HOOK,3ESH WITH RETROFLEX HOOK",
    "1d99=LATIN SMALL LETTER U WITH RETROFLEX HOOK,3EZH WITH RETROFLEX HOOK",
    "1d9b=MODIFIER LETTER SMALL TURNED ALPHA,3C,4WITH CURL,3ETH,3REVERSED OPEN E,3F",
    "1da1=MODIFIER LETTER SMALL DOTLESS J WITH STROKE,3SCRIPT G,3TURNED H,3I WITH STROKE,3IOTA",
    "1da6=MODIFIER LETTER SMALL CAPITAL I,5WITH STROKE,3J WITH CROSSED-TAIL",
    "1da9=MODIFIER LETTER SMALL L WITH RETROFLEX HOOK,5PALATAL HOOK,3CAPITAL L,3M WITH HOOK",
    "1dad=MODIFIER LETTER SMALL TURNED M WITH LONG LEG,3N WITH LEFT HOOK,5RETROFLEX HOOK",
    "1db0=MODIFIER LETTER SMALL CAPITAL N,3BARRED O,3PHI,3S WITH HOOK,3ESH,3T WITH PALATAL HOOK",
    "1db6=MODIFIER LETTER SMALL U BAR,3UPSILON,3CAPITAL U,3V WITH HOOK,3TURNED V,3Z",
    "1dbc=MODIFIER LETTER SMALL Z WITH RETROFLEX HOOK,5CURL,3EZH,3THETA",
    "1e00=LATIN CAPITAL LETTER A WITH RING BELOW,1SMALL LETTER A WITH RING BELOW",
    "1e02=LATIN CAPITAL LETTER B WITH DOT ABOVE,1SMALL LETTER B WITH DOT ABOVE",
    "1e04=LATIN CAPITAL LETTER B WITH DOT BELOW,1SMALL LETTER B WITH DOT BELOW",
    "1e06=LATIN CAPITAL LETTER B WITH LINE BELOW,1SMALL LETTER B WITH LINE BELOW",
    "1e08=LATIN CAPITAL LETTER C WITH CEDILLA AND ACUTE,1SMALL LETTER C WITH CEDILLA AND ACUTE",
    "1e0a=LATIN CAPITAL LETTER D WITH DOT ABOVE,1SMALL LETTER D WITH DOT ABOVE",
    "1e0c=LATIN CAPITAL LETTER D WITH DOT BELOW,1SMALL LETTER D WITH DOT BELOW",
    "1e0e=LATIN CAPITAL LETTER D WITH LINE BELOW,1SMALL LETTER D WITH LINE BELOW",
    "1e10=LATIN CAPITAL LETTER D WITH CEDILLA,1SMALL LETTER D WITH CEDILLA",
    "1e12=LATIN CAPITAL LETTER D WITH CIRCUMFLEX BELOW,1SMALL LETTER D WITH CIRCUMFLEX BELOW",
    "1e14=LATIN CAPITAL LETTER E WITH MACRON AND GRAVE,1SMALL LETTER E WITH MACRON AND GRAVE",
    "1e16=LATIN CAPITAL LETTER E WITH MACRON AND ACUTE,1SMALL LETTER E WITH MACRON AND ACUTE",
    "1e18=LATIN CAPITAL LETTER E WITH CIRCUMFLEX BELOW,1SMALL LETTER E WITH CIRCUMFLEX BELOW",
    "1e1a=LATIN CAPITAL LETTER E WITH TILDE BELOW,1SMALL LETTER E WITH TILDE BELOW",
    "1e1c=LATIN CAPITAL LETTER E WITH CEDILLA AND BREVE,1SMALL LETTER E WITH CEDILLA AND BREVE",
    "1e1e=LATIN CAPITAL LETTER F WITH DOT ABOVE,1SMALL LETTER F WITH DOT ABOVE",
    "1e20=LATIN CAPITAL LETTER G WITH MACRON,1SMALL LETTER G WITH MACRON",
    "1e22=LATIN CAPITAL LETTER H WITH DOT ABOVE,1SMALL LETTER H WITH DOT ABOVE",
    "1e24=LATIN CAPITAL LETTER H WITH DOT BELOW,1SMALL LETTER H WITH DOT BELOW",
    "1e26=LATIN CAPITAL LETTER H WITH DIAERESIS,1SMALL LETTER H WITH DIAERESIS",
    "1e28=LATIN CAPITAL LETTER H WITH CEDILLA,1SMALL LETTER H WITH CEDILLA",
    "1e2a=LATIN CAPITAL LETTER H WITH BREVE BELOW,1SMALL LETTER H WITH BREVE BELOW",
    "1e2c=LATIN CAPITAL LETTER I WITH TILDE BELOW,1SMALL LETTER I WITH TILDE BELOW",
    "1e2e=LATIN CAPITAL LETTER I WITH DIAERESIS AND ACUTE",
    "1e2f=LATIN SMALL LETTER I WITH DIAERESIS AND ACUTE,1CAPITAL LETTER K WITH ACUTE",
    "1e31=LATIN SMALL LETTER K WITH ACUTE,1CAPITAL LETTER K WITH DOT BELOW",
    "1e33=LATIN SMALL LETTER K WITH DOT BELOW,1CAPITAL LETTER K WITH LINE BELOW",
    "1e35=LATIN SMALL LETTER K WITH LINE BELOW,1CAPITAL LETTER L WITH DOT BELOW",
    "1e37=LATIN SMALL LETTER L WITH DOT BELOW,1CAPITAL LETTER L WITH DOT BELOW AND MACRON",
    "1e39=LATIN SMALL LETTER L WITH DOT BELOW AND MACRON,1CAPITAL LETTER L WITH LINE BELOW",
    "1e3b=LATIN SMALL LETTER L WITH LINE BELOW,1CAPITAL LETTER L WITH CIRCUMFLEX BELOW",
    "1e3d=LATIN SMALL LETTER L WITH CIRCUMFLEX BELOW,1CAPITAL LETTER M WITH ACUTE",
    "1e3f=LATIN SMALL LETTER M WITH ACUTE,1CAPITAL LETTER M WITH DOT ABOVE",
    "1e41=LATIN SMALL LETTER M WITH DOT ABOVE,1CAPITAL LETTER M WITH DOT BELOW",
    "1e43=LATIN SMALL LETTER M WITH DOT BELOW,1CAPITAL LETTER N WITH DOT ABOVE",
    "1e45=LATIN SMALL LETTER N WITH DOT ABOVE,1CAPITAL LETTER N WITH DOT BELOW",
    "1e47=LATIN SMALL LETTER N WITH DOT BELOW,1CAPITAL LETTER N WITH LINE BELOW",
    "1e49=LATIN SMALL LETTER N WITH LINE BELOW,1CAPITAL LETTER N WITH CIRCUMFLEX BELOW",
    "1e4b=LATIN SMALL LETTER N WITH CIRCUMFLEX BELOW,1CAPITAL LETTER O WITH TILDE AND ACUTE",
    "1e4d=LATIN SMALL LETTER O WITH TILDE AND ACUTE,1CAPITAL LETTER O WITH TILDE AND DIAERESIS",
    "1e4f=LATIN SMALL LETTER O WITH TILDE AND DIAERESIS,1CAPITAL LETTER O WITH MACRON AND GRAVE",
    "1e51=LATIN SMALL LETTER O WITH MACRON AND GRAVE,1CAPITAL LETTER O WITH MACRON AND ACUTE",
    "1e53=LATIN SMALL LETTER O WITH MACRON AND ACUTE,1CAPITAL LETTER P WITH ACUTE",
    "1e55=LATIN SMALL LETTER P WITH ACUTE,1CAPITAL LETTER P WITH DOT ABOVE",
    "1e57=LATIN SMALL LETTER P WITH DOT ABOVE,1CAPITAL LETTER R WITH DOT ABOVE",
    "1e59=LATIN SMALL LETTER R WITH DOT ABOVE,1CAPITAL LETTER R WITH DOT BELOW",
    "1e5b=LATIN SMALL LETTER R WITH DOT BELOW,1CAPITAL LETTER R WITH DOT BELOW AND MACRON",
    "1e5d=LATIN SMALL LETTER R WITH DOT BELOW AND MACRON,1CAPITAL LETTER R WITH LINE BELOW",
    "1e5f=LATIN SMALL LETTER R WITH LINE BELOW,1CAPITAL LETTER S WITH DOT ABOVE",
    "1e61=LATIN SMALL LETTER S WITH DOT ABOVE,1CAPITAL LETTER S WITH DOT BELOW",
    "1e63=LATIN SMALL LETTER S WITH DOT BELOW,1CAPITAL LETTER S WITH ACUTE AND DOT ABOVE",
    "1e65=LATIN SMALL LETTER S WITH ACUTE AND DOT ABOVE",
    "1e66=LATIN CAPITAL LETTER S WITH CARON AND DOT ABOVE",
    "1e67=LATIN SMALL LETTER S WITH CARON AND DOT ABOVE",
    "1e68=LATIN CAPITAL LETTER S WITH DOT BELOW AND DOT ABOVE",
    "1e69=LATIN SMALL LETTER S WITH DOT BELOW AND DOT ABOVE,1CAPITAL LETTER T WITH DOT ABOVE",
    "1e6b=LATIN SMALL LETTER T WITH DOT ABOVE,1CAPITAL LETTER T WITH DOT BELOW",
    "1e6d=LATIN SMALL LETTER T WITH DOT BELOW,1CAPITAL LETTER T WITH LINE BELOW",
    "1e6f=LATIN SMALL LETTER T WITH LINE BELOW,1CAPITAL LETTER T WITH CIRCUMFLEX BELOW",
    "1e71=LATIN SMALL LETTER T WITH CIRCUMFLEX BELOW,1CAPITAL LETTER U WITH DIAERESIS BELOW",
    "1e73=LATIN SMALL LETTER U WITH DIAERESIS BELOW,1CAPITAL LETTER U WITH TILDE BELOW",
    "1e75=LATIN SMALL LETTER U WITH TILDE BELOW,1CAPITAL LETTER U WITH CIRCUMFLEX BELOW",
    "1e77=LATIN SMALL LETTER U WITH CIRCUMFLEX BELOW,1CAPITAL LETTER U WITH TILDE AND ACUTE",
    "1e79=LATIN SMALL LETTER U WITH TILDE AND ACUTE,1CAPITAL LETTER U WITH MACRON AND DIAERESIS",
    "1e7b=LATIN SMALL LETTER U WITH MACRON AND DIAERESIS,1CAPITAL LETTER V WITH TILDE",
    "1e7d=LATIN SMALL LETTER V WITH TILDE,1CAPITAL LETTER V WITH DOT BELOW",
    "1e7f=LATIN SMALL LETTER V WITH DOT BELOW,1CAPITAL LETTER W WITH GRAVE",
    "1e81=LATIN SMALL LETTER W WITH GRAVE,1CAPITAL LETTER W WITH ACUTE,1SMALL LETTER W WITH ACUTE",
    "1e84=LATIN CAPITAL LETTER W WITH DIAERESIS,1SMALL LETTER W WITH DIAERESIS",
    "1e86=LATIN CAPITAL LETTER W WITH DOT ABOVE,1SMALL LETTER W WITH DOT ABOVE",
    "1e88=LATIN CAPITAL LETTER W WITH DOT BELOW,1SMALL LETTER W WITH DOT BELOW",
    "1e8a=LATIN CAPITAL LETTER X WITH DOT ABOVE,1SMALL LETTER X WITH DOT ABOVE",
    "1e8c=LATIN CAPITAL LETTER X WITH DIAERESIS,1SMALL LETTER X WITH DIAERESIS",
    "1e8e=LATIN CAPITAL LETTER Y WITH DOT ABOVE,1SMALL LETTER Y WITH DOT ABOVE",
    "1e90=LATIN CAPITAL LETTER Z WITH CIRCUMFLEX,1SMALL LETTER Z WITH CIRCUMFLEX",
    "1e92=LATIN CAPITAL LETTER Z WITH DOT BELOW,1SMALL LETTER Z WITH DOT BELOW",
    "1e94=LATIN CAPITAL LETTER Z WITH LINE BELOW,1SMALL LETTER Z WITH LINE BELOW",
    "1e96=LATIN SMALL LETTER H WITH LINE BELOW,3T WITH DIAERESIS,3W WITH RING ABOVE",
    "1e99=LATIN SMALL LETTER Y WITH RING ABOVE,3A WITH RIGHT HALF RING,3LONG S WITH DOT ABOVE",
    "1e9c=LATIN SMALL LETTER LONG S WITH DIAGONAL STROKE,6HIGH STROKE,1CAPITAL LETTER SHARP S",
    "1e9f=LATIN SMALL LETTER DELTA,1CAPITAL LETTER A WITH DOT BELOW",
    "1ea1=LATIN SMALL LETTER A WITH DOT BELOW,1CAPITAL LETTER A WITH HOOK ABOVE",
    "1ea3=LATIN SMALL LETTER A WITH HOOK ABOVE,1CAPITAL LETTER A WITH CIRCUMFLEX AND ACUTE",
    "1ea5=LATIN SMALL LETTER A WITH CIRCUMFLEX AND ACUTE",
    "1ea6=LATIN CAPITAL LETTER A WITH CIRCUMFLEX AND GRAVE",
    "1ea7=LATIN SMALL LETTER A WITH CIRCUMFLEX AND GRAVE",
    "1ea8=LATIN CAPITAL LETTER A WITH CIRCUMFLEX AND HOOK ABOVE",
    "1ea9=LATIN SMALL LETTER A WITH CIRCUMFLEX AND HOOK ABOVE",
    "1eaa=LATIN CAPITAL LETTER A WITH CIRCUMFLEX AND TILDE",
    "1eab=LATIN SMALL LETTER A WITH CIRCUMFLEX AND TILDE",
    "1eac=LATIN CAPITAL LETTER A WITH CIRCUMFLEX AND DOT BELOW",
    "1ead=LATIN SMALL LETTER A WITH CIRCUMFLEX AND DOT BELOW",
    "1eae=LATIN CAPITAL LETTER A WITH BREVE AND ACUTE,1SMALL LETTER A WITH BREVE AND ACUTE",
    "1eb0=LATIN CAPITAL LETTER A WITH BREVE AND GRAVE,1SMALL LETTER A WITH BREVE AND GRAVE",
    "1eb2=LATIN CAPITAL LETTER A WITH BREVE AND HOOK ABOVE",
    "1eb3=LATIN SMALL LETTER A WITH BREVE AND HOOK ABOVE,1CAPITAL LETTER A WITH BREVE AND TILDE",
    "1eb5=LATIN SMALL LETTER A WITH BREVE AND TILDE,1CAPITAL LETTER A WITH BREVE AND DOT BELOW",
    "1eb7=LATIN SMALL LETTER A WITH BREVE AND DOT BELOW,1CAPITAL LETTER E WITH DOT BELOW",
    "1eb9=LATIN SMALL LETTER E WITH DOT BELOW,1CAPITAL LETTER E WITH HOOK ABOVE",
    "1ebb=LATIN SMALL LETTER E WITH HOOK ABOVE,1CAPITAL LETTER E WITH TILDE",
    "1ebd=LATIN SMALL LETTER E WITH TILDE,1CAPITAL LETTER E WITH CIRCUMFLEX AND ACUTE",
    "1ebf=LATIN SMALL LETTER E WITH CIRCUMFLEX AND ACUTE",
    "1ec0=LATIN CAPITAL LETTER E WITH CIRCUMFLEX AND GRAVE",
    "1ec1=LATIN SMALL LETTER E WITH CIRCUMFLEX AND GRAVE",
    "1ec2=LATIN CAPITAL LETTER E WITH CIRCUMFLEX AND HOOK ABOVE",
    "1ec3=LATIN SMALL LETTER E WITH CIRCUMFLEX AND HOOK ABOVE",
    "1ec4=LATIN CAPITAL LETTER E WITH CIRCUMFLEX AND TILDE",
    "1ec5=LATIN SMALL LETTER E WITH CIRCUMFLEX AND TILDE",
    "1ec6=LATIN CAPITAL LETTER E WITH CIRCUMFLEX AND DOT BELOW",
    "1ec7=LATIN SMALL LETTER E WITH CIRCUMFLEX AND DOT BELOW,1CAPITAL LETTER I WITH HOOK ABOVE",
    "1ec9=LATIN SMALL LETTER I WITH HOOK ABOVE,1CAPITAL LETTER I WITH DOT BELOW",
    "1ecb=LATIN SMALL LETTER I WITH DOT BELOW,1CAPITAL LETTER O WITH DOT BELOW",
    "1ecd=LATIN SMALL LETTER O WITH DOT BELOW,1CAPITAL LETTER O WITH HOOK ABOVE",
    "1ecf=LATIN SMALL LETTER O WITH HOOK ABOVE,1CAPITAL LETTER O WITH CIRCUMFLEX AND ACUTE",
    "1ed1=LATIN SMALL LETTER O WITH CIRCUMFLEX AND ACUTE",
    "1ed2=LATIN CAPITAL LETTER O WITH CIRCUMFLEX AND GRAVE",
    "1ed3=LATIN SMALL LETTER O WITH CIRCUMFLEX AND GRAVE",
    "1ed4=LATIN CAPITAL LETTER O WITH CIRCUMFLEX AND HOOK ABOVE",
    "1ed5=LATIN SMALL LETTER O WITH CIRCUMFLEX AND HOOK ABOVE",
    "1ed6=LATIN CAPITAL LETTER O WITH CIRCUMFLEX AND TILDE",
    "1ed7=LATIN SMALL LETTER O WITH CIRCUMFLEX AND TILDE",
    "1ed8=LATIN CAPITAL LETTER O WITH CIRCUMFLEX AND DOT BELOW",
    "1ed9=LATIN SMALL LETTER O WITH CIRCUMFLEX AND DOT BELOW",
    "1eda=LATIN CAPITAL LETTER O WITH HORN AND ACUTE,1SMALL LETTER O WITH HORN AND ACUTE",
    "1edc=LATIN CAPITAL LETTER O WITH HORN AND GRAVE,1SMALL LETTER O WITH HORN AND GRAVE",
    "1ede=LATIN CAPITAL LETTER O WITH HORN AND HOOK ABOVE",
    "1edf=LATIN SMALL LETTER O WITH HORN AND HOOK ABOVE,1CAPITAL LETTER O WITH HORN AND TILDE",
    "1ee1=LATIN SMALL LETTER O WITH HORN AND TILDE,1CAPITAL LETTER O WITH HORN AND DOT BELOW",
    "1ee3=LATIN SMALL LETTER O WITH HORN AND DOT BELOW,1CAPITAL LETTER U WITH DOT BELOW",
    "1ee5=LATIN SMALL LETTER U WITH DOT BELOW,1CAPITAL LETTER U WITH HOOK ABOVE",
    "1ee7=LATIN SMALL LETTER U WITH HOOK ABOVE,1CAPITAL LETTER U WITH HORN AND ACUTE",
    "1ee9=LATIN SMALL LETTER U WITH HORN AND ACUTE,1CAPITAL LETTER U WITH HORN AND GRAVE",
    "1eeb=LATIN SMALL LETTER U WITH HORN AND GRAVE,1CAPITAL LETTER U WITH HORN AND HOOK ABOVE",
    "1eed=LATIN SMALL LETTER U WITH HORN AND HOOK ABOVE,1CAPITAL LETTER U WITH HORN AND TILDE",
    "1eef=LATIN SMALL LETTER U WITH HORN AND TILDE,1CAPITAL LETTER U WITH HORN AND DOT BELOW",
    "1ef1=LATIN SMALL LETTER U WITH HORN AND DOT BELOW,1CAPITAL LETTER Y WITH GRAVE",
    "1ef3=LATIN SMALL LETTER Y WITH GRAVE,1CAPITAL LETTER Y WITH DOT BELOW",
    "1ef5=LATIN SMALL LETTER Y WITH DOT BELOW,1CAPITAL LETTER Y WITH HOOK ABOVE",
    "1ef7=LATIN SMALL LETTER Y WITH HOOK ABOVE,1CAPITAL LETTER Y WITH TILDE",
    "1ef9=LATIN SMALL LETTER Y WITH TILDE,1CAPITAL LETTER MIDDLE-WELSH LL",
    "1efb=LATIN SMALL LETTER MIDDLE-WELSH LL,1CAPITAL LETTER MIDDLE-WELSH V",
    "1efd=LATIN SMALL LETTER MIDDLE-WELSH V,1CAPITAL LETTER Y WITH LOOP,1SMALL LETTER Y WITH LOOP",
    "1f00=GREEK SMALL LETTER ALPHA WITH PSILI,5DASIA,5PSILI AND VARIA,5DASIA AND VARIA",
    "1f04=GREEK SMALL LETTER ALPHA WITH PSILI AND OXIA,5DASIA AND OXIA,5PSILI AND PERISPOMENI",
    "1f07=GREEK SMALL LETTER ALPHA WITH DASIA AND PERISPOMENI,1CAPITAL LETTER ALPHA WITH PSILI",
    "1f09=GREEK CAPITAL LETTER ALPHA WITH DASIA,5PSILI AND VARIA,5DASIA AND VARIA,5PSILI AND OXIA",
    "1f0d=GREEK CAPITAL LETTER ALPHA WITH DASIA AND OXIA,5PSILI AND PERISPOMENI",
    "1f0f=GREEK CAPITAL LETTER ALPHA WITH DASIA AND PERISPOMENI,1SMALL LETTER EPSILON WITH PSILI",
    "1f11=GREEK SMALL LETTER EPSILON WITH DASIA,5PSILI AND VARIA,5DASIA AND VARIA,5PSILI AND OXIA",
    "1f15=GREEK SMALL LETTER EPSILON WITH DASIA AND OXIA",
    "1f18=GREEK CAPITAL LETTER EPSILON WITH PSILI,5DASIA,5PSILI AND VARIA,5DASIA AND VARIA",
    "1f1c=GREEK CAPITAL LETTER EPSILON WITH PSILI AND OXIA,5DASIA AND OXIA",
    "1f20=GREEK SMALL LETTER ETA WITH PSILI,5DASIA,5PSILI AND VARIA,5DASIA AND VARIA",
    "1f24=GREEK SMALL LETTER ETA WITH PSILI AND OXIA,5DASIA AND OXIA,5PSILI AND PERISPOMENI",
    "1f27=GREEK SMALL LETTER ETA WITH DASIA AND PERISPOMENI,1CAPITAL LETTER ETA WITH PSILI,5DASIA",
    "1f2a=GREEK CAPITAL LETTER ETA WITH PSILI AND VARIA,5DASIA AND VARIA,5PSILI AND OXIA",
    "1f2d=GREEK CAPITAL LETTER ETA WITH DASIA AND OXIA,5PSILI AND PERISPOMENI",
    "1f2f=GREEK CAPITAL LETTER ETA WITH DASIA AND PERISPOMENI,1SMALL LETTER IOTA WITH PSILI",
    "1f31=GREEK SMALL LETTER IOTA WITH DASIA,5PSILI AND VARIA,5DASIA AND VARIA,5PSILI AND OXIA",
    "1f35=GREEK SMALL LETTER IOTA WITH DASIA AND OXIA,5PSILI AND PERISPOMENI",
    "1f37=GREEK SMALL LETTER IOTA WITH DASIA AND PERISPOMENI,1CAPITAL LETTER IOTA WITH PSILI",
    "1f39=GREEK CAPITAL LETTER IOTA WITH DASIA,5PSILI AND VARIA,5DASIA AND VARIA,5PSILI AND OXIA",
    "1f3d=GREEK CAPITAL LETTER IOTA WITH DASIA AND OXIA,5PSILI AND PERISPOMENI",
    "1f3f=GREEK CAPITAL LETTER IOTA WITH DASIA AND PERISPOMENI,1SMALL LETTER OMICRON WITH PSILI",
    "1f41=GREEK SMALL LETTER OMICRON WITH DASIA,5PSILI AND VARIA,5DASIA AND VARIA,5PSILI AND OXIA",
    "1f45=GREEK SMALL LETTER OMICRON WITH DASIA AND OXIA",
    "1f48=GREEK CAPITAL LETTER OMICRON WITH PSILI,5DASIA,5PSILI AND VARIA,5DASIA AND VARIA",
    "1f4c=GREEK CAPITAL LETTER OMICRON WITH PSILI AND OXIA,5DASIA AND OXIA",
    "1f50=GREEK SMALL LETTER UPSILON WITH PSILI,5DASIA,5PSILI AND VARIA,5DASIA AND VARIA",
    "1f54=GREEK SMALL LETTER UPSILON WITH PSILI AND OXIA,5DASIA AND OXIA,5PSILI AND PERISPOMENI",
    "1f57=GREEK SMALL LETTER UPSILON WITH DASIA AND PERISPOMENI",
    "1f59=GREEK CAPITAL LETTER UPSILON WITH DASIA",
    "1f5b=GREEK CAPITAL LETTER UPSILON WITH DASIA AND VARIA",
    "1f5d=GREEK CAPITAL LETTER UPSILON WITH DASIA AND OXIA",
    "1f5f=GREEK CAPITAL LETTER UPSILON WITH DASIA AND PERISPOMENI,1SMALL LETTER OMEGA WITH PSILI",
    "1f61=GREEK SMALL LETTER OMEGA WITH DASIA,5PSILI AND VARIA,5DASIA AND VARIA,5PSILI AND OXIA",
    "1f65=GREEK SMALL LETTER OMEGA WITH DASIA AND OXIA,5PSILI AND PERISPOMENI",
    "1f67=GREEK SMALL LETTER OMEGA WITH DASIA AND PERISPOMENI,1CAPITAL LETTER OMEGA WITH PSILI",
    "1f69=GREEK CAPITAL LETTER OMEGA WITH DASIA,5PSILI AND VARIA,5DASIA AND VARIA,5PSILI AND OXIA",
    "1f6d=GREEK CAPITAL LETTER OMEGA WITH DASIA AND OXIA,5PSILI AND PERISPOMENI",
    "1f6f=GREEK CAPITAL LETTER OMEGA WITH DASIA AND PERISPOMENI,1SMALL LETTER ALPHA WITH VARIA",
    "1f71=GREEK SMALL LETTER ALPHA WITH OXIA,3EPSILON WITH VARIA,5OXIA,3ETA WITH VARIA,5OXIA",
    "1f76=GREEK SMALL LETTER IOTA WITH VARIA,5OXIA,3OMICRON WITH VARIA,5OXIA,3UPSILON WITH VARIA",
    "1f7b=GREEK SMALL LETTER UPSILON WITH OXIA,3OMEGA WITH VARIA,5OXIA",
    "1f80=GREEK SMALL LETTER ALPHA WITH PSILI AND YPOGEGRAMMENI,5DASIA AND YPOGEGRAMMENI",
    "1f82=GREEK SMALL LETTER ALPHA WITH PSILI AND VARIA AND YPOGEGRAMMENI",
    "1f83=GREEK SMALL LETTER ALPHA WITH DASIA AND VARIA AND YPOGEGRAMMENI",
    "1f84=GREEK SMALL LETTER ALPHA WITH PSILI AND OXIA AND YPOGEGRAMMENI",
    "1f85=GREEK SMALL LETTER ALPHA WITH DASIA AND OXIA AND YPOGEGRAMMENI",
    "1f86=GREEK SMALL LETTER ALPHA WITH PSILI AND PERISPOMENI AND YPOGEGRAMMENI",
    "1f87=GREEK SMALL LETTER ALPHA WITH DASIA AND PERISPOMENI AND YPOGEGRAMMENI",
    "1f88=GREEK CAPITAL LETTER ALPHA WITH PSILI AND PROSGEGRAMMENI,5DASIA AND PROSGEGRAMMENI",
    "1f8a=GREEK CAPITAL LETTER ALPHA WITH PSILI AND VARIA AND PROSGEGRAMMENI",
    "1f8b=GREEK CAPITAL LETTER ALPHA WITH DASIA AND VARIA AND PROSGEGRAMMENI",
    "1f8c=GREEK CAPITAL LETTER ALPHA WITH PSILI AND OXIA AND PROSGEGRAMMENI",
    "1f8d=GREEK CAPITAL LETTER ALPHA WITH DASIA AND OXIA AND PROSGEGRAMMENI",
    "1f8e=GREEK CAPITAL LETTER ALPHA WITH PSILI AND PERISPOMENI AND PROSGEGRAMMENI",
    "1f8f=GREEK CAPITAL LETTER ALPHA WITH DASIA AND PERISPOMENI AND PROSGEGRAMMENI",
    "1f90=GREEK SMALL LETTER ETA WITH PSILI AND YPOGEGRAMMENI,5DASIA AND YPOGEGRAMMENI",
    "1f92=GREEK SMALL LETTER ETA WITH PSILI AND VARIA AND YPOGEGRAMMENI",
    "1f93=GREEK SMALL LETTER ETA WITH DASIA AND VARIA AND YPOGEGRAMMENI",
    "1f94=GREEK SMALL LETTER ETA WITH PSILI AND OXIA AND YPOGEGRAMMENI",
    "1f95=GREEK SMALL LETTER ETA WITH DASIA AND OXIA AND YPOGEGRAMMENI",
    "1f96=GREEK SMALL LETTER ETA WITH PSILI AND PERISPOMENI AND YPOGEGRAMMENI",
    "1f97=GREEK SMALL LETTER ETA WITH DASIA AND PERISPOMENI AND YPOGEGRAMMENI",
    "1f98=GREEK CAPITAL LETTER ETA WITH PSILI AND PROSGEGRAMMENI,5DASIA AND PROSGEGRAMMENI",
    "1f9a=GREEK CAPITAL LETTER ETA WITH PSILI AND VARIA AND PROSGEGRAMMENI",
    "1f9b=GREEK CAPITAL LETTER ETA WITH DASIA AND VARIA AND PROSGEGRAMMENI",
    "1f9c=GREEK CAPITAL LETTER ETA WITH PSILI AND OXIA AND PROSGEGRAMMENI",
    "1f9d=GREEK CAPITAL LETTER ETA WITH DASIA AND OXIA AND PROSGEGRAMMENI",
    "1f9e=GREEK CAPITAL LETTER ETA WITH PSILI AND PERISPOMENI AND PROSGEGRAMMENI",
    "1f9f=GREEK CAPITAL LETTER ETA WITH DASIA AND PERISPOMENI AND PROSGEGRAMMENI",
    "1fa0=GREEK SMALL LETTER OMEGA WITH PSILI AND YPOGEGRAMMENI,5DASIA AND YPOGEGRAMMENI",
    "1fa2=GREEK SMALL LETTER OMEGA WITH PSILI AND VARIA AND YPOGEGRAMMENI",
    "1fa3=GREEK SMALL LETTER OMEGA WITH DASIA AND VARIA AND YPOGEGRAMMENI",
    "1fa4=GREEK SMALL LETTER OMEGA WITH PSILI AND OXIA AND YPOGEGRAMMENI",
    "1fa5=GREEK SMALL LETTER OMEGA WITH DASIA AND OXIA AND YPOGEGRAMMENI",
    "1fa6=GREEK SMALL LETTER OMEGA WITH PSILI AND PERISPOMENI AND YPOGEGRAMMENI",
    "1fa7=GREEK SMALL LETTER OMEGA WITH DASIA AND PERISPOMENI AND YPOGEGRAMMENI",
    "1fa8=GREEK CAPITAL LETTER OMEGA WITH PSILI AND PROSGEGRAMMENI,5DASIA AND PROSGEGRAMMENI",
    "1faa=GREEK CAPITAL LETTER OMEGA WITH PSILI AND VARIA AND PROSGEGRAMMENI",
    "1fab=GREEK CAPITAL LETTER OMEGA WITH DASIA AND VARIA AND PROSGEGRAMMENI",
    "1fac=GREEK CAPITAL LETTER OMEGA WITH PSILI AND OXIA AND PROSGEGRAMMENI",
    "1fad=GREEK CAPITAL LETTER OMEGA WITH DASIA AND OXIA AND PROSGEGRAMMENI",
    "1fae=GREEK CAPITAL LETTER OMEGA WITH PSILI AND PERISPOMENI AND PROSGEGRAMMENI",
    "1faf=GREEK CAPITAL LETTER OMEGA WITH DASIA AND PERISPOMENI AND PROSGEGRAMMENI",
    "1fb0=GREEK SMALL LETTER ALPHA WITH VRACHY,5MACRON,5VARIA AND YPOGEGRAMMENI,5YPOGEGRAMMENI",
    "1fb4=GREEK SMALL LETTER ALPHA WITH OXIA AND YPOGEGRAMMENI",
    "1fb6=GREEK SMALL LETTER ALPHA WITH PERISPOMENI,6AND YPOGEGRAMMENI",
    "1fb8=GREEK CAPITAL LETTER ALPHA WITH VRACHY,5MACRON,5VARIA,5OXIA,5PROSGEGRAMMENI,1KORONIS",
    "1fbe=GREEK PROSGEGRAMMENI,1PSILI,1PERISPOMENI,1DIALYTIKA AND PERISPOMENI",
    "1fc2=GREEK SMALL LETTER ETA WITH VARIA AND YPOGEGRAMMENI,5YPOGEGRAMMENI",
    "1fc4=GREEK SMALL LETTER ETA WITH OXIA AND YPOGEGRAMMENI",
    "1fc6=GREEK SMALL LETTER ETA WITH PERISPOMENI,6AND YPOGEGRAMMENI",
    "1fc8=GREEK CAPITAL LETTER EPSILON WITH VARIA,5OXIA,3ETA WITH VARIA,5OXIA,5PROSGEGRAMMENI",
    "1fcd=GREEK PSILI AND VARIA,3OXIA,3PERISPOMENI,1SMALL LETTER IOTA WITH VRACHY,5MACRON",
    "1fd2=GREEK SMALL LETTER IOTA WITH DIALYTIKA AND VARIA,7OXIA",
    "1fd6=GREEK SMALL LETTER IOTA WITH PERISPOMENI,5DIALYTIKA AND PERISPOMENI",
    "1fd8=GREEK CAPITAL LETTER IOTA WITH VRACHY,5MACRON,5VARIA,5OXIA",
    "1fdd=GREEK DASIA AND VARIA,3OXIA,3PERISPOMENI,1SMALL LETTER UPSILON WITH VRACHY,5MACRON",
    "1fe2=GREEK SMALL LETTER UPSILON WITH DIALYTIKA AND VARIA,7OXIA,3RHO WITH PSILI,5DASIA",
    "1fe6=GREEK SMALL LETTER UPSILON WITH PERISPOMENI,5DIALYTIKA AND PERISPOMENI",
    "1fe8=GREEK CAPITAL LETTER UPSILON WITH VRACHY,5MACRON,5VARIA,5OXIA,3RHO WITH DASIA",
    "1fed=GREEK DIALYTIKA AND VARIA,3OXIA,1VARIA",
    "1ff2=GREEK SMALL LETTER OMEGA WITH VARIA AND YPOGEGRAMMENI,5YPOGEGRAMMENI",
    "1ff4=GREEK SMALL LETTER OMEGA WITH OXIA AND YPOGEGRAMMENI",
    "1ff6=GREEK SMALL LETTER OMEGA WITH PERISPOMENI,6AND YPOGEGRAMMENI",
    "1ff8=GREEK CAPITAL LETTER OMICRON WITH VARIA,5OXIA,3OMEGA WITH VARIA,5OXIA,5PROSGEGRAMMENI",
    "1ffd=GREEK OXIA,1DASIA",
    "2c60=LATIN CAPITAL LETTER L WITH DOUBLE BAR,1SMALL LETTER L WITH DOUBLE BAR",
    "2c62=LATIN CAPITAL LETTER L WITH MIDDLE TILDE,3P WITH STROKE,3R WITH TAIL",
    "2c65=LATIN SMALL LETTER A WITH STROKE,3T WITH DIAGONAL STROKE",
    "2c67=LATIN CAPITAL LETTER H WITH DESCENDER,1SMALL LETTER H WITH DESCENDER",
    "2c69=LATIN CAPITAL LETTER K WITH DESCENDER,1SMALL LETTER K WITH DESCENDER",
    "2c6b=LATIN CAPITAL LETTER Z WITH DESCENDER,1SMALL LETTER Z WITH DESCENDER",
    "2c6d=LATIN CAPITAL LETTER ALPHA,3M WITH HOOK,3TURNED A,4ALPHA",
    "2c71=LATIN SMALL LETTER V WITH RIGHT HOOK,1CAPITAL LETTER W WITH HOOK",
    "2c73=LATIN SMALL LETTER W WITH HOOK,3V WITH CURL,1CAPITAL LETTER HALF H,1SMALL LETTER HALF H",
    "2c77=LATIN SMALL LETTER TAILLESS PHI,3E WITH NOTCH,3TURNED R WITH TAIL",
    "2c7a=LATIN SMALL LETTER O WITH LOW RING INSIDE,1LETTER SMALL CAPITAL TURNED E",
    "2c7c=LATIN SUBSCRIPT SMALL LETTER J,MODIFIER LETTER CAPITAL V",
    "2c7e=LATIN CAPITAL LETTER S WITH SWASH TAIL,3Z WITH SWASH TAIL",
    "a720=MODIFIER LETTER STRESS AND HIGH TONE,4LOW TONE,LATIN CAPITAL LETTER EGYPTOLOGICAL ALEF",
    "a723=LATIN SMALL LETTER EGYPTOLOGICAL ALEF,1CAPITAL LETTER EGYPTOLOGICAL AIN",
    "a725=LATIN SMALL LETTER EGYPTOLOGICAL AIN,1CAPITAL LETTER HENG,1SMALL LETTER HENG",
    "a728=LATIN CAPITAL LETTER TZ,1SMALL LETTER TZ,1CAPITAL LETTER TRESILLO",
    "a72b=LATIN SMALL LETTER TRESILLO,1CAPITAL LETTER CUATRILLO,1SMALL LETTER CUATRILLO",
    "a72e=LATIN CAPITAL LETTER CUATRILLO WITH COMMA,1SMALL LETTER CUATRILLO WITH COMMA",
    "a730=LATIN LETTER SMALL CAPITAL F,4S,1CAPITAL LETTER AA,1SMALL LETTER AA,1CAPITAL LETTER AO",
    "a735=LATIN SMALL LETTER AO,1CAPITAL LETTER AU,1SMALL LETTER AU,1CAPITAL LETTER AV",
    "a739=LATIN SMALL LETTER AV,1CAPITAL LETTER AV WITH HORIZONTAL BAR",
    "a73b=LATIN SMALL LETTER AV WITH HORIZONTAL BAR,1CAPITAL LETTER AY,1SMALL LETTER AY",
    "a73e=LATIN CAPITAL LETTER REVERSED C WITH DOT,1SMALL LETTER REVERSED C WITH DOT",
    "a740=LATIN CAPITAL LETTER K WITH STROKE,1SMALL LETTER K WITH STROKE",
    "a742=LATIN CAPITAL LETTER K WITH DIAGONAL STROKE,1SMALL LETTER K WITH DIAGONAL STROKE",
    "a744=LATIN CAPITAL LETTER K WITH STROKE AND DIAGONAL STROKE",
    "a745=LATIN SMALL LETTER K WITH STROKE AND DIAGONAL STROKE,1CAPITAL LETTER BROKEN L",
    "a747=LATIN SMALL LETTER BROKEN L,1CAPITAL LETTER L WITH HIGH STROKE",
    "a749=LATIN SMALL LETTER L WITH HIGH STROKE,1CAPITAL LETTER O WITH LONG STROKE OVERLAY",
    "a74b=LATIN SMALL LETTER O WITH LONG STROKE OVERLAY,1CAPITAL LETTER O WITH LOOP",
    "a74d=LATIN SMALL LETTER O WITH LOOP,1CAPITAL LETTER OO,1SMALL LETTER OO",
    "a750=LATIN CAPITAL LETTER P WITH STROKE THROUGH DESCENDER",
    "a751=LATIN SMALL LETTER P WITH STROKE THROUGH DESCENDER,1CAPITAL LETTER P WITH FLOURISH",
    "a753=LATIN SMALL LETTER P WITH FLOURISH,1CAPITAL LETTER P WITH SQUIRREL TAIL",
    "a755=LATIN SMALL LETTER P WITH SQUIRREL TAIL,1CAPITAL LETTER Q WITH STROKE THROUGH DESCENDER",
    "a757=LATIN SMALL LETTER Q WITH STROKE THROUGH DESCENDER",
    "a758=LATIN CAPITAL LETTER Q WITH DIAGONAL STROKE,1SMALL LETTER Q WITH DIAGONAL STROKE",
    "a75a=LATIN CAPITAL LETTER R ROTUNDA,1SMALL LETTER R ROTUNDA,1CAPITAL LETTER RUM ROTUNDA",
    "a75d=LATIN SMALL LETTER RUM ROTUNDA,1CAPITAL LETTER V WITH DIAGONAL STROKE",
    "a75f=LATIN SMALL LETTER V WITH DIAGONAL STROKE,1CAPITAL LETTER VY,1SMALL LETTER VY",
    "a762=LATIN CAPITAL LETTER VISIGOTHIC Z,1SMALL LETTER VISIGOTHIC Z",
    "a764=LATIN CAPITAL LETTER THORN WITH STROKE,1SMALL LETTER THORN WITH STROKE",
    "a766=LATIN CAPITAL LETTER THORN WITH STROKE THROUGH DESCENDER",
    "a767=LATIN SMALL LETTER THORN WITH STROKE THROUGH DESCENDER,1CAPITAL LETTER VEND",
    "a769=LATIN SMALL LETTER VEND,1CAPITAL LETTER ET,1SMALL LETTER ET,1CAPITAL LETTER IS",
    "a76d=LATIN SMALL LETTER IS,1CAPITAL LETTER CON,1SMALL LETTER CON,MODIFIER LETTER US",
    "a771=LATIN SMALL LETTER DUM,3LUM,3MUM,3NUM,3RUM,1LETTER SMALL CAPITAL RUM,1SMALL LETTER TUM",
    "a778=LATIN SMALL LETTER UM,1CAPITAL LETTER INSULAR D,1SMALL LETTER INSULAR D",
    "a77b=LATIN CAPITAL LETTER INSULAR F,1SMALL LETTER INSULAR F,1CAPITAL LETTER INSULAR G",
    "a77e=LATIN CAPITAL LETTER TURNED INSULAR G,1SMALL LETTER TURNED INSULAR G",
    "a780=LATIN CAPITAL LETTER TURNED L,1SMALL LETTER TURNED L,1CAPITAL LETTER INSULAR R",
    "a783=LATIN SMALL LETTER INSULAR R,1CAPITAL LETTER INSULAR S,1SMALL LETTER INSULAR S",
    "a786=LATIN CAPITAL LETTER INSULAR T,1SMALL LETTER INSULAR T",
    "a788=MODIFIER LETTER LOW CIRCUMFLEX ACCENT,2COLON,2SHORT EQUALS SIGN",
    "a78b=LATIN CAPITAL LETTER SALTILLO,1SMALL LETTER SALTILLO,1CAPITAL LETTER TURNED H",
    "a78e=LATIN SMALL LETTER L WITH RETROFLEX HOOK AND BELT,1LETTER SINOLOGICAL DOT",
    "a790=LATIN CAPITAL LETTER N WITH DESCENDER,1SMALL LETTER N WITH DESCENDER",
    "a792=LATIN CAPITAL LETTER C WITH BAR,1SMALL LETTER C WITH BAR,5PALATAL HOOK",
    "a795=LATIN SMALL LETTER H WITH PALATAL HOOK,1CAPITAL LETTER B WITH FLOURISH",
    "a797=LATIN SMALL LETTER B WITH FLOURISH,1CAPITAL LETTER F WITH STROKE",
    "a799=LATIN SMALL LETTER F WITH STROKE,1CAPITAL LETTER VOLAPUK AE,1SMALL LETTER VOLAPUK AE",
    "a79c=LATIN CAPITAL LETTER VOLAPUK OE,1SMALL LETTER VOLAPUK OE,1CAPITAL LETTER VOLAPUK UE",
    "a79f=LATIN SMALL LETTER VOLAPUK UE,1CAPITAL LETTER G WITH OBLIQUE STROKE",
    "a7a1=LATIN SMALL LETTER G WITH OBLIQUE STROKE,1CAPITAL LETTER K WITH OBLIQUE STROKE",
    "a7a3=LATIN SMALL LETTER K WITH OBLIQUE STROKE,1CAPITAL LETTER N WITH OBLIQUE STROKE",
    "a7a5=LATIN SMALL LETTER N WITH OBLIQUE STROKE,1CAPITAL LETTER R WITH OBLIQUE STROKE",
    "a7a7=LATIN SMALL LETTER R WITH OBLIQUE STROKE,1CAPITAL LETTER S WITH OBLIQUE STROKE",
    "a7a9=LATIN SMALL LETTER S WITH OBLIQUE STROKE,1CAPITAL LETTER H WITH HOOK,3REVERSED OPEN E",
    "a7ac=LATIN CAPITAL LETTER SCRIPT G,3L WITH BELT,3SMALL CAPITAL I,1LETTER SMALL CAPITAL Q",
    "a7b0=LATIN CAPITAL LETTER TURNED K,4T,3J WITH CROSSED-TAIL,3CHI,3BETA,1SMALL LETTER BETA",
    "a7b6=LATIN CAPITAL LETTER OMEGA,1SMALL LETTER OMEGA,1CAPITAL LETTER U WITH STROKE",
    "a7b9=LATIN SMALL LETTER U WITH STROKE,1CAPITAL LETTER GLOTTAL A,1SMALL LETTER GLOTTAL A",
    "a7bc=LATIN CAPITAL LETTER GLOTTAL I,1SMALL LETTER GLOTTAL I,1CAPITAL LETTER GLOTTAL U",
    "a7bf=LATIN SMALL LETTER GLOTTAL U,1CAPITAL LETTER OLD POLISH O,1SMALL LETTER OLD POLISH O",
    "a7c2=LATIN CAPITAL LETTER ANGLICANA W,1SMALL LETTER ANGLICANA W",
    "a7c4=LATIN CAPITAL LETTER C WITH PALATAL HOOK,3S WITH HOOK,3Z WITH PALATAL HOOK",
    "a7c7=LATIN CAPITAL LETTER D WITH SHORT STROKE OVERLAY",
    "a7c8=LATIN SMALL LETTER D WITH SHORT STROKE OVERLAY",
    "a7c9=LATIN CAPITAL LETTER S WITH SHORT STROKE OVERLAY",
    "a7ca=LATIN SMALL LETTER S WITH SHORT STROKE OVERLAY",
    "a7d0=LATIN CAPITAL LETTER CLOSED INSULAR G,1SMALL LETTER CLOSED INSULAR G",
    "a7d3=LATIN SMALL LETTER DOUBLE THORN",
    "a7d5=LATIN SMALL LETTER DOUBLE WYNN,1CAPITAL LETTER MIDDLE SCOTS S",
    "a7d7=LATIN SMALL LETTER MIDDLE SCOTS S,1CAPITAL LETTER SIGMOID S,1SMALL LETTER SIGMOID S",
    "a7f2=MODIFIER LETTER CAPITAL C,3F,3Q,LATIN CAPITAL LETTER REVERSED HALF H",
    "a7f6=LATIN SMALL LETTER REVERSED HALF H,1EPIGRAPHIC LETTER SIDEWAYS I",
    "a7f8=MODIFIER LETTER CAPITAL H WITH STROKE,2SMALL LIGATURE OE",
    "a7fa=LATIN LETTER SMALL CAPITAL TURNED M,1EPIGRAPHIC LETTER REVERSED F,4P,3INVERTED M",
    "a7fe=LATIN EPIGRAPHIC LETTER I LONGA,3ARCHAIC M"]

end SnippetRunner.Text.Name
