/-!
# Names of other forms

East Asian signs and syllables, presentation forms and mathematical letters. Each line
gives a code and the names of the characters from there on; a digit before a name says how many
words it has in common with the name before it.
-/

namespace SnippetRunner.Text.Name

/-- The lines of the names. -/
def forms : List String :=
  [ "3000=IDEOGRAPHIC SPACE,1COMMA,1FULL STOP,DITTO MARK,JAPANESE INDUSTRIAL STANDARD SYMBOL",
    "3005=IDEOGRAPHIC ITERATION MARK,1CLOSING MARK,1NUMBER ZERO,LEFT ANGLE BRACKET",
    "3009=RIGHT ANGLE BRACKET,LEFT DOUBLE ANGLE BRACKET,RIGHT DOUBLE ANGLE BRACKET",
    "300c=LEFT CORNER BRACKET,RIGHT CORNER BRACKET,LEFT WHITE CORNER BRACKET",
    "300f=RIGHT WHITE CORNER BRACKET,LEFT BLACK LENTICULAR BRACKET,RIGHT BLACK LENTICULAR BRACKET",
    "3012=POSTAL MARK,GETA MARK,LEFT TORTOISE SHELL BRACKET,RIGHT TORTOISE SHELL BRACKET",
    "3016=LEFT WHITE LENTICULAR BRACKET,RIGHT WHITE LENTICULAR BRACKET",
    "3018=LEFT WHITE TORTOISE SHELL BRACKET,RIGHT WHITE TORTOISE SHELL BRACKET",
    "301a=LEFT WHITE SQUARE BRACKET,RIGHT WHITE SQUARE BRACKET,WAVE DASH",
    "301d=REVERSED DOUBLE PRIME QUOTATION MARK,DOUBLE PRIME QUOTATION MARK",
    "301f=LOW DOUBLE PRIME QUOTATION MARK,POSTAL MARK FACE,HANGZHOU NUMERAL ONE,2TWO,2THREE,2FOUR",
    "3025=HANGZHOU NUMERAL FIVE,2SIX,2SEVEN,2EIGHT,2NINE,IDEOGRAPHIC LEVEL TONE MARK",
    "302b=IDEOGRAPHIC RISING TONE MARK,1DEPARTING TONE MARK,1ENTERING TONE MARK",
    "302e=HANGUL SINGLE DOT TONE MARK,1DOUBLE DOT TONE MARK,WAVY DASH,VERTICAL KANA REPEAT MARK",
    "3032=VERTICAL KANA REPEAT WITH VOICED SOUND MARK,3MARK UPPER HALF",
    "3034=VERTICAL KANA REPEAT WITH VOICED SOUND MARK UPPER HALF,3MARK LOWER HALF",
    "3036=CIRCLED POSTAL MARK,IDEOGRAPHIC TELEGRAPH LINE FEED SEPARATOR SYMBOL",
    "3038=HANGZHOU NUMERAL TEN,2TWENTY,2THIRTY,VERTICAL IDEOGRAPHIC ITERATION MARK,MASU MARK",
    "303d=PART ALTERNATION MARK,IDEOGRAPHIC VARIATION INDICATOR,1HALF FILL SPACE",
    "3041=HIRAGANA LETTER SMALL A,2A,2SMALL I,2I,2SMALL U,2U,2SMALL E,2E,2SMALL O,2O,2KA,2GA,2KI",
    "304e=HIRAGANA LETTER GI,2KU,2GU,2KE,2GE,2KO,2GO,2SA,2ZA,2SI,2ZI,2SU,2ZU,2SE,2ZE,2SO,2ZO,2TA",
    "3060=HIRAGANA LETTER DA,2TI,2DI,2SMALL TU,2TU,2DU,2TE,2DE,2TO,2DO,2NA,2NI,2NU,2NE,2NO,2HA",
    "3070=HIRAGANA LETTER BA,2PA,2HI,2BI,2PI,2HU,2BU,2PU,2HE,2BE,2PE,2HO,2BO,2PO,2MA,2MI,2MU,2ME",
    "3082=HIRAGANA LETTER MO,2SMALL YA,2YA,2SMALL YU,2YU,2SMALL YO,2YO,2RA,2RI,2RU,2RE,2RO",
    "308e=HIRAGANA LETTER SMALL WA,2WA,2WI,2WE,2WO,2N,2VU,2SMALL KA,3KE",
    "3099=COMBINING KATAKANA-HIRAGANA VOICED SOUND MARK,2SEMI-VOICED SOUND MARK",
    "309b=KATAKANA-HIRAGANA VOICED SOUND MARK,1SEMI-VOICED SOUND MARK,HIRAGANA ITERATION MARK",
    "309e=HIRAGANA VOICED ITERATION MARK,1DIGRAPH YORI,KATAKANA-HIRAGANA DOUBLE HYPHEN",
    "30a1=KATAKANA LETTER SMALL A,2A,2SMALL I,2I,2SMALL U,2U,2SMALL E,2E,2SMALL O,2O,2KA,2GA,2KI",
    "30ae=KATAKANA LETTER GI,2KU,2GU,2KE,2GE,2KO,2GO,2SA,2ZA,2SI,2ZI,2SU,2ZU,2SE,2ZE,2SO,2ZO,2TA",
    "30c0=KATAKANA LETTER DA,2TI,2DI,2SMALL TU,2TU,2DU,2TE,2DE,2TO,2DO,2NA,2NI,2NU,2NE,2NO,2HA",
    "30d0=KATAKANA LETTER BA,2PA,2HI,2BI,2PI,2HU,2BU,2PU,2HE,2BE,2PE,2HO,2BO,2PO,2MA,2MI,2MU,2ME",
    "30e2=KATAKANA LETTER MO,2SMALL YA,2YA,2SMALL YU,2YU,2SMALL YO,2YO,2RA,2RI,2RU,2RE,2RO",
    "30ee=KATAKANA LETTER SMALL WA,2WA,2WI,2WE,2WO,2N,2VU,2SMALL KA,3KE,2VA,2VI,2VE,2VO",
    "30fb=KATAKANA MIDDLE DOT,KATAKANA-HIRAGANA PROLONGED SOUND MARK,KATAKANA ITERATION MARK",
    "30fe=KATAKANA VOICED ITERATION MARK,1DIGRAPH KOTO",
    "3105=BOPOMOFO LETTER B,2P,2M,2F,2D,2T,2N,2L,2G,2K,2H,2J,2Q,2X,2ZH,2CH,2SH,2R,2Z,2C,2S,2A,2O",
    "311c=BOPOMOFO LETTER E,2EH,2AI,2EI,2AU,2OU,2AN,2EN,2ANG,2ENG,2ER,2I,2U,2IU,2V,2NG,2GN,2IH",
    "312e=BOPOMOFO LETTER O WITH DOT ABOVE,2NN",
    "3200=PARENTHESIZED HANGUL KIYEOK,2NIEUN,2TIKEUT,2RIEUL,2MIEUM,2PIEUP,2SIOS,2IEUNG,2CIEUC",
    "3209=PARENTHESIZED HANGUL CHIEUCH,2KHIEUKH,2THIEUTH,2PHIEUPH,2HIEUH,2KIYEOK A,2NIEUN A",
    "3210=PARENTHESIZED HANGUL TIKEUT A,2RIEUL A,2MIEUM A,2PIEUP A,2SIOS A,2IEUNG A,2CIEUC A",
    "3217=PARENTHESIZED HANGUL CHIEUCH A,2KHIEUKH A,2THIEUTH A,2PHIEUPH A,2HIEUH A,2CIEUC U",
    "321d=PARENTHESIZED KOREAN CHARACTER OJEON,3O HU",
    "3220=PARENTHESIZED IDEOGRAPH ONE,2TWO,2THREE,2FOUR,2FIVE,2SIX,2SEVEN,2EIGHT,2NINE,2TEN,2MOON",
    "322b=PARENTHESIZED IDEOGRAPH FIRE,2WATER,2WOOD,2METAL,2EARTH,2SUN,2STOCK,2HAVE,2SOCIETY",
    "3234=PARENTHESIZED IDEOGRAPH NAME,2SPECIAL,2FINANCIAL,2CONGRATULATION,2LABOR,2REPRESENT",
    "323a=PARENTHESIZED IDEOGRAPH CALL,2STUDY,2SUPERVISE,2ENTERPRISE,2RESOURCE,2ALLIANCE",
    "3240=PARENTHESIZED IDEOGRAPH FESTIVAL,2REST,2SELF,2REACH,CIRCLED IDEOGRAPH QUESTION",
    "3245=CIRCLED IDEOGRAPH KINDERGARTEN,2SCHOOL,2KOTO,1NUMBER TEN ON BLACK SQUARE",
    "3249=CIRCLED NUMBER TWENTY ON BLACK SQUARE,2THIRTY ON BLACK SQUARE,2FORTY ON BLACK SQUARE",
    "324c=CIRCLED NUMBER FIFTY ON BLACK SQUARE,2SIXTY ON BLACK SQUARE,2SEVENTY ON BLACK SQUARE",
    "324f=CIRCLED NUMBER EIGHTY ON BLACK SQUARE,PARTNERSHIP SIGN,CIRCLED NUMBER TWENTY ONE,3TWO",
    "3253=CIRCLED NUMBER TWENTY THREE,3FOUR,3FIVE,3SIX,3SEVEN,3EIGHT,3NINE,2THIRTY,3ONE,3TWO",
    "325d=CIRCLED NUMBER THIRTY THREE,3FOUR,3FIVE,1HANGUL KIYEOK,2NIEUN,2TIKEUT,2RIEUL,2MIEUM",
    "3265=CIRCLED HANGUL PIEUP,2SIOS,2IEUNG,2CIEUC,2CHIEUCH,2KHIEUKH,2THIEUTH,2PHIEUPH,2HIEUH",
    "326e=CIRCLED HANGUL KIYEOK A,2NIEUN A,2TIKEUT A,2RIEUL A,2MIEUM A,2PIEUP A,2SIOS A,2IEUNG A",
    "3276=CIRCLED HANGUL CIEUC A,2CHIEUCH A,2KHIEUKH A,2THIEUTH A,2PHIEUPH A,2HIEUH A",
    "327c=CIRCLED KOREAN CHARACTER CHAMKO,3JUEUI,1HANGUL IEUNG U,KOREAN STANDARD SYMBOL",
    "3280=CIRCLED IDEOGRAPH ONE,2TWO,2THREE,2FOUR,2FIVE,2SIX,2SEVEN,2EIGHT,2NINE,2TEN,2MOON,2FIRE",
    "328c=CIRCLED IDEOGRAPH WATER,2WOOD,2METAL,2EARTH,2SUN,2STOCK,2HAVE,2SOCIETY,2NAME,2SPECIAL",
    "3296=CIRCLED IDEOGRAPH FINANCIAL,2CONGRATULATION,2LABOR,2SECRET,2MALE,2FEMALE,2SUITABLE",
    "329d=CIRCLED IDEOGRAPH EXCELLENT,2PRINT,2ATTENTION,2ITEM,2REST,2COPY,2CORRECT,2HIGH,2CENTRE",
    "32a6=CIRCLED IDEOGRAPH LOW,2LEFT,2RIGHT,2MEDICINE,2RELIGION,2STUDY,2SUPERVISE,2ENTERPRISE",
    "32ae=CIRCLED IDEOGRAPH RESOURCE,2ALLIANCE,2NIGHT,1NUMBER THIRTY SIX,3SEVEN,3EIGHT,3NINE",
    "32b5=CIRCLED NUMBER FORTY,3ONE,3TWO,3THREE,3FOUR,3FIVE,3SIX,3SEVEN,3EIGHT,3NINE,2FIFTY",
    "32c0=IDEOGRAPHIC TELEGRAPH SYMBOL FOR JANUARY,4FEBRUARY,4MARCH,4APRIL,4MAY,4JUNE,4JULY",
    "32c7=IDEOGRAPHIC TELEGRAPH SYMBOL FOR AUGUST,4SEPTEMBER,4OCTOBER,4NOVEMBER,4DECEMBER",
    "32cc=SQUARE HG,1ERG,1EV,LIMITED LIABILITY SIGN,CIRCLED KATAKANA A,2I,2U,2E,2O,2KA,2KI,2KU",
    "32d8=CIRCLED KATAKANA KE,2KO,2SA,2SI,2SU,2SE,2SO,2TA,2TI,2TU,2TE,2TO,2NA,2NI,2NU,2NE,2NO,2HA",
    "32ea=CIRCLED KATAKANA HI,2HU,2HE,2HO,2MA,2MI,2MU,2ME,2MO,2YA,2YU,2YO,2RA,2RI,2RU,2RE,2RO,2WA",
    "32fc=CIRCLED KATAKANA WI,2WE,2WO,SQUARE ERA NAME REIWA,1APAATO,1ARUHUA,1ANPEA,1AARU,1ININGU",
    "3305=SQUARE INTI,1UON,1ESUKUUDO,1EEKAA,1ONSU,1OOMU,1KAIRI,1KARATTO,1KARORII,1GARON,1GANMA",
    "3310=SQUARE GIGA,1GINII,1KYURII,1GIRUDAA,1KIRO,1KIROGURAMU,1KIROMEETORU,1KIROWATTO,1GURAMU",
    "3319=SQUARE GURAMUTON,1KURUZEIRO,1KUROONE,1KEESU,1KORUNA,1KOOPO,1SAIKURU,1SANTIIMU,1SIRINGU",
    "3322=SQUARE SENTI,1SENTO,1DAASU,1DESI,1DORU,1TON,1NANO,1NOTTO,1HAITU,1PAASENTO,1PAATU",
    "332d=SQUARE BAARERU,1PIASUTORU,1PIKURU,1PIKO,1BIRU,1HUARADDO,1HUIITO,1BUSSYERU,1HURAN",
    "3336=SQUARE HEKUTAARU,1PESO,1PENIHI,1HERUTU,1PENSU,1PEEZI,1BEETA,1POINTO,1BORUTO,1HON,1PONDO",
    "3341=SQUARE HOORU,1HOON,1MAIKURO,1MAIRU,1MAHHA,1MARUKU,1MANSYON,1MIKURON,1MIRI,1MIRIBAARU",
    "334b=SQUARE MEGA,1MEGATON,1MEETORU,1YAADO,1YAARU,1YUAN,1RITTORU,1RIRA,1RUPII,1RUUBURU,1REMU",
    "3356=SQUARE RENTOGEN,1WATTO,IDEOGRAPHIC TELEGRAPH SYMBOL FOR HOUR ZERO,5ONE,5TWO,5THREE",
    "335c=IDEOGRAPHIC TELEGRAPH SYMBOL FOR HOUR FOUR,5FIVE,5SIX,5SEVEN,5EIGHT,5NINE,5TEN,5ELEVEN",
    "3364=IDEOGRAPHIC TELEGRAPH SYMBOL FOR HOUR TWELVE,5THIRTEEN,5FOURTEEN,5FIFTEEN,5SIXTEEN",
    "3369=IDEOGRAPHIC TELEGRAPH SYMBOL FOR HOUR SEVENTEEN,5EIGHTEEN,5NINETEEN,5TWENTY,5TWENTY-ONE",
    "336e=IDEOGRAPHIC TELEGRAPH SYMBOL FOR HOUR TWENTY-TWO,5TWENTY-THREE,5TWENTY-FOUR,SQUARE HPA",
    "3372=SQUARE DA,1AU,1BAR,1OV,1PC,1DM,2SQUARED,2CUBED,1IU,1ERA NAME HEISEI,3SYOUWA,3TAISYOU",
    "337e=SQUARE ERA NAME MEIZI,1CORPORATION,1PA AMPS,1NA,1MU A,1MA,1KA,1KB,1MB,1GB,1CAL,1KCAL",
    "338a=SQUARE PF,1NF,1MU F,2G,1MG,1KG,1HZ,1KHZ,1MHZ,1GHZ,1THZ,1MU L,1ML,1DL,1KL,1FM,1NM,1MU M",
    "339c=SQUARE MM,1CM,1KM,1MM SQUARED,1CM SQUARED,1M SQUARED,1KM SQUARED,1MM CUBED,1CM CUBED",
    "33a5=SQUARE M CUBED,1KM CUBED,1M OVER S,4SQUARED,1PA,1KPA,1MPA,1GPA,1RAD,2OVER S,4SQUARED",
    "33b0=SQUARE PS,1NS,1MU S,1MS,1PV,1NV,1MU V,1MV,1KV,1MV MEGA,1PW,1NW,1MU W,1MW,1KW,1MW MEGA",
    "33c0=SQUARE K OHM,1M OHM,1AM,1BQ,1CC,1CD,1C OVER KG,1CO,1DB,1GY,1HA,1HP,1IN,1KK,1KM CAPITAL",
    "33cf=SQUARE KT,1LM,1LN,1LOG,1LX,1MB SMALL,1MIL,1MOL,1PH,1PM,1PPM,1PR,1SR,1SV,1WB,1V OVER M",
    "33df=SQUARE A OVER M,IDEOGRAPHIC TELEGRAPH SYMBOL FOR DAY ONE,5TWO,5THREE,5FOUR,5FIVE,5SIX",
    "33e6=IDEOGRAPHIC TELEGRAPH SYMBOL FOR DAY SEVEN,5EIGHT,5NINE,5TEN,5ELEVEN,5TWELVE,5THIRTEEN",
    "33ed=IDEOGRAPHIC TELEGRAPH SYMBOL FOR DAY FOURTEEN,5FIFTEEN,5SIXTEEN,5SEVENTEEN,5EIGHTEEN",
    "33f2=IDEOGRAPHIC TELEGRAPH SYMBOL FOR DAY NINETEEN,5TWENTY,5TWENTY-ONE,5TWENTY-TWO",
    "33f6=IDEOGRAPHIC TELEGRAPH SYMBOL FOR DAY TWENTY-THREE,5TWENTY-FOUR,5TWENTY-FIVE,5TWENTY-SIX",
    "33fa=IDEOGRAPHIC TELEGRAPH SYMBOL FOR DAY TWENTY-SEVEN,5TWENTY-EIGHT,5TWENTY-NINE,5THIRTY",
    "33fe=IDEOGRAPHIC TELEGRAPH SYMBOL FOR DAY THIRTY-ONE,SQUARE GAL",
    "fb00=LATIN SMALL LIGATURE FF,3FI,3FL,3FFI,3FFL,3LONG S T,3ST",
    "fb1d=HEBREW LETTER YOD WITH HIRIQ,1POINT JUDEO-SPANISH VARIKA",
    "fb1f=HEBREW LIGATURE YIDDISH YOD YOD PATAH,1LETTER ALTERNATIVE AYIN,2WIDE ALEF,3DALET,3HE",
    "fb24=HEBREW LETTER WIDE KAF,3LAMED,3FINAL MEM,3RESH,3TAV,2ALTERNATIVE PLUS SIGN",
    "fb2a=HEBREW LETTER SHIN WITH SHIN DOT,4SIN DOT,4DAGESH AND SHIN DOT,6SIN DOT",
    "fb2e=HEBREW LETTER ALEF WITH PATAH,4QAMATS,4MAPIQ,2BET WITH DAGESH,2GIMEL WITH DAGESH",
    "fb33=HEBREW LETTER DALET WITH DAGESH,2HE WITH MAPIQ,2VAV WITH DAGESH,2ZAYIN WITH DAGESH",
    "fb38=HEBREW LETTER TET WITH DAGESH,2YOD WITH DAGESH,2FINAL KAF WITH DAGESH,2KAF WITH DAGESH",
    "fb3c=HEBREW LETTER LAMED WITH DAGESH",
    "fb3e=HEBREW LETTER MEM WITH DAGESH",
    "fb40=HEBREW LETTER NUN WITH DAGESH,2SAMEKH WITH DAGESH",
    "fb43=HEBREW LETTER FINAL PE WITH DAGESH,2PE WITH DAGESH",
    "fb46=HEBREW LETTER TSADI WITH DAGESH,2QOF WITH DAGESH,2RESH WITH DAGESH,2SHIN WITH DAGESH",
    "fb4a=HEBREW LETTER TAV WITH DAGESH,2VAV WITH HOLAM,2BET WITH RAFE,2KAF WITH RAFE",
    "fb4e=HEBREW LETTER PE WITH RAFE,1LIGATURE ALEF LAMED",
    "fe00=VARIATION SELECTOR-1,1SELECTOR-2,1SELECTOR-3,1SELECTOR-4,1SELECTOR-5,1SELECTOR-6",
    "fe06=VARIATION SELECTOR-7,1SELECTOR-8,1SELECTOR-9,1SELECTOR-10,1SELECTOR-11,1SELECTOR-12",
    "fe0c=VARIATION SELECTOR-13,1SELECTOR-14,1SELECTOR-15,1SELECTOR-16",
    "fe10=PRESENTATION FORM FOR VERTICAL COMMA,4IDEOGRAPHIC COMMA,5FULL STOP,4COLON,4SEMICOLON",
    "fe15=PRESENTATION FORM FOR VERTICAL EXCLAMATION MARK,4QUESTION MARK",
    "fe17=PRESENTATION FORM FOR VERTICAL LEFT WHITE LENTICULAR BRACKET",
    "fe18=PRESENTATION FORM FOR VERTICAL RIGHT WHITE LENTICULAR BRAKCET,4HORIZONTAL ELLIPSIS",
    "fe20=COMBINING LIGATURE LEFT HALF,2RIGHT HALF,1DOUBLE TILDE LEFT HALF,3RIGHT HALF",
    "fe24=COMBINING MACRON LEFT HALF,2RIGHT HALF,1CONJOINING MACRON,1LIGATURE LEFT HALF BELOW",
    "fe28=COMBINING LIGATURE RIGHT HALF BELOW,1TILDE LEFT HALF BELOW,2RIGHT HALF BELOW",
    "fe2b=COMBINING MACRON LEFT HALF BELOW,2RIGHT HALF BELOW,1CONJOINING MACRON BELOW",
    "fe2e=COMBINING CYRILLIC TITLO LEFT HALF,3RIGHT HALF",
    "fe30=PRESENTATION FORM FOR VERTICAL TWO DOT LEADER,4EM DASH,4EN DASH,4LOW LINE",
    "fe34=PRESENTATION FORM FOR VERTICAL WAVY LOW LINE,4LEFT PARENTHESIS,4RIGHT PARENTHESIS",
    "fe37=PRESENTATION FORM FOR VERTICAL LEFT CURLY BRACKET,4RIGHT CURLY BRACKET",
    "fe39=PRESENTATION FORM FOR VERTICAL LEFT TORTOISE SHELL BRACKET",
    "fe3a=PRESENTATION FORM FOR VERTICAL RIGHT TORTOISE SHELL BRACKET",
    "fe3b=PRESENTATION FORM FOR VERTICAL LEFT BLACK LENTICULAR BRACKET",
    "fe3c=PRESENTATION FORM FOR VERTICAL RIGHT BLACK LENTICULAR BRACKET",
    "fe3d=PRESENTATION FORM FOR VERTICAL LEFT DOUBLE ANGLE BRACKET,4RIGHT DOUBLE ANGLE BRACKET",
    "fe3f=PRESENTATION FORM FOR VERTICAL LEFT ANGLE BRACKET,4RIGHT ANGLE BRACKET",
    "fe41=PRESENTATION FORM FOR VERTICAL LEFT CORNER BRACKET,4RIGHT CORNER BRACKET",
    "fe43=PRESENTATION FORM FOR VERTICAL LEFT WHITE CORNER BRACKET,4RIGHT WHITE CORNER BRACKET",
    "fe45=SESAME DOT,WHITE SESAME DOT,PRESENTATION FORM FOR VERTICAL LEFT SQUARE BRACKET",
    "fe48=PRESENTATION FORM FOR VERTICAL RIGHT SQUARE BRACKET,DASHED OVERLINE,CENTRELINE OVERLINE",
    "fe4b=WAVY OVERLINE,DOUBLE WAVY OVERLINE,DASHED LOW LINE,CENTRELINE LOW LINE,WAVY LOW LINE",
    "feff=ZERO WIDTH NO-BREAK SPACE",
    "ff01=FULLWIDTH EXCLAMATION MARK,1QUOTATION MARK,1NUMBER SIGN,1DOLLAR SIGN,1PERCENT SIGN",
    "ff06=FULLWIDTH AMPERSAND,1APOSTROPHE,1LEFT PARENTHESIS,1RIGHT PARENTHESIS,1ASTERISK",
    "ff0b=FULLWIDTH PLUS SIGN,1COMMA,1HYPHEN-MINUS,1FULL STOP,1SOLIDUS,1DIGIT ZERO,2ONE,2TWO",
    "ff13=FULLWIDTH DIGIT THREE,2FOUR,2FIVE,2SIX,2SEVEN,2EIGHT,2NINE,1COLON,1SEMICOLON",
    "ff1c=FULLWIDTH LESS-THAN SIGN,1EQUALS SIGN,1GREATER-THAN SIGN,1QUESTION MARK,1COMMERCIAL AT",
    "ff21=FULLWIDTH LATIN CAPITAL LETTER A,4B,4C,4D,4E,4F,4G,4H,4I,4J,4K,4L,4M,4N,4O,4P,4Q,4R,4S",
    "ff34=FULLWIDTH LATIN CAPITAL LETTER T,4U,4V,4W,4X,4Y,4Z,1LEFT SQUARE BRACKET",
    "ff3c=FULLWIDTH REVERSE SOLIDUS,1RIGHT SQUARE BRACKET,1CIRCUMFLEX ACCENT,1LOW LINE",
    "ff40=FULLWIDTH GRAVE ACCENT,1LATIN SMALL LETTER A,4B,4C,4D,4E,4F,4G,4H,4I,4J,4K,4L,4M,4N,4O",
    "ff50=FULLWIDTH LATIN SMALL LETTER P,4Q,4R,4S,4T,4U,4V,4W,4X,4Y,4Z,1LEFT CURLY BRACKET",
    "ff5c=FULLWIDTH VERTICAL LINE,1RIGHT CURLY BRACKET,1TILDE,1LEFT WHITE PARENTHESIS",
    "ff60=FULLWIDTH RIGHT WHITE PARENTHESIS,HALFWIDTH IDEOGRAPHIC FULL STOP,1LEFT CORNER BRACKET",
    "ff63=HALFWIDTH RIGHT CORNER BRACKET,1IDEOGRAPHIC COMMA,1KATAKANA MIDDLE DOT,2LETTER WO",
    "ff67=HALFWIDTH KATAKANA LETTER SMALL A,4I,4U,4E,4O,4YA,4YU,4YO,4TU",
    "ff70=HALFWIDTH KATAKANA-HIRAGANA PROLONGED SOUND MARK,1KATAKANA LETTER A,3I,3U,3E,3O,3KA,3KI",
    "ff78=HALFWIDTH KATAKANA LETTER KU,3KE,3KO,3SA,3SI,3SU,3SE,3SO,3TA,3TI,3TU,3TE,3TO,3NA,3NI",
    "ff87=HALFWIDTH KATAKANA LETTER NU,3NE,3NO,3HA,3HI,3HU,3HE,3HO,3MA,3MI,3MU,3ME,3MO,3YA,3YU",
    "ff96=HALFWIDTH KATAKANA LETTER YO,3RA,3RI,3RU,3RE,3RO,3WA,3N,2VOICED SOUND MARK",
    "ff9f=HALFWIDTH KATAKANA SEMI-VOICED SOUND MARK,1HANGUL FILLER,2LETTER KIYEOK,3SSANGKIYEOK",
    "ffa3=HALFWIDTH HANGUL LETTER KIYEOK-SIOS,3NIEUN,3NIEUN-CIEUC,3NIEUN-HIEUH,3TIKEUT",
    "ffa8=HALFWIDTH HANGUL LETTER SSANGTIKEUT,3RIEUL,3RIEUL-KIYEOK,3RIEUL-MIEUM,3RIEUL-PIEUP",
    "ffad=HALFWIDTH HANGUL LETTER RIEUL-SIOS,3RIEUL-THIEUTH,3RIEUL-PHIEUPH,3RIEUL-HIEUH,3MIEUM",
    "ffb2=HALFWIDTH HANGUL LETTER PIEUP,3SSANGPIEUP,3PIEUP-SIOS,3SIOS,3SSANGSIOS,3IEUNG,3CIEUC",
    "ffb9=HALFWIDTH HANGUL LETTER SSANGCIEUC,3CHIEUCH,3KHIEUKH,3THIEUTH,3PHIEUPH,3HIEUH",
    "ffc2=HALFWIDTH HANGUL LETTER A,3AE,3YA,3YAE,3EO,3E",
    "ffca=HALFWIDTH HANGUL LETTER YEO,3YE,3O,3WA,3WAE,3OE",
    "ffd2=HALFWIDTH HANGUL LETTER YO,3U,3WEO,3WE,3WI,3YU",
    "ffda=HALFWIDTH HANGUL LETTER EU,3YI,3I",
    "ffe0=FULLWIDTH CENT SIGN,1POUND SIGN,1NOT SIGN,1MACRON,1BROKEN BAR,1YEN SIGN,1WON SIGN",
    "ffe8=HALFWIDTH FORMS LIGHT VERTICAL,1LEFTWARDS ARROW,1UPWARDS ARROW,1RIGHTWARDS ARROW",
    "ffec=HALFWIDTH DOWNWARDS ARROW,1BLACK SQUARE,1WHITE CIRCLE",
    "fff9=INTERLINEAR ANNOTATION ANCHOR,2SEPARATOR,2TERMINATOR,OBJECT REPLACEMENT CHARACTER",
    "fffd=REPLACEMENT CHARACTER",
    "1d400=MATHEMATICAL BOLD CAPITAL A,3B,3C,3D,3E,3F,3G,3H,3I,3J,3K,3L,3M,3N,3O,3P,3Q,3R,3S,3T",
    "1d414=MATHEMATICAL BOLD CAPITAL U,3V,3W,3X,3Y,3Z,2SMALL A,3B,3C,3D,3E,3F,3G,3H,3I,3J,3K,3L",
    "1d426=MATHEMATICAL BOLD SMALL M,3N,3O,3P,3Q,3R,3S,3T,3U,3V,3W,3X,3Y,3Z,1ITALIC CAPITAL A,3B",
    "1d436=MATHEMATICAL ITALIC CAPITAL C,3D,3E,3F,3G,3H,3I,3J,3K,3L,3M,3N,3O,3P,3Q,3R,3S,3T,3U,3V",
    "1d44a=MATHEMATICAL ITALIC CAPITAL W,3X,3Y,3Z,2SMALL A,3B,3C,3D,3E,3F,3G",
    "1d456=MATHEMATICAL ITALIC SMALL I,3J,3K,3L,3M,3N,3O,3P,3Q,3R,3S,3T,3U,3V,3W,3X,3Y,3Z",
    "1d468=MATHEMATICAL BOLD ITALIC CAPITAL A,4B,4C,4D,4E,4F,4G,4H,4I,4J,4K,4L,4M,4N,4O,4P,4Q,4R",
    "1d47a=MATHEMATICAL BOLD ITALIC CAPITAL S,4T,4U,4V,4W,4X,4Y,4Z,3SMALL A,4B,4C,4D,4E,4F,4G,4H",
    "1d48a=MATHEMATICAL BOLD ITALIC SMALL I,4J,4K,4L,4M,4N,4O,4P,4Q,4R,4S,4T,4U,4V,4W,4X,4Y,4Z",
    "1d49c=MATHEMATICAL SCRIPT CAPITAL A",
    "1d49e=MATHEMATICAL SCRIPT CAPITAL C,3D",
    "1d4a2=MATHEMATICAL SCRIPT CAPITAL G",
    "1d4a5=MATHEMATICAL SCRIPT CAPITAL J,3K",
    "1d4a9=MATHEMATICAL SCRIPT CAPITAL N,3O,3P,3Q",
    "1d4ae=MATHEMATICAL SCRIPT CAPITAL S,3T,3U,3V,3W,3X,3Y,3Z,2SMALL A,3B,3C,3D",
    "1d4bb=MATHEMATICAL SCRIPT SMALL F",
    "1d4bd=MATHEMATICAL SCRIPT SMALL H,3I,3J,3K,3L,3M,3N",
    "1d4c5=MATHEMATICAL SCRIPT SMALL P,3Q,3R,3S,3T,3U,3V,3W,3X,3Y,3Z,1BOLD SCRIPT CAPITAL A,4B,4C",
    "1d4d3=MATHEMATICAL BOLD SCRIPT CAPITAL D,4E,4F,4G,4H,4I,4J,4K,4L,4M,4N,4O,4P,4Q,4R,4S,4T,4U",
    "1d4e5=MATHEMATICAL BOLD SCRIPT CAPITAL V,4W,4X,4Y,4Z,3SMALL A,4B,4C,4D,4E,4F,4G,4H,4I,4J,4K",
    "1d4f5=MATHEMATICAL BOLD SCRIPT SMALL L,4M,4N,4O,4P,4Q,4R,4S,4T,4U,4V,4W,4X,4Y,4Z",
    "1d504=MATHEMATICAL FRAKTUR CAPITAL A,3B",
    "1d507=MATHEMATICAL FRAKTUR CAPITAL D,3E,3F,3G",
    "1d50d=MATHEMATICAL FRAKTUR CAPITAL J,3K,3L,3M,3N,3O,3P,3Q",
    "1d516=MATHEMATICAL FRAKTUR CAPITAL S,3T,3U,3V,3W,3X,3Y",
    "1d51e=MATHEMATICAL FRAKTUR SMALL A,3B,3C,3D,3E,3F,3G,3H,3I,3J,3K,3L,3M,3N,3O,3P,3Q,3R,3S,3T",
    "1d532=MATHEMATICAL FRAKTUR SMALL U,3V,3W,3X,3Y,3Z,1DOUBLE-STRUCK CAPITAL A,3B",
    "1d53b=MATHEMATICAL DOUBLE-STRUCK CAPITAL D,3E,3F,3G",
    "1d540=MATHEMATICAL DOUBLE-STRUCK CAPITAL I,3J,3K,3L,3M",
    "1d546=MATHEMATICAL DOUBLE-STRUCK CAPITAL O",
    "1d54a=MATHEMATICAL DOUBLE-STRUCK CAPITAL S,3T,3U,3V,3W,3X,3Y",
    "1d552=MATHEMATICAL DOUBLE-STRUCK SMALL A,3B,3C,3D,3E,3F,3G,3H,3I,3J,3K,3L,3M,3N,3O,3P,3Q,3R",
    "1d564=MATHEMATICAL DOUBLE-STRUCK SMALL S,3T,3U,3V,3W,3X,3Y,3Z,1BOLD FRAKTUR CAPITAL A,4B,4C",
    "1d56f=MATHEMATICAL BOLD FRAKTUR CAPITAL D,4E,4F,4G,4H,4I,4J,4K,4L,4M,4N,4O,4P,4Q,4R,4S,4T,4U",
    "1d581=MATHEMATICAL BOLD FRAKTUR CAPITAL V,4W,4X,4Y,4Z,3SMALL A,4B,4C,4D,4E,4F,4G,4H,4I,4J,4K",
    "1d591=MATHEMATICAL BOLD FRAKTUR SMALL L,4M,4N,4O,4P,4Q,4R,4S,4T,4U,4V,4W,4X,4Y,4Z",
    "1d5a0=MATHEMATICAL SANS-SERIF CAPITAL A,3B,3C,3D,3E,3F,3G,3H,3I,3J,3K,3L,3M,3N,3O,3P,3Q,3R",
    "1d5b2=MATHEMATICAL SANS-SERIF CAPITAL S,3T,3U,3V,3W,3X,3Y,3Z,2SMALL A,3B,3C,3D,3E,3F,3G,3H",
    "1d5c2=MATHEMATICAL SANS-SERIF SMALL I,3J,3K,3L,3M,3N,3O,3P,3Q,3R,3S,3T,3U,3V,3W,3X,3Y,3Z",
    "1d5d4=MATHEMATICAL SANS-SERIF BOLD CAPITAL A,4B,4C,4D,4E,4F,4G,4H,4I,4J,4K,4L,4M,4N,4O,4P,4Q",
    "1d5e5=MATHEMATICAL SANS-SERIF BOLD CAPITAL R,4S,4T,4U,4V,4W,4X,4Y,4Z,3SMALL A,4B,4C,4D,4E,4F",
    "1d5f4=MATHEMATICAL SANS-SERIF BOLD SMALL G,4H,4I,4J,4K,4L,4M,4N,4O,4P,4Q,4R,4S,4T,4U,4V,4W",
    "1d605=MATHEMATICAL SANS-SERIF BOLD SMALL X,4Y,4Z,2ITALIC CAPITAL A,4B,4C,4D,4E,4F,4G,4H,4I",
    "1d611=MATHEMATICAL SANS-SERIF ITALIC CAPITAL J,4K,4L,4M,4N,4O,4P,4Q,4R,4S,4T,4U,4V,4W,4X,4Y",
    "1d621=MATHEMATICAL SANS-SERIF ITALIC CAPITAL Z,3SMALL A,4B,4C,4D,4E,4F,4G,4H,4I,4J,4K,4L,4M",
    "1d62f=MATHEMATICAL SANS-SERIF ITALIC SMALL N,4O,4P,4Q,4R,4S,4T,4U,4V,4W,4X,4Y,4Z",
    "1d63c=MATHEMATICAL SANS-SERIF BOLD ITALIC CAPITAL A,5B,5C,5D,5E,5F,5G,5H,5I,5J,5K,5L,5M,5N",
    "1d64a=MATHEMATICAL SANS-SERIF BOLD ITALIC CAPITAL O,5P,5Q,5R,5S,5T,5U,5V,5W,5X,5Y,5Z",
    "1d656=MATHEMATICAL SANS-SERIF BOLD ITALIC SMALL A,5B,5C,5D,5E,5F,5G,5H,5I,5J,5K,5L,5M,5N,5O",
    "1d665=MATHEMATICAL SANS-SERIF BOLD ITALIC SMALL P,5Q,5R,5S,5T,5U,5V,5W,5X,5Y,5Z",
    "1d670=MATHEMATICAL MONOSPACE CAPITAL A,3B,3C,3D,3E,3F,3G,3H,3I,3J,3K,3L,3M,3N,3O,3P,3Q,3R,3S",
    "1d683=MATHEMATICAL MONOSPACE CAPITAL T,3U,3V,3W,3X,3Y,3Z,2SMALL A,3B,3C,3D,3E,3F,3G,3H,3I,3J",
    "1d694=MATHEMATICAL MONOSPACE SMALL K,3L,3M,3N,3O,3P,3Q,3R,3S,3T,3U,3V,3W,3X,3Y,3Z",
    "1d6a4=MATHEMATICAL ITALIC SMALL DOTLESS I,4J",
    "1d6a8=MATHEMATICAL BOLD CAPITAL ALPHA,3BETA,3GAMMA,3DELTA,3EPSILON,3ZETA,3ETA,3THETA,3IOTA",
    "1d6b1=MATHEMATICAL BOLD CAPITAL KAPPA,3LAMDA,3MU,3NU,3XI,3OMICRON,3PI,3RHO,3THETA SYMBOL",
    "1d6ba=MATHEMATICAL BOLD CAPITAL SIGMA,3TAU,3UPSILON,3PHI,3CHI,3PSI,3OMEGA,2NABLA",
    "1d6c2=MATHEMATICAL BOLD SMALL ALPHA,3BETA,3GAMMA,3DELTA,3EPSILON,3ZETA,3ETA,3THETA,3IOTA",
    "1d6cb=MATHEMATICAL BOLD SMALL KAPPA,3LAMDA,3MU,3NU,3XI,3OMICRON,3PI,3RHO,3FINAL SIGMA,3SIGMA",
    "1d6d5=MATHEMATICAL BOLD SMALL TAU,3UPSILON,3PHI,3CHI,3PSI,3OMEGA,2PARTIAL DIFFERENTIAL",
    "1d6dc=MATHEMATICAL BOLD EPSILON SYMBOL,2THETA SYMBOL,2KAPPA SYMBOL,2PHI SYMBOL,2RHO SYMBOL",
    "1d6e1=MATHEMATICAL BOLD PI SYMBOL,1ITALIC CAPITAL ALPHA,3BETA,3GAMMA,3DELTA,3EPSILON,3ZETA",
    "1d6e8=MATHEMATICAL ITALIC CAPITAL ETA,3THETA,3IOTA,3KAPPA,3LAMDA,3MU,3NU,3XI,3OMICRON,3PI",
    "1d6f2=MATHEMATICAL ITALIC CAPITAL RHO,3THETA SYMBOL,3SIGMA,3TAU,3UPSILON,3PHI,3CHI,3PSI",
    "1d6fa=MATHEMATICAL ITALIC CAPITAL OMEGA,2NABLA,2SMALL ALPHA,3BETA,3GAMMA,3DELTA,3EPSILON",
    "1d701=MATHEMATICAL ITALIC SMALL ZETA,3ETA,3THETA,3IOTA,3KAPPA,3LAMDA,3MU,3NU,3XI,3OMICRON",
    "1d70b=MATHEMATICAL ITALIC SMALL PI,3RHO,3FINAL SIGMA,3SIGMA,3TAU,3UPSILON,3PHI,3CHI,3PSI",
    "1d714=MATHEMATICAL ITALIC SMALL OMEGA,2PARTIAL DIFFERENTIAL,2EPSILON SYMBOL,2THETA SYMBOL",
    "1d718=MATHEMATICAL ITALIC KAPPA SYMBOL,2PHI SYMBOL,2RHO SYMBOL,2PI SYMBOL",
    "1d71c=MATHEMATICAL BOLD ITALIC CAPITAL ALPHA,4BETA,4GAMMA,4DELTA,4EPSILON,4ZETA,4ETA,4THETA",
    "1d724=MATHEMATICAL BOLD ITALIC CAPITAL IOTA,4KAPPA,4LAMDA,4MU,4NU,4XI,4OMICRON,4PI,4RHO",
    "1d72d=MATHEMATICAL BOLD ITALIC CAPITAL THETA SYMBOL,4SIGMA,4TAU,4UPSILON,4PHI,4CHI,4PSI",
    "1d734=MATHEMATICAL BOLD ITALIC CAPITAL OMEGA,3NABLA,3SMALL ALPHA,4BETA,4GAMMA,4DELTA",
    "1d73a=MATHEMATICAL BOLD ITALIC SMALL EPSILON,4ZETA,4ETA,4THETA,4IOTA,4KAPPA,4LAMDA,4MU,4NU",
    "1d743=MATHEMATICAL BOLD ITALIC SMALL XI,4OMICRON,4PI,4RHO,4FINAL SIGMA,4SIGMA,4TAU,4UPSILON",
    "1d74b=MATHEMATICAL BOLD ITALIC SMALL PHI,4CHI,4PSI,4OMEGA,3PARTIAL DIFFERENTIAL",
    "1d750=MATHEMATICAL BOLD ITALIC EPSILON SYMBOL,3THETA SYMBOL,3KAPPA SYMBOL,3PHI SYMBOL",
    "1d754=MATHEMATICAL BOLD ITALIC RHO SYMBOL,3PI SYMBOL,1SANS-SERIF BOLD CAPITAL ALPHA,4BETA",
    "1d758=MATHEMATICAL SANS-SERIF BOLD CAPITAL GAMMA,4DELTA,4EPSILON,4ZETA,4ETA,4THETA,4IOTA",
    "1d75f=MATHEMATICAL SANS-SERIF BOLD CAPITAL KAPPA,4LAMDA,4MU,4NU,4XI,4OMICRON,4PI,4RHO",
    "1d767=MATHEMATICAL SANS-SERIF BOLD CAPITAL THETA SYMBOL,4SIGMA,4TAU,4UPSILON,4PHI,4CHI,4PSI",
    "1d76e=MATHEMATICAL SANS-SERIF BOLD CAPITAL OMEGA,3NABLA,3SMALL ALPHA,4BETA,4GAMMA,4DELTA",
    "1d774=MATHEMATICAL SANS-SERIF BOLD SMALL EPSILON,4ZETA,4ETA,4THETA,4IOTA,4KAPPA,4LAMDA,4MU",
    "1d77c=MATHEMATICAL SANS-SERIF BOLD SMALL NU,4XI,4OMICRON,4PI,4RHO,4FINAL SIGMA,4SIGMA,4TAU",
    "1d784=MATHEMATICAL SANS-SERIF BOLD SMALL UPSILON,4PHI,4CHI,4PSI,4OMEGA,3PARTIAL DIFFERENTIAL",
    "1d78a=MATHEMATICAL SANS-SERIF BOLD EPSILON SYMBOL,3THETA SYMBOL,3KAPPA SYMBOL,3PHI SYMBOL",
    "1d78e=MATHEMATICAL SANS-SERIF BOLD RHO SYMBOL,3PI SYMBOL,3ITALIC CAPITAL ALPHA,5BETA,5GAMMA",
    "1d793=MATHEMATICAL SANS-SERIF BOLD ITALIC CAPITAL DELTA,5EPSILON,5ZETA,5ETA,5THETA,5IOTA",
    "1d799=MATHEMATICAL SANS-SERIF BOLD ITALIC CAPITAL KAPPA,5LAMDA,5MU,5NU,5XI,5OMICRON,5PI,5RHO",
    "1d7a1=MATHEMATICAL SANS-SERIF BOLD ITALIC CAPITAL THETA SYMBOL,5SIGMA,5TAU,5UPSILON,5PHI",
    "1d7a6=MATHEMATICAL SANS-SERIF BOLD ITALIC CAPITAL CHI,5PSI,5OMEGA,4NABLA,4SMALL ALPHA,5BETA",
    "1d7ac=MATHEMATICAL SANS-SERIF BOLD ITALIC SMALL GAMMA,5DELTA,5EPSILON,5ZETA,5ETA,5THETA",
    "1d7b2=MATHEMATICAL SANS-SERIF BOLD ITALIC SMALL IOTA,5KAPPA,5LAMDA,5MU,5NU,5XI,5OMICRON,5PI",
    "1d7ba=MATHEMATICAL SANS-SERIF BOLD ITALIC SMALL RHO,5FINAL SIGMA,5SIGMA,5TAU,5UPSILON,5PHI",
    "1d7c0=MATHEMATICAL SANS-SERIF BOLD ITALIC SMALL CHI,5PSI,5OMEGA,4PARTIAL DIFFERENTIAL",
    "1d7c4=MATHEMATICAL SANS-SERIF BOLD ITALIC EPSILON SYMBOL,4THETA SYMBOL,4KAPPA SYMBOL",
    "1d7c7=MATHEMATICAL SANS-SERIF BOLD ITALIC PHI SYMBOL,4RHO SYMBOL,4PI SYMBOL",
    "1d7ca=MATHEMATICAL BOLD CAPITAL DIGAMMA,2SMALL DIGAMMA",
    "1d7ce=MATHEMATICAL BOLD DIGIT ZERO,3ONE,3TWO,3THREE,3FOUR,3FIVE,3SIX,3SEVEN,3EIGHT,3NINE",
    "1d7d8=MATHEMATICAL DOUBLE-STRUCK DIGIT ZERO,3ONE,3TWO,3THREE,3FOUR,3FIVE,3SIX,3SEVEN,3EIGHT",
    "1d7e1=MATHEMATICAL DOUBLE-STRUCK DIGIT NINE,1SANS-SERIF DIGIT ZERO,3ONE,3TWO,3THREE,3FOUR",
    "1d7e7=MATHEMATICAL SANS-SERIF DIGIT FIVE,3SIX,3SEVEN,3EIGHT,3NINE,2BOLD DIGIT ZERO,4ONE,4TWO",
    "1d7ef=MATHEMATICAL SANS-SERIF BOLD DIGIT THREE,4FOUR,4FIVE,4SIX,4SEVEN,4EIGHT,4NINE",
    "1d7f6=MATHEMATICAL MONOSPACE DIGIT ZERO,3ONE,3TWO,3THREE,3FOUR,3FIVE,3SIX,3SEVEN,3EIGHT",
    "1d7ff=MATHEMATICAL MONOSPACE DIGIT NINE"]

end SnippetRunner.Text.Name
