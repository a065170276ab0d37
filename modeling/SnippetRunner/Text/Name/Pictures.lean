/-!
# Names of pictures

Game pieces, enclosed letters, emoji and other pictures. Each line
gives a code and the names of the characters from there on; a digit before a name says how many
words it has in common with the name before it.
-/

namespace SnippetRunner.Text.Name

/-- The lines of the names. -/
def pictures : List String :=
  [ "1f000=MAHJONG TILE EAST WIND,2SOUTH WIND,2WEST WIND,2NORTH WIND,2RED DRAGON,2GREEN DRAGON",
    "1f006=MAHJONG TILE WHITE DRAGON,2ONE OF CHARACTERS,2TWO OF CHARACTERS,2THREE OF CHARACTERS",
    "1f00a=MAHJONG TILE FOUR OF CHARACTERS,2FIVE OF CHARACTERS,2SIX OF CHARACTERS",
    "1f00d=MAHJONG TILE SEVEN OF CHARACTERS,2EIGHT OF CHARACTERS,2NINE OF CHARACTERS",
    "1f010=MAHJONG TILE ONE OF BAMBOOS,2TWO OF BAMBOOS,2THREE OF BAMBOOS,2FOUR OF BAMBOOS",
    "1f014=MAHJONG TILE FIVE OF BAMBOOS,2SIX OF BAMBOOS,2SEVEN OF BAMBOOS,2EIGHT OF BAMBOOS",
    "1f018=MAHJONG TILE NINE OF BAMBOOS,2ONE OF CIRCLES,2TWO OF CIRCLES,2THREE OF CIRCLES",
    "1f01c=MAHJONG TILE FOUR OF CIRCLES,2FIVE OF CIRCLES,2SIX OF CIRCLES,2SEVEN OF CIRCLES",
    "1f020=MAHJONG TILE EIGHT OF CIRCLES,2NINE OF CIRCLES,2PLUM,2ORCHID,2BAMBOO,2CHRYSANTHEMUM",
    "1f026=MAHJONG TILE SPRING,2SUMMER,2AUTUMN,2WINTER,2JOKER,2BACK",
    "1f030=DOMINO TILE HORIZONTAL BACK,2HORIZONTAL-00-00,2HORIZONTAL-00-01,2HORIZONTAL-00-02",
    "1f034=DOMINO TILE HORIZONTAL-00-03,2HORIZONTAL-00-04,2HORIZONTAL-00-05,2HORIZONTAL-00-06",
    "1f038=DOMINO TILE HORIZONTAL-01-00,2HORIZONTAL-01-01,2HORIZONTAL-01-02,2HORIZONTAL-01-03",
    "1f03c=DOMINO TILE HORIZONTAL-01-04,2HORIZONTAL-01-05,2HORIZONTAL-01-06,2HORIZONTAL-02-00",
    "1f040=DOMINO TILE HORIZONTAL-02-01,2HORIZONTAL-02-02,2HORIZONTAL-02-03,2HORIZONTAL-02-04",
    "1f044=DOMINO TILE HORIZONTAL-02-05,2HORIZONTAL-02-06,2HORIZONTAL-03-00,2HORIZONTAL-03-01",
    "1f048=DOMINO TILE HORIZONTAL-03-02,2HORIZONTAL-03-03,2HORIZONTAL-03-04,2HORIZONTAL-03-05",
    "1f04c=DOMINO TILE HORIZONTAL-03-06,2HORIZONTAL-04-00,2HORIZONTAL-04-01,2HORIZONTAL-04-02",
    "1f050=DOMINO TILE HORIZONTAL-04-03,2HORIZONTAL-04-04,2HORIZONTAL-04-05,2HORIZONTAL-04-06",
    "1f054=DOMINO TILE HORIZONTAL-05-00,2HORIZONTAL-05-01,2HORIZONTAL-05-02,2HORIZONTAL-05-03",
    "1f058=DOMINO TILE HORIZONTAL-05-04,2HORIZONTAL-05-05,2HORIZONTAL-05-06,2HORIZONTAL-06-00",
    "1f05c=DOMINO TILE HORIZONTAL-06-01,2HORIZONTAL-06-02,2HORIZONTAL-06-03,2HORIZONTAL-06-04",
    "1f060=DOMINO TILE HORIZONTAL-06-05,2HORIZONTAL-06-06,2VERTICAL BACK,2VERTICAL-00-00",
    "1f064=DOMINO TILE VERTICAL-00-01,2VERTICAL-00-02,2VERTICAL-00-03,2VERTICAL-00-04",
    "1f068=DOMINO TILE VERTICAL-00-05,2VERTICAL-00-06,2VERTICAL-01-00,2VERTICAL-01-01",
    "1f06c=DOMINO TILE VERTICAL-01-02,2VERTICAL-01-03,2VERTICAL-01-04,2VERTICAL-01-05",
    "1f070=DOMINO TILE VERTICAL-01-06,2VERTICAL-02-00,2VERTICAL-02-01,2VERTICAL-02-02",
    "1f074=DOMINO TILE VERTICAL-02-03,2VERTICAL-02-04,2VERTICAL-02-05,2VERTICAL-02-06",
    "1f078=DOMINO TILE VERTICAL-03-00,2VERTICAL-03-01,2VERTICAL-03-02,2VERTICAL-03-03",
    "1f07c=DOMINO TILE VERTICAL-03-04,2VERTICAL-03-05,2VERTICAL-03-06,2VERTICAL-04-00",
    "1f080=DOMINO TILE VERTICAL-04-01,2VERTICAL-04-02,2VERTICAL-04-03,2VERTICAL-04-04",
    "1f084=DOMINO TILE VERTICAL-04-05,2VERTICAL-04-06,2VERTICAL-05-00,2VERTICAL-05-01",
    "1f088=DOMINO TILE VERTICAL-05-02,2VERTICAL-05-03,2VERTICAL-05-04,2VERTICAL-05-05",
    "1f08c=DOMINO TILE VERTICAL-05-06,2VERTICAL-06-00,2VERTICAL-06-01,2VERTICAL-06-02",
    "1f090=DOMINO TILE VERTICAL-06-03,2VERTICAL-06-04,2VERTICAL-06-05,2VERTICAL-06-06",
    "1f0a0=PLAYING CARD BACK,2ACE OF SPADES,2TWO OF SPADES,2THREE OF SPADES,2FOUR OF SPADES",
    "1f0a5=PLAYING CARD FIVE OF SPADES,2SIX OF SPADES,2SEVEN OF SPADES,2EIGHT OF SPADES",
    "1f0a9=PLAYING CARD NINE OF SPADES,2TEN OF SPADES,2JACK OF SPADES,2KNIGHT OF SPADES",
    "1f0ad=PLAYING CARD QUEEN OF SPADES,2KING OF SPADES",
    "1f0b1=PLAYING CARD ACE OF HEARTS,2TWO OF HEARTS,2THREE OF HEARTS,2FOUR OF HEARTS",
    "1f0b5=PLAYING CARD FIVE OF HEARTS,2SIX OF HEARTS,2SEVEN OF HEARTS,2EIGHT OF HEARTS",
    "1f0b9=PLAYING CARD NINE OF HEARTS,2TEN OF HEARTS,2JACK OF HEARTS,2KNIGHT OF HEARTS",
    "1f0bd=PLAYING CARD QUEEN OF HEARTS,2KING OF HEARTS,2RED JOKER",
    "1f0c1=PLAYING CARD ACE OF DIAMONDS,2TWO OF DIAMONDS,2THREE OF DIAMONDS,2FOUR OF DIAMONDS",
    "1f0c5=PLAYING CARD FIVE OF DIAMONDS,2SIX OF DIAMONDS,2SEVEN OF DIAMONDS,2EIGHT OF DIAMONDS",
    "1f0c9=PLAYING CARD NINE OF DIAMONDS,2TEN OF DIAMONDS,2JACK OF DIAMONDS,2KNIGHT OF DIAMONDS",
    "1f0cd=PLAYING CARD QUEEN OF DIAMONDS,2KING OF DIAMONDS,2BLACK JOKER",
    "1f0d1=PLAYING CARD ACE OF CLUBS,2TWO OF CLUBS,2THREE OF CLUBS,2FOUR OF CLUBS,2FIVE OF CLUBS",
    "1f0d6=PLAYING CARD SIX OF CLUBS,2SEVEN OF CLUBS,2EIGHT OF CLUBS,2NINE OF CLUBS,2TEN OF CLUBS",
    "1f0db=PLAYING CARD JACK OF CLUBS,2KNIGHT OF CLUBS,2QUEEN OF CLUBS,2KING OF CLUBS",
    "1f0df=PLAYING CARD WHITE JOKER,2FOOL,2TRUMP-1,2TRUMP-2,2TRUMP-3,2TRUMP-4,2TRUMP-5,2TRUMP-6",
    "1f0e7=PLAYING CARD TRUMP-7,2TRUMP-8,2TRUMP-9,2TRUMP-10,2TRUMP-11,2TRUMP-12,2TRUMP-13",
    "1f0ee=PLAYING CARD TRUMP-14,2TRUMP-15,2TRUMP-16,2TRUMP-17,2TRUMP-18,2TRUMP-19,2TRUMP-20",
    "1f0f5=PLAYING CARD TRUMP-21",
    "1f100=DIGIT ZERO FULL STOP,2COMMA,1ONE COMMA,1TWO COMMA,1THREE COMMA,1FOUR COMMA,1FIVE COMMA",
    "1f107=DIGIT SIX COMMA,1SEVEN COMMA,1EIGHT COMMA,1NINE COMMA",
    "1f10b=DINGBAT CIRCLED SANS-SERIF DIGIT ZERO,1NEGATIVE CIRCLED SANS-SERIF DIGIT ZERO",
    "1f10d=CIRCLED ZERO WITH SLASH,1ANTICLOCKWISE ARROW,1DOLLAR SIGN WITH OVERLAID BACKSLASH",
    "1f110=PARENTHESIZED LATIN CAPITAL LETTER A,4B,4C,4D,4E,4F,4G,4H,4I,4J,4K,4L,4M,4N,4O,4P,4Q",
    "1f121=PARENTHESIZED LATIN CAPITAL LETTER R,4S,4T,4U,4V,4W,4X,4Y,4Z",
    "1f12a=TORTOISE SHELL BRACKETED LATIN CAPITAL LETTER S,CIRCLED ITALIC LATIN CAPITAL LETTER C",
    "1f12c=CIRCLED ITALIC LATIN CAPITAL LETTER R,1CD,1WZ,COPYLEFT SYMBOL",
    "1f130=SQUARED LATIN CAPITAL LETTER A,4B,4C,4D,4E,4F,4G,4H,4I,4J,4K,4L,4M,4N,4O,4P,4Q,4R,4S",
    "1f143=SQUARED LATIN CAPITAL LETTER T,4U,4V,4W,4X,4Y,4Z,1HV,1MV,1SD,1SS,1PPV,1WC",
    "1f150=NEGATIVE CIRCLED LATIN CAPITAL LETTER A,5B,5C,5D,5E,5F,5G,5H,5I,5J,5K,5L,5M,5N,5O,5P",
    "1f160=NEGATIVE CIRCLED LATIN CAPITAL LETTER Q,5R,5S,5T,5U,5V,5W,5X,5Y,5Z,RAISED MC SIGN",
    "1f16b=RAISED MD SIGN,1MR SIGN,CIRCLED CC,1C WITH OVERLAID BACKSLASH,1HUMAN FIGURE",
    "1f170=NEGATIVE SQUARED LATIN CAPITAL LETTER A,5B,5C,5D,5E,5F,5G,5H,5I,5J,5K,5L,5M,5N,5O,5P",
    "1f180=NEGATIVE SQUARED LATIN CAPITAL LETTER Q,5R,5S,5T,5U,5V,5W,5X,5Y,5Z",
    "1f18a=CROSSED NEGATIVE SQUARED LATIN CAPITAL LETTER P,NEGATIVE SQUARED IC,2PA,2SA,2AB,2WC",
    "1f190=SQUARE DJ,SQUARED CL,1COOL,1FREE,1ID,1NEW,1NG,1OK,1SOS,1UP WITH EXCLAMATION MARK,1VS",
    "1f19b=SQUARED THREE D,1SECOND SCREEN,1TWO K,1FOUR K,1EIGHT K,1FIVE POINT ONE",
    "1f1a1=SQUARED SEVEN POINT ONE,1TWENTY-TWO POINT TWO,1SIXTY P,1ONE HUNDRED TWENTY P",
    "1f1a5=SQUARED LATIN SMALL LETTER D,1HC,1HDR,1HI-RES,1LOSSLESS,1SHV,1UHD,1VOD",
    "1f1ad=MASK WORK SYMBOL",
    "1f1e6=REGIONAL INDICATOR SYMBOL LETTER A,4B,4C,4D,4E,4F,4G,4H,4I,4J,4K,4L,4M,4N,4O,4P,4Q,4R",
    "1f1f8=REGIONAL INDICATOR SYMBOL LETTER S,4T,4U,4V,4W,4X,4Y,4Z,SQUARE HIRAGANA HOKA",
    "1f201=SQUARED KATAKANA KOKO,2SA",
    "1f210=SQUARED CJK UNIFIED IDEOGRAPH-624B,3IDEOGRAPH-5B57,3IDEOGRAPH-53CC,1KATAKANA DE",
    "1f214=SQUARED CJK UNIFIED IDEOGRAPH-4E8C,3IDEOGRAPH-591A,3IDEOGRAPH-89E3,3IDEOGRAPH-5929",
    "1f218=SQUARED CJK UNIFIED IDEOGRAPH-4EA4,3IDEOGRAPH-6620,3IDEOGRAPH-7121,3IDEOGRAPH-6599",
    "1f21c=SQUARED CJK UNIFIED IDEOGRAPH-524D,3IDEOGRAPH-5F8C,3IDEOGRAPH-518D,3IDEOGRAPH-65B0",
    "1f220=SQUARED CJK UNIFIED IDEOGRAPH-521D,3IDEOGRAPH-7D42,3IDEOGRAPH-751F,3IDEOGRAPH-8CA9",
    "1f224=SQUARED CJK UNIFIED IDEOGRAPH-58F0,3IDEOGRAPH-5439,3IDEOGRAPH-6F14,3IDEOGRAPH-6295",
    "1f228=SQUARED CJK UNIFIED IDEOGRAPH-6355,3IDEOGRAPH-4E00,3IDEOGRAPH-4E09,3IDEOGRAPH-904A",
    "1f22c=SQUARED CJK UNIFIED IDEOGRAPH-5DE6,3IDEOGRAPH-4E2D,3IDEOGRAPH-53F3,3IDEOGRAPH-6307",
    "1f230=SQUARED CJK UNIFIED IDEOGRAPH-8D70,3IDEOGRAPH-6253,3IDEOGRAPH-7981,3IDEOGRAPH-7A7A",
    "1f234=SQUARED CJK UNIFIED IDEOGRAPH-5408,3IDEOGRAPH-6E80,3IDEOGRAPH-6709,3IDEOGRAPH-6708",
    "1f238=SQUARED CJK UNIFIED IDEOGRAPH-7533,3IDEOGRAPH-5272,3IDEOGRAPH-55B6,3IDEOGRAPH-914D",
    "1f240=TORTOISE SHELL BRACKETED CJK UNIFIED IDEOGRAPH-672C,5IDEOGRAPH-4E09,5IDEOGRAPH-4E8C",
    "1f243=TORTOISE SHELL BRACKETED CJK UNIFIED IDEOGRAPH-5B89,5IDEOGRAPH-70B9,5IDEOGRAPH-6253",
    "1f246=TORTOISE SHELL BRACKETED CJK UNIFIED IDEOGRAPH-76D7,5IDEOGRAPH-52DD,5IDEOGRAPH-6557",
    "1f250=CIRCLED IDEOGRAPH ADVANTAGE,2ACCEPT",
    "1f260=ROUNDED SYMBOL FOR FU,3LU,3SHOU,3XI,3SHUANGXI,3CAI",
    "1f300=CYCLONE,FOGGY,CLOSED UMBRELLA,NIGHT WITH STARS,SUNRISE OVER MOUNTAINS,SUNRISE",
    "1f306=CITYSCAPE AT DUSK,SUNSET OVER BUILDINGS,RAINBOW,BRIDGE AT NIGHT,WATER WAVE,VOLCANO",
    "1f30c=MILKY WAY,EARTH GLOBE EUROPE-AFRICA,2AMERICAS,2ASIA-AUSTRALIA,GLOBE WITH MERIDIANS",
    "1f311=NEW MOON SYMBOL,WAXING CRESCENT MOON SYMBOL,FIRST QUARTER MOON SYMBOL",
    "1f314=WAXING GIBBOUS MOON SYMBOL,FULL MOON SYMBOL,WANING GIBBOUS MOON SYMBOL",
    "1f317=LAST QUARTER MOON SYMBOL,WANING CRESCENT MOON SYMBOL,CRESCENT MOON,NEW MOON WITH FACE",
    "1f31b=FIRST QUARTER MOON WITH FACE,LAST QUARTER MOON WITH FACE,FULL MOON WITH FACE",
    "1f31e=SUN WITH FACE,GLOWING STAR,SHOOTING STAR,THERMOMETER,BLACK DROPLET,WHITE SUN",
    "1f324=WHITE SUN WITH SMALL CLOUD,2BEHIND CLOUD,4WITH RAIN,CLOUD WITH RAIN,2SNOW,2LIGHTNING",
    "1f32a=CLOUD WITH TORNADO,FOG,WIND BLOWING FACE,HOT DOG,TACO,BURRITO,CHESTNUT,SEEDLING",
    "1f332=EVERGREEN TREE,DECIDUOUS TREE,PALM TREE,CACTUS,HOT PEPPER,TULIP,CHERRY BLOSSOM,ROSE",
    "1f33a=HIBISCUS,SUNFLOWER,BLOSSOM,EAR OF MAIZE,2RICE,HERB,FOUR LEAF CLOVER,MAPLE LEAF",
    "1f342=FALLEN LEAF,LEAF FLUTTERING IN WIND,MUSHROOM,TOMATO,AUBERGINE,GRAPES,MELON,WATERMELON",
    "1f34a=TANGERINE,LEMON,BANANA,PINEAPPLE,RED APPLE,GREEN APPLE,PEAR,PEACH,CHERRIES,STRAWBERRY",
    "1f354=HAMBURGER,SLICE OF PIZZA,MEAT ON BONE,POULTRY LEG,RICE CRACKER,1BALL,COOKED RICE",
    "1f35b=CURRY AND RICE,STEAMING BOWL,SPAGHETTI,BREAD,FRENCH FRIES,ROASTED SWEET POTATO,DANGO",
    "1f362=ODEN,SUSHI,FRIED SHRIMP,FISH CAKE WITH SWIRL DESIGN,SOFT ICE CREAM,SHAVED ICE",
    "1f368=ICE CREAM,DOUGHNUT,COOKIE,CHOCOLATE BAR,CANDY,LOLLIPOP,CUSTARD,HONEY POT,SHORTCAKE",
    "1f371=BENTO BOX,POT OF FOOD,COOKING,FORK AND KNIFE,TEACUP WITHOUT HANDLE,SAKE BOTTLE AND CUP",
    "1f377=WINE GLASS,COCKTAIL GLASS,TROPICAL DRINK,BEER MUG,CLINKING BEER MUGS,BABY BOTTLE",
    "1f37d=FORK AND KNIFE WITH PLATE,BOTTLE WITH POPPING CORK,POPCORN,RIBBON,WRAPPED PRESENT",
    "1f382=BIRTHDAY CAKE,JACK-O-LANTERN,CHRISTMAS TREE,FATHER CHRISTMAS,FIREWORKS",
    "1f387=FIREWORK SPARKLER,BALLOON,PARTY POPPER,CONFETTI BALL,TANABATA TREE,CROSSED FLAGS",
    "1f38d=PINE DECORATION,JAPANESE DOLLS,CARP STREAMER,WIND CHIME,MOON VIEWING CEREMONY",
    "1f392=SCHOOL SATCHEL,GRADUATION CAP,HEART WITH TIP ON THE LEFT,BOUQUET OF FLOWERS",
    "1f396=MILITARY MEDAL,REMINDER RIBBON,MUSICAL KEYBOARD WITH JACKS,STUDIO MICROPHONE",
    "1f39a=LEVEL SLIDER,CONTROL KNOBS,BEAMED ASCENDING MUSICAL NOTES,1DESCENDING MUSICAL NOTES",
    "1f39e=FILM FRAMES,ADMISSION TICKETS,CAROUSEL HORSE,FERRIS WHEEL,ROLLER COASTER",
    "1f3a3=FISHING POLE AND FISH,MICROPHONE,MOVIE CAMERA,CINEMA,HEADPHONE,ARTIST PALETTE,TOP HAT",
    "1f3aa=CIRCUS TENT,TICKET,CLAPPER BOARD,PERFORMING ARTS,VIDEO GAME,DIRECT HIT,SLOT MACHINE",
    "1f3b1=BILLIARDS,GAME DIE,BOWLING,FLOWER PLAYING CARDS,MUSICAL NOTE,MULTIPLE MUSICAL NOTES",
    "1f3b7=SAXOPHONE,GUITAR,MUSICAL KEYBOARD,TRUMPET,VIOLIN,MUSICAL SCORE,RUNNING SHIRT WITH SASH",
    "1f3be=TENNIS RACQUET AND BALL,SKI AND SKI BOOT,BASKETBALL AND HOOP,CHEQUERED FLAG",
    "1f3c2=SNOWBOARDER,RUNNER,SURFER,SPORTS MEDAL,TROPHY,HORSE RACING,AMERICAN FOOTBALL",
    "1f3c9=RUGBY FOOTBALL,SWIMMER,WEIGHT LIFTER,GOLFER,RACING MOTORCYCLE,1CAR",
    "1f3cf=CRICKET BAT AND BALL,VOLLEYBALL,FIELD HOCKEY STICK AND BALL,ICE HOCKEY STICK AND PUCK",
    "1f3d3=TABLE TENNIS PADDLE AND BALL,SNOW CAPPED MOUNTAIN,CAMPING,BEACH WITH UMBRELLA",
    "1f3d7=BUILDING CONSTRUCTION,HOUSE BUILDINGS,CITYSCAPE,DERELICT HOUSE BUILDING",
    "1f3db=CLASSICAL BUILDING,DESERT,1ISLAND,NATIONAL PARK,STADIUM,HOUSE BUILDING,1WITH GARDEN",
    "1f3e2=OFFICE BUILDING,JAPANESE POST OFFICE,EUROPEAN POST OFFICE,HOSPITAL,BANK",
    "1f3e7=AUTOMATED TELLER MACHINE,HOTEL,LOVE HOTEL,CONVENIENCE STORE,SCHOOL,DEPARTMENT STORE",
    "1f3ed=FACTORY,IZAKAYA LANTERN,JAPANESE CASTLE,EUROPEAN CASTLE,WHITE PENNANT,BLACK PENNANT",
    "1f3f3=WAVING WHITE FLAG,1BLACK FLAG,ROSETTE,BLACK ROSETTE,LABEL",
    "1f3f8=BADMINTON RACQUET AND SHUTTLECOCK,BOW AND ARROW,AMPHORA",
    "1f3fb=EMOJI MODIFIER FITZPATRICK TYPE-1-2,3TYPE-3,3TYPE-4,3TYPE-5,3TYPE-6,RAT,MOUSE,OX",
    "1f403=WATER BUFFALO,COW,TIGER,LEOPARD,RABBIT,CAT,DRAGON,CROCODILE,WHALE,SNAIL,SNAKE,HORSE",
    "1f40f=RAM,GOAT,SHEEP,MONKEY,ROOSTER,CHICKEN,DOG,PIG,BOAR,ELEPHANT,OCTOPUS,SPIRAL SHELL,BUG",
    "1f41c=ANT,HONEYBEE,LADY BEETLE,FISH,TROPICAL FISH,BLOWFISH,TURTLE,HATCHING CHICK,BABY CHICK",
    "1f425=FRONT-FACING BABY CHICK,BIRD,PENGUIN,KOALA,POODLE,DROMEDARY CAMEL,BACTRIAN CAMEL",
    "1f42c=DOLPHIN,MOUSE FACE,COW FACE,TIGER FACE,RABBIT FACE,CAT FACE,DRAGON FACE,SPOUTING WHALE",
    "1f434=HORSE FACE,MONKEY FACE,DOG FACE,PIG FACE,FROG FACE,HAMSTER FACE,WOLF FACE,BEAR FACE",
    "1f43c=PANDA FACE,PIG NOSE,PAW PRINTS,CHIPMUNK,EYES,EYE,EAR,NOSE,MOUTH,TONGUE",
    "1f446=WHITE UP POINTING BACKHAND INDEX,1DOWN POINTING BACKHAND INDEX",
    "1f448=WHITE LEFT POINTING BACKHAND INDEX,1RIGHT POINTING BACKHAND INDEX,FISTED HAND SIGN",
    "1f44b=WAVING HAND SIGN,OK HAND SIGN,THUMBS UP SIGN,1DOWN SIGN,CLAPPING HANDS SIGN",
    "1f450=OPEN HANDS SIGN,CROWN,WOMANS HAT,EYEGLASSES,NECKTIE,T-SHIRT,JEANS,DRESS,KIMONO,BIKINI",
    "1f45a=WOMANS CLOTHES,PURSE,HANDBAG,POUCH,MANS SHOE,ATHLETIC SHOE,HIGH-HEELED SHOE",
    "1f461=WOMANS SANDAL,1BOOTS,FOOTPRINTS,BUST IN SILHOUETTE,BUSTS IN SILHOUETTE,BOY,GIRL,MAN",
    "1f469=WOMAN,FAMILY,MAN AND WOMAN HOLDING HANDS,TWO MEN HOLDING HANDS,1WOMEN HOLDING HANDS",
    "1f46e=POLICE OFFICER,WOMAN WITH BUNNY EARS,BRIDE WITH VEIL,PERSON WITH BLOND HAIR",
    "1f472=MAN WITH GUA PI MAO,2TURBAN,OLDER MAN,1WOMAN,BABY,CONSTRUCTION WORKER,PRINCESS",
    "1f479=JAPANESE OGRE,1GOBLIN,GHOST,BABY ANGEL,EXTRATERRESTRIAL ALIEN,ALIEN MONSTER,IMP,SKULL",
    "1f481=INFORMATION DESK PERSON,GUARDSMAN,DANCER,LIPSTICK,NAIL POLISH,FACE MASSAGE,HAIRCUT",
    "1f488=BARBER POLE,SYRINGE,PILL,KISS MARK,LOVE LETTER,RING,GEM STONE,KISS,BOUQUET",
    "1f491=COUPLE WITH HEART,WEDDING,BEATING HEART,BROKEN HEART,TWO HEARTS,SPARKLING HEART",
    "1f497=GROWING HEART,HEART WITH ARROW,BLUE HEART,GREEN HEART,YELLOW HEART,PURPLE HEART",
    "1f49d=HEART WITH RIBBON,REVOLVING HEARTS,HEART DECORATION,DIAMOND SHAPE WITH A DOT INSIDE",
    "1f4a1=ELECTRIC LIGHT BULB,ANGER SYMBOL,BOMB,SLEEPING SYMBOL,COLLISION SYMBOL",
    "1f4a6=SPLASHING SWEAT SYMBOL,DROPLET,DASH SYMBOL,PILE OF POO,FLEXED BICEPS,DIZZY SYMBOL",
    "1f4ac=SPEECH BALLOON,THOUGHT BALLOON,WHITE FLOWER,HUNDRED POINTS SYMBOL,MONEY BAG",
    "1f4b1=CURRENCY EXCHANGE,HEAVY DOLLAR SIGN,CREDIT CARD,BANKNOTE WITH YEN SIGN,2DOLLAR SIGN",
    "1f4b6=BANKNOTE WITH EURO SIGN,2POUND SIGN,MONEY WITH WINGS",
    "1f4b9=CHART WITH UPWARDS TREND AND YEN SIGN,SEAT,PERSONAL COMPUTER,BRIEFCASE,MINIDISC",
    "1f4be=FLOPPY DISK,OPTICAL DISC,DVD,FILE FOLDER,OPEN FILE FOLDER,PAGE WITH CURL,1FACING UP",
    "1f4c5=CALENDAR,TEAR-OFF CALENDAR,CARD INDEX,CHART WITH UPWARDS TREND,2DOWNWARDS TREND",
    "1f4ca=BAR CHART,CLIPBOARD,PUSHPIN,ROUND PUSHPIN,PAPERCLIP,STRAIGHT RULER,TRIANGULAR RULER",
    "1f4d1=BOOKMARK TABS,LEDGER,NOTEBOOK,1WITH DECORATIVE COVER,CLOSED BOOK,OPEN BOOK,GREEN BOOK",
    "1f4d8=BLUE BOOK,ORANGE BOOK,BOOKS,NAME BADGE,SCROLL,MEMO,TELEPHONE RECEIVER,PAGER",
    "1f4e0=FAX MACHINE,SATELLITE ANTENNA,PUBLIC ADDRESS LOUDSPEAKER,CHEERING MEGAPHONE",
    "1f4e4=OUTBOX TRAY,INBOX TRAY,PACKAGE,E-MAIL SYMBOL,INCOMING ENVELOPE",
    "1f4e9=ENVELOPE WITH DOWNWARDS ARROW ABOVE,CLOSED MAILBOX WITH LOWERED FLAG,3RAISED FLAG",
    "1f4ec=OPEN MAILBOX WITH RAISED FLAG,3LOWERED FLAG,POSTBOX,POSTAL HORN,NEWSPAPER,MOBILE PHONE",
    "1f4f2=MOBILE PHONE WITH RIGHTWARDS ARROW AT LEFT,VIBRATION MODE,MOBILE PHONE OFF",
    "1f4f5=NO MOBILE PHONES,ANTENNA WITH BARS,CAMERA,1WITH FLASH,VIDEO CAMERA,TELEVISION,RADIO",
    "1f4fc=VIDEOCASSETTE,FILM PROJECTOR,PORTABLE STEREO,PRAYER BEADS,TWISTED RIGHTWARDS ARROWS",
    "1f501=CLOCKWISE RIGHTWARDS AND LEFTWARDS OPEN CIRCLE ARROWS,7WITH CIRCLED ONE OVERLAY",
    "1f503=CLOCKWISE DOWNWARDS AND UPWARDS OPEN CIRCLE ARROWS",
    "1f504=ANTICLOCKWISE DOWNWARDS AND UPWARDS OPEN CIRCLE ARROWS,LOW BRIGHTNESS SYMBOL",
    "1f506=HIGH BRIGHTNESS SYMBOL,SPEAKER WITH CANCELLATION STROKE,SPEAKER,1WITH ONE SOUND WAVE",
    "1f50a=SPEAKER WITH THREE SOUND WAVES,BATTERY,ELECTRIC PLUG,LEFT-POINTING MAGNIFYING GLASS",
    "1f50e=RIGHT-POINTING MAGNIFYING GLASS,LOCK WITH INK PEN,CLOSED LOCK WITH KEY,KEY,LOCK",
    "1f513=OPEN LOCK,BELL,1WITH CANCELLATION STROKE,BOOKMARK,LINK SYMBOL,RADIO BUTTON",
    "1f519=BACK WITH LEFTWARDS ARROW ABOVE,END WITH LEFTWARDS ARROW ABOVE",
    "1f51b=ON WITH EXCLAMATION MARK WITH LEFT RIGHT ARROW ABOVE,SOON WITH RIGHTWARDS ARROW ABOVE",
    "1f51d=TOP WITH UPWARDS ARROW ABOVE,NO ONE UNDER EIGHTEEN SYMBOL,KEYCAP TEN",
    "1f520=INPUT SYMBOL FOR LATIN CAPITAL LETTERS,4SMALL LETTERS,3NUMBERS,3SYMBOLS,3LATIN LETTERS",
    "1f525=FIRE,ELECTRIC TORCH,WRENCH,HAMMER,NUT AND BOLT,HOCHO,PISTOL,MICROSCOPE,TELESCOPE",
    "1f52e=CRYSTAL BALL,SIX POINTED STAR WITH MIDDLE DOT,JAPANESE SYMBOL FOR BEGINNER",
    "1f531=TRIDENT EMBLEM,BLACK SQUARE BUTTON,WHITE SQUARE BUTTON,LARGE RED CIRCLE,1BLUE CIRCLE",
    "1f536=LARGE ORANGE DIAMOND,1BLUE DIAMOND,SMALL ORANGE DIAMOND,1BLUE DIAMOND",
    "1f53a=UP-POINTING RED TRIANGLE,DOWN-POINTING RED TRIANGLE,UP-POINTING SMALL RED TRIANGLE",
    "1f53d=DOWN-POINTING SMALL RED TRIANGLE,LOWER RIGHT SHADOWED WHITE CIRCLE",
    "1f53f=UPPER RIGHT SHADOWED WHITE CIRCLE,CIRCLED CROSS POMMEE",
    "1f541=CROSS POMMEE WITH HALF-CIRCLE BELOW,1POMMEE,NOTCHED LEFT SEMICIRCLE WITH THREE DOTS",
    "1f544=NOTCHED RIGHT SEMICIRCLE WITH THREE DOTS,SYMBOL FOR MARKS CHAPTER,WHITE LATIN CROSS",
    "1f547=HEAVY LATIN CROSS,CELTIC CROSS,OM SYMBOL,DOVE OF PEACE,KAABA,MOSQUE,SYNAGOGUE",
    "1f54e=MENORAH WITH NINE BRANCHES,BOWL OF HYGIEIA,CLOCK FACE ONE OCLOCK,2TWO OCLOCK",
    "1f552=CLOCK FACE THREE OCLOCK,2FOUR OCLOCK,2FIVE OCLOCK,2SIX OCLOCK,2SEVEN OCLOCK",
    "1f557=CLOCK FACE EIGHT OCLOCK,2NINE OCLOCK,2TEN OCLOCK,2ELEVEN OCLOCK,2TWELVE OCLOCK",
    "1f55c=CLOCK FACE ONE-THIRTY,2TWO-THIRTY,2THREE-THIRTY,2FOUR-THIRTY,2FIVE-THIRTY,2SIX-THIRTY",
    "1f562=CLOCK FACE SEVEN-THIRTY,2EIGHT-THIRTY,2NINE-THIRTY,2TEN-THIRTY,2ELEVEN-THIRTY",
    "1f567=CLOCK FACE TWELVE-THIRTY,RIGHT SPEAKER,2WITH ONE SOUND WAVE,3THREE SOUND WAVES",
    "1f56b=BULLHORN,1WITH SOUND WAVES,RINGING BELL,BOOK,CANDLE,MANTELPIECE CLOCK",
    "1f571=BLACK SKULL AND CROSSBONES,NO PIRACY,HOLE,MAN IN BUSINESS SUIT LEVITATING",
    "1f575=SLEUTH OR SPY,DARK SUNGLASSES,SPIDER,1WEB,JOYSTICK,MAN DANCING",
    "1f57b=LEFT HAND TELEPHONE RECEIVER,TELEPHONE RECEIVER WITH PAGE",
    "1f57d=RIGHT HAND TELEPHONE RECEIVER,WHITE TOUCHTONE TELEPHONE,BLACK TOUCHTONE TELEPHONE",
    "1f580=TELEPHONE ON TOP OF MODEM,CLAMSHELL MOBILE PHONE,BACK OF ENVELOPE,STAMPED ENVELOPE",
    "1f584=ENVELOPE WITH LIGHTNING,FLYING ENVELOPE,PEN OVER STAMPED ENVELOPE,LINKED PAPERCLIPS",
    "1f588=BLACK PUSHPIN,LOWER LEFT PENCIL,2BALLPOINT PEN,2FOUNTAIN PEN,2PAINTBRUSH,2CRAYON",
    "1f58e=LEFT WRITING HAND,TURNED OK HAND SIGN,RAISED HAND WITH FINGERS SPLAYED",
    "1f591=REVERSED RAISED HAND WITH FINGERS SPLAYED,1THUMBS UP SIGN,2DOWN SIGN,1VICTORY HAND",
    "1f595=REVERSED HAND WITH MIDDLE FINGER EXTENDED",
    "1f596=RAISED HAND WITH PART BETWEEN MIDDLE AND RING FINGERS",
    "1f597=WHITE DOWN POINTING LEFT HAND INDEX,SIDEWAYS WHITE LEFT POINTING INDEX",
    "1f599=SIDEWAYS WHITE RIGHT POINTING INDEX,1BLACK LEFT POINTING INDEX,2RIGHT POINTING INDEX",
    "1f59c=BLACK LEFT POINTING BACKHAND INDEX,1RIGHT POINTING BACKHAND INDEX",
    "1f59e=SIDEWAYS WHITE UP POINTING INDEX,2DOWN POINTING INDEX,1BLACK UP POINTING INDEX",
    "1f5a1=SIDEWAYS BLACK DOWN POINTING INDEX,BLACK UP POINTING BACKHAND INDEX",
    "1f5a3=BLACK DOWN POINTING BACKHAND INDEX,1HEART,DESKTOP COMPUTER,KEYBOARD AND MOUSE",
    "1f5a7=THREE NETWORKED COMPUTERS,PRINTER,POCKET CALCULATOR,BLACK HARD SHELL FLOPPY DISK",
    "1f5ab=WHITE HARD SHELL FLOPPY DISK,SOFT SHELL FLOPPY DISK,TAPE CARTRIDGE,WIRED KEYBOARD",
    "1f5af=ONE BUTTON MOUSE,TWO BUTTON MOUSE,THREE BUTTON MOUSE,TRACKBALL,OLD PERSONAL COMPUTER",
    "1f5b4=HARD DISK,SCREEN,PRINTER ICON,FAX ICON,OPTICAL DISC ICON,DOCUMENT WITH TEXT",
    "1f5ba=DOCUMENT WITH TEXT AND PICTURE,2PICTURE,FRAME WITH PICTURE,2TILES,2AN X,BLACK FOLDER",
    "1f5c0=FOLDER,OPEN FOLDER,CARD INDEX DIVIDERS,1FILE BOX,FILE CABINET,EMPTY NOTE,2PAGE,2PAD",
    "1f5c8=NOTE,1PAGE,1PAD,EMPTY DOCUMENT,1PAGE,1PAGES,DOCUMENT,PAGE,PAGES,WASTEBASKET",
    "1f5d2=SPIRAL NOTE PAD,1CALENDAR PAD,DESKTOP WINDOW,MINIMIZE,MAXIMIZE,OVERLAP",
    "1f5d8=CLOCKWISE RIGHT AND LEFT SEMICIRCLE ARROWS,CANCELLATION X,INCREASE FONT SIZE SYMBOL",
    "1f5db=DECREASE FONT SIZE SYMBOL,COMPRESSION,OLD KEY,ROLLED-UP NEWSPAPER",
    "1f5df=PAGE WITH CIRCLED TEXT,STOCK CHART,DAGGER KNIFE,LIPS,SPEAKING HEAD IN SILHOUETTE",
    "1f5e4=THREE RAYS ABOVE,2BELOW,2LEFT,2RIGHT,LEFT SPEECH BUBBLE,RIGHT SPEECH BUBBLE",
    "1f5ea=TWO SPEECH BUBBLES,THREE SPEECH BUBBLES,LEFT THOUGHT BUBBLE,RIGHT THOUGHT BUBBLE",
    "1f5ee=LEFT ANGER BUBBLE,RIGHT ANGER BUBBLE,MOOD BUBBLE,LIGHTNING MOOD BUBBLE,1MOOD",
    "1f5f3=BALLOT BOX WITH BALLOT,1SCRIPT X,1BOX WITH SCRIPT X,1BOLD SCRIPT X",
    "1f5f7=BALLOT BOX WITH BOLD SCRIPT X,LIGHT CHECK MARK,BALLOT BOX WITH BOLD CHECK,WORLD MAP",
    "1f5fb=MOUNT FUJI,TOKYO TOWER,STATUE OF LIBERTY,SILHOUETTE OF JAPAN,MOYAI,GRINNING FACE",
    "1f601=GRINNING FACE WITH SMILING EYES,FACE WITH TEARS OF JOY,SMILING FACE WITH OPEN MOUTH",
    "1f604=SMILING FACE WITH OPEN MOUTH AND SMILING EYES,6COLD SWEAT,6TIGHTLY-CLOSED EYES,3HALO",
    "1f608=SMILING FACE WITH HORNS,WINKING FACE,SMILING FACE WITH SMILING EYES",
    "1f60b=FACE SAVOURING DELICIOUS FOOD,RELIEVED FACE,SMILING FACE WITH HEART-SHAPED EYES",
    "1f60e=SMILING FACE WITH SUNGLASSES,SMIRKING FACE,NEUTRAL FACE,EXPRESSIONLESS FACE",
    "1f612=UNAMUSED FACE,FACE WITH COLD SWEAT,PENSIVE FACE,CONFUSED FACE,CONFOUNDED FACE",
    "1f617=KISSING FACE,FACE THROWING A KISS,KISSING FACE WITH SMILING EYES,3CLOSED EYES",
    "1f61b=FACE WITH STUCK-OUT TONGUE,4AND WINKING EYE,5TIGHTLY-CLOSED EYES,DISAPPOINTED FACE",
    "1f61f=WORRIED FACE,ANGRY FACE,POUTING FACE,CRYING FACE,PERSEVERING FACE",
    "1f624=FACE WITH LOOK OF TRIUMPH,DISAPPOINTED BUT RELIEVED FACE,FROWNING FACE WITH OPEN MOUTH",
    "1f627=ANGUISHED FACE,FEARFUL FACE,WEARY FACE,SLEEPY FACE,TIRED FACE,GRIMACING FACE",
    "1f62d=LOUDLY CRYING FACE,FACE WITH OPEN MOUTH,HUSHED FACE",
    "1f630=FACE WITH OPEN MOUTH AND COLD SWEAT,1SCREAMING IN FEAR,ASTONISHED FACE,FLUSHED FACE",
    "1f634=SLEEPING FACE,DIZZY FACE,FACE WITHOUT MOUTH,1WITH MEDICAL MASK",
    "1f638=GRINNING CAT FACE WITH SMILING EYES,CAT FACE WITH TEARS OF JOY",
    "1f63a=SMILING CAT FACE WITH OPEN MOUTH,4HEART-SHAPED EYES,CAT FACE WITH WRY SMILE",
    "1f63d=KISSING CAT FACE WITH CLOSED EYES,POUTING CAT FACE,CRYING CAT FACE,WEARY CAT FACE",
    "1f641=SLIGHTLY FROWNING FACE,1SMILING FACE,UPSIDE-DOWN FACE,FACE WITH ROLLING EYES",
    "1f645=FACE WITH NO GOOD GESTURE,2OK GESTURE,PERSON BOWING DEEPLY,SEE-NO-EVIL MONKEY",
    "1f649=HEAR-NO-EVIL MONKEY,SPEAK-NO-EVIL MONKEY,HAPPY PERSON RAISING ONE HAND",
    "1f64c=PERSON RAISING BOTH HANDS IN CELEBRATION,1FROWNING,1WITH POUTING FACE,2FOLDED HANDS",
    "1f650=NORTH WEST POINTING LEAF,SOUTH WEST POINTING LEAF,NORTH EAST POINTING LEAF",
    "1f653=SOUTH EAST POINTING LEAF,TURNED NORTH WEST POINTING LEAF,1SOUTH WEST POINTING LEAF",
    "1f656=TURNED NORTH EAST POINTING LEAF,1SOUTH EAST POINTING LEAF",
    "1f658=NORTH WEST POINTING VINE LEAF,SOUTH WEST POINTING VINE LEAF",
    "1f65a=NORTH EAST POINTING VINE LEAF,SOUTH EAST POINTING VINE LEAF",
    "1f65c=HEAVY NORTH WEST POINTING VINE LEAF,1SOUTH WEST POINTING VINE LEAF",
    "1f65e=HEAVY NORTH EAST POINTING VINE LEAF,1SOUTH EAST POINTING VINE LEAF",
    "1f660=NORTH WEST POINTING BUD,SOUTH WEST POINTING BUD,NORTH EAST POINTING BUD",
    "1f663=SOUTH EAST POINTING BUD,HEAVY NORTH WEST POINTING BUD,1SOUTH WEST POINTING BUD",
    "1f666=HEAVY NORTH EAST POINTING BUD,1SOUTH EAST POINTING BUD,HOLLOW QUILT SQUARE ORNAMENT",
    "1f669=HOLLOW QUILT SQUARE ORNAMENT IN BLACK SQUARE,SOLID QUILT SQUARE ORNAMENT",
    "1f66b=SOLID QUILT SQUARE ORNAMENT IN BLACK SQUARE,LEFTWARDS ROCKET,UPWARDS ROCKET",
    "1f66e=RIGHTWARDS ROCKET,DOWNWARDS ROCKET,SCRIPT LIGATURE ET ORNAMENT",
    "1f671=HEAVY SCRIPT LIGATURE ET ORNAMENT,LIGATURE OPEN ET ORNAMENT",
    "1f673=HEAVY LIGATURE OPEN ET ORNAMENT,1AMPERSAND ORNAMENT,SWASH AMPERSAND ORNAMENT",
    "1f676=SANS-SERIF HEAVY DOUBLE TURNED COMMA QUOTATION MARK ORNAMENT",
    "1f677=SANS-SERIF HEAVY DOUBLE COMMA QUOTATION MARK ORNAMENT",
    "1f678=SANS-SERIF HEAVY LOW DOUBLE COMMA QUOTATION MARK ORNAMENT,HEAVY INTERROBANG ORNAMENT",
    "1f67a=SANS-SERIF INTERROBANG ORNAMENT,HEAVY SANS-SERIF INTERROBANG ORNAMENT",
    "1f67c=VERY HEAVY SOLIDUS,2REVERSE SOLIDUS,CHECKER BOARD,REVERSE CHECKER BOARD,ROCKET",
    "1f681=HELICOPTER,STEAM LOCOMOTIVE,RAILWAY CAR,HIGH-SPEED TRAIN,2WITH BULLET NOSE,TRAIN,METRO",
    "1f688=LIGHT RAIL,STATION,TRAM,1CAR,BUS,ONCOMING BUS,TROLLEYBUS,BUS STOP,MINIBUS,AMBULANCE",
    "1f692=FIRE ENGINE,POLICE CAR,ONCOMING POLICE CAR,TAXI,ONCOMING TAXI,AUTOMOBILE",
    "1f698=ONCOMING AUTOMOBILE,RECREATIONAL VEHICLE,DELIVERY TRUCK,ARTICULATED LORRY,TRACTOR",
    "1f69d=MONORAIL,MOUNTAIN RAILWAY,SUSPENSION RAILWAY,MOUNTAIN CABLEWAY,AERIAL TRAMWAY,SHIP",
    "1f6a3=ROWBOAT,SPEEDBOAT,HORIZONTAL TRAFFIC LIGHT,VERTICAL TRAFFIC LIGHT,CONSTRUCTION SIGN",
    "1f6a8=POLICE CARS REVOLVING LIGHT,TRIANGULAR FLAG ON POST,DOOR,NO ENTRY SIGN,SMOKING SYMBOL",
    "1f6ad=NO SMOKING SYMBOL,PUT LITTER IN ITS PLACE SYMBOL,DO NOT LITTER SYMBOL",
    "1f6b0=POTABLE WATER SYMBOL,NON-POTABLE WATER SYMBOL,BICYCLE,NO BICYCLES,BICYCLIST",
    "1f6b5=MOUNTAIN BICYCLIST,PEDESTRIAN,NO PEDESTRIANS,CHILDREN CROSSING,MENS SYMBOL",
    "1f6ba=WOMENS SYMBOL,RESTROOM,BABY SYMBOL,TOILET,WATER CLOSET,SHOWER,BATH,BATHTUB",
    "1f6c2=PASSPORT CONTROL,CUSTOMS,BAGGAGE CLAIM,LEFT LUGGAGE,TRIANGLE WITH ROUNDED CORNERS",
    "1f6c7=PROHIBITED SIGN,CIRCLED INFORMATION SOURCE,BOYS SYMBOL,GIRLS SYMBOL,COUCH AND LAMP",
    "1f6cc=SLEEPING ACCOMMODATION,SHOPPING BAGS,BELLHOP BELL,BED,PLACE OF WORSHIP,OCTAGONAL SIGN",
    "1f6d2=SHOPPING TROLLEY,STUPA,PAGODA,HINDU TEMPLE,HUT,ELEVATOR",
    "1f6dd=PLAYGROUND SLIDE,WHEEL,RING BUOY,HAMMER AND WRENCH,SHIELD,OIL DRUM,MOTORWAY",
    "1f6e4=RAILWAY TRACK,MOTOR BOAT,UP-POINTING MILITARY AIRPLANE,1AIRPLANE,1SMALL AIRPLANE",
    "1f6e9=SMALL AIRPLANE,NORTHEAST-POINTING AIRPLANE,AIRPLANE DEPARTURE,1ARRIVING",
    "1f6f0=SATELLITE,ONCOMING FIRE ENGINE,DIESEL LOCOMOTIVE,PASSENGER SHIP,SCOOTER,MOTOR SCOOTER",
    "1f6f6=CANOE,SLED,FLYING SAUCER,SKATEBOARD,AUTO RICKSHAW,PICKUP TRUCK,ROLLER SKATE",
    "1f700=ALCHEMICAL SYMBOL FOR QUINTESSENCE,3AIR,3FIRE,3EARTH,3WATER,3AQUAFORTIS,3AQUA REGIA",
    "1f707=ALCHEMICAL SYMBOL FOR AQUA REGIA-2,4VITAE,4VITAE-2,3VINEGAR,3VINEGAR-2,3VINEGAR-3",
    "1f70d=ALCHEMICAL SYMBOL FOR SULFUR,3PHILOSOPHERS SULFUR,3BLACK SULFUR,3MERCURY SUBLIMATE",
    "1f711=ALCHEMICAL SYMBOL FOR MERCURY SUBLIMATE-2,4SUBLIMATE-3,3CINNABAR,3SALT,3NITRE,3VITRIOL",
    "1f717=ALCHEMICAL SYMBOL FOR VITRIOL-2,3ROCK SALT,4SALT-2,3GOLD,3SILVER,3IRON ORE,4ORE-2",
    "1f71e=ALCHEMICAL SYMBOL FOR CROCUS OF IRON,3REGULUS OF IRON,3COPPER ORE,3IRON-COPPER ORE",
    "1f722=ALCHEMICAL SYMBOL FOR SUBLIMATE OF COPPER,3CROCUS OF COPPER,5COPPER-2",
    "1f725=ALCHEMICAL SYMBOL FOR COPPER ANTIMONIATE,3SALT OF COPPER ANTIMONIATE",
    "1f727=ALCHEMICAL SYMBOL FOR SUBLIMATE OF SALT OF COPPER,3VERDIGRIS,3TIN ORE,3LEAD ORE",
    "1f72b=ALCHEMICAL SYMBOL FOR ANTIMONY ORE,3SUBLIMATE OF ANTIMONY,3SALT OF ANTIMONY",
    "1f72e=ALCHEMICAL SYMBOL FOR SUBLIMATE OF SALT OF ANTIMONY,3VINEGAR OF ANTIMONY",
    "1f730=ALCHEMICAL SYMBOL FOR REGULUS OF ANTIMONY,5ANTIMONY-2,3REGULUS,3REGULUS-2,3REGULUS-3",
    "1f735=ALCHEMICAL SYMBOL FOR REGULUS-4,3ALKALI,3ALKALI-2,3MARCASITE,3SAL-AMMONIAC,3ARSENIC",
    "1f73b=ALCHEMICAL SYMBOL FOR REALGAR,3REALGAR-2,3AURIPIGMENT,3BISMUTH ORE,3TARTAR,3TARTAR-2",
    "1f741=ALCHEMICAL SYMBOL FOR QUICK LIME,3BORAX,3BORAX-2,3BORAX-3,3ALUM,3OIL,3SPIRIT,3TINCTURE",
    "1f749=ALCHEMICAL SYMBOL FOR GUM,3WAX,3POWDER,3CALX,3TUTTY,3CAPUT MORTUUM,3SCEPTER OF JOVE",
    "1f750=ALCHEMICAL SYMBOL FOR CADUCEUS,3TRIDENT,3STARRED TRIDENT,3LODESTONE,3SOAP,3URINE",
    "1f756=ALCHEMICAL SYMBOL FOR HORSE DUNG,3ASHES,3POT ASHES,3BRICK,3POWDERED BRICK,3AMALGAM",
    "1f75c=ALCHEMICAL SYMBOL FOR STRATUM SUPER STRATUM,5STRATUM-2,3SUBLIMATION,3PRECIPITATE",
    "1f760=ALCHEMICAL SYMBOL FOR DISTILL,3DISSOLVE,3DISSOLVE-2,3PURIFY,3PUTREFACTION,3CRUCIBLE",
    "1f766=ALCHEMICAL SYMBOL FOR CRUCIBLE-2,3CRUCIBLE-3,3CRUCIBLE-4,3CRUCIBLE-5,3ALEMBIC",
    "1f76b=ALCHEMICAL SYMBOL FOR BATH OF MARY,5VAPOURS,3RETORT,3HOUR,3NIGHT,3DAY-NIGHT,3MONTH",
    "1f772=ALCHEMICAL SYMBOL FOR HALF DRAM,4OUNCE",
    "1f780=BLACK LEFT-POINTING ISOSCELES RIGHT TRIANGLE,1UP-POINTING ISOSCELES RIGHT TRIANGLE",
    "1f782=BLACK RIGHT-POINTING ISOSCELES RIGHT TRIANGLE,1DOWN-POINTING ISOSCELES RIGHT TRIANGLE",
    "1f784=BLACK SLIGHTLY SMALL CIRCLE,MEDIUM BOLD WHITE CIRCLE,BOLD WHITE CIRCLE",
    "1f787=HEAVY WHITE CIRCLE,VERY HEAVY WHITE CIRCLE,EXTREMELY HEAVY WHITE CIRCLE",
    "1f78a=WHITE CIRCLE CONTAINING BLACK SMALL CIRCLE,ROUND TARGET,BLACK TINY SQUARE",
    "1f78d=BLACK SLIGHTLY SMALL SQUARE,LIGHT WHITE SQUARE,MEDIUM WHITE SQUARE,BOLD WHITE SQUARE",
    "1f791=HEAVY WHITE SQUARE,VERY HEAVY WHITE SQUARE,EXTREMELY HEAVY WHITE SQUARE",
    "1f794=WHITE SQUARE CONTAINING BLACK VERY SMALL SQUARE,4MEDIUM SQUARE,SQUARE TARGET",
    "1f797=BLACK TINY DIAMOND,1VERY SMALL DIAMOND,1MEDIUM SMALL DIAMOND",
    "1f79a=WHITE DIAMOND CONTAINING BLACK VERY SMALL DIAMOND,4MEDIUM DIAMOND,DIAMOND TARGET",
    "1f79d=BLACK TINY LOZENGE,1VERY SMALL LOZENGE,1MEDIUM SMALL LOZENGE",
    "1f7a0=WHITE LOZENGE CONTAINING BLACK SMALL LOZENGE,THIN GREEK CROSS,LIGHT GREEK CROSS",
    "1f7a3=MEDIUM GREEK CROSS,BOLD GREEK CROSS,VERY BOLD GREEK CROSS,1HEAVY GREEK CROSS",
    "1f7a7=EXTREMELY HEAVY GREEK CROSS,THIN SALTIRE,LIGHT SALTIRE,MEDIUM SALTIRE,BOLD SALTIRE",
    "1f7ac=HEAVY SALTIRE,VERY HEAVY SALTIRE,EXTREMELY HEAVY SALTIRE,LIGHT FIVE SPOKED ASTERISK",
    "1f7b0=MEDIUM FIVE SPOKED ASTERISK,BOLD FIVE SPOKED ASTERISK,HEAVY FIVE SPOKED ASTERISK",
    "1f7b3=VERY HEAVY FIVE SPOKED ASTERISK,EXTREMELY HEAVY FIVE SPOKED ASTERISK",
    "1f7b5=LIGHT SIX SPOKED ASTERISK,MEDIUM SIX SPOKED ASTERISK,BOLD SIX SPOKED ASTERISK",
    "1f7b8=HEAVY SIX SPOKED ASTERISK,VERY HEAVY SIX SPOKED ASTERISK",
    "1f7ba=EXTREMELY HEAVY SIX SPOKED ASTERISK,LIGHT EIGHT SPOKED ASTERISK",
    "1f7bc=MEDIUM EIGHT SPOKED ASTERISK,BOLD EIGHT SPOKED ASTERISK,HEAVY EIGHT SPOKED ASTERISK",
    "1f7bf=VERY HEAVY EIGHT SPOKED ASTERISK,LIGHT THREE POINTED BLACK STAR",
    "1f7c1=MEDIUM THREE POINTED BLACK STAR,THREE POINTED BLACK STAR",
    "1f7c3=MEDIUM THREE POINTED PINWHEEL STAR,LIGHT FOUR POINTED BLACK STAR",
    "1f7c5=MEDIUM FOUR POINTED BLACK STAR,FOUR POINTED BLACK STAR",
    "1f7c7=MEDIUM FOUR POINTED PINWHEEL STAR,REVERSE LIGHT FOUR POINTED PINWHEEL STAR",
    "1f7c9=LIGHT FIVE POINTED BLACK STAR,HEAVY FIVE POINTED BLACK STAR",
    "1f7cb=MEDIUM SIX POINTED BLACK STAR,HEAVY SIX POINTED BLACK STAR,SIX POINTED PINWHEEL STAR",
    "1f7ce=MEDIUM EIGHT POINTED BLACK STAR,HEAVY EIGHT POINTED BLACK STAR",
    "1f7d0=VERY HEAVY EIGHT POINTED BLACK STAR,HEAVY EIGHT POINTED PINWHEEL STAR",
    "1f7d2=LIGHT TWELVE POINTED BLACK STAR,HEAVY TWELVE POINTED BLACK STAR,3PINWHEEL STAR",
    "1f7d5=CIRCLED TRIANGLE,NEGATIVE CIRCLED TRIANGLE,CIRCLED SQUARE,NEGATIVE CIRCLED SQUARE",
    "1f7e0=LARGE ORANGE CIRCLE,1YELLOW CIRCLE,1GREEN CIRCLE,1PURPLE CIRCLE,1BROWN CIRCLE",
    "1f7e5=LARGE RED SQUARE,1BLUE SQUARE,1ORANGE SQUARE,1YELLOW SQUARE,1GREEN SQUARE",
    "1f7ea=LARGE PURPLE SQUARE,1BROWN SQUARE",
    "1f7f0=HEAVY EQUALS SIGN",
    "1f800=LEFTWARDS ARROW WITH SMALL TRIANGLE ARROWHEAD",
    "1f801=UPWARDS ARROW WITH SMALL TRIANGLE ARROWHEAD",
    "1f802=RIGHTWARDS ARROW WITH SMALL TRIANGLE ARROWHEAD",
    "1f803=DOWNWARDS ARROW WITH SMALL TRIANGLE ARROWHEAD",
    "1f804=LEFTWARDS ARROW WITH MEDIUM TRIANGLE ARROWHEAD",
    "1f805=UPWARDS ARROW WITH MEDIUM TRIANGLE ARROWHEAD",
    "1f806=RIGHTWARDS ARROW WITH MEDIUM TRIANGLE ARROWHEAD",
    "1f807=DOWNWARDS ARROW WITH MEDIUM TRIANGLE ARROWHEAD",
    "1f808=LEFTWARDS ARROW WITH LARGE TRIANGLE ARROWHEAD",
    "1f809=UPWARDS ARROW WITH LARGE TRIANGLE ARROWHEAD",
    "1f80a=RIGHTWARDS ARROW WITH LARGE TRIANGLE ARROWHEAD",
    "1f80b=DOWNWARDS ARROW WITH LARGE TRIANGLE ARROWHEAD",
    "1f810=LEFTWARDS ARROW WITH SMALL EQUILATERAL ARROWHEAD",
    "1f811=UPWARDS ARROW WITH SMALL EQUILATERAL ARROWHEAD",
    "1f812=RIGHTWARDS ARROW WITH SMALL EQUILATERAL ARROWHEAD",
    "1f813=DOWNWARDS ARROW WITH SMALL EQUILATERAL ARROWHEAD",
    "1f814=LEFTWARDS ARROW WITH EQUILATERAL ARROWHEAD,UPWARDS ARROW WITH EQUILATERAL ARROWHEAD",
    "1f816=RIGHTWARDS ARROW WITH EQUILATERAL ARROWHEAD,DOWNWARDS ARROW WITH EQUILATERAL ARROWHEAD",
    "1f818=HEAVY LEFTWARDS ARROW WITH EQUILATERAL ARROWHEAD",
    "1f819=HEAVY UPWARDS ARROW WITH EQUILATERAL ARROWHEAD",
    "1f81a=HEAVY RIGHTWARDS ARROW WITH EQUILATERAL ARROWHEAD",
    "1f81b=HEAVY DOWNWARDS ARROW WITH EQUILATERAL ARROWHEAD",
    "1f81c=HEAVY LEFTWARDS ARROW WITH LARGE EQUILATERAL ARROWHEAD",
    "1f81d=HEAVY UPWARDS ARROW WITH LARGE EQUILATERAL ARROWHEAD",
    "1f81e=HEAVY RIGHTWARDS ARROW WITH LARGE EQUILATERAL ARROWHEAD",
    "1f81f=HEAVY DOWNWARDS ARROW WITH LARGE EQUILATERAL ARROWHEAD",
    "1f820=LEFTWARDS TRIANGLE-HEADED ARROW WITH NARROW SHAFT",
    "1f821=UPWARDS TRIANGLE-HEADED ARROW WITH NARROW SHAFT",
    "1f822=RIGHTWARDS TRIANGLE-HEADED ARROW WITH NARROW SHAFT",
    "1f823=DOWNWARDS TRIANGLE-HEADED ARROW WITH NARROW SHAFT",
    "1f824=LEFTWARDS TRIANGLE-HEADED ARROW WITH MEDIUM SHAFT",
    "1f825=UPWARDS TRIANGLE-HEADED ARROW WITH MEDIUM SHAFT",
    "1f826=RIGHTWARDS TRIANGLE-HEADED ARROW WITH MEDIUM SHAFT",
    "1f827=DOWNWARDS TRIANGLE-HEADED ARROW WITH MEDIUM SHAFT",
    "1f828=LEFTWARDS TRIANGLE-HEADED ARROW WITH BOLD SHAFT",
    "1f829=UPWARDS TRIANGLE-HEADED ARROW WITH BOLD SHAFT",
    "1f82a=RIGHTWARDS TRIANGLE-HEADED ARROW WITH BOLD SHAFT",
    "1f82b=DOWNWARDS TRIANGLE-HEADED ARROW WITH BOLD SHAFT",
    "1f82c=LEFTWARDS TRIANGLE-HEADED ARROW WITH HEAVY SHAFT",
    "1f82d=UPWARDS TRIANGLE-HEADED ARROW WITH HEAVY SHAFT",
    "1f82e=RIGHTWARDS TRIANGLE-HEADED ARROW WITH HEAVY SHAFT",
    "1f82f=DOWNWARDS TRIANGLE-HEADED ARROW WITH HEAVY SHAFT",
    "1f830=LEFTWARDS TRIANGLE-HEADED ARROW WITH VERY HEAVY SHAFT",
    "1f831=UPWARDS TRIANGLE-HEADED ARROW WITH VERY HEAVY SHAFT",
    "1f832=RIGHTWARDS TRIANGLE-HEADED ARROW WITH VERY HEAVY SHAFT",
    "1f833=DOWNWARDS TRIANGLE-HEADED ARROW WITH VERY HEAVY SHAFT,LEFTWARDS FINGER-POST ARROW",
    "1f835=UPWARDS FINGER-POST ARROW,RIGHTWARDS FINGER-POST ARROW,DOWNWARDS FINGER-POST ARROW",
    "1f838=LEFTWARDS SQUARED ARROW,UPWARDS SQUARED ARROW,RIGHTWARDS SQUARED ARROW",
    "1f83b=DOWNWARDS SQUARED ARROW,LEFTWARDS COMPRESSED ARROW,UPWARDS COMPRESSED ARROW",
    "1f83e=RIGHTWARDS COMPRESSED ARROW,DOWNWARDS COMPRESSED ARROW",
    "1f840=LEFTWARDS HEAVY COMPRESSED ARROW,UPWARDS HEAVY COMPRESSED ARROW",
    "1f842=RIGHTWARDS HEAVY COMPRESSED ARROW,DOWNWARDS HEAVY COMPRESSED ARROW",
    "1f844=LEFTWARDS HEAVY ARROW,UPWARDS HEAVY ARROW,RIGHTWARDS HEAVY ARROW,DOWNWARDS HEAVY ARROW",
    "1f850=LEFTWARDS SANS-SERIF ARROW,UPWARDS SANS-SERIF ARROW,RIGHTWARDS SANS-SERIF ARROW",
    "1f853=DOWNWARDS SANS-SERIF ARROW,NORTH WEST SANS-SERIF ARROW,1EAST SANS-SERIF ARROW",
    "1f856=SOUTH EAST SANS-SERIF ARROW,1WEST SANS-SERIF ARROW,LEFT RIGHT SANS-SERIF ARROW",
    "1f859=UP DOWN SANS-SERIF ARROW",
    "1f860=WIDE-HEADED LEFTWARDS LIGHT BARB ARROW,1UPWARDS LIGHT BARB ARROW",
    "1f862=WIDE-HEADED RIGHTWARDS LIGHT BARB ARROW,1DOWNWARDS LIGHT BARB ARROW",
    "1f864=WIDE-HEADED NORTH WEST LIGHT BARB ARROW,2EAST LIGHT BARB ARROW",
    "1f866=WIDE-HEADED SOUTH EAST LIGHT BARB ARROW,2WEST LIGHT BARB ARROW,1LEFTWARDS BARB ARROW",
    "1f869=WIDE-HEADED UPWARDS BARB ARROW,1RIGHTWARDS BARB ARROW,1DOWNWARDS BARB ARROW",
    "1f86c=WIDE-HEADED NORTH WEST BARB ARROW,2EAST BARB ARROW,1SOUTH EAST BARB ARROW",
    "1f86f=WIDE-HEADED SOUTH WEST BARB ARROW,1LEFTWARDS MEDIUM BARB ARROW",
    "1f871=WIDE-HEADED UPWARDS MEDIUM BARB ARROW,1RIGHTWARDS MEDIUM BARB ARROW",
    "1f873=WIDE-HEADED DOWNWARDS MEDIUM BARB ARROW,1NORTH WEST MEDIUM BARB ARROW",
    "1f875=WIDE-HEADED NORTH EAST MEDIUM BARB ARROW,1SOUTH EAST MEDIUM BARB ARROW",
    "1f877=WIDE-HEADED SOUTH WEST MEDIUM BARB ARROW,1LEFTWARDS HEAVY BARB ARROW",
    "1f879=WIDE-HEADED UPWARDS HEAVY BARB ARROW,1RIGHTWARDS HEAVY BARB ARROW",
    "1f87b=WIDE-HEADED DOWNWARDS HEAVY BARB ARROW,1NORTH WEST HEAVY BARB ARROW",
    "1f87d=WIDE-HEADED NORTH EAST HEAVY BARB ARROW,1SOUTH EAST HEAVY BARB ARROW",
    "1f87f=WIDE-HEADED SOUTH WEST HEAVY BARB ARROW,1LEFTWARDS VERY HEAVY BARB ARROW",
    "1f881=WIDE-HEADED UPWARDS VERY HEAVY BARB ARROW,1RIGHTWARDS VERY HEAVY BARB ARROW",
    "1f883=WIDE-HEADED DOWNWARDS VERY HEAVY BARB ARROW,1NORTH WEST VERY HEAVY BARB ARROW",
    "1f885=WIDE-HEADED NORTH EAST VERY HEAVY BARB ARROW,1SOUTH EAST VERY HEAVY BARB ARROW",
    "1f887=WIDE-HEADED SOUTH WEST VERY HEAVY BARB ARROW",
    "1f890=LEFTWARDS TRIANGLE ARROWHEAD,UPWARDS TRIANGLE ARROWHEAD,RIGHTWARDS TRIANGLE ARROWHEAD",
    "1f893=DOWNWARDS TRIANGLE ARROWHEAD,LEFTWARDS WHITE ARROW WITHIN TRIANGLE ARROWHEAD",
    "1f895=UPWARDS WHITE ARROW WITHIN TRIANGLE ARROWHEAD",
    "1f896=RIGHTWARDS WHITE ARROW WITHIN TRIANGLE ARROWHEAD",
    "1f897=DOWNWARDS WHITE ARROW WITHIN TRIANGLE ARROWHEAD,LEFTWARDS ARROW WITH NOTCHED TAIL",
    "1f899=UPWARDS ARROW WITH NOTCHED TAIL,RIGHTWARDS ARROW WITH NOTCHED TAIL",
    "1f89b=DOWNWARDS ARROW WITH NOTCHED TAIL,HEAVY ARROW SHAFT WIDTH ONE,4TWO THIRDS,4ONE HALF",
    "1f89f=HEAVY ARROW SHAFT WIDTH ONE THIRD,LEFTWARDS BOTTOM-SHADED WHITE ARROW",
    "1f8a1=RIGHTWARDS BOTTOM SHADED WHITE ARROW,LEFTWARDS TOP SHADED WHITE ARROW",
    "1f8a3=RIGHTWARDS TOP SHADED WHITE ARROW,LEFTWARDS LEFT-SHADED WHITE ARROW",
    "1f8a5=RIGHTWARDS RIGHT-SHADED WHITE ARROW,LEFTWARDS RIGHT-SHADED WHITE ARROW",
    "1f8a7=RIGHTWARDS LEFT-SHADED WHITE ARROW,LEFTWARDS BACK-TILTED SHADOWED WHITE ARROW",
    "1f8a9=RIGHTWARDS BACK-TILTED SHADOWED WHITE ARROW",
    "1f8aa=LEFTWARDS FRONT-TILTED SHADOWED WHITE ARROW",
    "1f8ab=RIGHTWARDS FRONT-TILTED SHADOWED WHITE ARROW,WHITE ARROW SHAFT WIDTH ONE,4TWO THIRDS",
    "1f8b0=ARROW POINTING UPWARDS THEN NORTH WEST,2RIGHTWARDS THEN CURVING SOUTH WEST",
    "1f900=CIRCLED CROSS FORMEE WITH FOUR DOTS,4TWO DOTS,2FORMEE,LEFT HALF CIRCLE WITH FOUR DOTS",
    "1f904=LEFT HALF CIRCLE WITH THREE DOTS,4TWO DOTS,4DOT,2CIRCLE,DOWNWARD FACING HOOK",
    "1f909=DOWNWARD FACING NOTCHED HOOK,2HOOK WITH DOT,2NOTCHED HOOK WITH DOT,PINCHED FINGERS",
    "1f90d=WHITE HEART,BROWN HEART,PINCHING HAND,ZIPPER-MOUTH FACE,MONEY-MOUTH FACE",
    "1f912=FACE WITH THERMOMETER,NERD FACE,THINKING FACE,FACE WITH HEAD-BANDAGE,ROBOT FACE",
    "1f917=HUGGING FACE,SIGN OF THE HORNS,CALL ME HAND,RAISED BACK OF HAND,LEFT-FACING FIST",
    "1f91c=RIGHT-FACING FIST,HANDSHAKE,HAND WITH INDEX AND MIDDLE FINGERS CROSSED",
    "1f91f=I LOVE YOU HAND SIGN,FACE WITH COWBOY HAT,CLOWN FACE,NAUSEATED FACE",
    "1f923=ROLLING ON THE FLOOR LAUGHING,DROOLING FACE,LYING FACE,FACE PALM,SNEEZING FACE",
    "1f928=FACE WITH ONE EYEBROW RAISED,GRINNING FACE WITH STAR EYES,3ONE LARGE AND ONE SMALL EYE",
    "1f92b=FACE WITH FINGER COVERING CLOSED LIPS,SERIOUS FACE WITH SYMBOLS COVERING MOUTH",
    "1f92d=SMILING FACE WITH SMILING EYES AND HAND COVERING MOUTH,FACE WITH OPEN MOUTH VOMITING",
    "1f92f=SHOCKED FACE WITH EXPLODING HEAD,PREGNANT WOMAN,BREAST-FEEDING,PALMS UP TOGETHER",
    "1f933=SELFIE,PRINCE,MAN IN TUXEDO,MOTHER CHRISTMAS,SHRUG,PERSON DOING CARTWHEEL,JUGGLING",
    "1f93a=FENCER,MODERN PENTATHLON,WRESTLERS,WATER POLO,HANDBALL,DIVING MASK,WILTED FLOWER",
    "1f941=DRUM WITH DRUMSTICKS,CLINKING GLASSES,TUMBLER GLASS,SPOON,GOAL NET,RIFLE",
    "1f947=FIRST PLACE MEDAL,SECOND PLACE MEDAL,THIRD PLACE MEDAL,BOXING GLOVE",
    "1f94b=MARTIAL ARTS UNIFORM,CURLING STONE,LACROSSE STICK AND BALL,SOFTBALL,FLYING DISC",
    "1f950=CROISSANT,AVOCADO,CUCUMBER,BACON,POTATO,CARROT,BAGUETTE BREAD,GREEN SALAD",
    "1f958=SHALLOW PAN OF FOOD,STUFFED FLATBREAD,EGG,GLASS OF MILK,PEANUTS,KIWIFRUIT,PANCAKES",
    "1f95f=DUMPLING,FORTUNE COOKIE,TAKEOUT BOX,CHOPSTICKS,BOWL WITH SPOON,CUP WITH STRAW,COCONUT",
    "1f966=BROCCOLI,PIE,PRETZEL,CUT OF MEAT,SANDWICH,CANNED FOOD,LEAFY GREEN,MANGO,MOON CAKE",
    "1f96f=BAGEL,SMILING FACE WITH SMILING EYES AND THREE HEARTS,YAWNING FACE",
    "1f972=SMILING FACE WITH TEAR,FACE WITH PARTY HORN AND PARTY HAT,2UNEVEN EYES AND WAVY MOUTH",
    "1f975=OVERHEATED FACE,FREEZING FACE,NINJA,DISGUISED FACE,FACE HOLDING BACK TEARS",
    "1f97a=FACE WITH PLEADING EYES,SARI,LAB COAT,GOGGLES,HIKING BOOT,FLAT SHOE,CRAB,LION FACE",
    "1f982=SCORPION,TURKEY,UNICORN FACE,EAGLE,DUCK,BAT,SHARK,OWL,FOX FACE,BUTTERFLY,DEER,GORILLA",
    "1f98e=LIZARD,RHINOCEROS,SHRIMP,SQUID,GIRAFFE FACE,ZEBRA FACE,HEDGEHOG,SAUROPOD,T-REX,CRICKET",
    "1f998=KANGAROO,LLAMA,PEACOCK,HIPPOPOTAMUS,PARROT,RACCOON,LOBSTER,MOSQUITO,MICROBE,BADGER",
    "1f9a2=SWAN,MAMMOTH,DODO,SLOTH,OTTER,ORANGUTAN,SKUNK,FLAMINGO,OYSTER,BEAVER,BISON,SEAL",
    "1f9ae=GUIDE DOG,PROBING CANE,EMOJI COMPONENT RED HAIR,2CURLY HAIR,2BALD,2WHITE HAIR,BONE,LEG",
    "1f9b6=FOOT,TOOTH,SUPERHERO,SUPERVILLAIN,SAFETY VEST,EAR WITH HEARING AID",
    "1f9bc=MOTORIZED WHEELCHAIR,MANUAL WHEELCHAIR,MECHANICAL ARM,1LEG,CHEESE WEDGE,CUPCAKE",
    "1f9c2=SALT SHAKER,BEVERAGE BOX,GARLIC,ONION,FALAFEL,WAFFLE,BUTTER,MATE DRINK,ICE CUBE",
    "1f9cb=BUBBLE TEA,TROLL,STANDING PERSON,KNEELING PERSON,DEAF PERSON,FACE WITH MONOCLE,ADULT",
    "1f9d2=CHILD,OLDER ADULT,BEARDED PERSON,PERSON WITH HEADSCARF,1IN STEAMY ROOM,1CLIMBING",
    "1f9d8=PERSON IN LOTUS POSITION,MAGE,FAIRY,VAMPIRE,MERPERSON,ELF,GENIE,ZOMBIE,BRAIN",
    "1f9e1=ORANGE HEART,BILLED CAP,SCARF,GLOVES,COAT,SOCKS,RED GIFT ENVELOPE,FIRECRACKER",
    "1f9e9=JIGSAW PUZZLE PIECE,TEST TUBE,PETRI DISH,DNA DOUBLE HELIX,COMPASS,ABACUS",
    "1f9ef=FIRE EXTINGUISHER,TOOLBOX,BRICK,MAGNET,LUGGAGE,LOTION BOTTLE,SPOOL OF THREAD",
    "1f9f6=BALL OF YARN,SAFETY PIN,TEDDY BEAR,BROOM,BASKET,ROLL OF PAPER,BAR OF SOAP,SPONGE",
    "1f9fe=RECEIPT,NAZAR AMULET,NEUTRAL CHESS KING,2QUEEN,2ROOK,2BISHOP,2KNIGHT,2PAWN",
    "1fa06=WHITE CHESS KNIGHT ROTATED FORTY-FIVE DEGREES",
    "1fa07=BLACK CHESS KNIGHT ROTATED FORTY-FIVE DEGREES",
    "1fa08=NEUTRAL CHESS KNIGHT ROTATED FORTY-FIVE DEGREES",
    "1fa09=WHITE CHESS KING ROTATED NINETY DEGREES,2QUEEN ROTATED NINETY DEGREES",
    "1fa0b=WHITE CHESS ROOK ROTATED NINETY DEGREES,2BISHOP ROTATED NINETY DEGREES",
    "1fa0d=WHITE CHESS KNIGHT ROTATED NINETY DEGREES,2PAWN ROTATED NINETY DEGREES",
    "1fa0f=BLACK CHESS KING ROTATED NINETY DEGREES,2QUEEN ROTATED NINETY DEGREES",
    "1fa11=BLACK CHESS ROOK ROTATED NINETY DEGREES,2BISHOP ROTATED NINETY DEGREES",
    "1fa13=BLACK CHESS KNIGHT ROTATED NINETY DEGREES,2PAWN ROTATED NINETY DEGREES",
    "1fa15=NEUTRAL CHESS KING ROTATED NINETY DEGREES,2QUEEN ROTATED NINETY DEGREES",
    "1fa17=NEUTRAL CHESS ROOK ROTATED NINETY DEGREES,2BISHOP ROTATED NINETY DEGREES",
    "1fa19=NEUTRAL CHESS KNIGHT ROTATED NINETY DEGREES,2PAWN ROTATED NINETY DEGREES",
    "1fa1b=WHITE CHESS KNIGHT ROTATED ONE HUNDRED THIRTY-FIVE DEGREES",
    "1fa1c=BLACK CHESS KNIGHT ROTATED ONE HUNDRED THIRTY-FIVE DEGREES",
    "1fa1d=NEUTRAL CHESS KNIGHT ROTATED ONE HUNDRED THIRTY-FIVE DEGREES,WHITE CHESS TURNED KING",
    "1fa1f=WHITE CHESS TURNED QUEEN,3ROOK,3BISHOP,3KNIGHT,3PAWN,BLACK CHESS TURNED KING,3QUEEN",
    "1fa26=BLACK CHESS TURNED ROOK,3BISHOP,3KNIGHT,3PAWN,NEUTRAL CHESS TURNED KING,3QUEEN,3ROOK",
    "1fa2d=NEUTRAL CHESS TURNED BISHOP,3KNIGHT,3PAWN",
    "1fa30=WHITE CHESS KNIGHT ROTATED TWO HUNDRED TWENTY-FIVE DEGREES",
    "1fa31=BLACK CHESS KNIGHT ROTATED TWO HUNDRED TWENTY-FIVE DEGREES",
    "1fa32=NEUTRAL CHESS KNIGHT ROTATED TWO HUNDRED TWENTY-FIVE DEGREES",
    "1fa33=WHITE CHESS KING ROTATED TWO HUNDRED SEVENTY DEGREES",
    "1fa34=WHITE CHESS QUEEN ROTATED TWO HUNDRED SEVENTY DEGREES",
    "1fa35=WHITE CHESS ROOK ROTATED TWO HUNDRED SEVENTY DEGREES",
    "1fa36=WHITE CHESS BISHOP ROTATED TWO HUNDRED SEVENTY DEGREES",
    "1fa37=WHITE CHESS KNIGHT ROTATED TWO HUNDRED SEVENTY DEGREES",
    "1fa38=WHITE CHESS PAWN ROTATED TWO HUNDRED SEVENTY DEGREES",
    "1fa39=BLACK CHESS KING ROTATED TWO HUNDRED SEVENTY DEGREES",
    "1fa3a=BLACK CHESS QUEEN ROTATED TWO HUNDRED SEVENTY DEGREES",
    "1fa3b=BLACK CHESS ROOK ROTATED TWO HUNDRED SEVENTY DEGREES",
    "1fa3c=BLACK CHESS BISHOP ROTATED TWO HUNDRED SEVENTY DEGREES",
    "1fa3d=BLACK CHESS KNIGHT ROTATED TWO HUNDRED SEVENTY DEGREES",
    "1fa3e=BLACK CHESS PAWN ROTATED TWO HUNDRED SEVENTY DEGREES",
    "1fa3f=NEUTRAL CHESS KING ROTATED TWO HUNDRED SEVENTY DEGREES",
    "1fa40=NEUTRAL CHESS QUEEN ROTATED TWO HUNDRED SEVENTY DEGREES",
    "1fa41=NEUTRAL CHESS ROOK ROTATED TWO HUNDRED SEVENTY DEGREES",
    "1fa42=NEUTRAL CHESS BISHOP ROTATED TWO HUNDRED SEVENTY DEGREES",
    "1fa43=NEUTRAL CHESS KNIGHT ROTATED TWO HUNDRED SEVENTY DEGREES",
    "1fa44=NEUTRAL CHESS PAWN ROTATED TWO HUNDRED SEVENTY DEGREES",
    "1fa45=WHITE CHESS KNIGHT ROTATED THREE HUNDRED FIFTEEN DEGREES",
    "1fa46=BLACK CHESS KNIGHT ROTATED THREE HUNDRED FIFTEEN DEGREES",
    "1fa47=NEUTRAL CHESS KNIGHT ROTATED THREE HUNDRED FIFTEEN DEGREES,WHITE CHESS EQUIHOPPER",
    "1fa49=BLACK CHESS EQUIHOPPER,NEUTRAL CHESS EQUIHOPPER",
    "1fa4b=WHITE CHESS EQUIHOPPER ROTATED NINETY DEGREES",
    "1fa4c=BLACK CHESS EQUIHOPPER ROTATED NINETY DEGREES",
    "1fa4d=NEUTRAL CHESS EQUIHOPPER ROTATED NINETY DEGREES,WHITE CHESS KNIGHT-QUEEN,2KNIGHT-ROOK",
    "1fa50=WHITE CHESS KNIGHT-BISHOP,BLACK CHESS KNIGHT-QUEEN,2KNIGHT-ROOK,2KNIGHT-BISHOP",
    "1fa60=XIANGQI RED GENERAL,2MANDARIN,2ELEPHANT,2HORSE,2CHARIOT,2CANNON,2SOLDIER",
    "1fa67=XIANGQI BLACK GENERAL,2MANDARIN,2ELEPHANT,2HORSE,2CHARIOT,2CANNON,2SOLDIER",
    "1fa70=BALLET SHOES,ONE-PIECE SWIMSUIT,BRIEFS,SHORTS,THONG SANDAL",
    "1fa78=DROP OF BLOOD,ADHESIVE BANDAGE,STETHOSCOPE,X-RAY,CRUTCH",
    "1fa80=YO-YO,KITE,PARACHUTE,BOOMERANG,MAGIC WAND,PINATA,NESTING DOLLS",
    "1fa90=RINGED PLANET,CHAIR,RAZOR,AXE,DIYA LAMP,BANJO,MILITARY HELMET,ACCORDION,LONG DRUM,COIN",
    "1fa9a=CARPENTRY SAW,SCREWDRIVER,LADDER,HOOK,MIRROR,WINDOW,PLUNGER,SEWING NEEDLE,KNOT,BUCKET",
    "1faa4=MOUSE TRAP,TOOTHBRUSH,HEADSTONE,PLACARD,ROCK,MIRROR BALL,IDENTIFICATION CARD",
    "1faab=LOW BATTERY,HAMSA",
    "1fab0=FLY,WORM,BEETLE,COCKROACH,POTTED PLANT,WOOD,FEATHER,LOTUS,CORAL,EMPTY NEST",
    "1faba=NEST WITH EGGS",
    "1fac0=ANATOMICAL HEART,LUNGS,PEOPLE HUGGING,PREGNANT MAN,1PERSON,PERSON WITH CROWN",
    "1fad0=BLUEBERRIES,BELL PEPPER,OLIVE,FLATBREAD,TAMALE,FONDUE,TEAPOT,POURING LIQUID,BEANS,JAR",
    "1fae0=MELTING FACE,SALUTING FACE,FACE WITH OPEN EYES AND HAND OVER MOUTH,2PEEKING EYE",
    "1fae4=FACE WITH DIAGONAL MOUTH,DOTTED LINE FACE,BITING LIP,BUBBLES",
    "1faf0=HAND WITH INDEX FINGER AND THUMB CROSSED,RIGHTWARDS HAND,LEFTWARDS HAND,PALM DOWN HAND",
    "1faf4=PALM UP HAND,INDEX POINTING AT THE VIEWER,HEART HANDS"]

end SnippetRunner.Text.Name
