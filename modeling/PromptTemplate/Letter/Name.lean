import PromptTemplate.Letter.Normal

set_option autoImplicit false

namespace PromptTemplate.Letter

def nameTable : List String :=
  ["20 SPACE;21 EXCLAMATION MARK;22 QUOTATION MARK;23 NUMBER SIGN;24 DOLLAR SIGN;25 PERCENT SIGN",
    "26 AMPERSAND;27 APOSTROPHE;28 LEFT PARENTHESIS;29 RIGHT PARENTHESIS;2a ASTERISK;2b PLUS SIGN",
    "2c COMMA;2d HYPHEN-MINUS;2e FULL STOP;2f SOLIDUS;3a COLON;3b SEMICOLON;3c LESS-THAN SIGN",
    "3d EQUALS SIGN;3e GREATER-THAN SIGN;3f QUESTION MARK;40 COMMERCIAL AT",
    "41 LATIN CAPITAL LETTER A;42 LATIN CAPITAL LETTER B;43 LATIN CAPITAL LETTER C",
    "44 LATIN CAPITAL LETTER D;45 LATIN CAPITAL LETTER E;46 LATIN CAPITAL LETTER F",
    "47 LATIN CAPITAL LETTER G;48 LATIN CAPITAL LETTER H;49 LATIN CAPITAL LETTER I",
    "4a LATIN CAPITAL LETTER J;4b LATIN CAPITAL LETTER K;4c LATIN CAPITAL LETTER L",
    "4d LATIN CAPITAL LETTER M;4e LATIN CAPITAL LETTER N;4f LATIN CAPITAL LETTER O",
    "50 LATIN CAPITAL LETTER P;51 LATIN CAPITAL LETTER Q;52 LATIN CAPITAL LETTER R",
    "53 LATIN CAPITAL LETTER S;54 LATIN CAPITAL LETTER T;55 LATIN CAPITAL LETTER U",
    "56 LATIN CAPITAL LETTER V;57 LATIN CAPITAL LETTER W;58 LATIN CAPITAL LETTER X",
    "59 LATIN CAPITAL LETTER Y;5a LATIN CAPITAL LETTER Z;5b LEFT SQUARE BRACKET;5c REVERSE SOLIDUS",
    "5d RIGHT SQUARE BRACKET;5e CIRCUMFLEX ACCENT;5f LOW LINE;60 GRAVE ACCENT",
    "61 LATIN SMALL LETTER A;62 LATIN SMALL LETTER B;63 LATIN SMALL LETTER C",
    "64 LATIN SMALL LETTER D;65 LATIN SMALL LETTER E;66 LATIN SMALL LETTER F",
    "67 LATIN SMALL LETTER G;68 LATIN SMALL LETTER H;69 LATIN SMALL LETTER I",
    "6a LATIN SMALL LETTER J;6b LATIN SMALL LETTER K;6c LATIN SMALL LETTER L",
    "6d LATIN SMALL LETTER M;6e LATIN SMALL LETTER N;6f LATIN SMALL LETTER O",
    "70 LATIN SMALL LETTER P;71 LATIN SMALL LETTER Q;72 LATIN SMALL LETTER R",
    "73 LATIN SMALL LETTER S;74 LATIN SMALL LETTER T;75 LATIN SMALL LETTER U",
    "76 LATIN SMALL LETTER V;77 LATIN SMALL LETTER W;78 LATIN SMALL LETTER X",
    "79 LATIN SMALL LETTER Y;7a LATIN SMALL LETTER Z;7b LEFT CURLY BRACKET;7c VERTICAL LINE",
    "7d RIGHT CURLY BRACKET;7e TILDE;a0 NO-BREAK SPACE;a1 INVERTED EXCLAMATION MARK;a2 CENT SIGN",
    "a3 POUND SIGN;a4 CURRENCY SIGN;a5 YEN SIGN;a6 BROKEN BAR;a7 SECTION SIGN;a8 DIAERESIS",
    "a9 COPYRIGHT SIGN;aa FEMININE ORDINAL INDICATOR;ab LEFT-POINTING DOUBLE ANGLE QUOTATION MARK",
    "ac NOT SIGN;ad SOFT HYPHEN;ae REGISTERED SIGN;af MACRON;b0 DEGREE SIGN;b1 PLUS-MINUS SIGN",
    "b2 SUPERSCRIPT TWO;b3 SUPERSCRIPT THREE;b4 ACUTE ACCENT;b5 MICRO SIGN;b6 PILCROW SIGN",
    "b7 MIDDLE DOT;b8 CEDILLA;b9 SUPERSCRIPT ONE;ba MASCULINE ORDINAL INDICATOR",
    "bb RIGHT-POINTING DOUBLE ANGLE QUOTATION MARK;bc VULGAR FRACTION ONE QUARTER",
    "bd VULGAR FRACTION ONE HALF;be VULGAR FRACTION THREE QUARTERS;bf INVERTED QUESTION MARK",
    "c0 LATIN CAPITAL LETTER A WITH GRAVE;c1 LATIN CAPITAL LETTER A WITH ACUTE",
    "c2 LATIN CAPITAL LETTER A WITH CIRCUMFLEX;c3 LATIN CAPITAL LETTER A WITH TILDE",
    "c4 LATIN CAPITAL LETTER A WITH DIAERESIS;c5 LATIN CAPITAL LETTER A WITH RING ABOVE",
    "c6 LATIN CAPITAL LETTER AE;c7 LATIN CAPITAL LETTER C WITH CEDILLA",
    "c8 LATIN CAPITAL LETTER E WITH GRAVE;c9 LATIN CAPITAL LETTER E WITH ACUTE",
    "ca LATIN CAPITAL LETTER E WITH CIRCUMFLEX;cb LATIN CAPITAL LETTER E WITH DIAERESIS",
    "cc LATIN CAPITAL LETTER I WITH GRAVE;cd LATIN CAPITAL LETTER I WITH ACUTE",
    "ce LATIN CAPITAL LETTER I WITH CIRCUMFLEX;cf LATIN CAPITAL LETTER I WITH DIAERESIS",
    "d0 LATIN CAPITAL LETTER ETH;d1 LATIN CAPITAL LETTER N WITH TILDE",
    "d2 LATIN CAPITAL LETTER O WITH GRAVE;d3 LATIN CAPITAL LETTER O WITH ACUTE",
    "d4 LATIN CAPITAL LETTER O WITH CIRCUMFLEX;d5 LATIN CAPITAL LETTER O WITH TILDE",
    "d6 LATIN CAPITAL LETTER O WITH DIAERESIS;d7 MULTIPLICATION SIGN",
    "d8 LATIN CAPITAL LETTER O WITH STROKE;d9 LATIN CAPITAL LETTER U WITH GRAVE",
    "da LATIN CAPITAL LETTER U WITH ACUTE;db LATIN CAPITAL LETTER U WITH CIRCUMFLEX",
    "dc LATIN CAPITAL LETTER U WITH DIAERESIS;dd LATIN CAPITAL LETTER Y WITH ACUTE",
    "de LATIN CAPITAL LETTER THORN;df LATIN SMALL LETTER SHARP S",
    "e0 LATIN SMALL LETTER A WITH GRAVE;e1 LATIN SMALL LETTER A WITH ACUTE",
    "e2 LATIN SMALL LETTER A WITH CIRCUMFLEX;e3 LATIN SMALL LETTER A WITH TILDE",
    "e4 LATIN SMALL LETTER A WITH DIAERESIS;e5 LATIN SMALL LETTER A WITH RING ABOVE",
    "e6 LATIN SMALL LETTER AE;e7 LATIN SMALL LETTER C WITH CEDILLA",
    "e8 LATIN SMALL LETTER E WITH GRAVE;e9 LATIN SMALL LETTER E WITH ACUTE",
    "ea LATIN SMALL LETTER E WITH CIRCUMFLEX;eb LATIN SMALL LETTER E WITH DIAERESIS",
    "ec LATIN SMALL LETTER I WITH GRAVE;ed LATIN SMALL LETTER I WITH ACUTE",
    "ee LATIN SMALL LETTER I WITH CIRCUMFLEX;ef LATIN SMALL LETTER I WITH DIAERESIS",
    "f0 LATIN SMALL LETTER ETH;f1 LATIN SMALL LETTER N WITH TILDE",
    "f2 LATIN SMALL LETTER O WITH GRAVE;f3 LATIN SMALL LETTER O WITH ACUTE",
    "f4 LATIN SMALL LETTER O WITH CIRCUMFLEX;f5 LATIN SMALL LETTER O WITH TILDE",
    "f6 LATIN SMALL LETTER O WITH DIAERESIS;f7 DIVISION SIGN;f8 LATIN SMALL LETTER O WITH STROKE",
    "f9 LATIN SMALL LETTER U WITH GRAVE;fa LATIN SMALL LETTER U WITH ACUTE",
    "fb LATIN SMALL LETTER U WITH CIRCUMFLEX;fc LATIN SMALL LETTER U WITH DIAERESIS",
    "fd LATIN SMALL LETTER Y WITH ACUTE;fe LATIN SMALL LETTER THORN",
    "ff LATIN SMALL LETTER Y WITH DIAERESIS;370 GREEK CAPITAL LETTER HETA",
    "371 GREEK SMALL LETTER HETA;372 GREEK CAPITAL LETTER ARCHAIC SAMPI",
    "373 GREEK SMALL LETTER ARCHAIC SAMPI;374 GREEK NUMERAL SIGN;375 GREEK LOWER NUMERAL SIGN",
    "376 GREEK CAPITAL LETTER PAMPHYLIAN DIGAMMA;377 GREEK SMALL LETTER PAMPHYLIAN DIGAMMA",
    "37a GREEK YPOGEGRAMMENI;37b GREEK SMALL REVERSED LUNATE SIGMA SYMBOL",
    "37c GREEK SMALL DOTTED LUNATE SIGMA SYMBOL",
    "37d GREEK SMALL REVERSED DOTTED LUNATE SIGMA SYMBOL;37e GREEK QUESTION MARK",
    "37f GREEK CAPITAL LETTER YOT;384 GREEK TONOS;385 GREEK DIALYTIKA TONOS",
    "386 GREEK CAPITAL LETTER ALPHA WITH TONOS;387 GREEK ANO TELEIA",
    "388 GREEK CAPITAL LETTER EPSILON WITH TONOS;389 GREEK CAPITAL LETTER ETA WITH TONOS",
    "38a GREEK CAPITAL LETTER IOTA WITH TONOS;38c GREEK CAPITAL LETTER OMICRON WITH TONOS",
    "38e GREEK CAPITAL LETTER UPSILON WITH TONOS;38f GREEK CAPITAL LETTER OMEGA WITH TONOS",
    "390 GREEK SMALL LETTER IOTA WITH DIALYTIKA AND TONOS;391 GREEK CAPITAL LETTER ALPHA",
    "392 GREEK CAPITAL LETTER BETA;393 GREEK CAPITAL LETTER GAMMA;394 GREEK CAPITAL LETTER DELTA",
    "395 GREEK CAPITAL LETTER EPSILON;396 GREEK CAPITAL LETTER ZETA;397 GREEK CAPITAL LETTER ETA",
    "398 GREEK CAPITAL LETTER THETA;399 GREEK CAPITAL LETTER IOTA;39a GREEK CAPITAL LETTER KAPPA",
    "39b GREEK CAPITAL LETTER LAMDA;39c GREEK CAPITAL LETTER MU;39d GREEK CAPITAL LETTER NU",
    "39e GREEK CAPITAL LETTER XI;39f GREEK CAPITAL LETTER OMICRON;3a0 GREEK CAPITAL LETTER PI",
    "3a1 GREEK CAPITAL LETTER RHO;3a3 GREEK CAPITAL LETTER SIGMA;3a4 GREEK CAPITAL LETTER TAU",
    "3a5 GREEK CAPITAL LETTER UPSILON;3a6 GREEK CAPITAL LETTER PHI;3a7 GREEK CAPITAL LETTER CHI",
    "3a8 GREEK CAPITAL LETTER PSI;3a9 GREEK CAPITAL LETTER OMEGA",
    "3aa GREEK CAPITAL LETTER IOTA WITH DIALYTIKA;3ab GREEK CAPITAL LETTER UPSILON WITH DIALYTIKA",
    "3ac GREEK SMALL LETTER ALPHA WITH TONOS;3ad GREEK SMALL LETTER EPSILON WITH TONOS",
    "3ae GREEK SMALL LETTER ETA WITH TONOS;3af GREEK SMALL LETTER IOTA WITH TONOS",
    "3b0 GREEK SMALL LETTER UPSILON WITH DIALYTIKA AND TONOS;3b1 GREEK SMALL LETTER ALPHA",
    "3b2 GREEK SMALL LETTER BETA;3b3 GREEK SMALL LETTER GAMMA;3b4 GREEK SMALL LETTER DELTA",
    "3b5 GREEK SMALL LETTER EPSILON;3b6 GREEK SMALL LETTER ZETA;3b7 GREEK SMALL LETTER ETA",
    "3b8 GREEK SMALL LETTER THETA;3b9 GREEK SMALL LETTER IOTA;3ba GREEK SMALL LETTER KAPPA",
    "3bb GREEK SMALL LETTER LAMDA;3bc GREEK SMALL LETTER MU;3bd GREEK SMALL LETTER NU",
    "3be GREEK SMALL LETTER XI;3bf GREEK SMALL LETTER OMICRON;3c0 GREEK SMALL LETTER PI",
    "3c1 GREEK SMALL LETTER RHO;3c2 GREEK SMALL LETTER FINAL SIGMA;3c3 GREEK SMALL LETTER SIGMA",
    "3c4 GREEK SMALL LETTER TAU;3c5 GREEK SMALL LETTER UPSILON;3c6 GREEK SMALL LETTER PHI",
    "3c7 GREEK SMALL LETTER CHI;3c8 GREEK SMALL LETTER PSI;3c9 GREEK SMALL LETTER OMEGA",
    "3ca GREEK SMALL LETTER IOTA WITH DIALYTIKA;3cb GREEK SMALL LETTER UPSILON WITH DIALYTIKA",
    "3cc GREEK SMALL LETTER OMICRON WITH TONOS;3cd GREEK SMALL LETTER UPSILON WITH TONOS",
    "3ce GREEK SMALL LETTER OMEGA WITH TONOS;3cf GREEK CAPITAL KAI SYMBOL;3d0 GREEK BETA SYMBOL",
    "3d1 GREEK THETA SYMBOL;3d2 GREEK UPSILON WITH HOOK SYMBOL",
    "3d3 GREEK UPSILON WITH ACUTE AND HOOK SYMBOL;3d4 GREEK UPSILON WITH DIAERESIS AND HOOK SYMBOL",
    "3d5 GREEK PHI SYMBOL;3d6 GREEK PI SYMBOL;3d7 GREEK KAI SYMBOL;3d8 GREEK LETTER ARCHAIC KOPPA",
    "3d9 GREEK SMALL LETTER ARCHAIC KOPPA;3da GREEK LETTER STIGMA;3db GREEK SMALL LETTER STIGMA",
    "3dc GREEK LETTER DIGAMMA;3dd GREEK SMALL LETTER DIGAMMA;3de GREEK LETTER KOPPA",
    "3df GREEK SMALL LETTER KOPPA;3e0 GREEK LETTER SAMPI;3e1 GREEK SMALL LETTER SAMPI",
    "3e2 COPTIC CAPITAL LETTER SHEI;3e3 COPTIC SMALL LETTER SHEI;3e4 COPTIC CAPITAL LETTER FEI",
    "3e5 COPTIC SMALL LETTER FEI;3e6 COPTIC CAPITAL LETTER KHEI;3e7 COPTIC SMALL LETTER KHEI",
    "3e8 COPTIC CAPITAL LETTER HORI;3e9 COPTIC SMALL LETTER HORI;3ea COPTIC CAPITAL LETTER GANGIA",
    "3eb COPTIC SMALL LETTER GANGIA;3ec COPTIC CAPITAL LETTER SHIMA;3ed COPTIC SMALL LETTER SHIMA",
    "3ee COPTIC CAPITAL LETTER DEI;3ef COPTIC SMALL LETTER DEI;3f0 GREEK KAPPA SYMBOL",
    "3f1 GREEK RHO SYMBOL;3f2 GREEK LUNATE SIGMA SYMBOL;3f3 GREEK LETTER YOT",
    "3f4 GREEK CAPITAL THETA SYMBOL;3f5 GREEK LUNATE EPSILON SYMBOL",
    "3f6 GREEK REVERSED LUNATE EPSILON SYMBOL;3f7 GREEK CAPITAL LETTER SHO",
    "3f8 GREEK SMALL LETTER SHO;3f9 GREEK CAPITAL LUNATE SIGMA SYMBOL;3fa GREEK CAPITAL LETTER SAN",
    "3fb GREEK SMALL LETTER SAN;3fc GREEK RHO WITH STROKE SYMBOL",
    "3fd GREEK CAPITAL REVERSED LUNATE SIGMA SYMBOL;3fe GREEK CAPITAL DOTTED LUNATE SIGMA SYMBOL",
    "3ff GREEK CAPITAL REVERSED DOTTED LUNATE SIGMA SYMBOL;2000 EN QUAD;2001 EM QUAD;2002 EN SPACE",
    "2003 EM SPACE;2004 THREE-PER-EM SPACE;2005 FOUR-PER-EM SPACE;2006 SIX-PER-EM SPACE",
    "2007 FIGURE SPACE;2008 PUNCTUATION SPACE;2009 THIN SPACE;200a HAIR SPACE",
    "200b ZERO WIDTH SPACE;200c ZERO WIDTH NON-JOINER;200d ZERO WIDTH JOINER",
    "200e LEFT-TO-RIGHT MARK;200f RIGHT-TO-LEFT MARK;2010 HYPHEN;2011 NON-BREAKING HYPHEN",
    "2012 FIGURE DASH;2013 EN DASH;2014 EM DASH;2015 HORIZONTAL BAR;2016 DOUBLE VERTICAL LINE",
    "2017 DOUBLE LOW LINE;2018 LEFT SINGLE QUOTATION MARK;2019 RIGHT SINGLE QUOTATION MARK",
    "201a SINGLE LOW-9 QUOTATION MARK;201b SINGLE HIGH-REVERSED-9 QUOTATION MARK",
    "201c LEFT DOUBLE QUOTATION MARK;201d RIGHT DOUBLE QUOTATION MARK",
    "201e DOUBLE LOW-9 QUOTATION MARK;201f DOUBLE HIGH-REVERSED-9 QUOTATION MARK;2020 DAGGER",
    "2021 DOUBLE DAGGER;2022 BULLET;2023 TRIANGULAR BULLET;2024 ONE DOT LEADER;2025 TWO DOT LEADER",
    "2026 HORIZONTAL ELLIPSIS;2027 HYPHENATION POINT;2028 LINE SEPARATOR;2029 PARAGRAPH SEPARATOR",
    "202a LEFT-TO-RIGHT EMBEDDING;202b RIGHT-TO-LEFT EMBEDDING;202c POP DIRECTIONAL FORMATTING",
    "202d LEFT-TO-RIGHT OVERRIDE;202e RIGHT-TO-LEFT OVERRIDE;202f NARROW NO-BREAK SPACE",
    "2030 PER MILLE SIGN;2031 PER TEN THOUSAND SIGN;2032 PRIME;2033 DOUBLE PRIME;2034 TRIPLE PRIME",
    "2035 REVERSED PRIME;2036 REVERSED DOUBLE PRIME;2037 REVERSED TRIPLE PRIME;2038 CARET",
    "2039 SINGLE LEFT-POINTING ANGLE QUOTATION MARK",
    "203a SINGLE RIGHT-POINTING ANGLE QUOTATION MARK;203b REFERENCE MARK",
    "203c DOUBLE EXCLAMATION MARK;203d INTERROBANG;203e OVERLINE;203f UNDERTIE;2040 CHARACTER TIE",
    "2041 CARET INSERTION POINT;2042 ASTERISM;2043 HYPHEN BULLET;2044 FRACTION SLASH",
    "2045 LEFT SQUARE BRACKET WITH QUILL;2046 RIGHT SQUARE BRACKET WITH QUILL",
    "2047 DOUBLE QUESTION MARK;2048 QUESTION EXCLAMATION MARK;2049 EXCLAMATION QUESTION MARK",
    "204a TIRONIAN SIGN ET;204b REVERSED PILCROW SIGN;204c BLACK LEFTWARDS BULLET",
    "204d BLACK RIGHTWARDS BULLET;204e LOW ASTERISK;204f REVERSED SEMICOLON;2050 CLOSE UP",
    "2051 TWO ASTERISKS ALIGNED VERTICALLY;2052 COMMERCIAL MINUS SIGN;2053 SWUNG DASH",
    "2054 INVERTED UNDERTIE;2055 FLOWER PUNCTUATION MARK;2056 THREE DOT PUNCTUATION",
    "2057 QUADRUPLE PRIME;2058 FOUR DOT PUNCTUATION;2059 FIVE DOT PUNCTUATION",
    "205a TWO DOT PUNCTUATION;205b FOUR DOT MARK;205c DOTTED CROSS;205d TRICOLON",
    "205e VERTICAL FOUR DOTS;205f MEDIUM MATHEMATICAL SPACE;2060 WORD JOINER",
    "2061 FUNCTION APPLICATION;2062 INVISIBLE TIMES;2063 INVISIBLE SEPARATOR;2064 INVISIBLE PLUS",
    "2066 LEFT-TO-RIGHT ISOLATE;2067 RIGHT-TO-LEFT ISOLATE;2068 FIRST STRONG ISOLATE",
    "2069 POP DIRECTIONAL ISOLATE;206a INHIBIT SYMMETRIC SWAPPING;206b ACTIVATE SYMMETRIC SWAPPING",
    "206c INHIBIT ARABIC FORM SHAPING;206d ACTIVATE ARABIC FORM SHAPING;206e NATIONAL DIGIT SHAPES",
    "206f NOMINAL DIGIT SHAPES;2070 SUPERSCRIPT ZERO;2071 SUPERSCRIPT LATIN SMALL LETTER I",
    "2074 SUPERSCRIPT FOUR;2075 SUPERSCRIPT FIVE;2076 SUPERSCRIPT SIX;2077 SUPERSCRIPT SEVEN",
    "2078 SUPERSCRIPT EIGHT;2079 SUPERSCRIPT NINE;207a SUPERSCRIPT PLUS SIGN",
    "207b SUPERSCRIPT MINUS;207c SUPERSCRIPT EQUALS SIGN;207d SUPERSCRIPT LEFT PARENTHESIS",
    "207e SUPERSCRIPT RIGHT PARENTHESIS;207f SUPERSCRIPT LATIN SMALL LETTER N;2080 SUBSCRIPT ZERO",
    "2081 SUBSCRIPT ONE;2082 SUBSCRIPT TWO;2083 SUBSCRIPT THREE;2084 SUBSCRIPT FOUR",
    "2085 SUBSCRIPT FIVE;2086 SUBSCRIPT SIX;2087 SUBSCRIPT SEVEN;2088 SUBSCRIPT EIGHT",
    "2089 SUBSCRIPT NINE;208a SUBSCRIPT PLUS SIGN;208b SUBSCRIPT MINUS;208c SUBSCRIPT EQUALS SIGN",
    "208d SUBSCRIPT LEFT PARENTHESIS;208e SUBSCRIPT RIGHT PARENTHESIS",
    "2090 LATIN SUBSCRIPT SMALL LETTER A;2091 LATIN SUBSCRIPT SMALL LETTER E",
    "2092 LATIN SUBSCRIPT SMALL LETTER O;2093 LATIN SUBSCRIPT SMALL LETTER X",
    "2094 LATIN SUBSCRIPT SMALL LETTER SCHWA;2095 LATIN SUBSCRIPT SMALL LETTER H",
    "2096 LATIN SUBSCRIPT SMALL LETTER K;2097 LATIN SUBSCRIPT SMALL LETTER L",
    "2098 LATIN SUBSCRIPT SMALL LETTER M;2099 LATIN SUBSCRIPT SMALL LETTER N",
    "209a LATIN SUBSCRIPT SMALL LETTER P;209b LATIN SUBSCRIPT SMALL LETTER S",
    "209c LATIN SUBSCRIPT SMALL LETTER T;20a0 EURO-CURRENCY SIGN;20a1 COLON SIGN",
    "20a2 CRUZEIRO SIGN;20a3 FRENCH FRANC SIGN;20a4 LIRA SIGN;20a5 MILL SIGN;20a6 NAIRA SIGN",
    "20a7 PESETA SIGN;20a8 RUPEE SIGN;20a9 WON SIGN;20aa NEW SHEQEL SIGN;20ab DONG SIGN",
    "20ac EURO SIGN;20ad KIP SIGN;20ae TUGRIK SIGN;20af DRACHMA SIGN;20b0 GERMAN PENNY SIGN",
    "20b1 PESO SIGN;20b2 GUARANI SIGN;20b3 AUSTRAL SIGN;20b4 HRYVNIA SIGN;20b5 CEDI SIGN",
    "20b6 LIVRE TOURNOIS SIGN;20b7 SPESMILO SIGN;20b8 TENGE SIGN;20b9 INDIAN RUPEE SIGN",
    "20ba TURKISH LIRA SIGN;20bb NORDIC MARK SIGN;20bc MANAT SIGN;20bd RUBLE SIGN;20be LARI SIGN",
    "20bf BITCOIN SIGN;20c0 SOM SIGN;2150 VULGAR FRACTION ONE SEVENTH",
    "2151 VULGAR FRACTION ONE NINTH;2152 VULGAR FRACTION ONE TENTH;2153 VULGAR FRACTION ONE THIRD",
    "2154 VULGAR FRACTION TWO THIRDS;2155 VULGAR FRACTION ONE FIFTH",
    "2156 VULGAR FRACTION TWO FIFTHS;2157 VULGAR FRACTION THREE FIFTHS",
    "2158 VULGAR FRACTION FOUR FIFTHS;2159 VULGAR FRACTION ONE SIXTH",
    "215a VULGAR FRACTION FIVE SIXTHS;215b VULGAR FRACTION ONE EIGHTH",
    "215c VULGAR FRACTION THREE EIGHTHS;215d VULGAR FRACTION FIVE EIGHTHS",
    "215e VULGAR FRACTION SEVEN EIGHTHS;215f FRACTION NUMERATOR ONE;2160 ROMAN NUMERAL ONE",
    "2161 ROMAN NUMERAL TWO;2162 ROMAN NUMERAL THREE;2163 ROMAN NUMERAL FOUR",
    "2164 ROMAN NUMERAL FIVE;2165 ROMAN NUMERAL SIX;2166 ROMAN NUMERAL SEVEN",
    "2167 ROMAN NUMERAL EIGHT;2168 ROMAN NUMERAL NINE;2169 ROMAN NUMERAL TEN",
    "216a ROMAN NUMERAL ELEVEN;216b ROMAN NUMERAL TWELVE;216c ROMAN NUMERAL FIFTY",
    "216d ROMAN NUMERAL ONE HUNDRED;216e ROMAN NUMERAL FIVE HUNDRED",
    "216f ROMAN NUMERAL ONE THOUSAND;2170 SMALL ROMAN NUMERAL ONE;2171 SMALL ROMAN NUMERAL TWO",
    "2172 SMALL ROMAN NUMERAL THREE;2173 SMALL ROMAN NUMERAL FOUR;2174 SMALL ROMAN NUMERAL FIVE",
    "2175 SMALL ROMAN NUMERAL SIX;2176 SMALL ROMAN NUMERAL SEVEN;2177 SMALL ROMAN NUMERAL EIGHT",
    "2178 SMALL ROMAN NUMERAL NINE;2179 SMALL ROMAN NUMERAL TEN;217a SMALL ROMAN NUMERAL ELEVEN",
    "217b SMALL ROMAN NUMERAL TWELVE;217c SMALL ROMAN NUMERAL FIFTY",
    "217d SMALL ROMAN NUMERAL ONE HUNDRED;217e SMALL ROMAN NUMERAL FIVE HUNDRED",
    "217f SMALL ROMAN NUMERAL ONE THOUSAND;2180 ROMAN NUMERAL ONE THOUSAND C D",
    "2181 ROMAN NUMERAL FIVE THOUSAND;2182 ROMAN NUMERAL TEN THOUSAND",
    "2183 ROMAN NUMERAL REVERSED ONE HUNDRED;2184 LATIN SMALL LETTER REVERSED C",
    "2185 ROMAN NUMERAL SIX LATE FORM;2186 ROMAN NUMERAL FIFTY EARLY FORM",
    "2187 ROMAN NUMERAL FIFTY THOUSAND;2188 ROMAN NUMERAL ONE HUNDRED THOUSAND",
    "2189 VULGAR FRACTION ZERO THIRDS;218a TURNED DIGIT TWO;218b TURNED DIGIT THREE",
    "2190 LEFTWARDS ARROW;2191 UPWARDS ARROW;2192 RIGHTWARDS ARROW;2193 DOWNWARDS ARROW",
    "2194 LEFT RIGHT ARROW;2195 UP DOWN ARROW;2196 NORTH WEST ARROW;2197 NORTH EAST ARROW",
    "2198 SOUTH EAST ARROW;2199 SOUTH WEST ARROW;219a LEFTWARDS ARROW WITH STROKE",
    "219b RIGHTWARDS ARROW WITH STROKE;219c LEFTWARDS WAVE ARROW;219d RIGHTWARDS WAVE ARROW",
    "219e LEFTWARDS TWO HEADED ARROW;219f UPWARDS TWO HEADED ARROW",
    "21a0 RIGHTWARDS TWO HEADED ARROW;21a1 DOWNWARDS TWO HEADED ARROW",
    "21a2 LEFTWARDS ARROW WITH TAIL;21a3 RIGHTWARDS ARROW WITH TAIL;21a4 LEFTWARDS ARROW FROM BAR",
    "21a5 UPWARDS ARROW FROM BAR;21a6 RIGHTWARDS ARROW FROM BAR;21a7 DOWNWARDS ARROW FROM BAR",
    "21a8 UP DOWN ARROW WITH BASE;21a9 LEFTWARDS ARROW WITH HOOK;21aa RIGHTWARDS ARROW WITH HOOK",
    "21ab LEFTWARDS ARROW WITH LOOP;21ac RIGHTWARDS ARROW WITH LOOP;21ad LEFT RIGHT WAVE ARROW",
    "21ae LEFT RIGHT ARROW WITH STROKE;21af DOWNWARDS ZIGZAG ARROW",
    "21b0 UPWARDS ARROW WITH TIP LEFTWARDS;21b1 UPWARDS ARROW WITH TIP RIGHTWARDS",
    "21b2 DOWNWARDS ARROW WITH TIP LEFTWARDS;21b3 DOWNWARDS ARROW WITH TIP RIGHTWARDS",
    "21b4 RIGHTWARDS ARROW WITH CORNER DOWNWARDS;21b5 DOWNWARDS ARROW WITH CORNER LEFTWARDS",
    "21b6 ANTICLOCKWISE TOP SEMICIRCLE ARROW;21b7 CLOCKWISE TOP SEMICIRCLE ARROW",
    "21b8 NORTH WEST ARROW TO LONG BAR;21b9 LEFTWARDS ARROW TO BAR OVER RIGHTWARDS ARROW TO BAR",
    "21ba ANTICLOCKWISE OPEN CIRCLE ARROW;21bb CLOCKWISE OPEN CIRCLE ARROW",
    "21bc LEFTWARDS HARPOON WITH BARB UPWARDS;21bd LEFTWARDS HARPOON WITH BARB DOWNWARDS",
    "21be UPWARDS HARPOON WITH BARB RIGHTWARDS;21bf UPWARDS HARPOON WITH BARB LEFTWARDS",
    "21c0 RIGHTWARDS HARPOON WITH BARB UPWARDS;21c1 RIGHTWARDS HARPOON WITH BARB DOWNWARDS",
    "21c2 DOWNWARDS HARPOON WITH BARB RIGHTWARDS;21c3 DOWNWARDS HARPOON WITH BARB LEFTWARDS",
    "21c4 RIGHTWARDS ARROW OVER LEFTWARDS ARROW;21c5 UPWARDS ARROW LEFTWARDS OF DOWNWARDS ARROW",
    "21c6 LEFTWARDS ARROW OVER RIGHTWARDS ARROW;21c7 LEFTWARDS PAIRED ARROWS",
    "21c8 UPWARDS PAIRED ARROWS;21c9 RIGHTWARDS PAIRED ARROWS;21ca DOWNWARDS PAIRED ARROWS",
    "21cb LEFTWARDS HARPOON OVER RIGHTWARDS HARPOON;21cc RIGHTWARDS HARPOON OVER LEFTWARDS HARPOON",
    "21cd LEFTWARDS DOUBLE ARROW WITH STROKE;21ce LEFT RIGHT DOUBLE ARROW WITH STROKE",
    "21cf RIGHTWARDS DOUBLE ARROW WITH STROKE;21d0 LEFTWARDS DOUBLE ARROW",
    "21d1 UPWARDS DOUBLE ARROW;21d2 RIGHTWARDS DOUBLE ARROW;21d3 DOWNWARDS DOUBLE ARROW",
    "21d4 LEFT RIGHT DOUBLE ARROW;21d5 UP DOWN DOUBLE ARROW;21d6 NORTH WEST DOUBLE ARROW",
    "21d7 NORTH EAST DOUBLE ARROW;21d8 SOUTH EAST DOUBLE ARROW;21d9 SOUTH WEST DOUBLE ARROW",
    "21da LEFTWARDS TRIPLE ARROW;21db RIGHTWARDS TRIPLE ARROW;21dc LEFTWARDS SQUIGGLE ARROW",
    "21dd RIGHTWARDS SQUIGGLE ARROW;21de UPWARDS ARROW WITH DOUBLE STROKE",
    "21df DOWNWARDS ARROW WITH DOUBLE STROKE;21e0 LEFTWARDS DASHED ARROW;21e1 UPWARDS DASHED ARROW",
    "21e2 RIGHTWARDS DASHED ARROW;21e3 DOWNWARDS DASHED ARROW;21e4 LEFTWARDS ARROW TO BAR",
    "21e5 RIGHTWARDS ARROW TO BAR;21e6 LEFTWARDS WHITE ARROW;21e7 UPWARDS WHITE ARROW",
    "21e8 RIGHTWARDS WHITE ARROW;21e9 DOWNWARDS WHITE ARROW;21ea UPWARDS WHITE ARROW FROM BAR",
    "21eb UPWARDS WHITE ARROW ON PEDESTAL;21ec UPWARDS WHITE ARROW ON PEDESTAL WITH HORIZONTAL BAR",
    "21ed UPWARDS WHITE ARROW ON PEDESTAL WITH VERTICAL BAR;21ee UPWARDS WHITE DOUBLE ARROW",
    "21ef UPWARDS WHITE DOUBLE ARROW ON PEDESTAL;21f0 RIGHTWARDS WHITE ARROW FROM WALL",
    "21f1 NORTH WEST ARROW TO CORNER;21f2 SOUTH EAST ARROW TO CORNER;21f3 UP DOWN WHITE ARROW",
    "21f4 RIGHT ARROW WITH SMALL CIRCLE;21f5 DOWNWARDS ARROW LEFTWARDS OF UPWARDS ARROW",
    "21f6 THREE RIGHTWARDS ARROWS;21f7 LEFTWARDS ARROW WITH VERTICAL STROKE",
    "21f8 RIGHTWARDS ARROW WITH VERTICAL STROKE;21f9 LEFT RIGHT ARROW WITH VERTICAL STROKE",
    "21fa LEFTWARDS ARROW WITH DOUBLE VERTICAL STROKE",
    "21fb RIGHTWARDS ARROW WITH DOUBLE VERTICAL STROKE",
    "21fc LEFT RIGHT ARROW WITH DOUBLE VERTICAL STROKE;21fd LEFTWARDS OPEN-HEADED ARROW",
    "21fe RIGHTWARDS OPEN-HEADED ARROW;21ff LEFT RIGHT OPEN-HEADED ARROW;2200 FOR ALL",
    "2201 COMPLEMENT;2202 PARTIAL DIFFERENTIAL;2203 THERE EXISTS;2204 THERE DOES NOT EXIST",
    "2205 EMPTY SET;2206 INCREMENT;2207 NABLA;2208 ELEMENT OF;2209 NOT AN ELEMENT OF",
    "220a SMALL ELEMENT OF;220b CONTAINS AS MEMBER;220c DOES NOT CONTAIN AS MEMBER",
    "220d SMALL CONTAINS AS MEMBER;220e END OF PROOF;220f N-ARY PRODUCT;2210 N-ARY COPRODUCT",
    "2211 N-ARY SUMMATION;2212 MINUS SIGN;2213 MINUS-OR-PLUS SIGN;2214 DOT PLUS",
    "2215 DIVISION SLASH;2216 SET MINUS;2217 ASTERISK OPERATOR;2218 RING OPERATOR",
    "2219 BULLET OPERATOR;221a SQUARE ROOT;221b CUBE ROOT;221c FOURTH ROOT;221d PROPORTIONAL TO",
    "221e INFINITY;221f RIGHT ANGLE;2220 ANGLE;2221 MEASURED ANGLE;2222 SPHERICAL ANGLE",
    "2223 DIVIDES;2224 DOES NOT DIVIDE;2225 PARALLEL TO;2226 NOT PARALLEL TO;2227 LOGICAL AND",
    "2228 LOGICAL OR;2229 INTERSECTION;222a UNION;222b INTEGRAL;222c DOUBLE INTEGRAL",
    "222d TRIPLE INTEGRAL;222e CONTOUR INTEGRAL;222f SURFACE INTEGRAL;2230 VOLUME INTEGRAL",
    "2231 CLOCKWISE INTEGRAL;2232 CLOCKWISE CONTOUR INTEGRAL;2233 ANTICLOCKWISE CONTOUR INTEGRAL",
    "2234 THEREFORE;2235 BECAUSE;2236 RATIO;2237 PROPORTION;2238 DOT MINUS;2239 EXCESS",
    "223a GEOMETRIC PROPORTION;223b HOMOTHETIC;223c TILDE OPERATOR;223d REVERSED TILDE",
    "223e INVERTED LAZY S;223f SINE WAVE;2240 WREATH PRODUCT;2241 NOT TILDE;2242 MINUS TILDE",
    "2243 ASYMPTOTICALLY EQUAL TO;2244 NOT ASYMPTOTICALLY EQUAL TO;2245 APPROXIMATELY EQUAL TO",
    "2246 APPROXIMATELY BUT NOT ACTUALLY EQUAL TO;2247 NEITHER APPROXIMATELY NOR ACTUALLY EQUAL TO",
    "2248 ALMOST EQUAL TO;2249 NOT ALMOST EQUAL TO;224a ALMOST EQUAL OR EQUAL TO;224b TRIPLE TILDE",
    "224c ALL EQUAL TO;224d EQUIVALENT TO;224e GEOMETRICALLY EQUIVALENT TO;224f DIFFERENCE BETWEEN",
    "2250 APPROACHES THE LIMIT;2251 GEOMETRICALLY EQUAL TO",
    "2252 APPROXIMATELY EQUAL TO OR THE IMAGE OF;2253 IMAGE OF OR APPROXIMATELY EQUAL TO",
    "2254 COLON EQUALS;2255 EQUALS COLON;2256 RING IN EQUAL TO;2257 RING EQUAL TO",
    "2258 CORRESPONDS TO;2259 ESTIMATES;225a EQUIANGULAR TO;225b STAR EQUALS;225c DELTA EQUAL TO",
    "225d EQUAL TO BY DEFINITION;225e MEASURED BY;225f QUESTIONED EQUAL TO;2260 NOT EQUAL TO",
    "2261 IDENTICAL TO;2262 NOT IDENTICAL TO;2263 STRICTLY EQUIVALENT TO",
    "2264 LESS-THAN OR EQUAL TO;2265 GREATER-THAN OR EQUAL TO;2266 LESS-THAN OVER EQUAL TO",
    "2267 GREATER-THAN OVER EQUAL TO;2268 LESS-THAN BUT NOT EQUAL TO",
    "2269 GREATER-THAN BUT NOT EQUAL TO;226a MUCH LESS-THAN;226b MUCH GREATER-THAN;226c BETWEEN",
    "226d NOT EQUIVALENT TO;226e NOT LESS-THAN;226f NOT GREATER-THAN",
    "2270 NEITHER LESS-THAN NOR EQUAL TO;2271 NEITHER GREATER-THAN NOR EQUAL TO",
    "2272 LESS-THAN OR EQUIVALENT TO;2273 GREATER-THAN OR EQUIVALENT TO",
    "2274 NEITHER LESS-THAN NOR EQUIVALENT TO;2275 NEITHER GREATER-THAN NOR EQUIVALENT TO",
    "2276 LESS-THAN OR GREATER-THAN;2277 GREATER-THAN OR LESS-THAN",
    "2278 NEITHER LESS-THAN NOR GREATER-THAN;2279 NEITHER GREATER-THAN NOR LESS-THAN;227a PRECEDES",
    "227b SUCCEEDS;227c PRECEDES OR EQUAL TO;227d SUCCEEDS OR EQUAL TO",
    "227e PRECEDES OR EQUIVALENT TO;227f SUCCEEDS OR EQUIVALENT TO;2280 DOES NOT PRECEDE",
    "2281 DOES NOT SUCCEED;2282 SUBSET OF;2283 SUPERSET OF;2284 NOT A SUBSET OF",
    "2285 NOT A SUPERSET OF;2286 SUBSET OF OR EQUAL TO;2287 SUPERSET OF OR EQUAL TO",
    "2288 NEITHER A SUBSET OF NOR EQUAL TO;2289 NEITHER A SUPERSET OF NOR EQUAL TO",
    "228a SUBSET OF WITH NOT EQUAL TO;228b SUPERSET OF WITH NOT EQUAL TO;228c MULTISET",
    "228d MULTISET MULTIPLICATION;228e MULTISET UNION;228f SQUARE IMAGE OF;2290 SQUARE ORIGINAL OF",
    "2291 SQUARE IMAGE OF OR EQUAL TO;2292 SQUARE ORIGINAL OF OR EQUAL TO;2293 SQUARE CAP",
    "2294 SQUARE CUP;2295 CIRCLED PLUS;2296 CIRCLED MINUS;2297 CIRCLED TIMES",
    "2298 CIRCLED DIVISION SLASH;2299 CIRCLED DOT OPERATOR;229a CIRCLED RING OPERATOR",
    "229b CIRCLED ASTERISK OPERATOR;229c CIRCLED EQUALS;229d CIRCLED DASH;229e SQUARED PLUS",
    "229f SQUARED MINUS;22a0 SQUARED TIMES;22a1 SQUARED DOT OPERATOR;22a2 RIGHT TACK",
    "22a3 LEFT TACK;22a4 DOWN TACK;22a5 UP TACK;22a6 ASSERTION;22a7 MODELS;22a8 TRUE;22a9 FORCES",
    "22aa TRIPLE VERTICAL BAR RIGHT TURNSTILE;22ab DOUBLE VERTICAL BAR DOUBLE RIGHT TURNSTILE",
    "22ac DOES NOT PROVE;22ad NOT TRUE;22ae DOES NOT FORCE",
    "22af NEGATED DOUBLE VERTICAL BAR DOUBLE RIGHT TURNSTILE;22b0 PRECEDES UNDER RELATION",
    "22b1 SUCCEEDS UNDER RELATION;22b2 NORMAL SUBGROUP OF;22b3 CONTAINS AS NORMAL SUBGROUP",
    "22b4 NORMAL SUBGROUP OF OR EQUAL TO;22b5 CONTAINS AS NORMAL SUBGROUP OR EQUAL TO",
    "22b6 ORIGINAL OF;22b7 IMAGE OF;22b8 MULTIMAP;22b9 HERMITIAN CONJUGATE MATRIX;22ba INTERCALATE",
    "22bb XOR;22bc NAND;22bd NOR;22be RIGHT ANGLE WITH ARC;22bf RIGHT TRIANGLE",
    "22c0 N-ARY LOGICAL AND;22c1 N-ARY LOGICAL OR;22c2 N-ARY INTERSECTION;22c3 N-ARY UNION",
    "22c4 DIAMOND OPERATOR;22c5 DOT OPERATOR;22c6 STAR OPERATOR;22c7 DIVISION TIMES;22c8 BOWTIE",
    "22c9 LEFT NORMAL FACTOR SEMIDIRECT PRODUCT;22ca RIGHT NORMAL FACTOR SEMIDIRECT PRODUCT",
    "22cb LEFT SEMIDIRECT PRODUCT;22cc RIGHT SEMIDIRECT PRODUCT;22cd REVERSED TILDE EQUALS",
    "22ce CURLY LOGICAL OR;22cf CURLY LOGICAL AND;22d0 DOUBLE SUBSET;22d1 DOUBLE SUPERSET",
    "22d2 DOUBLE INTERSECTION;22d3 DOUBLE UNION;22d4 PITCHFORK;22d5 EQUAL AND PARALLEL TO",
    "22d6 LESS-THAN WITH DOT;22d7 GREATER-THAN WITH DOT;22d8 VERY MUCH LESS-THAN",
    "22d9 VERY MUCH GREATER-THAN;22da LESS-THAN EQUAL TO OR GREATER-THAN",
    "22db GREATER-THAN EQUAL TO OR LESS-THAN;22dc EQUAL TO OR LESS-THAN",
    "22dd EQUAL TO OR GREATER-THAN;22de EQUAL TO OR PRECEDES;22df EQUAL TO OR SUCCEEDS",
    "22e0 DOES NOT PRECEDE OR EQUAL;22e1 DOES NOT SUCCEED OR EQUAL",
    "22e2 NOT SQUARE IMAGE OF OR EQUAL TO;22e3 NOT SQUARE ORIGINAL OF OR EQUAL TO",
    "22e4 SQUARE IMAGE OF OR NOT EQUAL TO;22e5 SQUARE ORIGINAL OF OR NOT EQUAL TO",
    "22e6 LESS-THAN BUT NOT EQUIVALENT TO;22e7 GREATER-THAN BUT NOT EQUIVALENT TO",
    "22e8 PRECEDES BUT NOT EQUIVALENT TO;22e9 SUCCEEDS BUT NOT EQUIVALENT TO",
    "22ea NOT NORMAL SUBGROUP OF;22eb DOES NOT CONTAIN AS NORMAL SUBGROUP",
    "22ec NOT NORMAL SUBGROUP OF OR EQUAL TO;22ed DOES NOT CONTAIN AS NORMAL SUBGROUP OR EQUAL",
    "22ee VERTICAL ELLIPSIS;22ef MIDLINE HORIZONTAL ELLIPSIS;22f0 UP RIGHT DIAGONAL ELLIPSIS",
    "22f1 DOWN RIGHT DIAGONAL ELLIPSIS;22f2 ELEMENT OF WITH LONG HORIZONTAL STROKE",
    "22f3 ELEMENT OF WITH VERTICAL BAR AT END OF HORIZONTAL STROKE",
    "22f4 SMALL ELEMENT OF WITH VERTICAL BAR AT END OF HORIZONTAL STROKE",
    "22f5 ELEMENT OF WITH DOT ABOVE;22f6 ELEMENT OF WITH OVERBAR",
    "22f7 SMALL ELEMENT OF WITH OVERBAR;22f8 ELEMENT OF WITH UNDERBAR",
    "22f9 ELEMENT OF WITH TWO HORIZONTAL STROKES;22fa CONTAINS WITH LONG HORIZONTAL STROKE",
    "22fb CONTAINS WITH VERTICAL BAR AT END OF HORIZONTAL STROKE",
    "22fc SMALL CONTAINS WITH VERTICAL BAR AT END OF HORIZONTAL STROKE;22fd CONTAINS WITH OVERBAR",
    "22fe SMALL CONTAINS WITH OVERBAR;22ff Z NOTATION BAG MEMBERSHIP;3000 IDEOGRAPHIC SPACE",
    "feff ZERO WIDTH NO-BREAK SPACE;fffd REPLACEMENT CHARACTER;0 NULL;1 START OF HEADING",
    "2 START OF TEXT;3 END OF TEXT;4 END OF TRANSMISSION;5 ENQUIRY;6 ACKNOWLEDGE;7 ALERT",
    "8 BACKSPACE;9 CHARACTER TABULATION;9 HORIZONTAL TABULATION;9 HT;9 TAB;a LINE FEED;a NEW LINE",
    "a LF;a NL;a EOL;b LINE TABULATION;b VERTICAL TABULATION;b VT;c FORM FEED;c FF",
    "d CARRIAGE RETURN;d CR;1b ESCAPE;1b ESC;20 SP;7f DELETE;7f DEL;85 NEXT LINE;85 NEL;a0 NBSP",
    "ad SHY;200b ZWSP;200c ZWNJ;200d ZWJ;0 NUL;7 BEL;8 BS;1a SUB;1a SUBSTITUTE"]

def digitTable : List String :=
  ["30;660 ARABIC-INDIC;6f0 EXTENDED ARABIC-INDIC;7c0 NKO;966 DEVANAGARI;9e6 BENGALI;a66 GURMUKHI",
    "ae6 GUJARATI;b66 ORIYA;be6 TAMIL;c66 TELUGU;ce6 KANNADA;d66 MALAYALAM;de6 SINHALA LITH",
    "e50 THAI;ed0 LAO;f20 TIBETAN;1040 MYANMAR;1090 MYANMAR SHAN;17e0 KHMER;1810 MONGOLIAN",
    "1946 LIMBU;19d0 NEW TAI LUE;1a80 TAI THAM HORA;1a90 TAI THAM THAM;1b50 BALINESE",
    "1bb0 SUNDANESE;1c40 LEPCHA;1c50 OL CHIKI;a620 VAI;a8d0 SAURASHTRA;a900 KAYAH LI;a9d0 JAVANESE",
    "a9f0 MYANMAR TAI LAING;aa50 CHAM;abf0 MEETEI MAYEK;ff10 FULLWIDTH;104a0 OSMANYA",
    "10d30 HANIFI ROHINGYA;11066 BRAHMI;110f0 SORA SOMPENG;11136 CHAKMA;111d0 SHARADA",
    "112f0 KHUDAWADI;11450 NEWA;114d0 TIRHUTA;11650 MODI;116c0 TAKRI;11730 AHOM;118e0 WARANG CITI",
    "11950 DIVES AKURU;11c50 BHAIKSUKI;11d50 MASARAM GONDI;11da0 GUNJALA GONDI;16a60 MRO",
    "16ac0 TANGSA;16b50 PAHAWH HMONG;1d7ce MATHEMATICAL BOLD;1d7d8 MATHEMATICAL DOUBLE-STRUCK",
    "1d7e2 MATHEMATICAL SANS-SERIF;1d7ec MATHEMATICAL SANS-SERIF BOLD;1d7f6 MATHEMATICAL MONOSPACE",
    "1e140 NYIAKENG PUACHUE HMONG;1e2f0 WANCHO;1e950 ADLAM;1fbf0 SEGMENTED"]

def digitWords : List String :=
  ["ZERO", "ONE", "TWO", "THREE", "FOUR", "FIVE", "SIX", "SEVEN", "EIGHT", "NINE"]

/-- The first sounds of Korean syllables. -/
def leadNames : List String :=
  ["G", "GG", "N", "D", "DD", "R", "M", "B", "BB", "S", "SS", "", "J", "JJ", "C", "K", "T", "P", "H"]

def vowelNames : List String :=
  ["A", "AE", "YA", "YAE", "EO", "E", "YEO", "YE", "O", "WA", "WAE", "OE", "YO", "U", "WEO", "WE",
    "WI", "YU", "EU", "YI", "I"]

/-- The last sounds of Korean syllables. -/
def tailNames : List String :=
  ["", "G", "GG", "GS", "N", "NJ", "NH", "D", "L", "LG", "LM", "LB", "LS", "LT", "LP", "LH", "M",
    "B", "BS", "S", "SS", "NG", "J", "C", "K", "T", "P", "H"]

/-- The code points of ideographs, as closed ranges. -/
def ideographRanges : List (Nat × Nat) :=
  [(0x3400, 0x4dbf), (0x4e00, 0x9fff), (0x20000, 0x2a6df), (0x2a700, 0x2b738), (0x2b740, 0x2b81d),
    (0x2b820, 0x2cea1), (0x2ceb0, 0x2ebe0), (0x30000, 0x3134a)]

/-- A row of a table: a code point in hexadecimal digits and the text behind it. -/
def nameRow (row : Text) : Nat × Text :=
  let digits := row.takeWhile (· != ' ')
  (hexNumber digits, row.drop (digits.length + 1))

def tabledCode? (name : Text) : Option Nat :=
  ((tableRows nameTable).map nameRow).findSome? fun (code, known) =>
    if known = name then some code else none

def digitCode? (name : Text) : Option Nat :=
  ((tableRows digitTable).map nameRow).findSome? fun (first, script) =>
    let front := if script.isEmpty then [] else script ++ [' ']
    let isName (word : String) : Bool := front ++ "DIGIT ".toList ++ word.toList == name
    (digitWords.findIdx? isName).map (first + ·)

def syllableCode? (name : Text) : Option Nat :=
  let front := "HANGUL SYLLABLE ".toList
  if front.isPrefixOf name then
    let sounds := name.drop front.length
    (List.range leadNames.length).findSome? fun (lead : Nat) =>
      (List.range vowelNames.length).findSome? fun (vowel : Nat) =>
        let spoken := (leadNames[lead]?.getD "").toList ++ (vowelNames[vowel]?.getD "").toList
        (tailNames.findIdx? fun tail => spoken ++ tail.toList == sounds).map fun tail =>
          firstSyllable + (lead * 21 + vowel) * 28 + tail
  else none

def ideographCode? (name : Text) : Option Nat :=
  let front := "CJK UNIFIED IDEOGRAPH-".toList
  let digits := name.drop front.length
  let isDigit (c : Char) : Bool := c.isDigit || ('A' ≤ c && c ≤ 'F')
  if front.isPrefixOf name && (digits.length = 4 || digits.length = 5) && digits.all isDigit then
    let code := hexNumber (digits.map Char.toLower)
    if Text.inRanges ideographRanges code then some code else none
  else none

/-- The code point with a name, in upper or lower case. -/
def codeOfName? (name : Text) : Option Nat :=
  let upper := name.map Char.toUpper
  match tabledCode? upper with
  | some code => some code
  | none =>
    match digitCode? upper with
    | some code => some code
    | none =>
      match syllableCode? upper with
      | some code => some code
      | none => ideographCode? upper

end PromptTemplate.Letter
