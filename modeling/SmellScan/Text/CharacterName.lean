/-!
# Names of characters

The names by which characters can be written. Letters are named by their alphabet, their size and
their mark; other characters have names of their own. Capital and small letters in a name are the
same. Names of characters that are rarely written are not known here.
-/

namespace SmellScan.Text

/-- The letters of the Latin alphabet, by their names. -/
def latinLetterNames : List String :=
  "ABCDEFGHIJKLMNOPQRSTUVWXYZ".toList.map String.singleton

/-- The names of the letters of the Greek alphabet. -/
def greekLetterNames : List String :=
  ["ALPHA", "BETA", "GAMMA", "DELTA", "EPSILON", "ZETA", "ETA", "THETA", "IOTA", "KAPPA", "LAMDA",
   "MU", "NU", "XI", "OMICRON", "PI", "RHO", "SIGMA", "TAU", "UPSILON", "PHI", "CHI",
   "PSI", "OMEGA"]

/-- The letters of the Latin alphabet with a mark in common use, by the mark. -/
def markedLetters : List (String × String) :=
  [("GRAVE", "AEINOUWY"), ("ACUTE", "ACEGIKLMNOPRSUWYZ"), ("CIRCUMFLEX", "ACEGHIJOSUWYZ"),
   ("TILDE", "AEINOUVY"), ("DIAERESIS", "AEHIOUWXY"), ("RING ABOVE", "AU"),
   ("CEDILLA", "CDEGHKLNRST"), ("STROKE", "ABCDEFGHIJKLOPRTUYZ"), ("CARON", "ACDEGHIKLNORSTUZ"),
   ("BREVE", "AEGIOU"), ("MACRON", "AEGIOUY"), ("OGONEK", "AEIOU"),
   ("DOT ABOVE", "ABCDEFGHMNOPRSTWXYZ"), ("DOUBLE ACUTE", "OU")]

/-- The names of digits. -/
def digitNames : List String :=
  ["ZERO", "ONE", "TWO", "THREE", "FOUR", "FIVE", "SIX", "SEVEN", "EIGHT", "NINE"]

/-- The names of other characters in common use. -/
def symbolNames : List String :=
  ["SPACE", "EXCLAMATION MARK", "QUOTATION MARK", "NUMBER SIGN", "DOLLAR SIGN", "PERCENT SIGN",
   "AMPERSAND", "APOSTROPHE", "LEFT PARENTHESIS", "RIGHT PARENTHESIS", "ASTERISK", "PLUS SIGN",
   "COMMA", "HYPHEN-MINUS", "FULL STOP", "SOLIDUS", "COLON", "SEMICOLON", "LESS-THAN SIGN",
   "EQUALS SIGN", "GREATER-THAN SIGN", "QUESTION MARK", "COMMERCIAL AT", "LEFT SQUARE BRACKET",
   "REVERSE SOLIDUS", "RIGHT SQUARE BRACKET", "CIRCUMFLEX ACCENT", "LOW LINE", "GRAVE ACCENT",
   "LEFT CURLY BRACKET", "VERTICAL LINE", "RIGHT CURLY BRACKET", "TILDE", "NO-BREAK SPACE",
   "INVERTED EXCLAMATION MARK", "CENT SIGN", "POUND SIGN", "CURRENCY SIGN", "YEN SIGN",
   "BROKEN BAR", "SECTION SIGN", "DIAERESIS", "COPYRIGHT SIGN", "FEMININE ORDINAL INDICATOR",
   "LEFT-POINTING DOUBLE ANGLE QUOTATION MARK", "NOT SIGN", "SOFT HYPHEN", "REGISTERED SIGN",
   "MACRON", "DEGREE SIGN", "PLUS-MINUS SIGN", "SUPERSCRIPT ONE", "SUPERSCRIPT TWO",
   "SUPERSCRIPT THREE", "ACUTE ACCENT", "MICRO SIGN", "PILCROW SIGN", "MIDDLE DOT", "CEDILLA",
   "MASCULINE ORDINAL INDICATOR", "RIGHT-POINTING DOUBLE ANGLE QUOTATION MARK",
   "VULGAR FRACTION ONE QUARTER", "VULGAR FRACTION ONE HALF", "VULGAR FRACTION THREE QUARTERS",
   "INVERTED QUESTION MARK", "MULTIPLICATION SIGN", "DIVISION SIGN", "LATIN SMALL LETTER SHARP S",
   "LATIN CAPITAL LETTER I WITH DOT ABOVE", "LATIN CAPITAL LETTER AE", "LATIN SMALL LETTER AE",
   "LATIN CAPITAL LIGATURE OE",
   "LATIN SMALL LIGATURE OE", "GREEK SMALL LETTER FINAL SIGMA", "EULER CONSTANT", "EN DASH",
   "EM DASH", "HYPHEN", "NON-BREAKING HYPHEN", "FIGURE DASH", "HORIZONTAL BAR",
   "LEFT SINGLE QUOTATION MARK", "RIGHT SINGLE QUOTATION MARK", "LEFT DOUBLE QUOTATION MARK",
   "RIGHT DOUBLE QUOTATION MARK", "DAGGER", "DOUBLE DAGGER", "BULLET", "HORIZONTAL ELLIPSIS",
   "PER MILLE SIGN", "PRIME", "DOUBLE PRIME", "EURO SIGN", "BITCOIN SIGN", "TRADE MARK SIGN",
   "OHM SIGN", "KELVIN SIGN", "ANGSTROM SIGN", "ZERO WIDTH SPACE", "ZERO WIDTH NON-JOINER",
   "ZERO WIDTH JOINER", "ZERO WIDTH NO-BREAK SPACE", "WORD JOINER", "LINE SEPARATOR",
   "PARAGRAPH SEPARATOR", "LEFTWARDS ARROW", "UPWARDS ARROW", "RIGHTWARDS ARROW",
   "DOWNWARDS ARROW", "LEFT RIGHT ARROW", "FOR ALL", "THERE EXISTS", "EMPTY SET", "ELEMENT OF",
   "MINUS SIGN", "SQUARE ROOT", "INFINITY", "INTEGRAL", "N-ARY SUMMATION", "N-ARY PRODUCT",
   "ALMOST EQUAL TO", "NOT EQUAL TO", "IDENTICAL TO", "LESS-THAN OR EQUAL TO",
   "GREATER-THAN OR EQUAL TO", "BLACK SQUARE", "WHITE SQUARE", "BLACK CIRCLE", "WHITE CIRCLE",
   "BLACK STAR", "WHITE STAR", "SNOWMAN", "CLOUD", "UMBRELLA", "BLACK SPADE SUIT",
   "BLACK CLUB SUIT", "BLACK HEART SUIT", "BLACK DIAMOND SUIT", "CHECK MARK", "HEAVY CHECK MARK",
   "MULTIPLICATION X", "BALLOT X", "HEAVY BALLOT X", "WHITE HEAVY CHECK MARK", "CROSS MARK",
   "WARNING SIGN", "HEAVY BLACK HEART", "SPARKLES", "GRINNING FACE", "PILE OF POO", "SNAKE",
   "THUMBS UP SIGN", "FIRE", "ROCKET", "REPLACEMENT CHARACTER", "COMBINING GRAVE ACCENT",
   "COMBINING ACUTE ACCENT", "COMBINING DIAERESIS", "NULL", "BACKSPACE", "CHARACTER TABULATION",
   "LINE FEED", "NEW LINE", "CARRIAGE RETURN", "ESCAPE", "DELETE", "NBSP", "SHY", "ZWSP", "ZWJ",
   "ZWNJ", "BYTE ORDER MARK"]

/-- The name of a letter, without its alphabet and size. -/
def isLatinLetterName (s : String) : Bool :=
  latinLetterNames.contains s ||
    markedLetters.any fun (mark, letters) =>
      letters.toList.any fun c => String.singleton c ++ " WITH " ++ mark == s

/-- The text is the name of a character. -/
def isCharacterName (s : String) : Bool :=
  let s := s.map Char.toUpper
  let letter (alphabet : String) (isName : String → Bool) : Bool :=
    ["CAPITAL", "SMALL"].any fun size =>
      let start := alphabet ++ " " ++ size ++ " LETTER "
      start.isPrefixOf s && isName (s.drop start.length).toString
  symbolNames.contains s || letter "LATIN" isLatinLetterName ||
    letter "GREEK" greekLetterNames.contains ||
    digitNames.any fun digit => "DIGIT " ++ digit == s

end SmellScan.Text
