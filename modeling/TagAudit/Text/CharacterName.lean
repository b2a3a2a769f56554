/-!
The names of characters, as they stand in the escapes of patterns: the names of the ASCII
characters, of the Latin letters and signs after them and of general punctuation, and the names that
control and format characters go by. No other name is known.
-/

namespace TagAudit.Text

def characterNames : List (Nat × List String) :=
  [(0x00, ["NULL", "NUL"]), (0x01, ["START OF HEADING", "SOH"]), (0x02, ["START OF TEXT", "STX"]),
   (0x03, ["END OF TEXT", "ETX"]), (0x04, ["END OF TRANSMISSION", "EOT"]),
   (0x05, ["ENQUIRY", "ENQ"]), (0x06, ["ACKNOWLEDGE", "ACK"]), (0x07, ["ALERT", "BEL"]),
   (0x08, ["BACKSPACE", "BS"]),
   (0x09, ["CHARACTER TABULATION", "HORIZONTAL TABULATION", "HT", "TAB"]),
   (0x0A, ["LINE FEED", "NEW LINE", "END OF LINE", "LF", "NL", "EOL"]),
   (0x0B, ["LINE TABULATION", "VERTICAL TABULATION", "VT"]), (0x0C, ["FORM FEED", "FF"]),
   (0x0D, ["CARRIAGE RETURN", "CR"]), (0x0E, ["SHIFT OUT", "LOCKING-SHIFT ONE", "SO"]),
   (0x0F, ["SHIFT IN", "LOCKING-SHIFT ZERO", "SI"]), (0x10, ["DATA LINK ESCAPE", "DLE"]),
   (0x11, ["DEVICE CONTROL ONE", "DC1"]), (0x12, ["DEVICE CONTROL TWO", "DC2"]),
   (0x13, ["DEVICE CONTROL THREE", "DC3"]), (0x14, ["DEVICE CONTROL FOUR", "DC4"]),
   (0x15, ["NEGATIVE ACKNOWLEDGE", "NAK"]), (0x16, ["SYNCHRONOUS IDLE", "SYN"]),
   (0x17, ["END OF TRANSMISSION BLOCK", "ETB"]), (0x18, ["CANCEL", "CAN"]),
   (0x19, ["END OF MEDIUM", "EOM"]), (0x1A, ["SUBSTITUTE", "SUB"]), (0x1B, ["ESCAPE", "ESC"]),
   (0x1C, ["INFORMATION SEPARATOR FOUR", "FILE SEPARATOR", "FS"]),
   (0x1D, ["INFORMATION SEPARATOR THREE", "GROUP SEPARATOR", "GS"]),
   (0x1E, ["INFORMATION SEPARATOR TWO", "RECORD SEPARATOR", "RS"]),
   (0x1F, ["INFORMATION SEPARATOR ONE", "UNIT SEPARATOR", "US"]), (0x20, ["SPACE", "SP"]),
   (0x21, ["EXCLAMATION MARK"]), (0x22, ["QUOTATION MARK"]), (0x23, ["NUMBER SIGN"]),
   (0x24, ["DOLLAR SIGN"]), (0x25, ["PERCENT SIGN"]), (0x26, ["AMPERSAND"]),
   (0x27, ["APOSTROPHE"]), (0x28, ["LEFT PARENTHESIS"]), (0x29, ["RIGHT PARENTHESIS"]),
   (0x2A, ["ASTERISK"]), (0x2B, ["PLUS SIGN"]), (0x2C, ["COMMA"]), (0x2D, ["HYPHEN-MINUS"]),
   (0x2E, ["FULL STOP"]), (0x2F, ["SOLIDUS"]), (0x30, ["DIGIT ZERO"]), (0x31, ["DIGIT ONE"]),
   (0x32, ["DIGIT TWO"]), (0x33, ["DIGIT THREE"]), (0x34, ["DIGIT FOUR"]), (0x35, ["DIGIT FIVE"]),
   (0x36, ["DIGIT SIX"]), (0x37, ["DIGIT SEVEN"]), (0x38, ["DIGIT EIGHT"]), (0x39, ["DIGIT NINE"]),
   (0x3A, ["COLON"]), (0x3B, ["SEMICOLON"]), (0x3C, ["LESS-THAN SIGN"]), (0x3D, ["EQUALS SIGN"]),
   (0x3E, ["GREATER-THAN SIGN"]), (0x3F, ["QUESTION MARK"]), (0x40, ["COMMERCIAL AT"]),
   (0x41, ["LATIN CAPITAL LETTER A"]), (0x42, ["LATIN CAPITAL LETTER B"]),
   (0x43, ["LATIN CAPITAL LETTER C"]), (0x44, ["LATIN CAPITAL LETTER D"]),
   (0x45, ["LATIN CAPITAL LETTER E"]), (0x46, ["LATIN CAPITAL LETTER F"]),
   (0x47, ["LATIN CAPITAL LETTER G"]), (0x48, ["LATIN CAPITAL LETTER H"]),
   (0x49, ["LATIN CAPITAL LETTER I"]), (0x4A, ["LATIN CAPITAL LETTER J"]),
   (0x4B, ["LATIN CAPITAL LETTER K"]), (0x4C, ["LATIN CAPITAL LETTER L"]),
   (0x4D, ["LATIN CAPITAL LETTER M"]), (0x4E, ["LATIN CAPITAL LETTER N"]),
   (0x4F, ["LATIN CAPITAL LETTER O"]), (0x50, ["LATIN CAPITAL LETTER P"]),
   (0x51, ["LATIN CAPITAL LETTER Q"]), (0x52, ["LATIN CAPITAL LETTER R"]),
   (0x53, ["LATIN CAPITAL LETTER S"]), (0x54, ["LATIN CAPITAL LETTER T"]),
   (0x55, ["LATIN CAPITAL LETTER U"]), (0x56, ["LATIN CAPITAL LETTER V"]),
   (0x57, ["LATIN CAPITAL LETTER W"]), (0x58, ["LATIN CAPITAL LETTER X"]),
   (0x59, ["LATIN CAPITAL LETTER Y"]), (0x5A, ["LATIN CAPITAL LETTER Z"]),
   (0x5B, ["LEFT SQUARE BRACKET"]), (0x5C, ["REVERSE SOLIDUS"]), (0x5D, ["RIGHT SQUARE BRACKET"]),
   (0x5E, ["CIRCUMFLEX ACCENT"]), (0x5F, ["LOW LINE"]), (0x60, ["GRAVE ACCENT"]),
   (0x61, ["LATIN SMALL LETTER A"]), (0x62, ["LATIN SMALL LETTER B"]),
   (0x63, ["LATIN SMALL LETTER C"]), (0x64, ["LATIN SMALL LETTER D"]),
   (0x65, ["LATIN SMALL LETTER E"]), (0x66, ["LATIN SMALL LETTER F"]),
   (0x67, ["LATIN SMALL LETTER G"]), (0x68, ["LATIN SMALL LETTER H"]),
   (0x69, ["LATIN SMALL LETTER I"]), (0x6A, ["LATIN SMALL LETTER J"]),
   (0x6B, ["LATIN SMALL LETTER K"]), (0x6C, ["LATIN SMALL LETTER L"]),
   (0x6D, ["LATIN SMALL LETTER M"]), (0x6E, ["LATIN SMALL LETTER N"]),
   (0x6F, ["LATIN SMALL LETTER O"]), (0x70, ["LATIN SMALL LETTER P"]),
   (0x71, ["LATIN SMALL LETTER Q"]), (0x72, ["LATIN SMALL LETTER R"]),
   (0x73, ["LATIN SMALL LETTER S"]), (0x74, ["LATIN SMALL LETTER T"]),
   (0x75, ["LATIN SMALL LETTER U"]), (0x76, ["LATIN SMALL LETTER V"]),
   (0x77, ["LATIN SMALL LETTER W"]), (0x78, ["LATIN SMALL LETTER X"]),
   (0x79, ["LATIN SMALL LETTER Y"]), (0x7A, ["LATIN SMALL LETTER Z"]),
   (0x7B, ["LEFT CURLY BRACKET"]), (0x7C, ["VERTICAL LINE"]), (0x7D, ["RIGHT CURLY BRACKET"]),
   (0x7E, ["TILDE"]), (0x7F, ["DELETE", "DEL"]), (0xA0, ["NO-BREAK SPACE", "NBSP"]),
   (0xA1, ["INVERTED EXCLAMATION MARK"]), (0xA2, ["CENT SIGN"]), (0xA3, ["POUND SIGN"]),
   (0xA4, ["CURRENCY SIGN"]), (0xA5, ["YEN SIGN"]), (0xA6, ["BROKEN BAR"]),
   (0xA7, ["SECTION SIGN"]), (0xA8, ["DIAERESIS"]), (0xA9, ["COPYRIGHT SIGN"]),
   (0xAA, ["FEMININE ORDINAL INDICATOR"]), (0xAB, ["LEFT-POINTING DOUBLE ANGLE QUOTATION MARK"]),
   (0xAC, ["NOT SIGN"]), (0xAD, ["SOFT HYPHEN", "SHY"]), (0xAE, ["REGISTERED SIGN"]),
   (0xAF, ["MACRON"]), (0xB0, ["DEGREE SIGN"]), (0xB1, ["PLUS-MINUS SIGN"]),
   (0xB2, ["SUPERSCRIPT TWO"]), (0xB3, ["SUPERSCRIPT THREE"]), (0xB4, ["ACUTE ACCENT"]),
   (0xB5, ["MICRO SIGN"]), (0xB6, ["PILCROW SIGN"]), (0xB7, ["MIDDLE DOT"]), (0xB8, ["CEDILLA"]),
   (0xB9, ["SUPERSCRIPT ONE"]), (0xBA, ["MASCULINE ORDINAL INDICATOR"]),
   (0xBB, ["RIGHT-POINTING DOUBLE ANGLE QUOTATION MARK"]), (0xBC, ["VULGAR FRACTION ONE QUARTER"]),
   (0xBD, ["VULGAR FRACTION ONE HALF"]), (0xBE, ["VULGAR FRACTION THREE QUARTERS"]),
   (0xBF, ["INVERTED QUESTION MARK"]), (0xC0, ["LATIN CAPITAL LETTER A WITH GRAVE"]),
   (0xC1, ["LATIN CAPITAL LETTER A WITH ACUTE"]),
   (0xC2, ["LATIN CAPITAL LETTER A WITH CIRCUMFLEX"]),
   (0xC3, ["LATIN CAPITAL LETTER A WITH TILDE"]),
   (0xC4, ["LATIN CAPITAL LETTER A WITH DIAERESIS"]),
   (0xC5, ["LATIN CAPITAL LETTER A WITH RING ABOVE"]), (0xC6, ["LATIN CAPITAL LETTER AE"]),
   (0xC7, ["LATIN CAPITAL LETTER C WITH CEDILLA"]), (0xC8, ["LATIN CAPITAL LETTER E WITH GRAVE"]),
   (0xC9, ["LATIN CAPITAL LETTER E WITH ACUTE"]),
   (0xCA, ["LATIN CAPITAL LETTER E WITH CIRCUMFLEX"]),
   (0xCB, ["LATIN CAPITAL LETTER E WITH DIAERESIS"]),
   (0xCC, ["LATIN CAPITAL LETTER I WITH GRAVE"]), (0xCD, ["LATIN CAPITAL LETTER I WITH ACUTE"]),
   (0xCE, ["LATIN CAPITAL LETTER I WITH CIRCUMFLEX"]),
   (0xCF, ["LATIN CAPITAL LETTER I WITH DIAERESIS"]), (0xD0, ["LATIN CAPITAL LETTER ETH"]),
   (0xD1, ["LATIN CAPITAL LETTER N WITH TILDE"]), (0xD2, ["LATIN CAPITAL LETTER O WITH GRAVE"]),
   (0xD3, ["LATIN CAPITAL LETTER O WITH ACUTE"]),
   (0xD4, ["LATIN CAPITAL LETTER O WITH CIRCUMFLEX"]),
   (0xD5, ["LATIN CAPITAL LETTER O WITH TILDE"]),
   (0xD6, ["LATIN CAPITAL LETTER O WITH DIAERESIS"]), (0xD7, ["MULTIPLICATION SIGN"]),
   (0xD8, ["LATIN CAPITAL LETTER O WITH STROKE"]), (0xD9, ["LATIN CAPITAL LETTER U WITH GRAVE"]),
   (0xDA, ["LATIN CAPITAL LETTER U WITH ACUTE"]),
   (0xDB, ["LATIN CAPITAL LETTER U WITH CIRCUMFLEX"]),
   (0xDC, ["LATIN CAPITAL LETTER U WITH DIAERESIS"]),
   (0xDD, ["LATIN CAPITAL LETTER Y WITH ACUTE"]), (0xDE, ["LATIN CAPITAL LETTER THORN"]),
   (0xDF, ["LATIN SMALL LETTER SHARP S"]), (0xE0, ["LATIN SMALL LETTER A WITH GRAVE"]),
   (0xE1, ["LATIN SMALL LETTER A WITH ACUTE"]), (0xE2, ["LATIN SMALL LETTER A WITH CIRCUMFLEX"]),
   (0xE3, ["LATIN SMALL LETTER A WITH TILDE"]), (0xE4, ["LATIN SMALL LETTER A WITH DIAERESIS"]),
   (0xE5, ["LATIN SMALL LETTER A WITH RING ABOVE"]), (0xE6, ["LATIN SMALL LETTER AE"]),
   (0xE7, ["LATIN SMALL LETTER C WITH CEDILLA"]), (0xE8, ["LATIN SMALL LETTER E WITH GRAVE"]),
   (0xE9, ["LATIN SMALL LETTER E WITH ACUTE"]), (0xEA, ["LATIN SMALL LETTER E WITH CIRCUMFLEX"]),
   (0xEB, ["LATIN SMALL LETTER E WITH DIAERESIS"]), (0xEC, ["LATIN SMALL LETTER I WITH GRAVE"]),
   (0xED, ["LATIN SMALL LETTER I WITH ACUTE"]), (0xEE, ["LATIN SMALL LETTER I WITH CIRCUMFLEX"]),
   (0xEF, ["LATIN SMALL LETTER I WITH DIAERESIS"]), (0xF0, ["LATIN SMALL LETTER ETH"]),
   (0xF1, ["LATIN SMALL LETTER N WITH TILDE"]), (0xF2, ["LATIN SMALL LETTER O WITH GRAVE"]),
   (0xF3, ["LATIN SMALL LETTER O WITH ACUTE"]), (0xF4, ["LATIN SMALL LETTER O WITH CIRCUMFLEX"]),
   (0xF5, ["LATIN SMALL LETTER O WITH TILDE"]), (0xF6, ["LATIN SMALL LETTER O WITH DIAERESIS"]),
   (0xF7, ["DIVISION SIGN"]), (0xF8, ["LATIN SMALL LETTER O WITH STROKE"]),
   (0xF9, ["LATIN SMALL LETTER U WITH GRAVE"]), (0xFA, ["LATIN SMALL LETTER U WITH ACUTE"]),
   (0xFB, ["LATIN SMALL LETTER U WITH CIRCUMFLEX"]),
   (0xFC, ["LATIN SMALL LETTER U WITH DIAERESIS"]), (0xFD, ["LATIN SMALL LETTER Y WITH ACUTE"]),
   (0xFE, ["LATIN SMALL LETTER THORN"]), (0xFF, ["LATIN SMALL LETTER Y WITH DIAERESIS"]),
   (0x2000, ["EN QUAD"]), (0x2001, ["EM QUAD"]), (0x2002, ["EN SPACE"]), (0x2003, ["EM SPACE"]),
   (0x2004, ["THREE-PER-EM SPACE"]), (0x2005, ["FOUR-PER-EM SPACE"]),
   (0x2006, ["SIX-PER-EM SPACE"]), (0x2007, ["FIGURE SPACE"]), (0x2008, ["PUNCTUATION SPACE"]),
   (0x2009, ["THIN SPACE"]), (0x200A, ["HAIR SPACE"]), (0x200B, ["ZERO WIDTH SPACE", "ZWSP"]),
   (0x200C, ["ZERO WIDTH NON-JOINER", "ZWNJ"]), (0x200D, ["ZERO WIDTH JOINER", "ZWJ"]),
   (0x200E, ["LEFT-TO-RIGHT MARK", "LRM"]), (0x200F, ["RIGHT-TO-LEFT MARK", "RLM"]),
   (0x2010, ["HYPHEN"]), (0x2011, ["NON-BREAKING HYPHEN"]), (0x2012, ["FIGURE DASH"]),
   (0x2013, ["EN DASH"]), (0x2014, ["EM DASH"]), (0x2015, ["HORIZONTAL BAR"]),
   (0x2016, ["DOUBLE VERTICAL LINE"]), (0x2017, ["DOUBLE LOW LINE"]),
   (0x2018, ["LEFT SINGLE QUOTATION MARK"]), (0x2019, ["RIGHT SINGLE QUOTATION MARK"]),
   (0x201A, ["SINGLE LOW-9 QUOTATION MARK"]), (0x201B, ["SINGLE HIGH-REVERSED-9 QUOTATION MARK"]),
   (0x201C, ["LEFT DOUBLE QUOTATION MARK"]), (0x201D, ["RIGHT DOUBLE QUOTATION MARK"]),
   (0x201E, ["DOUBLE LOW-9 QUOTATION MARK"]), (0x201F, ["DOUBLE HIGH-REVERSED-9 QUOTATION MARK"]),
   (0x2020, ["DAGGER"]), (0x2021, ["DOUBLE DAGGER"]), (0x2022, ["BULLET"]),
   (0x2023, ["TRIANGULAR BULLET"]), (0x2024, ["ONE DOT LEADER"]), (0x2025, ["TWO DOT LEADER"]),
   (0x2026, ["HORIZONTAL ELLIPSIS"]), (0x2027, ["HYPHENATION POINT"]),
   (0x2028, ["LINE SEPARATOR"]), (0x2029, ["PARAGRAPH SEPARATOR"]),
   (0x202A, ["LEFT-TO-RIGHT EMBEDDING", "LRE"]), (0x202B, ["RIGHT-TO-LEFT EMBEDDING", "RLE"]),
   (0x202C, ["POP DIRECTIONAL FORMATTING", "PDF"]), (0x202D, ["LEFT-TO-RIGHT OVERRIDE", "LRO"]),
   (0x202E, ["RIGHT-TO-LEFT OVERRIDE", "RLO"]), (0x202F, ["NARROW NO-BREAK SPACE", "NNBSP"]),
   (0x2030, ["PER MILLE SIGN"]), (0x2031, ["PER TEN THOUSAND SIGN"]), (0x2032, ["PRIME"]),
   (0x2033, ["DOUBLE PRIME"]), (0x2034, ["TRIPLE PRIME"]), (0x2035, ["REVERSED PRIME"]),
   (0x2036, ["REVERSED DOUBLE PRIME"]), (0x2037, ["REVERSED TRIPLE PRIME"]), (0x2038, ["CARET"]),
   (0x2039, ["SINGLE LEFT-POINTING ANGLE QUOTATION MARK"]),
   (0x203A, ["SINGLE RIGHT-POINTING ANGLE QUOTATION MARK"]), (0x203B, ["REFERENCE MARK"]),
   (0x203C, ["DOUBLE EXCLAMATION MARK"]), (0x203D, ["INTERROBANG"]), (0x203E, ["OVERLINE"]),
   (0x203F, ["UNDERTIE"]), (0x2040, ["CHARACTER TIE"]), (0x2041, ["CARET INSERTION POINT"]),
   (0x2042, ["ASTERISM"]), (0x2043, ["HYPHEN BULLET"]), (0x2044, ["FRACTION SLASH"]),
   (0x2045, ["LEFT SQUARE BRACKET WITH QUILL"]), (0x2046, ["RIGHT SQUARE BRACKET WITH QUILL"]),
   (0x2047, ["DOUBLE QUESTION MARK"]), (0x2048, ["QUESTION EXCLAMATION MARK"]),
   (0x2049, ["EXCLAMATION QUESTION MARK"]), (0x204A, ["TIRONIAN SIGN ET"]),
   (0x204B, ["REVERSED PILCROW SIGN"]), (0x204C, ["BLACK LEFTWARDS BULLET"]),
   (0x204D, ["BLACK RIGHTWARDS BULLET"]), (0x204E, ["LOW ASTERISK"]),
   (0x204F, ["REVERSED SEMICOLON"]), (0x2050, ["CLOSE UP"]),
   (0x2051, ["TWO ASTERISKS ALIGNED VERTICALLY"]), (0x2052, ["COMMERCIAL MINUS SIGN"]),
   (0x2053, ["SWUNG DASH"]), (0x2054, ["INVERTED UNDERTIE"]),
   (0x2055, ["FLOWER PUNCTUATION MARK"]), (0x2056, ["THREE DOT PUNCTUATION"]),
   (0x2057, ["QUADRUPLE PRIME"]), (0x2058, ["FOUR DOT PUNCTUATION"]),
   (0x2059, ["FIVE DOT PUNCTUATION"]), (0x205A, ["TWO DOT PUNCTUATION"]),
   (0x205B, ["FOUR DOT MARK"]), (0x205C, ["DOTTED CROSS"]), (0x205D, ["TRICOLON"]),
   (0x205E, ["VERTICAL FOUR DOTS"]), (0x205F, ["MEDIUM MATHEMATICAL SPACE", "MMSP"]),
   (0x2060, ["WORD JOINER", "WJ"]), (0x2061, ["FUNCTION APPLICATION"]),
   (0x2062, ["INVISIBLE TIMES"]), (0x2063, ["INVISIBLE SEPARATOR"]), (0x2064, ["INVISIBLE PLUS"]),
   (0x2066, ["LEFT-TO-RIGHT ISOLATE", "LRI"]), (0x2067, ["RIGHT-TO-LEFT ISOLATE", "RLI"]),
   (0x2068, ["FIRST STRONG ISOLATE", "FSI"]), (0x2069, ["POP DIRECTIONAL ISOLATE", "PDI"]),
   (0x206A, ["INHIBIT SYMMETRIC SWAPPING"]), (0x206B, ["ACTIVATE SYMMETRIC SWAPPING"]),
   (0x206C, ["INHIBIT ARABIC FORM SHAPING"]), (0x206D, ["ACTIVATE ARABIC FORM SHAPING"]),
   (0x206E, ["NATIONAL DIGIT SHAPES"]), (0x206F, ["NOMINAL DIGIT SHAPES"])]

/-- The code point of a name. Small and capital letters count as the same. -/
def codeOfName? (name : List Char) : Option Nat :=
  let capitals := String.ofList (name.map Char.toUpper)
  (characterNames.find? fun entry => entry.2.contains capitals).map Prod.fst

end TagAudit.Text
