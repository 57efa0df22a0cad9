/-! The names of the ASCII characters in Unicode 14, with the further names that control characters
have. -/
namespace PasteRules.Unicode

def controlNames : List (List String) := [
  ["NULL", "NUL"], ["START OF HEADING", "SOH"], ["START OF TEXT", "STX"], ["END OF TEXT", "ETX"],
  ["END OF TRANSMISSION", "EOT"], ["ENQUIRY", "ENQ"], ["ACKNOWLEDGE", "ACK"], ["ALERT", "BEL"],
  ["BACKSPACE", "BS"], ["CHARACTER TABULATION", "HORIZONTAL TABULATION", "HT", "TAB"],
  ["LINE FEED", "NEW LINE", "END OF LINE", "LF", "NL", "EOL"],
  ["LINE TABULATION", "VERTICAL TABULATION", "VT"], ["FORM FEED", "FF"],
  ["CARRIAGE RETURN", "CR"], ["SHIFT OUT", "LOCKING-SHIFT ONE", "SO"],
  ["SHIFT IN", "LOCKING-SHIFT ZERO", "SI"], ["DATA LINK ESCAPE", "DLE"],
  ["DEVICE CONTROL ONE", "DC1"], ["DEVICE CONTROL TWO", "DC2"], ["DEVICE CONTROL THREE", "DC3"],
  ["DEVICE CONTROL FOUR", "DC4"], ["NEGATIVE ACKNOWLEDGE", "NAK"], ["SYNCHRONOUS IDLE", "SYN"],
  ["END OF TRANSMISSION BLOCK", "ETB"], ["CANCEL", "CAN"], ["END OF MEDIUM", "EOM"],
  ["SUBSTITUTE", "SUB"], ["ESCAPE", "ESC"], ["INFORMATION SEPARATOR FOUR", "FILE SEPARATOR", "FS"],
  ["INFORMATION SEPARATOR THREE", "GROUP SEPARATOR", "GS"],
  ["INFORMATION SEPARATOR TWO", "RECORD SEPARATOR", "RS"],
  ["INFORMATION SEPARATOR ONE", "UNIT SEPARATOR", "US"]]

def digitNames : List String :=
  ["ZERO", "ONE", "TWO", "THREE", "FOUR", "FIVE", "SIX", "SEVEN", "EIGHT", "NINE"].map
    ("DIGIT " ++ ·)

def letterNames (case : String) : List String :=
  (List.range 26).map fun i =>
    "LATIN " ++ case ++ " LETTER " ++ String.singleton (Char.ofNat ('A'.toNat + i))

/-- The names of each ASCII character, in order of code point. -/
def asciiNames : List (List String) :=
  let printable : List String :=
    ["EXCLAMATION MARK", "QUOTATION MARK", "NUMBER SIGN", "DOLLAR SIGN", "PERCENT SIGN",
      "AMPERSAND", "APOSTROPHE", "LEFT PARENTHESIS", "RIGHT PARENTHESIS", "ASTERISK", "PLUS SIGN",
      "COMMA", "HYPHEN-MINUS", "FULL STOP", "SOLIDUS"] ++ digitNames ++
    ["COLON", "SEMICOLON", "LESS-THAN SIGN", "EQUALS SIGN", "GREATER-THAN SIGN", "QUESTION MARK",
      "COMMERCIAL AT"] ++ letterNames "CAPITAL" ++
    ["LEFT SQUARE BRACKET", "REVERSE SOLIDUS", "RIGHT SQUARE BRACKET", "CIRCUMFLEX ACCENT",
      "LOW LINE", "GRAVE ACCENT"] ++ letterNames "SMALL" ++
    ["LEFT CURLY BRACKET", "VERTICAL LINE", "RIGHT CURLY BRACKET", "TILDE"]
  controlNames ++ [["SPACE", "SP"]] ++ printable.map (fun name => [name]) ++ [["DELETE", "DEL"]]

/-- The ASCII character that has a name, in letters of either case. -/
def asciiNamed? (name : String) : Option Nat :=
  let name := String.ofList (name.toList.map Char.toUpper)
  asciiNames.findIdx? (·.contains name)

end PasteRules.Unicode
