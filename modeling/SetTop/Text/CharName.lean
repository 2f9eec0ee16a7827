import SetTop.Text.Basic
import SetTop.Text.Case

/-!
Characters by name.

The names are those of the letters and signs of the western alphabets, of punctuation,
arrows and some symbols, and of a few characters that cannot be seen.
-/

namespace SetTop.Text

def nameWords : List (Char × String) := [
  ('a', " CAPITAL LETTER "), ('b', " WITH "), ('c', " ARROW"), ('d', "LATIN"), ('e', "WARDS"),
  ('f', "CYRILLIC"), ('g', "GREEK"), ('h', " SIGN"), ('i', "RIGHT"), ('j', "TION MARK"),
  ('k', "DOUBLE"), ('l', "LEFT"), ('m', " SMALL LETTER "), ('n', " SYMBOL"), ('o', "WHITE"),
  ('p', "CIRCUMFLEX"), ('q', "STROKE"), ('r', "BLACK "), ('s', "REVERSED"), ('t', " LUNATE SIGMA"),
  ('u', " HARPOON"), ('v', "TRIGRAM FOR "), ('w', "VERTICAL "), ('x', "POINTING "), ('y', "DOWN"),
  ('z', "ACUTE")]

def nameRows : List (Nat × List String) := [
  (32, [
    "SPACE;EXCLAMAj;QUOTAj;NUMBERh;DOLLARh;PERCENTh;AMPERSAND;APOSTROPHE;l PARENTHESIS;",
    "i PARENTHESIS;ASTERISK;PLUSh;COMMA;HYPHEN-MINUS;FULL STOP;SOLIDUS;DIGIT ZERO;DIGIT ONE;",
    "DIGIT TWO;DIGIT THREE;DIGIT FOUR;DIGIT FIVE;DIGIT SIX;DIGIT SEVEN;DIGIT EIGHT;DIGIT NINE;",
    "COLON;SEMICOLON;LESS-THANh;EQUALSh;GREATER-THANh;QUESj;COMMERCIAL AT;daA;daB;daC;daD;daE;daF;",
    "daG;daH;daI;daJ;daK;daL;daM;daN;daO;daP;daQ;daR;daS;daT;daU;daV;daW;daX;daY;daZ;",
    "l SQUARE BRACKET;REVERSE SOLIDUS;i SQUARE BRACKET;p ACCENT;LOW LINE;GRAVE ACCENT;;;;;;;;;;;;;;",
    ";;;;;;;;;;;;;l CURLY BRACKET;wLINE;i CURLY BRACKET;TILDE"]),
  (160, [
    "NO-BREAK SPACE;INVERTED EXCLAMAj;CENTh;POUNDh;CURRENCYh;YENh;BROKEN BAR;SECTIONh;DIAERESIS;",
    "COPYih;FEMININE ORDINAL INDICATOR;l-xk ANGLE QUOTAj;NOTh;SOFT HYPHEN;REGISTEREDh;MACRON;",
    "DEGREEh;PLUS-MINUSh;SUPERSCRIPT TWO;SUPERSCRIPT THREE;z ACCENT;MICROh;PILCROWh;MIDDLE DOT;",
    "CEDILLA;SUPERSCRIPT ONE;MASCULINE ORDINAL INDICATOR;i-xk ANGLE QUOTAj;",
    "VULGAR FRACTION ONE QUARTER;VULGAR FRACTION ONE HALF;VULGAR FRACTION THREE QUARTERS;",
    "INVERTED QUESj;daAbGRAVE;daAbz;daAbp;daAbTILDE;daAbDIAERESIS;daAbRING ABOVE;daAE;daCbCEDILLA;",
    "daEbGRAVE;daEbz;daEbp;daEbDIAERESIS;daIbGRAVE;daIbz;daIbp;daIbDIAERESIS;daETH;daNbTILDE;",
    "daObGRAVE;daObz;daObp;daObTILDE;daObDIAERESIS;MULTIPLICATIONh;daObq;daUbGRAVE;daUbz;daUbp;",
    "daUbDIAERESIS;daYbz;daTHORN;dmSHARP S;;;;;;;;;;;;;;;;;;;;;;;;DIVISIONh;;;;;;;;;daAbMACRON;;",
    "daAbBREVE;;daAbOGONEK;;daCbz;;daCbp;;daCbDOT ABOVE;;daCbCARON;;daDbCARON;;daDbq;;daEbMACRON;;",
    "daEbBREVE;;daEbDOT ABOVE;;daEbOGONEK;;daEbCARON;;daGbp;;daGbBREVE;;daGbDOT ABOVE;;daGbCEDILLA;",
    ";daHbp;;daHbq;;daIbTILDE;;daIbMACRON;;daIbBREVE;;daIbOGONEK;;daIbDOT ABOVE;dmDOTLESS I;",
    "d CAPITAL LIGATURE IJ;d SMALL LIGATURE IJ;daJbp;;daKbCEDILLA;;dmKRA;daLbz;;daLbCEDILLA;;",
    "daLbCARON;;daLbMIDDLE DOT;;daLbq;;daNbz;;daNbCEDILLA;;daNbCARON;;dmN PRECEDED BY APOSTROPHE;",
    "daENG;;daObMACRON;;daObBREVE;;daObk z;;d CAPITAL LIGATURE OE;d SMALL LIGATURE OE;daRbz;;",
    "daRbCEDILLA;;daRbCARON;;daSbz;;daSbp;;daSbCEDILLA;;daSbCARON;;daTbCEDILLA;;daTbCARON;;daTbq;;",
    "daUbTILDE;;daUbMACRON;;daUbBREVE;;daUbRING ABOVE;;daUbk z;;daUbOGONEK;;daWbp;;daYbp;;",
    "daYbDIAERESIS;daZbz;;daZbDOT ABOVE;;daZbCARON;;dmLONG S"]),
  (880, [
    "gaHETA;;gaARCHAIC SAMPI;;g NUMERALh;g LOWER NUMERALh;gaPAMPHYLIAN DIGAMMA;"]),
  (890, [
    "g YPOGEGRAMMENI;g SMALL stn;g SMALL DOTTEDtn;g SMALL s DOTTEDtn;g QUESj;"]),
  (900, [
    "g TONOS;g DIALYTIKA TONOS;gaALPHAbTONOS;g ANO TELEIA;gaEPSILONbTONOS;gaETAbTONOS;gaIOTAbTONOS"]),
  (908, [
    "gaOMICRONbTONOS"]),
  (910, [
    "gaUPSILONbTONOS;gaOMEGAbTONOS;gmIOTAbDIALYTIKA AND TONOS;gaALPHA;gaBETA;gaGAMMA;gaDELTA;",
    "gaEPSILON;gaZETA;gaETA;gaTHETA;gaIOTA;gaKAPPA;gaLAMDA;gaMU;gaNU;gaXI;gaOMICRON;gaPI;gaRHO"]),
  (931, [
    "gaSIGMA;gaTAU;gaUPSILON;gaPHI;gaCHI;gaPSI;gaOMEGA;gaIOTAbDIALYTIKA;gaUPSILONbDIALYTIKA;;;;;",
    "gmUPSILONbDIALYTIKA AND TONOS;;;;;;;;;;;;;;;;;;gmFINAL SIGMA;;;;;;;;;;;;;g CAPITAL KAIn;",
    "g BETAn;g THETAn;g UPSILONbHOOKn;g UPSILONbz AND HOOKn;g UPSILONbDIAERESIS AND HOOKn;g PHIn;",
    "g PIn;g KAIn;g LETTER ARCHAIC KOPPA;gmARCHAIC KOPPA;g LETTER STIGMA;gmSTIGMA;g LETTER DIGAMMA;",
    "gmDIGAMMA;g LETTER KOPPA;gmKOPPA;g LETTER SAMPI;gmSAMPI;COPTICaSHEI;;COPTICaFEI;;COPTICaKHEI;;",
    "COPTICaHORI;;COPTICaGANGIA;;COPTICaSHIMA;;COPTICaDEI;;g KAPPAn;g RHOn;gtn;g LETTER YOT;",
    "g CAPITAL THETAn;g LUNATE EPSILONn;g s LUNATE EPSILONn;gaSHO;;g CAPITALtn;gaSAN;;g RHObqn;",
    "g CAPITAL stn;g CAPITAL DOTTEDtn;g CAPITAL s DOTTEDtn"]),
  (1024, [
    "faIEbGRAVE;faIO;faDJE;faGJE;faUKRAINIAN IE;faDZE;faBYELORUSSIAN-UKRAINIAN I;faYI;faJE;faLJE;",
    "faNJE;faTSHE;faKJE;faIbGRAVE;faSHORT U;faDZHE;faA;faBE;faVE;faGHE;faDE;faIE;faZHE;faZE;faI;",
    "faSHORT I;faKA;faEL;faEM;faEN;faO;faPE;faER;faES;faTE;faU;faEF;faHA;faTSE;faCHE;faSHA;faSHCHA;",
    "faHARDh;faYERU;faSOFTh;faE;faYU;faYA;;;;;;;;;;;;;;;;;;;;;;;;;;;;;;;;;;;;;;;;;;;;;;;;"]),
  (8208, [
    "HYPHEN;NON-BREAKING HYPHEN;FIGURE DASH;EN DASH;EM DASH;HORIZONTAL BAR;k wLINE;k LOW LINE;",
    "l SINGLE QUOTAj;i SINGLE QUOTAj;SINGLE LOW-9 QUOTAj;SINGLE HIGH-s-9 QUOTAj;l k QUOTAj;",
    "i k QUOTAj;k LOW-9 QUOTAj;k HIGH-s-9 QUOTAj;DAGGER;k DAGGER;BULLET;TRIANGULAR BULLET;",
    "ONE DOT LEADER;TWO DOT LEADER;HORIZONTAL ELLIPSIS;HYPHENATION POINT;LINE SEPARATOR;",
    "PARAGRAPH SEPARATOR;l-TO-i EMBEDDING;i-TO-l EMBEDDING;POP DIRECTIONAL FORMATTING;",
    "l-TO-i OVERRIDE;i-TO-l OVERRIDE;NARROW NO-BREAK SPACE;PER MILLEh;PER TEN THOUSANDh;PRIME;",
    "k PRIME;TRIPLE PRIME;s PRIME;s k PRIME;s TRIPLE PRIME;CARET;SINGLE l-xANGLE QUOTAj;",
    "SINGLE i-xANGLE QUOTAj;REFERENCE MARK;k EXCLAMAj;INTERROBANG;OVERLINE;UNDERTIE;CHARACTER TIE;",
    "CARET INSERTION POINT;ASTERISM;HYPHEN BULLET;FRACTION SLASH;l SQUARE BRACKETbQUILL;",
    "i SQUARE BRACKETbQUILL;k QUESj;QUESTION EXCLAMAj;EXCLAMATION QUESj;TIRONIANh ET;s PILCROWh;",
    "rle BULLET;rie BULLET;LOW ASTERISK;s SEMICOLON;CLOSE UP;TWO ASTERISKS ALIGNED VERTICALLY;",
    "COMMERCIAL MINUSh;SWUNG DASH;INVERTED UNDERTIE;FLOWER PUNCTUAj;THREE DOT PUNCTUATION;",
    "QUADRUPLE PRIME;FOUR DOT PUNCTUATION;FIVE DOT PUNCTUATION;TWO DOT PUNCTUATION;FOUR DOT MARK;",
    "DOTTED CROSS;TRICOLON;wFOUR DOTS"]),
  (8352, [
    "EURO-CURRENCYh;COLONh;CRUZEIROh;FRENCH FRANCh;LIRAh;MILLh;NAIRAh;PESETAh;RUPEEh;WONh;",
    "NEW SHEQELh;DONGh;EUROh;KIPh;TUGRIKh;DRACHMAh;GERMAN PENNYh;PESOh;GUARANIh;AUSTRALh;HRYVNIAh;",
    "CEDIh;LIVRE TOURNOISh;SPESMILOh;TENGEh;INDIAN RUPEEh;TURKISH LIRAh;NORDIC MARKh;MANATh;RUBLEh;",
    "LARIh;BITCOINh;SOMh"]),
  (8592, [
    "lec;UPec;iec;yec;l ic;UP yc;NORTH WESTc;NORTH EASTc;SOUTH EASTc;SOUTH WESTc;lecbq;iecbq;",
    "le WAVEc;ie WAVEc;le TWO HEADEDc;UPe TWO HEADEDc;ie TWO HEADEDc;ye TWO HEADEDc;lecbTAIL;",
    "iecbTAIL;lec FROM BAR;UPec FROM BAR;iec FROM BAR;yec FROM BAR;UP ycbBASE;lecbHOOK;iecbHOOK;",
    "lecbLOOP;iecbLOOP;l i WAVEc;l icbq;ye ZIGZAGc;UPecbTIP le;UPecbTIP ie;yecbTIP le;yecbTIP ie;",
    "iecbCORNER ye;yecbCORNER le;ANTICLOCKWISE TOP SEMICIRCLEc;CLOCKWISE TOP SEMICIRCLEc;",
    "NORTH WESTc TO LONG BAR;lec TO BAR OVER iec TO BAR;ANTICLOCKWISE OPEN CIRCLEc;",
    "CLOCKWISE OPEN CIRCLEc;leubBARB UPe;leubBARB ye;UPeubBARB ie;UPeubBARB le;ieubBARB UPe;",
    "ieubBARB ye;yeubBARB ie;yeubBARB le;iec OVER lec;UPec le OF yec;lec OVER iec;le PAIREDcS;",
    "UPe PAIREDcS;ie PAIREDcS;ye PAIREDcS;leu OVER ieu;ieu OVER leu;le kcbq;l i kcbq;ie kcbq;le kc;",
    "UPe kc;ie kc;ye kc;l i kc;UP y kc;NORTH WEST kc;NORTH EAST kc;SOUTH EAST kc;SOUTH WEST kc;",
    "le TRIPLEc;ie TRIPLEc;le SQUIGGLEc;ie SQUIGGLEc;UPecbk q;yecbk q;le DASHEDc;UPe DASHEDc;",
    "ie DASHEDc;ye DASHEDc;lec TO BAR;iec TO BAR;le oc;UPe oc;ie oc;ye oc;UPe oc FROM BAR;",
    "UPe oc ON PEDESTAL;UPe oc ON PEDESTALbHORIZONTAL BAR;UPe oc ON PEDESTALbwBAR;UPe o kc;",
    "UPe o kc ON PEDESTAL;ie oc FROM WALL;NORTH WESTc TO CORNER;SOUTH EASTc TO CORNER;UP y oc;",
    "icbSMALL CIRCLE;yec le OF UPec;THREE iecS;lecbwq;iecbwq;l icbwq;lecbk wq;iecbk wq;l icbk wq;",
    "le OPEN-HEADEDc;ie OPEN-HEADEDc;l i OPEN-HEADEDc"]),
  (9728, [
    "rSUNbRAYS;CLOUD;UMBRELLA;SNOWMAN;COMET;rSTAR;o STAR;LIGHTNING;THUNDERSTORM;SUN;ASCENDING NODE;",
    "DESCENDING NODE;CONJUNCTION;OPPOSITION;rTELEPHONE;o TELEPHONE;BALLOT BOX;BALLOT BOXbCHECK;",
    "BALLOT BOXbX;SALTIRE;UMBRELLAbRAIN DROPS;HOT BEVERAGE;o SHOGI PIECE;rSHOGI PIECE;SHAMROCK;",
    "s ROTATED FLORAL HEART BULLET;rl xINDEX;ri xINDEX;o l xINDEX;o UP xINDEX;o i xINDEX;",
    "o y xINDEX;SKULL AND CROSSBONES;CAUTIONh;RADIOACTIVEh;BIOHAZARDh;CADUCEUS;ANKH;ORTHODOX CROSS;",
    "CHI RHO;CROSS OF LORRAINE;CROSS OF JERUSALEM;STAR AND CRESCENT;FARSIn;ADI SHAKTI;",
    "HAMMER AND SICKLE;PEACEn;YIN YANG;vHEAVEN;vLAKE;vFIRE;vTHUNDER;vWIND;vWATER;vMOUNTAIN;vEARTH;",
    "WHEEL OF DHARMA;o FROWNING FACE;o SMILING FACE;rSMILING FACE;o SUNbRAYS;FIRST QUARTER MOON;",
    "LAST QUARTER MOON;MERCURY;FEMALEh;EARTH;MALEh;JUPITER;SATURN;URANUS;NEPTUNE;PLUTO;ARIES;",
    "TAURUS;GEMINI;CANCER;LEO;VIRGO;LIBRA;SCORPIUS;SAGITTARIUS;CAPRICORN;AQUARIUS;PISCES;",
    "o CHESS KING;o CHESS QUEEN;o CHESS ROOK;o CHESS BISHOP;o CHESS KNIGHT;o CHESS PAWN;",
    "rCHESS KING;rCHESS QUEEN;rCHESS ROOK;rCHESS BISHOP;rCHESS KNIGHT;rCHESS PAWN;rSPADE SUIT;",
    "o HEART SUIT;o DIAMOND SUIT;rCLUB SUIT;o SPADE SUIT;rHEART SUIT;rDIAMOND SUIT;o CLUB SUIT;",
    "HOT SPRINGS;QUARTER NOTE;EIGHTH NOTE;BEAMED EIGHTH NOTES;BEAMED SIXTEENTH NOTES;MUSIC FLATh;",
    "MUSIC NATURALh;MUSIC SHARPh"])]

def otherNames : List (String × Nat) := [
    ("ANGSTROM SIGN", 8491), ("BACKSPACE", 8), ("BELL", 128276), ("BYTE ORDER MARK", 65279),
    ("CARRIAGE RETURN", 13), ("CHARACTER TABULATION", 9), ("COMBINING ACUTE ACCENT", 769),
    ("COMBINING DOT ABOVE", 775), ("DELETE", 127), ("EM SPACE", 8195), ("EN SPACE", 8194),
    ("END OF LINE", 10), ("ESCAPE", 27), ("FORM FEED", 12), ("GREEK CAPITAL LETTER YOT", 895),
    ("GRINNING FACE", 128512), ("HAIR SPACE", 8202), ("HORIZONTAL TABULATION", 9),
    ("IDEOGRAPHIC SPACE", 12288),
    ("INFINITY", 8734), ("KELVIN SIGN", 8490), ("LATIN SMALL LIGATURE FI", 64257),
    ("LEFT-TO-RIGHT MARK", 8206), ("LINE FEED", 10), ("LINE TABULATION", 11), ("NEW LINE", 10),
    ("NO-BREAK SPACE", 160), ("NULL", 0), ("OHM SIGN", 8486), ("REPLACEMENT CHARACTER", 65533),
    ("RIGHT-TO-LEFT MARK", 8207), ("TAB", 9), ("THIN SPACE", 8201), ("TRADE MARK SIGN", 8482),
    ("VERTICAL TABULATION", 11), ("ZERO WIDTH JOINER", 8205), ("ZERO WIDTH NO-BREAK SPACE", 65279),
    ("ZERO WIDTH NON-JOINER", 8204), ("ZERO WIDTH SPACE", 8203)]

def spellOut (s : String) : String :=
  String.ofList (s.toList.flatMap fun c => ((nameWords.lookup c).map String.toList).getD [c])

def codeNamed? (name : String) : Option Nat :=
  if name.isEmpty then none
  else nameRows.findSome? fun (first, rows) =>
    ((splitAtCharacter ';' (spellOut (String.join rows))).findIdx? (· == name)).map (first + ·)

def characterNamed? (name : List Char) : Option Char :=
  let name := String.ofList (name.map Char.toUpper)
  match (otherNames.lookup name).or (codeNamed? name) with
  | some n => some (Char.ofNat n)
  | none => do
    let capital ← codeNamed? (replaceText name " SMALL LETTER " " CAPITAL LETTER ")
    let small := lowerChar (Char.ofNat capital)
    if small.toNat = capital then none else some small

end SetTop.Text
