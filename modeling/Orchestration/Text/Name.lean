import Orchestration.Text.Ranges

/-!
Characters by their names.

Each table gives the names of a block of characters in order, set apart by semicolons; a code
without a name has an empty place. Names are in capital letters, and words that many of them share
are written as one small letter, or as a Greek letter, a letter with an accent or a sign. Syllables
and ideographs are named by a rule.
-/

namespace Orchestration.Text

namespace Name

def shared : List (Char × String) :=
  [('a', "LATIN CAPITAL LETTER "), ('b', "LATIN SMALL LETTER "), ('c', "WITH "), ('d', "BOX DRAWINGS "),
   ('e', "LETTER "), ('f', "CYRILLIC "), ('g', "RIGHTWARDS ARROW"), ('h', "WHITE "), ('i', "DOUBLE"),
   ('j', "ROMAN NUMERAL "), ('k', "RIGHT"), ('l', "HEAVY "), ('m', "DINGBAT NEGATIVE CIRCLED "), ('n', "BLACK"),
   ('o', "VERTICAL"), ('p', "AND "), ('q', "ARROW"), ('r', "LEFT "), ('s', "SIGN"), ('t', "POINTING "),
   ('u', "EQUAL TO"), ('v', "SANS-SERIF DIGIT "), ('w', "VULGAR FRACTION "), ('x', "CAPITAL "), ('y', "STROKE"),
   ('z', "SYMBOL"), ('+', "QUOTATION MARK"), ('*', "CIRCUMFLEX"), ('~', "SMALL "), ('.', "HANGZHOU NUMERAL "),
   ('!', "TRIANGLE"), ('?', "ORNAMENT"), ('%', "LEFTWARDS"), ('&', "CARON"), ('<', "EQUIVALENT TO"),
   ('>', "HORIZONTAL"), ('@', "ACUTE"), ('^', "SQUARE"), ('$', "FACE"), ('0', "DIAERESIS"), ('8', "GREEK "),
   ('=', "REVERSED"), ('|', "BRACKET"), ('_', "DOWN "), (':', "LIGHT"), (',', "LOWER "), ('/', "GREATER-THAN"),
   ('(', "UPPER "), (')', "CIRCLE"), ('[', "QUADRANT"), (']', "DOWNWARDS"), ('α', "INVERTED BREVE"),
   ('β', "IDEOGRAPHIC "), ('γ', "LESS-THAN"), ('δ', "UPWARDS "), ('ε', "DOT ABOVE"), ('ζ', "MACRON"),
   ('η', "ASTERISK"), ('θ', "SINGLE"), ('ι', "SMILING "), ('κ', "EXCLAMATION MARK"), ('λ', "-STRUCK "),
   ('μ', "NORMAL SUBGROUP"), ('ν', "GRAVE"), ('ξ', "CEDILLA"), ('ο', "DIGIT "), ('π', "MEDIUM "), ('ρ', "SHADOWED "),
   ('σ', "TEARDROP-SPOKED "), ('τ', "MARK"), ('υ', "TURNED "), ('φ', "ELEMENT OF"), ('χ', "NOT "),
   ('ψ', "LUNATE SIGMA "), ('ω', "RECYCLING "), ('Γ', "LEFT"), ('Δ', "TRIGRAM FOR "), ('Θ', "THREE"),
   ('Λ', "COPTIC "), ('Ξ', "TORTOISE SHELL "), ('Π', "DIAGONAL "), ('Σ', "LATIN "), ('Φ', "WARDS "), ('Ψ', "SCRIPT "),
   ('Ω', "OPERATOR"), ('à', "HEAVY"), ('á', "HALF "), ('â', "POINTED "), ('ã', "TILDE"), ('ä', "ANGLE "),
   ('å', "CONTAINS "), ('ç', "OPEN MOUTH"), ('è', "HEADED "), ('é', "HARPOON"), ('ê', "EIGHTHS BLOCK"), ('ë', "HOOK"),
   ('ì', "CROSS"), ('í', "DINGBAT "), ('î', "TONOS"), ('ï', "UP "), ('ñ', "UPSILON"), ('ò', "TRIPLE "),
   ('ó', "OPEN CENTRE "), ('ô', "QUESTION "), ('õ', "OUTLINED "), ('ö', "INTEGRAL"), ('ù', "APPROXIMATELY "),
   ('ú', "NEITHER "), ('û', "SEMIDIRECT PRODUCT")]

def written (names : String) : List Char :=
  names.toList.flatMap fun c => ((shared.lookup c).map String.toList).getD [c]

def basic : String :=
  "SPACE;κ;+;NUMBER s;DOLLAR s;PERCENT s;AMPERSAND;APOSTROPHE;rPARENTHESIS;k PARENTHESIS;η;PLUS s;COMMA;HYPHEN-MINUS;" ++
  "FULL STOP;SOLIDUS;οZERO;οONE;οTWO;οΘ;οFOUR;οFIVE;οSIX;οSEVEN;οEIGHT;οNINE;COLON;SEMICOLON;γ s;EQUALS s;/ s;ôτ;" ++
  "COMMERCIAL AT;aA;aB;aC;aD;aE;aF;aG;aH;aI;aJ;aK;aL;aM;aN;aO;aP;aQ;aR;aS;aT;aU;aV;aW;aX;aY;aZ;r^ |;REVERSE SOLIDUS;" ++
  "k ^ |;* ACCENT;LOW LINE;ν ACCENT;bA;bB;bC;bD;bE;bF;bG;bH;bI;bJ;bK;bL;bM;bN;bO;bP;bQ;bR;bS;bT;bU;bV;bW;bX;bY;bZ;" ++
  "rCURLY |;o LINE;k CURLY |;ã"

def supplement : String :=
  "NO-BREAK SPACE;INVERTED κ;CENT s;POUND s;CURRENCY s;YEN s;BROKEN BAR;SECTION s;0;COPYk s;" ++
  "FEMININE ORDINAL INDICATOR;Γ-ti ä+;χs;SOFT HYPHEN;REGISTERED s;ζ;DEGREE s;PLUS-MINUS s;SUPERΨTWO;SUPERΨΘ;@ ACCENT;" ++
  "MICRO s;PILCROW s;MIDDLE DOT;ξ;SUPERΨONE;MASCULINE ORDINAL INDICATOR;k-ti ä+;wONE QUARTER;wONE HALF;wΘ QUARTERS;" ++
  "INVERTED ôτ;aA cν;aA c@;aA c*;aA cã;aA c0;aA cRING ABOVE;aAE;aC cξ;aE cν;aE c@;aE c*;aE c0;aI cν;aI c@;aI c*;" ++
  "aI c0;aETH;aN cã;aO cν;aO c@;aO c*;aO cã;aO c0;MULTIPLICATION s;aO cy;aU cν;aU c@;aU c*;aU c0;aY c@;aTHORN;" ++
  "bSHARP S;bA cν;bA c@;bA c*;bA cã;bA c0;bA cRING ABOVE;bAE;bC cξ;bE cν;bE c@;bE c*;bE c0;bI cν;bI c@;bI c*;bI c0;" ++
  "bETH;bN cã;bO cν;bO c@;bO c*;bO cã;bO c0;DIVISION s;bO cy;bU cν;bU c@;bU c*;bU c0;bY c@;bTHORN;bY c0"

def extended : String :=
  "aA cζ;bA cζ;aA cBREVE;bA cBREVE;aA cOGONEK;bA cOGONEK;aC c@;bC c@;aC c*;bC c*;aC cε;bC cε;aC c&;bC c&;aD c&;bD c&;" ++
  "aD cy;bD cy;aE cζ;bE cζ;aE cBREVE;bE cBREVE;aE cε;bE cε;aE cOGONEK;bE cOGONEK;aE c&;bE c&;aG c*;bG c*;aG cBREVE;" ++
  "bG cBREVE;aG cε;bG cε;aG cξ;bG cξ;aH c*;bH c*;aH cy;bH cy;aI cã;bI cã;aI cζ;bI cζ;aI cBREVE;bI cBREVE;aI cOGONEK;" ++
  "bI cOGONEK;aI cε;bDOTLESS I;ΣxLIGATURE IJ;Σ~LIGATURE IJ;aJ c*;bJ c*;aK cξ;bK cξ;bKRA;aL c@;bL c@;aL cξ;bL cξ;" ++
  "aL c&;bL c&;aL cMIDDLE DOT;bL cMIDDLE DOT;aL cy;bL cy;aN c@;bN c@;aN cξ;bN cξ;aN c&;bN c&;" ++
  "bN PRECEDED BY APOSTROPHE;aENG;bENG;aO cζ;bO cζ;aO cBREVE;bO cBREVE;aO ci @;bO ci @;ΣxLIGATURE OE;Σ~LIGATURE OE;" ++
  "aR c@;bR c@;aR cξ;bR cξ;aR c&;bR c&;aS c@;bS c@;aS c*;bS c*;aS cξ;bS cξ;aS c&;bS c&;aT cξ;bT cξ;aT c&;bT c&;aT cy;" ++
  "bT cy;aU cã;bU cã;aU cζ;bU cζ;aU cBREVE;bU cBREVE;aU cRING ABOVE;bU cRING ABOVE;aU ci @;bU ci @;aU cOGONEK;" ++
  "bU cOGONEK;aW c*;bW c*;aY c*;bY c*;aY c0;aZ c@;bZ c@;aZ cε;bZ cε;aZ c&;bZ c&;bLONG S;bB cy;aB cë;aB cTOPBAR;" ++
  "bB cTOPBAR;aTONE SIX;bTONE SIX;aOPEN O;aC cë;bC cë;aAFRICAN D;aD cë;aD cTOPBAR;bD cTOPBAR;bυDELTA;a= E;aSCHWA;" ++
  "aOPEN E;aF cë;bF cë;aG cë;aGAMMA;bHV;aIOTA;aI cy;aK cë;bK cë;bL cBAR;bLAMBDA cy;aυM;aN crë;bN cLONG k LEG;" ++
  "aO cMIDDLE ã;aO cHORN;bO cHORN;aOI;bOI;aP cë;bP cë;ΣeYR;aTONE TWO;bTONE TWO;aESH;Σe= ESH LOOP;bT cPALATAL ë;aT cë;" ++
  "bT cë;aT cRETROFLEX ë;aU cHORN;bU cHORN;añ;aV cë;aY cë;bY cë;aZ cy;bZ cy;aEZH;aEZH =;bEZH =;bEZH cTAIL;ΣeTWO cy;" ++
  "aTONE FIVE;bTONE FIVE;ΣeINVERTED GLOTTAL STOP cy;ΣeWYNN;ΣeDENTAL CLICK;ΣeLATERAL CLICK;ΣeALVEOLAR CLICK;" ++
  "ΣeRETROFLEX CLICK;aDZ c&;aD c~eZ c&;bDZ c&;aLJ;aL c~eJ;bLJ;aNJ;aN c~eJ;bNJ;aA c&;bA c&;aI c&;bI c&;aO c&;bO c&;" ++
  "aU c&;bU c&;aU c0 pζ;bU c0 pζ;aU c0 p@;bU c0 p@;aU c0 p&;bU c0 p&;aU c0 pν;bU c0 pν;bυE;aA c0 pζ;bA c0 pζ;" ++
  "aA cε pζ;bA cε pζ;aAE cζ;bAE cζ;aG cy;bG cy;aG c&;bG c&;aK c&;bK c&;aO cOGONEK;bO cOGONEK;aO cOGONEK pζ;" ++
  "bO cOGONEK pζ;aEZH c&;bEZH c&;bJ c&;aDZ;aD c~eZ;bDZ;aG c@;bG c@;aHWAIR;aWYNN;aN cν;bN cν;aA cRING ABOVE p@;" ++
  "bA cRING ABOVE p@;aAE c@;bAE c@;aO cy p@;bO cy p@;aA ci ν;bA ci ν;aA cα;bA cα;aE ci ν;bE ci ν;aE cα;bE cα;aI ci ν;" ++
  "bI ci ν;aI cα;bI cα;aO ci ν;bO ci ν;aO cα;bO cα;aR ci ν;bR ci ν;aR cα;bR cα;aU ci ν;bU ci ν;aU cα;bU cα;" ++
  "aS cCOMMA BELOW;bS cCOMMA BELOW;aT cCOMMA BELOW;bT cCOMMA BELOW;aYOGH;bYOGH;aH c&;bH c&;aN cLONG k LEG;bD cCURL;" ++
  "aOU;bOU;aZ cë;bZ cë;aA cε;bA cε;aE cξ;bE cξ;aO c0 pζ;bO c0 pζ;aO cã pζ;bO cã pζ;aO cε;bO cε;aO cε pζ;bO cε pζ;" ++
  "aY cζ;bY cζ;bL cCURL;bN cCURL;bT cCURL;bDOTLESS J;bDB DIGRAPH;bQP DIGRAPH;aA cy;aC cy;bC cy;aL cBAR;aT cΠy;" ++
  "bS cSWASH TAIL;bZ cSWASH TAIL;aGLOTTAL STOP;bGLOTTAL STOP;aB cy;aU BAR;aυV;aE cy;bE cy;aJ cy;bJ cy;a~Q cë TAIL;" ++
  "bQ cë TAIL;aR cy;bR cy;aY cy;bY cy"

def greek : String :=
  "8xeHETA;8~eHETA;8xeARCHAIC SAMPI;8~eARCHAIC SAMPI;8NUMERAL s;8,NUMERAL s;8xePAMPHYLIAN DIGAMMA;" ++
  "8~ePAMPHYLIAN DIGAMMA;;;8YPOGEGRAMMENI;8~= ψz;8~DOTTED ψz;8~= DOTTED ψz;8ôτ;8xeYOT;;;;;8î;8DIALYTIKA î;" ++
  "8xeALPHA cî;8ANO TELEIA;8xeEPSILON cî;8xeETA cî;8xeIOTA cî;;8xeOMICRON cî;;8xeñ cî;8xeOMEGA cî;" ++
  "8~eIOTA cDIALYTIKA pî;8xeALPHA;8xeBETA;8xeGAMMA;8xeDELTA;8xeEPSILON;8xeZETA;8xeETA;8xeTHETA;8xeIOTA;8xeKAPPA;" ++
  "8xeLAMDA;8xeMU;8xeNU;8xeXI;8xeOMICRON;8xePI;8xeRHO;;8xeSIGMA;8xeTAU;8xeñ;8xePHI;8xeCHI;8xePSI;8xeOMEGA;" ++
  "8xeIOTA cDIALYTIKA;8xeñ cDIALYTIKA;8~eALPHA cî;8~eEPSILON cî;8~eETA cî;8~eIOTA cî;8~eñ cDIALYTIKA pî;8~eALPHA;" ++
  "8~eBETA;8~eGAMMA;8~eDELTA;8~eEPSILON;8~eZETA;8~eETA;8~eTHETA;8~eIOTA;8~eKAPPA;8~eLAMDA;8~eMU;8~eNU;8~eXI;" ++
  "8~eOMICRON;8~ePI;8~eRHO;8~eFINAL SIGMA;8~eSIGMA;8~eTAU;8~eñ;8~ePHI;8~eCHI;8~ePSI;8~eOMEGA;8~eIOTA cDIALYTIKA;" ++
  "8~eñ cDIALYTIKA;8~eOMICRON cî;8~eñ cî;8~eOMEGA cî;8xKAI z;8BETA z;8THETA z;8ñ cë z;8ñ c@ pë z;8ñ c0 pë z;8PHI z;" ++
  "8PI z;8KAI z;8eARCHAIC KOPPA;8~eARCHAIC KOPPA;8eSTIGMA;8~eSTIGMA;8eDIGAMMA;8~eDIGAMMA;8eKOPPA;8~eKOPPA;8eSAMPI;" ++
  "8~eSAMPI;ΛxeSHEI;Λ~eSHEI;ΛxeFEI;Λ~eFEI;ΛxeKHEI;Λ~eKHEI;ΛxeHORI;Λ~eHORI;ΛxeGANGIA;Λ~eGANGIA;ΛxeSHIMA;Λ~eSHIMA;" ++
  "ΛxeDEI;Λ~eDEI;8KAPPA z;8RHO z;8ψz;8eYOT;8xTHETA z;8LUNATE EPSILON z;8= LUNATE EPSILON z;8xeSHO;8~eSHO;8xψz;8xeSAN;" ++
  "8~eSAN;8RHO cy z;8x= ψz;8xDOTTED ψz;8x= DOTTED ψz"

def cyrillic : String :=
  "fxeIE cν;fxeIO;fxeDJE;fxeGJE;fxeUKRAINIAN IE;fxeDZE;fxeBYELORUSSIAN-UKRAINIAN I;fxeYI;fxeJE;fxeLJE;fxeNJE;fxeTSHE;" ++
  "fxeKJE;fxeI cν;fxeSHORT U;fxeDZHE;fxeA;fxeBE;fxeVE;fxeGHE;fxeDE;fxeIE;fxeZHE;fxeZE;fxeI;fxeSHORT I;fxeKA;fxeEL;" ++
  "fxeEM;fxeEN;fxeO;fxePE;fxeER;fxeES;fxeTE;fxeU;fxeEF;fxeHA;fxeTSE;fxeCHE;fxeSHA;fxeSHCHA;fxeHARD s;fxeYERU;" ++
  "fxeSOFT s;fxeE;fxeYU;fxeYA;f~eA;f~eBE;f~eVE;f~eGHE;f~eDE;f~eIE;f~eZHE;f~eZE;f~eI;f~eSHORT I;f~eKA;f~eEL;f~eEM;" ++
  "f~eEN;f~eO;f~ePE;f~eER;f~eES;f~eTE;f~eU;f~eEF;f~eHA;f~eTSE;f~eCHE;f~eSHA;f~eSHCHA;f~eHARD s;f~eYERU;f~eSOFT s;" ++
  "f~eE;f~eYU;f~eYA;f~eIE cν;f~eIO;f~eDJE;f~eGJE;f~eUKRAINIAN IE;f~eDZE;f~eBYELORUSSIAN-UKRAINIAN I;f~eYI;f~eJE;" ++
  "f~eLJE;f~eNJE;f~eTSHE;f~eKJE;f~eI cν;f~eSHORT U;f~eDZHE"

def punctuation : String :=
  "EN QUAD;EM QUAD;EN SPACE;EM SPACE;Θ-PER-EM SPACE;FOUR-PER-EM SPACE;SIX-PER-EM SPACE;FIGURE SPACE;" ++
  "PUNCTUATION SPACE;THIN SPACE;HAIR SPACE;ZERO WIDTH SPACE;ZERO WIDTH NON-JOINER;ZERO WIDTH JOINER;Γ-TO-k τ;k-TO-rτ;" ++
  "HYPHEN;NON-BREAKING HYPHEN;FIGURE DASH;EN DASH;EM DASH;> BAR;i o LINE;i LOW LINE;rθ +;k θ +;θ LOW-9 +;" ++
  "θ HIGH-=-9 +;ri +;k i +;i LOW-9 +;i HIGH-=-9 +;DAGGER;i DAGGER;BULLET;TRIANGULAR BULLET;ONE DOT LEADER;" ++
  "TWO DOT LEADER;> ELLIPSIS;HYPHENATION POINT;LINE SEPARATOR;PARAGRAPH SEPARATOR;Γ-TO-k EMBEDDING;k-TO-rEMBEDDING;" ++
  "POP DIRECTIONAL FORMATTING;Γ-TO-k OVERRIDE;k-TO-rOVERRIDE;Nq NO-BREAK SPACE;PER MILLE s;PER TEN THOUSps;PRIME;" ++
  "i PRIME;òPRIME;= PRIME;= i PRIME;= òPRIME;CARET;θ Γ-tä+;θ k-tä+;REFERENCE τ;i κ;INTERROBANG;OVERLINE;UNDERTIE;" ++
  "CHARACTER TIE;CARET INSERTION POINT;ASTERISM;HYPHEN BULLET;FRACTION SLASH;r^ | cQUILL;k ^ | cQUILL;i ôτ;ôκ;" ++
  "EXCLAMATION ôτ;TIRONIAN s ET;= PILCROW s;n % BULLET;n kΦBULLET;LOW η;= SEMICOLON;CLOSE UP;TWO ηS ALIGNED oLY;" ++
  "COMMERCIAL MINUS s;SWUNG DASH;INVERTED UNDERTIE;F,PUNCTUATION τ;Θ DOT PUNCTUATION;QUADRUPLE PRIME;" ++
  "FOUR DOT PUNCTUATION;FIVE DOT PUNCTUATION;TWO DOT PUNCTUATION;FOUR DOT τ;DOTTED ì;TRICOLON;o FOUR DOTS;" ++
  "πMATHEMATICAL SPACE;WORD JOINER;FUNCTION APPLICATION;INVISIBLE TIMES;INVISIBLE SEPARATOR;INVISIBLE PLUS;;" ++
  "Γ-TO-k ISOLATE;k-TO-rISOLATE;FIRST STRONG ISOLATE;POP DIRECTIONAL ISOLATE;INHIBIT SYMMETRIC SWAPPING;" ++
  "ACTIVATE SYMMETRIC SWAPPING;INHIBIT ARABIC FORM SHAPING;ACTIVATE ARABIC FORM SHAPING;NATIONAL οSHAPES;" ++
  "NOMINAL οSHAPES"

def currency : String :=
  "EURO-CURRENCY s;COLON s;CRUZEIRO s;FRENCH FRANC s;LIRA s;MILL s;NAIRA s;PESETA s;RUPEE s;WON s;NEW SHEQEL s;" ++
  "DONG s;EURO s;KIP s;TUGRIK s;DRACHMA s;GERMAN PENNY s;PESO s;GUARANI s;AUSTRAL s;HRYVNIA s;CEDI s;" ++
  "LIVRE TOURNOIS s;SPESMILO s;TENGE s;INDIAN RUPEE s;TURKISH LIRA s;NORDIC τ s;MANAT s;RUBLE s;LARI s;BITCOIN s;" ++
  "SOM s"

def letterlike : String :=
  "ACCOUNT OF;ADDRESSED TO THE SUBJECT;iλxC;DEGREE CELSIUS;CENTRE LINE z;CARE OF;CADA UNA;EULER CONSTANT;SCRUPLE;" ++
  "DEGREE FAHRENHEIT;Ψ~G;ΨxH;n-exH;iλxH;PLANCK CONSTANT;PLANCK CONSTANT OVER TWO PI;ΨxI;n-exI;ΨxL;Ψ~L;L B BAR z;iλxN;" ++
  "NUMERO s;SOUND RECORDING COPYk;ΨxP;iλxP;iλxQ;ΨxR;n-exR;iλxR;PRESCRIPTION TAKE;RESPONSE;SERVICE τ;TELEPHONE s;" ++
  "TRADE τ s;VERSICLE;iλxZ;OUNCE s;OHM s;INVERTED OHM s;n-exZ;υ8~eIOTA;KELVIN s;ANGSTROM s;ΨxB;n-exC;ESTIMATED z;Ψ~E;" ++
  "ΨxE;ΨxF;υxF;ΨxM;Ψ~O;ALEF z;BET z;GIMEL z;DALET z;INFORMATION SOURCE;ROTATED xQ;FACSIMILE s;iλ~PI;iλ~GAMMA;" ++
  "iλxGAMMA;iλxPI;iλN-ARY SUMMATION;υSANS-SERIF xG;υSANS-SERIF xL;= SANS-SERIF xL;υSANS-SERIF xY;iλITALIC xD;" ++
  "iλITALIC ~D;iλITALIC ~E;iλITALIC ~I;iλITALIC ~J;PROPERTY LINE;υAMPERSAND;PER s;AKTIESELSKAB;υ~F;" ++
  "z FOR SAMARITAN SOURCE;wONE SEVENTH;wONE NINTH;wONE TENTH;wONE THIRD;wTWO THIRDS;wONE FIFTH;wTWO FIFTHS;wΘ FIFTHS;" ++
  "wFOUR FIFTHS;wONE SIXTH;wFIVE SIXTHS;wONE EIGHTH;wΘ EIGHTHS;wFIVE EIGHTHS;wSEVEN EIGHTHS;FRACTION NUMERATOR ONE;" ++
  "jONE;jTWO;jΘ;jFOUR;jFIVE;jSIX;jSEVEN;jEIGHT;jNINE;jTEN;jELEVEN;jTWELVE;jFIFTY;jONE HUNDRED;jFIVE HUNDRED;" ++
  "jONE THOUSAND;~jONE;~jTWO;~jΘ;~jFOUR;~jFIVE;~jSIX;~jSEVEN;~jEIGHT;~jNINE;~jTEN;~jELEVEN;~jTWELVE;~jFIFTY;" ++
  "~jONE HUNDRED;~jFIVE HUNDRED;~jONE THOUSAND;jONE THOUSpC D;jFIVE THOUSAND;jTEN THOUSAND;j= ONE HUNDRED;b= C;" ++
  "jSIX LATE FORM;jFIFTY EARLY FORM;jFIFTY THOUSAND;jONE HUNDRED THOUSAND;wZERO THIRDS;υοTWO;υοΘ"

def arrows : String :=
  "% q;δq;g;] q;rk q;ï_q;NORTH WEST q;NORTH EAST q;SOUTH EAST q;SOUTH WEST q;% q cy;g cy;% WAVE q;kΦWAVE q;% TWO èq;" ++
  "δTWO èq;kΦTWO èq;] TWO èq;% q cTAIL;g cTAIL;% q FROM BAR;δq FROM BAR;g FROM BAR;] q FROM BAR;ï_q cBASE;% q cë;" ++
  "g cë;% q cLOOP;g cLOOP;rk WAVE q;rk q cy;] ZIGZAG q;δq cTIP %;δq cTIP kWARDS;] q cTIP %;] q cTIP kWARDS;" ++
  "g cCORNER ];] q cCORNER %;ANTICLOCKWISE TOP SEMI) q;CLOCKWISE TOP SEMI) q;NORTH WEST q TO LONG BAR;" ++
  "% q TO BAR OVER g TO BAR;ANTICLOCKWISE OPEN ) q;CLOCKWISE OPEN ) q;% é cBARB UPWARDS;% é cBARB ];δé cBARB kWARDS;" ++
  "δé cBARB %;kΦé cBARB UPWARDS;kΦé cBARB ];] é cBARB kWARDS;] é cBARB %;g OVER % q;δq % OF ] q;% q OVER g;" ++
  "% PAIRED qS;δPAIRED qS;kΦPAIRED qS;] PAIRED qS;% é OVER kΦé;kΦé OVER % é;% i q cy;rk i q cy;kΦi q cy;% i q;δi q;" ++
  "kΦi q;] i q;rk i q;ï_i q;NORTH WEST i q;NORTH EAST i q;SOUTH EAST i q;SOUTH WEST i q;% òq;kΦòq;% SQUIGGLE q;" ++
  "kΦSQUIGGLE q;δq ci y;] q ci y;% DASHED q;δDASHED q;kΦDASHED q;] DASHED q;% q TO BAR;g TO BAR;% hq;δhq;kΦhq;] hq;" ++
  "δhq FROM BAR;δhq ON PEDESTAL;δhq ON PEDESTAL c> BAR;δhq ON PEDESTAL co BAR;δhi q;δhi q ON PEDESTAL;kΦhq FROM WALL;" ++
  "NORTH WEST q TO CORNER;SOUTH EAST q TO CORNER;ï_hq;k q c~);] q % OF δq;Θ gS;% q co y;g co y;rk q co y;% q ci o y;" ++
  "g ci o y;rk q ci o y;% OPEN-èq;kΦOPEN-èq;rk OPEN-èq"

def operators : String :=
  "FOR ALL;COMPLEMENT;PARTIAL DIFFERENTIAL;THERE EXISTS;THERE DOES χEXIST;EMPTY SET;INCREMENT;NABLA;φ;χAN φ;~φ;" ++
  "åAS MEMBER;DOES χCONTAIN AS MEMBER;~åAS MEMBER;END OF PROOF;N-ARY PRODUCT;N-ARY COPRODUCT;N-ARY SUMMATION;MINUS s;" ++
  "MINUS-OR-PLUS s;DOT PLUS;DIVISION SLASH;SET MINUS;η Ω;RING Ω;BULLET Ω;^ ROOT;CUBE ROOT;FOURTH ROOT;" ++
  "PROPORTIONAL TO;INFINITY;k ANGLE;ANGLE;MEASURED ANGLE;SPHERICAL ANGLE;DIVIDES;DOES χDIVIDE;PARALLEL TO;" ++
  "χPARALLEL TO;LOGICAL AND;LOGICAL OR;INTERSECTION;UNION;ö;i ö;òö;CONTOUR ö;SUR$ ö;VOLUME ö;CLOCKWISE ö;" ++
  "CLOCKWISE CONTOUR ö;ANTICLOCKWISE CONTOUR ö;THEREFORE;BECAUSE;RATIO;PROPORTION;DOT MINUS;EXCESS;" ++
  "GEOMETRIC PROPORTION;HOMOTHETIC;ã Ω;= ã;INVERTED LAZY S;SINE WAVE;WREATH PRODUCT;χã;MINUS ã;ASYMPTOTICALLY u;" ++
  "χASYMPTOTICALLY u;ùu;ùBUT χACTUALLY u;úùNOR ACTUALLY u;ALMOST u;χALMOST u;ALMOST EQUAL OR u;òã;ALL u;<;" ++
  "GEOMETRICALLY <;DIFFERENCE BETWEEN;APPROACHES THE LIMIT;GEOMETRICALLY u;ùu OR THE IMAGE OF;IMAGE OF OR ùu;" ++
  "COLON EQUALS;EQUALS COLON;RING IN u;RING u;CORRESPONDS TO;ESTIMATES;EQUIANGULAR TO;STAR EQUALS;DELTA u;" ++
  "u BY DEFINITION;MEASURED BY;QUESTIONED u;χu;IDENTICAL TO;χIDENTICAL TO;STRICTLY <;γ OR u;/ OR u;γ OVER u;/ OVER u;" ++
  "γ BUT χu;/ BUT χu;MUCH γ;MUCH /;BETWEEN;χ<;χγ;χ/;úγ NOR u;ú/ NOR u;γ OR <;/ OR <;úγ NOR <;ú/ NOR <;γ OR /;/ OR γ;" ++
  "úγ NOR /;ú/ NOR γ;PRECEDES;SUCCEEDS;PRECEDES OR u;SUCCEEDS OR u;PRECEDES OR <;SUCCEEDS OR <;DOES χPRECEDE;" ++
  "DOES χSUCCEED;SUBSET OF;SUPERSET OF;χA SUBSET OF;χA SUPERSET OF;SUBSET OF OR u;SUPERSET OF OR u;" ++
  "úA SUBSET OF NOR u;úA SUPERSET OF NOR u;SUBSET OF cχu;SUPERSET OF cχu;MULTISET;MULTISET MULTIPLICATION;" ++
  "MULTISET UNION;^ IMAGE OF;^ ORIGINAL OF;^ IMAGE OF OR u;^ ORIGINAL OF OR u;^ CAP;^ CUP;)D PLUS;)D MINUS;)D TIMES;" ++
  ")D DIVISION SLASH;)D DOT Ω;)D RING Ω;)D η Ω;)D EQUALS;)D DASH;^D PLUS;^D MINUS;^D TIMES;^D DOT Ω;k TACK;rTACK;" ++
  "_TACK;ïTACK;ASSERTION;MODELS;TRUE;FORCES;òo BAR k TURNSTILE;i o BAR i k TURNSTILE;DOES χPROVE;χTRUE;DOES χFORCE;" ++
  "NEGATED i o BAR i k TURNSTILE;PRECEDES UNDER RELATION;SUCCEEDS UNDER RELATION;μ OF;åAS μ;μ OF OR u;åAS μ OR u;" ++
  "ORIGINAL OF;IMAGE OF;MULTIMAP;HERMITIAN CONJUGATE MATRIX;INTERCALATE;XOR;NAND;NOR;k äcARC;k !;N-ARY LOGICAL AND;" ++
  "N-ARY LOGICAL OR;N-ARY INTERSECTION;N-ARY UNION;DIAMOND Ω;DOT Ω;STAR Ω;DIVISION TIMES;BOWTIE;rNORMAL FACTOR û;" ++
  "k NORMAL FACTOR û;rû;k û;= ã EQUALS;CURLY LOGICAL OR;CURLY LOGICAL AND;i SUBSET;i SUPERSET;i INTERSECTION;i UNION;" ++
  "PITCHFORK;EQUAL pPARALLEL TO;γ cDOT;/ cDOT;VERY MUCH γ;VERY MUCH /;γ u OR /;/ u OR γ;u OR γ;u OR /;u OR PRECEDES;" ++
  "u OR SUCCEEDS;DOES χPRECEDE OR EQUAL;DOES χSUCCEED OR EQUAL;χ^ IMAGE OF OR u;χ^ ORIGINAL OF OR u;^ IMAGE OF OR χu;" ++
  "^ ORIGINAL OF OR χu;γ BUT χ<;/ BUT χ<;PRECEDES BUT χ<;SUCCEEDS BUT χ<;χμ OF;DOES χCONTAIN AS μ;χμ OF OR u;" ++
  "DOES χCONTAIN AS μ OR EQUAL;o ELLIPSIS;MIDLINE > ELLIPSIS;ïk ΠELLIPSIS;_k ΠELLIPSIS;φ cLONG > y;" ++
  "φ co BAR AT END OF > y;~φ co BAR AT END OF > y;φ cε;φ cOVERBAR;~φ cOVERBAR;φ cUNDERBAR;φ cTWO > yS;åcLONG > y;" ++
  "åco BAR AT END OF > y;~åco BAR AT END OF > y;åcOVERBAR;~åcOVERBAR;Z NOTATION BAG MEMBERSHIP"

def boxes : String :=
  "d: >;dl>;d: o;dlo;d: òDASH >;dlòDASH >;d: òDASH o;dlòDASH o;d: QUADRUPLE DASH >;dlQUADRUPLE DASH >;" ++
  "d: QUADRUPLE DASH o;dlQUADRUPLE DASH o;d: _pk;d_: pk à;d_lpk :;dl_pk;d: _pΓ;d_: prà;d_lpr:;dl_pΓ;d: ïpk;dï: pk à;" ++
  "dïlpk :;dlïpk;d: ïpΓ;dï: prà;dïlpr:;dlïpΓ;d: o pk;do : pk à;dïlpk _:;d_lpk ï:;do lpk :;d_: pk ïà;dï: pk _à;dlo pk;" ++
  "d: o pΓ;do : prà;dïlpr_:;d_lprï:;do lpr:;d_: prïà;dï: pr_à;dlo pΓ;d: _p>;drlpk _:;dk lpr_:;d_: p> à;d_lp> :;" ++
  "dk : pr_à;dr: pk _à;dl_p>;d: ïp>;drlpk ï:;dk lprï:;dï: p> à;dïlp> :;dk : prïà;dr: pk ïà;dlïp>;d: o p>;drlpk o :;" ++
  "dk lpro :;do : p> à;dïlp_> :;d_lpï> :;do lp> :;drïlpk _:;dk ïlpr_:;dr_lpk ï:;dk _lprï:;d_: pï> à;dï: p_> à;" ++
  "dk : pro à;dr: pk o à;dlo p>;d: i DASH >;dli DASH >;d: i DASH o;dli DASH o;di >;di o;d_θ pk i;d_i pk θ;di _pk;" ++
  "d_θ pri;d_i prθ;di _pΓ;dïθ pk i;dïi pk θ;di ïpk;dïθ pri;dïi prθ;di ïpΓ;do θ pk i;do i pk θ;di o pk;do θ pri;" ++
  "do i prθ;di o pΓ;d_θ p> i;d_i p> θ;di _p>;dïθ p> i;dïi p> θ;di ïp>;do θ p> i;do i p> θ;di o p>;d: ARC _pk;" ++
  "d: ARC _pΓ;d: ARC ïpΓ;d: ARC ïpk;d: Π(k TO ,Γ;d: Π(rTO ,k;d: Πì;d: Γ;d: UP;d: k;d: DOWN;dlΓ;dlUP;dlk;dlDOWN;" ++
  "d: rplk;d: ïplDOWN;dlrp: k;dlïp: DOWN;(áBLOCK;,ONE EIGHTH BLOCK;,ONE QUARTER BLOCK;,Θ ê;,áBLOCK;,FIVE ê;" ++
  ",Θ QUARTERS BLOCK;,SEVEN ê;FULL BLOCK;rSEVEN ê;rΘ QUARTERS BLOCK;rFIVE ê;ráBLOCK;rΘ ê;rONE QUARTER BLOCK;" ++
  "rONE EIGHTH BLOCK;k áBLOCK;: SHADE;πSHADE;DARK SHADE;(ONE EIGHTH BLOCK;k ONE EIGHTH BLOCK;[ ,Γ;[ ,k;[ (Γ;" ++
  "[ (rp,rp,k;[ (rp,k;[ (rp(k p,Γ;[ (rp(k p,k;[ (k;[ (k p,Γ;[ (k p,rp,k;n ^;h^;h^ cROUNDED CORNERS;" ++
  "h^ CONTAINING n ~^;^ c> FILL;^ co FILL;^ cORTHOGONAL ìHATCH FILL;^ c(rTO ,k FILL;^ c(k TO ,rFILL;^ cΠìHATCH FILL;" ++
  "n ~^;h~^;n RECTANGLE;hRECTANGLE;n o RECTANGLE;ho RECTANGLE;n PARALLELOGRAM;hPARALLELOGRAM;n UP-t!;hUP-t!;n UP-t~!;" ++
  "hUP-t~!;n k-t!;hk-t!;n k-t~!;hk-t~!;n k-tPOINTER;hk-tPOINTER;n DOWN-t!;hDOWN-t!;n DOWN-t~!;hDOWN-t~!;n Γ-t!;hΓ-t!;" ++
  "n Γ-t~!;hΓ-t~!;n Γ-tPOINTER;hΓ-tPOINTER;n DIAMOND;hDIAMOND;hDIAMOND CONTAINING n ~DIAMOND;FISHEYE;LOZENGE;h);" ++
  "DOTTED );) co FILL;BULLSEYE;n );) crán;) ck án;) c,án;) c(án;) c(k [ n;) cALL BUT (r[ n;rán );k án );" ++
  "INVERSE BULLET;INVERSE h);(áINVERSE h);,áINVERSE h);(r[ CIRCULAR ARC;(k [ CIRCULAR ARC;,k [ CIRCULAR ARC;" ++
  ",r[ CIRCULAR ARC;(á);,á);n ,k !;n ,r!;n (r!;n (k !;hBULLET;^ crán;^ ck án;^ c(rΠán;^ c,k Πán;h^ co BISECTING LINE;" ++
  "hUP-t! cDOT;UP-t! crán;UP-t! ck án;LARGE );h^ c(r[;h^ c,r[;h^ c,k [;h^ c(k [;h) c(r[;h) c,r[;h) c,k [;h) c(k [;" ++
  "(r!;(k !;,r!;hπ^;n π^;hπ~^;n π~^;,k !"

def miscellany : String :=
  "n SUN cRAYS;CLOUD;UMBRELLA;SNOWMAN;COMET;n STAR;hSTAR;:NING;THUNDERSTORM;SUN;ASCENDING NODE;DESCENDING NODE;" ++
  "CONJUNCTION;OPPOSITION;n TELEPHONE;hTELEPHONE;BALLOT BOX;BALLOT BOX cCHECK;BALLOT BOX cX;SALTIRE;" ++
  "UMBRELLA cRAIN DROPS;HOT BEVERAGE;hSHOGI PIECE;n SHOGI PIECE;SHAMROCK;= ROTATED FLORAL HEART BULLET;n rtINDEX;" ++
  "n k tINDEX;hrtINDEX;hïtINDEX;hk tINDEX;h_tINDEX;SKULL pìBONES;CAUTION s;RADIOACTIVE s;BIOHAZARD s;CADUCEUS;ANKH;" ++
  "ORTHODOX ì;CHI RHO;ì OF LORRAINE;ì OF JERUSALEM;STAR pCRESCENT;FARSI z;ADI SHAKTI;HAMMER pSICKLE;PEACE z;YIN YANG;" ++
  "ΔHEAVEN;ΔLAKE;ΔFIRE;ΔTHUNDER;ΔWIND;ΔWATER;ΔMOUNTAIN;ΔEARTH;WHEEL OF DHARMA;hFROWNING $;hι$;n ι$;hSUN cRAYS;" ++
  "FIRST QUARTER MOON;LAST QUARTER MOON;MERCURY;FEMALE s;EARTH;MALE s;JUPITER;SATURN;URANUS;NEPTUNE;PLUTO;ARIES;" ++
  "TAURUS;GEMINI;CANCER;LEO;VIRGO;LIBRA;SCORPIUS;SAGITTARIUS;CAPRICORN;AQUARIUS;PISCES;hCHESS KING;hCHESS QUEEN;" ++
  "hCHESS ROOK;hCHESS BISHOP;hCHESS KNIGHT;hCHESS PAWN;n CHESS KING;n CHESS QUEEN;n CHESS ROOK;n CHESS BISHOP;" ++
  "n CHESS KNIGHT;n CHESS PAWN;n SPADE SUIT;hHEART SUIT;hDIAMOND SUIT;n CLUB SUIT;hSPADE SUIT;n HEART SUIT;" ++
  "n DIAMOND SUIT;hCLUB SUIT;HOT SPRINGS;QUARTER NOTE;EIGHTH NOTE;BEAMED EIGHTH NOTES;BEAMED SIXTEENTH NOTES;" ++
  "MUSIC FLAT s;MUSIC NATURAL s;MUSIC SHARP s;WEST SYRIAC ì;EAST SYRIAC ì;UNIVERSAL ωz;ωz FOR TYPE-1 PLASTICS;" ++
  "ωz FOR TYPE-2 PLASTICS;ωz FOR TYPE-3 PLASTICS;ωz FOR TYPE-4 PLASTICS;ωz FOR TYPE-5 PLASTICS;" ++
  "ωz FOR TYPE-6 PLASTICS;ωz FOR TYPE-7 PLASTICS;ωz FOR GENERIC MATERIALS;n UNIVERSAL ωz;RECYCLED PAPER z;" ++
  "PARTIALLY-RECYCLED PAPER z;PERMANENT PAPER s;WHEELCHAIR z;DIE $-1;DIE $-2;DIE $-3;DIE $-4;DIE $-5;DIE $-6;" ++
  "h) cDOT k;h) cTWO DOTS;n ) chDOT k;n ) cTWO hDOTS;MONOGRAM FOR YANG;MONOGRAM FOR YIN;DIGRAM FOR GREATER YANG;" ++
  "DIGRAM FOR LESSER YIN;DIGRAM FOR LESSER YANG;DIGRAM FOR GREATER YIN;hFLAG;n FLAG;HAMMER pPICK;ANCHOR;ìED SWORDS;" ++
  "STAFF OF AESCULAPIUS;SCALES;ALEMBIC;FLOWER;GEAR;STAFF OF HERMES;ATOM z;FLEUR-DE-LIS;õhSTAR;Θ LINES CONVERGING k;" ++
  "Θ LINES CONVERGING Γ;WARNING s;HIGH VOLTAGE s;iD FEMALE s;iD MALE s;INTERLOCKED FEMALE pMALE s;MALE pFEMALE s;" ++
  "MALE cy s;MALE cy pMALE pFEMALE s;o MALE cy s;> MALE cy s;πh);πn );π~h);MARRIAGE z;DIVORCE z;" ++
  "UNMARRIED PARTNERSHIP z;COFFIN;FUNERAL URN;NEUTER;CERES;PALLAS;JUNO;VESTA;CHIRON;n MOON LILITH;SEXTILE;" ++
  "SEMISEXTILE;QUINCUNX;SESQUIQUADRATE;SOCCER BALL;BASEBALL;^D KEY;hDRAUGHTS MAN;hDRAUGHTS KING;n DRAUGHTS MAN;" ++
  "n DRAUGHTS KING;SNOWMAN WITHOUT SNOW;SUN BEHIND CLOUD;RAIN;n SNOWMAN;THUNDER CLOUD pRAIN;υhSHOGI PIECE;" ++
  "υn SHOGI PIECE;hDIAMOND IN ^;ìING LANES;DISABLED CAR;OPHIUCHUS;PICK;CAR SLIDING;HELMET chì;)D ìING LANES;CHAINS;" ++
  "NO ENTRY;ALTERNATE ONE-WAY rWAY TRAFFIC;n TWO-WAY rWAY TRAFFIC;hTWO-WAY rWAY TRAFFIC;n rLANE MERGE;hrLANE MERGE;" ++
  "DRIVE SLOW s;lhDOWN-t!;rCLOSED ENTRY;^D SALTIRE;FALLING ΠIN h) IN n ^;n TRUCK;RESTRICTED rENTRY-1;" ++
  "RESTRICTED rENTRY-2;ASTRONOMICAL z FOR URANUS;l) cy pTWO DOTS ABOVE;PENTAGRAM;k-HANDED INTERLACED PENTAGRAM;" ++
  "Γ-HANDED INTERLACED PENTAGRAM;INVERTED PENTAGRAM;n ì ON SHIELD;SHINTO SHRINE;CHURCH;CASTLE;HISTORIC SITE;" ++
  "GEAR WITHOUT HUB;GEAR cHANDLES;MAP z FOR :HOUSE;MOUNTAIN;UMBRELLA ON GROUND;FOUNTAIN;FLAG IN HOLE;FERRY;SAILBOAT;" ++
  "^ FOUR CORNERS;SKIER;ICE SKATE;PERSON cBALL;TENT;JAPANESE BANK z;HEADSTONE νYARD z;FUEL PUMP;CïON n ^;" ++
  "hFLAG c> MIDDLE n STRIPE"

def dingbats : String :=
  "n SAFETY SCISSORS;(BLADE SCISSORS;n SCISSORS;,BLADE SCISSORS;hSCISSORS;hlCHECK τ;TELEPHONE LOCATION s;TAPE DRIVE;" ++
  "AIRPLANE;ENVELOPE;RAISED FIST;RAISED HAND;VICTORY HAND;WRITING HAND;,k PENCIL;PENCIL;(k PENCIL;hNIB;n NIB;CHECK τ;" ++
  "lCHECK τ;MULTIPLICATION X;lMULTIPLICATION X;BALLOT X;lBALLOT X;õ8ì;l8ì;óì;lóì;Σì;ρhΣì;õΣì;MALTESE ì;STAR OF DAVID;" ++
  "FOUR ση;FOUR BALLOON-SPOKED η;lFOUR BALLOON-SPOKED η;FOUR CLUB-SPOKED η;n FOUR âSTAR;hFOUR âSTAR;SPARKLES;" ++
  "STRESS õhSTAR;)D hSTAR;ón STAR;n CENTRE hSTAR;õn STAR;lõn STAR;PINWHEEL STAR;ρhSTAR;lη;óη;EIGHT SPOKED η;" ++
  "EIGHT ân STAR;EIGHT âPINWHEEL STAR;SIX ân STAR;EIGHT âRECTILINEAR n STAR;lEIGHT âRECTILINEAR n STAR;" ++
  "TWELVE ân STAR;SIXTEEN âη;ση;óση;lση;SIX PETALLED n phFLORETTE;n FLORETTE;hFLORETTE;EIGHT PETALLED õn FLORETTE;" ++
  ")D óEIGHT âSTAR;lσPINWHEEL η;SNOWFLAKE;TIGHT TRIFOLIATE SNOWFLAKE;lCHEVRON SNOWFLAKE;SPARKLE;lSPARKLE;" ++
  "BALLOON-SPOKED η;EIGHT σPROPELLER η;lEIGHT σPROPELLER η;ì τ;ρh);NEGATIVE ^D ì τ;,k DROP-ρh^;(k DROP-ρh^;,k ρh^;" ++
  "(k ρh^;n ôτ ?;hôτ ?;hκ ?;n DIAMOND MINUS hX;lκ z;: o BAR;πo BAR;lo BAR;lθ υCOMMA + ?;lθ COMMA + ?;li υCOMMA + ?;" ++
  "li COMMA + ?;lLOW θ COMMA + ?;lLOW i COMMA + ?;CURVED STEM PARAGRAPH s ?;lκ ?;lHEART κ ?;ln HEART;" ++
  "ROTATED ln HEART BULLET;FLORAL HEART;ROTATED FLORAL HEART BULLET;πrPARENTHESIS ?;πk PARENTHESIS ?;" ++
  "πFLATTENED rPARENTHESIS ?;πFLATTENED k PARENTHESIS ?;πΓ-tä| ?;πk-tä| ?;lΓ-tä+ ?;lk-tä+ ?;lΓ-tä| ?;lk-tä| ?;" ++
  ": rΞ| ?;: k Ξ| ?;πrCURLY | ?;πk CURLY | ?;mοONE;mοTWO;mοΘ;mοFOUR;mοFIVE;mοSIX;mοSEVEN;mοEIGHT;mοNINE;mNUMBER TEN;" ++
  "í)D vONE;í)D vTWO;í)D vΘ;í)D vFOUR;í)D vFIVE;í)D vSIX;í)D vSEVEN;í)D vEIGHT;í)D vNINE;í)D SANS-SERIF NUMBER TEN;" ++
  "mvONE;mvTWO;mvΘ;mvFOUR;mvFIVE;mvSIX;mvSEVEN;mvEIGHT;mvNINE;mSANS-SERIF NUMBER TEN;lWIDE-èg;lPLUS s;lMINUS s;" ++
  "lDIVISION s;lSOUTH EAST q;lg;lNORTH EAST q;DRAFTING POINT g;lROUND-TIPPED g;!-èg;l!-èg;DASHED !-èg;lDASHED !-èg;" ++
  "n g;Θ-D TOP-:ED gHEAD;Θ-D BOTTOM-:ED gHEAD;n gHEAD;ln CURVED ] pg;ln CURVED δpg;SQUAT n g;lCONCAVE-ân g;" ++
  "k-SHADED hg;Γ-SHADED hg;BACK-TILTED ρhg;FRONT-TILTED ρhg;l,k-ρhg;l(k-ρhg;NOTCHED ,k-ρhg;CURLY LOOP;NOTCHED (k-ρhg;" ++
  ")D lhg;WHITE-FEATHERED g;n-FEATHERED SOUTH EAST q;n-FEATHERED g;n-FEATHERED NORTH EAST q;" ++
  "ln-FEATHERED SOUTH EAST q;ln-FEATHERED g;ln-FEATHERED NORTH EAST q;TEARDROP-BARBED g;lTEARDROP-SHANKED g;" ++
  "WEDGE-TAILED g;lWEDGE-TAILED g;OPEN-õg;i CURLY LOOP"

def asian : String :=
  "βSPACE;βCOMMA;βFULL STOP;DITTO τ;JAPANESE INDUSTRIAL STANDARD z;βITERATION τ;βCLOSING τ;βNUMBER ZERO;rä|;k ä|;" ++
  "ri ä|;k i ä|;rCORNER |;k CORNER |;rhCORNER |;k hCORNER |;rn LENTICULAR |;k n LENTICULAR |;POSTAL τ;GETA τ;rΞ|;" ++
  "k Ξ|;rhLENTICULAR |;k hLENTICULAR |;rhΞ|;k hΞ|;rh^ |;k h^ |;WAVE DASH;= i PRIME +;i PRIME +;LOW i PRIME +;" ++
  "POSTAL τ $;.ONE;.TWO;.Θ;.FOUR;.FIVE;.SIX;.SEVEN;.EIGHT;.NINE;βLEVEL TONE τ;βRISING TONE τ;βDEPARTING TONE τ;" ++
  "βENTERING TONE τ;HANGUL θ DOT TONE τ;HANGUL i DOT TONE τ;WAVY DASH;o KANA REPEAT τ;o KANA REPEAT cVOICED SOUND τ;" ++
  "o KANA REPEAT τ (HALF;o KANA REPEAT cVOICED SOUND τ (HALF;o KANA REPEAT τ ,HALF;)D POSTAL τ;" ++
  "βTELEGRAPH LINE FEED SEPARATOR z;.TEN;.TWENTY;.THIRTY;o βITERATION τ;MASU τ;PART ALTERNATION τ;" ++
  "βVARIATION INDICATOR;βáFILL SPACE"

def emoticons : String :=
  "GRINNING $;GRINNING $ cιEYES;$ cTEARS OF JOY;ι$ cç;ι$ cç pιEYES;ι$ cç pCOLD SWEAT;ι$ cç pTIGHTLY-CLOSED EYES;" ++
  "ι$ cHALO;ι$ cHORNS;WINKING $;ι$ cιEYES;$ SAVOURING DELICIOUS FOOD;RELIEVED $;ι$ cHEART-SHAPED EYES;ι$ cSUNGLASSES;" ++
  "SMIRKING $;NEUTRAL $;EXPRESSIONLESS $;UNAMUSED $;$ cCOLD SWEAT;PENSIVE $;CONFUSED $;CONFOUNDED $;KISSING $;" ++
  "$ THROWING A KISS;KISSING $ cιEYES;KISSING $ cCLOSED EYES;$ cSTUCK-OUT TONGUE;$ cSTUCK-OUT TONGUE pWINKING EYE;" ++
  "$ cSTUCK-OUT TONGUE pTIGHTLY-CLOSED EYES;DISAPâ$;WORRIED $;ANGRY $;POUTING $;CRYING $;PERSEVERING $;" ++
  "$ cLOOK OF TRIUMPH;DISAPâBUT RELIEVED $;FROWNING $ cç;ANGUISHED $;FEARFUL $;WEARY $;SLEEPY $;TIRED $;GRIMACING $;" ++
  "LOUDLY CRYING $;$ cç;HUSHED $;$ cç pCOLD SWEAT;$ SCREAMING IN FEAR;ASTONISHED $;FLUSHED $;SLEEPING $;DIZZY $;" ++
  "$ WITHOUT MOUTH;$ cMEDICAL MASK;GRINNING CAT $ cιEYES;CAT $ cTEARS OF JOY;ιCAT $ cç;ιCAT $ cHEART-SHAPED EYES;" ++
  "CAT $ cWRY SMILE;KISSING CAT $ cCLOSED EYES;POUTING CAT $;CRYING CAT $;WEARY CAT $;S:LY FROWNING $;S:LY ι$;" ++
  "UPSIDE-_$;$ cROLLING EYES;$ cNO GOOD GESTURE;$ cOK GESTURE;PERSON BOWING DEEPLY;SEE-NO-EVIL MONKEY;" ++
  "HEAR-NO-EVIL MONKEY;SPEAK-NO-EVIL MONKEY;HAPPY PERSON RAISING ONE HAND;PERSON RAISING BOTH HANDS IN CELEBRATION;" ++
  "PERSON FROWNING;PERSON cPOUTING $;PERSON cFOLDED HANDS"

def blocks : List (Nat × String) :=
  [(0x20, basic),
   (0xa0, supplement),
   (0x100, extended),
   (0x370, greek),
   (0x400, cyrillic),
   (0x2000, punctuation),
   (0x20a0, currency),
   (0x2100, letterlike),
   (0x2190, arrows),
   (0x2200, operators),
   (0x2500, boxes),
   (0x2600, miscellany),
   (0x2700, dingbats),
   (0x3000, asian),
   (0x1f600, emoticons)]

def aliases : List (String × Nat) :=
  [("NUL", 0x0), ("NULL", 0x0), ("SOH", 0x1), ("START OF HEADING", 0x1),
   ("START OF TEXT", 0x2), ("STX", 0x2), ("END OF TEXT", 0x3), ("ETX", 0x3),
   ("END OF TRANSMISSION", 0x4), ("EOT", 0x4), ("ENQ", 0x5), ("ENQUIRY", 0x5), ("ACK", 0x6),
   ("ACKNOWLEDGE", 0x6), ("ALERT", 0x7), ("BEL", 0x7), ("BACKSPACE", 0x8), ("BS", 0x8),
   ("CHARACTER TABULATION", 0x9), ("HORIZONTAL TABULATION", 0x9), ("HT", 0x9), ("TAB", 0x9),
   ("END OF LINE", 0xa), ("EOL", 0xa), ("LF", 0xa), ("LINE FEED", 0xa), ("NEW LINE", 0xa),
   ("NL", 0xa), ("LINE TABULATION", 0xb), ("VERTICAL TABULATION", 0xb), ("VT", 0xb),
   ("FF", 0xc), ("FORM FEED", 0xc), ("CARRIAGE RETURN", 0xd), ("CR", 0xd), ("SHIFT OUT", 0xe),
   ("SO", 0xe), ("SHIFT IN", 0xf), ("SI", 0xf), ("DATA LINK ESCAPE", 0x10), ("DLE", 0x10),
   ("CAN", 0x18), ("CANCEL", 0x18), ("END OF MEDIUM", 0x19), ("EOM", 0x19), ("SUB", 0x1a),
   ("SUBSTITUTE", 0x1a), ("ESC", 0x1b), ("ESCAPE", 0x1b), ("FS", 0x1c), ("GS", 0x1d),
   ("RS", 0x1e), ("US", 0x1f), ("SP", 0x20), ("DEL", 0x7f), ("DELETE", 0x7f), ("NEL", 0x85),
   ("NEXT LINE", 0x85), ("NBSP", 0xa0), ("SHY", 0xad), ("ZWSP", 0x200b), ("ZWNJ", 0x200c),
   ("ZWJ", 0x200d), ("LRM", 0x200e), ("RLM", 0x200f), ("BOM", 0xfeff),
   ("BYTE ORDER MARK", 0xfeff), ("ZWNBSP", 0xfeff)]

/-- The place of a word among words that are set apart by semicolons. -/
def placeIn? (word : List Char) (place : Nat) : List Char → List Char → Option Nat
  | current, [] => if current.reverse == word then some place else none
  | current, c :: rest =>
    if c == ';' then
      if current.reverse == word then some place else placeIn? word (place + 1) [] rest
    else placeIn? word place (c :: current) rest

def hexNumber? (cs : List Char) : Option Nat :=
  if cs.all (fun c => (hexDigit? c).isSome) && 4 ≤ cs.length && cs.length ≤ 5 then some (hexValue cs) else none

def isIdeograph (n : Nat) : Bool :=
  (0x3400 ≤ n && n ≤ 0x4dbf) || (0x4e00 ≤ n && n ≤ 0x9fff) || (0x20000 ≤ n && n ≤ 0x2a6df) ||
    (0x2a700 ≤ n && n ≤ 0x2b738) || (0x2b740 ≤ n && n ≤ 0x2b81d) || (0x2b820 ≤ n && n ≤ 0x2cea1) ||
    (0x2ceb0 ≤ n && n ≤ 0x2ebe0) || (0x30000 ≤ n && n ≤ 0x3134a)

def ideograph? (name : List Char) : Option Nat := do
  let digits ← after? "CJK UNIFIED IDEOGRAPH-".toList name
  let n ← hexNumber? digits
  if isIdeograph n then some n else none
where
  after? : List Char → List Char → Option (List Char)
    | [], cs => some cs
    | c :: word, d :: cs => if c == d then after? word cs else none
    | _ :: _, [] => none

def leads : List String :=
  ["G", "GG", "N", "D", "DD", "R", "M", "B", "BB", "S", "SS", "", "J", "JJ", "C", "K", "T", "P", "H"]

def vowels : List String :=
  ["A", "AE", "YA", "YAE", "EO", "E", "YEO", "YE", "O", "WA", "WAE", "OE", "YO", "U", "WEO", "WE", "WI",
   "YU", "EU", "YI", "I"]

def tails : List String :=
  ["", "G", "GG", "GS", "N", "NJ", "NH", "D", "L", "LG", "LM", "LB", "LS", "LT", "LP", "LH", "M", "B",
   "BS", "S", "SS", "NG", "J", "C", "K", "T", "P", "H"]

/-- A syllable that is named by its sounds. -/
def syllable? (name : String) : Option Nat :=
  (List.range (leads.length * vowels.length * tails.length)).find? (fun n =>
    let lead := (leads[n / (vowels.length * tails.length)]?).getD ""
    let vowel := (vowels[n / tails.length % vowels.length]?).getD ""
    let tail := (tails[n % tails.length]?).getD ""
    "HANGUL SYLLABLE " ++ lead ++ vowel ++ tail == name) |>.map (0xac00 + ·)

end Name

/-- The character with a name; small letters count as capital ones. -/
def named? (name : String) : Option Char :=
  let capital := name.toList.map Char.toUpper
  let word := String.ofList capital
  let found := if capital.isEmpty then none
    else (Name.blocks.findSome? fun (start, text) => (Name.placeIn? capital 0 [] (Name.written text)).map (start + ·))
      |>.or ((Name.aliases.find? fun (other, _) => other == word).map (·.2))
      |>.or (Name.ideograph? capital)
      |>.or (if capital.take 16 == "HANGUL SYLLABLE ".toList then Name.syllable? word else none)
  found.map Char.ofNat

end Orchestration.Text
