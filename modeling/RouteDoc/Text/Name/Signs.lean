/-!
# The names of punctuation, arrows, operators and other signs

* `Chars.signNames`: the names of the characters from U+2000 to U+2FFF, for Unicode 14, as
  entries of a table of names.
-/

namespace RouteDoc.Chars

/-- The names of the characters from U+2000 to U+2FFF. -/
def signNames : String :=
  "2000=0EN QUAD;0aEM;0EN SPACE;0aEM;0aTHREE-PER-EM;0aFOUR-PER-EM;0aSIX-PER-EM;0aFIGURE;
0aPUNCTUATION;0aTHIN;0aHAIR;0aZERO WIDTH;2NON-JOINER;2JOINER;0LEFT-TO-RIGHT MARK;0aRIGHT-TO-LEFT;
0HYPHEN;0aNON-BREAKING;0FIGURE DASH;0aEN;0aEM;0HORIZONTAL BAR;0DOUBLE VERTICAL LINE;1aLOW;
0LEFT SINGLE QUOTATION MARK;0cRIGHT;0bSINGLE LOW-9;1bHIGH-REVERSED-9;0bLEFT DOUBLE;0cRIGHT;
0bDOUBLE LOW-9;1bHIGH-REVERSED-9;0DAGGER;0aDOUBLE;0BULLET;0aTRIANGULAR;0ONE DOT LEADER;0bTWO;
0HORIZONTAL ELLIPSIS;0HYPHENATION POINT;0LINE SEPARATOR;0aPARAGRAPH;0LEFT-TO-RIGHT EMBEDDING;
0aRIGHT-TO-LEFT;0POP DIRECTIONAL FORMATTING;0LEFT-TO-RIGHT OVERRIDE;0aRIGHT-TO-LEFT;
0NARROW NO-BREAK SPACE;0PER MILLE SIGN;1aTEN THOUSAND;0PRIME;0aDOUBLE;0aTRIPLE;0aREVERSED;
1aDOUBLE;1aTRIPLE;0CARET;0SINGLE LEFT-POINTING ANGLE QUOTATION MARK;1cRIGHT-POINTING;0aREFERENCE;
0aDOUBLE EXCLAMATION;0INTERROBANG;0OVERLINE;0UNDERTIE;0CHARACTER TIE;0CARET INSERTION POINT;
0ASTERISM;0HYPHEN BULLET;0FRACTION SLASH;0LEFT SQUARE BRACKET WITH QUILL;0dRIGHT;
0DOUBLE QUESTION MARK;0aQUESTION EXCLAMATION;0aEXCLAMATION QUESTION;0TIRONIAN SIGN ET;
0REVERSED PILCROW SIGN;0BLACK LEFTWARDS BULLET;1aRIGHTWARDS;0LOW ASTERISK;0REVERSED SEMICOLON;
0CLOSE UP;0TWO ASTERISKS ALIGNED VERTICALLY;0COMMERCIAL MINUS SIGN;0SWUNG DASH;
0INVERTED UNDERTIE;0FLOWER PUNCTUATION MARK;0THREE DOT PUNCTUATION;0QUADRUPLE PRIME;
0FOUR DOT PUNCTUATION;0bFIVE;0bTWO;0FOUR DOT MARK;0DOTTED CROSS;0TRICOLON;0VERTICAL FOUR DOTS;
0MEDIUM MATHEMATICAL SPACE;0WORD JOINER;0FUNCTION APPLICATION;0INVISIBLE TIMES;1SEPARATOR;1PLUS;
2066=0LEFT-TO-RIGHT ISOLATE;0aRIGHT-TO-LEFT;0aFIRST STRONG;0aPOP DIRECTIONAL;
0INHIBIT SYMMETRIC SWAPPING;0bACTIVATE;0INHIBIT ARABIC FORM SHAPING;0cACTIVATE;
0NATIONAL DIGIT SHAPES;0bNOMINAL;0SUPERSCRIPT ZERO;1LATIN SMALL LETTER I;2074=1FOUR;1FIVE;1SIX;
1SEVEN;1EIGHT;1NINE;1PLUS SIGN;1MINUS;1EQUALS SIGN;1LEFT PARENTHESIS;1aRIGHT;
1LATIN SMALL LETTER N;0SUBSCRIPT ZERO;1ONE;1TWO;1THREE;1FOUR;1FIVE;1SIX;1SEVEN;1EIGHT;1NINE;
1PLUS SIGN;1MINUS;1EQUALS SIGN;1LEFT PARENTHESIS;1aRIGHT;2090=0LATIN SUBSCRIPT SMALL LETTER A;4E;
4O;4X;4SCHWA;4H;4K;4L;4M;4N;4P;4S;4T;20A0=0EURO-CURRENCY SIGN;0aCOLON;0aCRUZEIRO;0aFRENCH FRANC;
0aLIRA;0aMILL;0aNAIRA;0aPESETA;0aRUPEE;0aWON;0aNEW SHEQEL;0aDONG;0aEURO;0aKIP;0aTUGRIK;0aDRACHMA;
0aGERMAN PENNY;0aPESO;0aGUARANI;0aAUSTRAL;0aHRYVNIA;0aCEDI;0aLIVRE TOURNOIS;0aSPESMILO;0aTENGE;
0aINDIAN RUPEE;0aTURKISH LIRA;0aNORDIC MARK;0aMANAT;0aRUBLE;0aLARI;0aBITCOIN;0aSOM;
20D0=0COMBINING LEFT HARPOON ABOVE;1bRIGHT;1LONG VERTICAL LINE OVERLAY;1cSHORT;
1ANTICLOCKWISE ARROW ABOVE;1bCLOCKWISE;1bLEFT;1bRIGHT;1RING OVERLAY;1bCLOCKWISE;1bANTICLOCKWISE;
1THREE DOTS ABOVE;1bFOUR;1ENCLOSING CIRCLE;2SQUARE;2DIAMOND;2CIRCLE BACKSLASH;
1LEFT RIGHT ARROW ABOVE;1ENCLOSING SCREEN;2KEYCAP;2UPWARD POINTING TRIANGLE;
1REVERSE SOLIDUS OVERLAY;1aDOUBLE VERTICAL STROKE;1ANNUITY SYMBOL;1TRIPLE UNDERDOT;
1WIDE BRIDGE ABOVE;1LEFTWARDS ARROW OVERLAY;1aLONG DOUBLE SOLIDUS;
1RIGHTWARDS HARPOON WITH BARB DOWNWARDS;1dLEFTWARDS;1LEFT ARROW BELOW;1bRIGHT;1ASTERISK ABOVE;
2100=0ACCOUNT OF;0ADDRESSED TO THE SUBJECT;0DOUBLE-STRUCK CAPITAL C;0DEGREE CELSIUS;
0CENTRE LINE SYMBOL;0CARE OF;0CADA UNA;0EULER CONSTANT;0SCRUPLE;0DEGREE FAHRENHEIT;
0SCRIPT SMALL G;1CAPITAL H;0bBLACK-LETTER;0bDOUBLE-STRUCK;0PLANCK CONSTANT;2OVER TWO PI;
0SCRIPT CAPITAL I;0bBLACK-LETTER;0SCRIPT CAPITAL L;~;0L B BAR SYMBOL;0DOUBLE-STRUCK CAPITAL N;
0NUMERO SIGN;0SOUND RECORDING COPYRIGHT;0SCRIPT CAPITAL P;0bDOUBLE-STRUCK;2Q;0SCRIPT CAPITAL R;
0bBLACK-LETTER;0bDOUBLE-STRUCK;0PRESCRIPTION TAKE;0RESPONSE;0SERVICE MARK;0TELEPHONE SIGN;
0aTRADE MARK;0VERSICLE;0DOUBLE-STRUCK CAPITAL Z;0OUNCE SIGN;0aOHM;0bINVERTED;
0BLACK-LETTER CAPITAL Z;0TURNED GREEK SMALL LETTER IOTA;0KELVIN SIGN;0aANGSTROM;
0SCRIPT CAPITAL B;0BLACK-LETTER CAPITAL C;0ESTIMATED SYMBOL;0SCRIPT SMALL E;1aCAPITAL;2F;
0bTURNED;0SCRIPT CAPITAL M;1SMALL O;0ALEF SYMBOL;0aBET;0aGIMEL;0aDALET;0INFORMATION SOURCE;
0ROTATED CAPITAL Q;0FACSIMILE SIGN;0DOUBLE-STRUCK SMALL PI;2GAMMA;1aCAPITAL;2PI;1N-ARY SUMMATION;
0TURNED SANS-SERIF CAPITAL G;3L;0cREVERSED;0TURNED SANS-SERIF CAPITAL Y;
0DOUBLE-STRUCK ITALIC CAPITAL D;~;2SMALL E;3I;3J;0PROPERTY LINE;0TURNED AMPERSAND;0PER SIGN;
0AKTIESELSKAB;0TURNED SMALL F;0SYMBOL FOR SAMARITAN SOURCE;0VULGAR FRACTION ONE SEVENTH;3NINTH;
3TENTH;3THIRD;2TWO THIRDS;2ONE FIFTH;2TWO FIFTHS;2aTHREE;2aFOUR;2ONE SIXTH;2FIVE SIXTHS;
2ONE EIGHTH;2THREE EIGHTHS;2aFIVE;2aSEVEN;0FRACTION NUMERATOR ONE;0aROMAN NUMERAL;2TWO;2THREE;
2FOUR;2FIVE;2SIX;2SEVEN;2EIGHT;2NINE;2TEN;2ELEVEN;2TWELVE;2FIFTY;2ONE HUNDRED;2aFIVE;
2ONE THOUSAND;0SMALL ROMAN NUMERAL ONE;3TWO;3THREE;3FOUR;3FIVE;3SIX;3SEVEN;3EIGHT;3NINE;3TEN;
3ELEVEN;3TWELVE;3FIFTY;3ONE HUNDRED;3aFIVE;3ONE THOUSAND;0ROMAN NUMERAL ONE THOUSAND C D;
2FIVE THOUSAND;2aTEN;2REVERSED ONE HUNDRED;0LATIN SMALL LETTER REVERSED C;
0ROMAN NUMERAL SIX LATE FORM;2aFIFTY EARLY;3THOUSAND;2aONE HUNDRED;0VULGAR FRACTION ZERO THIRDS;
0TURNED DIGIT TWO;2THREE;2190=0LEFTWARDS ARROW;0aUPWARDS;0aRIGHTWARDS;0aDOWNWARDS;0aLEFT RIGHT;
0aUP DOWN;0aNORTH WEST;1aEAST;0bSOUTH;1aWEST;0LEFTWARDS ARROW WITH STROKE;0cRIGHTWARDS;
0LEFTWARDS WAVE ARROW;0bRIGHTWARDS;0aLEFTWARDS TWO HEADED;0cUPWARDS;0cRIGHTWARDS;0cDOWNWARDS;
0LEFTWARDS ARROW WITH TAIL;0cRIGHTWARDS;0LEFTWARDS ARROW FROM BAR;0cUPWARDS;0cRIGHTWARDS;
0cDOWNWARDS;0UP DOWN ARROW WITH BASE;0LEFTWARDS ARROW WITH HOOK;0cRIGHTWARDS;
0LEFTWARDS ARROW WITH LOOP;0cRIGHTWARDS;0LEFT RIGHT WAVE ARROW;2ARROW WITH STROKE;
0DOWNWARDS ZIGZAG ARROW;0UPWARDS ARROW WITH TIP LEFTWARDS;4RIGHTWARDS;
0DOWNWARDS ARROW WITH TIP LEFTWARDS;4RIGHTWARDS;0RIGHTWARDS ARROW WITH CORNER DOWNWARDS;
0DOWNWARDS ARROW WITH CORNER LEFTWARDS;0ANTICLOCKWISE TOP SEMICIRCLE ARROW;0cCLOCKWISE;
0NORTH WEST ARROW TO LONG BAR;0aLEFTWARDS ARROW TO BAR OVER RIGHTWARDS ARROW TO;
0ANTICLOCKWISE OPEN CIRCLE ARROW;0cCLOCKWISE;0LEFTWARDS HARPOON WITH BARB UPWARDS;4DOWNWARDS;
0UPWARDS HARPOON WITH BARB RIGHTWARDS;4LEFTWARDS;0RIGHTWARDS HARPOON WITH BARB UPWARDS;
4DOWNWARDS;0DOWNWARDS HARPOON WITH BARB RIGHTWARDS;4LEFTWARDS;
0RIGHTWARDS ARROW OVER LEFTWARDS ARROW;0aUPWARDS ARROW LEFTWARDS OF DOWNWARDS;
0aLEFTWARDS ARROW OVER RIGHTWARDS;1PAIRED ARROWS;0bUPWARDS;0bRIGHTWARDS;0bDOWNWARDS;
0LEFTWARDS HARPOON OVER RIGHTWARDS HARPOON;0aRIGHTWARDS HARPOON OVER LEFTWARDS;
0LEFTWARDS DOUBLE ARROW WITH STROKE;0dLEFT RIGHT;0dRIGHTWARDS;0LEFTWARDS DOUBLE ARROW;0bUPWARDS;
0bRIGHTWARDS;0bDOWNWARDS;0bLEFT RIGHT;0bUP DOWN;0bNORTH WEST;1bEAST;0cSOUTH;1bWEST;
0aLEFTWARDS TRIPLE;0bRIGHTWARDS;0aLEFTWARDS SQUIGGLE;0bRIGHTWARDS;
0UPWARDS ARROW WITH DOUBLE STROKE;0dDOWNWARDS;0LEFTWARDS DASHED ARROW;0bUPWARDS;0bRIGHTWARDS;
0bDOWNWARDS;0LEFTWARDS ARROW TO BAR;0cRIGHTWARDS;0LEFTWARDS WHITE ARROW;0bUPWARDS;0bRIGHTWARDS;
0bDOWNWARDS;0UPWARDS WHITE ARROW FROM BAR;3ON PEDESTAL;5WITH HORIZONTAL BAR;6aVERTICAL;
2DOUBLE ARROW;4ON PEDESTAL;0RIGHTWARDS WHITE ARROW FROM WALL;0NORTH WEST ARROW TO CORNER;
0cSOUTH EAST;0UP DOWN WHITE ARROW;0RIGHT ARROW WITH SMALL CIRCLE;
0DOWNWARDS ARROW LEFTWARDS OF UPWARDS ARROW;0THREE RIGHTWARDS ARROWS;
0LEFTWARDS ARROW WITH VERTICAL STROKE;0dRIGHTWARDS;0dLEFT RIGHT;0bLEFTWARDS ARROW WITH DOUBLE;
0eRIGHTWARDS;0eLEFT RIGHT;0LEFTWARDS OPEN-HEADED ARROW;0bRIGHTWARDS;0bLEFT RIGHT;0FOR ALL;
0COMPLEMENT;0PARTIAL DIFFERENTIAL;0THERE EXISTS;1DOES NOT EXIST;0EMPTY SET;0INCREMENT;0NABLA;
0ELEMENT OF;0bNOT AN;0bSMALL;0CONTAINS AS MEMBER;0bDOES NOT CONTAIN;0bSMALL CONTAINS;
0END OF PROOF;0N-ARY PRODUCT;1COPRODUCT;1SUMMATION;0MINUS SIGN;0aMINUS-OR-PLUS;0DOT PLUS;
0DIVISION SLASH;0SET MINUS;0ASTERISK OPERATOR;0aRING;0aBULLET;0SQUARE ROOT;0aCUBE;0aFOURTH;
0PROPORTIONAL TO;0INFINITY;0RIGHT ANGLE;0a;0aMEASURED;0aSPHERICAL;0DIVIDES;0DOES NOT DIVIDE;
0PARALLEL TO;0bNOT;0LOGICAL AND;1OR;0INTERSECTION;0UNION;0INTEGRAL;0aDOUBLE;0aTRIPLE;0aCONTOUR;
0aSURFACE;0aVOLUME;0aCLOCKWISE;1aCONTOUR;0bANTICLOCKWISE;0THEREFORE;0BECAUSE;0RATIO;0PROPORTION;
0DOT MINUS;0EXCESS;0GEOMETRIC PROPORTION;0HOMOTHETIC;0TILDE OPERATOR;0REVERSED TILDE;
0INVERTED LAZY S;0SINE WAVE;0WREATH PRODUCT;0NOT TILDE;0aMINUS;0ASYMPTOTICALLY EQUAL TO;0cNOT;
0bAPPROXIMATELY;1bBUT NOT ACTUALLY;0cNEITHER APPROXIMATELY NOR;0bALMOST;0cNOT;0bALMOST EQUAL OR;
0TRIPLE TILDE;0ALL EQUAL TO;0aEQUIVALENT;0bGEOMETRICALLY;0DIFFERENCE BETWEEN;
0APPROACHES THE LIMIT;0GEOMETRICALLY EQUAL TO;0APPROXIMATELY EQUAL TO OR THE IMAGE OF;
0IMAGE OF OR APPROXIMATELY EQUAL TO;0COLON EQUALS;0EQUALS COLON;0RING IN EQUAL TO;1b;
0aCORRESPONDS;0ESTIMATES;0EQUIANGULAR TO;0STAR EQUALS;0DELTA EQUAL TO;0EQUAL TO BY DEFINITION;
0MEASURED BY;0QUESTIONED EQUAL TO;0bNOT;0aIDENTICAL;0bNOT;0aSTRICTLY EQUIVALENT;
0aLESS-THAN OR EQUAL;0cGREATER-THAN;0bLESS-THAN OVER;0cGREATER-THAN;0bLESS-THAN BUT NOT;
0dGREATER-THAN;0MUCH LESS-THAN;1GREATER-THAN;0BETWEEN;0NOT EQUIVALENT TO;1LESS-THAN;
1GREATER-THAN;0NEITHER LESS-THAN NOR EQUAL TO;1cGREATER-THAN;0aLESS-THAN OR EQUIVALENT;
0cGREATER-THAN;0bNEITHER LESS-THAN NOR;1cGREATER-THAN;0LESS-THAN OR GREATER-THAN;
0GREATER-THAN OR LESS-THAN;0NEITHER LESS-THAN NOR GREATER-THAN;1GREATER-THAN NOR LESS-THAN;
0PRECEDES;0SUCCEEDS;0PRECEDES OR EQUAL TO;0cSUCCEEDS;0aPRECEDES OR EQUIVALENT;0cSUCCEEDS;
0DOES NOT PRECEDE;2SUCCEED;0SUBSET OF;0aSUPERSET;0aNOT A SUBSET;2aSUPERSET;
0SUBSET OF OR EQUAL TO;0dSUPERSET;0bNEITHER A SUBSET OF NOR;2dSUPERSET;0bSUBSET OF WITH NOT;
0eSUPERSET;0MULTISET;1MULTIPLICATION;1UNION;0SQUARE IMAGE OF;1aORIGINAL;1IMAGE OF OR EQUAL TO;
1dORIGINAL;1CAP;1CUP;0CIRCLED PLUS;1MINUS;1TIMES;1DIVISION SLASH;1DOT OPERATOR;1aRING;1aASTERISK;
1EQUALS;1DASH;0SQUARED PLUS;1MINUS;1TIMES;1DOT OPERATOR;0RIGHT TACK;0aLEFT;0aDOWN;0aUP;
0ASSERTION;0MODELS;0TRUE;0FORCES;0TRIPLE VERTICAL BAR RIGHT TURNSTILE;
0bDOUBLE VERTICAL BAR DOUBLE;0DOES NOT PROVE;0NOT TRUE;0DOES NOT FORCE;
0NEGATED DOUBLE VERTICAL BAR DOUBLE RIGHT TURNSTILE;0PRECEDES UNDER RELATION;0bSUCCEEDS;
0NORMAL SUBGROUP OF;0CONTAINS AS NORMAL SUBGROUP;0NORMAL SUBGROUP OF OR EQUAL TO;
0cCONTAINS AS NORMAL SUBGROUP;0ORIGINAL OF;0aIMAGE;0MULTIMAP;0HERMITIAN CONJUGATE MATRIX;
0INTERCALATE;0XOR;0NAND;0NOR;0RIGHT ANGLE WITH ARC;1TRIANGLE;0N-ARY LOGICAL AND;2OR;
1INTERSECTION;1UNION;0DIAMOND OPERATOR;0aDOT;0aSTAR;0DIVISION TIMES;0BOWTIE;
0LEFT NORMAL FACTOR SEMIDIRECT PRODUCT;0dRIGHT;0bLEFT;0bRIGHT;0REVERSED TILDE EQUALS;
0CURLY LOGICAL OR;2AND;0DOUBLE SUBSET;1SUPERSET;1INTERSECTION;1UNION;0PITCHFORK;
0EQUAL AND PARALLEL TO;0LESS-THAN WITH DOT;0bGREATER-THAN;0VERY MUCH LESS-THAN;2GREATER-THAN;
0aLESS-THAN EQUAL TO OR;0GREATER-THAN EQUAL TO OR LESS-THAN;0d;3GREATER-THAN;3PRECEDES;3SUCCEEDS;
0DOES NOT PRECEDE OR EQUAL;2bSUCCEED;0NOT SQUARE IMAGE OF OR EQUAL TO;2dORIGINAL;
0bSQUARE IMAGE OF OR NOT;1eORIGINAL;0aLESS-THAN BUT NOT EQUIVALENT;0dGREATER-THAN;0dPRECEDES;
0dSUCCEEDS;0NOT NORMAL SUBGROUP OF;0DOES NOT CONTAIN AS NORMAL SUBGROUP;
0NOT NORMAL SUBGROUP OF OR EQUAL TO;0DOES NOT CONTAIN AS NORMAL SUBGROUP OR EQUAL;
0VERTICAL ELLIPSIS;0aMIDLINE HORIZONTAL;0aUP RIGHT DIAGONAL;0cDOWN;
0ELEMENT OF WITH LONG HORIZONTAL STROKE;3bVERTICAL BAR AT END OF;0iSMALL ELEMENT;
0ELEMENT OF WITH DOT ABOVE;3OVERBAR;0dSMALL;0ELEMENT OF WITH UNDERBAR;3TWO HORIZONTAL STROKES;
0CONTAINS WITH LONG HORIZONTAL STROKE;2bVERTICAL BAR AT END OF;0iSMALL;0CONTAINS WITH OVERBAR;
0cSMALL;0Z NOTATION BAG MEMBERSHIP;0DIAMETER SIGN;0ELECTRIC ARROW;0HOUSE;0UP ARROWHEAD;0aDOWN;
0PROJECTIVE;0PERSPECTIVE;0WAVY LINE;0LEFT CEILING;0aRIGHT;0LEFT FLOOR;0aRIGHT;0BOTTOM RIGHT CROP;
1aLEFT;0aTOP RIGHT;1aLEFT;0REVERSED NOT SIGN;0SQUARE LOZENGE;0ARC;0SEGMENT;0SECTOR;
0TELEPHONE RECORDER;0POSITION INDICATOR;0VIEWDATA SQUARE;0PLACE OF INTEREST SIGN;0aTURNED NOT;
0WATCH;0HOURGLASS;0TOP LEFT CORNER;1aRIGHT;0aBOTTOM LEFT;1aRIGHT;0TOP HALF INTEGRAL;0bBOTTOM;
0FROWN;0SMILE;0UP ARROWHEAD BETWEEN TWO HORIZONTAL BARS;0OPTION KEY;0ERASE TO THE RIGHT;
0X IN A RECTANGLE BOX;0KEYBOARD;0LEFT-POINTING ANGLE BRACKET;0bRIGHT-POINTING;0ERASE TO THE LEFT;
0BENZENE RING;0CYLINDRICITY;0ALL AROUND-PROFILE;0SYMMETRY;0TOTAL RUNOUT;0DIMENSION ORIGIN;
0CONICAL TAPER;0SLOPE;0COUNTERBORE;0COUNTERSINK;0APL FUNCTIONAL SYMBOL I-BEAM;3SQUISH QUAD;
3QUAD EQUAL;4DIVIDE;4DIAMOND;4JOT;4CIRCLE;3CIRCLE STILE;4JOT;3SLASH BAR;3aBACKSLASH;3QUAD SLASH;
4BACKSLASH;4LESS-THAN;4GREATER-THAN;3LEFTWARDS VANE;3aRIGHTWARDS;3QUAD LEFTWARDS ARROW;
4aRIGHTWARDS;3CIRCLE BACKSLASH;3DOWN TACK UNDERBAR;3DELTA STILE;3QUAD DOWN CARET;4DELTA;
3DOWN TACK JOT;3UPWARDS VANE;3QUAD UPWARDS ARROW;3UP TACK OVERBAR;3DEL STILE;3QUAD UP CARET;4DEL;
3UP TACK JOT;3DOWNWARDS VANE;3QUAD DOWNWARDS ARROW;3QUOTE UNDERBAR;3aDELTA;3aDIAMOND;3aJOT;
3aCIRCLE;3UP SHOE JOT;3QUOTE QUAD;3CIRCLE STAR;3QUAD COLON;3UP TACK DIAERESIS;3aDEL;3aSTAR;3aJOT;
3aCIRCLE;3DOWN SHOE STILE;3bLEFT;3TILDE DIAERESIS;3aGREATER-THAN;3COMMA BAR;3DEL TILDE;3ZILDE;
3STILE TILDE;3SEMICOLON UNDERBAR;3QUAD NOT EQUAL;4QUESTION;3DOWN CARET TILDE;3bUP;3IOTA;3RHO;
3OMEGA;3ALPHA UNDERBAR;3aEPSILON;3aIOTA;3aOMEGA;3ALPHA;0NOT CHECK MARK;
0RIGHT ANGLE WITH DOWNWARDS ZIGZAG ARROW;0SHOULDERED OPEN BOX;0BELL SYMBOL;
0VERTICAL LINE WITH MIDDLE DOT;0INSERTION SYMBOL;0aCONTINUOUS UNDERLINE;0bDISCONTINUOUS;
0aEMPHASIS;0aCOMPOSITION;0WHITE SQUARE WITH CENTRE VERTICAL LINE;0ENTER SYMBOL;0aALTERNATIVE KEY;
0aHELM;0CIRCLED HORIZONTAL BAR WITH NOTCH;1TRIANGLE DOWN;0BROKEN CIRCLE WITH NORTHWEST ARROW;
0UNDO SYMBOL;0aMONOSTABLE;0aHYSTERESIS;0aOPEN-CIRCUIT-OUTPUT H-TYPE;1aL-TYPE;
0aPASSIVE-PULL-DOWN-OUTPUT;0aPASSIVE-PULL-UP-OUTPUT;0DIRECT CURRENT SYMBOL FORM TWO;
0SOFTWARE-FUNCTION SYMBOL;0APL FUNCTIONAL SYMBOL QUAD;0DECIMAL SEPARATOR KEY SYMBOL;
0PREVIOUS PAGE;0aNEXT;0PRINT SCREEN SYMBOL;0bCLEAR;0LEFT PARENTHESIS UPPER HOOK;2EXTENSION;
2LOWER HOOK;0aRIGHT PARENTHESIS UPPER;2EXTENSION;2LOWER HOOK;0LEFT SQUARE BRACKET UPPER CORNER;
3EXTENSION;3LOWER CORNER;0aRIGHT SQUARE BRACKET UPPER;3EXTENSION;3LOWER CORNER;
0LEFT CURLY BRACKET UPPER HOOK;3MIDDLE PIECE;3LOWER HOOK;0CURLY BRACKET EXTENSION;
0RIGHT CURLY BRACKET UPPER HOOK;3MIDDLE PIECE;3LOWER HOOK;0INTEGRAL EXTENSION;0aHORIZONTAL LINE;
0UPPER LEFT OR LOWER RIGHT CURLY BRACKET SECTION;1cRIGHT OR LOWER LEFT;0SUMMATION TOP;1BOTTOM;
0TOP SQUARE BRACKET;0bBOTTOM;3OVER TOP SQUARE BRACKET;0RADICAL SYMBOL BOTTOM;
0LEFT VERTICAL BOX LINE;0cRIGHT;0HORIZONTAL SCAN LINE-1;2LINE-3;2LINE-7;2LINE-9;
0DENTISTRY SYMBOL LIGHT VERTICAL AND TOP RIGHT;5aBOTTOM;4WITH CIRCLE;3bDOWN AND HORIZONTAL;3dUP;
3VERTICAL WITH TRIANGLE;3bDOWN AND HORIZONTAL;3dUP;3VERTICAL AND WAVE;3aDOWN AND HORIZONTAL WITH;
3dUP;3DOWN AND HORIZONTAL;3bUP;3VERTICAL AND TOP LEFT;5aBOTTOM;0SQUARE FOOT;0RETURN SYMBOL;
0aEJECT;0VERTICAL LINE EXTENSION;0METRICAL BREVE;1LONG OVER SHORT;1SHORT OVER LONG;
1LONG OVER TWO SHORTS;1TWO SHORTS OVER LONG;3JOINED;1TRISEME;1TETRASEME;1PENTASEME;0EARTH GROUND;
0FUSE;0TOP PARENTHESIS;0aBOTTOM;0TOP CURLY BRACKET;0bBOTTOM;0aTOP TORTOISE SHELL;0cBOTTOM;
0WHITE TRAPEZIUM;0BENZENE RING WITH CIRCLE;0STRAIGHTNESS;0FLATNESS;0AC CURRENT;
0ELECTRICAL INTERSECTION;0DECIMAL EXPONENT SYMBOL;0BLACK RIGHT-POINTING DOUBLE TRIANGLE;
1bLEFT-POINTING;1bUP-POINTING;1bDOWN-POINTING;1RIGHT-POINTING DOUBLE TRIANGLE WITH VERTICAL BAR;
1eLEFT-POINTING;1bRIGHT-POINTING TRIANGLE WITH DOUBLE;0ALARM CLOCK;0STOPWATCH;0TIMER CLOCK;
0HOURGLASS WITH FLOWING SAND;0BLACK MEDIUM LEFT-POINTING TRIANGLE;2aRIGHT-POINTING;2aUP-POINTING;
2aDOWN-POINTING;0DOUBLE VERTICAL BAR;0BLACK SQUARE FOR STOP;1CIRCLE FOR RECORD;0POWER SYMBOL;
1aON-OFF;1aON;1aSLEEP;0aOBSERVER EYE;0SYMBOL FOR NULL;2START OF HEADING;4TEXT;2bEND;
4TRANSMISSION;2ENQUIRY;2ACKNOWLEDGE;2BELL;2BACKSPACE;2HORIZONTAL TABULATION;2LINE FEED;
2VERTICAL TABULATION;2FORM FEED;2CARRIAGE RETURN;2SHIFT OUT;3IN;2DATA LINK ESCAPE;
2DEVICE CONTROL ONE;4TWO;4THREE;4FOUR;2NEGATIVE ACKNOWLEDGE;2SYNCHRONOUS IDLE;
2END OF TRANSMISSION BLOCK;2CANCEL;2END OF MEDIUM;2SUBSTITUTE;2ESCAPE;2FILE SEPARATOR;2aGROUP;
2aRECORD;2aUNIT;2SPACE;2DELETE;0BLANK SYMBOL;0OPEN BOX;0SYMBOL FOR NEWLINE;2DELETE FORM TWO;
2bSUBSTITUTE;2440=0OCR HOOK;1CHAIR;1FORK;1aINVERTED;1BELT BUCKLE;1BOW TIE;
1BRANCH BANK IDENTIFICATION;1AMOUNT OF CHECK;1DASH;1CUSTOMER ACCOUNT NUMBER;1DOUBLE BACKSLASH;
2460=0CIRCLED DIGIT ONE;2TWO;2THREE;2FOUR;2FIVE;2SIX;2SEVEN;2EIGHT;2NINE;1NUMBER TEN;2ELEVEN;
2TWELVE;2THIRTEEN;2FOURTEEN;2FIFTEEN;2SIXTEEN;2SEVENTEEN;2EIGHTEEN;2NINETEEN;2TWENTY;
0PARENTHESIZED DIGIT ONE;2TWO;2THREE;2FOUR;2FIVE;2SIX;2SEVEN;2EIGHT;2NINE;1NUMBER TEN;2ELEVEN;
2TWELVE;2THIRTEEN;2FOURTEEN;2FIFTEEN;2SIXTEEN;2SEVENTEEN;2EIGHTEEN;2NINETEEN;2TWENTY;
0DIGIT ONE FULL STOP;1bTWO;1bTHREE;1bFOUR;1bFIVE;1bSIX;1bSEVEN;1bEIGHT;1bNINE;0bNUMBER TEN;
1bELEVEN;1bTWELVE;1bTHIRTEEN;1bFOURTEEN;1bFIFTEEN;1bSIXTEEN;1bSEVENTEEN;1bEIGHTEEN;1bNINETEEN;
1bTWENTY;0PARENTHESIZED LATIN SMALL LETTER A;4B;4C;4D;4E;4F;4G;4H;4I;4J;4K;4L;4M;4N;4O;4P;4Q;4R;
4S;4T;4U;4V;4W;4X;4Y;4Z;0CIRCLED LATIN CAPITAL LETTER A;4B;4C;4D;4E;4F;4G;4H;4I;4J;4K;4L;4M;4N;
4O;4P;4Q;4R;4S;4T;4U;4V;4W;4X;4Y;4Z;2SMALL LETTER A;4B;4C;4D;4E;4F;4G;4H;4I;4J;4K;4L;4M;4N;4O;4P;
4Q;4R;4S;4T;4U;4V;4W;4X;4Y;4Z;1DIGIT ZERO;0NEGATIVE CIRCLED NUMBER ELEVEN;3TWELVE;3THIRTEEN;
3FOURTEEN;3FIFTEEN;3SIXTEEN;3SEVENTEEN;3EIGHTEEN;3NINETEEN;3TWENTY;0DOUBLE CIRCLED DIGIT ONE;
3TWO;3THREE;3FOUR;3FIVE;3SIX;3SEVEN;3EIGHT;3NINE;2NUMBER TEN;0NEGATIVE CIRCLED DIGIT ZERO;
0BOX DRAWINGS LIGHT HORIZONTAL;2aHEAVY;2LIGHT VERTICAL;2aHEAVY;2LIGHT TRIPLE DASH HORIZONTAL;
2cHEAVY;2LIGHT TRIPLE DASH VERTICAL;2cHEAVY;2LIGHT QUADRUPLE DASH HORIZONTAL;2cHEAVY;
2LIGHT QUADRUPLE DASH VERTICAL;2cHEAVY;2LIGHT DOWN AND RIGHT;2DOWN LIGHT AND RIGHT HEAVY;
3HEAVY AND RIGHT LIGHT;2HEAVY DOWN AND RIGHT;2LIGHT DOWN AND LEFT;2DOWN LIGHT AND LEFT HEAVY;
3HEAVY AND LEFT LIGHT;2HEAVY DOWN AND LEFT;2LIGHT UP AND RIGHT;2UP LIGHT AND RIGHT HEAVY;
3HEAVY AND RIGHT LIGHT;2HEAVY UP AND RIGHT;2LIGHT UP AND LEFT;2UP LIGHT AND LEFT HEAVY;
3HEAVY AND LEFT LIGHT;2HEAVY UP AND LEFT;2LIGHT VERTICAL AND RIGHT;
2VERTICAL LIGHT AND RIGHT HEAVY;2UP HEAVY AND RIGHT DOWN LIGHT;2aDOWN HEAVY AND RIGHT UP;
2aVERTICAL HEAVY AND RIGHT;2DOWN LIGHT AND RIGHT UP HEAVY;2aUP LIGHT AND RIGHT DOWN;
2HEAVY VERTICAL AND RIGHT;2LIGHT VERTICAL AND LEFT;2VERTICAL LIGHT AND LEFT HEAVY;
2UP HEAVY AND LEFT DOWN LIGHT;2aDOWN HEAVY AND LEFT UP;2aVERTICAL HEAVY AND LEFT;
2DOWN LIGHT AND LEFT UP HEAVY;2aUP LIGHT AND LEFT DOWN;2HEAVY VERTICAL AND LEFT;
2LIGHT DOWN AND HORIZONTAL;2LEFT HEAVY AND RIGHT DOWN LIGHT;2bRIGHT HEAVY AND LEFT;
2DOWN LIGHT AND HORIZONTAL HEAVY;3HEAVY AND HORIZONTAL LIGHT;2RIGHT LIGHT AND LEFT DOWN HEAVY;
2bLEFT LIGHT AND RIGHT;2HEAVY DOWN AND HORIZONTAL;2bLIGHT UP;2LEFT HEAVY AND RIGHT UP LIGHT;
2bRIGHT HEAVY AND LEFT;2UP LIGHT AND HORIZONTAL HEAVY;3HEAVY AND HORIZONTAL LIGHT;
2RIGHT LIGHT AND LEFT UP HEAVY;2bLEFT LIGHT AND RIGHT;2HEAVY UP AND HORIZONTAL;2bLIGHT VERTICAL;
2LEFT HEAVY AND RIGHT VERTICAL LIGHT;2bRIGHT HEAVY AND LEFT;2VERTICAL LIGHT AND HORIZONTAL HEAVY;
2UP HEAVY AND DOWN HORIZONTAL LIGHT;2bDOWN HEAVY AND UP;2bVERTICAL HEAVY AND;
2aLEFT UP HEAVY AND RIGHT DOWN;2bRIGHT UP HEAVY AND LEFT;2aLEFT DOWN HEAVY AND RIGHT UP;
2bRIGHT DOWN HEAVY AND LEFT;2DOWN LIGHT AND UP HORIZONTAL HEAVY;2bUP LIGHT AND DOWN;
2aRIGHT LIGHT AND LEFT VERTICAL;2bLEFT LIGHT AND RIGHT;2HEAVY VERTICAL AND HORIZONTAL;
2aLIGHT DOUBLE DASH;2cHEAVY;2LIGHT DOUBLE DASH VERTICAL;2cHEAVY;2DOUBLE HORIZONTAL;3VERTICAL;
2DOWN SINGLE AND RIGHT DOUBLE;3DOUBLE AND RIGHT SINGLE;2DOUBLE DOWN AND RIGHT;
2DOWN SINGLE AND LEFT DOUBLE;3DOUBLE AND LEFT SINGLE;2DOUBLE DOWN AND LEFT;
2UP SINGLE AND RIGHT DOUBLE;3DOUBLE AND RIGHT SINGLE;2DOUBLE UP AND RIGHT;
2UP SINGLE AND LEFT DOUBLE;3DOUBLE AND LEFT SINGLE;2DOUBLE UP AND LEFT;
2VERTICAL SINGLE AND RIGHT DOUBLE;3DOUBLE AND RIGHT SINGLE;2DOUBLE VERTICAL AND RIGHT;
2VERTICAL SINGLE AND LEFT DOUBLE;3DOUBLE AND LEFT SINGLE;2DOUBLE VERTICAL AND LEFT;
2DOWN SINGLE AND HORIZONTAL DOUBLE;3DOUBLE AND HORIZONTAL SINGLE;2DOUBLE DOWN AND HORIZONTAL;
2UP SINGLE AND HORIZONTAL DOUBLE;3DOUBLE AND HORIZONTAL SINGLE;2DOUBLE UP AND HORIZONTAL;
2VERTICAL SINGLE AND HORIZONTAL DOUBLE;3DOUBLE AND HORIZONTAL SINGLE;
2DOUBLE VERTICAL AND HORIZONTAL;2LIGHT ARC DOWN AND RIGHT;6LEFT;4bUP;6RIGHT;
3DIAGONAL UPPER RIGHT TO LOWER LEFT;5LEFT TO LOWER RIGHT;4CROSS;3LEFT;3UP;3RIGHT;3DOWN;
2HEAVY LEFT;3UP;3RIGHT;3DOWN;2LIGHT LEFT AND HEAVY RIGHT;3UP AND HEAVY DOWN;
2HEAVY LEFT AND LIGHT RIGHT;3UP AND LIGHT DOWN;0UPPER HALF BLOCK;0aLOWER ONE EIGHTH;2aQUARTER;
1aTHREE EIGHTHS;1aHALF;1aFIVE EIGHTHS;1aTHREE QUARTERS;1aSEVEN EIGHTHS;0aFULL;
0aLEFT SEVEN EIGHTHS;1aTHREE QUARTERS;1aFIVE EIGHTHS;1aHALF;1aTHREE EIGHTHS;1aONE QUARTER;
2aEIGHTH;0aRIGHT HALF;0LIGHT SHADE;0aMEDIUM;0aDARK;0UPPER ONE EIGHTH BLOCK;0cRIGHT;
0QUADRANT LOWER LEFT;2RIGHT;1UPPER LEFT;3AND LOWER LEFT AND LOWER RIGHT;5a;
4UPPER RIGHT AND LOWER LEFT;8RIGHT;2a;3AND LOWER LEFT;6AND LOWER RIGHT;0BLACK SQUARE;0aWHITE;
2WITH ROUNDED CORNERS;2CONTAINING BLACK SMALL SQUARE;0SQUARE WITH HORIZONTAL FILL;2aVERTICAL;
2aORTHOGONAL CROSSHATCH;2aUPPER LEFT TO LOWER RIGHT;3aRIGHT TO LOWER LEFT;2aDIAGONAL CROSSHATCH;
0BLACK SMALL SQUARE;0bWHITE;0BLACK RECTANGLE;0aWHITE;0aBLACK VERTICAL;0bWHITE;
0BLACK PARALLELOGRAM;0aWHITE;0BLACK UP-POINTING TRIANGLE;0bWHITE;0aBLACK UP-POINTING SMALL;
0cWHITE;0aBLACK RIGHT-POINTING;0bWHITE;0aBLACK RIGHT-POINTING SMALL;0cWHITE;
0BLACK RIGHT-POINTING POINTER;0bWHITE;0BLACK DOWN-POINTING TRIANGLE;0bWHITE;
0aBLACK DOWN-POINTING SMALL;0cWHITE;0aBLACK LEFT-POINTING;0bWHITE;0aBLACK LEFT-POINTING SMALL;
0cWHITE;0BLACK LEFT-POINTING POINTER;0bWHITE;0BLACK DIAMOND;0aWHITE;
2CONTAINING BLACK SMALL DIAMOND;0FISHEYE;0LOZENGE;0WHITE CIRCLE;0aDOTTED;
0CIRCLE WITH VERTICAL FILL;0BULLSEYE;0BLACK CIRCLE;0CIRCLE WITH LEFT HALF BLACK;2bRIGHT;2bLOWER;
2bUPPER;3aRIGHT QUADRANT;2bALL BUT UPPER LEFT;0LEFT HALF BLACK CIRCLE;0cRIGHT;0INVERSE BULLET;
1WHITE CIRCLE;0cUPPER HALF;0dLOWER;0UPPER LEFT QUADRANT CIRCULAR ARC;1cRIGHT;0dLOWER;1cLEFT;
0UPPER HALF CIRCLE;0bLOWER;0BLACK LOWER RIGHT TRIANGLE;2aLEFT;1bUPPER;2aRIGHT;0WHITE BULLET;
0SQUARE WITH LEFT HALF BLACK;2bRIGHT;2bUPPER LEFT DIAGONAL;2cLOWER RIGHT;
0WHITE SQUARE WITH VERTICAL BISECTING LINE;1UP-POINTING TRIANGLE WITH DOT;
0UP-POINTING TRIANGLE WITH LEFT HALF BLACK;3bRIGHT;0LARGE CIRCLE;
0WHITE SQUARE WITH UPPER LEFT QUADRANT;3bLOWER;4aRIGHT;3bUPPER;1aCIRCLE WITH UPPER LEFT;3bLOWER;
4aRIGHT;3bUPPER;0UPPER LEFT TRIANGLE;1aRIGHT;0aLOWER LEFT;0WHITE MEDIUM SQUARE;0bBLACK;
0aWHITE MEDIUM SMALL;0cBLACK;0LOWER RIGHT TRIANGLE;0BLACK SUN WITH RAYS;0CLOUD;0UMBRELLA;
0SNOWMAN;0COMET;0BLACK STAR;0aWHITE;0LIGHTNING;0THUNDERSTORM;0SUN;0ASCENDING NODE;0aDESCENDING;
0CONJUNCTION;0OPPOSITION;0BLACK TELEPHONE;0aWHITE;0BALLOT BOX;2WITH CHECK;3X;0SALTIRE;
0UMBRELLA WITH RAIN DROPS;0HOT BEVERAGE;0WHITE SHOGI PIECE;0bBLACK;0SHAMROCK;
0REVERSED ROTATED FLORAL HEART BULLET;0BLACK LEFT POINTING INDEX;1bRIGHT;0bWHITE LEFT;1bUP;
1bRIGHT;1bDOWN;0SKULL AND CROSSBONES;0CAUTION SIGN;0aRADIOACTIVE;0aBIOHAZARD;0CADUCEUS;0ANKH;
0ORTHODOX CROSS;0CHI RHO;0CROSS OF LORRAINE;2JERUSALEM;0STAR AND CRESCENT;0FARSI SYMBOL;
0ADI SHAKTI;0HAMMER AND SICKLE;0PEACE SYMBOL;0YIN YANG;0TRIGRAM FOR HEAVEN;2LAKE;2FIRE;2THUNDER;
2WIND;2WATER;2MOUNTAIN;2EARTH;0WHEEL OF DHARMA;0WHITE FROWNING FACE;1aSMILING;0bBLACK;
0WHITE SUN WITH RAYS;0FIRST QUARTER MOON;0bLAST;0MERCURY;0FEMALE SIGN;0EARTH;0MALE SIGN;0JUPITER;
0SATURN;0URANUS;0NEPTUNE;0PLUTO;0ARIES;0TAURUS;0GEMINI;0CANCER;0LEO;0VIRGO;0LIBRA;0SCORPIUS;
0SAGITTARIUS;0CAPRICORN;0AQUARIUS;0PISCES;0WHITE CHESS KING;2QUEEN;2ROOK;2BISHOP;2KNIGHT;2PAWN;
0BLACK CHESS KING;2QUEEN;2ROOK;2BISHOP;2KNIGHT;2PAWN;1SPADE SUIT;0aWHITE HEART;1aDIAMOND;
0aBLACK CLUB;0aWHITE SPADE;0aBLACK HEART;1aDIAMOND;0aWHITE CLUB;0HOT SPRINGS;0QUARTER NOTE;
0aEIGHTH;0BEAMED EIGHTH NOTES;1aSIXTEENTH;0MUSIC FLAT SIGN;1aNATURAL;1aSHARP;0WEST SYRIAC CROSS;
0bEAST;0UNIVERSAL RECYCLING SYMBOL;0RECYCLING SYMBOL FOR TYPE-1 PLASTICS;3aTYPE-2;3aTYPE-3;
3aTYPE-4;3aTYPE-5;3aTYPE-6;3aTYPE-7;3GENERIC MATERIALS;0BLACK UNIVERSAL RECYCLING SYMBOL;
0aRECYCLED PAPER;0bPARTIALLY-RECYCLED;0PERMANENT PAPER SIGN;0WHEELCHAIR SYMBOL;0DIE FACE-1;+5;
0WHITE CIRCLE WITH DOT RIGHT;3TWO DOTS;0BLACK CIRCLE WITH WHITE DOT RIGHT;3TWO WHITE DOTS;
0MONOGRAM FOR YANG;2YIN;0DIGRAM FOR GREATER YANG;2LESSER YIN;3YANG;2GREATER YIN;0WHITE FLAG;
0aBLACK;0HAMMER AND PICK;0ANCHOR;0CROSSED SWORDS;0STAFF OF AESCULAPIUS;0SCALES;0ALEMBIC;0FLOWER;
0GEAR;0STAFF OF HERMES;0ATOM SYMBOL;0FLEUR-DE-LIS;0OUTLINED WHITE STAR;
0THREE LINES CONVERGING RIGHT;3LEFT;0WARNING SIGN;0aHIGH VOLTAGE;0aDOUBLED FEMALE;1aMALE;
0bINTERLOCKED FEMALE AND;0aMALE AND FEMALE;1aWITH STROKE;3aAND MALE AND FEMALE;
0aVERTICAL MALE WITH STROKE;0dHORIZONTAL;0MEDIUM WHITE CIRCLE;1aBLACK;1aSMALL WHITE;
0MARRIAGE SYMBOL;0aDIVORCE;0aUNMARRIED PARTNERSHIP;0COFFIN;0FUNERAL URN;0NEUTER;0CERES;0PALLAS;
0JUNO;0VESTA;0CHIRON;0BLACK MOON LILITH;0SEXTILE;0SEMISEXTILE;0QUINCUNX;0SESQUIQUADRATE;
0SOCCER BALL;0BASEBALL;0SQUARED KEY;0WHITE DRAUGHTS MAN;2KING;0BLACK DRAUGHTS MAN;2KING;
0SNOWMAN WITHOUT SNOW;0SUN BEHIND CLOUD;0RAIN;0BLACK SNOWMAN;0THUNDER CLOUD AND RAIN;
0TURNED WHITE SHOGI PIECE;1bBLACK;0WHITE DIAMOND IN SQUARE;0CROSSING LANES;0DISABLED CAR;
0OPHIUCHUS;0PICK;0CAR SLIDING;0HELMET WITH WHITE CROSS;0CIRCLED CROSSING LANES;0CHAINS;0NO ENTRY;
0ALTERNATE ONE-WAY LEFT WAY TRAFFIC;0cBLACK TWO-WAY;0dWHITE;0BLACK LEFT LANE MERGE;0cWHITE;
0DRIVE SLOW SIGN;0HEAVY WHITE DOWN-POINTING TRIANGLE;0LEFT CLOSED ENTRY;0SQUARED SALTIRE;
0FALLING DIAGONAL IN WHITE CIRCLE IN BLACK SQUARE;0BLACK TRUCK;0RESTRICTED LEFT ENTRY-1;+1;
0ASTRONOMICAL SYMBOL FOR URANUS;0HEAVY CIRCLE WITH STROKE AND TWO DOTS ABOVE;0PENTAGRAM;
0aRIGHT-HANDED INTERLACED;0bLEFT-HANDED;0aINVERTED;0BLACK CROSS ON SHIELD;0SHINTO SHRINE;0CHURCH;
0CASTLE;0HISTORIC SITE;0GEAR WITHOUT HUB;1WITH HANDLES;0MAP SYMBOL FOR LIGHTHOUSE;0MOUNTAIN;
0UMBRELLA ON GROUND;0FOUNTAIN;0FLAG IN HOLE;0FERRY;0SAILBOAT;0SQUARE FOUR CORNERS;0SKIER;
0ICE SKATE;0PERSON WITH BALL;0TENT;0JAPANESE BANK SYMBOL;0aHEADSTONE GRAVEYARD;0FUEL PUMP;
0CUP ON BLACK SQUARE;0WHITE FLAG WITH HORIZONTAL MIDDLE BLACK STRIPE;0BLACK SAFETY SCISSORS;
0aUPPER BLADE;0aBLACK;0aLOWER BLADE;0aWHITE;1HEAVY CHECK MARK;0TELEPHONE LOCATION SIGN;
0TAPE DRIVE;0AIRPLANE;0ENVELOPE;0RAISED FIST;1HAND;0aVICTORY;0aWRITING;0LOWER RIGHT PENCIL;0a;
0aUPPER RIGHT;0WHITE NIB;0aBLACK;0CHECK MARK;0bHEAVY;0MULTIPLICATION X;0bHEAVY;0aBALLOT;0bHEAVY;
0OUTLINED GREEK CROSS;0bHEAVY;0aOPEN CENTRE;0cHEAVY;0aLATIN;0bSHADOWED WHITE;0bOUTLINED;
0aMALTESE;0STAR OF DAVID;0FOUR TEARDROP-SPOKED ASTERISK;1aBALLOON-SPOKED;0cHEAVY;
0aFOUR CLUB-SPOKED;0BLACK FOUR POINTED STAR;0cWHITE;0SPARKLES;0STRESS OUTLINED WHITE STAR;
0bCIRCLED;0aOPEN CENTRE BLACK;0aBLACK CENTRE WHITE;0aOUTLINED BLACK;0cHEAVY;0aPINWHEEL;
0aSHADOWED WHITE;0HEAVY ASTERISK;0aOPEN CENTRE;0aEIGHT SPOKED;1POINTED BLACK STAR;2aPINWHEEL;
0aSIX POINTED BLACK;0bEIGHT POINTED RECTILINEAR;0eHEAVY;0bTWELVE POINTED;
0SIXTEEN POINTED ASTERISK;0aTEARDROP-SPOKED;0bOPEN CENTRE;0bHEAVY;
0SIX PETALLED BLACK AND WHITE FLORETTE;0aBLACK;0aWHITE;0aEIGHT PETALLED OUTLINED BLACK;
0CIRCLED OPEN CENTRE EIGHT POINTED STAR;0HEAVY TEARDROP-SPOKED PINWHEEL ASTERISK;0SNOWFLAKE;
0aTIGHT TRIFOLIATE;0aHEAVY CHEVRON;0SPARKLE;0aHEAVY;0BALLOON-SPOKED ASTERISK;
0aEIGHT TEARDROP-SPOKED PROPELLER;0dHEAVY;0CROSS MARK;0SHADOWED WHITE CIRCLE;
0NEGATIVE SQUARED CROSS MARK;0LOWER RIGHT DROP-SHADOWED WHITE SQUARE;0dUPPER;
0bLOWER RIGHT SHADOWED;0dUPPER;0BLACK QUESTION MARK ORNAMENT;0cWHITE;1bEXCLAMATION;
0BLACK DIAMOND MINUS WHITE X;0HEAVY EXCLAMATION MARK SYMBOL;0LIGHT VERTICAL BAR;0bMEDIUM;0bHEAVY;
1SINGLE TURNED COMMA QUOTATION MARK ORNAMENT;2d;1dDOUBLE TURNED;2d;1dLOW SINGLE;2dDOUBLE;
0aCURVED STEM PARAGRAPH SIGN;0aHEAVY EXCLAMATION MARK;1cHEART;1BLACK HEART;
0ROTATED HEAVY BLACK HEART BULLET;0FLORAL HEART;0ROTATED FLORAL HEART BULLET;
0MEDIUM LEFT PARENTHESIS ORNAMENT;1bRIGHT;1bFLATTENED LEFT;2bRIGHT;1aLEFT-POINTING ANGLE BRACKET;
1cRIGHT-POINTING;0aHEAVY LEFT-POINTING ANGLE QUOTATION MARK;1dRIGHT-POINTING;
1aLEFT-POINTING ANGLE BRACKET;1cRIGHT-POINTING;0bLIGHT LEFT TORTOISE SHELL;1dRIGHT;
0bMEDIUM LEFT CURLY;1cRIGHT;0DINGBAT NEGATIVE CIRCLED DIGIT ONE;4TWO;4THREE;4FOUR;4FIVE;4SIX;
4SEVEN;4EIGHT;4NINE;3NUMBER TEN;1CIRCLED SANS-SERIF DIGIT ONE;4TWO;4THREE;4FOUR;4FIVE;4SIX;
4SEVEN;4EIGHT;4NINE;3NUMBER TEN;1NEGATIVE CIRCLED SANS-SERIF DIGIT ONE;5TWO;5THREE;5FOUR;5FIVE;
5SIX;5SEVEN;5EIGHT;5NINE;4NUMBER TEN;0HEAVY WIDE-HEADED RIGHTWARDS ARROW;1PLUS SIGN;1aMINUS;
1aDIVISION;1SOUTH EAST ARROW;1aRIGHTWARDS;1aNORTH EAST;0aDRAFTING POINT RIGHTWARDS;
0bHEAVY ROUND-TIPPED;0bTRIANGLE-HEADED;0cHEAVY;0cDASHED;0dHEAVY;0bBLACK;
0THREE-D TOP-LIGHTED RIGHTWARDS ARROWHEAD;1bBOTTOM-LIGHTED;0bBLACK;
0HEAVY BLACK CURVED DOWNWARDS AND RIGHTWARDS ARROW;3cUPWARDS;0bSQUAT BLACK;
0cHEAVY CONCAVE-POINTED;0bRIGHT-SHADED WHITE;0cLEFT-SHADED;0cBACK-TILTED SHADOWED;0dFRONT-TILTED;
0cHEAVY LOWER RIGHT-SHADOWED;1dUPPER;0dNOTCHED LOWER;0CURLY LOOP;
0NOTCHED UPPER RIGHT-SHADOWED WHITE RIGHTWARDS ARROW;0cCIRCLED HEAVY;0bWHITE-FEATHERED;
0aBLACK-FEATHERED SOUTH EAST;1aRIGHTWARDS;1aNORTH EAST;0bHEAVY BLACK-FEATHERED SOUTH;
2aRIGHTWARDS;2aNORTH EAST;0aTEARDROP-BARBED RIGHTWARDS;0bHEAVY TEARDROP-SHANKED;0bWEDGE-TAILED;
0cHEAVY;0bOPEN-OUTLINED;0DOUBLE CURLY LOOP;0THREE DIMENSIONAL ANGLE;
0WHITE TRIANGLE CONTAINING SMALL WHITE TRIANGLE;0PERPENDICULAR;0OPEN SUBSET;1SUPERSET;
0LEFT S-SHAPED BAG DELIMITER;0cRIGHT;0OR WITH DOT INSIDE;0REVERSE SOLIDUS PRECEDING SUBSET;
0SUPERSET PRECEDING SOLIDUS;0VERTICAL BAR WITH HORIZONTAL STROKE;0MATHEMATICAL RISING DIAGONAL;
0LONG DIVISION;0MATHEMATICAL FALLING DIAGONAL;0SQUARED LOGICAL AND;2OR;
0WHITE DIAMOND WITH CENTRED DOT;0aAND WITH;0ELEMENT OF OPENING UPWARDS;
0LOWER RIGHT CORNER WITH DOT;0cUPPER LEFT;0LEFT OUTER JOIN;0bRIGHT;0bFULL;0LARGE UP TACK;1aDOWN;
0LEFT AND RIGHT DOUBLE TURNSTILE;3TACK;1MULTIMAP;0LONG RIGHT TACK;1aLEFT;
0UP TACK WITH CIRCLE ABOVE;0LOZENGE DIVIDED BY HORIZONTAL RULE;0WHITE CONCAVE-SIDED DIAMOND;
3WITH LEFTWARDS TICK;4aRIGHTWARDS;1aSQUARE WITH LEFTWARDS;3aRIGHTWARDS;
0MATHEMATICAL LEFT WHITE SQUARE BRACKET;1cRIGHT;1aLEFT ANGLE;1bRIGHT;1bLEFT DOUBLE;1cRIGHT;
1aLEFT WHITE TORTOISE SHELL;1dRIGHT;1LEFT FLATTENED PARENTHESIS;1bRIGHT;0UPWARDS QUADRUPLE ARROW;
0bDOWNWARDS;0aANTICLOCKWISE GAPPED CIRCLE;0cCLOCKWISE;0RIGHT ARROW WITH CIRCLED PLUS;
0LONG LEFTWARDS ARROW;1aRIGHTWARDS;1aLEFT RIGHT;1aLEFTWARDS DOUBLE;1bRIGHTWARDS;1bLEFT RIGHT;
1LEFTWARDS ARROW FROM BAR;1cRIGHTWARDS;1cLEFTWARDS DOUBLE;1dRIGHTWARDS;2SQUIGGLE ARROW;
0BRAILLE PATTERN BLANK;2DOTS-1;+1;2DOTS-12;2DOTS-3;2DOTS-13;2DOTS-23;2DOTS-123;2DOTS-4;2DOTS-14;
2DOTS-24;2DOTS-124;2DOTS-34;2DOTS-134;2DOTS-234;2DOTS-1234;2DOTS-5;2DOTS-15;2DOTS-25;2DOTS-125;
2DOTS-35;2DOTS-135;2DOTS-235;2DOTS-1235;2DOTS-45;2DOTS-145;2DOTS-245;2DOTS-1245;2DOTS-345;
2DOTS-1345;2DOTS-2345;2DOTS-12345;2DOTS-6;2DOTS-16;2DOTS-26;2DOTS-126;2DOTS-36;2DOTS-136;
2DOTS-236;2DOTS-1236;2DOTS-46;2DOTS-146;2DOTS-246;2DOTS-1246;2DOTS-346;2DOTS-1346;2DOTS-2346;
2DOTS-12346;2DOTS-56;2DOTS-156;2DOTS-256;2DOTS-1256;2DOTS-356;2DOTS-1356;2DOTS-2356;2DOTS-12356;
2DOTS-456;2DOTS-1456;2DOTS-2456;2DOTS-12456;2DOTS-3456;2DOTS-13456;2DOTS-23456;2DOTS-123456;
2DOTS-7;2DOTS-17;2DOTS-27;2DOTS-127;2DOTS-37;2DOTS-137;2DOTS-237;2DOTS-1237;2DOTS-47;2DOTS-147;
2DOTS-247;2DOTS-1247;2DOTS-347;2DOTS-1347;2DOTS-2347;2DOTS-12347;2DOTS-57;2DOTS-157;2DOTS-257;
2DOTS-1257;2DOTS-357;2DOTS-1357;2DOTS-2357;2DOTS-12357;2DOTS-457;2DOTS-1457;2DOTS-2457;
2DOTS-12457;2DOTS-3457;2DOTS-13457;2DOTS-23457;2DOTS-123457;2DOTS-67;2DOTS-167;2DOTS-267;
2DOTS-1267;2DOTS-367;2DOTS-1367;2DOTS-2367;2DOTS-12367;2DOTS-467;2DOTS-1467;2DOTS-2467;
2DOTS-12467;2DOTS-3467;2DOTS-13467;2DOTS-23467;2DOTS-123467;2DOTS-567;2DOTS-1567;2DOTS-2567;
2DOTS-12567;2DOTS-3567;2DOTS-13567;2DOTS-23567;2DOTS-123567;2DOTS-4567;2DOTS-14567;2DOTS-24567;
2DOTS-124567;2DOTS-34567;2DOTS-134567;2DOTS-234567;2DOTS-1234567;2DOTS-8;2DOTS-18;2DOTS-28;
2DOTS-128;2DOTS-38;2DOTS-138;2DOTS-238;2DOTS-1238;2DOTS-48;2DOTS-148;2DOTS-248;2DOTS-1248;
2DOTS-348;2DOTS-1348;2DOTS-2348;2DOTS-12348;2DOTS-58;2DOTS-158;2DOTS-258;2DOTS-1258;2DOTS-358;
2DOTS-1358;2DOTS-2358;2DOTS-12358;2DOTS-458;2DOTS-1458;2DOTS-2458;2DOTS-12458;2DOTS-3458;
2DOTS-13458;2DOTS-23458;2DOTS-123458;2DOTS-68;2DOTS-168;2DOTS-268;2DOTS-1268;2DOTS-368;
2DOTS-1368;2DOTS-2368;2DOTS-12368;2DOTS-468;2DOTS-1468;2DOTS-2468;2DOTS-12468;2DOTS-3468;
2DOTS-13468;2DOTS-23468;2DOTS-123468;2DOTS-568;2DOTS-1568;2DOTS-2568;2DOTS-12568;2DOTS-3568;
2DOTS-13568;2DOTS-23568;2DOTS-123568;2DOTS-4568;2DOTS-14568;2DOTS-24568;2DOTS-124568;2DOTS-34568;
2DOTS-134568;2DOTS-234568;2DOTS-1234568;2DOTS-78;2DOTS-178;2DOTS-278;2DOTS-1278;2DOTS-378;
2DOTS-1378;2DOTS-2378;2DOTS-12378;2DOTS-478;2DOTS-1478;2DOTS-2478;2DOTS-12478;2DOTS-3478;
2DOTS-13478;2DOTS-23478;2DOTS-123478;2DOTS-578;2DOTS-1578;2DOTS-2578;2DOTS-12578;2DOTS-3578;
2DOTS-13578;2DOTS-23578;2DOTS-123578;2DOTS-4578;2DOTS-14578;2DOTS-24578;2DOTS-124578;2DOTS-34578;
2DOTS-134578;2DOTS-234578;2DOTS-1234578;2DOTS-678;2DOTS-1678;2DOTS-2678;2DOTS-12678;2DOTS-3678;
2DOTS-13678;2DOTS-23678;2DOTS-123678;2DOTS-4678;2DOTS-14678;2DOTS-24678;2DOTS-124678;2DOTS-34678;
2DOTS-134678;2DOTS-234678;2DOTS-1234678;2DOTS-5678;2DOTS-15678;2DOTS-25678;2DOTS-125678;
2DOTS-35678;2DOTS-135678;2DOTS-235678;2DOTS-1235678;2DOTS-45678;2DOTS-145678;2DOTS-245678;
2DOTS-1245678;2DOTS-345678;2DOTS-1345678;2DOTS-2345678;2DOTS-12345678;
0RIGHTWARDS TWO-HEADED ARROW WITH VERTICAL STROKE;4bDOUBLE;0bLEFTWARDS DOUBLE ARROW WITH;
0eRIGHTWARDS;0eLEFT RIGHT;0RIGHTWARDS TWO-HEADED ARROW FROM BAR;0cLEFTWARDS DOUBLE;0dRIGHTWARDS;
0DOWNWARDS ARROW WITH HORIZONTAL STROKE;0dUPWARDS;1TRIPLE ARROW;0bDOWNWARDS;
0aLEFTWARDS DOUBLE DASH;0cRIGHTWARDS;0bLEFTWARDS TRIPLE;0cRIGHTWARDS;1cTWO-HEADED;
1ARROW WITH DOTTED STEM;0UPWARDS ARROW TO BAR;0cDOWNWARDS;
0RIGHTWARDS ARROW WITH TAIL WITH VERTICAL STROKE;5bDOUBLE;1TWO-HEADED ARROW WITH TAIL;
5WITH VERTICAL STROKE;6bDOUBLE;0LEFTWARDS ARROW-TAIL;0aRIGHTWARDS;0aLEFTWARDS DOUBLE;
0bRIGHTWARDS;0LEFTWARDS ARROW TO BLACK DIAMOND;0dRIGHTWARDS;0cLEFTWARDS ARROW FROM BAR;
0fRIGHTWARDS;0NORTH WEST AND SOUTH EAST ARROW;1aEAST AND SOUTH WEST;1WEST ARROW WITH HOOK;1cEAST;
0dSOUTH;1cWEST;0NORTH WEST ARROW AND NORTH EAST ARROW;1bEAST ARROW AND SOUTH;
0aSOUTH EAST ARROW AND SOUTH WEST;1bWEST ARROW AND NORTH;
0RISING DIAGONAL CROSSING FALLING DIAGONAL;0aFALLING DIAGONAL CROSSING RISING;
0SOUTH EAST ARROW CROSSING NORTH EAST ARROW;0bNORTH EAST ARROW CROSSING SOUTH;
0bFALLING DIAGONAL CROSSING NORTH;0bRISING DIAGONAL CROSSING SOUTH;
0aNORTH EAST ARROW CROSSING NORTH WEST;1aWEST ARROW CROSSING NORTH EAST;
0WAVE ARROW POINTING DIRECTLY RIGHT;0ARROW POINTING RIGHTWARDS THEN CURVING UPWARDS;5DOWNWARDS;
2DOWNWARDS THEN CURVING LEFTWARDS;5RIGHTWARDS;0RIGHT-SIDE ARC CLOCKWISE ARROW;
0aLEFT-SIDE ARC ANTICLOCKWISE;0cTOP;0cBOTTOM;0TOP ARC CLOCKWISE ARROW WITH MINUS;
2ANTICLOCKWISE ARROW WITH PLUS;0LOWER RIGHT SEMICIRCULAR CLOCKWISE ARROW;
1aLEFT SEMICIRCULAR ANTICLOCKWISE;0aANTICLOCKWISE CLOSED CIRCLE;0cCLOCKWISE;
0aRIGHTWARDS ARROW ABOVE SHORT LEFTWARDS;0aLEFTWARDS ARROW ABOVE SHORT RIGHTWARDS;
0aSHORT RIGHTWARDS ARROW ABOVE LEFTWARDS;0RIGHTWARDS ARROW WITH PLUS BELOW;0dLEFTWARDS;
0RIGHTWARDS ARROW THROUGH X;0LEFT RIGHT ARROW THROUGH SMALL CIRCLE;
0bUPWARDS TWO-HEADED ARROW FROM;0LEFT BARB UP RIGHT BARB DOWN HARPOON;2aDOWN RIGHT BARB UP;
0aUP BARB RIGHT DOWN BARB LEFT;2aLEFT DOWN BARB RIGHT;0aLEFT BARB UP RIGHT BARB UP;
0aUP BARB RIGHT DOWN BARB RIGHT;0aLEFT BARB DOWN RIGHT BARB DOWN;0aUP BARB LEFT DOWN BARB LEFT;
0LEFTWARDS HARPOON WITH BARB UP TO BAR;0fRIGHTWARDS;0bUPWARDS HARPOON WITH BARB RIGHT;
0fDOWNWARDS;0bLEFTWARDS HARPOON WITH BARB DOWN;0fRIGHTWARDS;0bUPWARDS HARPOON WITH BARB LEFT;
0fDOWNWARDS;0aLEFTWARDS HARPOON WITH BARB UP FROM;0fRIGHTWARDS;0bUPWARDS HARPOON WITH BARB RIGHT;
0fDOWNWARDS;0bLEFTWARDS HARPOON WITH BARB DOWN;0fRIGHTWARDS;0bUPWARDS HARPOON WITH BARB LEFT;
0fDOWNWARDS;0LEFTWARDS HARPOON WITH BARB UP ABOVE LEFTWARDS HARPOON WITH BARB DOWN;
0UPWARDS HARPOON WITH BARB LEFT BESIDE UPWARDS HARPOON WITH BARB RIGHT;
0RIGHTWARDS HARPOON WITH BARB UP ABOVE RIGHTWARDS HARPOON WITH BARB DOWN;
0DOWNWARDS HARPOON WITH BARB LEFT BESIDE DOWNWARDS HARPOON WITH BARB RIGHT;
0LEFTWARDS HARPOON WITH BARB UP ABOVE RIGHTWARDS HARPOON WITH BARB UP;
4DOWN ABOVE RIGHTWARDS HARPOON WITH BARB DOWN;
0RIGHTWARDS HARPOON WITH BARB UP ABOVE LEFTWARDS HARPOON WITH BARB UP;
4DOWN ABOVE LEFTWARDS HARPOON WITH BARB DOWN;0LEFTWARDS HARPOON WITH BARB UP ABOVE LONG DASH;
4bDOWN BELOW;0bRIGHTWARDS HARPOON WITH BARB UP ABOVE;4bDOWN BELOW;
0UPWARDS HARPOON WITH BARB LEFT BESIDE DOWNWARDS HARPOON WITH BARB RIGHT;
0dDOWNWARDS HARPOON WITH BARB LEFT BESIDE UPWARDS;0RIGHT DOUBLE ARROW WITH ROUNDED HEAD;
0EQUALS SIGN ABOVE RIGHTWARDS ARROW;0cTILDE OPERATOR;0LEFTWARDS ARROW ABOVE TILDE OPERATOR;
0dRIGHTWARDS;3ALMOST EQUAL TO;0LESS-THAN ABOVE LEFTWARDS ARROW;
0LEFTWARDS ARROW THROUGH LESS-THAN;0GREATER-THAN ABOVE RIGHTWARDS ARROW;0cSUBSET;
0LEFTWARDS ARROW THROUGH SUBSET;0SUPERSET ABOVE LEFTWARDS ARROW;0LEFT FISH TAIL;0bRIGHT;0bUP;
0bDOWN;0TRIPLE VERTICAL BAR DELIMITER;0Z NOTATION SPOT;2TYPE COLON;0LEFT WHITE CURLY BRACKET;
0cRIGHT;0LEFT WHITE PARENTHESIS;0bRIGHT;0Z NOTATION LEFT IMAGE BRACKET;2bRIGHT;2aLEFT BINDING;
2bRIGHT;0LEFT SQUARE BRACKET WITH UNDERBAR;0dRIGHT;0LEFT SQUARE BRACKET WITH TICK IN TOP CORNER;
0aRIGHT SQUARE BRACKET WITH TICK IN BOTTOM;0gLEFT;0aRIGHT SQUARE BRACKET WITH TICK IN TOP;
0LEFT ANGLE BRACKET WITH DOT;0dRIGHT;0LEFT ARC LESS-THAN BRACKET;0aRIGHT ARC GREATER-THAN;
0cDOUBLE LEFT;1aRIGHT ARC LESS-THAN;0aLEFT BLACK TORTOISE SHELL;0dRIGHT;0DOTTED FENCE;
0VERTICAL ZIGZAG LINE;0MEASURED ANGLE OPENING LEFT;0RIGHT ANGLE VARIANT WITH SQUARE;
0MEASURED RIGHT ANGLE WITH DOT;0ANGLE WITH S INSIDE;0ACUTE ANGLE;0SPHERICAL ANGLE OPENING LEFT;
3UP;0TURNED ANGLE;0aREVERSED;0ANGLE WITH UNDERBAR;0cREVERSED;0OBLIQUE ANGLE OPENING UP;3DOWN;
0MEASURED ANGLE WITH OPEN ARM ENDING IN ARROW POINTING UP AND RIGHT;9UP AND LEFT;9DOWN AND RIGHT;
9DOWN AND LEFT;9RIGHT AND UP;9bLEFT;9RIGHT AND DOWN;9bLEFT;0REVERSED EMPTY SET;
0EMPTY SET WITH OVERBAR;3SMALL CIRCLE ABOVE;3aRIGHT ARROW;3bLEFT;0CIRCLE WITH HORIZONTAL BAR;
0aCIRCLED VERTICAL;1PARALLEL;1REVERSE SOLIDUS;1PERPENDICULAR;
0CIRCLE DIVIDED BY HORIZONTAL BAR AND TOP HALF DIVIDED BY VERTICAL BAR;1WITH SUPERIMPOSED X;
0CIRCLED ANTICLOCKWISE-ROTATED DIVISION SIGN;0UP ARROW THROUGH CIRCLE;0CIRCLED WHITE BULLET;1a;
1LESS-THAN;1GREATER-THAN;0CIRCLE WITH SMALL CIRCLE TO THE RIGHT;2cTWO HORIZONTAL STROKES;
0SQUARED RISING DIAGONAL SLASH;1bFALLING;1ASTERISK;1SMALL CIRCLE;1SQUARE;0TWO JOINED SQUARES;
0TRIANGLE WITH DOT ABOVE;2UNDERBAR;0S IN TRIANGLE;0TRIANGLE WITH SERIFS AT BOTTOM;
0RIGHT TRIANGLE ABOVE LEFT TRIANGLE;0LEFT TRIANGLE BESIDE VERTICAL BAR;
0VERTICAL BAR BESIDE RIGHT TRIANGLE;0BOWTIE WITH LEFT HALF BLACK;2bRIGHT;0BLACK BOWTIE;
0TIMES WITH LEFT HALF BLACK;2bRIGHT;0WHITE HOURGLASS;0aBLACK;0LEFT WIGGLY FENCE;0bRIGHT;
0bLEFT DOUBLE;0cRIGHT;0INCOMPLETE INFINITY;0aTIE OVER;0INFINITY NEGATED WITH VERTICAL BAR;
0DOUBLE-ENDED MULTIMAP;0SQUARE WITH CONTOURED OUTLINE;0INCREASES AS;0SHUFFLE PRODUCT;
0EQUALS SIGN AND SLANTED PARALLEL;5WITH TILDE ABOVE;0IDENTICAL TO AND SLANTED PARALLEL;
0GLEICH STARK;0THERMODYNAMIC;0DOWN-POINTING TRIANGLE WITH LEFT HALF BLACK;3bRIGHT;
0BLACK DIAMOND WITH DOWN ARROW;1LOZENGE;0WHITE CIRCLE WITH DOWN ARROW;0dBLACK;
0ERROR-BARRED WHITE SQUARE;1aBLACK;1WHITE DIAMOND;1aBLACK;1WHITE CIRCLE;1aBLACK;0RULE-DELAYED;
0REVERSE SOLIDUS OPERATOR;0SOLIDUS WITH OVERBAR;0REVERSE SOLIDUS WITH HORIZONTAL STROKE;
0BIG SOLIDUS;1aREVERSE;0DOUBLE PLUS;0aTRIPLE;0LEFT-POINTING CURVED ANGLE BRACKET;
0cRIGHT-POINTING;0TINY;0MINY;0N-ARY CIRCLED DOT OPERATOR;2aPLUS;2aTIMES;1UNION OPERATOR WITH DOT;
4PLUS;1SQUARE INTERSECTION OPERATOR;2aUNION;0aTWO LOGICAL AND;2aOR;0aN-ARY TIMES;0MODULO TWO SUM;
0SUMMATION WITH INTEGRAL;0QUADRUPLE INTEGRAL OPERATOR;0FINITE PART INTEGRAL;
0INTEGRAL WITH DOUBLE STROKE;1AVERAGE WITH SLASH;0CIRCULATION FUNCTION;
0ANTICLOCKWISE INTEGRATION;0LINE INTEGRATION WITH RECTANGULAR PATH AROUND POLE;3cSEMICIRCULAR;
2aNOT INCLUDING THE;0INTEGRAL AROUND A POINT OPERATOR;0aQUATERNION INTEGRAL;
0INTEGRAL WITH LEFTWARDS ARROW WITH HOOK;2TIMES SIGN;2INTERSECTION;2UNION;2OVERBAR;2UNDERBAR;
0JOIN;0LARGE LEFT TRIANGLE OPERATOR;0Z NOTATION SCHEMA COMPOSITION;3PIPING;3PROJECTION;
0PLUS SIGN WITH SMALL CIRCLE ABOVE;3aCIRCUMFLEX ACCENT;3aTILDE;3DOT BELOW;3aTILDE;3SUBSCRIPT TWO;
3BLACK TRIANGLE;0MINUS SIGN WITH COMMA ABOVE;3DOT BELOW;3FALLING DOTS;3aRISING;
0PLUS SIGN IN LEFT HALF CIRCLE;3bRIGHT;0VECTOR OR CROSS PRODUCT;
0MULTIPLICATION SIGN WITH DOT ABOVE;3UNDERBAR;0SEMIDIRECT PRODUCT WITH BOTTOM CLOSED;
0SMASH PRODUCT;0MULTIPLICATION SIGN IN LEFT HALF CIRCLE;3bRIGHT;
0CIRCLED MULTIPLICATION SIGN WITH CIRCUMFLEX ACCENT;0MULTIPLICATION SIGN IN DOUBLE CIRCLE;
0CIRCLED DIVISION SIGN;0PLUS SIGN IN TRIANGLE;0cMINUS;0cMULTIPLICATION;0INTERIOR PRODUCT;
0bRIGHTHAND;0Z NOTATION RELATIONAL COMPOSITION;0AMALGAMATION OR COPRODUCT;0INTERSECTION WITH DOT;
0UNION WITH MINUS SIGN;2OVERBAR;0bINTERSECTION;2LOGICAL AND;0UNION WITH LOGICAL OR;
1ABOVE INTERSECTION;0INTERSECTION ABOVE UNION;0UNION ABOVE BAR ABOVE INTERSECTION;
0INTERSECTION ABOVE BAR ABOVE UNION;0aUNION BESIDE AND JOINED WITH;
0INTERSECTION BESIDE AND JOINED WITH INTERSECTION;0CLOSED UNION WITH SERIFS;1bINTERSECTION;
0DOUBLE SQUARE INTERSECTION;2UNION;0CLOSED UNION WITH SERIFS AND SMASH PRODUCT;
0LOGICAL AND WITH DOT ABOVE;1cOR;0DOUBLE LOGICAL AND;2OR;0TWO INTERSECTING LOGICAL AND;3OR;
0aSLOPING LARGE;2AND;0aLOGICAL OR OVERLAPPING LOGICAL;1AND WITH MIDDLE STEM;1cOR;
1AND WITH HORIZONTAL DASH;1cOR;1AND WITH DOUBLE OVERBAR;3UNDERBAR;3aDOUBLE;0aSMALL VEE WITH;
0LOGICAL OR WITH DOUBLE OVERBAR;4UNDERBAR;0Z NOTATION DOMAIN ANTIRESTRICTION;2aRANGE;
0EQUALS SIGN WITH DOT BELOW;0IDENTICAL WITH DOT ABOVE;
0TRIPLE HORIZONTAL BAR WITH DOUBLE VERTICAL STROKE;4bTRIPLE;0TILDE OPERATOR WITH DOT ABOVE;
3RISING DOTS;0SIMILAR MINUS SIMILAR;0CONGRUENT WITH DOT ABOVE;0EQUALS WITH ASTERISK;
0ALMOST EQUAL TO WITH CIRCUMFLEX ACCENT;0APPROXIMATELY EQUAL OR EQUAL TO;
0EQUALS SIGN ABOVE PLUS SIGN;0aPLUS SIGN ABOVE EQUALS;0EQUALS SIGN ABOVE TILDE OPERATOR;
0DOUBLE COLON EQUAL;0TWO CONSECUTIVE EQUALS SIGNS;0cTHREE;
0EQUALS SIGN WITH TWO DOTS ABOVE AND TWO DOTS BELOW;0EQUIVALENT WITH FOUR DOTS ABOVE;
0LESS-THAN WITH CIRCLE INSIDE;0cGREATER-THAN;0LESS-THAN WITH QUESTION MARK ABOVE;0dGREATER-THAN;
0LESS-THAN OR SLANTED EQUAL TO;0dGREATER-THAN;0LESS-THAN OR SLANTED EQUAL TO WITH DOT INSIDE;
0gGREATER-THAN;0LESS-THAN OR SLANTED EQUAL TO WITH DOT ABOVE;0gGREATER-THAN;
0LESS-THAN OR SLANTED EQUAL TO WITH DOT ABOVE RIGHT;
0GREATER-THAN OR SLANTED EQUAL TO WITH DOT ABOVE LEFT;0LESS-THAN OR APPROXIMATE;0bGREATER-THAN;
0LESS-THAN AND SINGLE-LINE NOT EQUAL TO;0eGREATER-THAN;0LESS-THAN AND NOT APPROXIMATE;
0cGREATER-THAN;0LESS-THAN ABOVE DOUBLE-LINE EQUAL ABOVE GREATER-THAN;
0GREATER-THAN ABOVE DOUBLE-LINE EQUAL ABOVE LESS-THAN;0LESS-THAN ABOVE SIMILAR OR EQUAL;
0dGREATER-THAN;0LESS-THAN ABOVE SIMILAR ABOVE GREATER-THAN;
0GREATER-THAN ABOVE SIMILAR ABOVE LESS-THAN;
0LESS-THAN ABOVE GREATER-THAN ABOVE DOUBLE-LINE EQUAL;0cGREATER-THAN ABOVE LESS-THAN;
0aLESS-THAN ABOVE SLANTED EQUAL ABOVE GREATER-THAN ABOVE SLANTED;
0cGREATER-THAN ABOVE SLANTED EQUAL ABOVE LESS-THAN;0SLANTED EQUAL TO OR LESS-THAN;4GREATER-THAN;
4LESS-THAN WITH DOT INSIDE;4cGREATER-THAN;0DOUBLE-LINE EQUAL TO OR LESS-THAN;4GREATER-THAN;
1SLANTED EQUAL TO OR LESS-THAN;5GREATER-THAN;0SIMILAR OR LESS-THAN;2GREATER-THAN;
1ABOVE LESS-THAN ABOVE EQUALS SIGN;2cGREATER-THAN;0DOUBLE NESTED LESS-THAN;2GREATER-THAN;
2LESS-THAN WITH UNDERBAR;0GREATER-THAN OVERLAPPING LESS-THAN;1aBESIDE;0LESS-THAN CLOSED BY CURVE;
0cGREATER-THAN;0LESS-THAN CLOSED BY CURVE ABOVE SLANTED EQUAL;0fGREATER-THAN;0SMALLER THAN;
0aLARGER;0SMALLER THAN OR EQUAL TO;0dLARGER;0EQUALS SIGN WITH BUMPY ABOVE;
0PRECEDES ABOVE SINGLE-LINE EQUALS SIGN;0dSUCCEEDS;0PRECEDES ABOVE SINGLE-LINE NOT EQUAL TO;
0eSUCCEEDS;0PRECEDES ABOVE EQUALS SIGN;0cSUCCEEDS;0PRECEDES ABOVE NOT EQUAL TO;0dSUCCEEDS;
0bPRECEDES ABOVE ALMOST;0dSUCCEEDS;0cPRECEDES ABOVE NOT;0eSUCCEEDS;0DOUBLE PRECEDES;1SUCCEEDS;
0SUBSET WITH DOT;0bSUPERSET;0SUBSET WITH PLUS SIGN BELOW;0dSUPERSET;0bSUBSET WITH MULTIPLICATION;
0dSUPERSET;0SUBSET OF OR EQUAL TO WITH DOT ABOVE;0gSUPERSET;0SUBSET OF ABOVE EQUALS SIGN;
0dSUPERSET;0SUBSET OF ABOVE TILDE OPERATOR;0dSUPERSET;0SUBSET OF ABOVE ALMOST EQUAL TO;
0eSUPERSET;0bSUBSET OF ABOVE NOT;0eSUPERSET;0SQUARE LEFT OPEN BOX OPERATOR;1cRIGHT;
0CLOSED SUBSET;1SUPERSET;1SUBSET OR EQUAL TO;1cSUPERSET;0SUBSET ABOVE SUPERSET;
0SUPERSET ABOVE SUBSET;0bSUBSET;0SUPERSET ABOVE SUPERSET;1BESIDE SUBSET;
2aAND JOINED BY DASH WITH;0ELEMENT OF OPENING DOWNWARDS;0PITCHFORK WITH TEE TOP;
0TRANSVERSAL INTERSECTION;0FORKING;0NONFORKING;0SHORT LEFT TACK;1aDOWN;1aUP;
0PERPENDICULAR WITH S;0VERTICAL BAR TRIPLE RIGHT TURNSTILE;0aDOUBLE VERTICAL BAR LEFT;
0bVERTICAL BAR DOUBLE;0eDOUBLE;0LONG DASH FROM LEFT MEMBER OF DOUBLE VERTICAL;
0SHORT DOWN TACK WITH OVERBAR;1UP TACK WITH UNDERBAR;3ABOVE SHORT DOWN TACK;0bDOUBLE;1aUP;
1STROKE NOT SIGN;0dREVERSED;0DOES NOT DIVIDE WITH REVERSED NEGATION SLASH;
0VERTICAL LINE WITH CIRCLE ABOVE;4BELOW;0cDOWN TACK;0PARALLEL WITH HORIZONTAL STROKE;
2TILDE OPERATOR;0TRIPLE VERTICAL BAR BINARY RELATION;3WITH HORIZONTAL STROKE;1COLON OPERATOR;
1NESTED LESS-THAN;2GREATER-THAN;0DOUBLE-LINE SLANTED LESS-THAN OR EQUAL TO;2cGREATER-THAN;
0TRIPLE SOLIDUS BINARY RELATION;0LARGE TRIPLE VERTICAL BAR OPERATOR;0aDOUBLE SOLIDUS;
0WHITE VERTICAL BAR;0cN-ARY;0NORTH EAST WHITE ARROW;1bWEST;0bSOUTH EAST;1bWEST;0bLEFT RIGHT;
0aLEFTWARDS BLACK;0bUPWARDS;0bDOWNWARDS;0bNORTH EAST;1bWEST;0bSOUTH EAST;1bWEST;0bLEFT RIGHT;
0bUP DOWN;0RIGHTWARDS ARROW WITH TIP DOWNWARDS;4UPWARDS;0LEFTWARDS ARROW WITH TIP DOWNWARDS;
4UPWARDS;0SQUARE WITH TOP HALF BLACK;2bBOTTOM;2bUPPER RIGHT DIAGONAL;2cLOWER LEFT;
0bDIAMOND WITH LEFT;2bRIGHT;2bTOP;2bBOTTOM;0DOTTED SQUARE;0aBLACK LARGE;0bWHITE;
0aBLACK VERY SMALL;0cWHITE;0BLACK PENTAGON;0aWHITE;1HEXAGON;0aBLACK;0bHORIZONTAL;
0BLACK LARGE CIRCLE;1MEDIUM DIAMOND;0bWHITE;0BLACK MEDIUM LOZENGE;0bWHITE;0BLACK SMALL DIAMOND;
2LOZENGE;0bWHITE;0BLACK HORIZONTAL ELLIPSE;0bWHITE;0aBLACK VERTICAL;0bWHITE;
0LEFT ARROW WITH SMALL CIRCLE;0THREE LEFTWARDS ARROWS;0LEFT ARROW WITH CIRCLED PLUS;
0LONG LEFTWARDS SQUIGGLE ARROW;0LEFTWARDS TWO-HEADED ARROW WITH VERTICAL STROKE;4bDOUBLE;
3FROM BAR;2TRIPLE DASH ARROW;1ARROW WITH DOTTED STEM;3TAIL WITH VERTICAL STROKE;5bDOUBLE;
1TWO-HEADED ARROW WITH TAIL;5WITH VERTICAL STROKE;6bDOUBLE;1ARROW THROUGH X;
0WAVE ARROW POINTING DIRECTLY LEFT;0EQUALS SIGN ABOVE LEFTWARDS ARROW;0cREVERSE TILDE OPERATOR;
0LEFTWARDS ARROW ABOVE REVERSE ALMOST EQUAL TO;0RIGHTWARDS ARROW THROUGH GREATER-THAN;3SUPERSET;
0LEFTWARDS QUADRUPLE ARROW;0bRIGHTWARDS;0aREVERSE TILDE OPERATOR ABOVE RIGHTWARDS;
0RIGHTWARDS ARROW ABOVE REVERSE ALMOST EQUAL TO;0TILDE OPERATOR ABOVE LEFTWARDS ARROW;
0LEFTWARDS ARROW ABOVE ALMOST EQUAL TO;3REVERSE TILDE OPERATOR;0eRIGHTWARDS;
0DOWNWARDS TRIANGLE-HEADED ZIGZAG ARROW;0aSHORT SLANTED NORTH;1aBACKSLANTED SOUTH;
0WHITE MEDIUM STAR;0aBLACK SMALL;0bWHITE;0BLACK RIGHT-POINTING PENTAGON;0bWHITE;
0HEAVY LARGE CIRCLE;1OVAL WITH OVAL INSIDE;1aCIRCLE WITH CIRCLE;2;1CIRCLED SALTIRE;
0SLANTED NORTH ARROW WITH HOOKED HEAD;0BACKSLANTED SOUTH ARROW WITH HOOKED TAIL;
0aSLANTED NORTH ARROW WITH HORIZONTAL;0dBACKSLANTED SOUTH;
0BENT ARROW POINTING DOWNWARDS THEN NORTH EAST;0gSHORT;0LEFTWARDS TRIANGLE-HEADED ARROW;
0bUPWARDS;0bRIGHTWARDS;0bDOWNWARDS;0bLEFT RIGHT;0bUP DOWN;0bNORTH WEST;1bEAST;0cSOUTH;1bWEST;
0aLEFTWARDS TRIANGLE-HEADED DASHED;0cUPWARDS;0cRIGHTWARDS;0cDOWNWARDS;
0aCLOCKWISE TRIANGLE-HEADED OPEN CIRCLE;0dANTICLOCKWISE;0LEFTWARDS TRIANGLE-HEADED ARROW TO BAR;
0dUPWARDS;0dRIGHTWARDS;0dDOWNWARDS;2B76=0dNORTH WEST;1dEAST;0eSOUTH;1dWEST;
0LEFTWARDS TRIANGLE-HEADED ARROW WITH DOUBLE HORIZONTAL STROKE;0fUPWARDS;0fRIGHTWARDS;
0fDOWNWARDS;0HORIZONTAL TAB KEY;0bVERTICAL;
0LEFTWARDS TRIANGLE-HEADED ARROW OVER RIGHTWARDS TRIANGLE-HEADED ARROW;
0bUPWARDS TRIANGLE-HEADED ARROW LEFTWARDS OF DOWNWARDS;
0bRIGHTWARDS TRIANGLE-HEADED ARROW OVER LEFTWARDS;
0bDOWNWARDS TRIANGLE-HEADED ARROW LEFTWARDS OF UPWARDS;0LEFTWARDS TRIANGLE-HEADED PAIRED ARROWS;
0cUPWARDS;0cRIGHTWARDS;0cDOWNWARDS;0LEFTWARDS BLACK CIRCLED WHITE ARROW;0dUPWARDS;0dRIGHTWARDS;
0dDOWNWARDS;0aANTICLOCKWISE TRIANGLE-HEADED RIGHT U-SHAPED;2bBOTTOM;2bLEFT;2bTOP;0RETURN LEFT;
1RIGHT;0NEWLINE LEFT;1RIGHT;0FOUR CORNER ARROWS CIRCLING ANTICLOCKWISE;0RIGHTWARDS BLACK ARROW;
2B97=0SYMBOL FOR TYPE A ELECTRONICS;0THREE-D TOP-LIGHTED LEFTWARDS EQUILATERAL ARROWHEAD;
1bRIGHT-LIGHTED UPWARDS;1bTOP-LIGHTED RIGHTWARDS;1bLEFT-LIGHTED DOWNWARDS;0bBLACK LEFTWARDS;
1bUPWARDS;1bRIGHTWARDS;1bDOWNWARDS;0DOWNWARDS TRIANGLE-HEADED ARROW WITH LONG TIP LEFTWARDS;
6RIGHTWARDS;0UPWARDS TRIANGLE-HEADED ARROW WITH LONG TIP LEFTWARDS;6RIGHTWARDS;
0LEFTWARDS TRIANGLE-HEADED ARROW WITH LONG TIP UPWARDS;0fRIGHTWARDS;
0LEFTWARDS TRIANGLE-HEADED ARROW WITH LONG TIP DOWNWARDS;0fRIGHTWARDS;
0BLACK CURVED DOWNWARDS AND LEFTWARDS ARROW;4aRIGHTWARDS;2aUPWARDS AND LEFTWARDS;4aRIGHTWARDS;
2aLEFTWARDS AND UPWARDS;2cRIGHTWARDS;2aLEFTWARDS AND DOWNWARDS;2cRIGHTWARDS;
0RIBBON ARROW DOWN LEFT;3RIGHT;2UP LEFT;3RIGHT;2LEFT UP;2aRIGHT;2LEFT DOWN;2aRIGHT;
0UPWARDS WHITE ARROW FROM BAR WITH HORIZONTAL BAR;0UP ARROWHEAD IN A RECTANGLE BOX;
0OVERLAPPING WHITE SQUARES;2aAND BLACK;1b;0BALLOT BOX WITH LIGHT X;0aCIRCLED;1aBOLD;
0BLACK SQUARE CENTRED;1aDIAMOND;0TURNED BLACK PENTAGON;0HORIZONTAL BLACK OCTAGON;0b;
1MEDIUM UP-POINTING TRIANGLE CENTRED;2bDOWN-POINTING;2bLEFT-POINTING;2bRIGHT-POINTING;
0NEPTUNE FORM TWO;0TOP HALF BLACK CIRCLE;0cBOTTOM;0LIGHT FOUR POINTED BLACK CUSP;0eROTATED;
0aWHITE FOUR POINTED;0dROTATED;0SQUARE POSITION INDICATOR;0UNCERTAINTY SIGN;0GROUP MARK;
0PLUTO FORM TWO;2THREE;2FOUR;2FIVE;0TRANSPLUTO;0PROSERPINA;0ASTRAEA;0HYGIEA;0PHOLUS;0NESSUS;
0WHITE MOON SELENA;0BLACK DIAMOND ON CROSS;0TRUE LIGHT MOON ARTA;0CUPIDO;0HADES;0ZEUS;0KRONOS;
0APOLLON;0ADMETOS;0VULCANUS;0POSEIDON;0LEFT HALF BLACK STAR;0cRIGHT;0STAR WITH LEFT HALF BLACK;
2bRIGHT;0LEFTWARDS TWO-HEADED ARROW WITH TRIANGLE ARROWHEADS;0eUPWARDS;0eRIGHTWARDS;0eDOWNWARDS;
0ERIS FORM ONE;2TWO;0SEDNA;0RUSSIAN ASTROLOGICAL SYMBOL VIGINTILE;3NOVILE;3QUINTILE;3BINOVILE;
3SENTAGON;3TREDECILE;0EQUALS SIGN WITH INFINITY BELOW;0UNITED SYMBOL;0aSEPARATED;0aDOUBLED;
0aPASSED;0REVERSED RIGHT ANGLE;0HELLSCHREIBER PAUSE SYMBOL;0GLAGOLITIC CAPITAL LETTER AZU;3BUKY;
3VEDE;3GLAGOLI;3DOBRO;3YESTU;3ZHIVETE;3DZELO;3ZEMLJA;3IZHE;3aINITIAL;3I;3DJERVI;3KAKO;3LJUDIJE;
3MYSLITE;3NASHI;3ONU;3POKOJI;3RITSI;3SLOVO;3TVRIDO;3UKU;3FRITU;3HERU;3OTU;3PE;3SHTA;3TSI;3CHRIVI;
3SHA;3YERU;3YERI;3YATI;3SPIDERY HA;3YU;3SMALL YUS;5WITH TAIL;3YO;3IOTATED SMALL YUS;3aBIG;
3bIOTATED;3FITA;3IZHITSA;3SHTAPIC;3TROKUTASTI A;3LATINATE MYSLITE;3CAUDATE CHRIVI;
1SMALL LETTER AZU;3BUKY;3VEDE;3GLAGOLI;3DOBRO;3YESTU;3ZHIVETE;3DZELO;3ZEMLJA;3IZHE;3aINITIAL;3I;
3DJERVI;3KAKO;3LJUDIJE;3MYSLITE;3NASHI;3ONU;3POKOJI;3RITSI;3SLOVO;3TVRIDO;3UKU;3FRITU;3HERU;3OTU;
3PE;3SHTA;3TSI;3CHRIVI;3SHA;3YERU;3YERI;3YATI;3SPIDERY HA;3YU;3SMALL YUS;5WITH TAIL;3YO;
3IOTATED SMALL YUS;3aBIG;3bIOTATED;3FITA;3IZHITSA;3SHTAPIC;3TROKUTASTI A;3LATINATE MYSLITE;
3CAUDATE CHRIVI;0LATIN CAPITAL LETTER L WITH DOUBLE BAR;~;5MIDDLE TILDE;3P WITH STROKE;
3R WITH TAIL;1SMALL LETTER A WITH STROKE;3aT WITH DIAGONAL;1CAPITAL LETTER H WITH DESCENDER;~;
3bK;~;3bZ;~;3ALPHA;3M WITH HOOK;3TURNED A;4ALPHA;1SMALL LETTER V WITH RIGHT HOOK;
1aCAPITAL LETTER W WITH;~;1SMALL LETTER V WITH CURL;1CAPITAL LETTER HALF H;~;
1SMALL LETTER TAILLESS PHI;3E WITH NOTCH;3TURNED R WITH TAIL;3O WITH LOW RING INSIDE;
1LETTER SMALL CAPITAL TURNED E;1SUBSCRIPT SMALL LETTER J;0MODIFIER LETTER CAPITAL V;
0LATIN CAPITAL LETTER S WITH SWASH TAIL;3cZ;0COPTIC CAPITAL LETTER ALFA;~;3VIDA;~;3GAMMA;~;
3DALDA;~;3EIE;~;3SOU;~;3ZATA;~;3HATE;~;3THETHE;~;3IAUDA;~;3KAPA;~;3LAULA;~;3MI;~;3NI;~;3KSI;~;3O;
~;3PI;~;3RO;~;3SIMA;~;3TAU;~;3UA;~;3FI;~;3KHI;~;3PSI;~;3OOU;~;3DIALECT-P ALEF;~;3OLD COPTIC AIN;
~;3CRYPTOGRAMMIC EIE;~;3DIALECT-P KAPA;~;4NI;~;3aCRYPTOGRAMMIC;~;3OLD COPTIC OOU;~;3SAMPI;~;
3CROSSED SHEI;~;3aOLD COPTIC;~;5ESH;~;3AKHMIMIC KHEI;~;3DIALECT-P HORI;~;3aOLD COPTIC;~;5HA;~;
3aL-SHAPED;~;3OLD COPTIC HEI;~;5HAT;~;5GANGIA;~;5DJA;~;5SHIMA;~;4aNUBIAN;~;5NGI;~;5NYI;~;5WAU;~;
1SYMBOL KAI;2MI RO;2aPI;2STAUROS;2TAU RO;2aKHI;2SHIMA SIMA;1CAPITAL LETTER CRYPTOGRAMMIC SHEI;~;
4GANGIA;~;1COMBINING NI ABOVE;2SPIRITUS ASPER;3LENIS;1CAPITAL LETTER BOHAIRIC KHEI;~;
2CF9=1OLD NUBIAN FULL STOP;3DIRECT QUESTION MARK;3bINDIRECT;3VERSE DIVIDER;1FRACTION ONE HALF;
1FULL STOP;1MORPHOLOGICAL DIVIDER;0GEORGIAN SMALL LETTER AN;3BAN;3GAN;3DON;3EN;3VIN;3ZEN;3TAN;
3IN;3KAN;3LAS;3MAN;3NAR;3ON;3PAR;3ZHAR;3RAE;3SAN;3TAR;3UN;3PHAR;3KHAR;3GHAN;3QAR;3SHIN;3CHIN;
3CAN;3JIL;3CIL;3CHAR;3XAN;3JHAN;3HAE;3HE;3HIE;3WE;3HAR;3HOE;2D27=3YN;2D2D=3AEN;
2D30=0TIFINAGH LETTER YA;2YAB;2YABH;2YAG;2YAGHH;2BERBER ACADEMY YAJ;2a;2YAD;2YADH;2YADD;2YADDH;
2YEY;2YAF;2YAK;2aTUAREG;2YAKHH;2YAH;2aBERBER ACADEMY;2aTUAREG;2YAHH;2YAA;2YAKH;2aTUAREG;2YAQ;
2aTUAREG;2YI;2YAZH;2aAHAGGAR;2aTUAREG;2YAL;2YAM;2YAN;2TUAREG YAGN;3YANG;2YAP;2YU;2YAR;2YARR;
2YAGH;2aTUAREG;2aAYER;2YAS;2YASS;2YASH;2YAT;2YATH;2YACH;2YATT;2YAV;2YAW;2YAY;2YAZ;2aTAWELLEMET;
2YAZZ;2YE;2YO;2D6F=1MODIFIER LETTER LABIALIZATION MARK;1aSEPARATOR;2D7F=1CONSONANT JOINER;
0ETHIOPIC SYLLABLE LOA;2MOA;2ROA;2SOA;2SHOA;2BOA;2TOA;2COA;2NOA;2NYOA;2GLOTTAL OA;2ZOA;2DOA;
2DDOA;2JOA;2THOA;2CHOA;2PHOA;2POA;2GGWA;2GGWI;2GGWEE;2GGWE;2DA0=2SSA;2SSU;2SSI;2SSAA;2SSEE;2SSE;
2SSO;2DA8=2CCA;2CCU;2CCI;2CCAA;2CCEE;2CCE;2CCO;2DB0=2ZZA;2ZZU;2ZZI;2ZZAA;2ZZEE;2ZZE;2ZZO;
2DB8=2CCHA;2CCHU;2CCHI;2CCHAA;2CCHEE;2CCHE;2CCHO;2DC0=2QYA;2QYU;2QYI;2QYAA;2QYEE;2QYE;2QYO;
2DC8=2KYA;2KYU;2KYI;2KYAA;2KYEE;2KYE;2KYO;2DD0=2XYA;2XYU;2XYI;2XYAA;2XYEE;2XYE;2XYO;2DD8=2GYA;
2GYU;2GYI;2GYAA;2GYEE;2GYE;2GYO;2DE0=0COMBINING CYRILLIC LETTER BE;3VE;3GHE;3DE;3ZHE;3ZE;3KA;3EL;
3EM;3EN;3O;3PE;3ER;3ES;3TE;3HA;3TSE;3CHE;3SHA;3SHCHA;3FITA;3ES-TE;3A;3IE;3DJERV;3MONOGRAPH UK;
3YAT;3YU;3IOTIFIED A;3LITTLE YUS;3aBIG;3bIOTIFIED;0RIGHT ANGLE SUBSTITUTION MARKER;2bDOTTED;
0LEFT SUBSTITUTION BRACKET;0bRIGHT;0bLEFT DOTTED;0cRIGHT;0RAISED INTERPOLATION MARKER;1bDOTTED;
0aDOTTED TRANSPOSITION;0LEFT TRANSPOSITION BRACKET;0bRIGHT;0RAISED SQUARE;
0LEFT RAISED OMISSION BRACKET;0cRIGHT;0EDITORIAL CORONIS;0PARAGRAPHOS;0aFORKED;0bREVERSED;
0HYPODIASTOLE;0DOTTED OBELOS;0DOWNWARDS ANCORA;0aUPWARDS;0DOTTED RIGHT-POINTING ANGLE;
0DOUBLE OBLIQUE HYPHEN;0INVERTED INTERROBANG;0PALM BRANCH;0HYPHEN WITH DIAERESIS;
0TILDE WITH RING ABOVE;0LEFT LOW PARAPHRASE BRACKET;0cRIGHT;0TILDE WITH DOT ABOVE;3BELOW;
0LEFT VERTICAL BAR WITH QUILL;0dRIGHT;0TOP LEFT HALF BRACKET;1bRIGHT;0bBOTTOM LEFT;1bRIGHT;
0aLEFT SIDEWAYS U;0cRIGHT;0LEFT DOUBLE PARENTHESIS;0bRIGHT;0TWO DOTS OVER ONE DOT PUNCTUATION;
0aONE DOT OVER TWO DOTS;0aSQUARED FOUR DOT;0FIVE DOT MARK;0aREVERSED QUESTION;0VERTICAL TILDE;
0RING POINT;0WORD SEPARATOR MIDDLE DOT;0TURNED COMMA;0RAISED DOT;1COMMA;0TURNED SEMICOLON;
0DAGGER WITH LEFT GUARD;2aRIGHT;0TURNED DAGGER;0TOP HALF SECTION SIGN;0TWO-EM DASH;0aTHREE-EM;
0STENOGRAPHIC FULL STOP;0VERTICAL SIX DOTS;0WIGGLY VERTICAL LINE;0CAPITULUM;0DOUBLE HYPHEN;
0REVERSED COMMA;0DOUBLE LOW-REVERSED-9 QUOTATION MARK;0DASH WITH LEFT UPTURN;
0DOUBLE SUSPENSION MARK;0INVERTED LOW KAVYKA;3WITH KAVYKA ABOVE;0LOW KAVYKA;2WITH DOT;
0DOUBLE STACKED COMMA;0DOTTED SOLIDUS;0TRIPLE DAGGER;0MEDIEVAL COMMA;0PARAGRAPHUS MARK;
0aPUNCTUS ELEVATUS;0CORNISH VERSE DIVIDER;0CROSS PATTY WITH RIGHT CROSSBAR;3aLEFT;
0TIRONIAN SIGN CAPITAL ET;0MEDIEVAL EXCLAMATION MARK;1aQUESTION;0LEFT SQUARE BRACKET WITH STROKE;
0dRIGHT;0aLEFT SQUARE BRACKET WITH DOUBLE;0eRIGHT;0TOP HALF LEFT PARENTHESIS;2aRIGHT;
0aBOTTOM HALF LEFT;2aRIGHT;0OBLIQUE HYPHEN;2E80=0CJK RADICAL REPEAT;2CLIFF;2SECOND ONE;3TWO;
3THREE;2PERSON;2BOX;2TABLE;2KNIFE ONE;3TWO;2DIVINATION;2SEAL;2SMALL ONE;3TWO;2LAME ONE;3TWO;
3THREE;3FOUR;2SNAKE;2THREAD;2SNOUT ONE;3TWO;2HEART ONE;3TWO;2HAND;2RAP;2E9B=2CHOKE;2SUN;2MOON;
2DEATH;2MOTHER;2CIVILIAN;2WATER ONE;3TWO;2FIRE;2PAW ONE;3TWO;2SIMPLIFIED HALF TREE TRUNK;2COW;
2DOG;2JADE;2BOLT OF CLOTH;2EYE;2SPIRIT ONE;3TWO;2BAMBOO;2SILK;2aC-SIMPLIFIED;2NET ONE;3TWO;
3THREE;3FOUR;2MESH;2SHEEP;2RAM;2EWE;2OLD;2BRUSH ONE;3TWO;2MEAT;2MORTAR;2GRASS ONE;3TWO;3THREE;
2TIGER;2CLOTHES;2WEST ONE;3TWO;2C-SIMPLIFIED SEE;2SIMPLIFIED HORN;2a;2C-SIMPLIFIED SPEECH;3SHELL;
2FOOT;2C-SIMPLIFIED CART;2SIMPLIFIED WALK;2WALK ONE;3TWO;2CITY;2C-SIMPLIFIED GOLD;2LONG ONE;3TWO;
2C-SIMPLIFIED LONG;3GATE;2MOUND ONE;3TWO;2RAIN;2BLUE;2C-SIMPLIFIED TANNED LEATHER;3LEAF;3WIND;
3FLY;2EAT ONE;3TWO;3THREE;2C-SIMPLIFIED EAT;2HEAD;2C-SIMPLIFIED HORSE;2BONE;2GHOST;
2C-SIMPLIFIED FISH;3BIRD;3SALT;2SIMPLIFIED WHEAT;3YELLOW;2C-SIMPLIFIED FROG;2J-SIMPLIFIED EVEN;
2aC-SIMPLIFIED;2J-SIMPLIFIED TOOTH;2aC-SIMPLIFIED;2J-SIMPLIFIED DRAGON;2aC-SIMPLIFIED;2TURTLE;
2aJ-SIMPLIFIED;2aC-SIMPLIFIED;2F00=0KANGXI RADICAL ONE;2LINE;2DOT;2SLASH;2SECOND;2HOOK;2TWO;2LID;
2MAN;2LEGS;2ENTER;2EIGHT;2DOWN BOX;2COVER;2ICE;2TABLE;2OPEN BOX;2KNIFE;2POWER;2WRAP;2SPOON;
2RIGHT OPEN BOX;2HIDING ENCLOSURE;2TEN;2DIVINATION;2SEAL;2CLIFF;2PRIVATE;2AGAIN;2MOUTH;
2ENCLOSURE;2EARTH;2SCHOLAR;2GO;3SLOWLY;2EVENING;2BIG;2WOMAN;2CHILD;2ROOF;2INCH;2SMALL;2LAME;
2CORPSE;2SPROUT;2MOUNTAIN;2RIVER;2WORK;2ONESELF;2TURBAN;2DRY;2SHORT THREAD;2DOTTED CLIFF;
2LONG STRIDE;2TWO HANDS;2SHOOT;2BOW;2SNOUT;2BRISTLE;2STEP;2HEART;2HALBERD;2DOOR;2HAND;2BRANCH;
2RAP;2SCRIPT;2DIPPER;2AXE;2SQUARE;2NOT;2SUN;2SAY;2MOON;2TREE;2LACK;2STOP;2DEATH;2WEAPON;2DO NOT;
2COMPARE;2FUR;2CLAN;2STEAM;2WATER;2FIRE;2CLAW;2FATHER;2DOUBLE X;2HALF TREE TRUNK;2SLICE;2FANG;
2COW;2DOG;2PROFOUND;2JADE;2MELON;2TILE;2SWEET;2LIFE;2USE;2FIELD;2BOLT OF CLOTH;2SICKNESS;
2DOTTED TENT;2WHITE;2SKIN;2DISH;2EYE;2SPEAR;2ARROW;2STONE;2SPIRIT;2TRACK;2GRAIN;2CAVE;2STAND;
2BAMBOO;2RICE;2SILK;2JAR;2NET;2SHEEP;2FEATHER;2OLD;2AND;2PLOW;2EAR;2BRUSH;2MEAT;2MINISTER;2SELF;
2ARRIVE;2MORTAR;2TONGUE;2OPPOSE;2BOAT;2STOPPING;2COLOR;2GRASS;2TIGER;2INSECT;2BLOOD;
2WALK ENCLOSURE;2CLOTHES;2WEST;2SEE;2HORN;2SPEECH;2VALLEY;2BEAN;2PIG;2BADGER;2SHELL;2RED;2RUN;
2FOOT;2BODY;2CART;2BITTER;2MORNING;2WALK;2CITY;2WINE;2DISTINGUISH;2VILLAGE;2GOLD;2LONG;2GATE;
2MOUND;2SLAVE;2SHORT TAILED BIRD;2RAIN;2BLUE;2WRONG;2FACE;2LEATHER;2aTANNED;2LEEK;2SOUND;2LEAF;
2WIND;2FLY;2EAT;2HEAD;2FRAGRANT;2HORSE;2BONE;2TALL;2HAIR;2FIGHT;2SACRIFICIAL WINE;2CAULDRON;
2GHOST;2FISH;2BIRD;2SALT;2DEER;2WHEAT;2HEMP;2YELLOW;2MILLET;2BLACK;2EMBROIDERY;2FROG;2TRIPOD;
2DRUM;2RAT;2NOSE;2EVEN;2TOOTH;2DRAGON;2TURTLE;2FLUTE;
2FF0=0IDEOGRAPHIC DESCRIPTION CHARACTER LEFT TO RIGHT;3ABOVE TO BELOW;3LEFT TO MIDDLE AND RIGHT;
3ABOVE TO MIDDLE AND BELOW;3FULL SURROUND;3SURROUND FROM ABOVE;5BELOW;5LEFT;5aUPPER;6RIGHT;
5LOWER LEFT;3OVERLAID"

end RouteDoc.Chars
