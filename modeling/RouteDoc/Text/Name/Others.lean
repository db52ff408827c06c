/-!
# Other names of characters

* `Chars.otherNames`: the names that characters have besides their own, and those of controls, for
  Unicode 14, as entries of a table of names.
-/

namespace RouteDoc.Chars

def otherNames : String :=
  "0=0NULL;0=0NUL;0START OF HEADING;1=0SOH;0START OF TEXT;2=0STX;0END OF TEXT;3=0ETX;
0END OF TRANSMISSION;4=0EOT;0ENQUIRY;5=0ENQ;0ACKNOWLEDGE;6=0ACK;0ALERT;7=0BEL;0BACKSPACE;8=0BS;
0CHARACTER TABULATION;9=0aHORIZONTAL;9=0HT;9=0TAB;0LINE FEED;A=0NEW LINE;A=0aEND OF;A=0EOL;A=0LF;
A=0NL;0LINE TABULATION;B=0aVERTICAL;B=0VT;0FORM FEED;C=0FF;0CARRIAGE RETURN;D=0CR;0SHIFT OUT;
E=0LOCKING-SHIFT ONE;E=0SO;0SHIFT IN;F=0LOCKING-SHIFT ZERO;F=0SI;0DATA LINK ESCAPE;10=0DLE;
0DEVICE CONTROL ONE;11=0DC1;0DEVICE CONTROL TWO;12=0DC2;0DEVICE CONTROL THREE;13=0DC3;
0DEVICE CONTROL FOUR;14=0DC4;0NEGATIVE ACKNOWLEDGE;15=0NAK;0SYNCHRONOUS IDLE;16=0SYN;
0END OF TRANSMISSION BLOCK;17=0ETB;0CANCEL;18=0CAN;0END OF MEDIUM;19=0EOM;0SUBSTITUTE;1A=0SUB;
0ESCAPE;1B=0ESC;0INFORMATION SEPARATOR FOUR;1C=0FILE SEPARATOR;1C=0FS;
0INFORMATION SEPARATOR THREE;1D=0GROUP SEPARATOR;1D=0GS;0INFORMATION SEPARATOR TWO;
1E=0RECORD SEPARATOR;1E=0RS;0INFORMATION SEPARATOR ONE;1F=0UNIT SEPARATOR;1F=0US;0SP;7F=0DELETE;
7F=0DEL;0PADDING CHARACTER;80=0PAD;0HIGH OCTET PRESET;81=0HOP;0BREAK PERMITTED HERE;82=0BPH;
0NO BREAK HERE;83=0NBH;0INDEX;84=0IND;0NEXT LINE;85=0NEL;0START OF SELECTED AREA;86=0SSA;
0END OF SELECTED AREA;87=0ESA;0CHARACTER TABULATION SET;88=0bHORIZONTAL;88=0HTS;
0CHARACTER TABULATION WITH JUSTIFICATION;89=0cHORIZONTAL;89=0HTJ;0LINE TABULATION SET;
8A=0bVERTICAL;8A=0VTS;0PARTIAL LINE FORWARD;8B=2DOWN;8B=0PLD;0PARTIAL LINE BACKWARD;8C=2UP;
8C=0PLU;0REVERSE LINE FEED;8D=1INDEX;8D=0RI;0SINGLE SHIFT TWO;8E=0SINGLE-SHIFT-2;8E=0SS2;
0SINGLE SHIFT THREE;8F=0SINGLE-SHIFT-3;8F=0SS3;0DEVICE CONTROL STRING;90=0DCS;0PRIVATE USE ONE;
91=1USE-1;91=0PU1;0PRIVATE USE TWO;92=1USE-2;92=0PU2;0SET TRANSMIT STATE;93=0STS;
0CANCEL CHARACTER;94=0CCH;0MESSAGE WAITING;95=0MW;0START OF GUARDED AREA;96=2aPROTECTED;96=0SPA;
0END OF GUARDED AREA;97=2aPROTECTED;97=0EPA;0START OF STRING;98=0SOS;
0SINGLE GRAPHIC CHARACTER INTRODUCER;99=0SGC;0SINGLE CHARACTER INTRODUCER;9A=0SCI;
0CONTROL SEQUENCE INTRODUCER;9B=0CSI;0STRING TERMINATOR;9C=0ST;0OPERATING SYSTEM COMMAND;9D=0OSC;
0PRIVACY MESSAGE;9E=0PM;0APPLICATION PROGRAM COMMAND;9F=0APC;0NBSP;AD=0SHY;
1A2=0LATIN CAPITAL LETTER GHA;~;34F=0CGJ;61C=0ALM;709=0SYRIAC SUBLINEAR COLON SKEWED LEFT;
CDE=0KANNADA LETTER LLLA;E9D=0LAO LETTER FO FON;E9F=3FAY;EA3=2RO;EA5=2LO;
FD0=0TIBETAN MARK BKA- SHOG GI MGO RGYAN;11EC=0HANGUL JONGSEONG YESIEUNG-KIYEOK;
2YESIEUNG-SSANGKIYEOK;2SSANGYESIEUNG;2YESIEUNG-KHIEUKH;180B=0FVS1;+2;0MVS;0FVS4;200B=0ZWSP;0ZWNJ;
0ZWJ;0LRM;0RLM;202A=0LRE;0RLE;0PDF;0LRO;0RLO;0NNBSP;205F=0MMSP;0WJ;2066=0LRI;0RLI;0FSI;0PDI;
2118=0WEIERSTRASS ELLIPTIC FUNCTION;2448=0MICR ON US SYMBOL;1aDASH;
2B7A=0LEFTWARDS TRIANGLE-HEADED ARROW WITH DOUBLE VERTICAL STROKE;2B7C=0fRIGHTWARDS;
A015=0YI SYLLABLE ITERATION MARK;AA6E=0MYANMAR LETTER KHAMTI LLA;
FE18=0PRESENTATION FORM FOR VERTICAL RIGHT WHITE LENTICULAR BRACKET;FEFF=0BYTE ORDER MARK;
FEFF=0BOM;FEFF=0ZWNBSP;122D4=0CUNEIFORM SIGN NU11 TENU;3OVER NU11 BUR OVER BUR;
16E56=0MEDEFAIDRIN CAPITAL LETTER H;3NG;16E76=1SMALL LETTER H;3NG;1B001=0HENTAIGANA LETTER E-1;
1D0C5=0BYZANTINE MUSICAL SYMBOL FTHORA SKLIRON CHROMA VASIS;FE00=0VS1;+15;E0100=0VS17;+239"

end RouteDoc.Chars
