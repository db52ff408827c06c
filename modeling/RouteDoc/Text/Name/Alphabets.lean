/-!
# The names of alphabets from Latin to Tibetan

* `Chars.alphabetNames`: the names of the characters from U+0000 to U+0FFF, for Unicode 14, as
  entries of a table of names.
-/

namespace RouteDoc.Chars

/-- The names of the characters from U+0000 to U+0FFF. -/
def alphabetNames : String :=
  "20=0SPACE;0EXCLAMATION MARK;0aQUOTATION;0NUMBER SIGN;0aDOLLAR;0aPERCENT;0AMPERSAND;0APOSTROPHE;
0LEFT PARENTHESIS;0aRIGHT;0ASTERISK;0PLUS SIGN;0COMMA;0HYPHEN-MINUS;0FULL STOP;0SOLIDUS;
0DIGIT ZERO;1ONE;1TWO;1THREE;1FOUR;1FIVE;1SIX;1SEVEN;1EIGHT;1NINE;0COLON;0SEMICOLON;
0LESS-THAN SIGN;0aEQUALS;0aGREATER-THAN;0QUESTION MARK;0COMMERCIAL AT;0LATIN CAPITAL LETTER A;3B;
3C;3D;3E;3F;3G;3H;3I;3J;3K;3L;3M;3N;3O;3P;3Q;3R;3S;3T;3U;3V;3W;3X;3Y;3Z;0LEFT SQUARE BRACKET;
0REVERSE SOLIDUS;0RIGHT SQUARE BRACKET;0CIRCUMFLEX ACCENT;0LOW LINE;0GRAVE ACCENT;
0LATIN SMALL LETTER A;3B;3C;3D;3E;3F;3G;3H;3I;3J;3K;3L;3M;3N;3O;3P;3Q;3R;3S;3T;3U;3V;3W;3X;3Y;3Z;
0LEFT CURLY BRACKET;0VERTICAL LINE;0RIGHT CURLY BRACKET;0TILDE;A0=0NO-BREAK SPACE;
0INVERTED EXCLAMATION MARK;0CENT SIGN;0aPOUND;0aCURRENCY;0aYEN;0BROKEN BAR;0SECTION SIGN;
0DIAERESIS;0COPYRIGHT SIGN;0FEMININE ORDINAL INDICATOR;
0LEFT-POINTING DOUBLE ANGLE QUOTATION MARK;0NOT SIGN;0SOFT HYPHEN;0REGISTERED SIGN;0MACRON;
0DEGREE SIGN;0aPLUS-MINUS;0SUPERSCRIPT TWO;1THREE;0ACUTE ACCENT;0MICRO SIGN;0aPILCROW;
0MIDDLE DOT;0CEDILLA;0SUPERSCRIPT ONE;0MASCULINE ORDINAL INDICATOR;
0RIGHT-POINTING DOUBLE ANGLE QUOTATION MARK;0VULGAR FRACTION ONE QUARTER;3HALF;2THREE QUARTERS;
0INVERTED QUESTION MARK;0LATIN CAPITAL LETTER A WITH GRAVE;5ACUTE;5CIRCUMFLEX;5TILDE;5DIAERESIS;
5RING ABOVE;3AE;3C WITH CEDILLA;3E WITH GRAVE;5ACUTE;5CIRCUMFLEX;5DIAERESIS;3I WITH GRAVE;5ACUTE;
5CIRCUMFLEX;5DIAERESIS;3ETH;3N WITH TILDE;3O WITH GRAVE;5ACUTE;5CIRCUMFLEX;5TILDE;5DIAERESIS;
0MULTIPLICATION SIGN;0LATIN CAPITAL LETTER O WITH STROKE;3U WITH GRAVE;5ACUTE;5CIRCUMFLEX;
5DIAERESIS;3Y WITH ACUTE;3THORN;1SMALL LETTER SHARP S;3A WITH GRAVE;5ACUTE;5CIRCUMFLEX;5TILDE;
5DIAERESIS;5RING ABOVE;3AE;3C WITH CEDILLA;3E WITH GRAVE;5ACUTE;5CIRCUMFLEX;5DIAERESIS;
3I WITH GRAVE;5ACUTE;5CIRCUMFLEX;5DIAERESIS;3ETH;3N WITH TILDE;3O WITH GRAVE;5ACUTE;5CIRCUMFLEX;
5TILDE;5DIAERESIS;0DIVISION SIGN;0LATIN SMALL LETTER O WITH STROKE;3U WITH GRAVE;5ACUTE;
5CIRCUMFLEX;5DIAERESIS;3Y WITH ACUTE;3THORN;3Y WITH DIAERESIS;1CAPITAL LETTER A WITH MACRON;~;
5BREVE;~;5OGONEK;~;3C WITH ACUTE;~;5CIRCUMFLEX;~;5DOT ABOVE;~;5CARON;~;3bD;~;5STROKE;~;
3E WITH MACRON;~;5BREVE;~;5DOT ABOVE;~;5OGONEK;~;5CARON;~;3G WITH CIRCUMFLEX;~;5BREVE;~;
5DOT ABOVE;~;5CEDILLA;~;3H WITH CIRCUMFLEX;~;5STROKE;~;3I WITH TILDE;~;5MACRON;~;5BREVE;~;
5OGONEK;~;5DOT ABOVE;1SMALL LETTER DOTLESS I;1CAPITAL LIGATURE IJ;~;2LETTER J WITH CIRCUMFLEX;~;
3K WITH CEDILLA;~;1SMALL LETTER KRA;1CAPITAL LETTER L WITH ACUTE;~;5CEDILLA;~;5CARON;~;
5MIDDLE DOT;~;5STROKE;~;3N WITH ACUTE;~;5CEDILLA;~;5CARON;~;
1SMALL LETTER N PRECEDED BY APOSTROPHE;1CAPITAL LETTER ENG;~;3O WITH MACRON;~;5BREVE;~;
5DOUBLE ACUTE;~;2LIGATURE OE;~;2LETTER R WITH ACUTE;~;5CEDILLA;~;5CARON;~;3S WITH ACUTE;~;
5CIRCUMFLEX;~;5CEDILLA;~;5CARON;~;3T WITH CEDILLA;~;5CARON;~;5STROKE;~;3U WITH TILDE;~;5MACRON;~;
5BREVE;~;5RING ABOVE;~;5DOUBLE ACUTE;~;5OGONEK;~;3W WITH CIRCUMFLEX;~;3bY;~;5DIAERESIS;
3Z WITH ACUTE;~;5DOT ABOVE;~;5CARON;~;1SMALL LETTER LONG S;3B WITH STROKE;
1CAPITAL LETTER B WITH HOOK;5TOPBAR;~;3TONE SIX;~;3OPEN O;3C WITH HOOK;~;3AFRICAN D;3D WITH HOOK;
5TOPBAR;~;1SMALL LETTER TURNED DELTA;1CAPITAL LETTER REVERSED E;3SCHWA;3OPEN E;3F WITH HOOK;~;
3bG;3GAMMA;1SMALL LETTER HV;1CAPITAL LETTER IOTA;3I WITH STROKE;3K WITH HOOK;~;
1SMALL LETTER L WITH BAR;3LAMBDA WITH STROKE;1CAPITAL LETTER TURNED M;3N WITH LEFT HOOK;
1SMALL LETTER N WITH LONG RIGHT LEG;1CAPITAL LETTER O WITH MIDDLE TILDE;5HORN;~;3OI;~;
3P WITH HOOK;~;1LETTER YR;1CAPITAL LETTER TONE TWO;~;3ESH;1LETTER REVERSED ESH LOOP;
1SMALL LETTER T WITH PALATAL HOOK;1aCAPITAL LETTER T WITH;~;5aRETROFLEX;3U WITH HORN;~;3UPSILON;
3V WITH HOOK;3bY;~;3Z WITH STROKE;~;3EZH;4REVERSED;~;1SMALL LETTER EZH WITH TAIL;
1LETTER TWO WITH STROKE;1CAPITAL LETTER TONE FIVE;~;1LETTER INVERTED GLOTTAL STOP WITH STROKE;
2WYNN;2DENTAL CLICK;2aLATERAL;2aALVEOLAR;2aRETROFLEX;1CAPITAL LETTER DZ WITH CARON;
3bD WITH SMALL LETTER Z;1bSMALL LETTER DZ;1CAPITAL LETTER LJ;3L WITH SMALL LETTER J;
1SMALL LETTER LJ;1CAPITAL LETTER NJ;3N WITH SMALL LETTER J;1SMALL LETTER NJ;
1CAPITAL LETTER A WITH CARON;~;3bI;~;3bO;~;3bU;~;5DIAERESIS AND MACRON;~;7ACUTE;~;7CARON;~;
7GRAVE;~;1SMALL LETTER TURNED E;1CAPITAL LETTER A WITH DIAERESIS AND MACRON;~;5bDOT ABOVE;~;
3aAE WITH;~;3G WITH STROKE;~;5CARON;~;3bK;~;3O WITH OGONEK;~;6AND MACRON;~;3EZH WITH CARON;~;
1bSMALL LETTER J;1CAPITAL LETTER DZ;3D WITH SMALL LETTER Z;1SMALL LETTER DZ;
1CAPITAL LETTER G WITH ACUTE;~;3HWAIR;3WYNN;3N WITH GRAVE;~;3A WITH RING ABOVE AND ACUTE;~;
3aAE WITH;~;3aO WITH STROKE AND;~;3A WITH DOUBLE GRAVE;~;5INVERTED BREVE;~;3E WITH DOUBLE GRAVE;
~;5INVERTED BREVE;~;3I WITH DOUBLE GRAVE;~;5INVERTED BREVE;~;3O WITH DOUBLE GRAVE;~;
5INVERTED BREVE;~;3R WITH DOUBLE GRAVE;~;5INVERTED BREVE;~;3U WITH DOUBLE GRAVE;~;
5INVERTED BREVE;~;3S WITH COMMA BELOW;~;3cT;~;3YOGH;~;3H WITH CARON;~;3N WITH LONG RIGHT LEG;
1SMALL LETTER D WITH CURL;1CAPITAL LETTER OU;~;3Z WITH HOOK;~;3A WITH DOT ABOVE;~;
3E WITH CEDILLA;~;3O WITH DIAERESIS AND MACRON;~;5bTILDE;~;5DOT ABOVE;~;7AND MACRON;~;3aY WITH;~;
1SMALL LETTER L WITH CURL;3bN;3bT;3DOTLESS J;3DB DIGRAPH;3aQP;1CAPITAL LETTER A WITH STROKE;3bC;
~;3L WITH BAR;3T WITH DIAGONAL STROKE;1SMALL LETTER S WITH SWASH TAIL;3cZ;
1CAPITAL LETTER GLOTTAL STOP;~;3B WITH STROKE;3U BAR;3TURNED V;3E WITH STROKE;~;3bJ;~;
3SMALL Q WITH HOOK TAIL;1dSMALL LETTER;1CAPITAL LETTER R WITH STROKE;~;3bY;~;
1SMALL LETTER TURNED A;3ALPHA;3aTURNED;3B WITH HOOK;3OPEN O;3C WITH CURL;3D WITH TAIL;5HOOK;
3REVERSED E;3SCHWA;4WITH HOOK;3OPEN E;3bREVERSED;6WITH HOOK;3CLOSED REVERSED OPEN E;
3DOTLESS J WITH STROKE;3G WITH HOOK;3SCRIPT G;1aLETTER SMALL CAPITAL;1SMALL LETTER GAMMA;
3RAMS HORN;3TURNED H;3H WITH HOOK;3bHENG;3I WITH STROKE;3IOTA;1LETTER SMALL CAPITAL I;
1SMALL LETTER L WITH MIDDLE TILDE;5BELT;5RETROFLEX HOOK;3LEZH;3TURNED M;5WITH LONG LEG;
3M WITH HOOK;3aN WITH LEFT;5aRETROFLEX;1LETTER SMALL CAPITAL N;1SMALL LETTER BARRED O;
1LETTER SMALL CAPITAL OE;1SMALL LETTER CLOSED OMEGA;3PHI;3TURNED R;5WITH LONG LEG;6HOOK;
3R WITH LONG LEG;5TAIL;5FISHHOOK;3cREVERSED;1LETTER SMALL CAPITAL R;4aINVERTED;
1SMALL LETTER S WITH HOOK;3ESH;3DOTLESS J WITH STROKE AND HOOK;3SQUAT REVERSED ESH;
3ESH WITH CURL;3TURNED T;3T WITH RETROFLEX HOOK;3U BAR;3UPSILON;3V WITH HOOK;3TURNED V;4W;4Y;
1aLETTER SMALL CAPITAL;1SMALL LETTER Z WITH RETROFLEX HOOK;5CURL;3EZH;4WITH CURL;
1LETTER GLOTTAL STOP;2PHARYNGEAL VOICED FRICATIVE;2INVERTED GLOTTAL STOP;2STRETCHED C;
2BILABIAL CLICK;2SMALL CAPITAL B;1SMALL LETTER CLOSED OPEN E;1LETTER SMALL CAPITAL G WITH HOOK;
4H;1SMALL LETTER J WITH CROSSED-TAIL;3TURNED K;1LETTER SMALL CAPITAL L;1SMALL LETTER Q WITH HOOK;
1LETTER GLOTTAL STOP WITH STROKE;2dREVERSED;1SMALL LETTER DZ DIGRAPH;3aDEZH;
3DZ DIGRAPH WITH CURL;3TS DIGRAPH;3aTESH;3TC DIGRAPH WITH CURL;3FENG DIGRAPH;3aLS;3aLZ;
1LETTER BILABIAL PERCUSSIVE;2aBIDENTAL;1SMALL LETTER TURNED H WITH FISHHOOK;7AND TAIL;
0MODIFIER LETTER SMALL H;4WITH HOOK;3J;3R;3aTURNED;5WITH HOOK;3CAPITAL INVERTED R;3W;3Y;2PRIME;
2aDOUBLE;2TURNED COMMA;2APOSTROPHE;2REVERSED COMMA;2RIGHT HALF RING;2bLEFT;2GLOTTAL STOP;
2bREVERSED;2LEFT ARROWHEAD;2aRIGHT;2aUP;2aDOWN;2CIRCUMFLEX ACCENT;0CARON;
0MODIFIER LETTER VERTICAL LINE;2MACRON;2ACUTE ACCENT;2aGRAVE;2LOW VERTICAL LINE;3MACRON;
3GRAVE ACCENT;3aACUTE;2TRIANGULAR COLON;2bHALF;2CENTRED RIGHT HALF RING;3bLEFT;2UP TACK;2aDOWN;
2PLUS SIGN;2aMINUS;0BREVE;0DOT ABOVE;0aRING;0OGONEK;0SMALL TILDE;0DOUBLE ACUTE ACCENT;
0MODIFIER LETTER RHOTIC HOOK;2CROSS ACCENT;2SMALL GAMMA;3L;3S;3X;3REVERSED GLOTTAL STOP;
2EXTRA-HIGH TONE BAR;2bHIGH;2bMID;2bLOW;2bEXTRA-LOW;2YIN DEPARTING TONE MARK;2cYANG;2VOICING;
2UNASPIRATED;2DOUBLE APOSTROPHE;2LOW DOWN ARROWHEAD;3aUP;3aLEFT;3aRIGHT;3RING;
2MIDDLE GRAVE ACCENT;3bDOUBLE;4aACUTE;2LOW TILDE;2RAISED COLON;2BEGIN HIGH TONE;2bEND;
2aBEGIN LOW;2bEND;2SHELF;2aOPEN;2LOW LEFT ARROW;0COMBINING GRAVE ACCENT;1aACUTE;1aCIRCUMFLEX;
1TILDE;1MACRON;1OVERLINE;1BREVE;1DOT ABOVE;1DIAERESIS;1HOOK ABOVE;1aRING;1DOUBLE ACUTE ACCENT;
1CARON;1VERTICAL LINE ABOVE;1cDOUBLE;2GRAVE ACCENT;1CANDRABINDU;1INVERTED BREVE;
1TURNED COMMA ABOVE;1b;1bREVERSED;1COMMA ABOVE RIGHT;1GRAVE ACCENT BELOW;1bACUTE;1aLEFT TACK;
1bRIGHT;1LEFT ANGLE ABOVE;1HORN;1LEFT HALF RING BELOW;1aUP TACK;1bDOWN;1aPLUS SIGN;1bMINUS;
1aPALATALIZED HOOK;1bRETROFLEX;1aDOT;1aDIAERESIS;1aRING;1aCOMMA;1CEDILLA;1OGONEK;
1VERTICAL LINE BELOW;1aBRIDGE;1aINVERTED DOUBLE ARCH;1aCARON;1aCIRCUMFLEX ACCENT;1aBREVE;
1bINVERTED;1aTILDE;1aMACRON;1LOW LINE;1bDOUBLE;1TILDE OVERLAY;1aSHORT STROKE;1bLONG;
1aSHORT SOLIDUS;1bLONG;1RIGHT HALF RING BELOW;1aINVERTED BRIDGE;1aSQUARE;1aSEAGULL;1X ABOVE;
1VERTICAL TILDE;1DOUBLE OVERLINE;1GRAVE TONE MARK;1bACUTE;1GREEK PERISPOMENI;2KORONIS;
2DIALYTIKA TONOS;2YPOGEGRAMMENI;1BRIDGE ABOVE;1EQUALS SIGN BELOW;1aDOUBLE VERTICAL LINE;
1aLEFT ANGLE;1NOT TILDE ABOVE;1aHOMOTHETIC;1aALMOST EQUAL TO;1LEFT RIGHT ARROW BELOW;1bUPWARDS;
1GRAPHEME JOINER;1RIGHT ARROWHEAD ABOVE;1aLEFT HALF RING;1FERMATA;1X BELOW;1aLEFT ARROWHEAD;
1bRIGHT;3aAND UP ARROWHEAD;2HALF RING ABOVE;1DOT ABOVE RIGHT;1ASTERISK BELOW;1aDOUBLE RING;
1ZIGZAG ABOVE;1DOUBLE BREVE BELOW;3;2MACRON;3BELOW;2TILDE;2INVERTED BREVE;
2RIGHTWARDS ARROW BELOW;1LATIN SMALL LETTER A;4E;4I;4O;4U;4C;4D;4H;4M;4R;4T;4V;4X;
0GREEK CAPITAL LETTER HETA;~;3ARCHAIC SAMPI;~;1NUMERAL SIGN;1bLOWER;
1CAPITAL LETTER PAMPHYLIAN DIGAMMA;~;37A=1YPOGEGRAMMENI;1SMALL REVERSED LUNATE SIGMA SYMBOL;
2cDOTTED;2dREVERSED;1QUESTION MARK;1CAPITAL LETTER YOT;384=1TONOS;1aDIALYTIKA;
1aCAPITAL LETTER ALPHA WITH;1ANO TELEIA;1CAPITAL LETTER EPSILON WITH TONOS;3bETA;3bIOTA;
38C=3bOMICRON;38E=3bUPSILON;3bOMEGA;1aSMALL LETTER IOTA WITH DIALYTIKA AND;1CAPITAL LETTER ALPHA;
3BETA;3GAMMA;3DELTA;3EPSILON;3ZETA;3ETA;3THETA;3IOTA;3KAPPA;3LAMDA;3MU;3NU;3XI;3OMICRON;3PI;3RHO;
3A3=3SIGMA;3TAU;3UPSILON;3PHI;3CHI;3PSI;3OMEGA;3IOTA WITH DIALYTIKA;3bUPSILON;
1SMALL LETTER ALPHA WITH TONOS;3bEPSILON;3bETA;3bIOTA;3aUPSILON WITH DIALYTIKA AND;3ALPHA;3BETA;
3GAMMA;3DELTA;3EPSILON;3ZETA;3ETA;3THETA;3IOTA;3KAPPA;3LAMDA;3MU;3NU;3XI;3OMICRON;3PI;3RHO;
3FINAL SIGMA;3a;3TAU;3UPSILON;3PHI;3CHI;3PSI;3OMEGA;3IOTA WITH DIALYTIKA;3bUPSILON;
3OMICRON WITH TONOS;3bUPSILON;3bOMEGA;1CAPITAL KAI SYMBOL;1aBETA;1aTHETA;1aUPSILON WITH HOOK;
3bACUTE AND;3cDIAERESIS;1aPHI;1aPI;1aKAI;1LETTER ARCHAIC KOPPA;1cSMALL;1LETTER STIGMA;1bSMALL;
1LETTER DIGAMMA;1bSMALL;1LETTER KOPPA;1bSMALL;1LETTER SAMPI;1bSMALL;0COPTIC CAPITAL LETTER SHEI;
~;3FEI;~;3KHEI;~;3HORI;~;3GANGIA;~;3SHIMA;~;3DEI;~;0GREEK KAPPA SYMBOL;1aRHO;1aLUNATE SIGMA;
1LETTER YOT;1CAPITAL THETA SYMBOL;1aLUNATE EPSILON;1cREVERSED;1CAPITAL LETTER SHO;~;
2LUNATE SIGMA SYMBOL;2LETTER SAN;~;1RHO WITH STROKE SYMBOL;1aCAPITAL REVERSED LUNATE SIGMA;
2cDOTTED;2dREVERSED;0CYRILLIC CAPITAL LETTER IE WITH GRAVE;3IO;3DJE;3GJE;3UKRAINIAN IE;3DZE;
3BYELORUSSIAN-UKRAINIAN I;3YI;3JE;3LJE;3NJE;3TSHE;3KJE;3I WITH GRAVE;3SHORT U;3DZHE;3A;3BE;3VE;
3GHE;3DE;3IE;3ZHE;3ZE;3I;3aSHORT;3KA;3EL;3EM;3EN;3O;3PE;3ER;3ES;3TE;3U;3EF;3HA;3TSE;3CHE;3SHA;
3SHCHA;3HARD SIGN;3YERU;3SOFT SIGN;3E;3YU;3YA;1SMALL LETTER A;3BE;3VE;3GHE;3DE;3IE;3ZHE;3ZE;3I;
3aSHORT;3KA;3EL;3EM;3EN;3O;3PE;3ER;3ES;3TE;3U;3EF;3HA;3TSE;3CHE;3SHA;3SHCHA;3HARD SIGN;3YERU;
3SOFT SIGN;3E;3YU;3YA;3IE WITH GRAVE;3IO;3DJE;3GJE;3UKRAINIAN IE;3DZE;3BYELORUSSIAN-UKRAINIAN I;
3YI;3JE;3LJE;3NJE;3TSHE;3KJE;3I WITH GRAVE;3SHORT U;3DZHE;1CAPITAL LETTER OMEGA;~;3YAT;~;
3IOTIFIED E;~;3LITTLE YUS;~;3bIOTIFIED;~;3aBIG;~;3bIOTIFIED;~;3KSI;~;3PSI;~;3FITA;~;3IZHITSA;~;
4WITH DOUBLE GRAVE ACCENT;~;3UK;~;3ROUND OMEGA;~;3OMEGA WITH TITLO;~;3OT;~;3KOPPA;~;
1THOUSANDS SIGN;0COMBINING CYRILLIC TITLO;2PALATALIZATION;2DASIA PNEUMATA;2aPSILI;2POKRYTIE;
2HUNDRED THOUSANDS SIGN;2aMILLIONS;0CYRILLIC CAPITAL LETTER SHORT I WITH TAIL;~;3SEMISOFT SIGN;~;
3ER WITH TICK;~;3GHE WITH UPTURN;~;5STROKE;~;5MIDDLE HOOK;~;3ZHE WITH DESCENDER;~;3bZE;~;3bKA;~;
5VERTICAL STROKE;~;5a;~;3BASHKIR KA;~;3EN WITH DESCENDER;~;2LIGATURE EN GHE;~;
2LETTER PE WITH MIDDLE HOOK;~;3ABKHASIAN HA;~;3ES WITH DESCENDER;~;3bTE;~;3STRAIGHT U;~;
5WITH STROKE;~;3HA WITH DESCENDER;~;2LIGATURE TE TSE;~;2LETTER CHE WITH DESCENDER;~;
5VERTICAL STROKE;~;3SHHA;~;3ABKHASIAN CHE;~;5WITH DESCENDER;~;1LETTER PALOCHKA;
1CAPITAL LETTER ZHE WITH BREVE;~;3KA WITH HOOK;~;3EL WITH TAIL;~;3EN WITH HOOK;~;5TAIL;~;
3KHAKASSIAN CHE;~;3EM WITH TAIL;~;1SMALL LETTER PALOCHKA;1CAPITAL LETTER A WITH BREVE;~;
5DIAERESIS;~;2LIGATURE A IE;~;2LETTER IE WITH BREVE;~;3SCHWA;~;4WITH DIAERESIS;~;3bZHE;~;3bZE;~;
3ABKHASIAN DZE;~;3I WITH MACRON;~;5DIAERESIS;~;3bO;~;3BARRED O;~;5WITH DIAERESIS;~;3bE;~;
3U WITH MACRON;~;5DIAERESIS;~;5DOUBLE ACUTE;~;3CHE WITH DIAERESIS;~;3GHE WITH DESCENDER;~;
3YERU WITH DIAERESIS;~;3GHE WITH STROKE AND HOOK;~;3aHA WITH;~;5STROKE;~;3KOMI DE;~;4DJE;~;4ZJE;
~;4DZJE;~;4LJE;~;4NJE;~;4SJE;~;4TJE;~;3REVERSED ZE;~;3EL WITH HOOK;~;3LHA;~;3RHA;~;3YAE;~;3QA;~;
3WE;~;3ALEUT KA;~;3EL WITH MIDDLE HOOK;~;3cEN;~;3PE WITH DESCENDER;~;3bSHHA;~;3EN WITH LEFT HOOK;
~;3DZZHE;~;3DCHE;~;3EL WITH DESCENDER;~;531=0ARMENIAN CAPITAL LETTER AYB;3BEN;3GIM;3DA;3ECH;3ZA;
3EH;3ET;3TO;3ZHE;3INI;3LIWN;3XEH;3CA;3KEN;3HO;3JA;3GHAD;3CHEH;3MEN;3YI;3NOW;3SHA;3VO;3CHA;3PEH;
3JHEH;3RA;3SEH;3VEW;3TIWN;3REH;3CO;3YIWN;3PIWR;3KEH;3OH;3FEH;559=1MODIFIER LETTER LEFT HALF RING;
1APOSTROPHE;1EMPHASIS MARK;1aEXCLAMATION;1COMMA;1QUESTION MARK;1aABBREVIATION;
1SMALL LETTER TURNED AYB;3a;3BEN;3GIM;3DA;3ECH;3ZA;3EH;3ET;3TO;3ZHE;3INI;3LIWN;3XEH;3CA;3KEN;3HO;
3JA;3GHAD;3CHEH;3MEN;3YI;3NOW;3SHA;3VO;3CHA;3PEH;3JHEH;3RA;3SEH;3VEW;3TIWN;3REH;3CO;3YIWN;3PIWR;
3KEH;3OH;3FEH;2LIGATURE ECH YIWN;2LETTER YI WITH STROKE;1FULL STOP;1HYPHEN;
58D=0RIGHT-FACING ARMENIAN ETERNITY SIGN;0cLEFT-FACING;0aARMENIAN DRAM;
591=0HEBREW ACCENT ETNAHTA;2SEGOL;2SHALSHELET;2ZAQEF QATAN;3GADOL;2TIPEHA;2REVIA;2ZARQA;2PASHTA;
2YETIV;2TEVIR;2GERESH;3MUQDAM;2GERSHAYIM;2QARNEY PARA;2TELISHA GEDOLA;2PAZER;2ATNAH HAFUKH;
2MUNAH;2MAHAPAKH;2MERKHA;3KEFULA;2DARGA;2QADMA;2TELISHA QETANA;2YERAH BEN YOMO;2OLE;2ILUY;2DEHI;
2ZINOR;1MARK MASORA CIRCLE;1POINT SHEVA;2HATAF SEGOL;3PATAH;3QAMATS;2HIRIQ;2TSERE;2SEGOL;2PATAH;
2QAMATS;2HOLAM;3HASER FOR VAV;2QUBUTS;2DAGESH OR MAPIQ;2METEG;1PUNCTUATION MAQAF;1POINT RAFE;
1PUNCTUATION PASEQ;1POINT SHIN DOT;2aSIN;1PUNCTUATION SOF PASUQ;1MARK UPPER DOT;2aLOWER;
1PUNCTUATION NUN HAFUKHA;1POINT QAMATS QATAN;5D0=1LETTER ALEF;2BET;2GIMEL;2DALET;2HE;2VAV;2ZAYIN;
2HET;2TET;2YOD;2FINAL KAF;2a;2LAMED;2FINAL MEM;2a;2FINAL NUN;2a;2SAMEKH;2AYIN;2FINAL PE;2a;
2FINAL TSADI;2a;2QOF;2RESH;2SHIN;2TAV;5EF=1YOD TRIANGLE;1LIGATURE YIDDISH DOUBLE VAV;3VAV YOD;
3aDOUBLE;1PUNCTUATION GERESH;2GERSHAYIM;600=0ARABIC NUMBER SIGN;1SIGN SANAH;1FOOTNOTE MARKER;
1SIGN SAFHA;2SAMVAT;1NUMBER MARK ABOVE;0ARABIC-INDIC CUBE ROOT;1aFOURTH;0ARABIC RAY;
0ARABIC-INDIC PER MILLE SIGN;2aTEN THOUSAND;0aAFGHANI;0ARABIC COMMA;1DATE SEPARATOR;
1POETIC VERSE SIGN;1SIGN MISRA;2SALLALLAHOU ALAYHE WASSALLAM;2ALAYHE ASSALLAM;
2RAHMATULLAH ALAYHE;2RADI ALLAHOU ANHU;2TAKHALLUS;1SMALL HIGH TAH;
3LIGATURE ALEF WITH LAM WITH YEH;3ZAIN;2FATHA;2DAMMA;2KASRA;1SEMICOLON;1LETTER MARK;
1aEND OF TEXT;1aTRIPLE DOT PUNCTUATION;1aQUESTION;1LETTER KASHMIRI YEH;2HAMZA;
2ALEF WITH MADDA ABOVE;4aHAMZA;2cWAW;2ALEF WITH HAMZA BELOW;2YEH WITH HAMZA ABOVE;2ALEF;2BEH;
2TEH MARBUTA;3;2THEH;2JEEM;2HAH;2KHAH;2DAL;2THAL;2REH;2ZAIN;2SEEN;2SHEEN;2SAD;2DAD;2TAH;2ZAH;
2AIN;2GHAIN;2KEHEH WITH TWO DOTS ABOVE;4THREE DOTS BELOW;2FARSI YEH WITH INVERTED V;
5TWO DOTS ABOVE;5bTHREE;1TATWEEL;1LETTER FEH;2QAF;2KAF;2LAM;2MEEM;2NOON;2HEH;2WAW;2ALEF MAKSURA;
2YEH;1FATHATAN;1DAMMATAN;1KASRATAN;1FATHA;1DAMMA;1KASRA;1SHADDA;1SUKUN;1MADDAH ABOVE;1aHAMZA;
2BELOW;1SUBSCRIPT ALEF;1INVERTED DAMMA;1MARK NOON GHUNNA;1ZWARAKAY;1VOWEL SIGN SMALL V ABOVE;
3cINVERTED;3DOT BELOW;1REVERSED DAMMA;1FATHA WITH TWO DOTS;1WAVY HAMZA BELOW;
0ARABIC-INDIC DIGIT ZERO;2ONE;2TWO;2THREE;2FOUR;2FIVE;2SIX;2SEVEN;2EIGHT;2NINE;
0ARABIC PERCENT SIGN;1DECIMAL SEPARATOR;1aTHOUSANDS;1FIVE POINTED STAR;1LETTER DOTLESS BEH;3QAF;
2SUPERSCRIPT ALEF;2ALEF WASLA;3WITH WAVY HAMZA ABOVE;6BELOW;2HIGH HAMZA;4ALEF;4WAW;
2U WITH HAMZA ABOVE;2HIGH HAMZA YEH;2TTEH;2TTEHEH;2BEEH;2TEH WITH RING;
4THREE DOTS ABOVE DOWNWARDS;2PEH;2TEHEH;2BEHEH;2HAH WITH HAMZA ABOVE;4aTWO DOTS VERTICAL;2NYEH;
2DYEH;2HAH WITH THREE DOTS ABOVE;2TCHEH;2TCHEHEH;2DDAL;2DAL WITH RING;4DOT BELOW;6AND SMALL TAH;
2DAHAL;2DDAHAL;2DUL;2DAL WITH THREE DOTS ABOVE DOWNWARDS;4FOUR DOTS ABOVE;2RREH;
2REH WITH SMALL V;4RING;4DOT BELOW;4aSMALL V;4DOT BELOW AND DOT ABOVE;4aTWO DOTS;2JEH;
2REH WITH FOUR DOTS ABOVE;2aSEEN WITH DOT BELOW AND DOT;4THREE DOTS BELOW;7AND THREE DOTS ABOVE;
2SAD WITH TWO DOTS BELOW;4THREE DOTS ABOVE;2dTAH;2dAIN;2DOTLESS FEH;2FEH WITH DOT MOVED BELOW;5a;
2VEH;2FEH WITH THREE DOTS BELOW;2PEHEH;2QAF WITH DOT ABOVE;4aTHREE DOTS;2KEHEH;2SWASH KAF;
2KAF WITH RING;4DOT ABOVE;2NG;2KAF WITH THREE DOTS BELOW;2GAF;3WITH RING;2NGOEH;
2GAF WITH TWO DOTS BELOW;2GUEH;2GAF WITH THREE DOTS ABOVE;2LAM WITH SMALL V;4DOT ABOVE;
4aTHREE DOTS;6BELOW;2aNOON WITH DOT;3GHUNNA;2RNOON;2NOON WITH RING;4THREE DOTS ABOVE;
2HEH DOACHASHMEE;2TCHEH WITH DOT ABOVE;2aHEH WITH YEH;3GOAL;4WITH HAMZA ABOVE;2TEH MARBUTA GOAL;
2WAW WITH RING;2KIRGHIZ OE;2a;2U;2YU;2aKIRGHIZ;2WAW WITH TWO DOTS ABOVE;2VE;2FARSI YEH;
2YEH WITH TAIL;4SMALL V;2WAW WITH DOT ABOVE;2E;2YEH WITH THREE DOTS BELOW;3BARREE;
4WITH HAMZA ABOVE;1FULL STOP;1LETTER AE;1SMALL HIGH LIGATURE SAD WITH LAM WITH ALEF MAKSURA;
4eQAF;3MEEM INITIAL FORM;3LAM ALEF;3JEEM;3THREE DOTS;3SEEN;1END OF AYAH;1START OF RUB EL HIZB;
1SMALL HIGH ROUNDED ZERO;3aUPRIGHT RECTANGULAR;3DOTLESS HEAD OF KHAH;3MEEM ISOLATED FORM;
2LOW SEEN;2HIGH MADDA;2WAW;2YEH;2aHIGH;3NOON;1PLACE OF SAJDAH;1EMPTY CENTRE LOW STOP;3aHIGH;
1ROUNDED HIGH STOP WITH FILLED CENTRE;1SMALL LOW MEEM;1LETTER DAL WITH INVERTED V;2cREH;
0EXTENDED ARABIC-INDIC DIGIT ZERO;3ONE;3TWO;3THREE;3FOUR;3FIVE;3SIX;3SEVEN;3EIGHT;3NINE;
0ARABIC LETTER SHEEN WITH DOT BELOW;2cDAD;2cGHAIN;1SIGN SINDHI AMPERSAND;3POSTPOSITION MEN;
1LETTER HEH WITH INVERTED V;0SYRIAC END OF PARAGRAPH;1SUPRALINEAR FULL STOP;1bSUBLINEAR;
1SUPRALINEAR COLON;1aSUBLINEAR;1aHORIZONTAL;1COLON SKEWED LEFT;3RIGHT;
1SUPRALINEAR COLON SKEWED LEFT;1SUBLINEAR COLON SKEWED RIGHT;1CONTRACTION;1HARKLEAN OBELUS;
2METOBELUS;2ASTERISCUS;70F=1ABBREVIATION MARK;1LETTER ALAPH;2aSUPERSCRIPT;2BETH;2GAMAL;3GARSHUNI;
2DALATH;2DOTLESS DALATH RISH;2HE;2WAW;2ZAIN;2HETH;2TETH;3GARSHUNI;2YUDH;3HE;2KAPH;2LAMADH;2MIM;
2NUN;2SEMKATH;2aFINAL;2E;2PE;2aREVERSED;2SADHE;2QAPH;2RISH;2SHIN;2TAW;2PERSIAN BHETH;3GHAMAL;
3DHALATH;1PTHAHA ABOVE;2BELOW;2DOTTED;1ZQAPHA ABOVE;2BELOW;2DOTTED;1RBASA ABOVE;2BELOW;
1DOTTED ZLAMA HORIZONTAL;3ANGULAR;1HBASA ABOVE;2BELOW;1HBASA-ESASA DOTTED;1ESASA ABOVE;2BELOW;
1RWAHA;1FEMININE DOT;1QUSHSHAYA;1RUKKAKHA;1TWO VERTICAL DOTS ABOVE;4BELOW;1THREE DOTS ABOVE;
3BELOW;1OBLIQUE LINE ABOVE;3BELOW;1MUSIC;1BARREKH;74D=1LETTER SOGDIAN ZHAIN;3KHAPH;3FE;
0ARABIC LETTER BEH WITH THREE DOTS HORIZONTALLY BELOW;4DOT BELOW AND THREE DOTS ABOVE;
4THREE DOTS POINTING UPWARDS BELOW;9AND TWO DOTS ABOVE;4aTWO DOTS BELOW AND DOT;
4INVERTED SMALL V BELOW;4SMALL V;2HAH WITH TWO DOTS ABOVE;4THREE DOTS POINTING UPWARDS BELOW;
2DAL WITH TWO DOTS VERTICALLY BELOW AND SMALL TAH;4INVERTED SMALL V BELOW;2REH WITH STROKE;
2SEEN WITH FOUR DOTS ABOVE;2bAIN WITH TWO;4aTHREE DOTS POINTING DOWNWARDS;4aTWO DOTS VERTICALLY;
2FEH WITH TWO DOTS BELOW;4aTHREE DOTS POINTING UPWARDS;2KEHEH WITH DOT ABOVE;4aTHREE DOTS;
6POINTING UPWARDS BELOW;2MEEM WITH DOT ABOVE;5BELOW;2aNOON WITH TWO DOTS;4SMALL TAH;5V;
2LAM WITH BAR;2REH WITH TWO DOTS VERTICALLY ABOVE;4aHAMZA;2aSEEN WITH TWO DOTS VERTICALLY;
2HAH WITH SMALL ARABIC LETTER TAH BELOW;8AND TWO DOTS;2hSEEN;2hREH;
2HAH WITH SMALL ARABIC LETTER TAH ABOVE;2aALEF WITH EXTENDED ARABIC-INDIC DIGIT TWO;7aTHREE;
2aFARSI YEH WITH EXTENDED ARABIC-INDIC DIGIT TWO;8aTHREE;8FOUR BELOW;
2WAW WITH EXTENDED ARABIC-INDIC DIGIT TWO ABOVE;7aTHREE;
2aYEH BARREE WITH EXTENDED ARABIC-INDIC DIGIT TWO;8aTHREE;
2HAH WITH EXTENDED ARABIC-INDIC DIGIT FOUR BELOW;
2SEEN WITH EXTENDED ARABIC-INDIC DIGIT FOUR ABOVE;4INVERTED V;2KAF WITH TWO DOTS ABOVE;
0THAANA LETTER HAA;2SHAVIYANI;2NOONU;2RAA;2BAA;2LHAVIYANI;2KAAFU;2ALIFU;2VAAVU;2MEEMU;2FAAFU;
2DHAALU;2THAA;2LAAMU;2GAAFU;2GNAVIYANI;2SEENU;2DAVIYANI;2ZAVIYANI;2TAVIYANI;2YAA;2PAVIYANI;
2JAVIYANI;2CHAVIYANI;2TTAA;2HHAA;2KHAA;2THAALU;2ZAA;2SHEENU;2SAADHU;2DAADHU;2TO;2ZO;2AINU;
2GHAINU;2QAAFU;2WAAVU;1ABAFILI;1AABAAFILI;1IBIFILI;1EEBEEFILI;1UBUFILI;1OOBOOFILI;1EBEFILI;
1EYBEYFILI;1OBOFILI;1OABOAFILI;1SUKUN;1LETTER NAA;7C0=0NKO DIGIT ZERO;2ONE;2TWO;2THREE;2FOUR;
2FIVE;2SIX;2SEVEN;2EIGHT;2NINE;1LETTER A;2EE;2I;2E;2U;2OO;2O;2DAGBASINNA;2N;2BA;2PA;2TA;2JA;2CHA;
2DA;2RA;2RRA;2SA;2GBA;2FA;2KA;2LA;2NA WOLOSO;2MA;2NYA;2NA;2HA;2WA;2YA;2NYA WOLOSO;2JONA JA;3CHA;
3RA;1COMBINING SHORT HIGH TONE;3aLOW;3aRISING;2aLONG DESCENDING;3aHIGH;3aLOW;3aRISING;
2NASALIZATION MARK;2DOUBLE DOT ABOVE;1HIGH TONE APOSTROPHE;1bLOW;1SYMBOL OO DENNEN;2GBAKURUNEN;
1COMMA;1EXCLAMATION MARK;1LAJANYALAN;7FD=1DANTAYALAN;1DOROME SIGN;1aTAMAN;0SAMARITAN LETTER ALAF;
2BIT;2GAMAN;2DALAT;2IY;2BAA;2ZEN;2IT;2TIT;2YUT;2KAAF;2LABAT;2MIM;2NUN;2SINGAAT;2IN;2FI;2TSAADIY;
2QUF;2RISH;2SHAN;2TAAF;1MARK IN;2IN-ALAF;2OCCLUSION;2DAGESH;1MODIFIER LETTER EPENTHETIC YUT;
1bMARK;1VOWEL SIGN LONG E;3a;3OVERLONG AA;3aLONG;3a;3OVERLONG A;3aLONG;3a;
1aMODIFIER LETTER SHORT;1bVOWEL SIGN;3LONG U;3a;1MODIFIER LETTER I;1aVOWEL SIGN LONG;3a;3O;
3SUKUN;1MARK NEQUDAA;830=1aPUNCTUATION;2AFSAAQ;2ANGED;2BAU;2ATMAAU;2SHIYYAALAA;
1ABBREVIATION MARK;1PUNCTUATION MELODIC QITSA;2ZIQAA;2QITSA;2ZAEF;2TURU;2ARKAANU;2SOF MASHFAAT;
2ANNAAU;840=0MANDAIC LETTER HALQA;2AB;2AG;2AD;2AH;2USHENNA;2AZ;2IT;2ATT;2AKSA;2AK;2AL;2AM;2AN;
2AS;2IN;2AP;2ASZ;2AQ;2AR;2ASH;2AT;2DUSHENNA;2KAD;2AIN;1AFFRICATION MARK;1aVOCALIZATION;
1aGEMINATION;85E=1PUNCTUATION;860=0SYRIAC LETTER MALAYALAM NGA;3JA;3NYA;3TTA;3NNA;3NNNA;3BHA;3RA;
3LLA;3LLLA;3SSA;870=0ARABIC LETTER ALEF WITH ATTACHED FATHA;5aTOP RIGHT;4RIGHT MIDDLE STROKE;
4bLEFT;4ATTACHED KASRA;5aBOTTOM RIGHT;5ROUND DOT ABOVE;5RIGHT ROUND DOT;5bLEFT;5ROUND DOT BELOW;
4DOT ABOVE;4bATTACHED TOP RIGHT FATHA AND;4cRIGHT MIDDLE STROKE;4cATTACHED BOTTOM RIGHT KASRA;
5TOP RIGHT FATHA AND LEFT RING;4cRIGHT MIDDLE STROKE;4cATTACHED BOTTOM RIGHT KASRA;5RIGHT HAMZA;
5aLEFT;1aTATWEEL WITH OVERSTRUCK;4WAW;3TWO DOTS BELOW;1LETTER THIN YEH;1BASELINE ROUND DOT;
1bRAISED;1LETTER NOON WITH INVERTED SMALL V;2HAH WITH INVERTED SMALL V BELOW;2aTAH WITH DOT;
4aTHREE DOTS;2aKEHEH WITH TWO DOTS VERTICALLY;1VERTICAL TAIL;890=1POUND MARK ABOVE;1bPIASTRE;
898=1SMALL HIGH WORD AL-JUZ;2LOW WORD ISHMAAM;4IMAALA;4TASHEEL;1MADDA WAAJIB;
1SUPERSCRIPT ALEF MOKHASSAS;1DOUBLED MADDA;1aHALF MADDA OVER;1LETTER BEH WITH SMALL V BELOW;
4HAMZA ABOVE;2aJEEM WITH TWO DOTS;2dTAH;2bFEH WITH DOT BELOW AND THREE;2QAF WITH DOT BELOW;
2LAM WITH DOUBLE BAR;2MEEM WITH THREE DOTS ABOVE;2aYEH WITH TWO DOTS BELOW AND HAMZA;8aDOT;
2REH WITH LOOP;2WAW WITH DOT WITHIN;2ROHINGYA YEH;2LOW ALEF;2DAL WITH THREE DOTS BELOW;2dSAD;
2GAF WITH INVERTED STROKE;2STRAIGHT WAW;2ZAIN WITH INVERTED V ABOVE;2AIN WITH THREE DOTS BELOW;
2aKAF WITH DOT;2QAF WITH DOT BELOW AND NO DOTS ABOVE;2aBEH WITH SMALL MEEM;2dPEH;
2aTEH WITH SMALL TEH;2aREH WITH SMALL NOON;2cYEH WITH TWO DOTS BELOW AND;2AFRICAN FEH;3QAF;3NOON;
2PEH WITH SMALL V;2cTEH;2cTTEH;2cTCHEH;2cKEHEH;2GHAIN WITH THREE DOTS ABOVE;2dAFRICAN QAF;2dJEEM;
6BELOW;2LAM WITH SMALL ARABIC LETTER TAH ABOVE;2GRAF;1SMALL FARSI YEH;2bHIGH;
3YEH BARREE WITH TWO DOTS BELOW;3WORD SAH;3ZAH;1LARGE ROUND DOT ABOVE;4BELOW;1aSUKUN;
1aLARGE CIRCLE;2bROUND DOT INSIDE;1SMALL LOW WAW;2HIGH WORD AR-RUB;3SAD;3AIN;3QAF;
3NOON WITH KASRA;2cLOW;2HIGH WORD ATH-THALATHA;4AS-SAJDA;4AN-NISF;4SAKTA;4QIF;4WAQFA;
3FOOTNOTE MARKER;3SIGN SAFHA;1DISPUTED END OF AYAH;1TURNED DAMMA BELOW;1CURLY FATHA;2DAMMA;
2KASRA;2FATHATAN;2DAMMATAN;2KASRATAN;1TONE ONE DOT ABOVE;2aTWO DOTS;2aLOOP;2ONE DOT BELOW;
2aTWO DOTS;2aLOOP;1OPEN FATHATAN;2DAMMATAN;2KASRATAN;1SMALL HIGH WAW;1FATHA WITH RING;3DOT ABOVE;
1KASRA WITH DOT BELOW;1LEFT ARROWHEAD ABOVE;1bRIGHT;1LEFT ARROWHEAD BELOW;1bRIGHT;
1DOUBLE RIGHT ARROWHEAD ABOVE;5WITH DOT;1e;1bDAMMA;1MARK SIDEWAYS NOON GHUNNA;
0DEVANAGARI SIGN INVERTED CANDRABINDU;2a;2ANUSVARA;2VISARGA;1LETTER SHORT A;2a;2AA;2I;2II;2U;2UU;
2VOCALIC R;3L;2CANDRA E;2aSHORT;2a;2AI;2CANDRA O;2aSHORT;2a;2AU;2KA;2KHA;2GA;2GHA;2NGA;2CA;2CHA;
2JA;2JHA;2NYA;2TTA;2TTHA;2DDA;2DDHA;2NNA;2TA;2THA;2DA;2DHA;2NA;2NNNA;2PA;2PHA;2BA;2BHA;2MA;2YA;
2RA;2RRA;2LA;2LLA;2LLLA;2VA;2SHA;2SSA;2SA;2HA;1VOWEL SIGN OE;3OOE;1SIGN NUKTA;2AVAGRAHA;
1VOWEL SIGN AA;3I;3II;3U;3UU;3VOCALIC R;4RR;3CANDRA E;3aSHORT;3a;3AI;3CANDRA O;3aSHORT;3a;3AU;
1SIGN VIRAMA;1VOWEL SIGN PRISHTHAMATRA E;3AW;1OM;1STRESS SIGN UDATTA;3ANUDATTA;1GRAVE ACCENT;
1aACUTE;1VOWEL SIGN CANDRA LONG E;3UE;3UUE;1LETTER QA;2KHHA;2GHHA;2ZA;2DDDHA;2RHA;2FA;2YYA;
2VOCALIC RR;3LL;1VOWEL SIGN VOCALIC L;4LL;1DANDA;1aDOUBLE;1DIGIT ZERO;2ONE;2TWO;2THREE;2FOUR;
2FIVE;2SIX;2SEVEN;2EIGHT;2NINE;1ABBREVIATION SIGN;1SIGN HIGH SPACING DOT;1LETTER CANDRA A;2OE;
2OOE;2AW;2UE;2UUE;2MARWARI DDA;2ZHA;2HEAVY YA;2GGA;2JJA;2GLOTTAL STOP;2DDDA;2BBA;0BENGALI ANJI;
1SIGN CANDRABINDU;2ANUSVARA;2VISARGA;985=1LETTER A;2AA;2I;2II;2U;2UU;2VOCALIC R;3L;98F=2E;2AI;
993=2O;2AU;2KA;2KHA;2GA;2GHA;2NGA;2CA;2CHA;2JA;2JHA;2NYA;2TTA;2TTHA;2DDA;2DDHA;2NNA;2TA;2THA;2DA;
2DHA;2NA;9AA=2PA;2PHA;2BA;2BHA;2MA;2YA;2RA;9B2=2LA;9B6=2SHA;2SSA;2SA;2HA;9BC=1SIGN NUKTA;
2AVAGRAHA;1VOWEL SIGN AA;3I;3II;3U;3UU;3VOCALIC R;4RR;9C7=3E;3AI;9CB=3O;3AU;1SIGN VIRAMA;
1LETTER KHANDA TA;9D7=1AU LENGTH MARK;9DC=1LETTER RRA;2RHA;9DF=2YYA;2VOCALIC RR;3LL;
1VOWEL SIGN VOCALIC L;4LL;9E6=1DIGIT ZERO;2ONE;2TWO;2THREE;2FOUR;2FIVE;2SIX;2SEVEN;2EIGHT;2NINE;
1LETTER RA WITH MIDDLE DIAGONAL;4aLOWER;1RUPEE MARK;2SIGN;1CURRENCY NUMERATOR ONE;3TWO;3THREE;
3FOUR;3ONE LESS THAN THE DENOMINATOR;2DENOMINATOR SIXTEEN;1ISSHAR;1GANDA MARK;
1LETTER VEDIC ANUSVARA;1ABBREVIATION SIGN;1SANDHI MARK;A01=0GURMUKHI SIGN ADAK BINDI;2a;2VISARGA;
A05=1LETTER A;2AA;2I;2II;2U;2UU;A0F=2EE;2AI;A13=2OO;2AU;2KA;2KHA;2GA;2GHA;2NGA;2CA;2CHA;2JA;2JHA;
2NYA;2TTA;2TTHA;2DDA;2DDHA;2NNA;2TA;2THA;2DA;2DHA;2NA;A2A=2PA;2PHA;2BA;2BHA;2MA;2YA;2RA;A32=2LA;
2LLA;A35=2VA;2SHA;A38=2SA;2HA;A3C=1SIGN NUKTA;A3E=1VOWEL SIGN AA;3I;3II;3U;3UU;A47=3EE;3AI;
A4B=3OO;3AU;1SIGN VIRAMA;A51=2UDAAT;A59=1LETTER KHHA;2GHHA;2ZA;2RRA;A5E=2FA;A66=1DIGIT ZERO;2ONE;
2TWO;2THREE;2FOUR;2FIVE;2SIX;2SEVEN;2EIGHT;2NINE;1TIPPI;1ADDAK;1IRI;1URA;1EK ONKAR;1SIGN YAKASH;
1ABBREVIATION SIGN;A81=0GUJARATI SIGN CANDRABINDU;2ANUSVARA;2VISARGA;A85=1LETTER A;2AA;2I;2II;2U;
2UU;2VOCALIC R;3L;1VOWEL CANDRA E;A8F=1aLETTER;2AI;1VOWEL CANDRA O;A93=1aLETTER;2AU;2KA;2KHA;2GA;
2GHA;2NGA;2CA;2CHA;2JA;2JHA;2NYA;2TTA;2TTHA;2DDA;2DDHA;2NNA;2TA;2THA;2DA;2DHA;2NA;AAA=2PA;2PHA;
2BA;2BHA;2MA;2YA;2RA;AB2=2LA;2LLA;AB5=2VA;2SHA;2SSA;2SA;2HA;ABC=1SIGN NUKTA;2AVAGRAHA;
1VOWEL SIGN AA;3I;3II;3U;3UU;3VOCALIC R;4RR;3CANDRA E;AC7=3a;3AI;3CANDRA O;ACB=3a;3AU;
1SIGN VIRAMA;AD0=1OM;AE0=1LETTER VOCALIC RR;3LL;1VOWEL SIGN VOCALIC L;4LL;AE6=1DIGIT ZERO;2ONE;
2TWO;2THREE;2FOUR;2FIVE;2SIX;2SEVEN;2EIGHT;2NINE;1ABBREVIATION SIGN;1aRUPEE;AF9=1LETTER ZHA;
1SIGN SUKUN;2SHADDA;2MADDAH;2THREE-DOT NUKTA ABOVE;2bCIRCLE;2bTWO-CIRCLE;
B01=0ORIYA SIGN CANDRABINDU;2ANUSVARA;2VISARGA;B05=1LETTER A;2AA;2I;2II;2U;2UU;2VOCALIC R;3L;
B0F=2E;2AI;B13=2O;2AU;2KA;2KHA;2GA;2GHA;2NGA;2CA;2CHA;2JA;2JHA;2NYA;2TTA;2TTHA;2DDA;2DDHA;2NNA;
2TA;2THA;2DA;2DHA;2NA;B2A=2PA;2PHA;2BA;2BHA;2MA;2YA;2RA;B32=2LA;2LLA;B35=2VA;2SHA;2SSA;2SA;2HA;
B3C=1SIGN NUKTA;2AVAGRAHA;1VOWEL SIGN AA;3I;3II;3U;3UU;3VOCALIC R;4RR;B47=3E;3AI;B4B=3O;3AU;
1SIGN VIRAMA;B55=2OVERLINE;1AI LENGTH MARK;1bAU;B5C=1LETTER RRA;2RHA;B5F=2YYA;2VOCALIC RR;3LL;
1VOWEL SIGN VOCALIC L;4LL;B66=1DIGIT ZERO;2ONE;2TWO;2THREE;2FOUR;2FIVE;2SIX;2SEVEN;2EIGHT;2NINE;
1ISSHAR;1LETTER WA;1FRACTION ONE QUARTER;3HALF;2THREE QUARTERS;2ONE SIXTEENTH;3EIGHTH;
2THREE SIXTEENTHS;B82=0TAMIL SIGN ANUSVARA;2VISARGA;B85=1LETTER A;2AA;2I;2II;2U;2UU;B8E=2E;2EE;
2AI;B92=2O;2OO;2AU;2KA;B99=2NGA;2CA;B9C=2JA;B9E=2NYA;2TTA;BA3=2NNA;2TA;BA8=2NA;2NNNA;2PA;BAE=2MA;
2YA;2RA;2RRA;2LA;2LLA;2LLLA;2VA;2SHA;2SSA;2SA;2HA;BBE=1VOWEL SIGN AA;3I;3II;3U;3UU;BC6=3E;3EE;
3AI;BCA=3O;3OO;3AU;1SIGN VIRAMA;BD0=1OM;BD7=1AU LENGTH MARK;BE6=1DIGIT ZERO;2ONE;2TWO;2THREE;
2FOUR;2FIVE;2SIX;2SEVEN;2EIGHT;2NINE;1NUMBER TEN;2ONE HUNDRED;3THOUSAND;1DAY SIGN;1aMONTH;1aYEAR;
1aDEBIT;1aCREDIT;1aAS ABOVE;1aRUPEE;1aNUMBER;C00=0TELUGU SIGN COMBINING CANDRABINDU ABOVE;
2CANDRABINDU;2ANUSVARA;2VISARGA;2COMBINING ANUSVARA ABOVE;1LETTER A;2AA;2I;2II;2U;2UU;2VOCALIC R;
3L;C0E=2E;2EE;2AI;C12=2O;2OO;2AU;2KA;2KHA;2GA;2GHA;2NGA;2CA;2CHA;2JA;2JHA;2NYA;2TTA;2TTHA;2DDA;
2DDHA;2NNA;2TA;2THA;2DA;2DHA;2NA;C2A=2PA;2PHA;2BA;2BHA;2MA;2YA;2RA;2RRA;2LA;2LLA;2LLLA;2VA;2SHA;
2SSA;2SA;2HA;C3C=1SIGN NUKTA;2AVAGRAHA;1VOWEL SIGN AA;3I;3II;3U;3UU;3VOCALIC R;4RR;C46=3E;3EE;
3AI;C4A=3O;3OO;3AU;1SIGN VIRAMA;C55=1LENGTH MARK;1bAI;C58=1LETTER TSA;2DZA;2RRRA;
C5D=2NAKAARA POLLU;C60=2VOCALIC RR;3LL;1VOWEL SIGN VOCALIC L;4LL;C66=1DIGIT ZERO;2ONE;2TWO;
2THREE;2FOUR;2FIVE;2SIX;2SEVEN;2EIGHT;2NINE;C77=1SIGN SIDDHAM;
1FRACTION DIGIT ZERO FOR ODD POWERS OF FOUR;3eONE;3eTWO;3eTHREE;3cONE FOR EVEN;3eTWO;3eTHREE;
1SIGN TUUMU;0KANNADA SIGN SPACING CANDRABINDU;2a;2ANUSVARA;2VISARGA;2SIDDHAM;1LETTER A;2AA;2I;
2II;2U;2UU;2VOCALIC R;3L;C8E=2E;2EE;2AI;C92=2O;2OO;2AU;2KA;2KHA;2GA;2GHA;2NGA;2CA;2CHA;2JA;2JHA;
2NYA;2TTA;2TTHA;2DDA;2DDHA;2NNA;2TA;2THA;2DA;2DHA;2NA;CAA=2PA;2PHA;2BA;2BHA;2MA;2YA;2RA;2RRA;2LA;
2LLA;CB5=2VA;2SHA;2SSA;2SA;2HA;CBC=1SIGN NUKTA;2AVAGRAHA;1VOWEL SIGN AA;3I;3II;3U;3UU;3VOCALIC R;
4RR;CC6=3E;3EE;3AI;CCA=3O;3OO;3AU;1SIGN VIRAMA;CD5=1LENGTH MARK;1bAI;CDD=1LETTER NAKAARA POLLU;
2FA;CE0=2VOCALIC RR;3LL;1VOWEL SIGN VOCALIC L;4LL;CE6=1DIGIT ZERO;2ONE;2TWO;2THREE;2FOUR;2FIVE;
2SIX;2SEVEN;2EIGHT;2NINE;CF1=1SIGN JIHVAMULIYA;2UPADHMANIYA;
D00=0MALAYALAM SIGN COMBINING ANUSVARA ABOVE;2CANDRABINDU;2ANUSVARA;2VISARGA;
1LETTER VEDIC ANUSVARA;2A;2AA;2I;2II;2U;2UU;2VOCALIC R;3L;D0E=2E;2EE;2AI;D12=2O;2OO;2AU;2KA;2KHA;
2GA;2GHA;2NGA;2CA;2CHA;2JA;2JHA;2NYA;2TTA;2TTHA;2DDA;2DDHA;2NNA;2TA;2THA;2DA;2DHA;2NA;2NNNA;2PA;
2PHA;2BA;2BHA;2MA;2YA;2RA;2RRA;2LA;2LLA;2LLLA;2VA;2SHA;2SSA;2SA;2HA;2TTTA;
1SIGN VERTICAL BAR VIRAMA;2aCIRCULAR;2AVAGRAHA;1VOWEL SIGN AA;3I;3II;3U;3UU;3VOCALIC R;4RR;
D46=3E;3EE;3AI;D4A=3O;3OO;3AU;1SIGN VIRAMA;1LETTER DOT REPH;1SIGN PARA;D54=1LETTER CHILLU M;3Y;
3LLL;1AU LENGTH MARK;1FRACTION ONE ONE-HUNDRED-AND-SIXTIETH;3FORTIETH;2THREE EIGHTIETHS;
2ONE TWENTIETH;3TENTH;2THREE TWENTIETHS;2ONE FIFTH;1LETTER ARCHAIC II;2VOCALIC RR;3LL;
1VOWEL SIGN VOCALIC L;4LL;D66=1DIGIT ZERO;2ONE;2TWO;2THREE;2FOUR;2FIVE;2SIX;2SEVEN;2EIGHT;2NINE;
1NUMBER TEN;2ONE HUNDRED;3THOUSAND;1FRACTION ONE QUARTER;3HALF;2THREE QUARTERS;2ONE SIXTEENTH;
3EIGHTH;2THREE SIXTEENTHS;1DATE MARK;1LETTER CHILLU NN;3N;3RR;3L;3LL;3K;
D81=0SINHALA SIGN CANDRABINDU;2ANUSVARAYA;2VISARGAYA;D85=1LETTER AYANNA;2AAYANNA;2AEYANNA;
2AEEYANNA;2IYANNA;2IIYANNA;2UYANNA;2UUYANNA;2IRUYANNA;2IRUUYANNA;2ILUYANNA;2ILUUYANNA;2EYANNA;
2EEYANNA;2AIYANNA;2OYANNA;2OOYANNA;2AUYANNA;D9A=2ALPAPRAANA KAYANNA;2aMAHAAPRAANA;
2ALPAPRAANA GAYANNA;2aMAHAAPRAANA;2KANTAJA NAASIKYAYA;2SANYAKA GAYANNA;2ALPAPRAANA CAYANNA;
2aMAHAAPRAANA;2ALPAPRAANA JAYANNA;2aMAHAAPRAANA;2TAALUJA NAASIKYAYA;3SANYOOGA NAAKSIKYAYA;
2SANYAKA JAYANNA;2ALPAPRAANA TTAYANNA;2aMAHAAPRAANA;2ALPAPRAANA DDAYANNA;2aMAHAAPRAANA;
2MUURDHAJA NAYANNA;2SANYAKA DDAYANNA;2ALPAPRAANA TAYANNA;2aMAHAAPRAANA;2ALPAPRAANA DAYANNA;
2aMAHAAPRAANA;2DANTAJA NAYANNA;DB3=2SANYAKA DAYANNA;2ALPAPRAANA PAYANNA;2aMAHAAPRAANA;
2ALPAPRAANA BAYANNA;2aMAHAAPRAANA;2MAYANNA;2AMBA BAYANNA;2YAYANNA;2RAYANNA;DBD=2DANTAJA LAYANNA;
DC0=2VAYANNA;2TAALUJA SAYANNA;2aMUURDHAJA;2aDANTAJA;2HAYANNA;2MUURDHAJA LAYANNA;2FAYANNA;
DCA=1SIGN AL-LAKUNA;DCF=1VOWEL SIGN AELA-PILLA;3KETTI AEDA-PILLA;3aDIGA;3KETTI IS-PILLA;3aDIGA;
3KETTI PAA-PILLA;DD6=3aDIGA;DD8=3GAETTA-PILLA;3KOMBUVA;3aDIGA;3KOMBU DEKA;
3KOMBUVA HAA AELA-PILLA;5aDIGA;5GAYANUKITTA;3a;DE6=1LITH DIGIT ZERO;3ONE;3TWO;3THREE;3FOUR;3FIVE;
3SIX;3SEVEN;3EIGHT;3NINE;DF2=1VOWEL SIGN DIGA GAETTA-PILLA;4GAYANUKITTA;1PUNCTUATION KUNDDALIYA;
E01=0THAI CHARACTER KO KAI;2KHO KHAI;3KHUAT;3KHWAI;3KHON;3RAKHANG;2NGO NGU;2CHO CHAN;3CHING;
3CHANG;2SO SO;2CHO CHOE;2YO YING;2DO CHADA;2TO PATAK;2THO THAN;3NANGMONTHO;3PHUTHAO;2NO NEN;
2DO DEK;2TO TAO;2THO THUNG;3THAHAN;3THONG;2NO NU;2BO BAIMAI;2PO PLA;2PHO PHUNG;2FO FA;2PHO PHAN;
2FO FAN;2PHO SAMPHAO;2MO MA;2YO YAK;2RO RUA;2RU;2LO LING;2LU;2WO WAEN;2SO SALA;3RUSI;3SUA;
2HO HIP;2LO CHULA;2O ANG;2HO NOKHUK;2PAIYANNOI;2SARA A;2MAI HAN-AKAT;2SARA AA;3AM;3I;3II;3UE;
3UEE;3U;3UU;2PHINTHU;E3F=1CURRENCY SYMBOL BAHT;1CHARACTER SARA E;3AE;3O;3AI MAIMUAN;4MAIMALAI;
2LAKKHANGYAO;2MAIYAMOK;2MAITAIKHU;2MAI EK;3THO;3TRI;3CHATTAWA;2THANTHAKHAT;2NIKHAHIT;2YAMAKKAN;
2FONGMAN;1DIGIT ZERO;2ONE;2TWO;2THREE;2FOUR;2FIVE;2SIX;2SEVEN;2EIGHT;2NINE;1CHARACTER ANGKHANKHU;
2KHOMUT;E81=0LAO LETTER KO;2KHO SUNG;E84=3TAM;E86=2PALI GHA;2NGO;2CO;2PALI CHA;2SO TAM;
E8C=2PALI JHA;2NYO;2PALI NYA;3TTA;3TTHA;3DDA;3DDHA;3NNA;2DO;2TO;2THO SUNG;3TAM;2PALI DHA;2NO;2BO;
2PO;2PHO SUNG;2FO TAM;2aPHO;2FO SUNG;2PALI BHA;2MO;2YO;2LO LING;EA5=3LOOT;EA7=2WO;2SANSKRIT SHA;
3SSA;2SO SUNG;2aHO;2PALI LLA;2O;2HO TAM;1ELLIPSIS;1VOWEL SIGN A;3MAI KAN;3AA;3AM;3I;3II;3Y;3YY;
3U;3UU;1SIGN PALI VIRAMA;1VOWEL SIGN MAI KON;1SEMIVOWEL SIGN LO;3NYO;EC0=1VOWEL SIGN E;3EI;3O;
3AY;3AI;EC6=1KO LA;EC8=1TONE MAI EK;3THO;3TI;3CATAWA;1CANCELLATION MARK;1NIGGAHITA;
ED0=1DIGIT ZERO;2ONE;2TWO;2THREE;2FOUR;2FIVE;2SIX;2SEVEN;2EIGHT;2NINE;EDC=1HO NO;2MO;
1LETTER KHMU GO;3NYO;F00=0TIBETAN SYLLABLE OM;1MARK GTER YIG MGO TRUNCATED A;5-UM RNAM BCAD MA;
6aGTER TSHEG;2aINITIAL YIG MGO MDUN;2aCLOSING YIG MGO SGAB;2aCARET YIG MGO PHUR SHAD;
2bYIG MGO TSHEG;2SBRUL SHAD;2BSKUR YIG MGO;2bBKA- SHOG;2INTERSYLLABIC TSHEG;
2DELIMITER TSHEG BSTAR;2SHAD;2aNYIS;2aTSHEG;2bNYIS;2aRIN CHEN SPUNGS;2aRGYA GRAM;
2CARET -DZUD RTAGS ME LONG CAN;2GTER TSHEG;1LOGOTYPE SIGN CHAD RTAGS;3aLHAG;
1aASTROLOGICAL SIGN SGRA GCAN -CHAR;3-KHYUD PA;3SDONG TSHUGS;1SIGN RDEL DKAR GCIG;4GNYIS;4GSUM;
3NAG GCIG;4GNYIS;3DKAR RDEL NAG;1DIGIT ZERO;2ONE;2TWO;2THREE;2FOUR;2FIVE;2SIX;2SEVEN;2EIGHT;
2NINE;2HALF ONE;3TWO;3THREE;3FOUR;3FIVE;3SIX;3SEVEN;3EIGHT;3NINE;3ZERO;1MARK BSDUS RTAGS;
2NGAS BZUNG NYI ZLA;2CARET -DZUD RTAGS BZHI MIG CAN;2NGAS BZUNG SGOR RTAGS;2CHE MGO;2TSA -PHRU;
2GUG RTAGS GYON;4GYAS;2ANG KHANG GYON;4GYAS;1SIGN YAR TSHES;2aMAR;1LETTER KA;2KHA;2GA;2GHA;2NGA;
2CA;2CHA;2JA;F49=2NYA;2TTA;2TTHA;2DDA;2DDHA;2NNA;2TA;2THA;2DA;2DHA;2NA;2PA;2PHA;2BA;2BHA;2MA;
2TSA;2TSHA;2DZA;2DZHA;2WA;2ZHA;2ZA;2-A;2YA;2RA;2LA;2SHA;2SSA;2SA;2HA;2A;2KSSA;2FIXED-FORM RA;
2KKA;2RRA;F71=1VOWEL SIGN AA;3I;3II;3U;3UU;3VOCALIC R;4RR;4L;4LL;3E;3EE;3O;3OO;
1SIGN RJES SU NGA RO;2RNAM BCAD;1VOWEL SIGN REVERSED I;4II;1SIGN NYI ZLA NAA DA;2SNA LDAN;
1MARK HALANTA;2PALUTA;1SIGN LCI RTAGS;2aYANG;2LCE TSA CAN;2aMCHU;2GRU CAN RGYINGS;3aMED;
2INVERTED MCHU CAN;1aSUBJOINED SIGN LCE TSA;3aMCHU;3bINVERTED;2LETTER KA;3KHA;3GA;3GHA;3NGA;3CA;
3CHA;3JA;F99=3NYA;3TTA;3TTHA;3DDA;3DDHA;3NNA;3TA;3THA;3DA;3DHA;3NA;3PA;3PHA;3BA;3BHA;3MA;3TSA;
3TSHA;3DZA;3DZHA;3WA;3ZHA;3ZA;3-A;3YA;3RA;3LA;3SHA;3SSA;3SA;3HA;3A;3KSSA;3FIXED-FORM WA;4YA;4RA;
FBE=1KU RU KHA;4BZHI MIG CAN;1CANTILLATION SIGN HEAVY BEAT;3aLIGHT;3CANG TE-U;3SBUB -CHAL;
1SYMBOL DRIL BU;2RDO RJE;2PADMA GDAN;2RDO RJE RGYA GRAM;2PHUR PA;2NOR BU;4NYIS -KHYIL;4aGSUM;
4aBZHI;FCE=1SIGN RDEL NAG RDEL DKAR;4GSUM;1MARK BSKA- SHOG GI MGO RGYAN;2cMNYAM YIG;2NYIS TSHEG;
2INITIAL BRDA RNYING YIG MGO MDUN MA;2aCLOSING BRDA RNYING YIG MGO SGAB;
0RIGHT-FACING SVASTI SIGN;0bLEFT-FACING;0RIGHT-FACING SVASTI SIGN WITH DOTS;0dLEFT-FACING;
0TIBETAN MARK LEADING MCHAN RTAGS;2bTRAILING"

end RouteDoc.Chars
