/-!
# The names of notations, pictures and tags

* `Chars.pictureNames`: the names of the characters from U+1C000 to U+10FFFF, for Unicode 14, as
  entries of a table of names.
-/

namespace RouteDoc.Chars

/-- The names of the characters from U+1C000 to U+10FFFF. -/
def pictureNames : String :=
  "1CF00=0ZNAMENNY COMBINING MARK GORAZDO NIZKO S KRYZHEM ON LEFT;3e;3bTSATA;3bGORAZDO NIZKO;3c;
3bSREDNE;3bMALO POVYSHE;3c;3bVYSOKO;3bMALO POVYSHE S KHOKHLOM;3e;3dVYSOKO;
3GORAZDO NIZKO S KRYZHEM ON RIGHT;3e;3bTSATA;3bGORAZDO NIZKO;3c;3bSREDNE;3bMALO POVYSHE;3c;
3bVYSOKO;3bMALO POVYSHE S KHOKHLOM;3e;3dVYSOKO;3TSATA S KRYZHEM;3bMALO POVYSHE;
3STRANNO MALO POVYSHE;3POVYSHE S KRYZHEM;4STRANNO;3VYSOKO S KRYZHEM;3MALO POVYSHE STRANNO;
3GORAZDO VYSOKO;3ZELO;3ON;3RAVNO;3TIKHAYA;3BORZAYA;3UDARKA;3PODVERTKA;3LOMKA;3KUPNAYA;3KACHKA;
3ZEVOK;3SKOBA;3RAZSEKA;3KRYZH ON LEFT;1CF30=2TONAL RANGE MARK MRACHNO;5SVETLO;5TRESVETLO;
2MARK ZADERZHKA;3aDEMESTVENNY;3OTSECHKA;3PODCHASHIE;4WITH VERTICAL STROKE;3CHASHKA;4POLNAYA;
3OBLACHKO;3SOROCHYA NOZHKA;3TOCHKA;3DVOETOCHIE;2ATTACHING VERTICAL OMET;2aMARK CURVED;3KRYZH;
2LOWER TONAL RANGE INDICATOR;1PRIZNAK MODIFIER LEVEL-2;+1;3DIRECTION FLIP;3KRYZH;3ROG;
1CF50=1NEUME KRYUK;3TIKHY;2PARAKLIT;2DVA V CHELNU;2KLYUCH;2ZANOZHEK;2STOPITSA;3S OCHKOM;
2PEREVODKA;3NEPOSTOYANNAYA;2STOPITSA WITH SOROCHYA NOZHKA;2CHELYUSTKA;2PALKA;2ZAPYATAYA;
2GOLUBCHIK BORZY;3TIKHY;3MRACHNY;3SVETLY;3TRESVETLY;2VRAKHIYA PROSTAYA;3MRACHNAYA;3SVETLAYA;
3TRESVETLAYA;3KLYUCHEVAYA PROSTAYA;4MRACHNAYA;4SVETLAYA;4TRESVETLAYA;2DOUBLE ZAPYATAYA;
2REVERSED CHELYUSTKA;2DERBITSA;2KHAMILO;2CHASHKA;2PODCHASHIE;2SKAMEYTSA MRACHNAYA;3SVETLAYA;
3TRESVETLAYA;3TIKHAYA;2DEMESTVENNY KLYUCH;2SKAMEYTSA KLYUCHEVAYA SVETLAYA;3KLYUCHENEPOSTOYANNAYA;
3KLYUCHEVAYA TIKHAYA;3DVOECHELNAYA PROSTAYA;4SVETLAYA;4NEPOSTOYANNAYA;4KLYUCHEVAYA;2SLOZHITIE;
3S ZAPYATOY;3ZAKRYTOE;3S KRYZHEM;2KRYZH;2ROG;2FITA;2KOBYLA;2ZMEYTSA;2STATYA;3S ZAPYATOY;4KRYZHEM;
4aZAPYATOY I;4KRYZHEM I ZAPYATOY;3ZAKRYTAYA;4S ZAPYATOY;3S ROGOM;4DVUMYA ZAPYATYMI;
4ZAPYATOY I PODCHASHIEM;2POLKULIZMY;2STATYA NEPOSTOYANNAYA;2STRELA PROSTAYA;3MRACHNOTIKHAYA;
3KRYZHEVAYA;3POLUPOVODNAYA;3POVODNAYA;3NEPOSTOYANNAYA;3KLYUCHEPOVODNAYA;3KLYUCHENEPOSTOYANNAYA;
3TIKHAYA PUTNAYA;3DVOECHELNAYA;3DVOECHELNOKRYZHEVAYA;3DVOECHELNOPOVODNAYA;
3DVOECHELNAYA KLYUCHEVAYA;3aDVOECHELNOPOVODNAYA;3GROMNAYA WITH SINGLE ZAPYATAYA;3cGROMOPOVODNAYA;
3GROMNAYA;3GROMOPOVODNAYA;4WITH DOUBLE ZAPYATAYA;3GROMOKRYZHEVAYA;4POVODNAYA;2MECHIK;3POVODNY;
3KLYUCHEVOY;3KLYUCHEPOVODNY;3KLYUCHENEPOSTOYANNY;2STRELA TRYASOGLASNAYA;3TRYASOPOVODNAYA;
3TRYASOSTRELNAYA;2OSOKA;3SVETLAYA;3TRESVETLAYA;3KRYUKOVAYA SVETLAYA;3aKLYUCHEVAYA;
4NEPOSTOYANNAYA;2STRELA KRYUKOVAYA;4POVODNAYA;4GROMNAYA WITH SINGLE ZAPYATAYA;4cGROMOPOVODNAYA;
4GROMNAYA;4GROMOPOVODNAYA;5WITH DOUBLE ZAPYATAYA;4GROMOKRYZHEVAYA;5POVODNAYA;4TRYASKA;2KUFISMA;
2OBLAKO;2DUDA;2NEMKA;2PAUK;1D000=0BYZANTINE MUSICAL SYMBOL PSILI;3DASEIA;3PERISPOMENI;
3OXEIA EKFONITIKON;4DIPLI;3VAREIA EKFONITIKON;4DIPLI;3KATHISTI;3SYRMATIKI;3PARAKLITIKI;
3YPOKRISIS;4DIPLI;3KREMASTI;3APESO EKFONITIKON;3aEXO;3TELEIA;3KENTIMATA;3APOSTROFOS;4DIPLI;
3SYNEVMA;3THITA;3OLIGON ARCHAION;3aGORGON;3PSILON;3CHAMILON;3VATHY;3ISON ARCHAION;3aKENTIMA;
3aKENTIMATA;3SAXIMATA;3PARICHON;3STAVROS APODEXIA;3OXEIAI ARCHAION;3aVAREIAI;3aAPODERMA;
3APOTHEMA;3KLASMA;3REVMA;3PIASMA ARCHAION;3TINAGMA;3ANATRICHISMA;3SEISMA;3SYNAGMA ARCHAION;
4META STAVROU;3OYRANISMA ARCHAION;3THEMA;3LEMOI;3DYO;3TRIA;3TESSERA;3KRATIMATA;3APESO EXO NEO;
3FTHORA ARCHAION;3IMIFTHORA;3TROMIKON ARCHAION;3KATAVA TROMIKON;3PELASTON;3PSIFISTON;3KONTEVMA;
3CHOREVMA ARCHAION;3RAPISMA;3PARAKALESMA ARCHAION;3aPARAKLITIKI;3ICHADIN;3NANA;3PETASMA;
3KONTEVMA ALLO;3aTROMIKON;3STRAGGISMATA;3GRONTHISMATA;3ISON NEO;3aOLIGON;3aOXEIA;3PETASTI;
3KOUFISMA;3PETASTOKOUFISMA;3KRATIMOKOUFISMA;3PELASTON NEO;3KENTIMATA NEO ANO;3bKENTIMA;3YPSILI;
3APOSTROFOS NEO;3aAPOSTROFOI SYNDESMOS;3YPORROI;3KRATIMOYPORROON;3ELAFRON;3CHAMILI;3MIKRON ISON;
3VAREIA NEO;3aPIASMA;3aPSIFISTON;3OMALON;3ANTIKENOMA;3LYGISMA;3PARAKLITIKI NEO;3aPARAKALESMA;
3ETERON PARAKALESMA;3KYLISMA;3ANTIKENOKYLISMA;3TROMIKON NEO;3EKSTREPTON;3SYNAGMA NEO;3SYRMA;
3CHOREVMA NEO;3EPEGERMA;3SEISMA NEO;3XIRON KLASMA;3TROMIKOPSIFISTON;3PSIFISTOLYGISMA;
3TROMIKOLYGISMA;3TROMIKOPARAKALESMA;3PSIFISTOPARAKALESMA;3TROMIKOSYNAGMA;3PSIFISTOSYNAGMA;
3GORGOSYNTHETON;3ARGOSYNTHETON;3aETERON;3OYRANISMA NEO;3THEMATISMOS ESO;4EXO;3THEMA APLOUN;
3THES KAI APOTHES;3KATAVASMA;3ENDOFONON;3YFEN KATO;4ANO;3STAVROS;3KLASMA ANO;3DIPLI ARCHAION;
3aKRATIMA;4ALLO;4NEO;3aAPODERMA;3APLI;3DIPLI;3TRIPLI;3TETRAPLI;3KORONIS;3LEIMMA ENOS CHRONOU;
4DYO CHRONON;4aTRION;4aTESSARON;4IMISEOS CHRONOU;3GORGON NEO ANO;4PARESTIGMENON ARISTERA;5DEXIA;
3DIGORGON;4PARESTIGMENON ARISTERA KATO;6ANO;5DEXIA;3TRIGORGON;3ARGON;3IMIDIARGON;3DIARGON;
3AGOGI POLI ARGI;4ARGOTERI;4ARGI;4METRIA;4MESI;4GORGI;4GORGOTERI;4POLI GORGI;
3MARTYRIA PROTOS ICHOS;4bALLI;4aDEYTEROS;4bALLI;4aTRITOS;4TRIFONIAS;4TETARTOS ICHOS;5aLEGETOS;4b;
4aPLAGIOS;3ISAKIA TELOUS ICHIMATOS;3bAPOSTROFOI;3FANEROSIS TETRAFONIAS;4MONOFONIAS;4DIFONIAS;
3MARTYRIA VARYS ICHOS;4aPROTOVARYS;4aPLAGIOS TETARTOS;3GORTHMIKON N APLOUN;5DIPLOUN;
3ENARXIS KAI FTHORA VOU;3IMIFONON;3IMIFTHORON;3FTHORA ARCHAION DEYTEROU ICHOU;4DIATONIKI PA;
5NANA;4NAOS ICHOS;4DIATONIKI DI;4aSKLIRON DIATONON;4DIATONIKI KE;5ZO;5NI KATO;6ANO;
4MALAKON CHROMA DIFONIAS;6MONOFONIAS;3FHTORA SKLIRON CHROMA VASIS;3FTHORA SKLIRON CHROMA SYNAFI;
4NENANO;3CHROA ZYGOS;4KLITON;4SPATHI;3FTHORA I YFESIS TETARTIMORION;4ENARMONIOS ANTIFONIA;
3YFESIS TRITIMORION;3aDIESIS;4TETARTIMORION;4APLI DYO DODEKATA;4aMONOGRAMMOS TESSERA;
4aDIGRAMMOS EX;4aTRIGRAMMOS OKTO;3aYFESIS APLI DYO;4aMONOGRAMMOS TESSERA;4aDIGRAMMOS EX;
4aTRIGRAMMOS OKTO;3GENIKI DIESIS;4YFESIS;3DIASTOLI APLI MIKRI;5MEGALI;4DIPLI;4THESEOS;3aSIMANSIS;
5DISIMOU;5TRISIMOU;5TETRASIMOU;4ARSEOS;5DISIMOU;5TRISIMOU;5TETRASIMOU;3DIGRAMMA GG;3DIFTOGGOS OU;
3STIGMA;3ARKTIKO PA;4VOU;4GA;4DI;4KE;4ZO;4NI;3KENTIMATA NEO MESO;3bKENTIMA;3KENTIMATA NEO KATO;
3bKENTIMA;3aKLASMA;3aGORGON NEO;1D100=0MUSICAL SYMBOL SINGLE BARLINE;2aDOUBLE;2aFINAL;2bREVERSE;
2aDASHED;2aSHORT;2LEFT REPEAT SIGN;2bRIGHT;2REPEAT DOTS;2DAL SEGNO;2DA CAPO;2SEGNO;2CODA;
2REPEATED FIGURE-1;+2;2FERMATA;3BELOW;2BREATH MARK;2CAESURA;2BRACE;2BRACKET;2ONE-LINE STAFF;
2aTWO-LINE;2aTHREE-LINE;2aFOUR-LINE;2aFIVE-LINE;2aSIX-LINE;2SIX-STRING FRETBOARD;2aFOUR-STRING;
2G CLEF;4OTTAVA ALTA;5BASSA;2C CLEF;2aF;4OTTAVA ALTA;5BASSA;2DRUM CLEF-1;+1;
1D129=2MULTIPLE MEASURE REST;2DOUBLE SHARP;3FLAT;2FLAT UP;3DOWN;2NATURAL UP;3DOWN;2SHARP UP;
3DOWN;2QUARTER TONE SHARP;4FLAT;2COMMON TIME;2aCUT;2OTTAVA ALTA;3BASSA;2QUINDICESIMA ALTA;3BASSA;
2MULTI REST;2aWHOLE;2aHALF;2aQUARTER;2aEIGHTH;2aSIXTEENTH;2aTHIRTY-SECOND;2aSIXTY-FOURTH;
2aONE HUNDRED TWENTY-EIGHTH;2X NOTEHEAD;2aPLUS;2aCIRCLE X;2SQUARE NOTEHEAD WHITE;4BLACK;
2TRIANGLE NOTEHEAD UP WHITE;5BLACK;4LEFT WHITE;5BLACK;4RIGHT WHITE;5BLACK;4DOWN WHITE;5BLACK;
4UP RIGHT WHITE;6BLACK;2MOON NOTEHEAD WHITE;4BLACK;2TRIANGLE-ROUND NOTEHEAD DOWN WHITE;5BLACK;
2PARENTHESIS NOTEHEAD;2aVOID;2NOTEHEAD BLACK;2NULL NOTEHEAD;2CLUSTER NOTEHEAD WHITE;4BLACK;
2BREVE;2WHOLE NOTE;2aHALF;2aQUARTER;2aEIGHTH;2aSIXTEENTH;2aTHIRTY-SECOND;2aSIXTY-FOURTH;
2aONE HUNDRED TWENTY-EIGHTH;2COMBINING STEM;3aSPRECHGESANG;3TREMOLO-1;+2;2FINGERED TREMOLO-1;+2;
2COMBINING AUGMENTATION DOT;3FLAG-1;+4;2BEGIN BEAM;2aEND;2BEGIN TIE;2aEND;2BEGIN SLUR;2aEND;
2BEGIN PHRASE;2aEND;2COMBINING ACCENT;3STACCATO;3TENUTO;3STACCATISSIMO;3MARCATO;
3MARCATO-STACCATO;3ACCENT-STACCATO;3LOURE;2ARPEGGIATO UP;3DOWN;2COMBINING DOIT;3RIP;3FLIP;3SMEAR;
3BEND;3DOUBLE TONGUE;3aTRIPLE;2RINFORZANDO;2SUBITO;2Z;2PIANO;2MEZZO;2FORTE;2CRESCENDO;
2DECRESCENDO;2GRACE NOTE SLASH;4aNO;2TR;2TURN;2aINVERTED;2TURN SLASH;3UP;2ORNAMENT STROKE-1;+10;
2HAUPTSTIMME;2NEBENSTIMME;2END OF STIMME;2DEGREE SLASH;2COMBINING DOWN BOW;3aUP;3HARMONIC;
3SNAP PIZZICATO;2PEDAL MARK;3aUP;2aHALF PEDAL;2GLISSANDO UP;3DOWN;2WITH FINGERNAILS;2DAMP;3ALL;
2MAXIMA;2LONGA;2BREVIS;2SEMIBREVIS WHITE;3BLACK;2MINIMA;3BLACK;2SEMIMINIMA WHITE;3BLACK;
2FUSA WHITE;3BLACK;2LONGA PERFECTA REST;3aIMPERFECTA;2aBREVIS;2aSEMIBREVIS;2aMINIMA;2aSEMIMINIMA;
2TEMPUS PERFECTUM CUM PROLATIONE PERFECTA;6IMPERFECTA;6PERFECTA DIMINUTION-1;
3IMPERFECTUM CUM PROLATIONE PERFECTA;6IMPERFECTA;7DIMINUTION-1;+2;2CROIX;2GREGORIAN C CLEF;3aF;
2SQUARE B;2VIRGA;2PODATUS;2CLIVIS;2SCANDICUS;2CLIMACUS;2TORCULUS;2PORRECTUS;3FLEXUS;2aSCANDICUS;
2TORCULUS RESUPINUS;2PES SUBPUNCTIS;2KIEVAN C CLEF;3END OF PIECE;3FINAL NOTE;3RECITATIVE MARK;
3WHOLE NOTE;3aHALF;3QUARTER NOTE STEM DOWN;6UP;3EIGHTH NOTE STEM DOWN;6UP;3FLAT SIGN;2SORI;
2KORON;1D200=0GREEK VOCAL NOTATION SYMBOL-1;+23;3SYMBOL-50;+4;1INSTRUMENTAL NOTATION SYMBOL-1;+1;
3SYMBOL-4;+1;3SYMBOL-7;+1;3SYMBOL-11;+3;3SYMBOL-17;+2;3SYMBOL-23;+4;3SYMBOL-29;+1;3SYMBOL-32;
3SYMBOL-36;+4;3SYMBOL-42;+1;3SYMBOL-45;3SYMBOL-47;+7;0COMBINING GREEK MUSICAL TRISEME;3TETRASEME;
3PENTASEME;0GREEK MUSICAL LEIMMA;1D2E0=0MAYAN NUMERAL ZERO;2ONE;2TWO;2THREE;2FOUR;2FIVE;2SIX;
2SEVEN;2EIGHT;2NINE;2TEN;2ELEVEN;2TWELVE;2THIRTEEN;2FOURTEEN;2FIFTEEN;2SIXTEEN;2SEVENTEEN;
2EIGHTEEN;2NINETEEN;1D300=0MONOGRAM FOR EARTH;0aDIGRAM FOR HEAVENLY;2aHUMAN;2EARTHLY HEAVEN;
3HUMAN;2EARTH;0TETRAGRAM FOR CENTRE;2FULL CIRCLE;2MIRED;2BARRIER;2KEEPING SMALL;2CONTRARIETY;
2ASCENT;2OPPOSITION;2BRANCHING OUT;2DEFECTIVENESS OR DISTORTION;2DIVERGENCE;2YOUTHFULNESS;
2INCREASE;2PENETRATION;2REACH;2CONTACT;2HOLDING BACK;2WAITING;2FOLLOWING;2ADVANCE;2RELEASE;
2RESISTANCE;2EASE;2JOY;2CONTENTION;2ENDEAVOUR;2DUTIES;2CHANGE;2DECISIVENESS;2BOLD RESOLUTION;
2PACKING;2LEGION;2CLOSENESS;2KINSHIP;2GATHERING;2STRENGTH;2PURITY;2FULLNESS;2RESIDENCE;
2LAW OR MODEL;2RESPONSE;2GOING TO MEET;2ENCOUNTERS;2STOVE;2GREATNESS;2ENLARGEMENT;2PATTERN;
2RITUAL;2FLIGHT;2VASTNESS OR WASTING;2CONSTANCY;2MEASURE;2ETERNITY;2UNITY;2DIMINISHMENT;
2CLOSED MOUTH;2GUARDEDNESS;2GATHERING IN;2MASSING;2ACCUMULATION;2EMBELLISHMENT;2DOUBT;2WATCH;
2SINKING;2INNER;2DEPARTURE;2DARKENING;2DIMMING;2EXHAUSTION;2SEVERANCE;2STOPPAGE;2HARDNESS;
2COMPLETION;2CLOSURE;2FAILURE;2AGGRAVATION;2COMPLIANCE;2ON THE VERGE;2DIFFICULTIES;2LABOURING;
2FOSTERING;1D360=0COUNTING ROD UNIT DIGIT ONE;4TWO;4THREE;4FOUR;4FIVE;4SIX;4SEVEN;4EIGHT;4NINE;
2TENS DIGIT ONE;4TWO;4THREE;4FOUR;4FIVE;4SIX;4SEVEN;4EIGHT;4NINE;0IDEOGRAPHIC TALLY MARK ONE;
3TWO;3THREE;3FOUR;3FIVE;0TALLY MARK ONE;2FIVE;1D400=0MATHEMATICAL BOLD CAPITAL A;3B;3C;3D;3E;3F;
3G;3H;3I;3J;3K;3L;3M;3N;3O;3P;3Q;3R;3S;3T;3U;3V;3W;3X;3Y;3Z;2SMALL A;3B;3C;3D;3E;3F;3G;3H;3I;3J;
3K;3L;3M;3N;3O;3P;3Q;3R;3S;3T;3U;3V;3W;3X;3Y;3Z;1ITALIC CAPITAL A;3B;3C;3D;3E;3F;3G;3H;3I;3J;3K;
3L;3M;3N;3O;3P;3Q;3R;3S;3T;3U;3V;3W;3X;3Y;3Z;2SMALL A;3B;3C;3D;3E;3F;3G;1D456=3I;3J;3K;3L;3M;3N;
3O;3P;3Q;3R;3S;3T;3U;3V;3W;3X;3Y;3Z;1BOLD ITALIC CAPITAL A;4B;4C;4D;4E;4F;4G;4H;4I;4J;4K;4L;4M;
4N;4O;4P;4Q;4R;4S;4T;4U;4V;4W;4X;4Y;4Z;3SMALL A;4B;4C;4D;4E;4F;4G;4H;4I;4J;4K;4L;4M;4N;4O;4P;4Q;
4R;4S;4T;4U;4V;4W;4X;4Y;4Z;1SCRIPT CAPITAL A;1D49E=3C;3D;1D4A2=3G;1D4A5=3J;3K;1D4A9=3N;3O;3P;3Q;
1D4AE=3S;3T;3U;3V;3W;3X;3Y;3Z;2SMALL A;3B;3C;3D;1D4BB=3F;1D4BD=3H;3I;3J;3K;3L;3M;3N;1D4C5=3P;3Q;
3R;3S;3T;3U;3V;3W;3X;3Y;3Z;1BOLD SCRIPT CAPITAL A;4B;4C;4D;4E;4F;4G;4H;4I;4J;4K;4L;4M;4N;4O;4P;
4Q;4R;4S;4T;4U;4V;4W;4X;4Y;4Z;3SMALL A;4B;4C;4D;4E;4F;4G;4H;4I;4J;4K;4L;4M;4N;4O;4P;4Q;4R;4S;4T;
4U;4V;4W;4X;4Y;4Z;1FRAKTUR CAPITAL A;3B;1D507=3D;3E;3F;3G;1D50D=3J;3K;3L;3M;3N;3O;3P;3Q;1D516=3S;
3T;3U;3V;3W;3X;3Y;1D51E=2SMALL A;3B;3C;3D;3E;3F;3G;3H;3I;3J;3K;3L;3M;3N;3O;3P;3Q;3R;3S;3T;3U;3V;
3W;3X;3Y;3Z;1DOUBLE-STRUCK CAPITAL A;3B;1D53B=3D;3E;3F;3G;1D540=3I;3J;3K;3L;3M;1D546=3O;1D54A=3S;
3T;3U;3V;3W;3X;3Y;1D552=2SMALL A;3B;3C;3D;3E;3F;3G;3H;3I;3J;3K;3L;3M;3N;3O;3P;3Q;3R;3S;3T;3U;3V;
3W;3X;3Y;3Z;1BOLD FRAKTUR CAPITAL A;4B;4C;4D;4E;4F;4G;4H;4I;4J;4K;4L;4M;4N;4O;4P;4Q;4R;4S;4T;4U;
4V;4W;4X;4Y;4Z;3SMALL A;4B;4C;4D;4E;4F;4G;4H;4I;4J;4K;4L;4M;4N;4O;4P;4Q;4R;4S;4T;4U;4V;4W;4X;4Y;
4Z;1SANS-SERIF CAPITAL A;3B;3C;3D;3E;3F;3G;3H;3I;3J;3K;3L;3M;3N;3O;3P;3Q;3R;3S;3T;3U;3V;3W;3X;3Y;
3Z;2SMALL A;3B;3C;3D;3E;3F;3G;3H;3I;3J;3K;3L;3M;3N;3O;3P;3Q;3R;3S;3T;3U;3V;3W;3X;3Y;3Z;
2BOLD CAPITAL A;4B;4C;4D;4E;4F;4G;4H;4I;4J;4K;4L;4M;4N;4O;4P;4Q;4R;4S;4T;4U;4V;4W;4X;4Y;4Z;
3SMALL A;4B;4C;4D;4E;4F;4G;4H;4I;4J;4K;4L;4M;4N;4O;4P;4Q;4R;4S;4T;4U;4V;4W;4X;4Y;4Z;
2ITALIC CAPITAL A;4B;4C;4D;4E;4F;4G;4H;4I;4J;4K;4L;4M;4N;4O;4P;4Q;4R;4S;4T;4U;4V;4W;4X;4Y;4Z;
3SMALL A;4B;4C;4D;4E;4F;4G;4H;4I;4J;4K;4L;4M;4N;4O;4P;4Q;4R;4S;4T;4U;4V;4W;4X;4Y;4Z;
2BOLD ITALIC CAPITAL A;5B;5C;5D;5E;5F;5G;5H;5I;5J;5K;5L;5M;5N;5O;5P;5Q;5R;5S;5T;5U;5V;5W;5X;5Y;
5Z;4SMALL A;5B;5C;5D;5E;5F;5G;5H;5I;5J;5K;5L;5M;5N;5O;5P;5Q;5R;5S;5T;5U;5V;5W;5X;5Y;5Z;
1MONOSPACE CAPITAL A;3B;3C;3D;3E;3F;3G;3H;3I;3J;3K;3L;3M;3N;3O;3P;3Q;3R;3S;3T;3U;3V;3W;3X;3Y;3Z;
2SMALL A;3B;3C;3D;3E;3F;3G;3H;3I;3J;3K;3L;3M;3N;3O;3P;3Q;3R;3S;3T;3U;3V;3W;3X;3Y;3Z;
1ITALIC SMALL DOTLESS I;4J;1D6A8=1BOLD CAPITAL ALPHA;3BETA;3GAMMA;3DELTA;3EPSILON;3ZETA;3ETA;
3THETA;3IOTA;3KAPPA;3LAMDA;3MU;3NU;3XI;3OMICRON;3PI;3RHO;3THETA SYMBOL;3SIGMA;3TAU;3UPSILON;3PHI;
3CHI;3PSI;3OMEGA;2NABLA;2SMALL ALPHA;3BETA;3GAMMA;3DELTA;3EPSILON;3ZETA;3ETA;3THETA;3IOTA;3KAPPA;
3LAMDA;3MU;3NU;3XI;3OMICRON;3PI;3RHO;3FINAL SIGMA;3a;3TAU;3UPSILON;3PHI;3CHI;3PSI;3OMEGA;
2PARTIAL DIFFERENTIAL;2EPSILON SYMBOL;2aTHETA;2aKAPPA;2aPHI;2aRHO;2aPI;1ITALIC CAPITAL ALPHA;
3BETA;3GAMMA;3DELTA;3EPSILON;3ZETA;3ETA;3THETA;3IOTA;3KAPPA;3LAMDA;3MU;3NU;3XI;3OMICRON;3PI;3RHO;
3THETA SYMBOL;3SIGMA;3TAU;3UPSILON;3PHI;3CHI;3PSI;3OMEGA;2NABLA;2SMALL ALPHA;3BETA;3GAMMA;3DELTA;
3EPSILON;3ZETA;3ETA;3THETA;3IOTA;3KAPPA;3LAMDA;3MU;3NU;3XI;3OMICRON;3PI;3RHO;3FINAL SIGMA;3a;
3TAU;3UPSILON;3PHI;3CHI;3PSI;3OMEGA;2PARTIAL DIFFERENTIAL;2EPSILON SYMBOL;2aTHETA;2aKAPPA;2aPHI;
2aRHO;2aPI;1BOLD ITALIC CAPITAL ALPHA;4BETA;4GAMMA;4DELTA;4EPSILON;4ZETA;4ETA;4THETA;4IOTA;
4KAPPA;4LAMDA;4MU;4NU;4XI;4OMICRON;4PI;4RHO;4THETA SYMBOL;4SIGMA;4TAU;4UPSILON;4PHI;4CHI;4PSI;
4OMEGA;3NABLA;3SMALL ALPHA;4BETA;4GAMMA;4DELTA;4EPSILON;4ZETA;4ETA;4THETA;4IOTA;4KAPPA;4LAMDA;
4MU;4NU;4XI;4OMICRON;4PI;4RHO;4FINAL SIGMA;4a;4TAU;4UPSILON;4PHI;4CHI;4PSI;4OMEGA;
3PARTIAL DIFFERENTIAL;3EPSILON SYMBOL;3aTHETA;3aKAPPA;3aPHI;3aRHO;3aPI;
1SANS-SERIF BOLD CAPITAL ALPHA;4BETA;4GAMMA;4DELTA;4EPSILON;4ZETA;4ETA;4THETA;4IOTA;4KAPPA;
4LAMDA;4MU;4NU;4XI;4OMICRON;4PI;4RHO;4THETA SYMBOL;4SIGMA;4TAU;4UPSILON;4PHI;4CHI;4PSI;4OMEGA;
3NABLA;3SMALL ALPHA;4BETA;4GAMMA;4DELTA;4EPSILON;4ZETA;4ETA;4THETA;4IOTA;4KAPPA;4LAMDA;4MU;4NU;
4XI;4OMICRON;4PI;4RHO;4FINAL SIGMA;4a;4TAU;4UPSILON;4PHI;4CHI;4PSI;4OMEGA;3PARTIAL DIFFERENTIAL;
3EPSILON SYMBOL;3aTHETA;3aKAPPA;3aPHI;3aRHO;3aPI;3ITALIC CAPITAL ALPHA;5BETA;5GAMMA;5DELTA;
5EPSILON;5ZETA;5ETA;5THETA;5IOTA;5KAPPA;5LAMDA;5MU;5NU;5XI;5OMICRON;5PI;5RHO;5THETA SYMBOL;
5SIGMA;5TAU;5UPSILON;5PHI;5CHI;5PSI;5OMEGA;4NABLA;4SMALL ALPHA;5BETA;5GAMMA;5DELTA;5EPSILON;
5ZETA;5ETA;5THETA;5IOTA;5KAPPA;5LAMDA;5MU;5NU;5XI;5OMICRON;5PI;5RHO;5FINAL SIGMA;5a;5TAU;
5UPSILON;5PHI;5CHI;5PSI;5OMEGA;4PARTIAL DIFFERENTIAL;4EPSILON SYMBOL;4aTHETA;4aKAPPA;4aPHI;4aRHO;
4aPI;1BOLD CAPITAL DIGAMMA;~;1D7CE=2DIGIT ZERO;3ONE;3TWO;3THREE;3FOUR;3FIVE;3SIX;3SEVEN;3EIGHT;
3NINE;1DOUBLE-STRUCK DIGIT ZERO;3ONE;3TWO;3THREE;3FOUR;3FIVE;3SIX;3SEVEN;3EIGHT;3NINE;
1SANS-SERIF DIGIT ZERO;3ONE;3TWO;3THREE;3FOUR;3FIVE;3SIX;3SEVEN;3EIGHT;3NINE;2BOLD DIGIT ZERO;
4ONE;4TWO;4THREE;4FOUR;4FIVE;4SIX;4SEVEN;4EIGHT;4NINE;1MONOSPACE DIGIT ZERO;3ONE;3TWO;3THREE;
3FOUR;3FIVE;3SIX;3SEVEN;3EIGHT;3NINE;0SIGNWRITING HAND-FIST INDEX;1aHAND-CIRCLE;1aHAND-CUP;
1aHAND-OVAL;1aHAND-HINGE;1aHAND-ANGLE;1HAND-FIST INDEX BENT;1bHAND-CIRCLE;
1bHAND-FIST THUMB UNDER;2INDEX RAISED KNUCKLE;3CUPPED;3HINGED;4LOW;1HAND-CIRCLE INDEX HINGE;
1HAND-FIST INDEX MIDDLE;1bHAND-CIRCLE;1HAND-FIST INDEX MIDDLE BENT;4RAISED KNUCKLES;4HINGED;3bUP;
3HINGED MIDDLE UP;3MIDDLE CONJOINED;5INDEX BENT;5aMIDDLE;5CUPPED;5HINGED;4CROSSED;1cHAND-CIRCLE;
1HAND-FIST MIDDLE BENT OVER INDEX;2INDEX BENT OVER MIDDLE;3MIDDLE THUMB;1cHAND-CIRCLE;
1HAND-FIST INDEX MIDDLE STRAIGHT THUMB BENT;4BENT THUMB STRAIGHT;4THUMB BENT;
4HINGED SPREAD THUMB SIDE;3bUP MIDDLE HINGED;7CONJOINED;3HINGED MIDDLE UP THUMB SIDE;
3MIDDLE UP SPREAD THUMB FORWARD;4THUMB CUPPED;5CIRCLED;5HOOKED;5HINGED;
2THUMB BETWEEN INDEX MIDDLE STRAIGHT;2INDEX MIDDLE CONJOINED THUMB SIDE;7CONJOINED;7BENT;
2MIDDLE THUMB HOOKED INDEX UP;2aINDEX THUMB HOOKED MIDDLE;3MIDDLE CONJOINED HINGED THUMB SIDE;
4bCROSSED;4CONJOINED THUMB FORWARD;5bCUPPED;2MIDDLE THUMB CUPPED INDEX UP;
2aINDEX THUMB CUPPED MIDDLE;2aMIDDLE THUMB CIRCLED INDEX;6HINGED;
2INDEX THUMB ANGLED OUT MIDDLE UP;5bIN;4bCIRCLED;3MIDDLE THUMB CONJOINED HINGED;5ANGLED OUT;6;
2MIDDLE THUMB ANGLED OUT INDEX UP;7CROSSED;5INDEX UP;2INDEX THUMB HOOKED MIDDLE HINGED;
1HAND-FLAT FOUR FINGERS;4BENT;4HINGED;4CONJOINED;5SPLIT;1HAND-CLAW FOUR FINGERS CONJOINED;
1HAND-FIST FOUR FINGERS CONJOINED BENT;1HAND-HINGE FOUR FINGERS CONJOINED;
1HAND-FLAT FIVE FINGERS SPREAD;2cHEEL;2FIVE FINGERS SPREAD FOUR BENT;2eHEEL;
2aFIVE FINGERS SPREAD;2dHEEL;2FIVE FINGERS SPREAD THUMB FORWARD;1HAND-CUP FIVE FINGERS SPREAD;
5OPEN;1dHAND-HINGE;1HAND-OVAL FIVE FINGERS SPREAD;1HAND-FLAT FIVE FINGERS SPREAD HINGED;
6THUMB SIDE;6NO THUMB;2;2BETWEEN PALM FACINGS;2HEEL;2THUMB SIDE;2bHEEL;2THUMB BENT;3FORWARD;
2SPLIT INDEX THUMB SIDE;3CENTRE;4THUMB SIDE;6BENT;3LITTLE;1HAND-CLAW;2THUMB SIDE;2NO THUMB;
2THUMB FORWARD;1HAND-HOOK CURLICUE;2;1HAND-CUP OPEN;2;2OPEN THUMB SIDE;2b;2OPEN NO THUMB;2b;
2OPEN THUMB FORWARD;2b;1HAND-CURLICUE OPEN;2;1HAND-CIRCLE;1HAND-OVAL;2THUMB SIDE;2NO THUMB;
2THUMB FORWARD;1HAND-HINGE OPEN;3THUMB FORWARD;2;2SMALL;2OPEN THUMB SIDE;2b;2OPEN NO THUMB;2b;
2THUMB SIDE TOUCHING INDEX;3BETWEEN MIDDLE RING;1HAND-ANGLE;1HAND-FIST INDEX MIDDLE RING;
1cHAND-CIRCLE;1cHAND-HINGE;1cHAND-ANGLE;1HAND-HINGE LITTLE;1HAND-FIST INDEX MIDDLE RING BENT;
5CONJOINED;1dHAND-HINGE;1HAND-FIST LITTLE DOWN;4RIPPLE STRAIGHT;5CURVED;4OTHERS CIRCLED;3UP;
2bTHUMB UNDER;1bHAND-CIRCLE;1bHAND-OVAL;1bHAND-ANGLE;1HAND-FIST LITTLE RAISED KNUCKLE;3BENT;
3TOUCHES THUMB;3a;1bHAND-HINGE;1aHAND-FIST LITTLE INDEX;1cHAND-HINGE;
1HAND-ANGLE LITTLE INDEX THUMB INDEX THUMB OUT;7;1HAND-FIST LITTLE INDEX;1bHAND-CIRCLE;
1bHAND-HINGE;1bHAND-ANGLE;1HAND-FIST INDEX MIDDLE LITTLE;1cHAND-CIRCLE;1cHAND-HINGE;2RING;
1HAND-ANGLE INDEX MIDDLE LITTLE;1aHAND-FIST INDEX MIDDLE CROSS;1dHAND-CIRCLE;
1HAND-FIST RING DOWN;1HAND-HINGE RING DOWN INDEX THUMB HOOK MIDDLE;
1HAND-ANGLE RING DOWN MIDDLE THUMB INDEX CROSS;1HAND-FIST RING UP;3RAISED KNUCKLE;3LITTLE;
1bHAND-CIRCLE;1bHAND-OVAL;1bHAND-ANGLE;1HAND-FIST RING MIDDLE;4CONJOINED;4RAISED KNUCKLES;3INDEX;
3THUMB;1bHAND-HOOK;1HAND-FIST INDEX RING LITTLE;1cHAND-CIRCLE;
1HAND-CURLICUE INDEX RING LITTLE ON;1HAND-HOOK INDEX RING LITTLE OUT;5IN;5UNDER;
1HAND-CUP INDEX RING LITTLE;1cHAND-HINGE;1HAND-ANGLE INDEX RING LITTLE OUT;5;
1HAND-FIST MIDDLE DOWN;1HAND-HINGE MIDDLE;1HAND-FIST MIDDLE UP;1bHAND-CIRCLE;
1HAND-FIST MIDDLE RAISED KNUCKLE;3UP THUMB SIDE;1HAND-HOOK MIDDLE THUMB;
1HAND-FIST MIDDLE THUMB LITTLE;3a;3aRING;1cHAND-CIRCLE;1HAND-CURLICUE MIDDLE RING LITTLE ON;
1HAND-CUP MIDDLE RING LITTLE;1cHAND-HINGE;1HAND-ANGLE MIDDLE RING LITTLE OUT;5IN;5;
1HAND-CIRCLE MIDDLE RING LITTLE BENT;1HAND-CLAW MIDDLE RING LITTLE CONJOINED;6SIDE;
1HAND-HOOK MIDDLE RING LITTLE CONJOINED OUT;6IN;6;1HAND-HINGE INDEX HINGED;
1HAND-FIST INDEX THUMB SIDE;1cHAND-HINGE;1HAND-FIST INDEX THUMB SIDE THUMB DIAGONAL;6CONJOINED;
6BENT;5aINDEX;5aBOTH;5INDEX HINGE;4FORWARD INDEX STRAIGHT;6BENT;4HOOK;4CURLICUE;
4CURVE THUMB INSIDE;1eHAND-CLAW;1HAND-FIST INDEX THUMB CURVE THUMB UNDER;4CIRCLE;
1HAND-CUP INDEX THUMB;4OPEN;1cHAND-HINGE;4LARGE;4;4SMALL;1HAND-ANGLE INDEX THUMB OUT;4IN;4;
1aHAND-FIST;3HEEL;3SIDE DIAGONAL;4CONJOINED;4BENT;3FORWARD;3BETWEEN INDEX MIDDLE;4MIDDLE RING;
4RING LITTLE;3UNDER TWO FINGERS;3bOVER;3aUNDER THREE;4aFOUR;3OVER FOUR RAISED KNUCKLES;2;2HEEL;
1TOUCH SINGLE;2MULTIPLE;2BETWEEN;1GRASP SINGLE;2MULTIPLE;2BETWEEN;1STRIKE SINGLE;2MULTIPLE;
2BETWEEN;1BRUSH SINGLE;2MULTIPLE;2BETWEEN;1RUB SINGLE;2MULTIPLE;2BETWEEN;1SURFACE SYMBOLS;
2BETWEEN;1SQUEEZE LARGE SINGLE;2aSMALL;2LARGE MULTIPLE;2aSMALL;2SEQUENTIAL;1FLICK LARGE SINGLE;
2aSMALL;2LARGE MULTIPLE;2aSMALL;2SEQUENTIAL;1SQUEEZE FLICK ALTERNATING;
1MOVEMENT-HINGE UP DOWN LARGE;4SMALL;3SEQUENTIAL;2aDOWN;2UP DOWN ALTERNATING LARGE;5SMALL;
2SIDE TO SIDE SCISSORS;1MOVEMENT-WALLPLANE FINGER CONTACT;1bMOVEMENT-FLOORPLANE;
1MOVEMENT-WALLPLANE SINGLE STRAIGHT SMALL;4MEDIUM;4LARGE;4LARGEST;3WRIST FLEX;2DOUBLE STRAIGHT;
3WRIST FLEX;3ALTERNATING;4WRIST FLEX;2CROSS;2TRIPLE STRAIGHT MOVEMENT;3WRIST FLEX;3ALTERNATING;
4WRIST FLEX;2BEND SMALL;3MEDIUM;3LARGE;2CORNER SMALL;3MEDIUM;3LARGE;3ROTATION;2CHECK SMALL;
3MEDIUM;3LARGE;2BOX SMALL;3MEDIUM;3LARGE;2ZIGZAG SMALL;3MEDIUM;3LARGE;2PEAKS SMALL;3MEDIUM;
3LARGE;1TRAVEL-WALLPLANE ROTATION-WALLPLANE SINGLE;3DOUBLE;3ALTERNATING;
2ROTATION-FLOORPLANE SINGLE;3DOUBLE;3ALTERNATING;2SHAKING;2ARM SPIRAL SINGLE;4DOUBLE;4TRIPLE;
1MOVEMENT-DIAGONAL AWAY SMALL;3MEDIUM;3LARGE;3LARGEST;2TOWARDS SMALL;3MEDIUM;3LARGE;3LARGEST;
2BETWEEN AWAY SMALL;4MEDIUM;4LARGE;4LARGEST;3TOWARDS SMALL;4MEDIUM;4LARGE;4LARGEST;
1MOVEMENT-FLOORPLANE SINGLE STRAIGHT SMALL;4MEDIUM;4LARGE;4LARGEST;3WRIST FLEX;2DOUBLE STRAIGHT;
3WRIST FLEX;3ALTERNATING;4WRIST FLEX;2CROSS;2TRIPLE STRAIGHT MOVEMENT;3WRIST FLEX;
3ALTERNATING MOVEMENT;4WRIST FLEX;2BEND;2CORNER SMALL;3MEDIUM;3LARGE;2CHECK;2BOX SMALL;3MEDIUM;
3LARGE;2ZIGZAG SMALL;3MEDIUM;3LARGE;2PEAKS SMALL;3MEDIUM;3LARGE;
1TRAVEL-FLOORPLANE ROTATION-FLOORPLANE SINGLE;3DOUBLE;3ALTERNATING;2ROTATION-WALLPLANE SINGLE;
3DOUBLE;3ALTERNATING;2SHAKING;1MOVEMENT-WALLPLANE CURVE QUARTER SMALL;4MEDIUM;4LARGE;4LARGEST;
3HALF-CIRCLE SMALL;4MEDIUM;4LARGE;4LARGEST;3THREE-QUARTER CIRCLE SMALL;5MEDIUM;2HUMP SMALL;
3MEDIUM;3LARGE;2LOOP SMALL;3MEDIUM;3LARGE;3SMALL DOUBLE;2WAVE CURVE DOUBLE SMALL;5MEDIUM;5LARGE;
4TRIPLE SMALL;5MEDIUM;5LARGE;2CURVE THEN STRAIGHT;2CURVED CROSS SMALL;4MEDIUM;
1ROTATION-WALLPLANE SINGLE;2DOUBLE;2ALTERNATE;1MOVEMENT-WALLPLANE SHAKING;
2CURVE HITTING FRONT WALL;2cHUMP;2cLOOP;2cWAVE;1cROTATION-WALLPLANE SINGLE;2cDOUBLE;
2cALTERNATING;1MOVEMENT-WALLPLANE CURVE HITTING CHEST;2bHUMP;2bLOOP;2bWAVE;
1bROTATION-WALLPLANE SINGLE;2bDOUBLE;2bALTERNATING;1MOVEMENT-WALLPLANE WAVE DIAGONAL PATH SMALL;
5MEDIUM;5LARGE;1MOVEMENT-FLOORPLANE CURVE HITTING CEILING SMALL;5LARGE;
2HUMP HITTING CEILING SMALL DOUBLE;5aLARGE;5SMALL TRIPLE;5aLARGE;
2LOOP HITTING CEILING SMALL SINGLE;5aLARGE;5SMALL DOUBLE;5aLARGE;2WAVE HITTING CEILING SMALL;
5LARGE;1ROTATION-FLOORPLANE SINGLE HITTING CEILING;2bDOUBLE;2bALTERNATING;
1MOVEMENT-FLOORPLANE CURVE HITTING FLOOR SMALL;5LARGE;2HUMP HITTING FLOOR SMALL DOUBLE;5aLARGE;
5TRIPLE SMALL TRIPLE;6aLARGE;2LOOP HITTING FLOOR SMALL SINGLE;5aLARGE;5SMALL DOUBLE;5aLARGE;
2WAVE HITTING FLOOR SMALL;5LARGE;1ROTATION-FLOORPLANE SINGLE HITTING FLOOR;2bDOUBLE;
2bALTERNATING;1MOVEMENT-FLOORPLANE CURVE SMALL;3MEDIUM;3LARGE;3LARGEST;3COMBINED;2HUMP SMALL;
2aLOOP;2WAVE SNAKE;3SMALL;3LARGE;1ROTATION-FLOORPLANE SINGLE;2DOUBLE;2ALTERNATING;
1MOVEMENT-FLOORPLANE SHAKING PARALLEL;1MOVEMENT-WALLPLANE ARM CIRCLE SMALL SINGLE;4aMEDIUM;
4SMALL DOUBLE;4aMEDIUM;1MOVEMENT-FLOORPLANE ARM CIRCLE HITTING WALL SMALL SINGLE;6aMEDIUM;
6aLARGE;6SMALL DOUBLE;6aMEDIUM;6aLARGE;1MOVEMENT-WALLPLANE WRIST CIRCLE FRONT SINGLE;5DOUBLE;
1MOVEMENT-FLOORPLANE WRIST CIRCLE HITTING WALL SINGLE;6DOUBLE;
1MOVEMENT-WALLPLANE FINGER CIRCLES SINGLE;4DOUBLE;
1MOVEMENT-FLOORPLANE FINGER CIRCLES HITTING WALL SINGLE;6DOUBLE;1DYNAMIC ARROWHEAD SMALL;3LARGE;
2FAST;2SLOW;2TENSE;2RELAXED;2SIMULTANEOUS;3ALTERNATING;2EVERY OTHER TIME;2GRADUAL;1HEAD;2RIM;
2MOVEMENT-WALLPLANE STRAIGHT;3TILT;2MOVEMENT-FLOORPLANE STRAIGHT;2MOVEMENT-WALLPLANE CURVE;
2aMOVEMENT-FLOORPLANE;2MOVEMENT CIRCLE;1FACE DIRECTION POSITION NOSE FORWARD TILTING;5UP OR DOWN;
8TILTING;1EYEBROWS STRAIGHT UP;3NEUTRAL;3DOWN;1aDREAMY EYEBROWS NEUTRAL;3DOWN NEUTRAL;3aUP;
3NEUTRAL UP;1FOREHEAD NEUTRAL;2CONTACT;2WRINKLED;1EYES OPEN;2SQUEEZED;2CLOSED;1EYE BLINK SINGLE;
3MULTIPLE;1EYES HALF OPEN;2aWIDE;2HALF CLOSED;2WIDENING MOVEMENT;1EYE WINK;1EYELASHES UP;2DOWN;
2FLUTTERING;1EYEGAZE-WALLPLANE STRAIGHT;3DOUBLE;3ALTERNATING;1EYEGAZE-FLOORPLANE STRAIGHT;
3DOUBLE;3ALTERNATING;1EYEGAZE-WALLPLANE CURVED;1aEYEGAZE-FLOORPLANE;1EYEGAZE-WALLPLANE CIRCLING;
1CHEEKS PUFFED;2NEUTRAL;2SUCKED;1TENSE CHEEKS HIGH;3MIDDLE;3LOW;1EARS;1NOSE NEUTRAL;2CONTACT;
2WRINKLES;2WIGGLES;1AIR BLOWING OUT;2SUCKING IN;2BLOW SMALL ROTATIONS;2bSUCK;1BREATH INHALE;
2EXHALE;1MOUTH CLOSED NEUTRAL;3FORWARD;3CONTACT;2SMILE;3WRINKLED;3OPEN;2FROWN;3WRINKLED;3OPEN;
2OPEN CIRCLE;3FORWARD;3WRINKLED;3OVAL;4WRINKLED;4YAWN;3RECTANGLE;4WRINKLED;4YAWN;2KISS;3FORWARD;
3WRINKLED;2TENSE;3FORWARD;3SUCKED;1LIPS PRESSED TOGETHER;1LIP LOWER OVER UPPER;2UPPER OVER LOWER;
1MOUTH CORNERS;2WRINKLES SINGLE;3DOUBLE;1TONGUE STICKING OUT FAR;2LICKING LIPS;2aTIP BETWEEN;
3TOUCHING INSIDE MOUTH;2INSIDE MOUTH RELAXED;2MOVES AGAINST CHEEK;2CENTRE STICKING OUT;
3INSIDE MOUTH;1TEETH;2MOVEMENT;2ON TONGUE;4MOVEMENT;3LIPS;4MOVEMENT;2BITE LIPS;
1MOVEMENT-WALLPLANE JAW;1aMOVEMENT-FLOORPLANE;1NECK;1HAIR;1EXCITEMENT;1SHOULDER HIP SPINE;
3POSITIONS;1WALLPLANE SHOULDER HIP MOVE;1cFLOORPLANE;1SHOULDER TILTING FROM WAIST;
1TORSO-WALLPLANE STRAIGHT STRETCH;2CURVED BEND;1TORSO-FLOORPLANE TWISTING;
1UPPER BODY TILTING FROM HIP JOINTS;1LIMB COMBINATION;2LENGTH-1;+6;1FINGER;
1LOCATION-WALLPLANE SPACE;1aLOCATION-FLOORPLANE;1LOCATION HEIGHT;2WIDTH;2DEPTH;2HEAD NECK;2TORSO;
2LIMBS DIGITS;1COMMA;1FULL STOP;1SEMICOLON;1COLON;1PARENTHESIS;1DA9B=1FILL MODIFIER-2;+4;
1DAA1=1ROTATION MODIFIER-2;+14;1DF00=0LATIN SMALL LETTER FENG DIGRAPH WITH TRILL;
3REVERSED SCRIPT G;1aLETTER SMALL CAPITAL TURNED;1SMALL LETTER REVERSED K;
1LETTER SMALL CAPITAL L WITH BELT;1SMALL LETTER LEZH WITH RETROFLEX HOOK;3TURNED Y WITH BELT;
3REVERSED ENG;3TURNED R WITH LONG LEG AND RETROFLEX HOOK;3cT WITH HOOK;
1bLETTER RETROFLEX CLICK WITH;1SMALL LETTER ESH WITH DOUBLE BAR;7AND CURL;3aTURNED T WITH;
1bLETTER INVERTED GLOTTAL STOP;2bSTRETCHED C;2SMALL CAPITAL TURNED K;
1SMALL LETTER L WITH FISHHOOK;3DEZH DIGRAPH WITH PALATAL HOOK;3bL WITH BELT AND;3bENG WITH;
3cTURNED R;3bR WITH FISHHOOK AND;3bTESH DIGRAPH WITH;3cEZH;3aDEZH DIGRAPH WITH RETROFLEX;
3bI WITH STROKE AND;3bO WITH;3cTESH DIGRAPH;3cC;3S WITH CURL;
1E000=0COMBINING GLAGOLITIC LETTER AZU;3BUKY;3VEDE;3GLAGOLI;3DOBRO;3YESTU;3ZHIVETE;1E008=3ZEMLJA;
3IZHE;3aINITIAL;3I;3DJERVI;3KAKO;3LJUDIJE;3MYSLITE;3NASHI;3ONU;3POKOJI;3RITSI;3SLOVO;3TVRIDO;
3UKU;3FRITU;3HERU;1E01B=3SHTA;3TSI;3CHRIVI;3SHA;3YERU;3YERI;3YATI;1E023=3YU;3SMALL YUS;1E026=3YO;
3IOTATED SMALL YUS;3aBIG;3bIOTATED;3FITA;1E100=0NYIAKENG PUACHUE HMONG LETTER MA;4TSA;4NTA;4TA;
4HA;4NA;4XA;4NKA;4CA;4LA;4SA;4ZA;4NCA;4NTSA;4KA;4DA;4NYA;4NRA;4VA;4NTXA;4TXA;4FA;4RA;4QA;4YA;
4NQA;4PA;4XYA;4NPA;4DLA;4NPLA;4HAH;4MLA;4PLA;4GA;4RRA;4A;4AA;4I;4U;4O;4OO;4E;4EE;4W;
1E130=3TONE-B;3TONE-M;3TONE-J;3TONE-V;3TONE-S;3TONE-G;3TONE-D;3SIGN FOR PERSON;5THING;5LOCATION;
5ANIMAL;5INVERTEBRATE;4XW XW;3SYLLABLE LENGTHENER;1E140=3DIGIT ZERO;4ONE;4TWO;4THREE;4FOUR;4FIVE;
4SIX;4SEVEN;4EIGHT;4NINE;1E14E=3LOGOGRAM NYAJ;3CIRCLED CA;1E290=0TOTO LETTER PA;2BA;2TA;2DA;2KA;
2GA;2MA;2NA;2NGA;2SA;2CHA;2YA;2WA;2JA;2HA;2RA;2LA;2I;2aBREATHY;2IU;2aBREATHY;2U;2E;2aBREATHY;2EO;
2aBREATHY;2O;2AE;2aBREATHY;2A;1SIGN RISING TONE;1E2C0=0WANCHO LETTER AA;2A;2BA;2CA;2DA;2GA;2YA;
2PHA;2LA;2NA;2PA;2TA;2THA;2FA;2SA;2SHA;2JA;2ZA;2WA;2VA;2KA;2O;2AU;2RA;2MA;2KHA;2HA;2E;2I;2NGA;2U;
2LLHA;2TSA;2TRA;2ONG;2AANG;2ANG;2ING;2ON;2EN;2AAN;2NYA;2UEN;2YIH;1TONE TUP;2TUPNI;2KOI;2KOINI;
1DIGIT ZERO;2ONE;2TWO;2THREE;2FOUR;2FIVE;2SIX;2SEVEN;2EIGHT;2NINE;1E2FF=1NGUN SIGN;
1E7E0=0ETHIOPIC SYLLABLE HHYA;2HHYU;2HHYI;2HHYAA;2HHYEE;2HHYE;2HHYO;1E7E8=2GURAGE HHWA;2HHWI;
2HHWEE;2HHWE;1E7ED=2GURAGE MWI;3MWEE;1E7F0=3QWI;3QWEE;3QWE;3BWI;3BWEE;3KWI;3KWEE;3KWE;3GWI;3GWEE;
3GWE;3FWI;3FWEE;3PWI;3PWEE;1E800=0MENDE KIKAKUI SYLLABLE M001 KI;3M002 KA;3M003 KU;3M065 KEE;
3M095 KE;3M076 KOO;3M048 KO;3M179 KUA;3M004 WI;3M005 WA;3M006 WU;3M126 WEE;3M118 WE;3M114 WOO;
3M045 WO;3M194 WUI;3M143 WEI;3M061 WVI;3M049 WVA;3M139 WVE;3M007 MIN;3M008 MAN;3M009 MUN;
3M059 MEN;3M094 MON;3M154 MUAN;3M189 MUEN;3M010 BI;3M011 BA;3M012 BU;3M150 BEE;3M097 BE;
3M103 BOO;3M138 BO;3M013 I;3M014 A;3M015 U;3M163 EE;3M100 E;3M165 OO;3M147 O;3M137 EI;3M131 IN;
3aM135;3M195 AN;3M178 EN;3M019 SI;3M020 SA;3M021 SU;3M162 SEE;3M116 SE;3M136 SOO;3M079 SO;
3M196 SIA;3M025 LI;3M026 LA;3M027 LU;3M084 LEE;3M073 LE;3M054 LOO;3M153 LO;3M110 LONG LE;
3M016 DI;3M017 DA;3M018 DU;3M089 DEE;3M180 DOO;3M181 DO;3M022 TI;3M023 TA;3M024 TU;3M091 TEE;
3M055 TE;3M104 TOO;3M069 TO;3M028 JI;3M029 JA;3M030 JU;3M157 JEE;3M113 JE;3M160 JOO;3M063 JO;
3aM175 LONG;3M031 YI;3M032 YA;3M033 YU;3M109 YEE;3M080 YE;3M141 YOO;3M121 YO;3M034 FI;3M035 FA;
3M036 FU;3M078 FEE;3M075 FE;3M133 FOO;3M088 FO;3M197 FUA;3M101 FAN;3M037 NIN;3M038 NAN;3M039 NUN;
3M117 NEN;3M169 NON;3M176 HI;3M041 HA;3M186 HU;3M040 HEE;3M096 HE;3M042 HOO;3M140 HO;3M083 HEEI;
3M128 HOOU;3M053 HIN;3M130 HAN;3M087 HUN;3M052 HEN;3M193 HON;3M046 HUAN;3M090 NGGI;3M043 NGGA;
3M082 NGGU;3M115 NGGEE;3M146 NGGE;3M156 NGGOO;3M120 NGGO;3M159 NGGAA;3M127 NGGUA;3M086 LONG NGGE;
3M106 LONG NGGOO;3M183 LONG NGGO;3M155 GI;3M111 GA;3M168 GU;3M190 GEE;3M166 GUEI;3M167 GUAN;
3M184 NGEN;3M057 NGON;3M177 NGUAN;3M068 PI;3M099 PA;3M050 PU;3M081 PEE;3M051 PE;3M102 POO;
3M066 PO;3M145 MBI;3M062 MBA;3M122 MBU;3M047 MBEE;3aM188;3M072 MBE;3M172 MBOO;3M174 MBO;
3M187 MBUU;3M161 LONG MBE;3M105 LONG MBOO;3M142 LONG MBO;3M132 KPI;3M092 KPA;3M074 KPU;
3M044 KPEE;3M108 KPE;3M112 KPOO;3M158 KPO;3M124 GBI;3M056 GBA;3M148 GBU;3M093 GBEE;3M107 GBE;
3M071 GBOO;3M070 GBO;3M171 RA;3M123 NDI;3M129 NDA;3M125 NDU;3M191 NDEE;3M119 NDE;3M067 NDOO;
3M064 NDO;3M152 NJA;3M192 NJU;3M149 NJEE;3M134 NJOO;3M182 VI;3M185 VA;3M151 VU;3M173 VEE;
3M085 VE;3M144 VOO;3M077 VO;3M164 NYIN;3M058 NYAN;3M170 NYUN;3M098 NYEN;3M060 NYON;
1E8C7=2DIGIT ONE;3TWO;3THREE;3FOUR;3FIVE;3SIX;3SEVEN;3EIGHT;3NINE;2COMBINING NUMBER TEENS;4TENS;
4HUNDREDS;4THOUSANDS;4aTEN;4aHUNDRED;4MILLIONS;1E900=0ADLAM CAPITAL LETTER ALIF;3DAALI;3LAAM;
3MIIM;3BA;3SINNYIIYHE;3PE;3BHE;3RA;3E;3FA;3I;3O;3DHA;3YHE;3WAW;3NUN;3KAF;3YA;3U;3JIIM;3CHI;3HA;
3QAAF;3GA;3NYA;3TU;3NHA;3VA;3KHA;3GBE;3ZAL;3KPO;3SHA;1SMALL LETTER ALIF;3DAALI;3LAAM;3MIIM;3BA;
3SINNYIIYHE;3PE;3BHE;3RA;3E;3FA;3I;3O;3DHA;3YHE;3WAW;3NUN;3KAF;3YA;3U;3JIIM;3CHI;3HA;3QAAF;3GA;
3NYA;3TU;3NHA;3VA;3KHA;3GBE;3ZAL;3KPO;3SHA;1ALIF LENGTHENER;1aVOWEL;1GEMINATION MARK;1HAMZA;
1CONSONANT MODIFIER;1bGEMINATE;1NUKTA;1NASALIZATION MARK;1E950=1DIGIT ZERO;2ONE;2TWO;2THREE;
2FOUR;2FIVE;2SIX;2SEVEN;2EIGHT;2NINE;1E95E=1INITIAL EXCLAMATION MARK;2aQUESTION;
1EC71=0INDIC SIYAQ NUMBER ONE;3TWO;3THREE;3FOUR;3FIVE;3SIX;3SEVEN;3EIGHT;3NINE;3TEN;3TWENTY;
3THIRTY;3FORTY;3FIFTY;3SIXTY;3SEVENTY;3EIGHTY;3NINETY;3ONE HUNDRED;3aTWO;3aTHREE;3aFOUR;3aFIVE;
3aSIX;3aSEVEN;3aEIGHT;3aNINE;3ONE THOUSAND;3aTWO;3aTHREE;3aFOUR;3aFIVE;3aSIX;3aSEVEN;3aEIGHT;
3aNINE;3aTEN;3aTWENTY;3aTHIRTY;3aFORTY;3aFIFTY;3aSIXTY;3aSEVENTY;3aEIGHTY;3aNINETY;3LAKH;3LAKHAN;
2LAKH MARK;2NUMBER KAROR;3KARORAN;3PREFIXED ONE;4TWO;4THREE;4FOUR;4FIVE;4SIX;4SEVEN;4EIGHT;4NINE;
2PLACEHOLDER;2FRACTION ONE QUARTER;4HALF;3THREE QUARTERS;2RUPEE MARK;2NUMBER ALTERNATE ONE;4TWO;
4TEN THOUSAND;2ALTERNATE LAKH MARK;1ED01=0OTTOMAN SIYAQ NUMBER ONE;3TWO;3THREE;3FOUR;3FIVE;3SIX;
3SEVEN;3EIGHT;3NINE;3TEN;3TWENTY;3THIRTY;3FORTY;3FIFTY;3SIXTY;3SEVENTY;3EIGHTY;3NINETY;
3ONE HUNDRED;3aTWO;3aTHREE;3aFOUR;3aFIVE;3aSIX;3aSEVEN;3aEIGHT;3aNINE;3ONE THOUSAND;3aTWO;
3aTHREE;3aFOUR;3aFIVE;3aSIX;3aSEVEN;3aEIGHT;3aNINE;3aTEN;3aTWENTY;3aTHIRTY;3aFORTY;3aFIFTY;
3aSIXTY;3aSEVENTY;3aEIGHTY;3aNINETY;2MARRATAN;2ALTERNATE NUMBER TWO;4THREE;4FOUR;4FIVE;4SIX;
4SEVEN;4EIGHT;4NINE;4TEN;4FOUR HUNDRED;4aSIX;4TWO THOUSAND;4aTEN;2FRACTION ONE HALF;4SIXTH;
1EE00=0ARABIC MATHEMATICAL ALEF;2BEH;2JEEM;2DAL;1EE05=2WAW;2ZAIN;2HAH;2TAH;2YEH;2KAF;2LAM;2MEEM;
2NOON;2SEEN;2AIN;2FEH;2SAD;2QAF;2REH;2SHEEN;2TEH;2THEH;2KHAH;2THAL;2DAD;2ZAH;2GHAIN;2DOTLESS BEH;
3NOON;3FEH;3QAF;1EE21=2INITIAL BEH;3JEEM;1EE24=3HEH;1EE27=3HAH;1EE29=3YEH;3KAF;3LAM;3MEEM;3NOON;
3SEEN;3AIN;3FEH;3SAD;3QAF;1EE34=3SHEEN;3TEH;3THEH;3KHAH;1EE39=3DAD;1EE3B=3GHAIN;
1EE42=2TAILED JEEM;1EE47=3HAH;1EE49=3YEH;1EE4B=3LAM;1EE4D=3NOON;3SEEN;3AIN;1EE51=3SAD;3QAF;
1EE54=3SHEEN;1EE57=3KHAH;1EE59=3DAD;1EE5B=3GHAIN;1EE5D=3DOTLESS NOON;1EE5F=4QAF;
1EE61=2STRETCHED BEH;3JEEM;1EE64=3HEH;1EE67=3HAH;3TAH;3YEH;3KAF;1EE6C=3MEEM;3NOON;3SEEN;3AIN;
3FEH;3SAD;3QAF;1EE74=3SHEEN;3TEH;3THEH;3KHAH;1EE79=3DAD;3ZAH;3GHAIN;3DOTLESS BEH;1EE7E=4FEH;
1EE80=2LOOPED ALEF;3BEH;3JEEM;3DAL;3HEH;3WAW;3ZAIN;3HAH;3TAH;3YEH;1EE8B=3LAM;3MEEM;3NOON;3SEEN;
3AIN;3FEH;3SAD;3QAF;3REH;3SHEEN;3TEH;3THEH;3KHAH;3THAL;3DAD;3ZAH;3GHAIN;1EEA1=2DOUBLE-STRUCK BEH;
3JEEM;3DAL;1EEA5=3WAW;3ZAIN;3HAH;3TAH;3YEH;1EEAB=3LAM;3MEEM;3NOON;3SEEN;3AIN;3FEH;3SAD;3QAF;3REH;
3SHEEN;3TEH;3THEH;3KHAH;3THAL;3DAD;3ZAH;3GHAIN;1EEF0=2OPERATOR MEEM WITH HAH WITH TATWEEL;
3HAH WITH DAL;1F000=0MAHJONG TILE EAST WIND;2aSOUTH;2aWEST;2aNORTH;2RED DRAGON;2aGREEN;2aWHITE;
2ONE OF CHARACTERS;2bTWO;2bTHREE;2bFOUR;2bFIVE;2bSIX;2bSEVEN;2bEIGHT;2bNINE;2ONE OF BAMBOOS;
2bTWO;2bTHREE;2bFOUR;2bFIVE;2bSIX;2bSEVEN;2bEIGHT;2bNINE;2ONE OF CIRCLES;2bTWO;2bTHREE;2bFOUR;
2bFIVE;2bSIX;2bSEVEN;2bEIGHT;2bNINE;2PLUM;2ORCHID;2BAMBOO;2CHRYSANTHEMUM;2SPRING;2SUMMER;2AUTUMN;
2WINTER;2JOKER;2BACK;1F030=0aDOMINO TILE HORIZONTAL;2HORIZONTAL-00-00;+6;2HORIZONTAL-01-00;+6;
2HORIZONTAL-02-00;+6;2HORIZONTAL-03-00;+6;2HORIZONTAL-04-00;+6;2HORIZONTAL-05-00;+6;
2HORIZONTAL-06-00;+6;2VERTICAL BACK;2VERTICAL-00-00;+6;2VERTICAL-01-00;+6;2VERTICAL-02-00;+6;
2VERTICAL-03-00;+6;2VERTICAL-04-00;+6;2VERTICAL-05-00;+6;2VERTICAL-06-00;+6;
1F0A0=0PLAYING CARD BACK;2ACE OF SPADES;2bTWO;2bTHREE;2bFOUR;2bFIVE;2bSIX;2bSEVEN;2bEIGHT;2bNINE;
2bTEN;2bJACK;2bKNIGHT;2bQUEEN;2bKING;1F0B1=2ACE OF HEARTS;2bTWO;2bTHREE;2bFOUR;2bFIVE;2bSIX;
2bSEVEN;2bEIGHT;2bNINE;2bTEN;2bJACK;2bKNIGHT;2bQUEEN;2bKING;2RED JOKER;1F0C1=2ACE OF DIAMONDS;
2bTWO;2bTHREE;2bFOUR;2bFIVE;2bSIX;2bSEVEN;2bEIGHT;2bNINE;2bTEN;2bJACK;2bKNIGHT;2bQUEEN;2bKING;
2BLACK JOKER;1F0D1=2ACE OF CLUBS;2bTWO;2bTHREE;2bFOUR;2bFIVE;2bSIX;2bSEVEN;2bEIGHT;2bNINE;2bTEN;
2bJACK;2bKNIGHT;2bQUEEN;2bKING;2WHITE JOKER;2FOOL;2TRUMP-1;+20;1F100=0DIGIT ZERO FULL STOP;
2COMMA;1aONE;1aTWO;1aTHREE;1aFOUR;1aFIVE;1aSIX;1aSEVEN;1aEIGHT;1aNINE;
0DINGBAT CIRCLED SANS-SERIF DIGIT ZERO;1dNEGATIVE;0CIRCLED ZERO WITH SLASH;1ANTICLOCKWISE ARROW;
1DOLLAR SIGN WITH OVERLAID BACKSLASH;0PARENTHESIZED LATIN CAPITAL LETTER A;4B;4C;4D;4E;4F;4G;4H;
4I;4J;4K;4L;4M;4N;4O;4P;4Q;4R;4S;4T;4U;4V;4W;4X;4Y;4Z;
0TORTOISE SHELL BRACKETED LATIN CAPITAL LETTER S;0CIRCLED ITALIC LATIN CAPITAL LETTER C;5R;1CD;
1WZ;0COPYLEFT SYMBOL;0SQUARED LATIN CAPITAL LETTER A;4B;4C;4D;4E;4F;4G;4H;4I;4J;4K;4L;4M;4N;4O;
4P;4Q;4R;4S;4T;4U;4V;4W;4X;4Y;4Z;1HV;1MV;1SD;1SS;1PPV;1WC;
0NEGATIVE CIRCLED LATIN CAPITAL LETTER A;5B;5C;5D;5E;5F;5G;5H;5I;5J;5K;5L;5M;5N;5O;5P;5Q;5R;5S;
5T;5U;5V;5W;5X;5Y;5Z;0RAISED MC SIGN;1aMD;1aMR;0CIRCLED CC;1C WITH OVERLAID BACKSLASH;
1HUMAN FIGURE;0NEGATIVE SQUARED LATIN CAPITAL LETTER A;5B;5C;5D;5E;5F;5G;5H;5I;5J;5K;5L;5M;5N;5O;
5P;5Q;5R;5S;5T;5U;5V;5W;5X;5Y;5Z;0CROSSED NEGATIVE SQUARED LATIN CAPITAL LETTER P;
0NEGATIVE SQUARED IC;2PA;2SA;2AB;2WC;0SQUARE DJ;0SQUARED CL;1COOL;1FREE;1ID;1NEW;1NG;1OK;1SOS;
1UP WITH EXCLAMATION MARK;1VS;1THREE D;1SECOND SCREEN;1TWO K;1aFOUR;1aEIGHT;1FIVE POINT ONE;
1bSEVEN;1TWENTY-TWO POINT TWO;1SIXTY P;1aONE HUNDRED TWENTY;1LATIN SMALL LETTER D;1HC;1HDR;
1HI-RES;1LOSSLESS;1SHV;1UHD;1VOD;0MASK WORK SYMBOL;1F1E6=0REGIONAL INDICATOR SYMBOL LETTER A;4B;
4C;4D;4E;4F;4G;4H;4I;4J;4K;4L;4M;4N;4O;4P;4Q;4R;4S;4T;4U;4V;4W;4X;4Y;4Z;0SQUARE HIRAGANA HOKA;
0SQUARED KATAKANA KOKO;2SA;1F210=1CJK UNIFIED IDEOGRAPH-624B;3IDEOGRAPH-5B57;3IDEOGRAPH-53CC;
1KATAKANA DE;1CJK UNIFIED IDEOGRAPH-4E8C;3IDEOGRAPH-591A;3IDEOGRAPH-89E3;3IDEOGRAPH-5929;
3IDEOGRAPH-4EA4;3IDEOGRAPH-6620;3IDEOGRAPH-7121;3IDEOGRAPH-6599;3IDEOGRAPH-524D;3IDEOGRAPH-5F8C;
3IDEOGRAPH-518D;3IDEOGRAPH-65B0;3IDEOGRAPH-521D;3IDEOGRAPH-7D42;3IDEOGRAPH-751F;3IDEOGRAPH-8CA9;
3IDEOGRAPH-58F0;3IDEOGRAPH-5439;3IDEOGRAPH-6F14;3IDEOGRAPH-6295;3IDEOGRAPH-6355;3IDEOGRAPH-4E00;
3IDEOGRAPH-4E09;3IDEOGRAPH-904A;3IDEOGRAPH-5DE6;3IDEOGRAPH-4E2D;3IDEOGRAPH-53F3;3IDEOGRAPH-6307;
3IDEOGRAPH-8D70;3IDEOGRAPH-6253;3IDEOGRAPH-7981;3IDEOGRAPH-7A7A;3IDEOGRAPH-5408;3IDEOGRAPH-6E80;
3IDEOGRAPH-6709;3IDEOGRAPH-6708;3IDEOGRAPH-7533;3IDEOGRAPH-5272;3IDEOGRAPH-55B6;3IDEOGRAPH-914D;
1F240=0TORTOISE SHELL BRACKETED CJK UNIFIED IDEOGRAPH-672C;5IDEOGRAPH-4E09;5IDEOGRAPH-4E8C;
5IDEOGRAPH-5B89;5IDEOGRAPH-70B9;5IDEOGRAPH-6253;5IDEOGRAPH-76D7;5IDEOGRAPH-52DD;5IDEOGRAPH-6557;
1F250=0CIRCLED IDEOGRAPH ADVANTAGE;2ACCEPT;1F260=0ROUNDED SYMBOL FOR FU;3LU;3SHOU;3XI;3SHUANGXI;
3CAI;1F300=0CYCLONE;0FOGGY;0CLOSED UMBRELLA;0NIGHT WITH STARS;0SUNRISE OVER MOUNTAINS;1;
0CITYSCAPE AT DUSK;0SUNSET OVER BUILDINGS;0RAINBOW;0BRIDGE AT NIGHT;0WATER WAVE;0VOLCANO;
0MILKY WAY;0EARTH GLOBE EUROPE-AFRICA;2AMERICAS;2ASIA-AUSTRALIA;0GLOBE WITH MERIDIANS;
0NEW MOON SYMBOL;0bWAXING CRESCENT;0bFIRST QUARTER;0bWAXING GIBBOUS;0bFULL;0bWANING GIBBOUS;
0bLAST QUARTER;0bWANING CRESCENT;0CRESCENT MOON;0NEW MOON WITH FACE;0cFIRST QUARTER;0dLAST;
0cFULL;0bSUN;0GLOWING STAR;0aSHOOTING;0THERMOMETER;0BLACK DROPLET;0WHITE SUN;2WITH SMALL CLOUD;
2aBEHIND;4WITH RAIN;0c;2SNOW;2LIGHTNING;2TORNADO;0FOG;0WIND BLOWING FACE;0HOT DOG;0TACO;0BURRITO;
0CHESTNUT;0SEEDLING;0EVERGREEN TREE;0aDECIDUOUS;0aPALM;0CACTUS;0HOT PEPPER;0TULIP;
0CHERRY BLOSSOM;0ROSE;0HIBISCUS;0SUNFLOWER;0BLOSSOM;0EAR OF MAIZE;2RICE;0HERB;0FOUR LEAF CLOVER;
0MAPLE LEAF;0aFALLEN;0LEAF FLUTTERING IN WIND;0MUSHROOM;0TOMATO;0AUBERGINE;0GRAPES;0MELON;
0WATERMELON;0TANGERINE;0LEMON;0BANANA;0PINEAPPLE;0RED APPLE;0aGREEN;0PEAR;0PEACH;0CHERRIES;
0STRAWBERRY;0HAMBURGER;0SLICE OF PIZZA;0MEAT ON BONE;0POULTRY LEG;0RICE CRACKER;1BALL;
0COOKED RICE;0aCURRY AND;0STEAMING BOWL;0SPAGHETTI;0BREAD;0FRENCH FRIES;0ROASTED SWEET POTATO;
0DANGO;0ODEN;0SUSHI;0FRIED SHRIMP;0FISH CAKE WITH SWIRL DESIGN;0SOFT ICE CREAM;0SHAVED ICE;
0ICE CREAM;0DOUGHNUT;0COOKIE;0CHOCOLATE BAR;0CANDY;0LOLLIPOP;0CUSTARD;0HONEY POT;0SHORTCAKE;
0BENTO BOX;0POT OF FOOD;0COOKING;0FORK AND KNIFE;0TEACUP WITHOUT HANDLE;0SAKE BOTTLE AND CUP;
0WINE GLASS;0aCOCKTAIL;0TROPICAL DRINK;0BEER MUG;0CLINKING BEER MUGS;0BABY BOTTLE;
0FORK AND KNIFE WITH PLATE;0BOTTLE WITH POPPING CORK;0POPCORN;0RIBBON;0WRAPPED PRESENT;
0BIRTHDAY CAKE;0JACK-O-LANTERN;0CHRISTMAS TREE;0FATHER CHRISTMAS;0FIREWORKS;0FIREWORK SPARKLER;
0BALLOON;0PARTY POPPER;0CONFETTI BALL;0TANABATA TREE;0CROSSED FLAGS;0PINE DECORATION;
0JAPANESE DOLLS;0CARP STREAMER;0WIND CHIME;0MOON VIEWING CEREMONY;0SCHOOL SATCHEL;
0GRADUATION CAP;0HEART WITH TIP ON THE LEFT;0BOUQUET OF FLOWERS;0MILITARY MEDAL;0REMINDER RIBBON;
0MUSICAL KEYBOARD WITH JACKS;0STUDIO MICROPHONE;0LEVEL SLIDER;0CONTROL KNOBS;
0BEAMED ASCENDING MUSICAL NOTES;1bDESCENDING;0FILM FRAMES;0ADMISSION TICKETS;0CAROUSEL HORSE;
0FERRIS WHEEL;0ROLLER COASTER;0FISHING POLE AND FISH;0MICROPHONE;0MOVIE CAMERA;0CINEMA;
0HEADPHONE;0ARTIST PALETTE;0TOP HAT;0CIRCUS TENT;0TICKET;0CLAPPER BOARD;0PERFORMING ARTS;
0VIDEO GAME;0DIRECT HIT;0SLOT MACHINE;0BILLIARDS;0GAME DIE;0BOWLING;0FLOWER PLAYING CARDS;
0MUSICAL NOTE;0MULTIPLE MUSICAL NOTES;0SAXOPHONE;0GUITAR;0MUSICAL KEYBOARD;0TRUMPET;0VIOLIN;
0MUSICAL SCORE;0RUNNING SHIRT WITH SASH;0TENNIS RACQUET AND BALL;0SKI AND SKI BOOT;
0BASKETBALL AND HOOP;0CHEQUERED FLAG;0SNOWBOARDER;0RUNNER;0SURFER;0SPORTS MEDAL;0TROPHY;
0HORSE RACING;0AMERICAN FOOTBALL;0aRUGBY;0SWIMMER;0WEIGHT LIFTER;0GOLFER;0RACING MOTORCYCLE;1CAR;
0CRICKET BAT AND BALL;0VOLLEYBALL;0FIELD HOCKEY STICK AND BALL;0ICE HOCKEY STICK AND PUCK;
0TABLE TENNIS PADDLE AND BALL;0SNOW CAPPED MOUNTAIN;0CAMPING;0BEACH WITH UMBRELLA;
0BUILDING CONSTRUCTION;0HOUSE BUILDINGS;0CITYSCAPE;0DERELICT HOUSE BUILDING;0aCLASSICAL;0DESERT;
1ISLAND;0NATIONAL PARK;0STADIUM;0HOUSE BUILDING;1WITH GARDEN;0OFFICE BUILDING;
0JAPANESE POST OFFICE;0bEUROPEAN;0HOSPITAL;0BANK;0AUTOMATED TELLER MACHINE;0HOTEL;0aLOVE;
0CONVENIENCE STORE;0SCHOOL;0DEPARTMENT STORE;0FACTORY;0IZAKAYA LANTERN;0JAPANESE CASTLE;
0aEUROPEAN;0WHITE PENNANT;0aBLACK;0WAVING WHITE FLAG;1aBLACK;0ROSETTE;0aBLACK;0LABEL;
0BADMINTON RACQUET AND SHUTTLECOCK;0BOW AND ARROW;0AMPHORA;0EMOJI MODIFIER FITZPATRICK TYPE-1-2;
3TYPE-3;+3;0RAT;0MOUSE;0OX;0WATER BUFFALO;0COW;0TIGER;0LEOPARD;0RABBIT;0CAT;0DRAGON;0CROCODILE;
0WHALE;0SNAIL;0SNAKE;0HORSE;0RAM;0GOAT;0SHEEP;0MONKEY;0ROOSTER;0CHICKEN;0DOG;0PIG;0BOAR;
0ELEPHANT;0OCTOPUS;0SPIRAL SHELL;0BUG;0ANT;0HONEYBEE;0LADY BEETLE;0FISH;0aTROPICAL;0BLOWFISH;
0TURTLE;0HATCHING CHICK;0aBABY;0bFRONT-FACING;0BIRD;0PENGUIN;0KOALA;0POODLE;0DROMEDARY CAMEL;
0aBACTRIAN;0DOLPHIN;0MOUSE FACE;0aCOW;0aTIGER;0aRABBIT;0aCAT;0aDRAGON;0SPOUTING WHALE;
0HORSE FACE;0aMONKEY;0aDOG;0aPIG;0aFROG;0aHAMSTER;0aWOLF;0aBEAR;0aPANDA;0PIG NOSE;0PAW PRINTS;
0CHIPMUNK;0EYES;0EYE;0EAR;0NOSE;0MOUTH;0TONGUE;0WHITE UP POINTING BACKHAND INDEX;1cDOWN;1cLEFT;
1cRIGHT;0FISTED HAND SIGN;0bWAVING;0bOK;0aTHUMBS UP;1aDOWN;0aCLAPPING HANDS;0bOPEN;0CROWN;
0WOMANS HAT;0EYEGLASSES;0NECKTIE;0T-SHIRT;0JEANS;0DRESS;0KIMONO;0BIKINI;0WOMANS CLOTHES;0PURSE;
0HANDBAG;0POUCH;0MANS SHOE;0aATHLETIC;0aHIGH-HEELED;0WOMANS SANDAL;1BOOTS;0FOOTPRINTS;
0BUST IN SILHOUETTE;0bBUSTS;0BOY;0GIRL;0MAN;0WOMAN;0FAMILY;0MAN AND WOMAN HOLDING HANDS;
0bTWO MEN;1bWOMEN;0POLICE OFFICER;0WOMAN WITH BUNNY EARS;0BRIDE WITH VEIL;
0PERSON WITH BLOND HAIR;0MAN WITH GUA PI MAO;2TURBAN;0OLDER MAN;1WOMAN;0BABY;
0CONSTRUCTION WORKER;0PRINCESS;0JAPANESE OGRE;1GOBLIN;0GHOST;0BABY ANGEL;0EXTRATERRESTRIAL ALIEN;
0ALIEN MONSTER;0IMP;0SKULL;0INFORMATION DESK PERSON;0GUARDSMAN;0DANCER;0LIPSTICK;0NAIL POLISH;
0FACE MASSAGE;0HAIRCUT;0BARBER POLE;0SYRINGE;0PILL;0KISS MARK;0LOVE LETTER;0RING;0GEM STONE;
0KISS;0BOUQUET;0COUPLE WITH HEART;0WEDDING;0BEATING HEART;0aBROKEN;0TWO HEARTS;0SPARKLING HEART;
0aGROWING;0HEART WITH ARROW;0BLUE HEART;0aGREEN;0aYELLOW;0aPURPLE;0HEART WITH RIBBON;
0REVOLVING HEARTS;0HEART DECORATION;0DIAMOND SHAPE WITH A DOT INSIDE;0ELECTRIC LIGHT BULB;
0ANGER SYMBOL;0BOMB;0SLEEPING SYMBOL;0aCOLLISION;0aSPLASHING SWEAT;0DROPLET;0DASH SYMBOL;
0PILE OF POO;0FLEXED BICEPS;0DIZZY SYMBOL;0SPEECH BALLOON;0aTHOUGHT;0WHITE FLOWER;
0HUNDRED POINTS SYMBOL;0MONEY BAG;0CURRENCY EXCHANGE;0HEAVY DOLLAR SIGN;0CREDIT CARD;
0BANKNOTE WITH YEN SIGN;2aDOLLAR;2aEURO;2aPOUND;0MONEY WITH WINGS;
0CHART WITH UPWARDS TREND AND YEN SIGN;0SEAT;0PERSONAL COMPUTER;0BRIEFCASE;0MINIDISC;
0FLOPPY DISK;0OPTICAL DISC;0DVD;0FILE FOLDER;0bOPEN;0PAGE WITH CURL;1FACING UP;0CALENDAR;
0aTEAR-OFF;0CARD INDEX;0CHART WITH UPWARDS TREND;2aDOWNWARDS;0BAR CHART;0CLIPBOARD;0PUSHPIN;
0aROUND;0PAPERCLIP;0STRAIGHT RULER;0aTRIANGULAR;0BOOKMARK TABS;0LEDGER;0NOTEBOOK;
1WITH DECORATIVE COVER;0CLOSED BOOK;0aOPEN;0aGREEN;0aBLUE;0aORANGE;0BOOKS;0NAME BADGE;0SCROLL;
0MEMO;0TELEPHONE RECEIVER;0PAGER;0FAX MACHINE;0SATELLITE ANTENNA;0PUBLIC ADDRESS LOUDSPEAKER;
0CHEERING MEGAPHONE;0OUTBOX TRAY;0aINBOX;0PACKAGE;0E-MAIL SYMBOL;0INCOMING ENVELOPE;
0ENVELOPE WITH DOWNWARDS ARROW ABOVE;0CLOSED MAILBOX WITH LOWERED FLAG;3aRAISED;0dOPEN;3aLOWERED;
0POSTBOX;0POSTAL HORN;0NEWSPAPER;0MOBILE PHONE;2WITH RIGHTWARDS ARROW AT LEFT;0VIBRATION MODE;
0MOBILE PHONE OFF;0NO MOBILE PHONES;0ANTENNA WITH BARS;0CAMERA;1WITH FLASH;0VIDEO CAMERA;
0TELEVISION;0RADIO;0VIDEOCASSETTE;0FILM PROJECTOR;0PORTABLE STEREO;0PRAYER BEADS;
0TWISTED RIGHTWARDS ARROWS;0aCLOCKWISE RIGHTWARDS AND LEFTWARDS OPEN CIRCLE;
7WITH CIRCLED ONE OVERLAY;1DOWNWARDS AND UPWARDS OPEN CIRCLE ARROWS;0fANTICLOCKWISE;
0LOW BRIGHTNESS SYMBOL;0bHIGH;0SPEAKER WITH CANCELLATION STROKE;1;1WITH ONE SOUND WAVE;
2THREE SOUND WAVES;0BATTERY;0ELECTRIC PLUG;0LEFT-POINTING MAGNIFYING GLASS;0bRIGHT-POINTING;
0LOCK WITH INK PEN;0CLOSED LOCK WITH KEY;0a;0LOCK;0aOPEN;0BELL;1WITH CANCELLATION STROKE;
0BOOKMARK;0LINK SYMBOL;0RADIO BUTTON;0BACK WITH LEFTWARDS ARROW ABOVE;0dEND;
0bON WITH EXCLAMATION MARK WITH LEFT RIGHT;0bSOON WITH RIGHTWARDS;0bTOP WITH UPWARDS;
0NO ONE UNDER EIGHTEEN SYMBOL;0KEYCAP TEN;0INPUT SYMBOL FOR LATIN CAPITAL LETTERS;~;3NUMBERS;
3SYMBOLS;3LATIN LETTERS;0FIRE;0ELECTRIC TORCH;0WRENCH;0HAMMER;0NUT AND BOLT;0HOCHO;0PISTOL;
0MICROSCOPE;0TELESCOPE;0CRYSTAL BALL;0SIX POINTED STAR WITH MIDDLE DOT;
0JAPANESE SYMBOL FOR BEGINNER;0TRIDENT EMBLEM;0BLACK SQUARE BUTTON;0bWHITE;0LARGE RED CIRCLE;
1aBLUE;1ORANGE DIAMOND;1aBLUE;0aSMALL ORANGE;1aBLUE;0UP-POINTING RED TRIANGLE;0bDOWN-POINTING;
0bUP-POINTING SMALL;0cDOWN-POINTING;0LOWER RIGHT SHADOWED WHITE CIRCLE;0dUPPER;
0CIRCLED CROSS POMMEE;0CROSS POMMEE WITH HALF-CIRCLE BELOW;2;
0NOTCHED LEFT SEMICIRCLE WITH THREE DOTS;1dRIGHT;0SYMBOL FOR MARKS CHAPTER;0WHITE LATIN CROSS;
0bHEAVY;0aCELTIC;0OM SYMBOL;0DOVE OF PEACE;0KAABA;0MOSQUE;0SYNAGOGUE;0MENORAH WITH NINE BRANCHES;
0BOWL OF HYGIEIA;0CLOCK FACE ONE OCLOCK;2aTWO;2aTHREE;2aFOUR;2aFIVE;2aSIX;2aSEVEN;2aEIGHT;2aNINE;
2aTEN;2aELEVEN;2aTWELVE;2ONE-THIRTY;2TWO-THIRTY;2THREE-THIRTY;2FOUR-THIRTY;2FIVE-THIRTY;
2SIX-THIRTY;2SEVEN-THIRTY;2EIGHT-THIRTY;2NINE-THIRTY;2TEN-THIRTY;2ELEVEN-THIRTY;2TWELVE-THIRTY;
0RIGHT SPEAKER;2WITH ONE SOUND WAVE;3THREE SOUND WAVES;0BULLHORN;1WITH SOUND WAVES;0RINGING BELL;
0BOOK;0CANDLE;0MANTELPIECE CLOCK;0BLACK SKULL AND CROSSBONES;0NO PIRACY;0HOLE;
0MAN IN BUSINESS SUIT LEVITATING;0SLEUTH OR SPY;0DARK SUNGLASSES;0SPIDER;1WEB;0JOYSTICK;
0MAN DANCING;0LEFT HAND TELEPHONE RECEIVER;0TELEPHONE RECEIVER WITH PAGE;
0RIGHT HAND TELEPHONE RECEIVER;0WHITE TOUCHTONE TELEPHONE;0bBLACK;0TELEPHONE ON TOP OF MODEM;
0CLAMSHELL MOBILE PHONE;0BACK OF ENVELOPE;0aSTAMPED;0ENVELOPE WITH LIGHTNING;0FLYING ENVELOPE;
0aPEN OVER STAMPED;0LINKED PAPERCLIPS;0BLACK PUSHPIN;0LOWER LEFT PENCIL;2BALLPOINT PEN;
2aFOUNTAIN;2PAINTBRUSH;2CRAYON;0LEFT WRITING HAND;0TURNED OK HAND SIGN;
0RAISED HAND WITH FINGERS SPLAYED;0eREVERSED;1THUMBS UP SIGN;2aDOWN;1VICTORY HAND;
1HAND WITH MIDDLE FINGER EXTENDED;0RAISED HAND WITH PART BETWEEN MIDDLE AND RING FINGERS;
0WHITE DOWN POINTING LEFT HAND INDEX;0aSIDEWAYS WHITE LEFT POINTING;2bRIGHT;1bBLACK LEFT;2bRIGHT;
0aBLACK LEFT POINTING BACKHAND;1cRIGHT;0aSIDEWAYS WHITE UP POINTING;2bDOWN;1bBLACK UP;2bDOWN;
0aBLACK UP POINTING BACKHAND;1cDOWN;1HEART;0DESKTOP COMPUTER;0KEYBOARD AND MOUSE;
0THREE NETWORKED COMPUTERS;0PRINTER;0POCKET CALCULATOR;0BLACK HARD SHELL FLOPPY DISK;0dWHITE;
0cSOFT;0TAPE CARTRIDGE;0WIRED KEYBOARD;0ONE BUTTON MOUSE;0bTWO;0bTHREE;0TRACKBALL;
0OLD PERSONAL COMPUTER;0HARD DISK;0SCREEN;0PRINTER ICON;0aFAX;0aOPTICAL DISC;0DOCUMENT WITH TEXT;
3AND PICTURE;2a;0bFRAME;2TILES;2AN X;0BLACK FOLDER;0a;0aOPEN;0CARD INDEX DIVIDERS;1FILE BOX;
0FILE CABINET;0EMPTY NOTE;2PAGE;2PAD;0NOTE;1PAGE;1PAD;0EMPTY DOCUMENT;1PAGE;1PAGES;0DOCUMENT;
0PAGE;0PAGES;0WASTEBASKET;0SPIRAL NOTE PAD;1aCALENDAR;0DESKTOP WINDOW;0MINIMIZE;0MAXIMIZE;
0OVERLAP;0CLOCKWISE RIGHT AND LEFT SEMICIRCLE ARROWS;0CANCELLATION X;0INCREASE FONT SIZE SYMBOL;
0cDECREASE;0COMPRESSION;0OLD KEY;0ROLLED-UP NEWSPAPER;0PAGE WITH CIRCLED TEXT;0STOCK CHART;
0DAGGER KNIFE;0LIPS;0SPEAKING HEAD IN SILHOUETTE;0THREE RAYS ABOVE;2BELOW;2LEFT;2RIGHT;
0LEFT SPEECH BUBBLE;0bRIGHT;0TWO SPEECH BUBBLES;0bTHREE;0LEFT THOUGHT BUBBLE;0bRIGHT;
0aLEFT ANGER;0bRIGHT;0aMOOD;0bLIGHTNING;2;0BALLOT BOX WITH BALLOT;1SCRIPT X;1bBOX WITH;1bBOLD;
1cBOX WITH;0LIGHT CHECK MARK;0BALLOT BOX WITH BOLD CHECK;0WORLD MAP;0MOUNT FUJI;0TOKYO TOWER;
0STATUE OF LIBERTY;0SILHOUETTE OF JAPAN;0MOYAI;0GRINNING FACE;2WITH SMILING EYES;
0FACE WITH TEARS OF JOY;0SMILING FACE WITH OPEN MOUTH;5AND SMILING EYES;6COLD SWEAT;
6TIGHTLY-CLOSED EYES;3HALO;3HORNS;0WINKING FACE;0SMILING FACE WITH SMILING EYES;
0FACE SAVOURING DELICIOUS FOOD;0RELIEVED FACE;0SMILING FACE WITH HEART-SHAPED EYES;3SUNGLASSES;
0SMIRKING FACE;0aNEUTRAL;0aEXPRESSIONLESS;0aUNAMUSED;0FACE WITH COLD SWEAT;0PENSIVE FACE;
0aCONFUSED;0aCONFOUNDED;0aKISSING;0FACE THROWING A KISS;0KISSING FACE WITH SMILING EYES;3aCLOSED;
0FACE WITH STUCK-OUT TONGUE;4AND WINKING EYE;5TIGHTLY-CLOSED EYES;0DISAPPOINTED FACE;0aWORRIED;
0aANGRY;0aPOUTING;0aCRYING;0aPERSEVERING;0FACE WITH LOOK OF TRIUMPH;
0DISAPPOINTED BUT RELIEVED FACE;0FROWNING FACE WITH OPEN MOUTH;0ANGUISHED FACE;0aFEARFUL;0aWEARY;
0aSLEEPY;0aTIRED;0aGRIMACING;0aLOUDLY CRYING;0FACE WITH OPEN MOUTH;0HUSHED FACE;
0FACE WITH OPEN MOUTH AND COLD SWEAT;1SCREAMING IN FEAR;0ASTONISHED FACE;0aFLUSHED;0aSLEEPING;
0aDIZZY;0FACE WITHOUT MOUTH;1WITH MEDICAL MASK;0GRINNING CAT FACE WITH SMILING EYES;
0CAT FACE WITH TEARS OF JOY;0SMILING CAT FACE WITH OPEN MOUTH;4HEART-SHAPED EYES;
0CAT FACE WITH WRY SMILE;0KISSING CAT FACE WITH CLOSED EYES;0POUTING CAT FACE;0bCRYING;0bWEARY;
0aSLIGHTLY FROWNING;1aSMILING;0aUPSIDE-DOWN;0FACE WITH ROLLING EYES;2NO GOOD GESTURE;2aOK;
0PERSON BOWING DEEPLY;0SEE-NO-EVIL MONKEY;0aHEAR-NO-EVIL;0aSPEAK-NO-EVIL;
0HAPPY PERSON RAISING ONE HAND;0PERSON RAISING BOTH HANDS IN CELEBRATION;1FROWNING;
1WITH POUTING FACE;2FOLDED HANDS;0NORTH WEST POINTING LEAF;0cSOUTH;0bNORTH EAST;0cSOUTH;
0bTURNED NORTH WEST;1cSOUTH;1bNORTH EAST;1cSOUTH;0aNORTH WEST POINTING VINE;0dSOUTH;0cNORTH EAST;
0dSOUTH;0cHEAVY NORTH WEST;1dSOUTH;1cNORTH EAST;1dSOUTH;0NORTH WEST POINTING BUD;0cSOUTH;
0bNORTH EAST;0cSOUTH;0bHEAVY NORTH WEST;1cSOUTH;1bNORTH EAST;1cSOUTH;
0HOLLOW QUILT SQUARE ORNAMENT;4IN BLACK SQUARE;0SOLID QUILT SQUARE ORNAMENT;4IN BLACK SQUARE;
0LEFTWARDS ROCKET;0aUPWARDS;0aRIGHTWARDS;0aDOWNWARDS;0SCRIPT LIGATURE ET ORNAMENT;0dHEAVY;
0bLIGATURE OPEN;0dHEAVY;1aAMPERSAND;0bSWASH;
0aSANS-SERIF HEAVY DOUBLE TURNED COMMA QUOTATION MARK;3d;2eLOW;0aHEAVY INTERROBANG;0bSANS-SERIF;
0cHEAVY;0VERY HEAVY SOLIDUS;2aREVERSE;0CHECKER BOARD;0bREVERSE;0ROCKET;0HELICOPTER;
0STEAM LOCOMOTIVE;0RAILWAY CAR;0HIGH-SPEED TRAIN;2WITH BULLET NOSE;0TRAIN;0METRO;0LIGHT RAIL;
0STATION;0TRAM;1CAR;0BUS;0aONCOMING;0TROLLEYBUS;0BUS STOP;0MINIBUS;0AMBULANCE;0FIRE ENGINE;
0POLICE CAR;0bONCOMING;0TAXI;0aONCOMING;0AUTOMOBILE;0aONCOMING;0RECREATIONAL VEHICLE;
0DELIVERY TRUCK;0ARTICULATED LORRY;0TRACTOR;0MONORAIL;0MOUNTAIN RAILWAY;0aSUSPENSION;
0MOUNTAIN CABLEWAY;0AERIAL TRAMWAY;0SHIP;0ROWBOAT;0SPEEDBOAT;0HORIZONTAL TRAFFIC LIGHT;
0bVERTICAL;0CONSTRUCTION SIGN;0POLICE CARS REVOLVING LIGHT;0TRIANGULAR FLAG ON POST;0DOOR;
0NO ENTRY SIGN;0SMOKING SYMBOL;0bNO;0aPUT LITTER IN ITS PLACE;0aDO NOT LITTER;0aPOTABLE WATER;
0bNON-POTABLE;0BICYCLE;0NO BICYCLES;0BICYCLIST;0aMOUNTAIN;0PEDESTRIAN;0NO PEDESTRIANS;
0CHILDREN CROSSING;0MENS SYMBOL;0aWOMENS;0RESTROOM;0BABY SYMBOL;0TOILET;0WATER CLOSET;0SHOWER;
0BATH;0BATHTUB;0PASSPORT CONTROL;0CUSTOMS;0BAGGAGE CLAIM;0LEFT LUGGAGE;
0TRIANGLE WITH ROUNDED CORNERS;0PROHIBITED SIGN;0CIRCLED INFORMATION SOURCE;0BOYS SYMBOL;0aGIRLS;
0COUCH AND LAMP;0SLEEPING ACCOMMODATION;0SHOPPING BAGS;0BELLHOP BELL;0BED;0PLACE OF WORSHIP;
0OCTAGONAL SIGN;0SHOPPING TROLLEY;0STUPA;0PAGODA;0HINDU TEMPLE;0HUT;0ELEVATOR;
1F6DD=0PLAYGROUND SLIDE;0WHEEL;0RING BUOY;0HAMMER AND WRENCH;0SHIELD;0OIL DRUM;0MOTORWAY;
0RAILWAY TRACK;0MOTOR BOAT;0UP-POINTING MILITARY AIRPLANE;1a;1aSMALL;0b;0aNORTHEAST-POINTING;
0AIRPLANE DEPARTURE;1ARRIVING;1F6F0=0SATELLITE;0ONCOMING FIRE ENGINE;0DIESEL LOCOMOTIVE;
0PASSENGER SHIP;0SCOOTER;0aMOTOR;0CANOE;0SLED;0FLYING SAUCER;0SKATEBOARD;0AUTO RICKSHAW;
0PICKUP TRUCK;0ROLLER SKATE;1F700=0ALCHEMICAL SYMBOL FOR QUINTESSENCE;3AIR;3FIRE;3EARTH;3WATER;
3AQUAFORTIS;3AQUA REGIA;4REGIA-2;4VITAE;4VITAE-2;3VINEGAR;3VINEGAR-2;+1;3SULFUR;3aPHILOSOPHERS;
3aBLACK;3MERCURY SUBLIMATE;4SUBLIMATE-2;+1;3CINNABAR;3SALT;3NITRE;3VITRIOL;3VITRIOL-2;3ROCK SALT;
4SALT-2;3GOLD;3SILVER;3IRON ORE;4ORE-2;3CROCUS OF IRON;3bREGULUS;3COPPER ORE;3aIRON-COPPER;
3SUBLIMATE OF COPPER;3bCROCUS;5COPPER-2;3COPPER ANTIMONIATE;3bSALT OF;
3SUBLIMATE OF SALT OF COPPER;3VERDIGRIS;3TIN ORE;3aLEAD;3aANTIMONY;3SUBLIMATE OF ANTIMONY;3bSALT;
3cSUBLIMATE OF;3bVINEGAR;3bREGULUS;5ANTIMONY-2;4;3REGULUS-2;+2;3ALKALI;3ALKALI-2;3MARCASITE;
3SAL-AMMONIAC;3ARSENIC;3REALGAR;3REALGAR-2;3AURIPIGMENT;3BISMUTH ORE;3TARTAR;3TARTAR-2;
3QUICK LIME;3BORAX;3BORAX-2;+1;3ALUM;3OIL;3SPIRIT;3TINCTURE;3GUM;3WAX;3POWDER;3CALX;3TUTTY;
3CAPUT MORTUUM;3SCEPTER OF JOVE;3CADUCEUS;3TRIDENT;3aSTARRED;3LODESTONE;3SOAP;3URINE;3HORSE DUNG;
3ASHES;3aPOT;3BRICK;3aPOWDERED;3AMALGAM;3STRATUM SUPER STRATUM;5STRATUM-2;3SUBLIMATION;
3PRECIPITATE;3DISTILL;3DISSOLVE;3DISSOLVE-2;3PURIFY;3PUTREFACTION;3CRUCIBLE;3CRUCIBLE-2;+3;
3ALEMBIC;3BATH OF MARY;5VAPOURS;3RETORT;3HOUR;3NIGHT;3DAY-NIGHT;3MONTH;3HALF DRAM;4OUNCE;
1F780=0BLACK LEFT-POINTING ISOSCELES RIGHT TRIANGLE;1cUP-POINTING;1cRIGHT-POINTING;
1cDOWN-POINTING;1SLIGHTLY SMALL CIRCLE;0aMEDIUM BOLD WHITE;0c;0bHEAVY;0cVERY;0cEXTREMELY;
0aWHITE CIRCLE CONTAINING BLACK SMALL;0ROUND TARGET;0BLACK TINY SQUARE;1aSLIGHTLY SMALL;
0aLIGHT WHITE;0bMEDIUM;0bBOLD;0bHEAVY;0cVERY;0cEXTREMELY;
0aWHITE SQUARE CONTAINING BLACK VERY SMALL;4aMEDIUM;0SQUARE TARGET;0BLACK TINY DIAMOND;
1aVERY SMALL;1bMEDIUM;0bWHITE DIAMOND CONTAINING BLACK VERY;4aMEDIUM;0DIAMOND TARGET;
0BLACK TINY LOZENGE;1aVERY SMALL;1bMEDIUM;0bWHITE LOZENGE CONTAINING BLACK;0THIN GREEK CROSS;
0bLIGHT;0bMEDIUM;0bBOLD;0cVERY;1bHEAVY;0cEXTREMELY;0THIN SALTIRE;0aLIGHT;0aMEDIUM;0aBOLD;0aHEAVY;
0bVERY;0bEXTREMELY;0LIGHT FIVE SPOKED ASTERISK;0cMEDIUM;0cBOLD;0cHEAVY;0dVERY;0dEXTREMELY;
0bLIGHT SIX;0cMEDIUM;0cBOLD;0cHEAVY;0dVERY;0dEXTREMELY;0bLIGHT EIGHT;0cMEDIUM;0cBOLD;0cHEAVY;
0dVERY;0LIGHT THREE POINTED BLACK STAR;0dMEDIUM;0d;0aMEDIUM THREE POINTED PINWHEEL;
0aLIGHT FOUR POINTED BLACK;0dMEDIUM;0d;0aMEDIUM FOUR POINTED PINWHEEL;0dREVERSE LIGHT;
0aLIGHT FIVE POINTED BLACK;0dHEAVY;0cMEDIUM SIX;0dHEAVY;0aSIX POINTED PINWHEEL;
0aMEDIUM EIGHT POINTED BLACK;0dHEAVY;0eVERY;0aHEAVY EIGHT POINTED PINWHEEL;
0aLIGHT TWELVE POINTED BLACK;0dHEAVY;3aPINWHEEL;0CIRCLED TRIANGLE;0bNEGATIVE;0CIRCLED SQUARE;
0bNEGATIVE;1F7E0=0LARGE ORANGE CIRCLE;1aYELLOW;1aGREEN;1aPURPLE;1aBROWN;1RED SQUARE;1aBLUE;
1aORANGE;1aYELLOW;1aGREEN;1aPURPLE;1aBROWN;1F7F0=0HEAVY EQUALS SIGN;
1F800=0LEFTWARDS ARROW WITH SMALL TRIANGLE ARROWHEAD;0eUPWARDS;0eRIGHTWARDS;0eDOWNWARDS;
0bLEFTWARDS ARROW WITH MEDIUM;0eUPWARDS;0eRIGHTWARDS;0eDOWNWARDS;0bLEFTWARDS ARROW WITH LARGE;
0eUPWARDS;0eRIGHTWARDS;0eDOWNWARDS;1F810=0aLEFTWARDS ARROW WITH SMALL EQUILATERAL;0eUPWARDS;
0eRIGHTWARDS;0eDOWNWARDS;0bLEFTWARDS ARROW WITH;0dUPWARDS;0dRIGHTWARDS;0dDOWNWARDS;
0dHEAVY LEFTWARDS;1dUPWARDS;1dRIGHTWARDS;1dDOWNWARDS;1bLEFTWARDS ARROW WITH LARGE;1eUPWARDS;
1eRIGHTWARDS;1eDOWNWARDS;0LEFTWARDS TRIANGLE-HEADED ARROW WITH NARROW SHAFT;0eUPWARDS;
0eRIGHTWARDS;0eDOWNWARDS;0aLEFTWARDS TRIANGLE-HEADED ARROW WITH MEDIUM;0eUPWARDS;0eRIGHTWARDS;
0eDOWNWARDS;0aLEFTWARDS TRIANGLE-HEADED ARROW WITH BOLD;0eUPWARDS;0eRIGHTWARDS;0eDOWNWARDS;
0aLEFTWARDS TRIANGLE-HEADED ARROW WITH HEAVY;0eUPWARDS;0eRIGHTWARDS;0eDOWNWARDS;
0bLEFTWARDS TRIANGLE-HEADED ARROW WITH VERY;0fUPWARDS;0fRIGHTWARDS;0fDOWNWARDS;
0LEFTWARDS FINGER-POST ARROW;0bUPWARDS;0bRIGHTWARDS;0bDOWNWARDS;0aLEFTWARDS SQUARED;0bUPWARDS;
0bRIGHTWARDS;0bDOWNWARDS;0aLEFTWARDS COMPRESSED;0bUPWARDS;0bRIGHTWARDS;0bDOWNWARDS;
0bLEFTWARDS HEAVY;0cUPWARDS;0cRIGHTWARDS;0cDOWNWARDS;0aLEFTWARDS HEAVY;0bUPWARDS;0bRIGHTWARDS;
0bDOWNWARDS;1F850=0aLEFTWARDS SANS-SERIF;0bUPWARDS;0bRIGHTWARDS;0bDOWNWARDS;0bNORTH WEST;1bEAST;
0cSOUTH;1bWEST;0bLEFT RIGHT;0bUP DOWN;1F860=0aWIDE-HEADED LEFTWARDS LIGHT BARB;1cUPWARDS;
1cRIGHTWARDS;1cDOWNWARDS;1cNORTH WEST;2cEAST;1dSOUTH;2cWEST;1bLEFTWARDS;1bUPWARDS;1bRIGHTWARDS;
1bDOWNWARDS;1bNORTH WEST;2bEAST;1cSOUTH;2bWEST;1bLEFTWARDS MEDIUM;1cUPWARDS;1cRIGHTWARDS;
1cDOWNWARDS;1cNORTH WEST;2cEAST;1dSOUTH;2cWEST;1bLEFTWARDS HEAVY;1cUPWARDS;1cRIGHTWARDS;
1cDOWNWARDS;1cNORTH WEST;2cEAST;1dSOUTH;2cWEST;1cLEFTWARDS VERY;1dUPWARDS;1dRIGHTWARDS;
1dDOWNWARDS;1dNORTH WEST;2dEAST;1eSOUTH;2dWEST;1F890=0LEFTWARDS TRIANGLE ARROWHEAD;0bUPWARDS;
0bRIGHTWARDS;0bDOWNWARDS;0bLEFTWARDS WHITE ARROW WITHIN;0eUPWARDS;0eRIGHTWARDS;0eDOWNWARDS;
0LEFTWARDS ARROW WITH NOTCHED TAIL;0dUPWARDS;0dRIGHTWARDS;0dDOWNWARDS;
0HEAVY ARROW SHAFT WIDTH ONE;4TWO THIRDS;4ONE HALF;5THIRD;0LEFTWARDS BOTTOM-SHADED WHITE ARROW;
0bRIGHTWARDS BOTTOM SHADED;0cLEFTWARDS TOP;0dRIGHTWARDS;0bLEFTWARDS LEFT-SHADED;
0bRIGHTWARDS RIGHT-SHADED;0cLEFTWARDS;0bRIGHTWARDS LEFT-SHADED;0bLEFTWARDS BACK-TILTED SHADOWED;
0dRIGHTWARDS;0cLEFTWARDS FRONT-TILTED;0dRIGHTWARDS;0WHITE ARROW SHAFT WIDTH ONE;4TWO THIRDS;
1F8B0=0ARROW POINTING UPWARDS THEN NORTH WEST;2aRIGHTWARDS THEN CURVING SOUTH;
1F900=0CIRCLED CROSS FORMEE WITH FOUR DOTS;4aTWO;3;0LEFT HALF CIRCLE WITH FOUR DOTS;4aTHREE;
4aTWO;4DOT;3;0DOWNWARD FACING HOOK;2aNOTCHED;2HOOK WITH DOT;2cNOTCHED;0PINCHED FINGERS;
0WHITE HEART;0aBROWN;0PINCHING HAND;0ZIPPER-MOUTH FACE;0aMONEY-MOUTH;0FACE WITH THERMOMETER;
0NERD FACE;0aTHINKING;0FACE WITH HEAD-BANDAGE;0ROBOT FACE;0aHUGGING;0SIGN OF THE HORNS;
0CALL ME HAND;0aRAISED BACK OF;0LEFT-FACING FIST;0aRIGHT-FACING;0HANDSHAKE;
0HAND WITH INDEX AND MIDDLE FINGERS CROSSED;0I LOVE YOU HAND SIGN;0FACE WITH COWBOY HAT;
0CLOWN FACE;0aNAUSEATED;0ROLLING ON THE FLOOR LAUGHING;0DROOLING FACE;0aLYING;0FACE PALM;
0SNEEZING FACE;0FACE WITH ONE EYEBROW RAISED;0GRINNING FACE WITH STAR EYES;
3ONE LARGE AND ONE SMALL EYE;0FACE WITH FINGER COVERING CLOSED LIPS;
0SERIOUS FACE WITH SYMBOLS COVERING MOUTH;0bSMILING FACE WITH SMILING EYES AND HAND;
0FACE WITH OPEN MOUTH VOMITING;0SHOCKED FACE WITH EXPLODING HEAD;0PREGNANT WOMAN;0BREAST-FEEDING;
0PALMS UP TOGETHER;0SELFIE;0PRINCE;0MAN IN TUXEDO;0MOTHER CHRISTMAS;0SHRUG;
0PERSON DOING CARTWHEEL;0JUGGLING;0FENCER;0MODERN PENTATHLON;0WRESTLERS;0WATER POLO;0HANDBALL;
0DIVING MASK;0WILTED FLOWER;0DRUM WITH DRUMSTICKS;0CLINKING GLASSES;0TUMBLER GLASS;0SPOON;
0GOAL NET;0RIFLE;0FIRST PLACE MEDAL;0bSECOND;0bTHIRD;0BOXING GLOVE;0MARTIAL ARTS UNIFORM;
0CURLING STONE;0LACROSSE STICK AND BALL;0SOFTBALL;0FLYING DISC;0CROISSANT;0AVOCADO;0CUCUMBER;
0BACON;0POTATO;0CARROT;0BAGUETTE BREAD;0GREEN SALAD;0SHALLOW PAN OF FOOD;0STUFFED FLATBREAD;0EGG;
0GLASS OF MILK;0PEANUTS;0KIWIFRUIT;0PANCAKES;0DUMPLING;0FORTUNE COOKIE;0TAKEOUT BOX;0CHOPSTICKS;
0BOWL WITH SPOON;0CUP WITH STRAW;0COCONUT;0BROCCOLI;0PIE;0PRETZEL;0CUT OF MEAT;0SANDWICH;
0CANNED FOOD;0LEAFY GREEN;0MANGO;0MOON CAKE;0BAGEL;
0SMILING FACE WITH SMILING EYES AND THREE HEARTS;0YAWNING FACE;0SMILING FACE WITH TEAR;
0FACE WITH PARTY HORN AND PARTY HAT;2UNEVEN EYES AND WAVY MOUTH;0OVERHEATED FACE;0aFREEZING;
0NINJA;0DISGUISED FACE;0FACE HOLDING BACK TEARS;1WITH PLEADING EYES;0SARI;0LAB COAT;0GOGGLES;
0HIKING BOOT;0FLAT SHOE;0CRAB;0LION FACE;0SCORPION;0TURKEY;0UNICORN FACE;0EAGLE;0DUCK;0BAT;
0SHARK;0OWL;0FOX FACE;0BUTTERFLY;0DEER;0GORILLA;0LIZARD;0RHINOCEROS;0SHRIMP;0SQUID;0GIRAFFE FACE;
0aZEBRA;0HEDGEHOG;0SAUROPOD;0T-REX;0CRICKET;0KANGAROO;0LLAMA;0PEACOCK;0HIPPOPOTAMUS;0PARROT;
0RACCOON;0LOBSTER;0MOSQUITO;0MICROBE;0BADGER;0SWAN;0MAMMOTH;0DODO;0SLOTH;0OTTER;0ORANGUTAN;
0SKUNK;0FLAMINGO;0OYSTER;0BEAVER;0BISON;0SEAL;0GUIDE DOG;0PROBING CANE;0EMOJI COMPONENT RED HAIR;
2aCURLY;2BALD;2WHITE HAIR;0BONE;0LEG;0FOOT;0TOOTH;0SUPERHERO;0SUPERVILLAIN;0SAFETY VEST;
0EAR WITH HEARING AID;0MOTORIZED WHEELCHAIR;0aMANUAL;0MECHANICAL ARM;1LEG;0CHEESE WEDGE;0CUPCAKE;
0SALT SHAKER;0BEVERAGE BOX;0GARLIC;0ONION;0FALAFEL;0WAFFLE;0BUTTER;0MATE DRINK;0ICE CUBE;
0BUBBLE TEA;0TROLL;0STANDING PERSON;0aKNEELING;0aDEAF;0FACE WITH MONOCLE;0ADULT;0CHILD;
0OLDER ADULT;0BEARDED PERSON;0PERSON WITH HEADSCARF;1IN STEAMY ROOM;1CLIMBING;1IN LOTUS POSITION;
0MAGE;0FAIRY;0VAMPIRE;0MERPERSON;0ELF;0GENIE;0ZOMBIE;0BRAIN;0ORANGE HEART;0BILLED CAP;0SCARF;
0GLOVES;0COAT;0SOCKS;0RED GIFT ENVELOPE;0FIRECRACKER;0JIGSAW PUZZLE PIECE;0TEST TUBE;0PETRI DISH;
0DNA DOUBLE HELIX;0COMPASS;0ABACUS;0FIRE EXTINGUISHER;0TOOLBOX;0BRICK;0MAGNET;0LUGGAGE;
0LOTION BOTTLE;0SPOOL OF THREAD;0BALL OF YARN;0SAFETY PIN;0TEDDY BEAR;0BROOM;0BASKET;
0ROLL OF PAPER;0BAR OF SOAP;0SPONGE;0RECEIPT;0NAZAR AMULET;0NEUTRAL CHESS KING;2QUEEN;2ROOK;
2BISHOP;2KNIGHT;2PAWN;0WHITE CHESS KNIGHT ROTATED FORTY-FIVE DEGREES;0eBLACK;0eNEUTRAL;
0aWHITE CHESS KING ROTATED NINETY;2cQUEEN;2cROOK;2cBISHOP;2cKNIGHT;2cPAWN;0cBLACK CHESS KING;
2cQUEEN;2cROOK;2cBISHOP;2cKNIGHT;2cPAWN;0cNEUTRAL CHESS KING;2cQUEEN;2cROOK;2cBISHOP;2cKNIGHT;
2cPAWN;0aWHITE CHESS KNIGHT ROTATED ONE HUNDRED THIRTY-FIVE;0gBLACK;0gNEUTRAL;
0WHITE CHESS TURNED KING;3QUEEN;3ROOK;3BISHOP;3KNIGHT;3PAWN;0BLACK CHESS TURNED KING;3QUEEN;
3ROOK;3BISHOP;3KNIGHT;3PAWN;0NEUTRAL CHESS TURNED KING;3QUEEN;3ROOK;3BISHOP;3KNIGHT;3PAWN;
0WHITE CHESS KNIGHT ROTATED TWO HUNDRED TWENTY-FIVE DEGREES;0gBLACK;0gNEUTRAL;
0aWHITE CHESS KING ROTATED TWO HUNDRED SEVENTY;2eQUEEN;2eROOK;2eBISHOP;2eKNIGHT;2ePAWN;
0eBLACK CHESS KING;2eQUEEN;2eROOK;2eBISHOP;2eKNIGHT;2ePAWN;0eNEUTRAL CHESS KING;2eQUEEN;2eROOK;
2eBISHOP;2eKNIGHT;2ePAWN;0aWHITE CHESS KNIGHT ROTATED THREE HUNDRED FIFTEEN;0gBLACK;0gNEUTRAL;
0WHITE CHESS EQUIHOPPER;0bBLACK;0bNEUTRAL;0WHITE CHESS EQUIHOPPER ROTATED NINETY DEGREES;0eBLACK;
0eNEUTRAL;0WHITE CHESS KNIGHT-QUEEN;2KNIGHT-ROOK;2KNIGHT-BISHOP;0BLACK CHESS KNIGHT-QUEEN;
2KNIGHT-ROOK;2KNIGHT-BISHOP;1FA60=0XIANGQI RED GENERAL;2MANDARIN;2ELEPHANT;2HORSE;2CHARIOT;
2CANNON;2SOLDIER;1BLACK GENERAL;2MANDARIN;2ELEPHANT;2HORSE;2CHARIOT;2CANNON;2SOLDIER;
1FA70=0BALLET SHOES;0ONE-PIECE SWIMSUIT;0BRIEFS;0SHORTS;0THONG SANDAL;1FA78=0DROP OF BLOOD;
0ADHESIVE BANDAGE;0STETHOSCOPE;0X-RAY;0CRUTCH;1FA80=0YO-YO;0KITE;0PARACHUTE;0BOOMERANG;
0MAGIC WAND;0PINATA;0NESTING DOLLS;1FA90=0RINGED PLANET;0CHAIR;0RAZOR;0AXE;0DIYA LAMP;0BANJO;
0MILITARY HELMET;0ACCORDION;0LONG DRUM;0COIN;0CARPENTRY SAW;0SCREWDRIVER;0LADDER;0HOOK;0MIRROR;
0WINDOW;0PLUNGER;0SEWING NEEDLE;0KNOT;0BUCKET;0MOUSE TRAP;0TOOTHBRUSH;0HEADSTONE;0PLACARD;0ROCK;
0MIRROR BALL;0IDENTIFICATION CARD;0LOW BATTERY;0HAMSA;1FAB0=0FLY;0WORM;0BEETLE;0COCKROACH;
0POTTED PLANT;0WOOD;0FEATHER;0LOTUS;0CORAL;0EMPTY NEST;0NEST WITH EGGS;1FAC0=0ANATOMICAL HEART;
0LUNGS;0PEOPLE HUGGING;0PREGNANT MAN;1PERSON;0PERSON WITH CROWN;1FAD0=0BLUEBERRIES;0BELL PEPPER;
0OLIVE;0FLATBREAD;0TAMALE;0FONDUE;0TEAPOT;0POURING LIQUID;0BEANS;0JAR;1FAE0=0MELTING FACE;
0aSALUTING;0FACE WITH OPEN EYES AND HAND OVER MOUTH;2PEEKING EYE;2DIAGONAL MOUTH;
0DOTTED LINE FACE;0BITING LIP;0BUBBLES;1FAF0=0HAND WITH INDEX FINGER AND THUMB CROSSED;
0RIGHTWARDS HAND;0aLEFTWARDS;0aPALM DOWN;1aUP;0INDEX POINTING AT THE VIEWER;0HEART HANDS;
1FB00=0BLOCK SEXTANT-1;+1;1SEXTANT-12;1SEXTANT-3;1SEXTANT-13;1SEXTANT-23;1SEXTANT-123;1SEXTANT-4;
1SEXTANT-14;1SEXTANT-24;1SEXTANT-124;1SEXTANT-34;1SEXTANT-134;1SEXTANT-234;1SEXTANT-1234;
1SEXTANT-5;1SEXTANT-15;1SEXTANT-25;1SEXTANT-125;1SEXTANT-35;1SEXTANT-235;1SEXTANT-1235;
1SEXTANT-45;1SEXTANT-145;1SEXTANT-245;1SEXTANT-1245;1SEXTANT-345;1SEXTANT-1345;1SEXTANT-2345;
1SEXTANT-12345;1SEXTANT-6;1SEXTANT-16;1SEXTANT-26;1SEXTANT-126;1SEXTANT-36;1SEXTANT-136;
1SEXTANT-236;1SEXTANT-1236;1SEXTANT-46;1SEXTANT-146;1SEXTANT-1246;1SEXTANT-346;1SEXTANT-1346;
1SEXTANT-2346;1SEXTANT-12346;1SEXTANT-56;1SEXTANT-156;1SEXTANT-256;1SEXTANT-1256;1SEXTANT-356;
1SEXTANT-1356;1SEXTANT-2356;1SEXTANT-12356;1SEXTANT-456;1SEXTANT-1456;1SEXTANT-2456;
1SEXTANT-12456;1SEXTANT-3456;1SEXTANT-13456;1SEXTANT-23456;
0LOWER LEFT BLOCK DIAGONAL LOWER MIDDLE LEFT TO LOWER CENTRE;9RIGHT;
4UPPER MIDDLE LEFT TO LOWER CENTRE;9RIGHT;5LEFT TO LOWER CENTRE;
1aRIGHT BLOCK DIAGONAL UPPER MIDDLE LEFT TO UPPER;9RIGHT;4LOWER MIDDLE LEFT TO UPPER CENTRE;
9RIGHT;5LEFT TO UPPER CENTRE;5MIDDLE LEFT TO UPPER MIDDLE RIGHT;5bCENTRE TO LOWER;5dLEFT;
5bCENTRE TO UPPER;5dLEFT;5aCENTRE TO UPPER;1aLEFT BLOCK DIAGONAL UPPER CENTRE TO UPPER MIDDLE;
5dLEFT;5bCENTRE TO LOWER;5dLEFT;5aCENTRE TO LOWER;5aMIDDLE LEFT TO LOWER MIDDLE;
0UPPER RIGHT BLOCK DIAGONAL LOWER MIDDLE LEFT TO LOWER CENTRE;9RIGHT;
4UPPER MIDDLE LEFT TO LOWER CENTRE;9RIGHT;5LEFT TO LOWER CENTRE;
1aLEFT BLOCK DIAGONAL UPPER MIDDLE LEFT TO UPPER;9RIGHT;4LOWER MIDDLE LEFT TO UPPER CENTRE;
9RIGHT;5LEFT TO UPPER CENTRE;5MIDDLE LEFT TO UPPER MIDDLE RIGHT;5bCENTRE TO LOWER;5dLEFT;
5bCENTRE TO UPPER;5dLEFT;5aCENTRE TO UPPER;1aRIGHT BLOCK DIAGONAL UPPER CENTRE TO UPPER MIDDLE;
5dLEFT;5bCENTRE TO LOWER;5dLEFT;5aCENTRE TO LOWER;5aMIDDLE LEFT TO LOWER MIDDLE;
1AND RIGHT AND LOWER TRIANGULAR THREE QUARTERS BLOCK;0dLEFT AND LOWER AND RIGHT;
0dUPPER AND LEFT AND LOWER;0dLEFT AND UPPER AND RIGHT;1aTRIANGULAR ONE QUARTER;0dUPPER;0dRIGHT;
0dLOWER;0VERTICAL ONE EIGHTH BLOCK-2;+5;0HORIZONTAL ONE EIGHTH BLOCK-2;+5;
0LEFT AND LOWER ONE EIGHTH BLOCK;2cUPPER;0eRIGHT;2cLOWER;0eUPPER;
0HORIZONTAL ONE EIGHTH BLOCK-1358;0UPPER ONE QUARTER BLOCK;1aTHREE EIGHTHS;1bFIVE;
1aTHREE QUARTERS;1aSEVEN EIGHTHS;0aRIGHT ONE QUARTER;1aTHREE EIGHTHS;1bFIVE;1aTHREE QUARTERS;
1aSEVEN EIGHTHS;0LEFT HALF MEDIUM SHADE;0cRIGHT;0cUPPER;0cLOWER;0bINVERSE;
0cUPPER HALF BLOCK AND LOWER HALF;2INVERSE MEDIUM SHADE AND LOWER HALF BLOCK;
1FB94=0bLEFT HALF INVERSE MEDIUM SHADE AND RIGHT;0CHECKER BOARD FILL;0cINVERSE;
0aHEAVY HORIZONTAL;0aUPPER LEFT TO LOWER RIGHT;1aRIGHT TO LOWER LEFT;
1AND LOWER TRIANGULAR HALF BLOCK;0cLEFT AND RIGHT;0UPPER LEFT TRIANGULAR MEDIUM SHADE;1cRIGHT;
0dLOWER;1cLEFT;0BOX DRAWINGS LIGHT DIAGONAL UPPER CENTRE TO MIDDLE LEFT;8RIGHT;
4MIDDLE LEFT TO LOWER CENTRE;5cRIGHT;4cUPPER CENTRE TO MIDDLE LEFT;8cRIGHT;
4MIDDLE LEFT TO LOWER CENTRE TO MIDDLE RIGHT;7dUPPER;
4UPPER CENTRE TO MIDDLE LEFT AND MIDDLE RIGHT TO LOWER CENTRE;8cRIGHT AND MIDDLE LEFT;
9TO LOWER CENTRE TO MIDDLE LEFT;8LEFT TO LOWER CENTRE TO MIDDLE RIGHT;
4MIDDLE LEFT TO UPPER CENTRE TO MIDDLE RIGHT TO LOWER CENTRE;
5cRIGHT TO UPPER CENTRE TO MIDDLE LEFT;4DIAMOND;3HORIZONTAL WITH VERTICAL STROKE;
0ARROWHEAD-SHAPED POINTER;0INVERSE CHECK MARK;0LEFT HALF RUNNING MAN;0cRIGHT;
0INVERSE DOWNWARDS ARROW WITH TIP LEFTWARDS;
0LEFTWARDS ARROW AND UPPER AND LOWER ONE EIGHTH BLOCK;0hRIGHTWARDS;0cDOWNWARDS ARROW AND RIGHT;
0fUPWARDS;0LEFT HALF FOLDER;0bRIGHT;0VOIDED GREEK CROSS;0RIGHT OPEN SQUARED DOT;
0NEGATIVE DIAGONAL CROSS;2MIDDLE RIGHT TO LOWER CENTRE;2DIAMOND;
0WHITE HEAVY SALTIRE WITH ROUNDED CORNERS;0LEFT THIRD WHITE RIGHT POINTING INDEX;0eMIDDLE;
0eRIGHT;0NEGATIVE SQUARED QUESTION MARK;0STICK FIGURE;2WITH ARMS RAISED;2LEANING LEFT;3RIGHT;
2WITH DRESS;0WHITE UP-POINTING CHEVRON;1FBF0=0SEGMENTED DIGIT ZERO;2ONE;2TWO;2THREE;2FOUR;2FIVE;
2SIX;2SEVEN;2EIGHT;2NINE;2F800=0CJK COMPATIBILITY IDEOGRAPH-#;+541;E0001=0LANGUAGE TAG;
E0020=0TAG SPACE;1EXCLAMATION MARK;1aQUOTATION;1NUMBER SIGN;1aDOLLAR;1aPERCENT;1AMPERSAND;
1APOSTROPHE;1LEFT PARENTHESIS;1aRIGHT;1ASTERISK;1PLUS SIGN;1COMMA;1HYPHEN-MINUS;1FULL STOP;
1SOLIDUS;1DIGIT ZERO;2ONE;2TWO;2THREE;2FOUR;2FIVE;2SIX;2SEVEN;2EIGHT;2NINE;1COLON;1SEMICOLON;
1LESS-THAN SIGN;1aEQUALS;1aGREATER-THAN;1QUESTION MARK;1COMMERCIAL AT;1LATIN CAPITAL LETTER A;4B;
4C;4D;4E;4F;4G;4H;4I;4J;4K;4L;4M;4N;4O;4P;4Q;4R;4S;4T;4U;4V;4W;4X;4Y;4Z;1LEFT SQUARE BRACKET;
1REVERSE SOLIDUS;1RIGHT SQUARE BRACKET;1CIRCUMFLEX ACCENT;1LOW LINE;1GRAVE ACCENT;
1LATIN SMALL LETTER A;4B;4C;4D;4E;4F;4G;4H;4I;4J;4K;4L;4M;4N;4O;4P;4Q;4R;4S;4T;4U;4V;4W;4X;4Y;4Z;
1LEFT CURLY BRACKET;1VERTICAL LINE;1RIGHT CURLY BRACKET;1TILDE;0CANCEL TAG;
E0100=0VARIATION SELECTOR-17;+239"

end RouteDoc.Chars
